import SqlDialects.Converter

/-!
# Failures of rendering

What a dialect cannot express, and what a description asks for in vain.
-/

namespace SqlDialects

inductive Feature where
  | limit
  | offset
  | offsetWithoutLimit
  | createIfNotExists
  | generatedIds
  | generatedIdSequences
  | generatedIdOfType (sqlType : SqlType)
deriving DecidableEq, Repr

def Feature.description : Feature → String
  | .limit => "LIMIT"
  | .offset => "OFFSET"
  | .offsetWithoutLimit => "OFFSET without LIMIT"
  | .createIfNotExists => "CREATE TABLE IF NOT EXISTS"
  | .generatedIds => "Generated ids"
  | .generatedIdSequences => "Generated id sequences"
  | .generatedIdOfType sqlType => "Generated id of type " ++ sqlType.name

inductive RenderError where
  | unsupported (dialect : String) (feature : Feature)
  | malformedDefault (fault : DefaultFault)
  | unencodableDefault (fault : Text.EncodingFault)
  | noDefault
  | unwritableInteger
deriving DecidableEq, Repr

def RenderError.ofDefault : DefaultError → RenderError
  | .malformed fault => .malformedDefault fault
  | .unencodable fault => .unencodableDefault fault

def RenderError.message : RenderError → Text.Points
  | .unsupported dialect feature =>
    .ofString (feature.description ++ " is not supported by the '" ++ dialect ++ "' dialect")
  | .malformedDefault fault => fault.message
  | .unencodableDefault fault => fault.message
  | .noDefault => ""
  | .unwritableInteger => Number.unwritableMessage

def renderInteger (number : Int) : Except RenderError String :=
  if Number.isWritable number then .ok (Number.integerText number)
  else .error .unwritableInteger

end SqlDialects
