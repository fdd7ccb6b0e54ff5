import SqlDialects.Service.Message

/-!
# The limit on request bodies

A body may have a limited number of bytes, which depends on the path.  The length
that a request declares is looked at first, then the bytes are counted as they
arrive, so that no more than the limit is ever kept.
-/

namespace SqlDialects.Service

def schemaPath : String := "/ddl/schema"

def schemaBodyLimit : Nat := 2 * 1024 * 1024

def usualBodyLimit : Nat := 256 * 1024

/-- The part of a path that counts in a URL: it ends before a query or a fragment
and has no tabs and no line ends. -/
def urlPath (path : String) : String :=
  String.ofList ((path.toList.takeWhile fun c => c != '?' && c != '#').filter fun c =>
    c != '\t' && c != '\r' && c != '\n')

def bodyLimit (path : String) : Nat :=
  if (urlPath path).endsWith schemaPath then schemaBodyLimit else usualBodyLimit

def readsBody (method : String) : Bool :=
  method == "POST" || method == "PUT" || method == "PATCH"

structure BodyBuffer where
  chunks : List (List UInt8) := []
  size : Nat := 0
deriving DecidableEq, Repr

def BodyBuffer.push? (limit : Nat) (chunk : List UInt8) (buffer : BodyBuffer) :
    Option BodyBuffer :=
  let size := buffer.size + chunk.length
  if limit < size then none else some ⟨chunk :: buffer.chunks, size⟩

def BodyBuffer.bytes (buffer : BodyBuffer) : List UInt8 :=
  buffer.chunks.reverse.flatten

def collectBody (limit : Nat) (buffer : BodyBuffer) : List (List UInt8) → Option BodyBuffer
  | [] => some buffer
  | chunk :: chunks =>
    match buffer.push? limit chunk with
    | some buffer => collectBody limit buffer chunks
    | none => none

inductive Admission where
  | admitted (body : List UInt8)
  | tooLarge (limit : Nat)
  | unreadableLength (fault : Number.IntegerFault) (text : String)
deriving DecidableEq, Repr

def declaredLength? (request : Request) : Except (Number.IntegerFault × String) (Option Int) :=
  match request.header? "content-length" with
  | none => .ok none
  | some text => ((Number.readInteger .ten text).mapError (·, text)).map some

/-- Admits the body of a request.  The bytes of a body that is not read are not counted. -/
def admission (request : Request) : Admission :=
  let limit := bodyLimit request.path
  match declaredLength? request with
  | .error (fault, text) => .unreadableLength fault text
  | .ok declared =>
    if declared.any fun length => decide ((limit : Int) < length) then .tooLarge limit
    else if !readsBody request.method then .admitted request.chunks.flatten
    else match collectBody limit {} request.chunks with
      | some buffer => .admitted buffer.bytes
      | none => .tooLarge limit

def bodyLimitMessage (limit : Nat) : String :=
  "Request body too large (max " ++ Number.natText (limit / 1024) ++ " KB)"

end SqlDialects.Service
