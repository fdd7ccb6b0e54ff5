import SqlDialects.Text.Quoted
import SqlDialects.Text.Utf8
import SqlDialects.Number.Integer
import SqlDialects.Value

/-!
# Requests and responses

A request arrives with its path already decoded and its body in chunks.  A
response carries a JSON value or nothing.
-/

namespace SqlDialects.Service

structure Request where
  method : String
  path : String
  query : String
  host : String
  headers : List (String × String)
  chunks : List (List UInt8)
deriving DecidableEq, Repr

def Request.header? (name : String) (request : Request) : Option String :=
  (request.headers.find? fun header => header.1.toLower == name).map Prod.snd

structure Response where
  status : Nat
  headers : List (String × String) := []
  body : Option Value := none

def Response.refusing (status : Nat) (detail : Value) : Response where
  status := status
  body := some (.record [("detail", detail)])

def Response.withHeader (name value : String) (response : Response) : Response :=
  { response with headers := response.headers ++ [(name, value)] }

/-! ## Paths -/

/-- The bytes of a path whose bytes may be written as two hexadecimal digits after
a percent sign. -/
def percentDecodedBytes : List Char → List UInt8
  | '%' :: high :: low :: rest =>
    match Number.hexDigit? high, Number.hexDigit? low with
    | some high, some low => UInt8.ofNat (high * 16 + low) :: percentDecodedBytes rest
    | _, _ => 37 :: percentDecodedBytes (high :: low :: rest)
  | c :: rest => Text.encodeUtf8 (String.singleton c) ++ percentDecodedBytes rest
  | [] => []

def percentDecoded (path : String) : String :=
  let bytes := percentDecodedBytes path.toList
  Text.decodeUtf8Leniently (bytes.length + 1) bytes

def splitTarget (target : String) : String × String :=
  match target.toList.span (· != '?') with
  | (path, _ :: query) => (percentDecoded (String.ofList path), String.ofList query)
  | (path, []) => (percentDecoded (String.ofList path), "")

def isUrlChar (c : Char) : Bool :=
  c.isAlphanum || ":/%#?=@[]!$&'()*+,;_.-~".toList.contains c

def percentEncoded (text : String) : String :=
  String.ofList (text.toList.flatMap fun c =>
    if isUrlChar c then [c]
    else (Text.encodeUtf8 (String.singleton c)).flatMap fun byte =>
      '%' :: (Text.hexDigits 2 byte.toNat).map Char.toUpper)

def Request.urlOf (path : String) (request : Request) : String :=
  percentEncoded ("http://" ++ request.host ++ path
    ++ if request.query.isEmpty then "" else "?" ++ request.query)

end SqlDialects.Service
