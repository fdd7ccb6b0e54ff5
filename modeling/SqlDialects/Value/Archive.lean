import SqlDialects.Value

/-!
# Archived bytes

The bytes that a value is archived to: a program for a stack machine, after a
header and, if it is not tiny, framed by its length.  Numbers, texts, bytes,
lists and mappings have such a form here.  Running the program gives the value
back.
-/

namespace SqlDialects.Archive

def littleEndian : (count number : Nat) → List UInt8
  | 0, _ => []
  | count + 1, number => UInt8.ofNat (number % 256) :: littleEndian count (number / 256)

def signedWidth : (fuel width : Nat) → Int → Nat
  | 0, width, _ => width
  | fuel + 1, width, number =>
    let bound : Int := Nat.pow 2 (8 * width - 1)
    if -bound ≤ number ∧ number < bound then width else signedWidth fuel (width + 1) number

def integerProgram (number : Int) : List UInt8 :=
  if 0 ≤ number ∧ number < 256 then [0x4b, UInt8.ofNat number.toNat]
  else if 0 ≤ number ∧ number < 65536 then 0x4d :: littleEndian 2 number.toNat
  else if -2147483648 ≤ number ∧ number < 2147483648 then
    0x4a :: littleEndian 4 (number % 4294967296).toNat
  else
    let width := signedWidth (number.natAbs.log2 / 8 + 2) 1 number
    let payload := littleEndian width (number % (Nat.pow 2 (8 * width) : Nat)).toNat
    if width < 256 then 0x8a :: UInt8.ofNat width :: payload
    else 0x8b :: littleEndian 4 width ++ payload

def sized (short long : UInt8) (payload : List UInt8) : List UInt8 :=
  if payload.length < 256 then short :: UInt8.ofNat payload.length :: payload
  else long :: littleEndian 4 payload.length ++ payload

def memoize : UInt8 := 0x94

/-- A program with its header; a frame of fewer than four bytes is left open. -/
def framed (body : List UInt8) : List UInt8 :=
  0x80 :: 0x04 :: (if body.length < 4 then body else 0x95 :: littleEndian 8 body.length ++ body)

mutual

def program : Value → List UInt8
  | .null => [0x4e]
  | .boolean value => [if value then 0x88 else 0x89]
  | .integer value => integerProgram value
  | .real value => 0x47 :: (littleEndian 8 value.toBits.toNat).reverse
  | .text value => sized 0x8c 0x58 (Text.encodeUtf8 value) ++ [memoize]
  | .illFormed content => sized 0x8c 0x58 (content.toList.flatMap Text.CodePoint.bytes) ++ [memoize]
  | .bytes value | .buffer value | .window value => sized 0x43 0x42 value ++ [memoize]
  | .list [] => [0x5d, memoize]
  | .list [item] => 0x5d :: memoize :: program item ++ [0x61]
  | .list items => 0x5d :: memoize :: 0x28 :: itemPrograms items ++ [0x65]
  | .mapping [] => [0x7d, memoize]
  | .mapping [entry] => 0x7d :: memoize :: program entry.1 ++ program entry.2 ++ [0x73]
  | .mapping entries => 0x7d :: memoize :: 0x28 :: entryPrograms entries ++ [0x75]
  | .archived content => sized 0x43 0x42 (framed (program content ++ [0x2e])) ++ [memoize]
  | .decimal _ | .date _ | .moment _ | .uuid _ | .tagged _ => [0x4e]

def itemPrograms : List Value → List UInt8
  | [] => []
  | item :: items => program item ++ itemPrograms items

def entryPrograms : List (Value × Value) → List UInt8
  | [] => []
  | (key, value) :: entries => program key ++ program value ++ entryPrograms entries

end

def encode (value : Value) : List UInt8 :=
  framed (program value ++ [0x2e])

/-! ## Reading back -/

inductive Fault where
  | empty
  | truncated
  | unknownInstruction (code : UInt8)
  | undecodable (fault : Text.Utf8Error) (content : List UInt8)
  | stackUnderflow
  | noMark
deriving DecidableEq, Repr

def Fault.message : Fault → String
  | .empty => "Ran out of input"
  | .truncated => "pickle data was truncated"
  | .unknownInstruction code =>
    let shown :=
      if 32 ≤ code.toNat ∧ code.toNat < 127 ∧ code ≠ 0x27 ∧ code ≠ 0x5c then
        [Char.ofNat code.toNat]
      else '\\' :: 'x' :: Text.hexDigits 2 code.toNat
    "invalid load key, '" ++ String.ofList shown ++ "'."
  | .undecodable fault content => fault.message content
  | .stackUnderflow => "unpickling stack underflow"
  | .noMark => "could not find MARK"

/-- What the stack of the machine holds; `none` marks the start of a group. -/
abbrev Stack := List (Option Value)

def takeBytes (count : Nat) (bytes : List UInt8) : Except Fault (List UInt8 × List UInt8) :=
  if bytes.length < count then .error .truncated else .ok (bytes.splitAt count)

def naturalOf (bytes : List UInt8) : Nat :=
  bytes.foldr (fun byte rest => byte.toNat + 256 * rest) 0

def signedOf (bytes : List UInt8) : Int :=
  let size := Nat.pow 256 bytes.length
  let number := naturalOf bytes
  if size ≤ 2 * number then (number : Int) - size else number

def realOf (bytes : List UInt8) : Value :=
  .real (Float.ofBits (UInt64.ofNat (naturalOf bytes.reverse)))

def sizedOperand (width : Nat) (rest : List UInt8) : Except Fault (List UInt8 × List UInt8) := do
  let (size, rest) ← takeBytes width rest
  takeBytes (naturalOf size) rest

def decodedText (content : List UInt8) : Except Fault Value :=
  match Text.decodePoints content with
  | .ok points => .ok (.ofPoints points)
  | .error fault => .error (.undecodable fault content)

def group : (above : List Value) → Stack → Except Fault (List Value × Stack)
  | _, [] => .error .noMark
  | above, none :: stack => .ok (above, stack)
  | above, some value :: stack => group (value :: above) stack

def pairs : List Value → List (Value × Value)
  | key :: value :: rest => (key, value) :: pairs rest
  | _ => []

def extend (values : List Value) : Stack → Except Fault Stack
  | some (.list items) :: stack => .ok (some (.list (items ++ values)) :: stack)
  | some (.mapping entries) :: stack => .ok (some (.mapping (entries ++ pairs values)) :: stack)
  | _ => .error .stackUnderflow

def step (stack : Stack) (code : UInt8) (rest : List UInt8) :
    Except Fault (Stack × List UInt8) :=
  let push (value : Value) (rest : List UInt8) : Except Fault (Stack × List UInt8) :=
    .ok (some value :: stack, rest)
  match code with
  | 0x4e => push .null rest
  | 0x88 => push (.boolean true) rest
  | 0x89 => push (.boolean false) rest
  | 0x5d => push (.list []) rest
  | 0x7d => push (.mapping []) rest
  | 0x28 => .ok (none :: stack, rest)
  | 0x94 => .ok (stack, rest)
  | 0x80 => (takeBytes 1 rest).map fun (_, rest) => (stack, rest)
  | 0x95 => (takeBytes 8 rest).map fun (_, rest) => (stack, rest)
  | 0x4b => (takeBytes 1 rest).bind fun (operand, rest) => push (.integer (naturalOf operand)) rest
  | 0x4d => (takeBytes 2 rest).bind fun (operand, rest) => push (.integer (naturalOf operand)) rest
  | 0x4a => (takeBytes 4 rest).bind fun (operand, rest) => push (.integer (signedOf operand)) rest
  | 0x47 => (takeBytes 8 rest).bind fun (operand, rest) => push (realOf operand) rest
  | 0x8a =>
    (sizedOperand 1 rest).bind fun (operand, rest) => push (.integer (signedOf operand)) rest
  | 0x8b =>
    (sizedOperand 4 rest).bind fun (operand, rest) => push (.integer (signedOf operand)) rest
  | 0x8c =>
    (sizedOperand 1 rest).bind fun (operand, rest) => (decodedText operand).bind (push · rest)
  | 0x58 =>
    (sizedOperand 4 rest).bind fun (operand, rest) => (decodedText operand).bind (push · rest)
  | 0x43 => (sizedOperand 1 rest).bind fun (operand, rest) => push (.bytes operand) rest
  | 0x42 => (sizedOperand 4 rest).bind fun (operand, rest) => push (.bytes operand) rest
  | 0x61 =>
    match stack with
    | some value :: stack => (extend [value] stack).map (·, rest)
    | _ => .error .stackUnderflow
  | 0x73 =>
    match stack with
    | some value :: some key :: stack => (extend [key, value] stack).map (·, rest)
    | _ => .error .stackUnderflow
  | 0x65 | 0x75 =>
    (group [] stack).bind fun (values, stack) => (extend values stack).map (·, rest)
  | 0x31 => (group [] stack).map fun (_, stack) => (stack, rest)
  | _ => .error (.unknownInstruction code)

def run : (fuel : Nat) → Stack → List UInt8 → Except Fault Value
  | 0, _, _ | _, _, [] => .error .empty
  | fuel + 1, stack, code :: rest =>
    if code = 0x2e then
      match stack with
      | some value :: _ => .ok value
      | _ => .error .stackUnderflow
    else (step stack code rest).bind fun (stack, rest) => run fuel stack rest

def decode (bytes : List UInt8) : Except Fault Value :=
  run (bytes.length + 1) [] bytes

end SqlDialects.Archive
