/-!
# Line ends

A line ends with a newline, a carriage return, or the one after the other.
-/

namespace SqlDialects.Text

def unifyLineEndsFrom (read : List Char) : List Char → List Char
  | [] => read.reverse
  | '\r' :: '\n' :: rest => unifyLineEndsFrom ('\n' :: read) rest
  | c :: rest => unifyLineEndsFrom ((if c = '\r' then '\n' else c) :: read) rest

def unifyLineEnds (text : String) : String :=
  String.ofList (unifyLineEndsFrom [] text.toList)

end SqlDialects.Text
