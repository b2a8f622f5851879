import Bindery.Json.Basic

/-!
# Writing JSON

`Json.compact` writes a value without spaces, `Json.pretty` one member or item to a
line. Quotes, backslashes and control characters are escaped, all else stands for itself.
-/

namespace Bindery.Json

def hexDigit (n : Nat) : Char := "0123456789abcdef".toList.getD n '0'

def escapeChar (c : Char) : List Char :=
  if c == '"' then ['\\', '"']
  else if c == '\\' then ['\\', '\\']
  else if c == '\x08' then ['\\', 'b']
  else if c == '\x0c' then ['\\', 'f']
  else if c == '\n' then ['\\', 'n']
  else if c == '\r' then ['\\', 'r']
  else if c == '\t' then ['\\', 't']
  else if c.toNat < 0x20 then
    ['\\', 'u', '0', '0', hexDigit (c.toNat / 16), hexDigit (c.toNat % 16)]
  else [c]

def quote (s : String) : String := String.ofList ('"' :: s.toList.flatMap escapeChar ++ ['"'])

mutual

def compact : Json → String
  | .null => "null"
  | .bool b => if b then "true" else "false"
  | .whole i => toString i
  | .decimal digits => digits
  | .text s => quote s
  | .list items => "[" ++ ",".intercalate (compactItems items) ++ "]"
  | .object members => "\x7b" ++ ",".intercalate (compactMembers members) ++ "\x7d"
  | .illFormed => "null"

def compactItems : List Json → List String
  | [] => []
  | item :: items => compact item :: compactItems items

def compactMembers : List (String × Json) → List String
  | [] => []
  | (name, value) :: members => (quote name ++ ":" ++ compact value) :: compactMembers members

end

def indent (depth : Nat) : String := String.ofList (List.replicate (2 * depth) ' ')

def block (depth : Nat) (left right : String) (lines : List String) : String :=
  if lines.isEmpty then left ++ right
  else
    left ++ "\n" ++ ",\n".intercalate (lines.map (indent (depth + 1) ++ ·))
      ++ "\n" ++ indent depth ++ right

mutual

def prettyAt (depth : Nat) : Json → String
  | .list items => block depth "[" "]" (prettyItems depth items)
  | .object members => block depth "\x7b" "\x7d" (prettyMembers depth members)
  | .null => "null"
  | .bool b => if b then "true" else "false"
  | .whole i => toString i
  | .decimal digits => digits
  | .text s => quote s
  | .illFormed => "null"

def prettyItems (depth : Nat) : List Json → List String
  | [] => []
  | item :: items => prettyAt (depth + 1) item :: prettyItems depth items

def prettyMembers (depth : Nat) : List (String × Json) → List String
  | [] => []
  | (name, value) :: members =>
    (quote name ++ ": " ++ prettyAt (depth + 1) value) :: prettyMembers depth members

end

def pretty (v : Json) : String := prettyAt 0 v

end Bindery.Json
