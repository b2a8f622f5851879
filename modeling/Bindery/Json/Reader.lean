import Bindery.Json.Magnitude

/-!
# Reading JSON

`Json.read?` reads one value that fills the whole text. The lists and objects that are
open are kept in a list, innermost first, so that no depth is too great. Every step but
the last takes at least one character.
-/

namespace Bindery.Json

def isSpace (c : Char) : Bool := c == ' ' || c == '\t' || c == '\n' || c == '\r'

def skipSpace (cs : List Char) : List Char := cs.dropWhile isSpace

def after? (start : String) (cs : List Char) : Option (List Char) :=
  if start.toList.isPrefixOf cs then some (cs.drop start.length) else none

/-! ## Numbers -/

def digits (cs : List Char) : List Char × List Char :=
  (cs.takeWhile Char.isDigit, cs.dropWhile Char.isDigit)

def fraction? : List Char → Option (List Char × List Char)
  | '.' :: rest =>
    let (ds, rest) := digits rest
    if ds.isEmpty then none else some ('.' :: ds, rest)
  | rest => some ([], rest)

def exponent? (cs : List Char) : Option (List Char × List Char) :=
  match cs with
  | e :: rest =>
    if e == 'e' || e == 'E' then
      let (sign, rest) := match rest with
        | '+' :: rest => (['+'], rest)
        | '-' :: rest => (['-'], rest)
        | rest => ([], rest)
      let (ds, rest) := digits rest
      if ds.isEmpty then none else some (e :: sign ++ ds, rest)
    else some ([], cs)
  | [] => some ([], [])

/-- A number has no needless leading zero. The zero with a minus sign is no whole number. -/
def number? (cs : List Char) : Option (Json × List Char) :=
  let (minus, rest) := match cs with
    | '-' :: rest => (true, rest)
    | rest => (false, rest)
  let (ds, rest) := digits rest
  if ds.isEmpty || (ds.head? == some '0' && ds.length > 1) then none
  else do
    let (fraction, rest) ← fraction? rest
    let (exponent, rest) ← exponent? rest
    let n := natOfDigits ds
    if fraction.isEmpty && exponent.isEmpty && !(minus && n == 0) then
      pure (.whole (if minus then -n else n), rest)
    else
      let sign := if minus then ['-'] else []
      pure (.decimal (String.ofList (sign ++ ds ++ fraction ++ exponent)), rest)

/-! ## Texts -/

def hexDigit? (c : Char) : Option Nat :=
  if c.isDigit then some (c.toNat - '0'.toNat)
  else if 'a' ≤ c && c ≤ 'f' then some (c.toNat - 'a'.toNat + 10)
  else if 'A' ≤ c && c ≤ 'F' then some (c.toNat - 'A'.toNat + 10)
  else none

def unit? : List Char → Option (Nat × List Char)
  | a :: b :: c :: d :: rest => do
    let (a, b, c, d) := (← hexDigit? a, ← hexDigit? b, ← hexDigit? c, ← hexDigit? d)
    pure (((a * 16 + b) * 16 + c) * 16 + d, rest)
  | _ => none

/-- What an escape stands for; half of a surrogate pair stands for no character. -/
abbrev Escape := Option Char

/-- The character after `\u`: one unit, or two units that form a surrogate pair. -/
def unicodeEscape? (cs : List Char) : Option (Escape × List Char) := do
  let (u, rest) ← unit? cs
  if 0xD800 ≤ u && u ≤ 0xDBFF then
    match (after? "\\u" rest).bind unit? with
    | some (v, after) =>
      if 0xDC00 ≤ v && v ≤ 0xDFFF then
        pure (some (Char.ofNat (0x10000 + (u - 0xD800) * 0x400 + (v - 0xDC00))), after)
      else pure (none, rest)
    | none => pure (none, rest)
  else if 0xDC00 ≤ u && u ≤ 0xDFFF then pure (none, rest)
  else pure (some (Char.ofNat u), rest)

def escape? : List Char → Option (Escape × List Char)
  | '"' :: rest => some (some '"', rest)
  | '\\' :: rest => some (some '\\', rest)
  | '/' :: rest => some (some '/', rest)
  | 'b' :: rest => some (some '\x08', rest)
  | 'f' :: rest => some (some '\x0c', rest)
  | 'n' :: rest => some (some '\n', rest)
  | 'r' :: rest => some (some '\r', rest)
  | 't' :: rest => some (some '\t', rest)
  | 'u' :: rest => unicodeEscape? rest
  | _ => none

/-- The characters up to the closing quote, put before those read so far, last first. There
is no text where `isWhole` is lost by half of a surrogate pair. -/
def textAfter? (isWhole : Bool) : Nat → List Char → List Char →
    Option (Option String × List Char)
  | 0, _, _ => none
  | fuel + 1, read, cs =>
    match cs with
    | [] => none
    | '"' :: rest => some (if isWhole then some (String.ofList read.reverse) else none, rest)
    | '\\' :: rest =>
      match escape? rest with
      | some (some c, rest) => textAfter? isWhole fuel (c :: read) rest
      | some (none, rest) => textAfter? false fuel read rest
      | none => none
    | c :: rest => if c.toNat < 0x20 then none else textAfter? isWhole fuel (c :: read) rest

def textLiteral? (cs : List Char) : Option (Option String × List Char) :=
  textAfter? true (cs.length + 1) [] cs

/-! ## Values -/

/-- A list or an object whose end has not been read, with what it has so far, last ones
first. -/
inductive OpenJson where
  | list (items : List Json)
  /-- `name` is that of the member that comes next, and there is none in an object that has
  had an ill-formed one. -/
  | object (members : List (String × Json)) (name : Option String)

inductive Beginning where
  | value (v : Json)
  | opening (o : OpenJson)

/-- The name of a member and the colon after it. In an object that is ill formed already the
name does not matter. -/
def memberName? (isWhole : Bool) (cs : List Char) : Option (Option String × List Char) := do
  let rest ← after? "\"" (skipSpace cs)
  let (name, rest) ← textLiteral? rest
  let rest ← after? ":" (skipSpace rest)
  pure (if isWhole then name else none, rest)

def begin? (cs : List Char) : Option (Beginning × List Char) :=
  match skipSpace cs with
  | [] => none
  | '"' :: rest =>
    (textLiteral? rest).map fun (s, rest) => (.value (s.elim .illFormed .text), rest)
  | '[' :: rest =>
    match skipSpace rest with
    | ']' :: rest => some (.value (.list []), rest)
    | rest => some (.opening (.list []), rest)
  | '\x7b' :: rest =>
    match skipSpace rest with
    | '\x7d' :: rest => some (.value (.object []), rest)
    | rest => (memberName? true rest).map fun (name, rest) => (.opening (.object [] name), rest)
  | 't' :: rest => (after? "rue" rest).map fun rest => (.value (.bool true), rest)
  | 'f' :: rest => (after? "alse" rest).map fun rest => (.value (.bool false), rest)
  | 'n' :: rest => (after? "ull" rest).map fun rest => (.value .null, rest)
  | rest => (number? rest).map fun (v, rest) => (.value v, rest)

def putInto? (o : OpenJson) (v : Json) (cs : List Char) : Option (Beginning × List Char) :=
  match o with
  | .list items =>
    match skipSpace cs with
    | ',' :: rest => some (.opening (.list (v :: items)), rest)
    | ']' :: rest => some (.value (.list (v :: items).reverse), rest)
    | _ => none
  | .object members name =>
    let members := (name.getD "", v) :: members
    match skipSpace cs with
    | ',' :: rest =>
      (memberName? name.isSome rest).map fun (next, rest) => (.opening (.object members next), rest)
    | '\x7d' :: rest =>
      some (.value (if name.isSome then .object members.reverse else .illFormed), rest)
    | _ => none

/-- Reads on after a value or the beginning of one; `outer` is what is open around it. -/
def finish? : Nat → Beginning → (outer : List OpenJson) → List Char → Option (Json × List Char)
  | 0, _, _, _ => none
  | fuel + 1, .opening o, outer, cs =>
    match begin? cs with
    | some (.value v, rest) => finish? fuel (.value v) (o :: outer) rest
    | some (.opening inner, rest) => finish? fuel (.opening inner) (o :: outer) rest
    | none => none
  | _ + 1, .value v, [], cs => some (v, cs)
  | fuel + 1, .value v, o :: outer, cs =>
    match putInto? o v cs with
    | some (b, rest) => finish? fuel b outer rest
    | none => none

def read? (s : String) : Option Json := do
  let cs := s.toList
  let (b, rest) ← begin? cs
  let (value, rest) ← finish? (cs.length + 1) b [] rest
  if (skipSpace rest).isEmpty then some value else none

end Bindery.Json
