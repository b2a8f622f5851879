import Bindery.Pattern.Flags
import Bindery.Text.Affix
import Bindery.Unicode.Query

/-!
# Escapes of patterns

What a backslash and the characters after it stand for. In a verbose pattern blanks and
comments may stand between the digits of a code and in the name of a property.
-/

namespace Bindery

inductive Escaped where
  | char (c : Char)
  | set (s : CodeSet)
  | look (l : Look)

namespace Escaped

def isMeta (c : Char) : Bool := "\\.+*?()|[]\x7b\x7d^$#&-~".toList.contains c

/-- ASCII characters other than letters, digits and angle brackets may be escaped. -/
def isEscapable (c : Char) : Bool :=
  isMeta c || (c.toNat < 0x80 && !c.isAlphanum && c != '<' && c != '>')

/-! ## Codes -/

def hexValue? (c : Char) : Option Nat :=
  if '0' ≤ c && c ≤ '9' then some (c.toNat - 48)
  else if 'a' ≤ c && c ≤ 'f' then some (c.toNat - 87)
  else if 'A' ≤ c && c ≤ 'F' then some (c.toNat - 55)
  else none

def charOfCode? (n : Nat) : Option Char := if n.isValidChar then some (Char.ofNat n) else none

def hexDigits? (f : Flags) : Nat → (value : Nat) → List Char → Option (Nat × List Char)
  | 0, value, cs => some (value, cs)
  | width + 1, value, cs =>
    match cs with
    | [] => none
    | c :: rest =>
      match hexValue? c with
      | some d => hexDigits? f width (16 * value + d) (f.skip rest)
      | none => none

def braced? (f : Flags) : Nat → (read : List Char) → List Char → Option (List Char × List Char)
  | 0, _, _ => none
  | fuel + 1, read, cs =>
    match f.skip cs with
    | [] => none
    | '\x7d' :: rest => some (read.reverse, rest)
    | c :: rest => braced? f fuel (c :: read) rest

/-- A character by its code: a fixed number of digits, or any number of them in braces. Two
digits are a byte without the Unicode mode, and then must be below 80. -/
def code? (f : Flags) (width : Nat) (cs : List Char) : Option (Escaped × List Char) :=
  match f.skip cs with
  | '\x7b' :: rest => do
    let (digits, rest) ← braced? f (rest.length + 1) [] rest
    let values ← digits.mapM hexValue?
    if values.isEmpty then none
    else
      let c ← charOfCode? (values.foldl (fun n d => 16 * n + d) 0)
      pure (.char c, f.skip rest)
  | cs => do
    let (n, rest) ← hexDigits? f width 0 cs
    let c ← charOfCode? n
    if width == 2 && !f.allows c then none else pure (.char c, rest)

/-! ## Properties -/

def cutAt? (sign : List Char) (read : List Char) : List Char → Option (List Char × List Char)
  | [] => none
  | c :: cs =>
    match dropStart? sign (c :: cs) with
    | some rest => some (read.reverse, rest)
    | none => cutAt? sign (c :: read) cs

/-- The set that a property asks for, and whether it asks for all others. -/
def query? (text : List Char) : Option (CodeSet × Bool) :=
  match cutAt? ['!', '='] [] text with
  | some (name, value) => (Unicode.setValued? name value).map (·, true)
  | none =>
    match cutAt? [':'] [] text <|> cutAt? ['='] [] text with
    | some (name, value) => (Unicode.setValued? name value).map (·, false)
    | none => (Unicode.setNamed? text).map (·, false)

def property? (f : Flags) (negate : Bool) (cs : List Char) : Option (Escaped × List Char) := do
  let (text, rest) ← match f.skip cs with
    | '\x7b' :: rest => braced? f (rest.length + 1) [] rest
    | '\\' :: _ => none
    | c :: rest => some ([c], f.skip rest)
    | [] => none
  if !f.unicode then none
  else
    let (asked, unequal) ← query? text
    let asked ← f.negated? (negate != unequal) (f.fold asked)
    pure (.set asked, rest)

/-! ## Boundaries -/

def isBoundaryChar (c : Char) : Bool := c.isAlpha || c == '-'

def boundaryName (f : Flags) : Nat → (read : List Char) → List Char → List Char × List Char
  | 0, read, cs => (read.reverse, cs)
  | fuel + 1, read, cs =>
    match cs with
    | c :: rest =>
      if isBoundaryChar c then boundaryName f fuel (c :: read) (f.skip rest)
      else (read.reverse, cs)
    | [] => (read.reverse, [])

/-- A word boundary, which may have a name in braces. Braces that begin otherwise count
rounds. -/
def boundary? (f : Flags) (cs : List Char) : Option (Escaped × List Char) :=
  let ascii := !f.unicode
  match cs with
  | '\x7b' :: rest =>
    match f.skip rest with
    | [] => none
    | c :: more =>
      if !isBoundaryChar c then some (.look (.wordBoundary ascii), cs)
      else
        match boundaryName f (more.length + 1) [] (c :: more) with
        | (name, '\x7d' :: rest) =>
          match String.ofList name with
          | "start" => some (.look (.wordStart ascii), rest)
          | "end" => some (.look (.wordEnd ascii), rest)
          | "start-half" => some (.look (.wordStartHalf ascii), rest)
          | "end-half" => some (.look (.wordEndHalf ascii), rest)
          | _ => none
        | _ => none
  | _ => some (.look (.wordBoundary ascii), cs)

/-! ## All escapes -/

def read? (f : Flags) : List Char → Option (Escaped × List Char)
  | [] => none
  | c :: rest =>
    let ascii := !f.unicode
    match c with
    | 'x' => code? f 2 rest
    | 'u' => code? f 4 rest
    | 'U' => code? f 8 rest
    | 'p' => property? f false rest
    | 'P' => property? f true rest
    | 'a' => some (.char '\x07', rest)
    | 'f' => some (.char '\x0c', rest)
    | 't' => some (.char '\t', rest)
    | 'n' => some (.char '\n', rest)
    | 'r' => some (.char '\r', rest)
    | 'v' => some (.char '\x0b', rest)
    | 'A' => some (.look .textStart, rest)
    | 'z' => some (.look .textEnd, rest)
    | 'b' => boundary? f rest
    | 'B' => some (.look (.noWordBoundary ascii), rest)
    | '<' => some (.look (.wordStart ascii), rest)
    | '>' => some (.look (.wordEnd ascii), rest)
    | c =>
      if isEscapable c then some (.char c, rest)
      else (f.letterSet? c).map fun s => (.set s, rest)

end Escaped

end Bindery
