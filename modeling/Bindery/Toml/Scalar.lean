import Bindery.Toml.Basic

/-!
# Numbers and times in TOML

A scalar that begins with a digit, a sign or a letter is first cut off the text and then
recognised by its form.
-/

namespace Bindery.Toml

def underscored? (isDigit : Char → Bool) (cs : List Char) : Option (List Char) :=
  let rec go (afterDigit : Bool) : List Char → Option (List Char)
    | [] => if afterDigit then some [] else none
    | '_' :: rest => if afterDigit then go false rest else none
    | c :: rest => if isDigit c then (go true rest).map (c :: ·) else none
  go false cs

def digitValue (c : Char) : Nat :=
  if c.isDigit then c.toNat - 48 else if 'a' ≤ c then c.toNat - 87 else c.toNat - 55

def natOf (base : Nat) (ds : List Char) : Nat := ds.foldl (fun n d => base * n + digitValue d) 0

def isHexDigit (c : Char) : Bool := c.isDigit || ('a' ≤ c && c ≤ 'f') || ('A' ≤ c && c ≤ 'F')

def splitSign : List Char → Bool × List Char
  | '+' :: rest => (false, rest)
  | '-' :: rest => (true, rest)
  | rest => (false, rest)

def inRange? (i : Int) : Option Toml :=
  if -0x8000000000000000 ≤ i ∧ i < 0x8000000000000000 then some (.whole i) else none

/-- The digits of a decimal number, which has no needless leading zero. -/
def decimalDigits? (cs : List Char) : Option (List Char) := do
  let ds ← underscored? Char.isDigit cs
  if cs.length > 1 && cs.head? == some '0' then none else some ds

def integer? (cs : List Char) : Option Toml :=
  match cs with
  | '0' :: 'x' :: rest => do inRange? (natOf 16 (← underscored? isHexDigit rest))
  | '0' :: 'o' :: rest => do
    inRange? (natOf 8 (← underscored? (fun c => '0' ≤ c && c ≤ '7') rest))
  | '0' :: 'b' :: rest => do
    inRange? (natOf 2 (← underscored? (fun c => c == '0' || c == '1') rest))
  | cs => do
    let (negative, rest) := splitSign cs
    let n := natOf 10 (← decimalDigits? rest)
    inRange? (if negative then -n else n)

def exponent? : List Char → Option Int
  | e :: rest => do
    let (negative, rest) := splitSign rest
    let n : Int := natOf 10 (← underscored? Char.isDigit rest)
    if e == 'e' || e == 'E' then some (if negative then -n else n) else none
  | [] => some 0

def infinite : Nat := Nat.pow 2 1024 - Nat.pow 2 970

/-- Whether a significand times a power of ten is finite as a number of 64 bits. Where the
number of digits leaves no doubt, the power is not worked out. -/
def isFinite (significand : Nat) (exponent : Int) : Bool :=
  let length : Int := (Nat.toDigits 10 significand).length + exponent
  if significand == 0 || length < 308 then true
  else if 310 < length then false
  else if 0 ≤ exponent then significand * Nat.pow 10 exponent.toNat < infinite
  else significand < infinite * Nat.pow 10 (-exponent).toNat

/-- A number with a fraction or an exponent. Only one below zero may be too great. -/
def float? (cs : List Char) : Option Toml := do
  let (negative, rest) := splitSign cs
  if rest == ['i', 'n', 'f'] || rest == ['n', 'a', 'n'] then some (.float (String.ofList cs))
  else
    let isMark (c : Char) : Bool := c == 'e' || c == 'E'
    let mantissa := rest.takeWhile (!isMark ·)
    let tail := rest.dropWhile (!isMark ·)
    let ahead ← decimalDigits? (mantissa.takeWhile (· != '.'))
    let behind ← match mantissa.dropWhile (· != '.') with
      | [] => if tail.isEmpty then none else some []
      | _ :: ds => underscored? Char.isDigit ds
    let exponent ← exponent? tail
    if negative || isFinite (natOf 10 (ahead ++ behind)) (exponent - behind.length) then
      some (.float (String.ofList cs))
    else none

/-! ## Times -/

def fixed? (width : Nat) (cs : List Char) : Option (Nat × List Char) :=
  let ds := cs.take width
  if ds.length == width && ds.all Char.isDigit then some (natOf 10 ds, cs.drop width) else none

def expect? (c : Char) : List Char → Option (List Char)
  | d :: rest => if c == d then some rest else none
  | [] => none

def daysIn (year month : Nat) : Nat :=
  if month == 2 then
    if year % 4 == 0 && (year % 100 != 0 || year % 400 == 0) then 29 else 28
  else if [4, 6, 9, 11].contains month then 30
  else 31

def date? (cs : List Char) : Option (List Char × List Char) := do
  let (year, rest) ← fixed? 4 cs
  let (month, rest) ← fixed? 2 (← expect? '-' rest)
  let (day, rest) ← fixed? 2 (← expect? '-' rest)
  if 1 ≤ month && month ≤ 12 && 1 ≤ day && day ≤ daysIn year month then some (cs.take 10, rest)
  else none

/-- A fraction of a second to the billionth, without zeros at its end. -/
def secondFraction (ds : List Char) : List Char :=
  match (ds.take 9).reverse.dropWhile (· == '0') with
  | [] => []
  | ds => '.' :: ds.reverse

def clock? (cs : List Char) : Option (List Char × List Char) := do
  let (hour, rest) ← fixed? 2 cs
  let (minute, rest) ← fixed? 2 (← expect? ':' rest)
  let (second, rest) ← fixed? 2 (← expect? ':' rest)
  if 24 ≤ hour || 60 ≤ minute || 61 ≤ second then none
  else
    match rest with
    | '.' :: rest =>
      let ds := rest.takeWhile Char.isDigit
      if ds.isEmpty then none
      else some (cs.take 8 ++ secondFraction ds, rest.dropWhile Char.isDigit)
    | rest => some (cs.take 8, rest)

/-- The distance from universal time, or nothing. A distance of zero has a plus sign. -/
def offset? (cs : List Char) : Option (List Char) :=
  match cs with
  | [] => some []
  | ['Z'] => some ['Z']
  | ['z'] => some ['Z']
  | sign :: digits =>
    if sign == '+' || sign == '-' then do
      let (hour, rest) ← fixed? 2 digits
      let (minute, rest) ← fixed? 2 (← expect? ':' rest)
      if 24 ≤ hour || 60 ≤ minute || !rest.isEmpty then none
      else some ((if hour == 0 && minute == 0 then '+' else sign) :: digits)
    else none

def time? (cs : List Char) : Option Toml :=
  match date? cs with
  | some (date, []) => some (.time (String.ofList date))
  | some (date, separator :: rest) => do
    let (clock, rest) ← clock? rest
    let offset ← offset? rest
    if ['T', 't', ' '].contains separator then
      some (.time (String.ofList (date ++ 'T' :: clock ++ offset)))
    else none
  | none =>
    match clock? cs with
    | some (clock, []) => some (.time (String.ofList clock))
    | _ => none

def scalar? (cs : List Char) : Option Toml :=
  if cs == "true".toList then some (.bool true)
  else if cs == "false".toList then some (.bool false)
  else time? cs <|> integer? cs <|> float? cs

def isScalarChar (c : Char) : Bool := c.isAlphanum || ['+', '-', '_', '.', ':'].contains c

/-- Cuts a scalar off the text. A blank inside belongs to it if it joins a date and a time. -/
def scalarText (cs : List Char) : List Char × List Char :=
  let word := cs.takeWhile isScalarChar
  let rest := cs.dropWhile isScalarChar
  match rest with
  | ' ' :: more =>
    let second := more.takeWhile isScalarChar
    if (date? word).any (·.2.isEmpty) && second.head?.any Char.isDigit then
      (word ++ ' ' :: second, more.dropWhile isScalarChar)
    else (word, rest)
  | _ => (word, rest)

end Bindery.Toml
