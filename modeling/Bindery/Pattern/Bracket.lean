import Bindery.Pattern.Escape

/-!
# Sets in brackets

Reading of sets such as `[a-z&&[^aeiou]]`. Open brackets are kept in a list, innermost
first, and every step takes at least one character.
-/

namespace Bindery

/-- A set together with how deep its written form is nested. -/
structure NestedSet where
  set : CodeSet
  depth : Nat := 0

inductive SetOp where
  | inter
  | diff
  | symmDiff

def SetOp.apply (op : SetOp) (a b : CodeSet) : CodeSet :=
  match op with
  | inter => a ∩ b
  | diff => a \ b
  | symmDiff => a.symmDiff b

def nestLimit : Nat := 250

structure OpenSet where
  negated : Bool
  /-- The operand of an operation that waits for its other side. -/
  left : Option (SetOp × NestedSet) := none
  spans : List Span := []
  count : Nat := 0
  depth : Nat := 0

namespace OpenSet

def add (o : OpenSet) (s : NestedSet) : OpenSet :=
  { o with
    spans := s.set.spans ++ o.spans, count := o.count + 1, depth := max o.depth s.depth }

def items (o : OpenSet) : NestedSet :=
  { set := .ofSpans o.spans, depth := if o.count ≤ 1 then o.depth else o.depth + 1 }

def whole (f : Flags) (o : OpenSet) : NestedSet :=
  match o.left with
  | none => o.items
  | some (op, a) =>
    { set := op.apply (f.fold a.set) (f.fold o.items.set), depth := max a.depth o.items.depth + 1 }

def operate (f : Flags) (o : OpenSet) (op : SetOp) : OpenSet :=
  { negated := o.negated, left := some (op, o.whole f) }

def close? (f : Flags) (o : OpenSet) : Option NestedSet := do
  let w := o.whole f
  let set ← f.negated? o.negated (f.fold w.set)
  if nestLimit ≤ w.depth then none else pure { set, depth := w.depth + 1 }

end OpenSet

/-! ## Items -/

def asciiSet? (f : Flags) : List Char → Option (Option CodeSet × List Char)
  | ':' :: rest => do
    let (negate, rest) := match rest with
      | '^' :: rest => (true, rest)
      | rest => (false, rest)
    match rest.dropWhile (· != ':') with
    | ':' :: ']' :: after =>
      let ranges ← Flags.asciiSets.lookup (String.ofList (rest.takeWhile (· != ':')))
      pure (f.negated? negate (f.fold (.ofRanges ranges)), after)
    | _ => none
  | _ => none

def setItem? (f : Flags) : List Char → Option (Escaped × List Char)
  | [] => none
  | '\\' :: rest => Escaped.read? f rest
  | c :: rest => some (.char c, rest)

/-- The next character that is neither blank nor the number sign that begins a comment. -/
def peekIdle (inComment : Bool) : List Char → Option Char
  | [] => none
  | c :: rest =>
    if isBlank c then peekIdle inComment rest
    else if c == '#' && !inComment then peekIdle true rest
    else some c

def afterHyphen? (f : Flags) (cs : List Char) : Option Char :=
  if f.verbose then peekIdle false cs <|> cs.head? else cs.head?

def setRange? (f : Flags) (cs : List Char) : Option (CodeSet × List Char) := do
  let (first, rest) ← setItem? f cs
  let rest := f.skip rest
  let alone : Option (CodeSet × List Char) :=
    match first with
    | .char c => if f.allows c then some (.single c, rest) else none
    | .set s => some (s, rest)
    | .look _ => none
  match rest with
  | [] => none
  | '-' :: more =>
    if afterHyphen? f more == some ']' || afterHyphen? f more == some '-' then alone
    else
      let (last, rest) ← setItem? f (f.skip more)
      match first, last with
      | .char a, .char b =>
        if a ≤ b && f.allows a && f.allows b then some (.range a b, rest) else none
      | _, _ => none
  | _ => alone

def leadingHyphens (f : Flags) : Nat → OpenSet → List Char → OpenSet × List Char
  | 0, o, cs => (o, cs)
  | fuel + 1, o, cs =>
    match f.skip cs with
    | '-' :: rest => leadingHyphens f fuel (o.add { set := .single '-' }) rest
    | cs => (o, cs)

/-- The start of a set, of which `[` has been read: a caret, hyphens, or else a literal
closing bracket. -/
def openSet (f : Flags) (cs : List Char) : OpenSet × List Char :=
  let (negated, cs) := match f.skip cs with
    | '^' :: rest => (true, rest)
    | rest => (false, rest)
  match leadingHyphens f (cs.length + 1) { negated } cs with
  | (o, ']' :: rest) =>
    if o.count == 0 then (o.add { set := .single ']' }, rest) else (o, ']' :: rest)
  | r => r

/-! ## Sets -/

def setItems? (f : Flags) : Nat → OpenSet → List OpenSet → List Char →
    Option (NestedSet × List Char)
  | 0, _, _, _ => none
  | fuel + 1, o, outer, cs =>
    match f.skip cs with
    | [] => none
    | ']' :: rest =>
      match o.close? f, outer with
      | none, _ => none
      | some s, [] => some (s, rest)
      | some s, o :: outer => setItems? f fuel (o.add s) outer rest
    | '&' :: '&' :: rest => setItems? f fuel (o.operate f .inter) outer rest
    | '-' :: '-' :: rest => setItems? f fuel (o.operate f .diff) outer rest
    | '~' :: '~' :: rest => setItems? f fuel (o.operate f .symmDiff) outer rest
    | '[' :: rest =>
      match asciiSet? f rest with
      | some (some s, rest) => setItems? f fuel (o.add { set := s }) outer rest
      | some (none, _) => none
      | none =>
        let (inner, rest) := openSet f rest
        if nestLimit ≤ outer.length then none else setItems? f fuel inner (o :: outer) rest
    | cs =>
      match setRange? f cs with
      | some (s, rest) => setItems? f fuel (o.add { set := s }) outer rest
      | none => none

def bracketSet? (f : Flags) (cs : List Char) : Option (NestedSet × List Char) :=
  let (o, rest) := openSet f cs
  setItems? f (rest.length + 1) o [] rest

end Bindery
