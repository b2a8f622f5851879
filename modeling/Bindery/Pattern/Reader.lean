import Bindery.Pattern.Bracket
import Bindery.Unicode.Letters

/-!
# Reading patterns

The written form of patterns. Flags such as `(?i)` hold up to the end of the group that
they stand in, so they are carried along and applied where a piece is read. Open groups
are kept in a list, innermost first. Every step takes at least one character; the
recursion is bounded by the length of the text.
-/

namespace Bindery

/-- A piece of a sequence, with how deep its written form is nested. A change of flags
matches nothing and cannot be repeated. -/
structure Item where
  tree : PatternTree
  depth : Nat := 0
  isFlags : Bool := false

namespace Item

/-- How deep a list is nested: a list of one is no level of its own. -/
def depthOf (items : List Item) : Nat :=
  let depth := items.foldl (fun d i => max d i.depth) 0
  match items with
  | [] => 0
  | [_] => depth
  | _ => depth + 1

def sequence (items : List Item) : Item :=
  match items with
  | [i] => i
  | items => { tree := .sequence (items.reverse.map (·.tree)), depth := depthOf items }

def alternatives (items : List Item) : Item :=
  match items with
  | [i] => i
  | items => { tree := .alternatives (items.reverse.map (·.tree)), depth := depthOf items }

end Item

/-- What has been read of a group or of the whole pattern: the finished alternatives and
the items of the current one, last ones first. -/
structure Body where
  branches : List Item := []
  items : List Item := []

namespace Body

def add (b : Body) (i : Item) : Body := { b with items := i :: b.items }

def branch (b : Body) : Body := { branches := .sequence b.items :: b.branches }

def whole (b : Body) : Item := .alternatives b.branch.branches

end Body

structure OpenGroup where
  index : Option Nat
  flags : Flags
  body : Body

structure Reading where
  rest : List Char
  flags : Flags := {}
  body : Body := {}
  outer : List OpenGroup := []
  groups : Nat := 0
  names : List (List Char) := []

namespace Reading

def add (r : Reading) (tree : PatternTree) (rest : List Char) : Reading :=
  { r with body := r.body.add { tree }, rest }

/-! ## Groups and flags -/

/-- Letters and digits by the newest standard, and four signs. -/
def isGroupNameChar (c : Char) : Bool :=
  c == '_' || c == '.' || c == '[' || c == ']' || Unicode.nameLetter.has c
    || Unicode.nameNumber.has c

def groupName? (names : List (List Char)) (cs : List Char) : Option (List Char × List Char) :=
  let name := cs.takeWhile (· != '>')
  match name, cs.dropWhile (· != '>') with
  | c :: more, _ :: rest =>
    if (c == '_' || Unicode.nameLetter.has c) && more.all isGroupNameChar
        && !names.contains name then
      some (name, rest)
    else none
  | _, _ => none

/-- Flags after `(?`, each at most once, up to a colon or a closing parenthesis. The result
says whether a group follows. -/
def flags? (f : Flags) (seen : List Char) (negating : Bool) : List Char →
    Option (Flags × Bool × List Char)
  | [] => none
  | ':' :: rest => if seen.head? == some '-' then none else some (f, true, rest)
  | ')' :: rest =>
    if seen.isEmpty || seen.head? == some '-' then none else some (f, false, rest)
  | '-' :: rest => if negating then none else flags? f ('-' :: seen) true rest
  | c :: rest =>
    if seen.contains c then none
    else
      match f.set? c (!negating) with
      | some f => flags? f (c :: seen) negating rest
      | none => none

def enter? (r : Reading) (index : Option Nat) (flags : Flags) (rest : List Char) :
    Option Reading :=
  if nestLimit ≤ r.outer.length then none
  else
    some { r with
      rest, flags, body := {}, outer := { index, flags := r.flags, body := r.body } :: r.outer }

def enterNext? (r : Reading) (rest : List Char) : Option Reading :=
  { r with groups := r.groups + 1 }.enter? (some (r.groups + 1)) r.flags rest

def enterNamed? (r : Reading) (rest : List Char) : Option Reading := do
  let (name, rest) ← groupName? r.names rest
  { r with names := name :: r.names }.enterNext? rest

def open? (r : Reading) (rest : List Char) : Option Reading :=
  match r.flags.skip rest with
  | '?' :: '=' :: _ => none
  | '?' :: '!' :: _ => none
  | '?' :: '<' :: '=' :: _ => none
  | '?' :: '<' :: '!' :: _ => none
  | '?' :: 'P' :: '<' :: rest => r.enterNamed? rest
  | '?' :: '<' :: rest => r.enterNamed? rest
  | '?' :: rest => do
    let (flags, isGroup, rest) ← flags? r.flags [] false rest
    if isGroup then r.enter? none flags rest
    else pure { r with rest, flags, body := r.body.add { tree := .empty, isFlags := true } }
  | rest => r.enterNext? rest

def close? (r : Reading) (rest : List Char) : Option Reading :=
  match r.outer with
  | [] => none
  | g :: outer =>
    let whole := r.body.whole
    let tree := match g.index with
      | some index => .group index whole.tree
      | none => whole.tree
    if nestLimit ≤ whole.depth then none
    else
      some { r with
        rest, outer, flags := g.flags, body := g.body.add { tree, depth := whole.depth + 1 } }

/-! ## Repetition -/

def digits (f : Flags) : Nat → (read : List Char) → List Char → List Char × List Char
  | 0, read, cs => (read.reverse, cs)
  | fuel + 1, read, cs =>
    match cs with
    | c :: rest =>
      if c.isDigit then digits f fuel (c :: read) (f.skip rest) else (read.reverse, cs)
    | [] => (read.reverse, [])

def countLimit : Nat := 0x100000000

def count? (f : Flags) (cs : List Char) : Option (Nat × List Char) :=
  let cs := cs.dropWhile isBlank
  let (ds, rest) := digits f (cs.length + 1) [] cs
  let n := CodeSet.decimalNat ds
  if ds.isEmpty || countLimit ≤ n then none
  else
    match rest with
    | c :: _ => some (n, if isBlank c then f.skip (rest.dropWhile isBlank) else rest)
    | [] => some (n, [])

def bounds? (f : Flags) (cs : List Char) : Option (Nat × Option Nat × List Char) := do
  let (least, rest) ← count? f (f.skip cs)
  match rest with
  | '\x7d' :: rest => pure (least, some least, rest)
  | ',' :: rest =>
    match f.skip rest with
    | '\x7d' :: rest => pure (least, none, rest)
    | rest =>
      let (most, rest) ← count? f rest
      match rest with
      | '\x7d' :: rest => if least ≤ most then pure (least, some most, rest) else none
      | _ => none
  | _ => none

/-- Repeats the last item. A question mark after the operator turns its preference around. -/
def repeat? (r : Reading) (least : Nat) (most : Option Nat) (rest : List Char) :
    Option Reading :=
  match r.body.items with
  | [] => none
  | i :: items =>
    if i.isFlags || nestLimit ≤ i.depth then none
    else
      let (greedy, rest) := match rest with
        | '?' :: rest => (false, rest)
        | rest => (true, rest)
      let tree := i.tree.repeated least most (greedy != r.flags.swapGreed)
      some { r with rest, body := { r.body with items := { tree, depth := i.depth + 1 } :: items } }

/-! ## Whole patterns -/

def step? (r : Reading) (c : Char) (rest : List Char) : Option Reading :=
  match c with
  | '(' => r.open? rest
  | ')' => r.close? rest
  | '|' => some { r with rest, body := r.body.branch }
  | '[' => do
    let (s, rest) ← bracketSet? r.flags rest
    pure { r with rest, body := r.body.add { tree := .ofSet s.set, depth := s.depth } }
  | '?' => r.repeat? 0 (some 1) rest
  | '*' => r.repeat? 0 none rest
  | '+' => r.repeat? 1 none rest
  | '\x7b' => do
    let (least, most, rest) ← bounds? r.flags rest
    r.repeat? least most (r.flags.skip rest)
  | '\\' => do
    match ← Escaped.read? r.flags rest with
    | (.char c, rest) => pure (r.add (r.flags.literal c) rest)
    | (.set s, rest) => pure (r.add (.ofSet s) rest)
    | (.look l, rest) => pure (r.add (.look l) rest)
  | '.' => do pure (r.add (← r.flags.point?) rest)
  | '^' => some (r.add (.look r.flags.lineStart) rest)
  | '$' => some (r.add (.look r.flags.lineEnd) rest)
  | c => some (r.add (r.flags.literal c) rest)

def finish? : Nat → Reading → Option Reading
  | 0, _ => none
  | fuel + 1, r =>
    match r.flags.skip r.rest with
    | [] => some r
    | c :: rest =>
      match r.step? c rest with
      | some r => finish? fuel r
      | none => none

end Reading

def PatternTree.read? (s : String) : Option PatternTree := do
  let cs := s.toList
  let r ← Reading.finish? (cs.length + 1) { rest := cs }
  let whole := r.body.whole
  if r.outer.isEmpty && whole.depth ≤ nestLimit then pure whole.tree else none

end Bindery
