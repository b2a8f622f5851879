import Std.Data.HashSet
import Bindery.Pattern.Reader
import Bindery.Pattern.Room

/-!
# Matching

A pattern is compiled to a program of numbered instructions, and all ways to run it are
followed side by side, one character at a time, in the order of preference: earlier
starts, then earlier alternatives. A way that comes to an instruction already reached at
the same place is dropped, so a search takes at most one pass over the program for each
character.
-/

namespace Bindery

inductive Instruction where
  | char (c : Char) (next : Nat)
  | take (s : CodeSet) (next : Nat)
  | look (l : Look) (next : Nat)
  | split (first second : Nat)
  | enter (next : Nat)
  | leave (next : Nat)
  | accept
  deriving Inhabited

def Instruction.isAboutAllWords : Instruction → Bool
  | .look l _ => l.isAboutAllWords
  | _ => false

structure Pattern where
  code : Array Instruction
  entry : Nat
  /-- Whether the pattern matches the empty text inside a character, and can be tried there
  because it asks for no words beyond ASCII. -/
  splits : Bool

namespace Pattern

/-! ## Compilation -/

abbrev Assembler := StateM (Array Instruction)

def emit (i : Instruction) : Assembler Nat := fun code => (code.size, code.push i)

def again (greedy : Bool) (body next : Nat) : Instruction :=
  if greedy then .split body next else .split next body

def times (piece : Nat → Assembler Nat) : Nat → Nat → Assembler Nat
  | 0, next => pure next
  | n + 1, next => fun code =>
    let (next, code) := piece next code
    times piece n next code

/-- At most `n` times the same piece before `next`, each time behind a way out to `exit`. -/
def upTo (piece : Nat → Assembler Nat) (greedy : Bool) (exit : Nat) : Nat → Nat → Assembler Nat
  | 0, next => pure next
  | n + 1, next => fun code =>
    let (body, code) := piece next code
    let (next, code) := emit (again greedy body exit) code
    upTo piece greedy exit n next code

/-- One or more times the same piece. The result is the number of the piece; the choice
after it leads back. -/
def oneOrMore (piece : Nat → Assembler Nat) (greedy : Bool) (next : Nat) : Assembler Nat := do
  let choice ← emit .accept
  let body ← piece choice
  modify (·.set! choice (again greedy body next))
  pure body

/-- Any number of times the same piece. A loop that may come back to its start without a
step is entered through a choice of its own, which keeps the order of preference. -/
def zeroOrMore (piece : Nat → Assembler Nat) (advances greedy : Bool) (next : Nat) :
    Assembler Nat := do
  if advances then
    let choice ← emit .accept
    let body ← piece choice
    modify (·.set! choice (again greedy body next))
    pure choice
  else
    let body ← oneOrMore piece greedy next
    emit (again greedy body next)

mutual

/-- Instructions for a pattern that is followed by instruction `next`. The result is where
they begin. -/
def assemble : PatternTree → Nat → Assembler Nat
  | .empty, next => pure next
  | .text cs, next => cs.reverse.foldlM (fun next c => emit (.char c next)) next
  | .set s, next => emit (.take s next)
  | .look l, next => emit (.look l next)
  | .rounds p least most greedy, next => do
    match most, least with
    | some most, least =>
      times (assemble p) least (← upTo (assemble p) greedy next (most - least) next)
    | none, 0 => zeroOrMore (assemble p) p.advances greedy next
    | none, least + 1 => times (assemble p) least (← oneOrMore (assemble p) greedy next)
  | .group index p, next => do
    if index == 1 then
      let body ← assemble p (← emit (.leave next))
      emit (.enter body)
    else assemble p next
  | .seq ps, next => assembleSequence ps next
  | .alt ps, next => assembleChoices ps next

def assembleSequence : List PatternTree → Nat → Assembler Nat
  | [], next => pure next
  | p :: ps, next => do assemble p (← assembleSequence ps next)

def assembleChoices : List PatternTree → Nat → Assembler Nat
  | [], next => pure next
  | p :: ps, next => do
    if ps.isEmpty then assemble p next
    else
      let others ← assembleChoices ps next
      let first ← assemble p next
      emit (.split first others)

end

def ofTree (p : PatternTree) : Pattern :=
  let (entry, code) := (do assemble p (← emit .accept) : Assembler Nat).run #[]
  { code, entry, splits := p.nullable Look.holdsInside && !code.any (·.isAboutAllWords) }

def ofString? (s : String) : Option Pattern := do
  let p ← PatternTree.read? s
  if p.fits then some (ofTree p) else none

/-! ## Search -/

structure Marks where
  start : Option Nat := none
  stop : Option Nat := none

/-- A way to run the program: the next instruction and the places remembered. -/
structure Way where
  next : Nat
  marks : Marks

/-- Runs instructions that take no character. `pending` are ways to follow, best first, and
`ready` those that wait for a character or have accepted, best last. -/
def settle (p : Pattern) (place : Nat) (before after : Option Char) :
    Nat → (pending : List Way) → (visited : Std.HashSet Nat) → (ready : List Way) → List Way
  | 0, _, _, ready => ready.reverse
  | _ + 1, [], _, ready => ready.reverse
  | fuel + 1, w :: pending, visited, ready =>
    if visited.contains w.next then settle p place before after fuel pending visited ready
    else
      let visited := visited.insert w.next
      match p.code[w.next]? with
      | none => settle p place before after fuel pending visited ready
      | some (.char ..) => settle p place before after fuel pending visited (w :: ready)
      | some (.take ..) => settle p place before after fuel pending visited (w :: ready)
      | some .accept => settle p place before after fuel pending visited (w :: ready)
      | some (.look l next) =>
        if l.holds before after then
          settle p place before after fuel ({ w with next := next } :: pending) visited ready
        else settle p place before after fuel pending visited ready
      | some (.split first second) =>
        settle p place before after fuel
          ({ w with next := first } :: { w with next := second } :: pending) visited ready
      | some (.enter next) =>
        settle p place before after fuel
          ({ next := next, marks := { w.marks with start := some place } } :: pending) visited ready
      | some (.leave next) =>
        settle p place before after fuel
          ({ next := next, marks := { w.marks with stop := some place } } :: pending) visited ready

/-- Lets the ways take a character. `moved` are those that have, best last. The first way
that has accepted ends the list, for the ways after it are worse; its marks are returned. -/
def advance (p : Pattern) (c : Option Char) (moved : List Way) :
    List Way → List Way × Option Marks
  | [] => (moved.reverse, none)
  | w :: ways =>
    match p.code[w.next]? with
    | some .accept => (moved.reverse, some w.marks)
    | some (.char d next) =>
      if c == some d then advance p c ({ w with next := next } :: moved) ways
      else advance p c moved ways
    | some (.take s next) =>
      if c.any s.has then advance p c ({ w with next := next } :: moved) ways
      else advance p c moved ways
    | _ => advance p c moved ways

/-- Searches from a place on. A new way starts at every place until one has accepted. -/
def searchFrom (p : Pattern) (place : Nat) (before : Option Char) (ways : List Way)
    (found : Option Marks) : List Char → Option Marks
  | [] =>
    let ready := starting none
    (advance p none [] ready).2 <|> found
  | c :: cs =>
    let ready := starting (some c)
    let (ways, better) := advance p (some c) [] ready
    let found := better <|> found
    if ways.isEmpty && found.isSome then found
    else searchFrom p (place + 1) (some c) ways found cs
where
  starting (after : Option Char) : List Way :=
    let pending := if found.isSome then ways else ways ++ [{ next := p.entry, marks := {} }]
    settle p place before after (2 * p.code.size + pending.length + 1) pending {} []

def search? (p : Pattern) (s : String) : Option Marks := p.searchFrom 0 none [] none s.toList

/-! ## Existence -/

def hasAccepted (p : Pattern) (w : Way) : Bool :=
  match p.code[w.next]? with
  | some .accept => true
  | _ => false

/-- Whether a match ends at some place from here on. An empty match inside a character does
not count, but it ends the search that finds it: only the ways that start after it are
followed from there on. -/
def endsFrom (p : Pattern) (before : Option Char) (ways : List Way) : List Char → Bool
  | [] => (starting none).any p.hasAccepted
  | c :: cs =>
    let ready := starting (some c)
    if ready.any p.hasAccepted then true
    else
      let ways := if p.splits && 0x80 ≤ c.toNat then [] else (advance p (some c) [] ready).1
      endsFrom p (some c) ways cs
where
  starting (after : Option Char) : List Way :=
    let pending := ways ++ [{ next := p.entry, marks := {} }]
    settle p 0 before after (2 * p.code.size + pending.length + 1) pending {} []

def isMatch (p : Pattern) (s : String) : Bool := p.endsFrom none [] s.toList

/-- What the first group remembers in the first match, if it took part in it. -/
def firstGroup? (p : Pattern) (s : String) : Option String := do
  let marks ← p.search? s
  let (start, stop) := (← marks.start, ← marks.stop)
  pure (String.ofList ((s.toList.take stop).drop start))

end Pattern

end Bindery
