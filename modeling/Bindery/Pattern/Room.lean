import Std.Data.HashMap
import Bindery.Pattern.Bytes

/-!
# The room that a pattern takes

A pattern is matched over bytes by two machines, one that reads a text forward and one that
reads it backward. Each state of a machine takes 32 bytes, and more where it leads to
several places: 8 bytes for each span of bytes that it distinguishes, 4 for each way of a
fork. Patterns whose machines would take more than ten mebibytes are refused. A machine is
laid out here state by state, so that its size is exact; nothing is kept of it but the
count.
-/

namespace Bindery

structure Room where
  states : Nat := 0
  /-- Bytes beyond those of the states themselves. -/
  extra : Nat := 0

abbrev Layout := StateT Room Option

/-- How a part of a machine ends: in a state with one way on, or in a fork that gets another
way to what follows. -/
inductive Outlet where
  | plain
  | fork

namespace Room

def limit : Nat := 0xA00000

def size (r : Room) : Nat := 32 * r.states + r.extra

def claim (states extra : Nat) : Layout Nat := fun r =>
  let larger : Room := { states := r.states + states, extra := r.extra + extra }
  if limit < larger.size then none else some (r.states, larger)

def link : Outlet → Layout Unit
  | .plain => pure ()
  | .fork => do let _ ← claim 0 4

/-! ## Characters, forward

The sequences of a set are merged where they end alike: a state that has been laid out
before is used again, if it is still found in its slot. -/

structure Edge where
  bytes : ByteSpan
  target : Nat
  deriving DecidableEq

/-- A state under construction: its edges, last ones first, and the span whose target is
not known yet. -/
structure Draft where
  edges : List Edge := []
  pending : Option ByteSpan := none

def slots : Nat := 10000

def suffixSlots : Nat := 1000

def mix (h : UInt64) (n : Nat) : UInt64 := (h ^^^ n.toUInt64) * 1099511628211

def hashStart : UInt64 := 14695981039346656037

def slotOf (edges : List Edge) : Nat :=
  let h := edges.foldl (fun h e => mix (mix (mix h e.bytes.first) e.bytes.last) e.target) hashStart
  h.toNat % slots

abbrev Known := Std.HashMap Nat (List Edge × Nat)

abbrev Merge := StateT Known Layout

def state (edges : List Edge) : Merge Nat := do
  let slot := slotOf edges.reverse
  match (← get)[slot]? with
  | some (known, number) =>
    if known == edges then return number
  | none => pure ()
  let number ← (claim 1 (8 * edges.length) : Layout Nat)
  modify (·.insert slot (edges, number))
  return number

def Draft.settled (d : Draft) (target : Nat) : List Edge :=
  match d.pending with
  | some bytes => { bytes, target } :: d.edges
  | none => d.edges

/-- Lays out drafts, of which each leads to the next. The last leads to `target`. -/
def finish (target : Nat) : List Draft → Merge Nat
  | [] => pure target
  | d :: rest => do state (d.settled (← finish target rest))

/-- Adds a sequence to the drafts. What it has in common with the sequence before stays. -/
def addSequence (target : Nat) : List Draft → List ByteSpan → Merge (List Draft)
  | drafts, [] => pure drafts
  | [], spans => pure (spans.map fun s => { pending := some s })
  | d :: rest, s :: spans => do
    if d.pending == some s then return d :: (← addSequence target rest spans)
    let next ← finish target rest
    return { edges := d.settled next, pending := some s } :: spans.map fun s => { pending := some s }

def layForward (sequences : List (List ByteSpan)) : Layout Outlet := do
  let target ← claim 1 0
  let merge : Merge Unit := do
    let drafts ← sequences.foldlM (addSequence target) [{}]
    let _ ← finish target drafts
  let _ ← merge.run {}
  pure .plain

/-! ## Characters, backward

The sequences of a set leave a fork in reverse. A state with the same byte span and the
same next state is used again. -/

/-- The states of a set, by their slots: the next state, the bytes, and the state. -/
abbrev KnownSuffixes := Std.HashMap Nat (Nat × ByteSpan × Nat)

def suffix (next : Nat) (s : ByteSpan) : StateT KnownSuffixes Layout Nat := do
  let slot := (mix (mix (mix hashStart next) s.first) s.last).toNat % suffixSlots
  match (← get)[slot]? with
  | some (after, bytes, number) =>
    if after == next && bytes == s then return number
  | none => pure ()
  let number ← (claim 1 0 : Layout Nat)
  modify (·.insert slot (next, s, number))
  return number

def layBackward (sequences : List (List ByteSpan)) : Layout Outlet := do
  let _ ← claim 1 (4 * sequences.length)
  let target ← claim 1 0
  let share : StateT KnownSuffixes Layout Unit := sequences.forM fun spans => do
    let _ ← spans.foldlM suffix target
  let _ ← share.run {}
  pure .plain

/-! ## Texts as alternatives

Texts that are alternatives share their beginnings. In a place that several texts go
through, the texts that end there part those before them from those after them. -/

/-- The texts that go on from a place, without their first bytes and by these. -/
abbrev Ways := List (Nat × List (List Nat))

def addWay (b : Nat) (rest : List Nat) : Ways → Ways
  | [] => [(b, [rest])]
  | (c, rests) :: ways =>
    if b = c then (c, rest :: rests) :: ways else (c, rests) :: addWay b rest ways

/-- A place that texts go through: the ways on, and those before each end of a text. -/
structure Crossing where
  ways : Ways := []
  earlier : List Ways := []

def Crossing.add (x : Crossing) : List Nat → Crossing
  | b :: rest => { x with ways := addWay b rest x.ways }
  | [] =>
    if x.ways.isEmpty && !x.earlier.isEmpty && x.earlier.all (·.isEmpty) then x
    else { ways := [], earlier := x.ways :: x.earlier }

def layTexts : (depth : Nat) → List (List Nat) → Layout Unit
  | 0, _ => pure ()
  | depth + 1, texts => do
    let x := texts.foldl Crossing.add {}
    let parts := (x.ways :: x.earlier).filter fun ways => !ways.isEmpty
    if parts.isEmpty then pure ()
    else
      let _ ← claim 1 (4 * (parts.length + x.earlier.length))
      parts.forM fun ways => do
        let _ ← claim 1 (if 2 ≤ ways.length then 8 * ways.length else 0)
        ways.forM fun way => layTexts depth way.2.reverse

/-! ## Repetition -/

def moreRounds (round : Layout Outlet) : Nat → Outlet → Layout Outlet
  | 0, outlet => fun r => some (outlet, r)
  | n + 1, outlet => fun r =>
    match (do link outlet; round : Layout Outlet) r with
    | some (outlet, r) => moreRounds round n outlet r
    | none => none

def exactRounds (round : Layout Outlet) : Nat → Layout Outlet
  | 0 => do
    let _ ← claim 1 0
    pure .plain
  | n + 1 => do moreRounds round n (← round)

def optionalRounds (round : Layout Outlet) : Nat → Outlet → Layout Outlet
  | 0, outlet => fun r => some (outlet, r)
  | n + 1, outlet => fun r =>
    match (do let _ ← claim 1 8; let next ← round; link outlet; pure next : Layout Outlet) r with
    | some (outlet, r) => optionalRounds round n outlet r
    | none => none

def boundedRounds (round : Layout Outlet) (least most : Nat) : Layout Outlet := do
  let outlet ← exactRounds round least
  let _ ← claim 1 0
  link (← optionalRounds round (most - least) outlet)
  pure .plain

/-- At least some rounds. A loop that may come back to its start without a step has an
entrance of its own. -/
def endlessRounds (round : Layout Outlet) (advances : Bool) : (least : Nat) → Layout Outlet
  | 0 => do
    if advances then
      let _ ← claim 1 4
      link (← round)
      pure .fork
    else
      link (← round)
      let _ ← claim 3 16
      pure .plain
  | 1 => do
    link (← round)
    let _ ← claim 1 4
    pure .fork
  | least + 2 => do
    let outlet ← exactRounds round (least + 1)
    link outlet
    link (← round)
    let _ ← claim 1 4
    pure .fork

def layRounds (round : Layout Outlet) (least : Nat) (most : Option Nat) (advances : Bool) :
    Layout Outlet := do
  match most with
  | none => endlessRounds round advances least
  | some most =>
    if least = 0 && most = 1 then
      let _ ← claim 1 8
      link (← round)
      let _ ← claim 1 0
      pure .plain
    else if least = most then exactRounds round least
    else boundedRounds round least most

/-! ## Whole machines -/

mutual

/-- Lays out a pattern. Reading backward, no group is remembered. -/
def lay (backward : Bool) : BytePattern → Layout Outlet
  | .empty => do
    let _ ← claim 1 0
    pure .plain
  | .text bytes => do
    let _ ← claim bytes.length 0
    pure .plain
  | .byte spans => do
    let _ ← claim 2 (8 * spans)
    pure .plain
  | .char sequences => if backward then layBackward sequences else layForward sequences
  | .look => do
    let _ ← claim 1 0
    pure .plain
  | .rounds p least most advances => layRounds (lay backward p) least most advances
  | .group p =>
    if backward then lay backward p
    else do
      let _ ← claim 1 0
      link (← lay backward p)
      let _ ← claim 1 0
      pure .plain
  | .seq ps => do
    if backward then laySequenceBackward ps else laySequence ps
  | .alt ps =>
    match ps.mapM BytePattern.text? with
    | some texts => do
      let _ ← claim 1 0
      let texts := if backward then texts.map List.reverse else texts
      layTexts (texts.foldl (fun n t => max n t.length) 0) texts
      pure .plain
    | none => do
      layChoices backward 2 ps
      pure .plain

def laySequence : List BytePattern → Layout Outlet
  | [] => pure .plain
  | p :: ps => do
    let outlet ← lay false p
    if ps.isEmpty then pure outlet
    else
      link outlet
      laySequence ps

def laySequenceBackward : List BytePattern → Layout Outlet
  | [] => pure .plain
  | p :: ps => do
    if ps.isEmpty then lay true p
    else
      link (← laySequenceBackward ps)
      lay true p

/-- Lays out alternatives, of which `before` are laid out before their fork. -/
def layChoices (backward : Bool) : (before : Nat) → List BytePattern → Layout Unit
  | _, [] => pure ()
  | before, p :: ps => do
    link (← lay backward p)
    let _ ← claim (if before = 1 then 2 else 0) 4
    layChoices backward (before - 1) ps

end

/-- Lays out a machine that may start anywhere in a text, unless it is bound to its edge. -/
def layMachine (p : PatternTree) (backward : Bool) : Layout Unit := do
  let bound := if backward then p.ends .textEnd else p.begins .textStart
  let _ ← if bound then claim 1 0 else claim 3 16
  if backward then link (← lay true (.ofTree p))
  else
    let _ ← lay false (.group (.ofTree p))
  let _ ← claim 1 0

end Room

def PatternTree.fits (p : PatternTree) : Bool :=
  (Room.layMachine p false {}).isSome && (Room.layMachine p true {}).isSome

end Bindery
