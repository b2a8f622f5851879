import Bindery.Text.Word

/-!
# Patterns

The form of a pattern: fixed texts, characters out of sets, conditions on the place
between two characters, sequences, alternatives of which earlier ones are preferred,
repetitions that prefer more or fewer rounds, and groups that remember what they matched.
Patterns are built by `sequence`, `alternatives`, `repeated` and `ofSet`, which keep them
simple: a sequence has no sequence and no two texts side by side in it, single characters
that are alternatives make one set, and alternatives that begin alike share the beginning.
-/

namespace Bindery

inductive Look where
  | textStart
  | textEnd
  | lineStart
  | lineEnd
  | anyLineStart
  | anyLineEnd
  | wordBoundary (ascii : Bool)
  | noWordBoundary (ascii : Bool)
  | wordStart (ascii : Bool)
  | wordEnd (ascii : Bool)
  | wordStartHalf (ascii : Bool)
  | wordEndHalf (ascii : Bool)
  deriving DecidableEq, Repr

inductive PatternTree where
  | empty
  | text (cs : List Char)
  | set (s : CodeSet)
  | look (l : Look)
  | rounds (p : PatternTree) (least : Nat) (most : Option Nat) (greedy : Bool)
  | group (index : Nat) (p : PatternTree)
  | seq (ps : List PatternTree)
  | alt (ps : List PatternTree)
  deriving Inhabited

namespace Look

def holds (l : Look) (before after : Option Char) : Bool :=
  let word (ascii : Bool) (c : Option Char) := c.any (if ascii then isAsciiWord else isWord)
  match l with
  | textStart => before.isNone
  | textEnd => after.isNone
  | lineStart => before.all (· == '\n')
  | lineEnd => after.all (· == '\n')
  | anyLineStart => before.all fun c => c == '\n' || (c == '\r' && after != some '\n')
  | anyLineEnd => after.all fun c => c == '\r' || (c == '\n' && before != some '\r')
  | wordBoundary ascii => word ascii before != word ascii after
  | noWordBoundary ascii => word ascii before == word ascii after
  | wordStart ascii => !word ascii before && word ascii after
  | wordEnd ascii => word ascii before && !word ascii after
  | wordStartHalf ascii => !word ascii before
  | wordEndHalf ascii => !word ascii after

/-- Whether the condition holds inside a character, between two of its bytes. These belong
to no word, and only the conditions on ASCII words look at single bytes. -/
def holdsInside : Look → Bool
  | noWordBoundary ascii => ascii
  | wordStartHalf ascii => ascii
  | wordEndHalf ascii => ascii
  | _ => false

def isAboutAllWords : Look → Bool
  | wordBoundary ascii => !ascii
  | noWordBoundary ascii => !ascii
  | wordStart ascii => !ascii
  | wordEnd ascii => !ascii
  | wordStartHalf ascii => !ascii
  | wordEndHalf ascii => !ascii
  | _ => false

end Look

namespace PatternTree

/-! ## What a pattern takes -/

mutual

/-- Whether the pattern matches without taking a character at a place where some of the
conditions hold. -/
def nullable (holds : Look → Bool) : PatternTree → Bool
  | empty => true
  | text _ => false
  | set _ => false
  | look l => holds l
  | rounds p least _ _ => least == 0 || p.nullable holds
  | group _ p => p.nullable holds
  | seq ps => allNullable holds ps
  | alt ps => anyNullable holds ps

def allNullable (holds : Look → Bool) : List PatternTree → Bool
  | [] => true
  | p :: ps => p.nullable holds && allNullable holds ps

def anyNullable (holds : Look → Bool) : List PatternTree → Bool
  | [] => false
  | p :: ps => p.nullable holds || anyNullable holds ps

end

mutual

def idle : PatternTree → Bool
  | empty => true
  | text _ => false
  | set _ => false
  | look _ => true
  | rounds p _ most _ => most.isSome && p.idle
  | group _ p => p.idle
  | seq ps => allIdle ps
  | alt ps => allIdle ps

def allIdle : List PatternTree → Bool
  | [] => true
  | p :: ps => p.idle && allIdle ps

end

mutual

def hopeless : PatternTree → Bool
  | empty => false
  | text _ => false
  | set s => s.isEmpty
  | look _ => false
  | rounds p _ _ _ => p.hopeless
  | group _ p => p.hopeless
  | seq ps => anyHopeless ps
  | alt ps => anyHopeless ps

def anyHopeless : List PatternTree → Bool
  | [] => false
  | p :: ps => p.hopeless || anyHopeless ps

end

/-- Whether every match is known to take a character, so that a loop over the pattern
always moves on. -/
def advances (p : PatternTree) : Bool := !p.nullable (fun _ => true) && !p.hopeless

/-! ## Where a pattern is bound to -/

mutual

def begins (l : Look) : PatternTree → Bool
  | empty => false
  | text _ => false
  | set _ => false
  | look k => k == l
  | rounds p least _ _ => 0 < least && p.begins l
  | group _ p => p.begins l
  | seq ps => firstBegins l ps
  | alt ps => allBegin l ps

def firstBegins (l : Look) : List PatternTree → Bool
  | [] => false
  | p :: ps => p.begins l || (p.idle && firstBegins l ps)

def allBegin (l : Look) : List PatternTree → Bool
  | [] => true
  | p :: ps => p.begins l && allBegin l ps

end

mutual

def ends (l : Look) : PatternTree → Bool
  | empty => false
  | text _ => false
  | set _ => false
  | look k => k == l
  | rounds p least _ _ => 0 < least && p.ends l
  | group _ p => p.ends l
  | seq ps => lastEnds l ps
  | alt ps => allEnd l ps

def lastEnds (l : Look) : List PatternTree → Bool
  | [] => false
  | p :: ps => (allIdle ps && p.ends l) || lastEnds l ps

def allEnd (l : Look) : List PatternTree → Bool
  | [] => true
  | p :: ps => p.ends l && allEnd l ps

end

/-! ## Equality -/

mutual

def same : PatternTree → PatternTree → Bool
  | empty, empty => true
  | text a, text b => a == b
  | set a, set b => a == b
  | look a, look b => a == b
  | rounds p a b c, rounds q d e f => a == d && b == e && c == f && p.same q
  | group i p, group j q => i == j && p.same q
  | seq ps, seq qs => allSame ps qs
  | alt ps, alt qs => allSame ps qs
  | _, _ => false

def allSame : List PatternTree → List PatternTree → Bool
  | [], [] => true
  | p :: ps, q :: qs => p.same q && allSame ps qs
  | _, _ => false

end

/-! ## Construction -/

def ofSet (s : CodeSet) : PatternTree :=
  match s.spans with
  | [⟨first, last⟩] => if first = last then .text [Char.ofNat first] else .set s
  | _ => .set s

def parts : PatternTree → List PatternTree
  | empty => []
  | seq ps => ps
  | p => [p]

def joinTexts : List PatternTree → List PatternTree
  | [] => []
  | text a :: rest =>
    match joinTexts rest with
    | text b :: rest => text (a ++ b) :: rest
    | rest => text a :: rest
  | p :: rest => p :: joinTexts rest

def sequence (ps : List PatternTree) : PatternTree :=
  match joinTexts (ps.flatMap parts) with
  | [] => empty
  | [p] => p
  | ps => seq ps

def branches : PatternTree → List PatternTree
  | alt ps => ps
  | p => [p]

def char? : PatternTree → Option Char
  | text [c] => some c
  | _ => none

def set? : PatternTree → Option CodeSet
  | set s => some s
  | _ => none

def seq? : PatternTree → Option (List PatternTree)
  | seq ps => some ps
  | _ => none

/-- Alternatives out of one or more choices, as one set if all are characters or all sets. -/
def choice (ps : List PatternTree) : PatternTree :=
  match ps.flatMap branches with
  | [p] => p
  | ps =>
    match ps.mapM char? with
    | some cs => ofSet (.ofRanges (cs.map fun c => (c, c)))
    | none =>
      match ps.mapM set? with
      | some sets => ofSet (.ofSpans (sets.flatMap (·.spans)))
      | none => alt ps

def commonStart : List PatternTree → List PatternTree → List PatternTree
  | p :: ps, q :: qs => if p.same q then p :: commonStart ps qs else []
  | _, _ => []

/-- Alternatives, of which sequences with a common beginning are joined there. -/
def alternatives (ps : List PatternTree) : PatternTree :=
  match choice ps with
  | alt ps =>
    match ps.mapM seq? with
    | some (first :: others) =>
      match others.foldl commonStart first with
      | [] => alt ps
      | start =>
        let rests := (first :: others).map fun qs => sequence (qs.drop start.length)
        sequence (start ++ [choice rests])
    | _ => alt ps
  | p => p

/-- Rounds of a pattern. One that takes no character has no use for more than one round. -/
def repeated (p : PatternTree) (least : Nat) (most : Option Nat) (greedy : Bool) : PatternTree :=
  let (least, most) :=
    if p.idle then (min least 1, some (min (most.getD 1) 1)) else (least, most)
  if most = some 0 then empty
  else if least = 1 && most = some 1 then p
  else rounds p least most greedy

end PatternTree

end Bindery
