import Bindery.Text.Pieces

/-!
# Sets of code points

A set is a list of ascending spans. The surrogates, which are no characters, lie between
two neighbours of the code space: what follows U+D7FF is U+E000. Tables of the standard
are written as texts such as `41-5A 100-136/2 AA`, where a number after a slash is the
step from one member of a span to the next.
-/

namespace Bindery

structure Span where
  first : Nat
  last : Nat
  deriving DecidableEq, Repr, Inhabited

structure CodeSet where
  spans : List Span := []
  deriving DecidableEq, Repr, Inhabited

def lastCode : Nat := 0x10FFFF

/-- The next code point that is a character. -/
def codeAfter (n : Nat) : Nat := if n = 0xD7FF then 0xE000 else n + 1

def codeBefore (n : Nat) : Nat := if n = 0xE000 then 0xD7FF else n - 1

namespace Span

def between (a b : Nat) : Span := if a ≤ b then ⟨a, b⟩ else ⟨b, a⟩

def join : List Span → List Span
  | [] => []
  | [s] => [s]
  | s :: t :: rest =>
    if t.first ≤ s.last + 1 then join (⟨s.first, max s.last t.last⟩ :: rest)
    else s :: join (t :: rest)
termination_by spans => spans.length

def anyHas : List Span → Nat → Bool
  | [], _ => false
  | s :: rest, n => if n < s.first then false else n ≤ s.last || anyHas rest n

def meet : List Span → List Span → List Span
  | [], _ => []
  | _, [] => []
  | a :: as, b :: bs =>
    let rest := if a.last < b.last then meet as (b :: bs) else meet (a :: as) bs
    let both : Span := ⟨max a.first b.first, min a.last b.last⟩
    if both.first ≤ both.last then both :: rest else rest
termination_by as bs => as.length + bs.length

def without : List Span → List Span → List Span
  | [], _ => []
  | as, [] => as
  | a :: as, b :: bs =>
    if b.last < a.first then without (a :: as) bs
    else if a.last < b.first then a :: without as (b :: bs)
    else
      let left : List Span := if a.first < b.first then [⟨a.first, codeBefore b.first⟩] else []
      if b.last < a.last then left ++ without (⟨codeAfter b.last, a.last⟩ :: as) bs
      else left ++ without as (b :: bs)
termination_by as bs => as.length + bs.length

def gapsAfter (s : Span) : List Span → List Span
  | [] => if s.last < lastCode then [⟨codeAfter s.last, lastCode⟩] else []
  | t :: rest => between (codeAfter s.last) (codeBefore t.first) :: gapsAfter t rest

def gaps : List Span → List Span
  | [] => [⟨0, lastCode⟩]
  | s :: rest =>
    (if 0 < s.first then [⟨0, codeBefore s.first⟩] else []) ++ gapsAfter s rest

end Span

namespace CodeSet

def ofSpans (spans : List Span) : CodeSet :=
  ⟨Span.join (spans.mergeSort fun a b =>
    a.first < b.first || (a.first == b.first && a.last ≤ b.last))⟩

def any : CodeSet := ⟨[⟨0, lastCode⟩]⟩

def ascii : CodeSet := ⟨[⟨0, 0x7F⟩]⟩

def range (first last : Char) : CodeSet := ⟨[⟨first.toNat, last.toNat⟩]⟩

def single (c : Char) : CodeSet := range c c

def ofRanges (ranges : List (Char × Char)) : CodeSet :=
  ofSpans (ranges.map fun r => ⟨r.1.toNat, r.2.toNat⟩)

def has (s : CodeSet) (c : Char) : Bool := Span.anyHas s.spans c.toNat

def isEmpty (s : CodeSet) : Bool := s.spans.isEmpty

def isAscii (s : CodeSet) : Bool := s.spans.all (·.last < 0x80)

def union (a b : CodeSet) : CodeSet := ofSpans (a.spans ++ b.spans)

def inter (a b : CodeSet) : CodeSet := ⟨Span.meet a.spans b.spans⟩

def diff (a b : CodeSet) : CodeSet := ⟨Span.without a.spans b.spans⟩

def symmDiff (a b : CodeSet) : CodeSet := (a.union b).diff (a.inter b)

def compl (a : CodeSet) : CodeSet := ⟨Span.gaps a.spans⟩

instance : Union CodeSet := ⟨union⟩
instance : Inter CodeSet := ⟨inter⟩
instance : SDiff CodeSet := ⟨diff⟩

/-! ## Tables -/

def hexDigit (c : Char) : Nat := if c.isDigit then c.toNat - 48 else c.toNat - 55

def hexNat (cs : List Char) : Nat := cs.foldl (fun n c => 16 * n + hexDigit c) 0

def decimalNat (cs : List Char) : Nat := cs.foldl (fun n c => 10 * n + (c.toNat - 48)) 0

def entrySpans (entry : List Char) : List Span :=
  match (pieces '/' entry).map (pieces '-') with
  | [[first]] => [⟨hexNat first, hexNat first⟩]
  | [[first, last]] => [⟨hexNat first, hexNat last⟩]
  | [[first, last], [step]] =>
    let (first, last, step) := (hexNat first, hexNat last, decimalNat step)
    (List.range ((last - first) / step + 1)).map fun i => ⟨first + i * step, first + i * step⟩
  | _ => []

def ofTable (lines : List String) : CodeSet :=
  ofSpans (lines.flatMap fun line => (pieces ' ' line.toList).flatMap entrySpans)

end CodeSet

end Bindery
