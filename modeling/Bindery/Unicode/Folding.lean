import Std.Data.HashSet
import Bindery.Text.CaseTable
import Bindery.Unicode.CodeSet

/-!
# Case folding

Two characters are variants of each other when simple folding sends them to one
representative, which is the least of them. A pattern that ignores case accepts every
variant of a character.
-/

namespace Bindery

def Run.members (r : Run) : List Nat :=
  (List.range ((r.last - r.first) / r.step + 1)).map fun i => r.first + i * r.step

/-- A code point and the representative of its variants. -/
structure Folding where
  code : Nat
  representative : Nat

namespace Folding

def all : List Folding :=
  let moved := foldRuns.flatMap fun (r, shift) =>
    r.members.map fun n => Folding.mk n ((n : Int) + shift).toNat
  let fixed := moved.map fun f => Folding.mk f.representative f.representative
  (moved ++ fixed).mergeSort fun a b => a.code ≤ b.code

def within : List Span → List Folding → List Nat
  | [], _ => []
  | _, [] => []
  | s :: spans, f :: rest =>
    if f.code < s.first then within (s :: spans) rest
    else if s.last < f.code then within spans (f :: rest)
    else f.representative :: within (s :: spans) rest
termination_by spans foldings => spans.length + foldings.length

end Folding

namespace CodeSet

def folded (s : CodeSet) : CodeSet :=
  match Folding.within s.spans Folding.all with
  | [] => s
  | found =>
    let found := Std.HashSet.ofList found
    let variants := Folding.all.filter fun f => found.contains f.representative
    s ∪ .ofSpans (variants.map fun f => ⟨f.code, f.code⟩)

def foldedAscii (s : CodeSet) : CodeSet :=
  let lowers := (s ∩ range 'A' 'Z').spans.map fun t => Span.mk (t.first + 32) (t.last + 32)
  let uppers := (s ∩ range 'a' 'z').spans.map fun t => Span.mk (t.first - 32) (t.last - 32)
  s ∪ .ofSpans (lowers ++ uppers)

end CodeSet

end Bindery
