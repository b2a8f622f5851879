import Bindery.Pattern.Tree

/-!
# Patterns over bytes

What a pattern asks of the UTF-8 encoding of a text. A span of characters becomes one or
more sequences of byte spans: it is cut until the encodings of its ends have one length
and vary independently in each byte.
-/

namespace Bindery

structure ByteSpan where
  first : Nat
  last : Nat
  deriving DecidableEq, Repr

namespace Span

def encoding (n : Nat) : List Nat :=
  if n < 0x80 then [n]
  else if n < 0x800 then [0xC0 + n / 0x40, 0x80 + n % 0x40]
  else if n < 0x10000 then [0xE0 + n / 0x1000, 0x80 + n / 0x40 % 0x40, 0x80 + n % 0x40]
  else
    [0xF0 + n / 0x40000, 0x80 + n / 0x1000 % 0x40, 0x80 + n / 0x40 % 0x40, 0x80 + n % 0x40]

def lengthCut? (first last : Nat) : Option Nat :=
  [0x7F, 0x7FF, 0xFFFF].find? fun n => first ≤ n && n < last

/-- Where a span has to be cut so that its last bytes vary independently of those before
them; `block` is the number of code points that share all earlier bytes. -/
def blockCut? (first last block : Nat) : Option Nat :=
  if first / block == last / block then none
  else if first % block != 0 then some (first / block * block + block - 1)
  else if last % block != block - 1 then some (last / block * block - 1)
  else none

def cut? (first last : Nat) : Option Nat :=
  if first < 0xE000 && 0xD7FF < last then some 0xD7FF
  else
    lengthCut? first last
      <|> (if last < 0x80 then none else [0x40, 0x1000, 0x40000].findSome? (blockCut? first last))

/-- The sequences of byte spans that encode a span of characters, in ascending order. -/
def byteSequences (first last : Nat) : List (List ByteSpan) :=
  match cut? first last with
  | none => [((encoding first).zip (encoding last)).map fun (a, b) => ⟨a, b⟩]
  | some n =>
    if first ≤ n ∧ n < last then byteSequences first n ++ byteSequences (codeAfter n) last
    else []
termination_by last - first
decreasing_by
  · omega
  · have : n < codeAfter n := by unfold codeAfter; split <;> omega
    omega

end Span

inductive BytePattern where
  | empty
  | text (bytes : List Nat)
  | byte (spans : Nat)
  /-- One character, by the sequences of byte spans that encode it. -/
  | char (sequences : List (List ByteSpan))
  | look
  /-- `advances` says whether every round is known to take a byte. -/
  | rounds (p : BytePattern) (least : Nat) (most : Option Nat) (advances : Bool)
  | group (p : BytePattern)
  | seq (ps : List BytePattern)
  | alt (ps : List BytePattern)
  deriving Inhabited

namespace BytePattern

def text? : BytePattern → Option (List Nat)
  | text bytes => some bytes
  | _ => none

mutual

def ofTree : PatternTree → BytePattern
  | .empty => empty
  | .text cs => text (cs.flatMap fun c => Span.encoding c.toNat)
  | .set s =>
    if s.isAscii then byte s.spans.length
    else char (s.spans.flatMap fun t => Span.byteSequences t.first t.last)
  | .look _ => look
  | .rounds p least most _ => rounds (ofTree p) least most p.advances
  | .group _ p => group (ofTree p)
  | .seq ps => seq (ofTrees ps)
  | .alt ps => alt (ofTrees ps)

def ofTrees : List PatternTree → List BytePattern
  | [] => []
  | p :: ps => ofTree p :: ofTrees ps

end

end BytePattern

end Bindery
