/-!
# Beginnings and ends of texts

A text without a given beginning or end, and the test for a piece in the middle.
-/

namespace Bindery

def dropStart? : (start cs : List Char) → Option (List Char)
  | [], cs => some cs
  | _ :: _, [] => none
  | a :: start, c :: cs => if a = c then dropStart? start cs else none

theorem dropStart?_eq_some_iff {start cs rest : List Char} :
    dropStart? start cs = some rest ↔ cs = start ++ rest := by
  induction start generalizing cs with
  | nil => simp [dropStart?]
  | cons a start ih =>
    cases cs with
    | nil => simp [dropStart?]
    | cons c cs =>
      simp only [dropStart?, List.cons_append, List.cons.injEq]
      split
      · rename_i h
        simp [h, ih]
      · rename_i h
        simp [Ne.symm h]

def dropEnd? (stop cs : List Char) : Option (List Char) :=
  (dropStart? stop.reverse cs.reverse).map List.reverse

theorem dropEnd?_eq_some_iff {stop cs rest : List Char} :
    dropEnd? stop cs = some rest ↔ cs = rest ++ stop := by
  simp only [dropEnd?, Option.map_eq_some_iff, dropStart?_eq_some_iff]
  constructor
  · rintro ⟨r, h, rfl⟩
    have := congrArg List.reverse h
    simpa using this
  · rintro rfl
    exact ⟨rest.reverse, by simp, by simp⟩

def withoutStart? (start s : String) : Option String :=
  (dropStart? start.toList s.toList).map String.ofList

def withoutEnd? (stop s : String) : Option String :=
  (dropEnd? stop.toList s.toList).map String.ofList

def hasStart (start s : String) : Bool := (dropStart? start.toList s.toList).isSome

def occursIn (piece : List Char) : List Char → Bool
  | [] => piece.isEmpty
  | c :: cs => (dropStart? piece (c :: cs)).isSome || occursIn piece cs

def hasPiece (piece s : String) : Bool := occursIn piece.toList s.toList

end Bindery
