import Bindery.Native.Loading

/-!
# Accepted documents

What the checks of a document that is accepted say about it.
-/

namespace Bindery.Native.Document

theorem bind_ok {ε α β : Type} {x : Except ε α} {f : α → Except ε β} {b : β} :
    (x >>= f) = .ok b ↔ ∃ a, x = .ok a ∧ f a = .ok b := by
  cases x with
  | error e => exact ⟨nofun, nofun⟩
  | ok a => exact ⟨fun h => ⟨a, rfl, h⟩, fun ⟨_, ha, h⟩ => by cases ha; exact h⟩

/-- A result that passes a test is a result. -/
theorem ok_of_any {ε α : Type} {x : Except ε α} {f : α → Bool} (h : x.toOption.any f = true) :
    ∃ a, x = .ok a ∧ f a = true := by
  cases x with
  | error e => cases h
  | ok a => exact ⟨a, rfl, h⟩

variable {d : Document}

theorem nodup_of_checkFunctions {seen : List Identity} {fs : List Function}
    (h : d.checkFunctions seen fs = .ok ()) :
    (fs.map (·.id)).Nodup ∧ ∀ f ∈ fs, f.id ∉ seen := by
  induction fs generalizing seen with
  | nil => exact ⟨List.nodup_nil, nofun⟩
  | cons f fs ih =>
    rw [checkFunctions] at h
    split at h
    · cases h
    · rename_i hs
      have hf : f.id ∉ seen := by simpa using hs
      obtain ⟨_, -, h⟩ := bind_ok.1 h
      obtain ⟨hnd, hrest⟩ := ih h
      refine ⟨List.nodup_cons.2 ⟨fun hm => ?_, hnd⟩, fun g hg => ?_⟩
      · obtain ⟨g, hg, he⟩ := List.mem_map.1 hm
        exact hrest g hg (he ▸ List.mem_cons_self)
      · rcases List.mem_cons.1 hg with rfl | hg
        · exact hf
        · exact fun hm => hrest g hg (List.mem_cons_of_mem _ hm)

theorem functions_of_resolveRoots {raw : Document} (h : raw.resolveRoots = .ok d) :
    d.functions = raw.functions := by
  obtain ⟨_, -, h⟩ := bind_ok.1 h
  cases h
  rfl

/-- No two functions of an accepted document have the same identity. -/
theorem nodup_functions_of_accept {raw : Document} (h : raw.accept = .ok d) :
    (d.functions.map (·.id)).Nodup := by
  obtain ⟨_, hclosed, hroots⟩ := bind_ok.1 h
  obtain ⟨_, -, hclosed⟩ := bind_ok.1 hclosed
  obtain ⟨_, hfunctions, -⟩ := bind_ok.1 hclosed
  rw [functions_of_resolveRoots hroots]
  exact (nodup_of_checkFunctions hfunctions).1

end Bindery.Native.Document
