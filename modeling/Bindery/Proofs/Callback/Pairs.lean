import Bindery.Proofs.Callback.Trampoline

/-!
# Pairs of a function pointer and user data

What a callback site says about the arguments of its function. The argument for the callback is a
pointer to the function type in any case. A site that has been found by its types takes untyped user
data, which comes back through the callback; of a site that is hinted at only the first is checked.
-/

namespace Bindery

open Native (Identity Document DocumentError TypeNode)
open Native.Document (bind_ok lift_ok)

namespace Native.Document

variable {d : Document}

variable (d) in
def PointsTo (id functionType : Identity) : Prop :=
  ∃ pointer pointee size f, d.strip id = .ok (pointer, .pointer pointee size) ∧
    d.strip pointee = .ok (functionType, .function f)

theorem functionPointer?_ok {id functionType : Identity} {name : Option String}
    (h : d.functionPointer? id = .ok (some (functionType, name))) : d.PointsTo id functionType := by
  obtain ⟨⟨_, outer⟩, -, h⟩ := bind_ok.1 h
  obtain ⟨⟨pointer, node⟩, hstrip, h⟩ := bind_ok.1 h
  dsimp only at h
  split at h
  · rename_i pointee size
    obtain ⟨⟨target, node⟩, htarget, h⟩ := bind_ok.1 h
    dsimp only at h
    split at h
    · cases h
      exact ⟨_, _, _, _, hstrip, htarget⟩
    · cases h
  · cases h

end Native.Document

namespace CallbackSite

variable {d : Document} {f : Native.Function} {site : CallbackSite}

variable (d f site) in
structure TakesCallback : Prop where
  pointer : ∃ a, f.arguments[site.argIndex]? = some a ∧ d.PointsTo a.type site.functionType
  within : site.Within f.arguments.length

variable (d f site) in
def TakesUserData : Prop :=
  ∃ a, f.arguments[site.dataIndex]? = some a ∧ d.isVoidPointer a.type = .ok true

variable (d site) in
def HandsBack : Prop :=
  ∃ g a, d.functionType site.functionType = .ok g ∧ g.arguments[site.callbackDataIndex]? = some a ∧
    d.isVoidPointer a.type = .ok true

instance : Decidable (site.TakesUserData d f) :=
  decidable_of_iff ((f.arguments[site.dataIndex]?).any fun a => d.isVoidPointer a.type = .ok true) (by
    unfold TakesUserData
    cases f.arguments[site.dataIndex]? <;> simp)

instance : Decidable (site.HandsBack d) :=
  decidable_of_iff ((d.functionType site.functionType).toOption.any fun g =>
    (g.arguments[site.callbackDataIndex]?).any fun a => d.isVoidPointer a.type = .ok true) (by
    unfold HandsBack
    cases d.functionType site.functionType with
    | error e => exact ⟨nofun, nofun⟩
    | ok g => cases hg : g.arguments[site.callbackDataIndex]? <;> simp [Except.toOption, hg])

variable (d f site) in
structure Genuine : Prop where
  callback : site.TakesCallback d f
  userData : site.TakesUserData d f
  slot : site.HandsBack d

/-! ## Hints -/

theorem ofHint_pointer {h : Native.CallbackHint} (hs : ofHint d f h = .ok site) :
    ∃ a, f.arguments[site.argIndex]? = some a ∧ d.PointsTo a.type site.functionType := by
  unfold ofHint at hs
  dsimp only at hs
  split at hs
  · cases hs
  split at hs
  · cases hs
  · rename_i a ha
    obtain ⟨found, hfound, hs⟩ := bind_ok.1 hs
    split at hs
    · cases hs
    · cases hs
      exact ⟨a, ha, Native.Document.functionPointer?_ok (lift_ok.1 hfound)⟩

/-! ## Patterns -/

theorem firstVoidPointer?_ok {index slot : Nat} {as : List Native.Argument}
    (h : firstVoidPointer? d index as = .ok (some slot)) :
    ∃ i a, slot = index + i ∧ as[i]? = some a ∧ d.isVoidPointer a.type = .ok true := by
  induction as generalizing index with
  | nil => cases h
  | cons a as ih =>
    obtain ⟨b, hb, h⟩ := bind_ok.1 h
    split at h
    · cases h
      exact ⟨0, a, rfl, rfl, by simp_all⟩
    · obtain ⟨i, a', rfl, ha', hvoid⟩ := ih h
      exact ⟨i + 1, a', by omega, ha', hvoid⟩

theorem ofPair?_genuine {index : Nat} {a b : Native.Argument}
    (h : ofPair? d index a b = .ok (some site)) :
    d.PointsTo a.type site.functionType ∧ d.isVoidPointer b.type = .ok true ∧ site.HandsBack d := by
  obtain ⟨found, hfound, h⟩ := bind_ok.1 h
  split at h
  · cases h
  · rename_i functionType name
    obtain ⟨isPointer, hb, h⟩ := bind_ok.1 h
    split at h
    · rename_i hpointer
      obtain ⟨g, hg, h⟩ := bind_ok.1 h
      obtain ⟨slot, hslot, h⟩ := bind_ok.1 h
      cases slot with
      | none => cases h
      | some slot =>
        cases h
        obtain ⟨i, x, rfl, hx, hvoid⟩ := firstVoidPointer?_ok hslot
        refine ⟨Native.Document.functionPointer?_ok hfound, hpointer ▸ hb, g, x, hg, ?_, hvoid⟩
        rwa [← Nat.zero_add i] at hx
    · cases h

theorem firstPair?_found {index : Nat} {as : List Native.Argument}
    (h : firstPair? d index as = .ok (some site)) :
    ∃ i a b, as[i]? = some a ∧ as[i + 1]? = some b ∧ ofPair? d (index + i) a b = .ok (some site) := by
  induction as generalizing index with
  | nil => cases h
  | cons a as ih =>
    cases as with
    | nil => cases h
    | cons b rest =>
      obtain ⟨found, hfound, h⟩ := bind_ok.1 h
      cases found with
      | some found =>
        cases h
        exact ⟨0, a, b, rfl, rfl, hfound⟩
      | none =>
        obtain ⟨i, x, y, hx, hy, hpair⟩ := ih h
        exact ⟨i + 1, x, y, hx, hy, by rwa [← Nat.add_assoc, Nat.add_right_comm]⟩

/-! ## Detection -/

theorem detect_hinted {h : Native.CallbackHint} (hf : f.callback = some h)
    (hs : detect d f = .ok (some site)) : ofHint d f h = .ok site := by
  unfold detect at hs
  rw [hf] at hs
  obtain ⟨found, hfound, hs⟩ := bind_ok.1 hs
  cases hs
  exact hfound

theorem detect_genuine (hf : f.callback = none) (hs : detect d f = .ok (some site)) : site.Genuine d f := by
  have hwithin := detect_within hs
  unfold detect at hs
  rw [hf] at hs
  obtain ⟨i, a, b, ha, hb, hpair⟩ := firstPair?_found (lift_ok.1 hs)
  obtain ⟨hargIndex, hdataIndex⟩ := ofPair?_ok hpair
  obtain ⟨hpointer, huserData, hslot⟩ := ofPair?_genuine hpair
  rw [Nat.zero_add] at hargIndex hdataIndex
  exact ⟨⟨⟨a, hargIndex ▸ ha, hpointer⟩, hwithin⟩, ⟨b, hdataIndex ▸ hb, huserData⟩, hslot⟩

/-- With a hint or without, the callback is a pointer to a function type. -/
theorem detect_takesCallback (hs : detect d f = .ok (some site)) : site.TakesCallback d f := by
  cases hf : f.callback with
  | none => exact (detect_genuine hf hs).callback
  | some h => exact ⟨ofHint_pointer (detect_hinted hf hs), detect_within hs⟩

end CallbackSite

/-! ## Trampolines -/

namespace LoweringContext

variable {c : LoweringContext} {r r' : Registry}

theorem hasSlot_ok_iff {as : List Native.Argument} {slot : Nat} :
    c.hasSlot as slot = .ok true ↔ ∃ a, as[slot]? = some a ∧ c.document.isVoidPointer a.type = .ok true := by
  unfold hasSlot
  cases as[slot]? with
  | none => exact ⟨nofun, nofun⟩
  | some a => simp [lift_ok]

/-- A trampoline is only built for a callback that takes the user data back. -/
theorem handsBack_of_buildTrampoline {site : CallbackSite} {name : String} {t : Trampoline}
    (h : (c.buildTrampoline site name).run r = .ok (t, r')) : site.HandsBack c.document := by
  obtain ⟨g, _, _, _, _, _, hg, hslot, -⟩ := buildTrampoline_ok.1 h
  obtain ⟨a, ha, hvoid⟩ := hasSlot_ok_iff.1 hslot
  exact ⟨g, a, hg, ha, hvoid⟩

end LoweringContext

end Bindery
