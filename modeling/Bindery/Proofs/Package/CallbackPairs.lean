import Bindery.Proofs.Callback.Pairs
import Bindery.Proofs.Package.Trampolines

/-!
# Callback pairs of prepared packages

Preparing a package checks the user data of a callback where its trampoline is built, which is for
the first function with its signature key. Where the pair is hinted at, the argument that stands for
the user data is never checked, and neither is the callback of a later function with that key.
-/

namespace Bindery

open Native (Identity)

namespace Package

variable {p p' : Package} {included : List Package}

/-- The callback of the first function with its signature key takes the user data back. -/
theorem handsBack_of_first (h : p.prepare included = .ok p') {earlier later : List Native.Function}
    {f : Native.Function} (hf : p.wantedFunctions = earlier ++ f :: later) {site : CallbackSite} {key : String}
    (huses : p.Uses f site key) (hfirst : ∀ g ∈ earlier, ∀ other, ¬ p.Uses g other key) :
    site.HandsBack p.document := by
  obtain ⟨names, hpool⟩ := prepare_pooled h
  have hmem : f ∈ p.wantedFunctions := by
    rw [hf]
    exact List.mem_append_right _ List.mem_cons_self
  obtain ⟨t, ht, rfl⟩ := List.mem_map.1 (hpool.served f hmem huses)
  obtain ⟨before, after, hsplit⟩ := List.append_of_mem ht
  obtain ⟨earlier', g, later', site', hg, hintroduces⟩ := hpool.introduced hsplit
  -- both are the first function with the key of the trampoline
  obtain rfl : f = g := first_unique (P := fun g => ∃ other, p.Uses g other t.key) (hf.symm.trans hg)
    ⟨site, huses⟩ ⟨site', hintroduces.uses⟩ (fun x hx hu => hu.elim (hfirst x hx))
    fun x hx hu => hu.elim (hintroduces.first x hx)
  obtain ⟨rfl, -⟩ := huses.unique hintroduces.uses
  obtain ⟨r, r', hbuilt⟩ := hintroduces.built
  exact LoweringContext.handsBack_of_buildTrampoline hbuilt

/-- Wherever a callback is found, its signature key is what a trampoline is looked up by. -/
theorem uses_of_lowerWanted {f : Native.Function} {pool pool' : TrampolinePool} {w : Wrapper} {r r' : Registry}
    (hw : (p.lowerWanted f pool).run r = .ok ((w, pool'), r')) {site : CallbackSite}
    (hs : CallbackSite.detect p.document f = .ok (some site)) : ∃ key, p.Uses f site key := by
  obtain ⟨_, _, -, hw⟩ := Lowering.run_bind_ok.1 hw
  obtain ⟨site?, _, hlift, hw⟩ := Lowering.run_bind_ok.1 hw
  obtain ⟨hdetect, -⟩ := Lowering.run_lift_ok.1 hlift
  obtain rfl := Except.ok.inj (hs.symm.trans hdetect)
  obtain ⟨_, _, hfor, -⟩ := Lowering.run_bind_ok.1 hw
  obtain ⟨key, _, hask, -⟩ := Lowering.run_bind_ok.1 hfor
  exact ⟨key, hs, (Lowering.run_ask_ok.1 hask).1⟩

theorem uses_of_lowerAllWanted {fs : List Native.Function} {pool pool' : TrampolinePool} {ws : List Wrapper}
    {r r' : Registry} (hws : (p.lowerAllWanted fs pool).run r = .ok ((ws, pool'), r')) {f : Native.Function}
    (hf : f ∈ fs) {site : CallbackSite} (hs : CallbackSite.detect p.document f = .ok (some site)) :
    ∃ key, p.Uses f site key := by
  induction fs generalizing pool pool' ws r r' with
  | nil => cases hf
  | cons g gs ih =>
    obtain ⟨⟨w, pool₁⟩, r₁, hw, hws⟩ := Lowering.run_bind_ok.1 hws
    obtain ⟨⟨ws', pool₂⟩, r₂, hws', -⟩ := Lowering.run_bind_ok.1 hws
    rcases List.mem_cons.1 hf with rfl | hf
    · exact uses_of_lowerWanted hw hs
    · exact ih hws' hf

theorem prepare_uses (h : p.prepare included = .ok p') {f : Native.Function} (hf : f ∈ p.wantedFunctions)
    {site : CallbackSite} (hs : CallbackSite.detect p.document f = .ok (some site)) :
    ∃ key, p.Uses f site key := by
  obtain ⟨lowered, r, hl, -⟩ := prepare_ok.1 h
  obtain ⟨_, _, _, hws, -⟩ := lowerShare_ok hl
  exact uses_of_lowerAllWanted hws hf hs

variable (p) in
def SharesKey (earlier : List Native.Function) (f : Native.Function) : Prop :=
  ∃ g ∈ earlier, ∃ site other key, p.Uses f site key ∧ p.Uses g other key

/-- The argument for the callback is a pointer to its function type in any case. The pair is genuine
unless it is hinted at, and then the user data must be an untyped pointer, and the callback must take
one back even if an earlier function has a callback with the same signature key. -/
theorem callback_pairs_genuine_iff (h : p.prepare included = .ok p') {earlier later : List Native.Function}
    {f : Native.Function} (hf : p.wantedFunctions = earlier ++ f :: later) {site : CallbackSite}
    (hs : CallbackSite.detect p.document f = .ok (some site)) :
    site.TakesCallback p.document f ∧
      (¬ site.Genuine p.document f ↔ f.callback ≠ none ∧
        (¬ site.TakesUserData p.document f ∨ p.SharesKey earlier f ∧ ¬ site.HandsBack p.document)) := by
  have hmem : f ∈ p.wantedFunctions := by
    rw [hf]
    exact List.mem_append_right _ List.mem_cons_self
  have htakes := CallbackSite.detect_takesCallback hs
  refine ⟨htakes, fun hnot => ⟨fun hnone => hnot (CallbackSite.detect_genuine hnone hs), ?_⟩, ?_⟩
  · by_contra hboth
    rw [not_or, not_not, not_and, not_not] at hboth
    obtain ⟨huserData, hslot⟩ := hboth
    refine hnot ⟨htakes, huserData, ?_⟩
    by_cases hshares : p.SharesKey earlier f
    · exact hslot hshares
    · obtain ⟨key, huses⟩ := prepare_uses h hmem hs
      exact handsBack_of_first h hf huses fun g hg other hu => hshares ⟨g, hg, site, other, key, huses, hu⟩
  · rintro ⟨-, huserData | ⟨-, hslot⟩⟩ hgenuine
    · exact huserData hgenuine.userData
    · exact hslot hgenuine.slot

def walker (id name : String) (callback userData : Identity) : Native.Function where
  id := id
  name := name
  file := "f"
  returns := "v"
  arguments := [⟨"fn", callback, .unset⟩, ⟨"user", userData, .unset⟩]
  variadic := false
  callback := some { argIndex := 0, dataIndex := 1, callbackDataIndex := 0 }

/-- Functions with callbacks of one signature key. The callback of `on_done` takes a handler in place of
the user data, and the user data of `on_count` is a number. -/
def walkers : Package where
  settings := { name := "walkers" }
  filter := .all
  rules := {}
  ownedFiles := ["f"]
  document := {
    files := [⟨"f", "walk.h"⟩]
    types := Dict.ofList [
      ("done", .function { returns := "v", arguments := [⟨"handler", "hp", .unset⟩] }),
      ("donep", .pointer "done" 8),
      ("handler", .function { returns := "v", arguments := [⟨"status", "i", .unset⟩] }),
      ("hp", .pointer "handler" 8),
      ("i", .fundamental "int" 4),
      ("v", .fundamental "void" 0),
      ("visit", .function { returns := "v", arguments := [⟨"user", "vp", .unset⟩] }),
      ("visitp", .pointer "visit" 8),
      ("vp", .pointer "v" 8)]
    functions := [
      { walker "f1" "walk" "visitp" "vp" with callback := none },
      walker "f2" "on_done" "donep" "vp",
      walker "f3" "on_count" "visitp" "i",
      walker "f4" "walk_again" "visitp" "vp"]
    globals := [] }

/-- A hinted callback of a shared signature key may well be genuine. -/
theorem walkers_walk_again : ∃ p site, walkers.prepare [] = .ok p ∧
    CallbackSite.detect walkers.document (walker "f4" "walk_again" "visitp" "vp") = .ok (some site) ∧
    site.Genuine walkers.document (walker "f4" "walk_again" "visitp" "vp") := by
  obtain ⟨p, hp, -⟩ := Native.Document.ok_of_any (x := walkers.prepare []) (f := fun _ => true) (by decide +kernel)
  have hdetect : CallbackSite.detect walkers.document (walker "f4" "walk_again" "visitp" "vp") =
      .ok (some ⟨0, 1, 0, "visit", none⟩) := by decide +kernel
  have hwanted : walkers.wantedFunctions = [{ walker "f1" "walk" "visitp" "vp" with callback := none },
      walker "f2" "on_done" "donep" "vp", walker "f3" "on_count" "visitp" "i"] ++
      walker "f4" "walk_again" "visitp" "vp" :: [] := by decide +kernel
  obtain ⟨-, hgenuine⟩ := callback_pairs_genuine_iff hp hwanted hdetect
  refine ⟨p, _, hp, hdetect, not_not.1 fun hnot => ?_⟩
  rcases (hgenuine.1 hnot).2 with huserData | ⟨-, hslot⟩
  · exact huserData (by decide +kernel)
  · exact hslot (by decide +kernel)

/-- The check of the user data that a callback takes is skipped for `on_done`, which would be rejected
alone. Nothing checks the user data of `on_count`. -/
theorem walkers_not_genuine : walkers.document.accept = .ok walkers.document ∧
    ∃ p onDone onCount, walkers.prepare [] = .ok p ∧
      walker "f2" "on_done" "donep" "vp" ∈ walkers.wantedFunctions ∧
      CallbackSite.detect walkers.document (walker "f2" "on_done" "donep" "vp") = .ok (some onDone) ∧
      ¬ onDone.HandsBack walkers.document ∧
      walker "f3" "on_count" "visitp" "i" ∈ walkers.wantedFunctions ∧
      CallbackSite.detect walkers.document (walker "f3" "on_count" "visitp" "i") = .ok (some onCount) ∧
      ¬ onCount.TakesUserData walkers.document (walker "f3" "on_count" "visitp" "i") := by
  obtain ⟨p, hp, -⟩ := Native.Document.ok_of_any (x := walkers.prepare []) (f := fun _ => true) (by decide +kernel)
  refine ⟨rfl, p, ⟨0, 1, 0, "done", none⟩, ⟨0, 1, 0, "visit", none⟩, hp, ?_, ?_, ?_, ?_, ?_, ?_⟩ <;>
    decide +kernel

end Package

end Bindery
