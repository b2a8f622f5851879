import Bindery.Proofs.Package.Outcome

/-!
# References

Wherever a reference leads to a declaration with a name of the package, the package declares
it, and under that name. What is superseded is spelled as the typedef in its place. All that
the package exports and that is used by itself is declared, itself or by such a typedef.
-/

namespace Bindery

open Native (Identity)

/-! ## Spellings of references -/

namespace Registry

variable {r : Registry} {x a : Identity} {d s : Declaration}

theorem target?_of_none (hd : r.get? x = some d) (hsup : d.supersededBy = none) : r.target? x = some d := by
  rw [target?, hd]
  simp [hsup]

theorem target?_of_some (hd : r.get? x = some d) (ha : d.supersededBy = some a) (hs : r.get? a = some s) :
    r.target? x = some (if s.managed = "" then d else s) := by
  rw [target?, hd]
  simp [ha, hs]

theorem managedName_of_named (h : r.target? x = some d) (hne : d.managed ≠ "") : r.managedName x = d.managed := by
  rw [managedName, referWithin, h]
  simp [hne]

theorem managedName_of_block (h : r.target? x = some d) (hempty : d.managed = "")
    (hb : d.isComposite = true ∨ ∃ literal root, d.shape = .synonym literal root .valueReinterpret) :
    r.managedName x = d.byteBlock := by
  rw [managedName, referWithin, h]
  dsimp only
  rw [if_neg (by simp [hempty])]
  rcases hb with hc | ⟨literal, root, hs⟩
  · unfold Declaration.isComposite at hc
    cases hs : d.shape with
    | struct | union => simp
    | enumeration | synonym => rw [hs] at hc; cases hc
  · simp [hs]

end Registry

namespace Package

variable {p p' q : Package} {included : List Package}

/-! ## Declared types -/

theorem mem_types {d : Declaration} : d ∈ (Emission.ofPackage p).types ↔
    (∃ x, p.types.get? x = some d) ∧ d.isEmitted = true ∧ p.excludes d.native = false := by
  rw [Emission.ofPackage, (sortByText_perm _ _).mem_iff, List.mem_filter, Bool.and_eq_true,
    Bool.not_eq_true', Dict.values, List.mem_map]
  constructor
  · intro h
    obtain ⟨⟨e, he, rfl⟩, hrest⟩ := h
    exact ⟨⟨e.1, (p.types.get?_eq_some_iff _ _).2 he⟩, hrest⟩
  · intro h
    obtain ⟨⟨x, hx⟩, hrest⟩ := h
    exact ⟨⟨(x, d), (p.types.get?_eq_some_iff _ _).1 hx, rfl⟩, hrest⟩

/-- A declared type of a package that can be prepared, by evaluation. -/
theorem exists_type_of_any (p : Package) (included : List Package) (x : Identity) (f : Package → Declaration → Bool)
    (h : (p.prepare included).toOption.any (fun p' => (p'.types.get? x).any fun d =>
      d.isEmitted && !p'.excludes d.native && f p' d) = true) :
    ∃ p', p.prepare included = .ok p' ∧
      ∃ d ∈ (Emission.ofPackage p').types, p'.types.get? x = some d ∧ f p' d = true := by
  obtain ⟨p', hp, hd⟩ := Native.Document.ok_of_any h
  obtain ⟨d, hx, hd⟩ := (Option.any_eq_true _ _).1 hd
  simp only [Bool.and_eq_true, Bool.not_eq_true'] at hd
  exact ⟨p', hp, d, mem_types.2 ⟨⟨x, hx⟩, hd.1.1, hd.1.2⟩, hx, hd.2⟩

theorem WellNamed.mem_types {N : String → Prop} (h : p.WellNamed N) {x : Identity} {d : Declaration}
    (hd : p.types.get? x = some d) (hne : d.managed ≠ "") (hq : Declaration.isQualified d.managed = false) :
    d ∈ (Emission.ofPackage p).types := by
  obtain ⟨hem, hexp⟩ := h.emitted_of_named hd hne hq
  exact Package.mem_types.2 ⟨⟨x, hd⟩, hem, excludes_of_exports hexp⟩

theorem isEmitted_ok {d : Declaration} (h : d.isEmitted = true) : d.standalone = true ∧
    d.supersededBy = none ∧ d.managed ≠ "" ∧ Declaration.isQualified d.managed = false := by
  simpa [Declaration.isEmitted, and_assoc, and_comm, and_left_comm] using h

theorem WellNamed.of_mem_types {N : String → Prop} (h : p.WellNamed N) {d : Declaration}
    (hd : d ∈ (Emission.ofPackage p).types) : d.standalone = true ∧ p.exports d.native d.file = true ∧
      d.supersededBy = none ∧ d.managed ≠ "" ∧ Declaration.isQualified d.managed = false := by
  obtain ⟨⟨x, hx⟩, hem, -⟩ := Package.mem_types.1 hd
  obtain ⟨hstand, hsup, hne, hq⟩ := isEmitted_ok hem
  exact ⟨hstand, (h.emitted_of_named hx hne hq).2, hsup, hne, hq⟩

theorem isNameable_of_exports {d : Declaration} (hstand : d.standalone = true)
    (hsup : d.supersededBy = none) (hexp : p.exports d.native d.file = true) : isNameable d = true := by
  simp only [Package.exports, Bool.and_eq_true, Bool.not_eq_true'] at hexp
  simp [isNameable, hstand, hsup, hexp.1.1.1]

theorem Resolved.mem_types (hr : p.Resolved included IsNative) (h : p.WellNamed IsNative)
    {x : Identity} {d : Declaration} (hd : p.types.get? x = some d) (hstand : d.standalone = true)
    (hsup : d.supersededBy = none) (hexp : p.exports d.native d.file = true)
    (hc : p.candidate d.native ≠ "") : d ∈ (Emission.ofPackage p).types := by
  obtain ⟨hnamed, hbound⟩ := (hr.outcome hd).own (isNameable_of_exports hstand hsup hexp) hexp
  obtain ⟨s, key, hs, hkey⟩ := hbound.resolve_left (hnamed hc)
  exact h.mem_types hd (hnamed hc) (hs.unqualified hkey)

/-! ## What is superseded -/

section
variable {N : String → Prop} {x a : Identity} {d s : Declaration}
  (hr : p.Resolved included N) (hd : p.types.get? x = some d) (ha : d.supersededBy = some a)
include hr hd ha

theorem Resolved.superseded_managed : d.managed = "" :=
  (hr.outcome hd).hidden (by simp [isNameable, ha])

theorem Resolved.target_alias (hs : p.types.get? a = some s) : p.types.target? a = some s := by
  obtain ⟨s', hs', hrep⟩ := hr.replaced x d a hd ha
  obtain rfl := Option.some.inj (hs.symm.trans hs')
  exact Registry.target?_of_none hs (hr.replaced.supersededBy hs hrep.isSynonym)

theorem Resolved.spelled_as_alias (hs : p.types.get? a = some s) (hne : s.managed ≠ "") :
    p.types.managedName x = s.managed ∧ p.types.managedName a = s.managed := by
  have htarget := Registry.target?_of_some hd ha hs
  rw [if_neg hne] at htarget
  exact ⟨Registry.managedName_of_named htarget hne,
    Registry.managedName_of_named (hr.target_alias hd ha hs) hne⟩

theorem Resolved.spelled_as_bytes (hs : p.types.get? a = some s) (hempty : s.managed = "")
    (hc : d.isComposite = true) (hsize : d.size = s.size)
    (hb : ∃ literal root, s.shape = .synonym literal root .valueReinterpret) :
    p.types.managedName x = p.types.managedName a := by
  have htarget := Registry.target?_of_some hd ha hs
  rw [if_pos hempty] at htarget
  rw [Registry.managedName_of_block htarget (hr.superseded_managed hd ha) (.inl hc),
    Registry.managedName_of_block (hr.target_alias hd ha hs) hempty (.inr hb), Declaration.byteBlock,
    Declaration.byteBlock, hsize]

end

/-! ## Coherent packages -/

structure Coherent (p : Package) : Prop where
  /-- A reference with a name of the package leads to a type that is declared under it. -/
  declared : ∀ {x d}, p.types.target? x = some d → d.managed ≠ "" →
    Declaration.isQualified d.managed = false →
    d ∈ (Emission.ofPackage p).types ∧ p.types.managedName x = d.managed
  /-- What is superseded by a typedef with a name leads to it, and both are spelled the same; so
  are a struct or union and a typedef without a name that has its size and its bytes. -/
  superseded : ∀ {x d a}, p.types.get? x = some d → d.supersededBy = some a →
    ∃ s, p.types.get? a = some s ∧
      (s.managed ≠ "" → p.types.target? x = some s ∧ p.types.managedName x = p.types.managedName a) ∧
      (s.managed = "" → d.isComposite = true → d.size = s.size →
        (∃ literal root, s.shape = .synonym literal root .valueReinterpret) →
        p.types.managedName x = p.types.managedName a)
  exported : ∀ d ∈ (Emission.ofPackage p).types, d.standalone = true ∧
    p.exports d.native d.file = true ∧ d.supersededBy = none ∧ d.managed ≠ "" ∧
    Declaration.isQualified d.managed = false
  /-- If something is left of every exported name, all exported types are declared, by
  themselves or in the form of the typedef in their place. -/
  complete : (∀ x d, p.types.get? x = some d → p.exports d.native d.file = true →
      p.candidate d.native ≠ "") →
    ∀ {x d}, p.types.get? x = some d → d.standalone = true → p.exports d.native d.file = true →
      d ∈ (Emission.ofPackage p).types ∨
        ∃ a s, d.supersededBy = some a ∧ p.types.get? a = some s ∧ s ∈ (Emission.ofPackage p).types

/-- In a prepared package no reference dangles, and nothing that it exports is left out. -/
theorem references_coherent (hid : p.document.HasIdentifiers) (h : p.prepare included = .ok p') :
    p'.Coherent := by
  have hr := prepare_resolved_native hid h
  have hw := prepare_wellNamed_native hid h
  constructor
  case declared =>
    intro x d ht hne hq
    obtain ⟨y, hy⟩ := Registry.exists_of_target? ht
    exact ⟨hw.mem_types hy hne hq, Registry.managedName_of_named ht hne⟩
  case superseded =>
    intro x d a hd ha
    obtain ⟨s, hs, -⟩ := hr.replaced x d a hd ha
    refine ⟨s, hs, fun hne => ?_, fun hempty hc hsize hb => hr.spelled_as_bytes hd ha hs hempty hc hsize hb⟩
    obtain ⟨hx, hsa⟩ := hr.spelled_as_alias hd ha hs hne
    exact ⟨(Registry.target?_of_some hd ha hs).trans (by rw [if_neg hne]), hx.trans hsa.symm⟩
  case exported => exact fun d hd => hw.of_mem_types hd
  case complete =>
    intro hall x d hd hstand hexp
    cases ha : d.supersededBy with
    | none => exact .inl (hr.mem_types hw hd hstand ha hexp (hall x d hd hexp))
    | some a =>
      -- the typedef in its place is exported as well, so that it has a name
      obtain ⟨s, hs, hrep⟩ := hr.replaced x d a hd ha
      refine .inr ⟨a, s, rfl, hs, ?_⟩
      exact hr.mem_types hw hs hrep.standalone (hr.replaced.supersededBy hs hrep.isSynonym) hrep.exported
        (hall a s hs hrep.exported)

/-- A struct behind a typedef of its name, one behind a typedef of another name, and an
enumeration behind a typedef. -/
def figures : Package where
  settings := { name := "figures" }
  filter := .all
  rules := {}
  ownedFiles := ["f"]
  document := {
    files := [⟨"f", "figures.h"⟩]
    types := Dict.ofList [
      ("a", .typedef { name := "area", file := "f", base := "s2", root := some "s2", size := 8 }),
      ("d", .fundamental "double" 8),
      ("e", .enumeration { name := "", file := "f", size := 4, values := [⟨"SQUARE", 0⟩] }),
      ("k", .typedef { name := "kind", file := "f", base := "e", root := some "e", size := 4 }),
      ("p", .pointer "s1" 8),
      ("s1", .struct { name := "point", file := "f", size := 8, fields := [⟨"x", "d"⟩] }),
      ("s2", .struct { name := "extent", file := "f", size := 8, fields := [⟨"k", "k"⟩] }),
      ("t", .typedef { name := "point", file := "f", base := "s1", root := some "s1", size := 8 })]
    functions := [
      { id := "f1", name := "measure", file := "f", returns := "a", variadic := false, callback := none
        arguments := [⟨"at", "t", .unset⟩, ⟨"from", "p", .unset⟩] }] }

theorem figures_coherent :
    ∃ p, figures.prepare [] = .ok p ∧ p.Coherent ∧
      p.types.targetName? "s1" = some ("t", "Point") ∧ p.types.managedName "s1" = "Point" ∧
      p.types.targetName? "s2" = some ("s2", "") ∧ p.types.managedName "s2" = "[8]byte" := by
  obtain ⟨p, hp, hnames⟩ := Native.Document.ok_of_any (x := figures.prepare [])
    (f := fun p => decide (p.types.targetName? "s1" = some ("t", "Point") ∧
      p.types.managedName "s1" = "Point" ∧ p.types.targetName? "s2" = some ("s2", "") ∧
      p.types.managedName "s2" = "[8]byte")) (by decide +kernel)
  have hid : figures.document.HasIdentifiers := ⟨by decide +kernel, by decide +kernel, by decide +kernel⟩
  exact ⟨p, hp, references_coherent hid hp, of_decide_eq_true hnames⟩

end Package

end Bindery
