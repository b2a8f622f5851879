import Bindery.Proofs.Lowering.Sizes
import Bindery.Proofs.Package.References
import Bindery.Render.Type

/-!
# Views of union members

The view of a union member returns its value if the member is no wider than a pointer, else its
address. What decides is the size of the member, which is the native size of its field unless an
override has lost it, and then the value is returned however wide the field is.
-/

namespace Bindery

open Native (Identity Field)

/-! ## Views -/

namespace Declaration

variable (d : Declaration) (r : Registry) (m : Member)

def valueView : List String :=
  let type := m.type.managedName r
  ["func (u *" ++ d.managed ++ ") " ++ m.managed ++ "() " ++ type ++ " \x7b",
    "\treturn *" ++ ("(*" ++ type ++ ")(unsafe.Pointer(u))"), "\x7d", ""]

def addressView : List String :=
  let type := m.type.managedName r
  ["func (u *" ++ d.managed ++ ") " ++ m.managed ++ "() " ++ "*" ++ type ++ " \x7b",
    "\treturn " ++ ("(*" ++ type ++ ")(unsafe.Pointer(u))"), "\x7d", ""]

variable {d r m}

theorem valueView_ne_addressView : d.valueView r m ≠ d.addressView r m := by
  intro h
  have hreturn := congrArg String.length (List.cons.inj (List.cons.inj h).2).1
  simp only [String.length_append] at hreturn
  have : "\treturn *".length ≠ "\treturn ".length := by decide
  omega

theorem accessorLines_eq (pointerWidth : Nat) : d.accessorLines r pointerWidth m =
    if m.size ≤ pointerWidth then d.valueView r m else d.addressView r m := by
  unfold accessorLines
  split <;> rfl

theorem accessorLines_eq_valueView {pointerWidth : Nat} :
    d.accessorLines r pointerWidth m = d.valueView r m ↔ m.size ≤ pointerWidth := by
  rw [accessorLines_eq]
  split
  · exact iff_of_true rfl ‹_›
  · exact iff_of_false valueView_ne_addressView.symm ‹_›

/-- The viewed members are those of a union, of the declaration itself or of what it stands for. -/
theorem unionMembers_of_union (d : Declaration) (r : Registry) : d.unionMembers r = [] ∨
    ∃ e ms, e.shape = .union (some ms) ∧ d.unionMembers r = ms ∧
      (e = d ∨ ∃ id root strategy, d.shape = .synonym (.declared id) root strategy ∧ r.get? id = some e) := by
  have members {e : Declaration} {slot : Option (List Member)} (he : e.shape = .union slot) :
      e.members = [] ∨ ∃ ms, e.shape = .union (some ms) ∧ e.members = ms := by
    unfold Declaration.members
    rw [he]
    cases slot with
    | none => exact .inl rfl
    | some ms => exact .inr ⟨ms, rfl, rfl⟩
  unfold unionMembers
  split
  · rename_i hd
    exact (members hd).imp_right fun ⟨ms, hs, hm⟩ => ⟨d, ms, hs, hm, .inl rfl⟩
  · rename_i id root strategy hd
    cases hl : r.get? id with
    | none => exact .inl rfl
    | some l =>
      cases hs : l.shape with
      | struct | enumeration | synonym => exact .inl (by simp [hs])
      | union =>
        cases he : l.isEmitted with
        | true => exact .inl (by simp [hs, he])
        | false =>
          refine (members hs).imp (fun hm => by simpa [hs, he] using hm) fun ⟨ms, hs', hm⟩ => ?_
          exact ⟨l, ms, hs', by simpa [hs, he] using hm, .inr ⟨id, root, strategy, hd, hl⟩⟩
  · exact .inl rfl

theorem union_of_outline {d e : Declaration} (h : d.outline = e.outline) {ms : Option (List Member)}
    (hd : d.shape = .union ms) : e.shape = .union ms := by
  have hs : d.shape.withoutConstants = e.shape.withoutConstants := congrArg Declaration.shape h
  rw [hd] at hs
  cases he : e.shape with
  | struct | synonym | enumeration => rw [he] at hs; cases hs
  | union => rw [he] at hs; exact hs.symm

end Declaration

namespace Package

variable {p p' : Package} {included : List Package}

/-- The members of a union in a prepared package are those with which it has been populated. -/
theorem union_sized (h : p.prepare included = .ok p') {id : Identity} {d : Declaration} {ms : List Member}
    (hd : p'.types.get? id = some d) (hs : d.shape = .union (some ms)) : d.id = id ∧
      ∃ u, p.document.types.get? id = some (.union u) ∧ List.Forall₂ p.context.Sized ms u.fields := by
  obtain ⟨lowered, r, hl, rfl⟩ := prepare_ok.1 h
  obtain ⟨r₀, n, hr₀, hpopulate⟩ := requested_of_lowerShare hl
  have hr := hr₀.measured.populate hpopulate
  obtain ⟨d₁, hd₁, houtline, -⟩ := (hosted_of_lowerShare hl included).of_get? hd
  obtain ⟨d₀, hd₀, hsuperseded⟩ := (supersededAll (tidy_of_lowerShare hl)).of_get? hd₁
  have hs₀ : d₀.shape = .union (some ms) := by
    rw [← hsuperseded.shape_eq]
    exact Declaration.union_of_outline houtline hs
  have hslot : d₀.slot? = some (some ms) := by
    unfold Declaration.slot?
    rw [hs₀]
  obtain ⟨u, hu, hsized⟩ := hr.members (Registry.members?_eq_some.2 ⟨d₀, hd₀, hslot⟩)
  obtain ⟨M, hM, -⟩ := hr.consistent id d₀ hd₀
  have hid : d.id = d₀.id := by
    have hid₁ : d.outline.id = d₁.outline.id := by rw [houtline]
    rw [show d.id = d₁.id from hid₁, hsuperseded.same]
  refine ⟨hid.trans (hr.consistent.id_eq hd₀), u, ?_, hsized⟩
  have hbare : d₀.bare.shape = .union none := by rw [Declaration.bare, hs₀]; rfl
  generalize d₀.bare = e at hM hbare
  cases hM with
  | union hp =>
    rw [Native.Document.composite?, hp.1] at hu
    cases hu
    exact hp.1
  | struct | enumeration | typedef => cases hbare

variable (p) in
/-- A viewed member and its field: the value is returned if the field is no wider than a pointer, or if
its size is lost. -/
structure Views (p' : Package) (d : Declaration) (m : Member) (f : Field) : Prop where
  measures : p.context.Measures m f
  value_iff : d.accessorLines p'.types p.rules.pointerWidth m = d.valueView p'.types m ↔
    p.document.nativeSize p.rules.pointerWidth f.type ≤ p.rules.pointerWidth ∨ p.context.Loses f.type

theorem views_of_measures {d : Declaration} {m : Member} {f : Field} (h : p.context.Measures m f) :
    p.Views p' d m f := by
  refine ⟨h, Declaration.accessorLines_eq_valueView.trans ?_⟩
  by_cases hl : p.context.Loses f.type
  · rw [h.lost hl]
    exact iff_of_true (Nat.zero_le _) (.inr hl)
  · rw [h.size_iff.2 hl]
    exact (or_iff_left hl).symm

/-- Every member has the native size of its field's type but where an override of a typedef without a
size has lost it, and the view of a union member returns its value just when that size is at most the
pointer width or is lost. -/
theorem member_sizes_native_iff (hd : p.document.Acyclic) :
    (∀ r n r' id ms, p.context.Requested r → p.context.populate.run r = .ok (n, r') →
      r'.members? id = some ms → ∃ s, p.document.composite? id = some s ∧
        List.Forall₂ p.context.Measures ms s.fields) ∧
    ∀ included p', p.prepare included = .ok p' → ∀ d ∈ (Emission.ofPackage p').types,
      d.unionMembers p'.types = [] ∨ ∃ id u,
        (id = d.id ∨ ∃ root strategy, d.shape = .synonym (.declared id) root strategy) ∧
        p.document.types.get? id = some (.union u) ∧
        List.Forall₂ (p.Views p' d) (d.unionMembers p'.types) u.fields := by
  constructor
  · intro r n r' id ms hr hp hms
    obtain ⟨s, hs, hsized⟩ := (hr.measured.populate hp).members hms
    exact ⟨s, hs, hsized.imp fun _ _ hm => hm.measures hd⟩
  · intro included p' h d hmem
    obtain ⟨⟨x, hx⟩, -, -⟩ := mem_types.1 hmem
    refine (d.unionMembers_of_union p'.types).imp_right fun ⟨e, ms, hs, hms, he⟩ => ?_
    obtain ⟨id, hid, hget⟩ : ∃ id, (id = d.id ∨ ∃ root strategy, d.shape = .synonym (.declared id) root strategy) ∧
        p'.types.get? id = some e := by
      rcases he with rfl | ⟨id, root, strategy, hsyn, hl⟩
      · exact ⟨x, .inl (union_sized h hx hs).1.symm, hx⟩
      · exact ⟨id, .inr ⟨root, strategy, hsyn⟩, hl⟩
    obtain ⟨-, u, hu, hsized⟩ := union_sized h hget hs
    rw [hms]
    exact ⟨id, u, hid, hu, hsized.imp fun _ _ hm => views_of_measures (hm.measures hd)⟩

/-- A union of a number that is wider than a pointer, behind a typedef that states no size, and of a
pair of narrow numbers. -/
def readings : Native.Document where
  files := [⟨"f", "clock.h"⟩]
  types := Dict.ofList [
    ("c", .fundamental "complex double" 16),
    ("i", .fundamental "int" 4),
    ("pair", .array "i" 2 0),
    ("reading", .union { name := "reading", file := "f", size := 16
                         fields := [⟨"stamp", "stamp"⟩, ⟨"codes", "pair"⟩] }),
    ("rp", .pointer "reading" 8),
    ("stamp", .typedef { name := "stamp_t", file := "f", base := "c", root := some "c", size := 0 }),
    ("v", .fundamental "void" 0)]
  functions := [
    { id := "read", name := "read_clock", file := "f", returns := "v", variadic := false, callback := none
      arguments := [⟨"r", "rp", .unset⟩] }]

theorem readings_acyclic : readings.Acyclic :=
  Native.Document.acyclic_of_rank (fun id => if id = "rp" ∨ id = "stamp" ∨ id = "pair" then 1 else 0)
    (by decide)

def clock (overrides : List (String × String)) : Package where
  settings := { name := "clock" }
  filter := .all
  rules := { overrides := Dict.ofList overrides }
  ownedFiles := ["f"]
  document := readings

/-- The union of the prepared package, with the sizes of its members. -/
theorem clock_members (overrides : List (String × String)) (sizes : List (String × Nat))
    (h : ((clock overrides).prepare []).toOption.any (fun p => (p.types.get? "reading").any fun d =>
      d.isEmitted && !p.excludes d.native &&
        (d.unionMembers p.types).map (fun m => (m.native, m.size)) == sizes) = true) :
    ∃ p, (clock overrides).prepare [] = .ok p ∧ ∃ d ∈ (Emission.ofPackage p).types,
      (d.unionMembers p.types).map (fun m => (m.native, m.size)) = sizes := by
  obtain ⟨p, hp, d, hd, -, hmembers⟩ := exists_type_of_any _ _ "reading" _ h
  exact ⟨p, hp, d, hd, beq_iff_eq.1 hmembers⟩

theorem clock_views : (clock []).document.Acyclic ∧
    ∃ p, (clock []).prepare [] = .ok p ∧ ∃ d ∈ (Emission.ofPackage p).types,
      (d.unionMembers p.types).map (fun m => (m.native, m.size)) = [("stamp", 16), ("codes", 8)] ∧
      ∃ u : Native.Composite, List.Forall₂ ((clock []).Views p d) (d.unionMembers p.types) u.fields := by
  obtain ⟨p, hp, d, hd, hmembers⟩ := clock_members [] [("stamp", 16), ("codes", 8)] (by decide +kernel)
  refine ⟨readings_acyclic, p, hp, d, hd, hmembers, ?_⟩
  rcases (member_sizes_native_iff (p := clock []) readings_acyclic).2 [] p hp d hd with hnone | ⟨id, u, -, -, hviews⟩
  · rw [hnone] at hmembers
    cases hmembers
  · exact ⟨u, hviews⟩

/-- The override of a typedef without a size: the view returns the value of a member of 16 bytes. -/
theorem clock_view_of_wide_value :
    let p := clock [("stamp_t", "complex128")]
    p.document.accept = .ok p.document ∧ p.document.Acyclic ∧ ∃ p', p.prepare [] = .ok p' ∧
      ∃ d ∈ (Emission.ofPackage p').types, ∃ m ∈ d.unionMembers p'.types, m.native = "stamp" ∧ m.size = 0 ∧
        p.document.nativeSize p.rules.pointerWidth "stamp" = 16 ∧ p.rules.pointerWidth = 8 ∧
        d.accessorLines p'.types p.rules.pointerWidth m = d.valueView p'.types m := by
  obtain ⟨p, hp, d, hd, hmembers⟩ := clock_members [("stamp_t", "complex128")]
    [("stamp", 0), ("codes", 8)] (by decide +kernel)
  have hstamp : ("stamp", 0) ∈ (d.unionMembers p.types).map fun m => (m.native, m.size) := by
    rw [hmembers]
    exact List.mem_cons_self
  obtain ⟨m, hm, hlost⟩ := List.mem_map.1 hstamp
  obtain ⟨hname, hsize⟩ := Prod.mk.inj hlost
  refine ⟨rfl, readings_acyclic, p, hp, d, hd, m, hm, hname, hsize, rfl, rfl, ?_⟩
  exact Declaration.accessorLines_eq_valueView.2 (by rw [hsize]; exact Nat.zero_le _)

end Package

end Bindery
