import Bindery.Proofs.Workspace.References

/-!
# Types of included packages

A package refers to a type of an included package instead of declaring it again, unless it
exports the type itself or a typedef in its place: what it exports is declared whether or not an
included package declares it too.
-/

namespace Bindery

open Native (Identity)

namespace Package

def Redeclares (p : Package) (id : Identity) : Prop :=
  ∃ t ∈ (Emission.ofPackage p).types, t.id = id ∨ t.assumed = some id

/-- What stands for an identity in a package: its own declaration or, for a struct or union, the
typedef in its place. -/
inductive StandsFor (p : Package) (id : Identity) : Declaration → Prop
  | own {d : Declaration} : p.types.get? id = some d → d.supersededBy = none → p.StandsFor id d
  | synonym {d s : Declaration} {a : Identity} : p.types.get? id = some d → d.isComposite = true →
      d.supersededBy = some a → p.types.get? a = some s → p.StandsFor id s

section
variable {p : Package} {included : List Package} {N : String → Prop} {id : Identity} {t : Declaration}
  (hr : p.Resolved included N)
include hr

theorem Resolved.standsFor_of_get? {x : Identity} (hx : p.types.get? x = some t)
    (hsup : t.supersededBy = none) (h : t.id = id ∨ t.assumed = some id) : p.StandsFor id t := by
  rcases h with rfl | h
  · exact .own (hr.id_eq hx ▸ hx) hsup
  · obtain ⟨d, hd, hc, hby⟩ := hr.assumed hx h
    exact .synonym hd hc hby hx

theorem Resolved.of_standsFor (h : p.StandsFor id t) :
    (∃ x, p.types.get? x = some t) ∧ t.supersededBy = none ∧ (t.id = id ∨ t.assumed = some id) := by
  cases h with
  | own hd hsup => exact ⟨⟨id, hd⟩, hsup, .inl (hr.id_eq hd)⟩
  | @synonym d s a hd hc hby hs =>
    obtain ⟨s', hs', hrep⟩ := hr.replaced id d a hd hby
    obtain rfl := Option.some.inj (hs.symm.trans hs')
    exact ⟨⟨a, hs⟩, hr.replaced.supersededBy hs hrep.isSynonym, .inr (hrep.assumed hc)⟩

theorem Resolved.redeclares_iff (hw : p.WellNamed N) : p.Redeclares id ↔
      ∃ t, p.StandsFor id t ∧ t.standalone = true ∧ p.exports t.native t.file = true ∧
        t.managed ≠ "" ∧ Declaration.isQualified t.managed = false := by
  constructor
  · rintro ⟨t, ht, hid⟩
    obtain ⟨hstand, hexp, hsup, hne, hq⟩ := hw.of_mem_types ht
    obtain ⟨⟨x, hx⟩, -⟩ := Package.mem_types.1 ht
    exact ⟨t, hr.standsFor_of_get? hx hsup hid, hstand, hexp, hne, hq⟩
  · rintro ⟨t, hfor, -, -, hne, hq⟩
    obtain ⟨⟨x, hx⟩, -, hid⟩ := hr.of_standsFor hfor
    exact ⟨t, hw.mem_types hx hne hq, hid⟩

/-- What the package does not export is named after an included package that declares it. -/
theorem Resolved.qualified_of_standsFor (hfor : p.StandsFor id t) (hstand : t.standalone = true)
    (hnative : t.native ≠ "") (hexp : p.exports t.native t.file = false) :
    t.managed = qualifiedName included id := by
  cases hfor with
  | own hd hsup =>
    rw [← hr.id_eq hd]
    exact (hr.outcome hd).foreign (by simp [isNameable, hstand, hsup, hnative]) hexp
  | @synonym d s a hd _ hby hs =>
    obtain ⟨s', hs', hrep⟩ := hr.replaced id d a hd hby
    obtain rfl := Option.some.inj (hs.symm.trans hs')
    rw [hrep.exported] at hexp
    cases hexp

end

end Package

namespace Workspace

/-- A package declares a type of an included package again exactly when it exports what stands
for it. If it does not, it refers to the type by the name from an included package. -/
theorem redeclared_iff_exported {w : Workspace} {ps before after : List Package} {p q : Package}
    (h : w.prepare = .ok ps) (hp : ps = before ++ p :: after) (hq : q ∈ ps)
    (hr : w.Reaches p.name q.name) {id : Identity} {name : String} (hname : q.globalName? id = some name) :
    (p.Redeclares id ↔
      ∃ t, p.StandsFor id t ∧ t.standalone = true ∧ p.exports t.native t.file = true ∧
        t.managed ≠ "" ∧ Declaration.isQualified t.managed = false) ∧
    ∀ t, p.StandsFor id t → t.standalone = true → t.native ≠ "" → p.exports t.native t.file = false →
      ∃ q' ∈ ps, w.Reaches p.name q'.name ∧ ∃ name', q'.globalName? id = some name' ∧
        t.managed = q'.name ++ "." ++ name' := by
  obtain ⟨_, _, -, -, hprepare⟩ := (prepare_ordered h).2 before p after hp
  have hres := Package.prepare_resolved hprepare
  refine ⟨hres.redeclares_iff (Package.prepare_wellNamed hprepare), fun t hfor hstand hnative hexp => ?_⟩
  have hqual := hres.qualified_of_standsFor hfor hstand hnative hexp
  have hhanded := (mem_handed h hp).2 ⟨hq, hr⟩
  obtain ⟨q', hq', name', hname', he⟩ := (Package.qualifiedName_cases _ id).resolve_left fun hnone => by
    rw [hnone.1 q hhanded] at hname
    cases hname
  obtain ⟨hmem, hreach⟩ := (mem_handed h hp).1 hq'
  exact ⟨q', hmem, hreach, name', hname', hqual.trans he⟩

/-- A package for the header of a struct, and one that includes it and whose own header has a
typedef of the same name for it. -/
def outlines : Workspace where
  pointerWidth := 8
  packages := [
    { name := "user", headers := ["user.h"], includes := ["base"] },
    { name := "base", headers := ["base.h"] }]
  document := {
    files := [⟨"b", "base.h"⟩, ⟨"u", "user.h"⟩]
    types := Dict.ofList [
      ("d", .fundamental "double" 8),
      ("e", .struct { name := "extent", file := "b", size := 8, fields := [⟨"x", "d"⟩] }),
      ("s", .struct { name := "point", file := "b", size := 8, fields := [⟨"x", "d"⟩] }),
      ("t", .typedef { name := "point", file := "u", base := "s", root := some "s", size := 8 })]
    functions := [
      { id := "f1", name := "origin", file := "b", returns := "s", variadic := false, callback := none
        arguments := [⟨"of", "e", .unset⟩] },
      { id := "f2", name := "draw", file := "u", returns := "d", variadic := false, callback := none
        arguments := [⟨"at", "t", .unset⟩, ⟨"in", "e", .unset⟩] }] }

theorem outlines_reaches : outlines.Reaches "user" "base" := .single ⟨_, rfl, by decide⟩

/-- Both use `extent`, and only the included package exports it. -/
theorem outlines_extent_referenced : ∃ base user, outlines.prepare = .ok [base, user] ∧
    outlines.Reaches user.name base.name ∧ base.globalName? "e" = some "Extent" ∧ ¬ user.Redeclares "e" ∧
    ∃ t, user.StandsFor "e" t ∧ t.managed = "base.Extent" := by
  obtain ⟨ps, hps, hok⟩ := Native.Document.ok_of_any (x := outlines.prepare)
    (f := fun ps => decide (ps.length = 2 ∧ ∀ base ∈ ps.head?, ∀ user ∈ ps.getLast?,
      user.name = "user" ∧ base.name = "base" ∧ base.globalName? "e" = some "Extent" ∧
      ∃ t ∈ user.types.get? "e", t.supersededBy = none ∧ user.exports t.native t.file = false ∧
        t.managed = "base.Extent")) (by decide +kernel)
  obtain ⟨hlength, hall⟩ := of_decide_eq_true hok
  obtain ⟨base, user, rfl⟩ := List.length_eq_two.1 hlength
  obtain ⟨huser, hbase, he, t, ht, hsup, hexp, hname⟩ := hall base rfl user rfl
  have hr : outlines.Reaches user.name base.name := by
    rw [huser, hbase]
    exact outlines_reaches
  refine ⟨base, user, hps, hr, he, fun hre => ?_, t, .own ht hsup, hname⟩
  have hlast : [base, user] = [base] ++ user :: [] := rfl
  obtain ⟨t', hfor, -, hexp', -⟩ := (redeclared_iff_exported hps hlast List.mem_cons_self hr he).1.1 hre
  cases hfor with
  | own ht' =>
    obtain rfl := Option.some.inj (ht.symm.trans ht')
    rw [hexp] at hexp'
    cases hexp'
  | synonym ht' _ hby =>
    obtain rfl := Option.some.inj (ht.symm.trans ht')
    rw [hsup] at hby
    cases hby

/-- The typedef of the including package takes the place of the struct `point`, whose header only
the included package owns. -/
theorem outlines_point_redeclared : ∃ base user, outlines.prepare = .ok [base, user] ∧
    outlines.Reaches user.name base.name ∧ user.owns "b" = false ∧ base.globalName? "s" = some "Point" ∧
    user.Redeclares "s" := by
  obtain ⟨ps, hps, hok⟩ := Native.Document.ok_of_any (x := outlines.prepare)
    (f := fun ps => decide (ps.length = 2 ∧ ∀ base ∈ ps.head?, ∀ user ∈ ps.getLast?,
      user.name = "user" ∧ base.name = "base" ∧ user.owns "b" = false ∧ base.globalName? "s" = some "Point" ∧
      ∃ t ∈ user.types.get? "t", t.isEmitted = true ∧ user.excludes t.native = false ∧
        t.assumed = some "s")) (by decide +kernel)
  obtain ⟨hlength, hall⟩ := of_decide_eq_true hok
  obtain ⟨base, user, rfl⟩ := List.length_eq_two.1 hlength
  obtain ⟨huser, hbase, howns, hs, t, ht, hem, hex, hassumed⟩ := hall base rfl user rfl
  have hr : outlines.Reaches user.name base.name := by
    rw [huser, hbase]
    exact outlines_reaches
  exact ⟨base, user, hps, hr, howns, hs, t, Package.mem_types.2 ⟨⟨"t", ht⟩, hem, hex⟩, .inr hassumed⟩

end Workspace

end Bindery
