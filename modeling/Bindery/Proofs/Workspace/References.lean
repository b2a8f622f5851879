import Bindery.Proofs.Package.References
import Bindery.Proofs.Workspace.Order

/-!
# References between packages

A name with the qualifier of another package is the name under which that package, an included
one, declares the type. So a type that a package refers to in another is there.
-/

namespace Bindery

open Native (Identity)

/-! ## Names from included packages -/

namespace Package

variable {p p' q : Package} {included : List Package} {id : Identity}

theorem globalName?_ok {name : String} (h : q.globalName? id = some name) :
    ∃ t, q.types.target? id = some t ∧ t.isEmitted = true ∧ t.managed = name := by
  obtain ⟨t, ht, rfl⟩ := Option.map_eq_some_iff.1 h
  obtain ⟨htarget, hem⟩ := Option.filter_eq_some_iff.1 ht
  exact ⟨t, htarget, hem, rfl⟩

theorem WellNamed.declares {N : String → Prop} (h : q.WellNamed N) {name : String}
    (hname : q.globalName? id = some name) :
    ∃ t, q.types.target? id = some t ∧ t ∈ (Emission.ofPackage q).types ∧ t.managed = name := by
  obtain ⟨t, ht, hem, rfl⟩ := globalName?_ok hname
  obtain ⟨x, hx⟩ := Registry.exists_of_target? ht
  obtain ⟨-, -, hne, hq⟩ := isEmitted_ok hem
  exact ⟨t, ht, h.mem_types hx hne hq, rfl⟩

theorem Resolved.qualified_of_foreign {N : String → Prop} (hr : p.Resolved included N) {x : Identity}
    {d : Declaration} (hd : p.types.get? x = some d) (hexp : p.exports d.native d.file = false)
    (hne : d.managed ≠ "") : d.managed = qualifiedName included d.id := by
  cases hn : isNameable d with
  | false => exact absurd ((hr.outcome hd).hidden hn) hne
  | true => exact (hr.outcome hd).foreign hn hexp

end Package

namespace Workspace

variable {w : Workspace} {ps : List Package}

/-! ## Preparation in order -/

variable (w) in
def handed (earlier : List Package) (p : Package) : List Package :=
  earlier.filter fun q => (w.includesOf p.name).contains q.name

variable (w) in
def Prepared (earlier : List Package) (p : Package) : Prop :=
  ∃ s p₀, w.settings? p.name = some s ∧ Package.ofSettings s w.document w.pointerWidth = .ok p₀ ∧
    p₀.prepare (w.handed earlier p) = .ok p

theorem settings?_name {name : String} {s : PackageSettings} (h : w.settings? name = some s) :
    s.name = name := by simpa using List.find?_some h

theorem ofSettings_name {s : PackageSettings} {document : Native.Document} {pointerWidth : Nat} {p : Package}
    (h : Package.ofSettings s document pointerWidth = .ok p) : p.name = s.name := by
  obtain ⟨_, -, h⟩ := Native.Document.bind_ok.1 h
  cases h
  rfl

theorem prepareInOrder_ok {names : List String} {prepared : List Package}
    (hknown : ∀ name ∈ names, ∃ s, w.settings? name = some s)
    (h : w.prepareInOrder names prepared = .ok ps) :
    ∃ new, ps = prepared ++ new ∧ new.map (·.name) = names ∧
      ∀ before p after, new = before ++ p :: after → w.Prepared (prepared ++ before) p := by
  induction names generalizing prepared with
  | nil =>
    cases h
    exact ⟨[], (List.append_nil _).symm, rfl, fun _ _ _ he => by simp at he⟩
  | cons name names ih =>
    obtain ⟨s, hs⟩ := hknown name List.mem_cons_self
    rw [prepareInOrder, hs] at h
    obtain ⟨p₀, hp₀, h⟩ := Native.Document.bind_ok.1 h
    obtain ⟨p, hp, h⟩ := Native.Document.bind_ok.1 h
    have hname : p.name = name :=
      (Package.prepare_name hp).trans ((ofSettings_name hp₀).trans (settings?_name hs))
    obtain ⟨new, rfl, hmap, hprep⟩ := ih (fun n hn => hknown n (List.mem_cons_of_mem _ hn)) h
    refine ⟨p :: new, by rw [List.append_assoc, List.singleton_append], by rw [List.map_cons, hname, hmap], ?_⟩
    intro before q after he
    cases before with
    | nil =>
      obtain rfl := (List.cons.inj he).1
      rw [List.append_nil]
      exact ⟨s, p₀, by rw [hname, hs], hp₀, by rw [handed, hname]; exact hp⟩
    | cons b before =>
      obtain ⟨rfl, hnew⟩ := List.cons.inj he
      have := hprep before q after hnew
      rwa [List.append_assoc, List.singleton_append] at this

theorem prepare_ordered (h : w.prepare = .ok ps) : w.Ordered (ps.map (·.name)) ∧
    ∀ before p after, ps = before ++ p :: after → w.Prepared before p := by
  obtain ⟨names, ho, h⟩ := Native.Document.bind_ok.1 h
  obtain ⟨hordered, -⟩ := order_ordered ho
  obtain ⟨new, rfl, rfl, hprep⟩ := prepareInOrder_ok hordered.known h
  exact ⟨hordered, hprep⟩

theorem prepare_wellNamed (h : w.prepare = .ok ps) : ∀ p ∈ ps, p.WellNamed fun _ => True := by
  intro p hp
  obtain ⟨before, after, he⟩ := List.append_of_mem hp
  obtain ⟨_, _, -, -, hprepare⟩ := (prepare_ordered h).2 before p after he
  exact Package.prepare_wellNamed hprepare

section
variable {before after : List Package} {p q : Package} (h : w.prepare = .ok ps)
  (hp : ps = before ++ p :: after)
include h hp

theorem irreflexive_of_prepare : ¬ w.Reaches p.name p.name :=
  (prepare_ordered h).1.irreflexive (hp ▸ List.mem_map_of_mem (by simp))

theorem exists_before_of_reaches {name : String} (hr : w.Reaches p.name name) :
    ∃ q ∈ before, q.name = name := by
  have hmap : ps.map (·.name) = before.map (·.name) ++ p.name :: after.map (·.name) := by
    rw [hp, List.map_append, List.map_cons]
  exact List.mem_map.1 ((prepare_ordered h).1.reaches hmap hr)

theorem mem_handed : q ∈ w.handed before p ↔ q ∈ ps ∧ w.Reaches p.name q.name := by
  rw [handed, List.mem_filter, List.contains_iff_mem, mem_includesOf]
  constructor
  · rintro ⟨hq, hr, -⟩
    exact ⟨hp ▸ List.mem_append_left _ hq, hr⟩
  · rintro ⟨hq, hr⟩
    obtain ⟨q', hq', hname⟩ := exists_before_of_reaches h hp hr
    have hmem : q' ∈ ps := hp ▸ List.mem_append_left _ hq'
    obtain rfl := List.inj_on_of_nodup_map (prepare_ordered h).1.nodup hmem hq hname
    exact ⟨hq', hr, fun he => irreflexive_of_prepare h hp (he ▸ hr)⟩

theorem handed_reaches {name : String} :
    (∃ q ∈ w.handed before p, q.name = name) ↔ w.Reaches p.name name ∧ name ≠ p.name := by
  constructor
  · rintro ⟨q, hq, rfl⟩
    have hr := ((mem_handed h hp).1 hq).2
    exact ⟨hr, fun he => irreflexive_of_prepare h hp (he ▸ hr)⟩
  · rintro ⟨hr, -⟩
    obtain ⟨q, hq, rfl⟩ := exists_before_of_reaches h hp hr
    exact ⟨q, (mem_handed h hp).2 ⟨hp ▸ List.mem_append_left _ hq, hr⟩, rfl⟩

end

/-! ## Links -/

variable (w) in
/-- How a package that has been prepared after those of `earlier` refers to other packages:
`included` is what it has been handed. -/
structure Linked (earlier : List Package) (p : Package) (included : List Package) : Prop where
  handed : ∃ s p₀, w.settings? p.name = some s ∧
    Package.ofSettings s w.document w.pointerWidth = .ok p₀ ∧ p₀.prepare included = .ok p
  imports : p.imports = included.map fun q => { name := q.name, path := q.settings.path }
  sublist : included.Sublist earlier
  distinct : (included.map (·.name)).Nodup
  reached : ∀ {name}, (∃ q ∈ included, q.name = name) ↔ w.Reaches p.name name ∧ name ≠ p.name
  /-- A declaration that the package does not export, but that has a name, has the qualified
  name of the type that an included package declares for its identity. -/
  references : ∀ {x d}, p.types.get? x = some d → p.exports d.native d.file = false → d.managed ≠ "" →
    ∃ q ∈ included, ∃ t, q.types.target? d.id = some t ∧ t ∈ (Emission.ofPackage q).types ∧
      d.managed = q.name ++ "." ++ t.managed

/-- In a list of prepared packages all references from one to another lead to a declared type. -/
theorem references_linked (h : w.prepare = .ok ps) {before after : List Package} {p : Package}
    (hp : ps = before ++ p :: after) : ∃ included, w.Linked before p included := by
  obtain ⟨hordered, hprep⟩ := prepare_ordered h
  obtain ⟨s, p₀, hs, hp₀, hprepare⟩ := hprep before p after hp
  have hsub : (w.handed before p).Sublist ps :=
    List.filter_sublist.trans (hp ▸ List.sublist_append_left _ _)
  refine ⟨w.handed before p, ⟨s, p₀, hs, hp₀, hprepare⟩, Package.prepare_imports hprepare,
    List.filter_sublist, hordered.nodup.sublist (hsub.map _), handed_reaches h hp, fun {x d} hd hexp hne => ?_⟩
  have hqual := (Package.prepare_resolved hprepare).qualified_of_foreign hd hexp hne
  obtain ⟨q, hq, name, hglobal, hname⟩ :=
    (Package.qualifiedName_cases _ _).resolve_left fun hnone => hne (hqual.trans hnone.2)
  obtain ⟨t, ht, htypes, rfl⟩ := (prepare_wellNamed h q (hsub.subset hq)).declares hglobal
  exact ⟨q, hq, t, ht, htypes, hqual.trans hname⟩

/-- A package, one that it includes, and one that this includes in turn, which declares a struct. -/
def shapes : Workspace where
  pointerWidth := 8
  packages := [
    { name := "user", headers := ["user.h"], includes := ["middle"] },
    { name := "middle", headers := ["middle.h"], includes := ["base"] },
    { name := "base", headers := ["base.h"] }]
  document := {
    files := [⟨"b", "base.h"⟩, ⟨"u", "user.h"⟩]
    types := Dict.ofList [
      ("d", .fundamental "double" 8),
      ("s", .struct { name := "point", file := "b", size := 8, fields := [⟨"x", "d"⟩] })]
    functions := [
      { id := "f1", name := "origin", file := "b", returns := "s", variadic := false, callback := none
        arguments := [] },
      { id := "f2", name := "draw", file := "u", returns := "d", variadic := false, callback := none
        arguments := [⟨"at", "s", .unset⟩] }] }

theorem shapes_linked : ∃ base middle user, shapes.prepare = .ok [base, middle, user] ∧
    user.types.targetName? "s" = some ("s", "base.Point") ∧
    ∃ included, shapes.Linked [base, middle] user included := by
  obtain ⟨ps, hps, hok⟩ := Native.Document.ok_of_any (x := shapes.prepare)
    (f := fun ps => decide (ps.length = 3 ∧
      ps[2]?.bind (fun user => user.types.targetName? "s") = some ("s", "base.Point"))) (by decide +kernel)
  obtain ⟨hlength, hname⟩ := of_decide_eq_true hok
  obtain ⟨base, middle, user, rfl⟩ := List.length_eq_three.1 hlength
  have hlast : [base, middle, user] = [base, middle] ++ user :: [] := rfl
  exact ⟨base, middle, user, hps, hname, references_linked hps hlast⟩

end Workspace

end Bindery
