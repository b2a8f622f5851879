import Bindery.Proofs.Package.Methods
import Bindery.Render.Type

/-!
# Names of members

The fields of a type, the views of a union's members and the methods are all selected by
name from one value. The scope in which methods are named also has the names of the members
if the declaration is a struct or union itself or has taken over the identity of one, and
then no method gets the name of a member. Any other synonym has a scope of its own, in which
nothing keeps a method from the name of a member.
-/

namespace Bindery

open Native (Identity)
open LoweringContext (memberKey)

/-! ## Members in the generated source -/

namespace Declaration

/-- The fields of the struct that is the underlying type of the declared one, through at
most `depth` synonyms. -/
def structMembersWithin (r : Registry) : (depth : Nat) → Declaration → List Member
  | 0, _ => []
  | depth + 1, d =>
    match d.shape with
    | .struct _ => d.members
    | .synonym (.declared id) .. => ((r.get? id).map (structMembersWithin r depth)).getD []
    | _ => []

def visibleMembers (d : Declaration) (r : Registry) : List Member :=
  d.structMembersWithin r (r.size + 1) ++ d.unionMembers r

def memberNames (d : Declaration) (r : Registry) : List String :=
  (d.visibleMembers r).map (·.managed) ++ d.methods.map (·.managed)

def sharesScope (d : Declaration) : Bool := !d.isSynonym || d.assumed.isSome

variable {d : Declaration} {r : Registry}

theorem structMembersWithin_cases (depth : Nat) (d : Declaration) :
    d.structMembersWithin r depth = [] ∨
      ∃ e, (e = d ∨ ∃ x, r.get? x = some e) ∧ d.structMembersWithin r depth = e.members := by
  induction depth generalizing d with
  | zero => exact .inl rfl
  | succ depth ih =>
    rw [structMembersWithin]
    split
    · exact .inr ⟨d, .inl rfl, rfl⟩
    · rename_i id _ _ _
      cases hl : r.get? id with
      | none => exact .inl rfl
      | some l =>
        refine (ih l).imp_right fun ⟨e, he, hm⟩ => ⟨e, .inr ?_, hm⟩
        rcases he with rfl | he
        · exact ⟨id, hl⟩
        · exact he
    · exact .inl rfl

/-- The fields are those that the definition writes out, or those of the type that it names. -/
theorem definitionWithin_of_structMembers {depth : Nat} {d : Declaration}
    (h : d.structMembersWithin r depth ≠ []) :
    (∃ (e : Declaration) (ms : Option (List Member)), e.shape = .struct ms ∧
      e.members = d.structMembersWithin r depth ∧ d.definitionWithin r depth = e.definitionWithin r 1) ∨
    ∃ (l : Declaration) (n : Nat), (∃ x, r.get? x = some l) ∧ l.isEmitted = true ∧
      d.definitionWithin r depth = l.managed ∧ d.structMembersWithin r depth = l.structMembersWithin r n := by
  induction depth generalizing d with
  | zero => exact absurd rfl h
  | succ depth ih =>
    rw [structMembersWithin] at h ⊢
    rw [definitionWithin]
    cases hd : d.shape with
    | struct ms => exact .inl ⟨d, ms, hd, rfl, by simp [definitionWithin, hd]⟩
    | union | enumeration => simp [hd] at h
    | synonym literal root strategy =>
      cases literal with
      | declared id =>
        cases hl : r.get? id with
        | none => simp [hd, hl] at h
        | some l =>
          simp only [hd, hl, Option.map_some, Option.getD_some] at h ⊢
          by_cases he : l.isEmitted = true
          · exact .inr ⟨l, depth, ⟨id, hl⟩, he, by rw [if_pos he], rfl⟩
          · rw [if_neg he]
            exact ih h
      | _ => simp [hd] at h

theorem unionMembers_cases (d : Declaration) (r : Registry) :
    d.unionMembers r = [] ∨
      (∀ depth, d.structMembersWithin r depth = []) ∧
        ∃ e, (e = d ∨ ∃ x, r.get? x = some e) ∧ d.unionMembers r = e.members := by
  unfold unionMembers
  split
  · rename_i hd
    refine .inr ⟨fun depth => ?_, d, .inl rfl, rfl⟩
    cases depth with
    | zero => rfl
    | succ depth => simp [structMembersWithin, hd]
  · rename_i id root strategy hd
    cases hl : r.get? id with
    | none => exact .inl rfl
    | some l =>
      cases hs : l.shape with
      | struct | enumeration | synonym => exact .inl (by simp [hs])
      | union =>
        cases he : l.isEmitted with
        | true => exact .inl (by simp [hs, he])
        | false =>
          refine .inr ⟨fun depth => ?_, l, .inr ⟨id, hl⟩, by simp [hs, he]⟩
          match depth with
          | 0 => rfl
          | 1 => simp [structMembersWithin, hd, hl]
          | depth + 2 => simp [structMembersWithin, hd, hl, hs]
  · exact .inl rfl

theorem visibleMembers_cases (d : Declaration) (r : Registry) :
    d.visibleMembers r = [] ∨
      ∃ e, (e = d ∨ ∃ x, r.get? x = some e) ∧ d.visibleMembers r = e.members := by
  unfold visibleMembers
  rcases d.unionMembers_cases r with hu | ⟨hs, e, he, hu⟩
  · rw [hu, List.append_nil]
    exact d.structMembersWithin_cases _
  · rw [hs, hu, List.nil_append]
    exact .inr ⟨e, he, rfl⟩

theorem visibleMembers_of_isSynonym (h : d.isSynonym = false) : d.visibleMembers r = d.members := by
  unfold isSynonym at h
  unfold visibleMembers unionMembers
  rw [structMembersWithin]
  cases hd : d.shape with
  | struct => simp
  | union => simp
  | enumeration => simp [members, hd]
  | synonym => simp [hd] at h

theorem visibleMembers_synonym {l : Declaration} {id root : Identity} {strategy : Strategy}
    (hd : d.shape = .synonym (.declared id) root strategy) (hl : r.get? id = some l)
    (hc : l.isComposite = true) (he : l.isEmitted = false) : d.visibleMembers r = l.members := by
  have hsize : ∃ n, r.size = n + 1 := by
    refine Nat.exists_eq_add_one_of_ne_zero fun hz => ?_
    have hm := (r.get?_eq_some_iff id l).1 hl
    rw [List.eq_nil_of_length_eq_zero hz] at hm
    cases hm
  obtain ⟨n, hn⟩ := hsize
  unfold isComposite at hc
  unfold visibleMembers unionMembers
  rw [structMembersWithin, hd, hn]
  simp only [hl, Option.map_some, Option.getD_some, structMembersWithin]
  cases hs : l.shape with
  | struct => simp
  | union => simp [he]
  | enumeration => simp [hs] at hc
  | synonym => simp [hs] at hc

end Declaration

/-! ## Members of a prepared package -/

namespace Package

variable {p : Package} {r : Registry}

section
variable {R : Registry} (ht : p.context.Tidy r) (h : p.AllHosted (p.supersede r) R)
  {x : Identity} {d : Declaration}
include ht h

theorem AllHosted.members_tidy (hd : R.get? x = some d) :
    ∃ d₀ : Declaration, d₀.Tidy ∧ d.members = d₀.members := by
  obtain ⟨d₁, hd₁, hout, -⟩ := h.of_get? hd
  obtain ⟨d₀, hd₀, hs⟩ := (supersededAll ht).of_get? hd₁
  refine ⟨d₀, ht.tidy hd₀, ?_⟩
  rw [Declaration.members_of_outline hout, hs.members_eq]

theorem AllHosted.visibleMembers_tidy (hd : R.get? x = some d) :
    d.visibleMembers R = [] ∨ ∃ e : Declaration, e.Tidy ∧ d.visibleMembers R = e.members := by
  refine (d.visibleMembers_cases R).imp_right fun ⟨e, he, hm⟩ => ?_
  rw [hm]
  rcases he with rfl | ⟨y, hy⟩
  · exact h.members_tidy ht hd
  · exact h.members_tidy ht hy

theorem AllHosted.visibleMembers_names (hd : R.get? x = some d) :
    (∀ m ∈ d.visibleMembers R, m.managed ≠ "" ↔ m.native = "" ∨ upperName m.native ≠ "") ∧
      ((∀ m ∈ d.visibleMembers R, m.managed ≠ "") → ((d.visibleMembers R).map (·.managed)).Nodup) := by
  rcases h.visibleMembers_tidy ht hd with hnone | ⟨e, he, hm⟩
  · rw [hnone]
    exact ⟨nofun, fun _ => List.nodup_nil⟩
  · rw [hm]
    exact ⟨fun m hm => he.ne_empty_iff hm, he.nodup⟩

/-- A declaration that shares the scope of members has just these members. -/
theorem AllHosted.hosts_members (hd : R.get? x = some d) (hshare : d.sharesScope = true) :
    ∃ e : Declaration, e.Tidy ∧ d.visibleMembers R = e.members ∧ d.namingKey = e.id ∧
      p.Hosts e.scope d.methods d.scope := by
  obtain ⟨d₁, hd₁, hout, hosts⟩ := h.of_get? hd
  obtain ⟨d₀, hd₀, hs⟩ := (supersededAll ht).of_get? hd₁
  have hassumed : d.assumed = d₁.assumed := congrArg (·.assumed) hout
  cases ha : d.assumed with
  | none =>
    -- the declaration has members of its own, or none at all
    have hsyn : d.isSynonym = false := by simpa [Declaration.sharesScope, ha] using hshare
    have hid : d.id = d₀.id := (congrArg (·.id) hout).trans (by rw [hs.same]; rfl)
    refine ⟨d₀, ht.tidy hd₀, ?_, by rw [Declaration.namingKey, ha, Option.getD_none, hid], ?_⟩
    · rw [Declaration.visibleMembers_of_isSynonym hsyn, Declaration.members_of_outline hout, hs.members_eq]
    · rw [← hs.own (hassumed.symm.trans ha)]
      exact hosts
  | some l =>
    -- the literal is not declared any more, so its members are written out in the synonym
    obtain ⟨⟨root, strategy, hshape⟩, e₀, e₁, he₀, he₁, hcomp, hscope, hby⟩ :=
      hs.assumes l (hassumed.symm.trans ha)
    obtain ⟨e, he, hoe, -⟩ := h.get? he₁
    obtain ⟨e₀', he₀', hse⟩ := (supersededAll ht).of_get? he₁
    obtain rfl := Option.some.inj (he₀.symm.trans he₀')
    have hcomp' : e.isComposite = true := by
      rw [Declaration.isComposite_of_outline hoe, hse.isComposite_eq, hcomp]
    have hemitted : e.isEmitted = false := by
      have hby' : e.supersededBy = some x := (congrArg (·.supersededBy) hoe).trans hby
      simp [Declaration.isEmitted, hby']
    refine ⟨e₀, ht.tidy he₀, ?_, ?_, hscope ▸ hosts⟩
    · have hsyn := Declaration.synonym_of_outline hout (hs.shape_eq.trans hshape)
      rw [Declaration.visibleMembers_synonym hsyn he hcomp' hemitted,
        Declaration.members_of_outline hoe, hse.members_eq]
    · rw [Declaration.namingKey, ha, Option.getD_some, ht.consistent.id_eq he₀]

end

/-! ## Distinct names -/

structure MembersApart (p : Package) (d : Declaration) : Prop where
  members : ∀ m ∈ d.visibleMembers p.types, m.native = "" ∨ upperName m.native ≠ ""
  methods : ∀ w ∈ d.methods, w.managed ≠ ""
  apart : (d.sharesScope = true ∧ ∀ w ∈ d.methods, ∀ i, w.id ≠ memberKey d.namingKey i) ∨
    ∀ w ∈ d.methods, ∀ m ∈ d.visibleMembers p.types, w.managed ≠ m.managed

/-- A method has a name if the filter leaves something of its native one. The names of the
members and methods of a type are not empty and pairwise distinct exactly when each of them
has a name and methods are kept apart from members, by a shared scope if by nothing else. -/
theorem member_names_distinct_iff {included : List Package} {p' : Package}
    (h : p.prepare included = .ok p') {id : Identity} {d : Declaration} (hd : p'.types.get? id = some d) :
    (∀ w ∈ d.methods, p.candidate w.native ≠ "" → w.managed ≠ "") ∧
      ((d.memberNames p'.types).Nodup ∧ "" ∉ d.memberNames p'.types ↔ p'.MembersApart d) := by
  obtain ⟨r, ht, hall⟩ := prepare_hosted h
  obtain ⟨d₁, -, -, hosts⟩ := hall.of_get? hd
  refine ⟨fun w hw => (hosts.methods w hw).2, ?_⟩
  obtain ⟨hnamed, hnodup⟩ := hall.visibleMembers_names ht hd
  simp only [Declaration.memberNames, List.nodup_append, List.mem_append, List.mem_map, not_or, not_exists,
    not_and]
  constructor
  · intro h
    obtain ⟨⟨-, -, hdisj⟩, hms, hws⟩ := h
    refine ⟨fun m hm => (hnamed m hm).1 (hms m hm), hws, .inr fun w hw m hm he => ?_⟩
    exact hdisj _ ⟨m, hm, rfl⟩ _ ⟨w, hw, rfl⟩ he.symm
  · intro h
    obtain ⟨hms, hws, hapart⟩ := h
    have hms' : ∀ m ∈ d.visibleMembers p'.types, m.managed ≠ "" :=
      fun m hm => (hnamed m hm).2 (hms m hm)
    refine ⟨⟨hnodup hms', hosts.nodup hws, ?_⟩, hms', hws⟩
    intro _ h₁ _ h₂ he
    obtain ⟨m, hm, rfl⟩ := h₁
    obtain ⟨w, hw, rfl⟩ := h₂
    rcases hapart with ⟨hshare, hkeys⟩ | hdisj
    · obtain ⟨e, he', hmem, hkey, hosts'⟩ := hall.hosts_members ht hd hshare
      rw [hmem] at hm
      exact hosts'.apart he' (hkey ▸ hkeys) hw (hws w hw) hm he.symm
    · exact hdisj w hw m hm he.symm

/-- A struct with a tag, a typedef of it, and a function on the typedef that could be called
as a field is. -/
def points (tag : String) : Package where
  settings := { name := "point" }
  filter := .all
  rules := {}
  ownedFiles := ["f1"]
  document := {
    files := [⟨"f1", "point.h"⟩]
    types := Dict.ofList [
      ("int", .fundamental "int" 4),
      ("s1", .struct {
        name := tag, file := "f1", size := 8, fields := [⟨"x", "int"⟩, ⟨"y", "int"⟩] }),
      ("point_t", .typedef { name := "point_t", file := "f1", base := "s1", root := "s1", size := 8 }),
      ("pp", .pointer "point_t" 8)]
    functions := [
      { id := "fn2", name := "point_x", file := "f1", returns := "int", variadic := false
        callback := none, arguments := [⟨"p", "pp", .unset⟩] }] }

/-- The typedef has the name of the struct, shares its scope, and so keeps the longer name. -/
theorem points_apart :
    ∃ p, (points "point_t").prepare [] = .ok p ∧ ∃ d, p.types.get? "point_t" = some d ∧
      d.isEmitted = true ∧ d.memberNames p.types = ["X", "Y", "PointX"] ∧
      (d.memberNames p.types).Nodup ∧ "" ∉ d.memberNames p.types := by
  obtain ⟨p, hp, d, hd, he, hnames, hms, hws, hshare, hkey, hids⟩ :
      ∃ p, (points "point_t").prepare [] = .ok p ∧ ∃ d, p.types.get? "point_t" = some d ∧
        d.isEmitted = true ∧ d.memberNames p.types = ["X", "Y", "PointX"] ∧
        (∀ m ∈ d.visibleMembers p.types, m.native = "" ∨ upperName m.native ≠ "") ∧
        (∀ w ∈ d.methods, w.managed ≠ "") ∧ d.sharesScope = true ∧ d.namingKey = "s1" ∧
        ∀ w ∈ d.methods, w.id = "fn2" :=
    ⟨_, rfl, _, (Option.some_get (by decide +kernel)).symm, by decide +kernel, by decide +kernel,
      by decide +kernel, by decide +kernel, by decide +kernel, by decide +kernel, by decide +kernel⟩
  refine ⟨p, hp, d, hd, he, hnames, ?_⟩
  refine (member_names_distinct_iff hp hd).2.2 ⟨hms, hws, .inl ⟨hshare, ?_⟩⟩
  intro w hw i hi
  rw [hids w hw, hkey] at hi
  have := congrArg (fun key => key.toList.head?) hi
  simp [memberKey] at this

/-- A typedef with another name has a scope of its own, and its method is named like a field. -/
theorem points_collide :
    ∃ p, (points "point_s").prepare [] = .ok p ∧ ∃ d, p.types.get? "point_t" = some d ∧
      d.isEmitted = true ∧ d.memberNames p.types = ["X", "Y", "X"] ∧
      ¬ (d.memberNames p.types).Nodup := by
  exact ⟨_, rfl, _, (Option.some_get (by decide +kernel)).symm, by decide +kernel, by decide +kernel,
    by decide +kernel⟩

end Package

end Bindery
