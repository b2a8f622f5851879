import Bindery.Managed.Method
import Bindery.Proofs.Scope
import Mathlib.Data.List.Forall2

/-!
# Names of methods

A method is named in the scope of the members of its type, and has its name written down besides. Both
stay the same when members and methods get names in any order and when methods lose the name of their
type, which is the only way in which the name of a method changes.
-/

namespace Bindery

open Native (Identity)

structure Scope.NamesMethods (s : Scope) (ms : List Wrapper) : Prop where
  bijective : s.Bijective
  ids : (ms.map (·.id)).Nodup
  bound : ∀ {m}, m ∈ ms → m.managed ≠ "" → s.nameOf? m.id = some m.managed

namespace Scope.NamesMethods

variable {s : Scope} {ms before after : List Wrapper} {m : Wrapper}

theorem begin (h : s.Bijective) : s.NamesMethods [] := ⟨h, List.nodup_nil, nofun⟩

theorem resolve (h : s.NamesMethods ms) (id candidate : String) : (s.resolve id candidate).2.NamesMethods ms where
  bijective := h.bijective.resolve id candidate
  ids := h.ids
  bound hm hne := Scope.nameOf?_resolve_mono (h.bound hm hne) id candidate

theorem concat (h : s.NamesMethods ms) (hm : m.id ∉ ms.map (·.id)) (candidate : String) :
    (s.resolve m.id candidate).2.NamesMethods (ms ++ [{ m with managed := (s.resolve m.id candidate).1 }]) where
  bijective := h.bijective.resolve m.id candidate
  ids := by
    rw [List.map_append, List.nodup_append]
    refine ⟨h.ids, by simp, fun a ha b hb => ?_⟩
    rintro rfl
    rw [List.map_singleton, List.mem_singleton] at hb
    exact hm (hb ▸ ha)
  bound hv hne := by
    rcases List.mem_append.1 hv with hv | hv
    · exact Scope.nameOf?_resolve_mono (h.bound hv hne) _ _
    · obtain rfl := List.mem_singleton.1 hv
      exact Scope.nameOf?_resolve_self _ _ hne

theorem id_ne (h : s.NamesMethods (before ++ m :: after)) {v : Wrapper} (hv : v ∈ before ++ after) :
    v.id ≠ m.id := by
  have hnd := h.ids
  rw [List.map_append, List.map_cons, List.nodup_middle, List.nodup_cons, ← List.map_append] at hnd
  exact fun he => hnd.1 (he ▸ List.mem_map_of_mem hv)

/-- Only the binding of the method changes, and no other method has its identity. -/
theorem rename (h : s.NamesMethods (before ++ m :: after)) {name : String} (hfree : s.hasName name = false) :
    (s.rename m.id name).2.NamesMethods (before ++ { m with managed := name } :: after) where
  bijective := h.bijective.rename hfree m.id
  ids := by simpa using h.ids
  bound {v} hv hne := by
    have old (hv : v ∈ before ++ after) : (s.rename m.id name).2.nameOf? v.id = some v.managed := by
      rw [Scope.nameOf?_rename hfree, if_neg (h.id_ne hv)]
      refine h.bound ?_ hne
      rw [List.mem_append, List.mem_cons]
      exact (List.mem_append.1 hv).imp_right .inr
    rcases List.mem_append.1 hv with hv | hv
    · exact old (List.mem_append_left _ hv)
    · rcases List.mem_cons.1 hv with rfl | hv
      · rw [Scope.nameOf?_rename hfree, if_pos rfl]
      · exact old (List.mem_append_right _ hv)

end Scope.NamesMethods

/-! ## Shorter names -/

/-- Whether a name is what is left of another without that of the type, and begins with a capital. -/
structure Shortens (typeName name shorter : String) : Prop where
  dropped : name = typeName ++ shorter ∨ name = shorter ++ typeName
  capital : ∃ c ∈ shorter.toList.head?, 'A' ≤ c ∧ c ≤ 'Z'

theorem Shortens.ne_empty {typeName name shorter : String} (h : Shortens typeName name shorter) : shorter ≠ "" := by
  rintro rfl
  obtain ⟨c, hc, -⟩ := h.capital
  cases hc

theorem shortens_of_shorterName? {typeName name shorter : String} (h : shorterName? typeName name = some shorter)
    (hupper : startsUpper shorter = true) : Shortens typeName name shorter := by
  constructor
  · rw [shorterName?, Option.orElse_eq_orElse, Option.orElse_eq_or, Option.or_eq_some_iff] at h
    rcases h with hstart | ⟨-, hend⟩
    · obtain ⟨cs, hcs, rfl⟩ := Option.map_eq_some_iff.1 hstart
      left
      rw [← String.toList_inj, String.toList_append, String.toList_ofList, dropStart?_eq_some_iff.1 hcs]
    · obtain ⟨cs, hcs, rfl⟩ := Option.map_eq_some_iff.1 hend
      right
      rw [← String.toList_inj, String.toList_append, String.toList_ofList, dropEnd?_eq_some_iff.1 hcs]
  · obtain ⟨c, hc, hcapital⟩ := Option.any_eq_true _ _ |>.1 hupper
    exact ⟨c, hc, of_decide_eq_true hcapital⟩

theorem shortenMethod_cases (typeName : String) (s : Scope) (m : Wrapper) :
    shortenMethod typeName s m = (m, s) ∨
      ∃ name, Shortens typeName m.managed name ∧ s.hasName name = false ∧
        shortenMethod typeName s m = ({ m with managed := name }, (s.rename m.id name).2) := by
  unfold shortenMethod
  split
  · rename_i shorter hshorter
    split
    · rename_i hc
      rw [Bool.and_eq_true, Bool.not_eq_true'] at hc
      exact .inr ⟨shorter, shortens_of_shorterName? hshorter hc.1, hc.2, by simp [Scope.rename_free hc.2]⟩
    · exact .inl rfl
  · exact .inl rfl

/-- What holds of methods and their scope holds after the pass if each change of one name keeps it. -/
theorem shortenMethods_induct {typeName : String} {P : List Wrapper → Scope → Prop}
    (step : ∀ {before m after s name}, P (before ++ m :: after) s → Shortens typeName m.managed name →
      s.hasName name = false → P (before ++ { m with managed := name } :: after) (s.rename m.id name).2)
    {before after : List Wrapper} {s : Scope} (h : P (before ++ after) s) :
    P (before ++ (shortenMethods typeName s after).1) (shortenMethods typeName s after).2 := by
  induction after generalizing before s with
  | nil => exact h
  | cons m after ih =>
    have hstep : P ((before ++ [(shortenMethod typeName s m).1]) ++ after) (shortenMethod typeName s m).2 := by
      rw [← List.append_cons]
      rcases shortenMethod_cases typeName s m with hm | ⟨name, hshorter, hfree, hm⟩
      · rw [hm]
        exact h
      · rw [hm]
        exact step h hshorter hfree
    have := ih hstep
    rwa [← List.append_cons] at this

def MayShorten (typeName : String) (m m' : Wrapper) : Prop :=
  m' = m ∨ ∃ shorter, Shortens typeName m.managed shorter ∧ m' = { m with managed := shorter }

theorem shortenMethod_shortens (typeName : String) (s : Scope) (m : Wrapper) :
    MayShorten typeName m (shortenMethod typeName s m).1 ∧
      ∀ id, id ≠ m.id → (shortenMethod typeName s m).2.nameOf? id = s.nameOf? id := by
  rcases shortenMethod_cases typeName s m with hm | ⟨name, hshorter, hfree, hm⟩
  · rw [hm]
    exact ⟨.inl rfl, fun _ _ => rfl⟩
  · rw [hm]
    refine ⟨.inr ⟨name, hshorter, rfl⟩, fun id hid => ?_⟩
    rw [Scope.nameOf?_rename hfree, if_neg hid]

theorem shortenMethods_shortens (typeName : String) (s : Scope) (ms : List Wrapper) :
    List.Forall₂ (MayShorten typeName) ms (shortenMethods typeName s ms).1 ∧
      ∀ id, id ∉ ms.map (·.id) → (shortenMethods typeName s ms).2.nameOf? id = s.nameOf? id := by
  induction ms generalizing s with
  | nil => exact ⟨.nil, fun _ _ => rfl⟩
  | cons m ms ih =>
    obtain ⟨hm, hother⟩ := shortenMethod_shortens typeName s m
    obtain ⟨hrest, hothers⟩ := ih (shortenMethod typeName s m).2
    refine ⟨.cons hm hrest, fun id hid => ?_⟩
    rw [List.map_cons, List.mem_cons, not_or] at hid
    exact (hothers id hid.2).trans (hother id hid.1)

/-! ## Members and methods in any order -/

inductive MemberAction where
  | nameMember (id candidate : String)
  | addMethod (w : Wrapper) (candidate : String)
  | shortenMethodNames

namespace Declaration

def act (d : Declaration) : MemberAction → Declaration
  | .nameMember id candidate => { d with scope := (d.scope.resolve id candidate).2 }
  | .addMethod w candidate => (d.addMethod w candidate).2
  | .shortenMethodNames => d.shortenMethodNames

def run (d : Declaration) (actions : List MemberAction) : Declaration := actions.foldl act d

variable {d : Declaration}

theorem act_namesMethods (h : d.scope.NamesMethods d.methods) (a : MemberAction) :
    (d.act a).scope.NamesMethods (d.act a).methods := by
  cases a with
  | nameMember id candidate => exact h.resolve id candidate
  | addMethod w candidate =>
    rw [act, addMethod]
    split
    · exact h
    · rename_i hnew
      refine h.concat (fun hm => hnew ?_) candidate
      obtain ⟨m, hm, he⟩ := List.mem_map.1 hm
      exact List.any_eq_true.2 ⟨m, hm, by simp [he]⟩
  | shortenMethodNames =>
    rw [act, Declaration.shortenMethodNames]
    split
    · exact h
    · rw [← List.nil_append d.methods] at h
      exact shortenMethods_induct (P := fun ms s => s.NamesMethods ms) (fun h _ hfree => h.rename hfree) h

theorem run_namesMethods (h : d.scope.NamesMethods d.methods) (actions : List MemberAction) :
    (d.run actions).scope.NamesMethods (d.run actions).methods := by
  induction actions generalizing d with
  | nil => exact h
  | cons a actions ih => exact ih (act_namesMethods h a)

structure InStep (d : Declaration) : Prop where
  ids : (d.methods.map (·.id)).Nodup
  bound : ∀ m ∈ d.methods, m.managed ≠ "" → d.scope.nameOf? m.id = some m.managed
  distinct : ((d.methods.map (·.managed)).filter (· ≠ "")).Nodup
  apart : ∀ m ∈ d.methods, m.managed ≠ "" → ∀ id, d.scope.nameOf? id = some m.managed → id = m.id
  owner_iff : ∀ id name, d.scope.owner? name = some id ↔ d.scope.nameOf? id = some name

theorem inStep_of_namesMethods (h : d.scope.NamesMethods d.methods) : d.InStep where
  ids := h.ids
  bound _ hm hne := h.bound hm hne
  distinct := by
    rw [List.filter_map]
    refine List.Nodup.map_on (fun m hm m' hm' he => ?_) ((List.Nodup.of_map _ h.ids).filter _)
    obtain ⟨hm, hne⟩ := List.mem_filter.1 hm
    obtain ⟨hm', hne'⟩ := List.mem_filter.1 hm'
    have hid := h.bijective.name_inj (h.bound hm (by simpa using hne)) (he ▸ h.bound hm' (by simpa using hne'))
    exact List.inj_on_of_nodup_map h.ids hm hm' hid
  apart _ hm hne _ hid := h.bijective.name_inj hid (h.bound hm hne)
  owner_iff _ _ := h.bijective.owner?_eq_some_iff

structure ShortensTo (d e : Declaration) : Prop where
  methods : List.Forall₂ (MayShorten d.managed) d.methods e.methods
  others : ∀ id, id ∉ d.methods.map (·.id) → e.scope.nameOf? id = d.scope.nameOf? id

theorem mayShorten_refl (typeName : String) (ms : List Wrapper) : List.Forall₂ (MayShorten typeName) ms ms :=
  List.forall₂_same.2 fun _ _ => .inl rfl

theorem shortensTo_shortenMethodNames (d : Declaration) : d.ShortensTo d.shortenMethodNames := by
  unfold Declaration.shortenMethodNames
  split
  · exact ⟨mayShorten_refl _ _, fun _ _ => rfl⟩
  · obtain ⟨hmethods, hothers⟩ := shortenMethods_shortens d.managed d.scope d.methods
    exact ⟨hmethods, hothers⟩

/-- However members and methods of a type have got their names, each method that has one is bound to it,
and shorter names come about by leaving out the name of the type only. -/
theorem methods_in_step (hmethods : d.methods = []) (hscope : d.scope = {}) (actions : List MemberAction) :
    (d.run actions).InStep ∧ (d.run actions).ShortensTo (d.run actions).shortenMethodNames := by
  have hbegin : d.scope.NamesMethods d.methods := by
    rw [hmethods, hscope]
    exact .begin .empty
  exact ⟨inStep_of_namesMethods (run_namesMethods hbegin actions), shortensTo_shortenMethodNames _⟩

/-- A type with a field, of which one method is named like the field once its name is shorter. -/
def point : Declaration where
  id := "s"
  native := "point"
  file := "h"
  managed := "Point"
  size := 16
  shape := .struct none

def pointMethod (id native : String) : Wrapper where
  id := id
  native := native
  file := "h"
  managed := ""
  receiver := none
  parameters := []
  arguments := []
  result := none

def pointActions : List MemberAction := [
  .nameMember "s.0" "X", .addMethod (pointMethod "f1" "point_norm") "PointNorm",
  .addMethod (pointMethod "f2" "point_x") "PointX", .addMethod (pointMethod "f1" "point_norm") "Norm",
  .addMethod (pointMethod "f3" "x_of_point") "X", .shortenMethodNames]

theorem point_methods_in_step : point.methods = [] ∧ point.scope = {} ∧ (point.run pointActions).InStep ∧
    (point.run pointActions).ShortensTo (point.run pointActions).shortenMethodNames ∧
    (point.run pointActions).methods.map (·.managed) = ["Norm", "PointX", "X_"] := by
  obtain ⟨hstep, hshorter⟩ := methods_in_step (d := point) rfl rfl pointActions
  exact ⟨rfl, rfl, hstep, hshorter, by decide +kernel⟩

end Declaration

end Bindery
