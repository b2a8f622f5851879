import Bindery.Proofs.Workspace.References
import Bindery.Render.File
import Mathlib.Data.List.Induction

/-!
# What a package does not depend on

The order of the packages is that of one walk over all of them, so a package that is added to the
list can change the order in which another is handed what it includes. It can change nothing else:
a package that is handed its includes in the same order is prepared as before.
-/

namespace Bindery

namespace Workspace

variable {w w' : Workspace} {x a b : String} {o o' : List String}

/-! ## One more name -/

/-- Whether the second workspace has the same packages as the first, save one that no package of the
first includes. -/
structure Extends (x : String) (w w' : Workspace) : Prop where
  settings : ∀ name, name ≠ x → w'.settings? name = w.settings? name
  unknown : w.settings? x = none
  unincluded : ∀ name, ¬ w.Includes name x

theorem Includes.known (h : w.Includes a b) : ∃ s, w.settings? a = some s := by
  obtain ⟨s, hs, -⟩ := h
  exact ⟨s, hs⟩

theorem Extends.ne_of_known (hx : Extends x w w') {s : PackageSettings} (h : w.settings? a = some s) :
    a ≠ x := by
  rintro rfl
  rw [hx.unknown] at h
  cases h

theorem Extends.includes_iff (hx : Extends x w w') (ha : a ≠ x) : w'.Includes a b ↔ w.Includes a b := by
  unfold Includes
  rw [hx.settings a ha]

theorem Extends.not_reaches (hx : Extends x w w') : ¬ w.Reaches a x := by
  intro h
  cases h with
  | single hi => exact hx.unincluded _ hi
  | tail _ hi => exact hx.unincluded _ hi

theorem Extends.reaches (hx : Extends x w w') (h : w.Reaches a b) : w'.Reaches a b := by
  have includes {a b : String} (hi : w.Includes a b) : w'.Includes a b := by
    obtain ⟨s, hs⟩ := hi.known
    exact (hx.includes_iff (hx.ne_of_known hs)).2 hi
  induction h with
  | single hi => exact .single (includes hi)
  | tail _ hi ih => exact ih.tail (includes hi)

theorem Extends.reaches_iff (hx : Extends x w w') (ha : a ≠ x) : w'.Reaches a b ↔ w.Reaches a b := by
  refine ⟨fun h => ?_, hx.reaches⟩
  induction h with
  | single hi => exact .single ((hx.includes_iff ha).1 hi)
  | @tail c _ _ hi ih =>
    have hc : c ≠ x := fun he => hx.not_reaches (he ▸ ih)
    exact ih.tail ((hx.includes_iff hc).1 hi)

variable (w) in
def reachedIn (names : List String) (name : String) : List String := names.filter (w.includesOf name).contains

theorem mem_reachedIn {names : List String} : b ∈ w.reachedIn names a ↔ b ∈ names ∧ w.Reaches a b ∧ b ≠ a := by
  rw [reachedIn, List.mem_filter, List.contains_iff_mem, mem_includesOf]

theorem Extends.reachedIn_eq (hx : Extends x w w') (ha : a ≠ x) (names : List String) :
    w'.reachedIn names a = w.reachedIn names a := by
  refine List.filter_congr fun m _ => ?_
  rw [Bool.eq_iff_iff, List.contains_iff_mem, List.contains_iff_mem, mem_includesOf, mem_includesOf,
    hx.reaches_iff ha]

/-! ## Two walks side by side -/

theorem foldlM_along {α β ε : Type} {f g : β → α → Except ε β} {P : β → β → Prop} {l : List α}
    (hstep : ∀ a ∈ l, ∀ {o o' o₁ o₁'}, P o o' → f o a = .ok o₁ → g o' a = .ok o₁' → P o₁ o₁')
    {o o' o₁ o₁' : β} (h : P o o') (hf : l.foldlM f o = .ok o₁) (hg : l.foldlM g o' = .ok o₁') :
    P o₁ o₁' := by
  induction l generalizing o o' with
  | nil =>
    cases hf
    cases hg
    exact h
  | cons a l ih =>
    rw [List.foldlM_cons] at hf hg
    obtain ⟨p, hp, hf⟩ := Native.Document.bind_ok.1 hf
    obtain ⟨p', hp', hg⟩ := Native.Document.bind_ok.1 hg
    exact ih (fun b hb => hstep b (List.mem_cons_of_mem _ hb)) (hstep a List.mem_cons_self h hp hp') hf hg

theorem visit_ok {depth : Nat} {path : List String} {name : String}
    (h : w.visit (depth + 1) path name o = .ok o') :
    name ∈ o ∧ o = o' ∨ name ∉ o ∧ (w.settings? name = none ∧ o = o' ∨
      ∃ s f, w.settings? name = some s ∧ s.includes.foldlM (fun order m =>
        if (w.settings? m).isNone then throw (.unknownInclude name m)
        else w.visit depth (name :: path) m order) o = .ok f ∧ f ++ [name] = o') := by
  rw [visit] at h
  split at h
  · rename_i hmem
    cases h
    exact .inl ⟨by simpa using hmem, rfl⟩
  rename_i hnew
  refine .inr ⟨by simpa using hnew, ?_⟩
  split at h
  · cases h
  split at h
  · rename_i hnone
    cases h
    exact .inl ⟨hnone, rfl⟩
  · rename_i s hs
    obtain ⟨f, hf, h⟩ := Native.Document.bind_ok.1 h
    cases h
    exact .inr ⟨s, f, hs, hf, rfl⟩

theorem visit_adds {depth : Nat} {path : List String} {name : String}
    (h : w.visit depth path name o = .ok o') : ∀ m ∈ o', m ∈ o ∨ m = name ∨ w.Reaches name m := by
  induction depth generalizing path name o o' with
  | zero => cases h
  | succ depth ih =>
    rcases visit_ok h with ⟨-, rfl⟩ | ⟨-, ⟨-, rfl⟩ | ⟨s, f, hs, hf, rfl⟩⟩
    · exact fun m hm => .inl hm
    · exact fun m hm => .inl hm
    · have hadds : ∀ m ∈ f, m ∈ o ∨ w.Reaches name m := by
        refine foldlM_along (P := fun p _ => ∀ m ∈ p, m ∈ o ∨ w.Reaches name m) ?_ (fun m hm => .inl hm) hf hf
        intro i hi p _ p₁ _ hp hrun _ m hm
        split at hrun
        · cases hrun
        have hinc : w.Includes name i := ⟨s, hs, hi⟩
        rcases ih hrun m hm with hm | rfl | hr
        · exact hp m hm
        · exact .inr (.single hinc)
        · exact .inr (.head hinc hr)
      intro m hm
      rcases List.mem_append.1 hm with hm | hm
      · exact (hadds m hm).imp_right .inr
      · exact .inr (.inl (List.mem_singleton.1 hm))

/-- Orders of two walks, of which the second has been at more places. None of these is one of those
whose order matters. -/
structure Along (w w' : Workspace) (matters : String → Bool) (extra : String → Prop)
    (o o' : List String) : Prop where
  ordered : w.Ordered o
  ordered' : w'.Ordered o'
  kept : ∀ m ∈ o, m ∈ o'
  added : ∀ m ∈ o', m ∉ o → extra m
  same : o'.filter matters = o.filter matters

theorem filter_append_of_none {α : Type} {p : α → Bool} {l more : List α} (h : ∀ m ∈ more, p m = false) :
    (l ++ more).filter p = l.filter p := by
  have hnone : more.filter p = [] := List.filter_eq_nil_iff.2 fun m hm => by simp [h m hm]
  rw [List.filter_append, hnone, List.append_nil]

theorem Walks.filter_of_all {path : List String} {matters : String → Bool} (h : w.Walks path o o')
    (hall : ∀ m, matters m = true → m ∈ o) : o'.filter matters = o.filter matters := by
  obtain ⟨new, rfl, hfresh⟩ := h.added
  refine filter_append_of_none fun m hm => ?_
  rw [← Bool.not_eq_true]
  exact fun hc => hfresh m hm (hall m hc)

section
variable {matters : String → Bool} {extra : String → Prop} (hx : Extends x w w')
  (closed : ∀ {a b}, extra a → w.Includes a b → extra b) (apart : ∀ m, extra m → matters m = false)
include hx closed apart

/-- The first walk catches up at a place where the second has been from the new package. -/
theorem Along.revisit {depth : Nat} {path : List String} {name : String} {o₁ : List String}
    (h : Along w w' matters extra o o') (hnew : name ∉ o) (hdone : name ∈ o')
    (hr : w.visit depth path name o = .ok o₁) : Along w w' matters extra o₁ o' := by
  have hwalk := (visit_walks h.ordered hr).1
  obtain ⟨new, rfl, hfresh⟩ := hwalk.added
  have hextra : ∀ m, w.Reaches name m → extra m := by
    intro m hreach
    induction hreach with
    | single hi => exact closed (h.added name hdone hnew) hi
    | tail _ hi ih => exact closed ih hi
  have hcaught : ∀ m ∈ new, extra m ∧ m ∈ o' := by
    intro m hm
    rcases visit_adds hr m (List.mem_append_right _ hm) with ho | rfl | hreach
    · exact (hfresh m hm ho).elim
    · exact ⟨h.added m hdone hnew, hdone⟩
    · exact ⟨hextra m hreach, h.ordered'.mem_of_reaches hdone (hx.reaches hreach)⟩
  constructor
  case ordered => exact hwalk.ordered
  case ordered' => exact h.ordered'
  case kept =>
    intro m hm
    rcases List.mem_append.1 hm with hm | hm
    · exact h.kept m hm
    · exact (hcaught m hm).2
  case added => exact fun m hm hn => h.added m hm fun ho => hn (List.mem_append_left _ ho)
  case same => rw [filter_append_of_none fun m hm => apart m (hcaught m hm).1, h.same]

theorem Along.visit {depth depth' : Nat} {path path' : List String} {name : String} {o₁ o₁' : List String}
    (hname : name ≠ x) (h : Along w w' matters extra o o') (hr : w.visit depth path name o = .ok o₁)
    (hr' : w'.visit depth' path' name o' = .ok o₁') : Along w w' matters extra o₁ o₁' := by
  induction depth generalizing depth' path path' name o o' o₁ o₁' with
  | zero => cases hr
  | succ depth ih =>
    cases depth' with
    | zero => cases hr'
    | succ depth' =>
      have hwalk := (visit_walks h.ordered hr).1
      have hwalk' := (visit_walks h.ordered' hr').1
      rcases visit_ok hr' with ⟨hdone', rfl⟩ | ⟨hnew', hgo'⟩
      · -- the second walk has been here before, perhaps on its way from the new package
        by_cases hdone : name ∈ o
        · rcases visit_ok hr with ⟨-, rfl⟩ | ⟨hnew, -⟩
          · exact h
          · exact (hnew hdone).elim
        · exact h.revisit hx closed apart hdone hdone' hr
      rcases visit_ok hr with ⟨hdone, -⟩ | ⟨-, hgo⟩
      · exact (hnew' (h.kept name hdone)).elim
      rw [hx.settings name hname] at hgo'
      rcases hgo with ⟨hs, rfl⟩ | ⟨s, f, hs, hf, rfl⟩
      · rcases hgo' with ⟨-, rfl⟩ | ⟨s, _, hs', -⟩
        · exact h
        · rw [hs] at hs'
          cases hs'
      rcases hgo' with ⟨hs', -⟩ | ⟨s', f', hs', hf', rfl⟩
      · rw [hs] at hs'
        cases hs'
      obtain rfl := Option.some.inj (hs.symm.trans hs')
      have hall : Along w w' matters extra f f' := by
        refine foldlM_along (P := Along w w' matters extra) ?_ h hf hf'
        intro m hm p p' p₁ p₁' hp hrun hrun'
        split at hrun
        · cases hrun
        split at hrun'
        · cases hrun'
        have hne : m ≠ x := fun he => hx.unincluded name ⟨s, hs, he ▸ hm⟩
        exact ih hne hp hrun hrun'
      constructor
      case ordered => exact hwalk.ordered
      case ordered' => exact hwalk'.ordered
      case kept =>
        intro m hm
        rw [List.mem_append] at hm ⊢
        exact hm.imp_left (hall.kept m)
      case added =>
        intro m hm hn
        rw [List.mem_append] at hm hn
        rw [not_or] at hn
        exact hall.added m (hm.resolve_right hn.2) hn.1
      case same => rw [List.filter_append, List.filter_append, hall.same]

theorem Along.visitAll {depth depth' : Nat} {l : List PackageSettings} {o₁ o₁' : List String}
    (hl : ∀ s ∈ l, s.name ≠ x) (h : Along w w' matters extra o o') (hr : w.visitAll depth l o = .ok o₁)
    (hr' : w'.visitAll depth' l o' = .ok o₁') : Along w w' matters extra o₁ o₁' :=
  foldlM_along (fun s hs _ _ _ _ h => h.visit hx closed apart (hl s hs)) h hr hr'

end

theorem Along.nil {matters : String → Bool} {extra : String → Prop} : Along w w' matters extra [] [] :=
  ⟨.nil, .nil, fun _ hm => hm, nofun, rfl⟩

theorem Along.detour {matters : String → Bool} {extra : String → Prop} {depth : Nat} {path o₁' : List String}
    (hextra : ∀ m, m = x ∨ w'.Reaches x m → extra m) (apart : ∀ m, extra m → matters m = false)
    (h : Along w w' matters extra o o') (hr : w'.visit depth path x o' = .ok o₁') :
    Along w w' matters extra o o₁' := by
  have hwalk := (visit_walks h.ordered' hr).1
  obtain ⟨new, rfl, hfresh⟩ := hwalk.added
  have hnew : ∀ m ∈ new, extra m := fun m hm =>
    hextra m ((visit_adds hr m (List.mem_append_right _ hm)).resolve_left (hfresh m hm))
  constructor
  case ordered => exact h.ordered
  case ordered' => exact hwalk.ordered
  case kept => exact fun m hm => List.mem_append_left _ (h.kept m hm)
  case added =>
    intro m hm ho
    rcases List.mem_append.1 hm with hm | hm
    · exact h.added m hm ho
    · exact hnew m hm
  case same => rw [filter_append_of_none fun m hm => apart m (hnew m hm), h.same]

/-! ## Two orders -/

theorem order_append {names : List String} {l more : List PackageSettings} (ho : w.order = .ok names)
    (hp : w.packages = l ++ more) : ∃ o, w.visitAll (w.packages.length + 1) l [] = .ok o ∧
      w.visitAll (w.packages.length + 1) more o = .ok names := by
  obtain ⟨_, -, hrun⟩ := Native.Document.bind_ok.1 ho
  rw [hp, List.foldlM_append] at hrun
  rw [hp]
  exact Native.Document.bind_ok.1 hrun

/-- Whether the second workspace has one more package, which is listed behind those of `before`. -/
structure Inserts (before : List PackageSettings) (x : PackageSettings) (w w' : Workspace) : Prop where
  packages : ∃ after, w.packages = before ++ after ∧ w'.packages = before ++ x :: after
  document : w'.document = w.document
  pointerWidth : w'.pointerWidth = w.pointerWidth

theorem checkNames_ok {seen : List String} {l : List PackageSettings} {u : Unit}
    (h : checkNames seen l = .ok u) : (l.map (·.name)).Nodup ∧ ∀ s ∈ l, s.name ∉ seen := by
  induction l generalizing seen with
  | nil => exact ⟨List.nodup_nil, nofun⟩
  | cons s l ih =>
    rw [checkNames] at h
    split at h
    · cases h
    rename_i hs
    obtain ⟨hnd, hfresh⟩ := ih h
    have hl : ∀ t ∈ l, t.name ≠ s.name ∧ t.name ∉ seen := by
      intro t ht
      simpa [not_or] using hfresh t ht
    constructor
    · rw [List.map_cons, List.nodup_cons]
      refine ⟨fun hm => ?_, hnd⟩
      obtain ⟨t, ht, he⟩ := List.mem_map.1 hm
      exact (hl t ht).1 he
    · intro t ht
      rcases List.mem_cons.1 ht with rfl | ht
      · simpa using hs
      · exact (hl t ht).2

section
variable {before : List PackageSettings} {x : PackageSettings} {names names' : List String}
  (h : Inserts before x w w') (ho : w.order = .ok names) (ho' : w'.order = .ok names')
include h ho'

theorem Inserts.fresh : ∀ s ∈ w.packages, s.name ≠ x.name := by
  obtain ⟨after, hp, hp'⟩ := h.packages
  obtain ⟨_, hcheck, -⟩ := Native.Document.bind_ok.1 ho'
  have hnd := (checkNames_ok hcheck).1
  rw [hp', List.map_append, List.map_cons, List.nodup_middle, List.nodup_cons, ← List.map_append] at hnd
  intro s hs he
  exact hnd.1 (he ▸ List.mem_map_of_mem (hp ▸ hs))

include ho

theorem Inserts.extends : Extends x.name w w' := by
  have hfresh := h.fresh ho'
  have hunknown : w.settings? x.name = none := List.find?_eq_none.2 fun s hs => by simpa using hfresh s hs
  obtain ⟨after, hp, hp'⟩ := h.packages
  refine ⟨fun name hname => ?_, hunknown, fun name hi => ?_⟩
  · have hne : (x.name == name) = false := by simpa using fun he : x.name = name => hname he.symm
    rw [Workspace.settings?, Workspace.settings?, hp, hp', List.find?_append, List.find?_append,
      List.find?_cons_of_neg (by simp [hne])]
  · obtain ⟨hordered, hall⟩ := order_ordered ho
    obtain ⟨s, hs⟩ := hi.known
    have hmem : name ∈ names := settings?_name hs ▸ hall s (List.mem_of_find?_eq_some hs)
    obtain ⟨t, ht⟩ := hordered.known x.name (hordered.mem_of_reaches hmem (.single hi))
    rw [hunknown] at ht
    cases ht

theorem Inserts.order_of_before {name : String} (hname : ∃ s ∈ before, s.name = name) :
    w.reachedIn names' name = w.reachedIn names name := by
  have hx := h.extends ho ho'
  have hfresh := h.fresh ho'
  obtain ⟨after, hp, hp'⟩ := h.packages
  obtain ⟨o, hbefore, hafter⟩ := order_append ho hp
  obtain ⟨o', hbefore', hafter'⟩ := order_append ho' hp'
  -- until the new package is met the two walks have been at the same places
  have halong : Along w w' (w.includesOf name).contains (fun _ => False) o o' :=
    Along.visitAll hx (fun hf _ => hf) (fun _ hf => hf.elim)
      (fun s hs => hfresh s (hp ▸ List.mem_append_left _ hs)) .nil hbefore hbefore'
  have hlisted : ∀ s ∈ before, s.name ∈ o :=
    (visitAll_walks (fun s hs => hp ▸ List.mem_append_left _ hs) .nil hbefore).2
  obtain ⟨s, hs, rfl⟩ := hname
  have hall : ∀ m, (w.includesOf s.name).contains m = true → m ∈ o := by
    intro m hm
    have hr := (mem_includesOf.1 (List.contains_iff_mem.1 hm)).1
    exact halong.ordered.mem_of_reaches (hlisted s hs) hr
  have hwalk := (visitAll_walks (fun s hs => hp ▸ List.mem_append_right _ hs) halong.ordered hafter).1
  have hwalk' := (visitAll_walks (fun s hs => hp' ▸ List.mem_append_right _ hs) halong.ordered' hafter').1
  rw [reachedIn, reachedIn, hwalk.filter_of_all hall, halong.same.symm,
    hwalk'.filter_of_all fun m hm => halong.kept m (hall m hm)]

theorem Inserts.order_of_apart {name : String} (hname : ∀ m, w.Reaches name m → ¬ w'.Reaches x.name m) :
    w.reachedIn names' name = w.reachedIn names name := by
  have hx := h.extends ho ho'
  have hfresh := h.fresh ho'
  obtain ⟨after, hp, hp'⟩ := h.packages
  obtain ⟨o, hbefore, hafter⟩ := order_append ho hp
  obtain ⟨o', hbefore', hrest'⟩ := order_append ho' hp'
  rw [visitAll, List.foldlM_cons] at hrest'
  obtain ⟨o₁', hnew, hafter'⟩ := Native.Document.bind_ok.1 hrest'
  let extra (m : String) : Prop := m = x.name ∨ w'.Reaches x.name m
  have closed {a b : String} (ha : extra a) (hi : w.Includes a b) : extra b := by
    obtain ⟨s, hs⟩ := hi.known
    have hi' := (hx.includes_iff (hx.ne_of_known hs)).2 hi
    rcases ha with rfl | ha
    · exact .inr (.single hi')
    · exact .inr (ha.tail hi')
  have apart (m : String) (hm : extra m) : (w.includesOf name).contains m = false := by
    rw [← Bool.not_eq_true, List.contains_iff_mem, mem_includesOf]
    rintro ⟨hr, -⟩
    rcases hm with rfl | hm
    · exact hx.not_reaches hr
    · exact hname m hr hm
  have halong := Along.visitAll hx closed apart (fun s hs => hfresh s (hp ▸ List.mem_append_left _ hs)) .nil
    hbefore hbefore'
  have hdetour := halong.detour (fun _ hm => hm) apart hnew
  have hend := hdetour.visitAll hx closed apart (fun s hs => hfresh s (hp ▸ List.mem_append_right _ hs))
    hafter hafter'
  exact hend.same

end

/-! ## Two preparations -/

section
variable {ps : List Package} {before after : List Package} {p : Package}

theorem prepare_names (h : w.prepare = .ok ps) : w.order = .ok (ps.map (·.name)) := by
  obtain ⟨names, ho, h⟩ := Native.Document.bind_ok.1 h
  obtain ⟨new, rfl, rfl, -⟩ := prepareInOrder_ok (order_ordered ho).1.known h
  exact ho

theorem exists_prepared (h : w.prepare = .ok ps) {s : PackageSettings} (hs : w.settings? a = some s) :
    ∃ q ∈ ps, q.name = a := by
  have hmem := (order_ordered (prepare_names h)).2 s (List.mem_of_find?_eq_some hs)
  exact List.mem_map.1 (settings?_name hs ▸ hmem)

/-- What a package is handed are all that it reaches, in the order of all packages. -/
theorem handed_all (h : w.prepare = .ok ps) (hp : ps = before ++ p :: after) :
    w.handed before p = w.handed ps p := by
  conv_rhs => rw [handed, hp]
  refine (filter_append_of_none fun q hq => ?_).symm
  rw [← Bool.not_eq_true, List.contains_iff_mem, mem_includesOf]
  rintro ⟨hr, -⟩
  obtain ⟨r, hr, hname⟩ := exists_before_of_reaches h hp hr
  have hnd := (prepare_ordered h).1.nodup
  rw [hp, List.map_append, List.nodup_append] at hnd
  exact hnd.2.2 r.name (List.mem_map_of_mem hr) q.name (List.mem_map_of_mem hq) hname

theorem names_handed : (w.handed ps p).map (·.name) = w.reachedIn (ps.map (·.name)) p.name := by
  rw [handed, reachedIn, List.filter_map]
  rfl

theorem Prepared.settings {earlier : List Package} (h : w.Prepared earlier p) :
    w.settings? p.name = some p.settings := by
  obtain ⟨s, p₀, hs, hp₀, hprepare⟩ := h
  obtain ⟨_, -, hp₀⟩ := Native.Document.bind_ok.1 hp₀
  cases hp₀
  obtain ⟨_, _, -, he⟩ := Package.prepare_ok.1 hprepare
  have hsettings : s = p.settings := congrArg Package.settings he
  rw [hs, hsettings]

variable (w) in
def importOf (name : String) : ImportedPackage :=
  { name, path := ((w.settings? name).map (·.path)).getD "" }

theorem imports_eq (h : w.prepare = .ok ps) (hp : p ∈ ps) :
    p.imports = (w.reachedIn (ps.map (·.name)) p.name).map w.importOf := by
  obtain ⟨before, after, he⟩ := List.append_of_mem hp
  obtain ⟨_, _, -, -, hprepare⟩ := (prepare_ordered h).2 before p after he
  rw [Package.prepare_imports hprepare, handed_all h he, ← names_handed, List.map_map]
  refine List.map_congr_left fun q hq => ?_
  obtain ⟨before, after, he⟩ := List.append_of_mem (List.mem_filter.1 hq).1
  have hs := ((prepare_ordered h).2 before q after he).settings
  simp only [Function.comp, importOf, hs, Option.map_some, Option.getD_some]

end

theorem eq_of_map_eq {α β : Type} {f : α → β} {l l' m : List α} (hl : l ⊆ m) (hl' : l' ⊆ m)
    (hm : (m.map f).Nodup) (h : l.map f = l'.map f) : l = l' := by
  induction l generalizing l' with
  | nil => exact (List.map_eq_nil_iff.1 h.symm).symm
  | cons a l ih =>
    obtain ⟨a', k, rfl, ha, hk⟩ := List.map_eq_cons_iff.1 h.symm
    obtain ⟨ham, hlm⟩ := List.cons_subset.1 hl
    obtain ⟨ham', hkm⟩ := List.cons_subset.1 hl'
    rw [List.inj_on_of_nodup_map hm ham' ham ha, ih hlm hkm hk.symm]

section
variable {ps ps' : List Package} {p p' : Package} (hx : Extends x w w') (h : w.prepare = .ok ps)
  (h' : w'.prepare = .ok ps')
include hx h h'

theorem Extends.imports_eq (hp : p ∈ ps) (hp' : p' ∈ ps') (hname : p'.name = p.name) :
    p'.imports = (w.reachedIn (ps'.map (·.name)) p.name).map w.importOf := by
  obtain ⟨before, after, he⟩ := List.append_of_mem hp
  have hne := hx.ne_of_known ((prepare_ordered h).2 before p after he).settings
  rw [Workspace.imports_eq h' hp', hname, hx.reachedIn_eq hne]
  refine List.map_congr_left fun m hm => ?_
  have hreached := (mem_reachedIn.1 hm).2.1
  rw [importOf, importOf, hx.settings m fun he => hx.not_reaches (he ▸ hreached)]

theorem Extends.imports_perm (hp : p ∈ ps) (hp' : p' ∈ ps') (hname : p'.name = p.name) :
    p'.imports.Perm p.imports := by
  have hordered := (prepare_ordered h).1
  have hordered' := (prepare_ordered h').1
  rw [hx.imports_eq h h' hp hp' hname, Workspace.imports_eq h hp]
  refine ((List.perm_ext_iff_of_nodup (hordered'.nodup.filter _) (hordered.nodup.filter _)).2 fun m => ?_).map _
  show m ∈ w.reachedIn _ _ ↔ m ∈ w.reachedIn _ _
  rw [mem_reachedIn, mem_reachedIn]
  refine and_congr_left fun hm => ⟨fun _ => ?_, fun _ => ?_⟩
  · exact hordered.mem_of_reaches (List.mem_map_of_mem hp) hm.1
  · exact hordered'.mem_of_reaches (List.mem_map_of_mem hp') (hname ▸ hx.reaches hm.1)

theorem Extends.imports_eq_iff (hp : p ∈ ps) (hp' : p' ∈ ps') (hname : p'.name = p.name) :
    p'.imports = p.imports ↔
      w.reachedIn (ps'.map (·.name)) p.name = w.reachedIn (ps.map (·.name)) p.name := by
  rw [hx.imports_eq h h' hp hp' hname, Workspace.imports_eq h hp]
  refine (List.map_injective_iff.2 fun m m' hm => ?_).eq_iff
  exact congrArg ImportedPackage.name hm

variable (hdocument : w'.document = w.document) (hwidth : w'.pointerWidth = w.pointerWidth)
include hdocument hwidth

theorem Extends.prepared_next {before after : List Package} {q : Package} (he : ps = before ++ q :: after)
    (hbefore : ∀ r ∈ before, w.Reaches q.name r.name → r ∈ ps')
    (hsame : w.reachedIn (ps'.map (·.name)) q.name = w.reachedIn (ps.map (·.name)) q.name) : q ∈ ps' := by
  obtain ⟨s, q₀, hs, hq₀, hprepare⟩ := (prepare_ordered h).2 before q after he
  have hne := hx.ne_of_known hs
  rw [← hx.settings q.name hne] at hs
  obtain ⟨q', hq', hname⟩ := exists_prepared h' hs
  obtain ⟨before', after', he'⟩ := List.append_of_mem hq'
  obtain ⟨s', q₀', hs', hq₀', hprepare'⟩ := (prepare_ordered h').2 before' q' after' he'
  rw [hname, hs] at hs'
  obtain rfl := Option.some.inj hs'
  rw [hdocument, hwidth, hq₀] at hq₀'
  obtain rfl := Except.ok.inj hq₀'
  -- both are handed the same packages, so that the two preparations are one
  have hnames : (w'.handed ps' q').map (·.name) = (w.handed ps q).map (·.name) := by
    rw [names_handed, names_handed, hname, hx.reachedIn_eq hne, hsame]
  have hhanded : w'.handed ps' q' = w.handed ps q := by
    refine eq_of_map_eq (fun r hr => (List.mem_filter.1 hr).1) (fun r hr => ?_) (prepare_ordered h').1.nodup
      hnames
    rw [← handed_all h he] at hr
    exact hbefore r (List.mem_filter.1 hr).1 ((mem_handed h he).1 hr).2
  rw [handed_all h' he', hhanded, ← handed_all h he, hprepare] at hprepare'
  cases hprepare'
  exact hq'

theorem Extends.prepared_same (hp : p ∈ ps)
    (hsame : w.reachedIn (ps'.map (·.name)) p.name = w.reachedIn (ps.map (·.name)) p.name) : p ∈ ps' := by
  -- on how far the first preparation has come, for the package and all that it reaches
  have all : ∀ before, before <+: ps → ∀ q ∈ before, q.name = p.name ∨ w.Reaches p.name q.name → q ∈ ps' := by
    intro before
    induction before using List.reverseRec with
    | nil => exact fun _ _ hq => by cases hq
    | append_singleton before last ih =>
      rintro ⟨after, he⟩ q hq hneeded
      rw [List.append_assoc, List.singleton_append] at he
      have hbefore := ih ⟨last :: after, he⟩
      rcases List.mem_append.1 hq with hq | hq
      · exact hbefore q hq hneeded
      obtain rfl := List.mem_singleton.1 hq
      have hreaches {m : String} (hr : w.Reaches q.name m) : w.Reaches p.name m := by
        rcases hneeded with heq | hq
        · exact heq ▸ hr
        · exact hq.trans hr
      have narrow (l : List String) : w.reachedIn l q.name = w.reachedIn (w.reachedIn l p.name) q.name := by
        rw [reachedIn, reachedIn, reachedIn, List.filter_filter]
        refine List.filter_congr fun m _ => ?_
        rw [Bool.eq_iff_iff, Bool.and_eq_true, List.contains_iff_mem, List.contains_iff_mem, mem_includesOf,
          mem_includesOf]
        refine ⟨fun hm => ⟨hm, hreaches hm.1, fun hmp => ?_⟩, And.left⟩
        exact (prepare_ordered h).1.irreflexive (List.mem_map_of_mem hp) (hmp ▸ hreaches hm.1)
      have hprepared : ∀ r ∈ before, w.Reaches q.name r.name → r ∈ ps' := fun r hr hqr =>
        hbefore r hr (.inr (hreaches hqr))
      refine hx.prepared_next h h' hdocument hwidth he.symm hprepared ?_
      rw [narrow, hsame, ← narrow]
  exact all ps (List.prefix_refl _) p hp (.inl rfl)

end

/-- A package may depend on one that it does not include only through the order of its own includes. It
does not if it is listed before that package, or if that package reaches nothing that it reaches. -/
theorem output_independent {before : List PackageSettings} {x : PackageSettings} (h : Inserts before x w w')
    {ps ps' : List Package} (hps : w.prepare = .ok ps) (hps' : w'.prepare = .ok ps') :
    ∀ p ∈ ps, ∃ p' ∈ ps', p'.name = p.name ∧ p'.imports.Perm p.imports ∧
      (p'.imports = p.imports →
        ∀ header, (Emission.ofPackage p').goSource header = (Emission.ofPackage p).goSource header) ∧
      ((∃ s ∈ before, s.name = p.name) ∨ (∀ m, w.Reaches p.name m → ¬ w'.Reaches x.name m) →
        p'.imports = p.imports) := by
  have ho := prepare_names hps
  have ho' := prepare_names hps'
  have hx := h.extends ho ho'
  intro p hp
  obtain ⟨earlier, later, he⟩ := List.append_of_mem hp
  have hs := ((prepare_ordered hps).2 earlier p later he).settings
  rw [← hx.settings p.name (hx.ne_of_known hs)] at hs
  obtain ⟨p', hp', hname⟩ := exists_prepared hps' hs
  refine ⟨p', hp', hname, hx.imports_perm hps hps' hp hp' hname, fun himports header => ?_, fun hcase => ?_⟩
  · have hsame := (hx.imports_eq_iff hps hps' hp hp' hname).1 himports
    have hmem := hx.prepared_same hps hps' h.document h.pointerWidth hp hsame
    rw [List.inj_on_of_nodup_map (prepare_ordered hps').1.nodup hp' hmem hname]
  · refine (hx.imports_eq_iff hps hps' hp hp' hname).2 ?_
    rcases hcase with hbefore | hapart
    · exact h.order_of_before ho ho' hbefore
    · exact h.order_of_apart ho ho' hapart

/-- A workspace for a struct of each of two headers and a function that takes both. -/
def gallery (packages : List PackageSettings) : Workspace where
  pointerWidth := 8
  packages
  document := {
    files := [⟨"c", "colors.h"⟩, ⟨"f", "fonts.h"⟩, ⟨"w", "widgets.h"⟩, ⟨"t", "themes.h"⟩]
    types := Dict.ofList [
      ("v", .fundamental "void" 0),
      ("i", .fundamental "int" 4),
      ("color", .struct { name := "color", file := "c", size := 4, fields := [⟨"rgb", "i"⟩] }),
      ("font", .struct { name := "font", file := "f", size := 4, fields := [⟨"pt", "i"⟩] })]
    functions := [
      { id := "f1", name := "black", file := "c", returns := "color", variadic := false, callback := none
        arguments := [] },
      { id := "f2", name := "serif", file := "f", returns := "font", variadic := false, callback := none
        arguments := [] },
      { id := "f3", name := "label", file := "w", returns := "v", variadic := false, callback := none
        arguments := [⟨"c", "color", .unset⟩, ⟨"f", "font", .unset⟩] }] }

def widgets : List PackageSettings := [
  { name := "colors", path := "ui/colors", headers := ["colors.h"] },
  { name := "fonts", path := "ui/fonts", headers := ["fonts.h"] },
  { name := "widgets", path := "ui/widgets", headers := ["widgets.h"], includes := ["colors", "fonts"] }]

def themes : PackageSettings :=
  { name := "themes", path := "ui/themes", headers := ["themes.h"], includes := ["fonts", "colors"] }

/-- A package that includes the same two packages as another one does not change it from behind. -/
theorem themes_behind_widgets : ∃ ps ps', (gallery widgets).prepare = .ok ps ∧
    (gallery (widgets ++ [themes])).prepare = .ok ps' ∧ ∃ p ∈ ps, p.name = "widgets" ∧ p.imports.length = 2 ∧
      ∃ p' ∈ ps', p'.name = "widgets" ∧
        ∀ header, (Emission.ofPackage p').goSource header = (Emission.ofPackage p).goSource header := by
  obtain ⟨ps, hps, hok⟩ := Native.Document.ok_of_any (x := (gallery widgets).prepare)
    (f := fun ps => decide (∃ p ∈ ps, p.name = "widgets" ∧ p.imports.length = 2)) (by decide +kernel)
  obtain ⟨ps', hps', -⟩ := Native.Document.ok_of_any (x := (gallery (widgets ++ [themes])).prepare)
    (f := fun _ => true) (by decide +kernel)
  obtain ⟨p, hp, hname, himports⟩ := of_decide_eq_true hok
  have hinserts : Inserts widgets themes (gallery widgets) (gallery (widgets ++ [themes])) :=
    ⟨⟨[], rfl, rfl⟩, rfl, rfl⟩
  obtain ⟨p', hp', hname', -, hsource, hcase⟩ := output_independent hinserts hps hps' p hp
  have hlisted : ∃ s ∈ widgets, s.name = p.name := by
    rw [hname]
    decide
  exact ⟨ps, ps', hps, hps', p, hp, hname, himports, p', hp', hname'.trans hname,
    hsource (hcase (.inl hlisted))⟩

/-- From before, it changes the order of the imports. -/
theorem themes_before_widgets : Inserts [] themes (gallery widgets) (gallery (themes :: widgets)) ∧
    ∃ ps ps', (gallery widgets).prepare = .ok ps ∧ (gallery (themes :: widgets)).prepare = .ok ps' ∧
      ∃ p ∈ ps, ∃ p' ∈ ps', p'.name = p.name ∧ ¬ (gallery (themes :: widgets)).Reaches p.name themes.name ∧
        (Emission.ofPackage p').goSource none ≠ (Emission.ofPackage p).goSource none := by
  refine ⟨⟨⟨widgets, rfl, rfl⟩, rfl, rfl⟩, ?_⟩
  obtain ⟨⟨ps, ps'⟩, hboth, hok⟩ := Native.Document.ok_of_any
    (x := do pure (← (gallery widgets).prepare, ← (gallery (themes :: widgets)).prepare))
    (f := fun (ps, ps') => decide (∃ p ∈ ps, ∃ p' ∈ ps', p.name = "widgets" ∧ p'.name = "widgets" ∧
      (Emission.ofPackage p').goSource none ≠ (Emission.ofPackage p).goSource none)) (by decide +kernel)
  obtain ⟨_, hps, hboth⟩ := Native.Document.bind_ok.1 hboth
  obtain ⟨_, hps', hboth⟩ := Native.Document.bind_ok.1 hboth
  cases hboth
  obtain ⟨p, hp, p', hp', hname, hname', hdiffer⟩ := of_decide_eq_true hok
  refine ⟨ps, ps', hps, hps', p, hp, p', hp', hname'.trans hname.symm, fun hr => ?_, hdiffer⟩
  have hincluded := mem_includesOf.2 ⟨hname ▸ hr, by decide⟩
  revert hincluded
  decide

end Workspace

end Bindery
