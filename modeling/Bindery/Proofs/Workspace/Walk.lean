import Bindery.Proofs.Workspace.Independence

/-!
# Orders that exist

The walk along the includes comes to an end however deep it is allowed to go, because no package
stands twice on the path to another. It fails only where an include is unknown or leads back to
the package that it started from, so there is an order exactly when no include does.
-/

namespace Bindery

namespace Workspace

variable (w : Workspace)

/-! ## The walk without a limit -/

/-- A walk to all of `names`, which the last package of `path` includes if there is one. -/
inductive Traverses : (path names order : List String) → Except BindingError (List String) → Prop
  | done {path order} : Traverses path [] order (.ok order)
  | unknown {name path m names order} (hs : w.settings? m = none) :
    Traverses (name :: path) (m :: names) order (.error (.unknownInclude name m))
  | passed {path m s names order out} (hs : w.settings? m = some s) (hm : m ∈ order)
    (rest : Traverses path names order out) : Traverses path (m :: names) order out
  | cycle {path m s names order} (hs : w.settings? m = some s) (hnew : m ∉ order) (hpath : m ∈ path) :
    Traverses path (m :: names) order (.error (.includeCycle m))
  | failed {path m s names order e} (hs : w.settings? m = some s) (hnew : m ∉ order) (hpath : m ∉ path)
    (within : Traverses (m :: path) s.includes order (.error e)) :
    Traverses path (m :: names) order (.error e)
  | placed {path m s names order inner out} (hs : w.settings? m = some s) (hnew : m ∉ order)
    (hpath : m ∉ path) (within : Traverses (m :: path) s.includes order (.ok inner))
    (rest : Traverses path names (inner ++ [m]) out) : Traverses path (m :: names) order out

variable {w} {path names order : List String} {out out' : Except BindingError (List String)}

theorem Traverses.unique (h : w.Traverses path names order out) (h' : w.Traverses path names order out') :
    out = out' := by
  induction h generalizing out' with
  | done =>
    cases h'
    rfl
  | unknown hs =>
    cases h' with
    | unknown => rfl
    | passed hs' | cycle hs' | failed hs' | placed hs' => simp [hs] at hs'
  | passed hs hm rest ih =>
    cases h' with
    | unknown hs' => simp [hs] at hs'
    | passed _ _ rest' => exact ih rest'
    | cycle _ hnew | failed _ hnew | placed _ hnew => exact absurd hm hnew
  | cycle hs hnew hpath =>
    cases h' with
    | unknown hs' => simp [hs] at hs'
    | passed _ hm => exact absurd hm hnew
    | cycle => rfl
    | failed _ _ hpath' | placed _ _ hpath' => exact absurd hpath hpath'
  | failed hs hnew hpath within ih =>
    cases h' with
    | unknown hs' => simp [hs] at hs'
    | passed _ hm => exact absurd hm hnew
    | cycle _ _ hpath' => exact absurd hpath' hpath
    | failed hs' _ _ within' =>
      obtain rfl := Option.some.inj (hs.symm.trans hs')
      exact ih within'
    | placed hs' _ _ within' =>
      obtain rfl := Option.some.inj (hs.symm.trans hs')
      cases ih within'
  | placed hs hnew hpath within rest ihw ih =>
    cases h' with
    | unknown hs' => simp [hs] at hs'
    | passed _ hm => exact absurd hm hnew
    | cycle _ _ hpath' => exact absurd hpath' hpath
    | failed hs' _ _ within' =>
      obtain rfl := Option.some.inj (hs.symm.trans hs')
      cases ihw within'
    | placed hs' _ _ within' rest' =>
      obtain rfl := Option.some.inj (hs.symm.trans hs')
      cases ihw within'
      exact ih rest'

/-! ## The limit is never met -/

variable (w) in
/-- A way from package to package: no two of them are the same, and all are known. -/
structure Path (path : List String) : Prop where
  nodup : path.Nodup
  known : ∀ name ∈ path, ∃ s, w.settings? name = some s

theorem Path.nil : w.Path [] := ⟨List.nodup_nil, nofun⟩

theorem Path.cons (h : w.Path path) {name : String} {s : PackageSettings} (hs : w.settings? name = some s)
    (hn : name ∉ path) : w.Path (name :: path) := by
  constructor
  · exact List.nodup_cons.2 ⟨hn, h.nodup⟩
  · intro m hm
    rcases List.mem_cons.1 hm with rfl | hm
    · exact ⟨s, hs⟩
    · exact h.known m hm

theorem Path.length_le (h : w.Path path) : path.length ≤ w.packages.length := by
  have hsub : path ⊆ w.packages.map (·.name) := by
    intro name hn
    obtain ⟨s, hs⟩ := h.known name hn
    exact List.mem_map.2 ⟨s, List.mem_of_find?_eq_some hs, settings?_name hs⟩
  simpa using h.nodup.length_le_of_subset hsub

theorem traverses_foldlM {depth : Nat} {name : String} (ms : List String)
    (hvisit : ∀ {m s names order rest}, w.settings? m = some s →
      (∀ o, w.Traverses (name :: path) names o (rest o)) →
      w.Traverses (name :: path) (m :: names) order (w.visit depth (name :: path) m order >>= rest))
    (order : List String) :
    w.Traverses (name :: path) ms order (ms.foldlM (fun order m =>
      if (w.settings? m).isNone then throw (.unknownInclude name m)
      else w.visit depth (name :: path) m order) order) := by
  induction ms generalizing order with
  | nil => exact .done
  | cons m ms ih =>
    rw [List.foldlM_cons]
    cases hs : w.settings? m with
    | none => exact .unknown hs
    | some s => exact hvisit hs ih

/-- A visit that may go as deep as there are packages is a step of the walk without a limit. -/
theorem Path.traverses_visit {depth : Nat} (hp : w.Path path)
    (hdepth : w.packages.length < depth + path.length) {m : String} {s : PackageSettings}
    (hs : w.settings? m = some s) {rest : List String → Except BindingError (List String)}
    (hrest : ∀ o, w.Traverses path names o (rest o)) :
    w.Traverses path (m :: names) order (w.visit depth path m order >>= rest) := by
  -- each step down takes one from the depth and adds one to the path
  induction depth generalizing path m s names order rest with
  | zero =>
    have := hp.length_le
    omega
  | succ depth ih =>
    unfold visit
    by_cases hm : m ∈ order
    · rw [if_pos (by simpa using hm)]
      exact .passed hs hm (hrest order)
    rw [if_neg (by simpa using hm)]
    by_cases hpath : m ∈ path
    · rw [if_pos (by simpa using hpath)]
      exact .cycle hs hm hpath
    rw [if_neg (by simpa using hpath), hs]
    have hdown : w.packages.length < depth + (m :: path).length := by
      simp only [List.length_cons]
      omega
    have within := traverses_foldlM s.includes (fun hs' hrest' => ih (hp.cons hs hpath) hdown hs' hrest') order
    dsimp only
    generalize (s.includes.foldlM _ order : Except BindingError (List String)) = inner at within ⊢
    cases inner with
    | error e => exact .failed hs hm hpath within
    | ok inner => exact .placed hs hm hpath within (hrest (inner ++ [m]))

theorem traverses_visitAll {l : List PackageSettings} (hl : ∀ s ∈ l, s ∈ w.packages) (order : List String) :
    w.Traverses [] (l.map (·.name)) order (w.visitAll (w.packages.length + 1) l order) := by
  induction l generalizing order with
  | nil => exact .done
  | cons s l ih =>
    unfold visitAll
    rw [List.foldlM_cons]
    have hknown : (w.settings? s.name).isSome :=
      List.find?_isSome.2 ⟨s, hl s List.mem_cons_self, by simp⟩
    obtain ⟨t, ht⟩ := Option.isSome_iff_exists.1 hknown
    exact Path.nil.traverses_visit (by simp) ht fun o => ih (fun u hu => hl u (List.mem_cons_of_mem _ hu)) o

/-! ## Faults -/

variable (w) in
inductive Fault : BindingError → Prop
  | cycle {name} (h : w.Reaches name name) : Fault (.includeCycle name)
  | unknown {name m} (h : w.Includes name m) (hs : w.settings? m = none) : Fault (.unknownInclude name m)

/-- Where all of a path leads to what comes next, a walk fails only for a fault of the includes. -/
theorem Traverses.fault (h : w.Traverses path names order out)
    (hlast : ∀ name ∈ path.head?, ∀ m ∈ names, w.Includes name m)
    (hpath : ∀ name ∈ path, ∀ m ∈ names, w.Reaches name m) {e : BindingError} (he : out = .error e) :
    w.Fault e := by
  -- what a package on the path leads to leads on to all that it includes
  have within {path m s names} (hs : w.settings? m = some s)
      (hpath : ∀ name ∈ path, ∀ m' ∈ m :: names, w.Reaches name m') :
      (∀ name ∈ (m :: path).head?, ∀ m' ∈ s.includes, w.Includes name m') ∧
        ∀ name ∈ m :: path, ∀ m' ∈ s.includes, w.Reaches name m' := by
    constructor
    · intro name hname m' hm'
      obtain rfl := Option.some.inj hname
      exact ⟨s, hs, hm'⟩
    · intro name hname m' hm'
      have hi : w.Includes m m' := ⟨s, hs, hm'⟩
      rcases List.mem_cons.1 hname with rfl | hname
      · exact .single hi
      · exact (hpath name hname m List.mem_cons_self).tail hi
  induction h with
  | done => cases he
  | unknown hs =>
    cases he
    exact .unknown (hlast _ rfl _ List.mem_cons_self) hs
  | cycle _ _ hmem =>
    cases he
    exact .cycle (hpath _ hmem _ List.mem_cons_self)
  | passed _ _ _ ih =>
    exact ih (fun a ha b hb => hlast a ha b (List.mem_cons_of_mem _ hb))
      (fun a ha b hb => hpath a ha b (List.mem_cons_of_mem _ hb)) he
  | failed hs _ _ _ ih =>
    obtain ⟨hlast', hpath'⟩ := within hs hpath
    exact ih hlast' hpath' he
  | placed _ _ _ _ _ _ ih =>
    exact ih (fun a ha b hb => hlast a ha b (List.mem_cons_of_mem _ hb))
      (fun a ha b hb => hpath a ha b (List.mem_cons_of_mem _ hb)) he

/-! ## The order -/

theorem checkNames_of_nodup {seen : List String} {l : List PackageSettings} (hnd : (l.map (·.name)).Nodup)
    (hseen : ∀ s ∈ l, s.name ∉ seen) : checkNames seen l = .ok () := by
  induction l generalizing seen with
  | nil => rfl
  | cons s l ih =>
    obtain ⟨hs, hnd⟩ := List.nodup_cons.1 hnd
    have hnew : s.name ∉ seen := hseen s List.mem_cons_self
    unfold checkNames
    rw [if_neg (by simpa using hnew)]
    apply ih hnd
    intro t ht hmem
    rcases List.mem_cons.1 hmem with he | hmem
    · exact hs (List.mem_map.2 ⟨t, ht, he⟩)
    · exact hseen t (List.mem_cons_of_mem _ ht) hmem

theorem checkNames_error {seen : List String} {l : List PackageSettings} {e : BindingError}
    (h : checkNames seen l = .error e) : ∃ name, e = .duplicatePackage name := by
  induction l generalizing seen with
  | nil => cases h
  | cons s l ih =>
    unfold checkNames at h
    split at h
    · cases h
      exact ⟨s.name, rfl⟩
    · exact ih h

theorem order_of_nodup (hnd : (w.packages.map (·.name)).Nodup) :
    w.order = w.visitAll (w.packages.length + 1) w.packages [] := by
  unfold order
  rw [checkNames_of_nodup hnd fun _ _ => List.not_mem_nil]
  rfl

theorem fault_of_order {e : BindingError} (h : w.order = .error e) :
    (∃ name, e = .duplicatePackage name ∧ ¬ (w.packages.map (·.name)).Nodup) ∨ w.Fault e := by
  by_cases hnd : (w.packages.map (·.name)).Nodup
  · rw [order_of_nodup hnd] at h
    exact .inr ((traverses_visitAll (fun _ hs => hs) []).fault nofun nofun h)
  · left
    unfold order at h
    cases hc : checkNames [] w.packages with
    | ok u => exact absurd (checkNames_ok hc).1 hnd
    | error e' =>
      rw [hc] at h
      cases h
      obtain ⟨name, hname⟩ := checkNames_error hc
      exact ⟨name, hname, hnd⟩

theorem settings?_isSome_iff {name : String} :
    (∃ s, w.settings? name = some s) ↔ ∃ s ∈ w.packages, s.name = name := by
  unfold settings?
  rw [← Option.isSome_iff_exists, List.find?_isSome]
  simp

theorem order_perm (h : w.order = .ok names) : names.Perm (w.packages.map (·.name)) := by
  obtain ⟨_, hcheck, -⟩ := Native.Document.bind_ok.1 h
  obtain ⟨hordered, hall⟩ := order_ordered h
  rw [List.perm_ext_iff_of_nodup hordered.nodup (checkNames_ok hcheck).1]
  intro name
  constructor
  · intro hn
    obtain ⟨s, hs, hname⟩ := settings?_isSome_iff.1 (hordered.known name hn)
    exact List.mem_map.2 ⟨s, hs, hname⟩
  · intro hn
    obtain ⟨s, hs, rfl⟩ := List.mem_map.1 hn
    exact hall s hs

theorem settings?_of_mem (hnd : (w.packages.map (·.name)).Nodup) {s : PackageSettings} (hs : s ∈ w.packages) :
    w.settings? s.name = some s := by
  obtain ⟨t, ht⟩ := settings?_isSome_iff.2 ⟨s, hs, rfl⟩
  have := List.inj_on_of_nodup_map hnd (List.mem_of_find?_eq_some ht) hs (settings?_name ht)
  rw [ht, this]

variable (w) in
/-- There is an order of the packages exactly when their names differ and all includes are known and
lead nowhere back. The walk that makes it ends without a limit, and says which include is at fault. -/
theorem order_exact :
    ((∃ names, w.order = .ok names) ↔ (w.packages.map (·.name)).Nodup ∧
      (∀ s ∈ w.packages, ∀ m ∈ s.includes, ∃ t ∈ w.packages, t.name = m) ∧
      ∀ name, ¬ w.Reaches name name) ∧
    ((w.packages.map (·.name)).Nodup →
      ∀ out, w.Traverses [] (w.packages.map (·.name)) [] out ↔ w.order = out) ∧
    (∀ names, w.order = .ok names → names.Perm (w.packages.map (·.name)) ∧
      ∀ before name after, names = before ++ name :: after → ∀ m, w.Includes name m → m ∈ before) ∧
    (∀ name, w.order = .error (.includeCycle name) → w.Reaches name name) ∧
    ∀ name m, w.order = .error (.unknownInclude name m) →
      (∃ s ∈ w.packages, s.name = name ∧ m ∈ s.includes) ∧ ∀ t ∈ w.packages, t.name ≠ m := by
  refine ⟨⟨?_, ?_⟩, ?_, ?_, ?_, ?_⟩
  · intro h
    obtain ⟨names, h⟩ := h
    obtain ⟨_, hcheck, -⟩ := Native.Document.bind_ok.1 h
    have hnd := (checkNames_ok hcheck).1
    obtain ⟨hordered, hall⟩ := order_ordered h
    refine ⟨hnd, fun s hs m hm => ?_, fun name hr => ?_⟩
    · have hi : w.Includes s.name m := ⟨s, settings?_of_mem hnd hs, hm⟩
      exact settings?_isSome_iff.1 (hordered.known m (hordered.mem_of_reaches (hall s hs) (.single hi)))
    · obtain ⟨_, hi, -⟩ := Relation.TransGen.head'_iff.1 hr
      obtain ⟨s, hs⟩ := hi.known
      have hmem : name ∈ names := settings?_name hs ▸ hall s (List.mem_of_find?_eq_some hs)
      exact hordered.irreflexive hmem hr
  · intro h
    obtain ⟨hnd, hknown, hacyclic⟩ := h
    cases ho : w.order with
    | ok names => exact ⟨names, rfl⟩
    | error e =>
      rcases fault_of_order ho with ⟨_, -, hdup⟩ | hfault
      · exact absurd hnd hdup
      · cases hfault with
        | cycle hr => exact absurd hr (hacyclic _)
        | unknown hi hnone =>
          obtain ⟨s, hs, hm⟩ := hi
          obtain ⟨t, ht⟩ := settings?_isSome_iff.2 (hknown s (List.mem_of_find?_eq_some hs) _ hm)
          rw [hnone] at ht
          cases ht
  · intro hnd out
    have hwalk := order_of_nodup hnd ▸ traverses_visitAll (w := w) (fun _ hs => hs) []
    exact ⟨fun h => hwalk.unique h, fun h => h ▸ hwalk⟩
  · intro names h
    exact ⟨order_perm h, fun _ _ _ he m hm => (order_ordered h).1.included he m hm⟩
  · intro name h
    rcases fault_of_order h with ⟨_, he, -⟩ | hfault
    · cases he
    · cases hfault with
      | cycle hr => exact hr
  · intro name m h
    rcases fault_of_order h with ⟨_, he, -⟩ | hfault
    · cases he
    · cases hfault with
      | unknown hi hnone =>
        obtain ⟨s, hs, hm⟩ := hi
        refine ⟨⟨s, List.mem_of_find?_eq_some hs, settings?_name hs, hm⟩, fun t ht he => ?_⟩
        obtain ⟨u, hu⟩ := settings?_isSome_iff.2 ⟨t, ht, he⟩
        rw [hnone] at hu
        cases hu

end Workspace

end Bindery
