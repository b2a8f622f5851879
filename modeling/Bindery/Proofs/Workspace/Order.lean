import Bindery.Proofs.Native.Loading
import Bindery.Proofs.Package.Names
import Bindery.Workspace
import Mathlib.Logic.Relation

/-!
# The order of packages

A package is prepared after all that it includes, directly or through others, and it is
handed just these. The walk along the includes puts a package into the order when all that it
includes is there already; the search for what a package includes finds a name once, so that
the steps it is allowed suffice to find them all.
-/

namespace Bindery

namespace Workspace

variable (w : Workspace)

def Includes (a b : String) : Prop := ∃ s, w.settings? a = some s ∧ b ∈ s.includes

def Reaches : String → String → Prop := Relation.TransGen w.Includes

/-! ## The walk -/

structure Ordered (order : List String) : Prop where
  nodup : order.Nodup
  known : ∀ name ∈ order, ∃ s, w.settings? name = some s
  included : ∀ {before name after}, order = before ++ name :: after → ∀ m, w.Includes name m → m ∈ before

/-- What a walk may do to an order: it goes on behind it, without a package of the path. -/
structure Walks (path order order' : List String) : Prop where
  ordered : w.Ordered order'
  grows : order <+: order'
  avoids : ∀ name ∈ path, name ∉ order → name ∉ order'

variable {w} {path order order' order'' : List String}

theorem Ordered.nil : w.Ordered [] := ⟨List.nodup_nil, nofun, fun h => by simp at h⟩

theorem Ordered.concat (h : w.Ordered order) {name : String} {s : PackageSettings}
    (hs : w.settings? name = some s) (hn : name ∉ order) (hall : ∀ m ∈ s.includes, m ∈ order) :
    w.Ordered (order ++ [name]) := by
  constructor
  case nodup =>
    rw [List.nodup_append]
    refine ⟨h.nodup, List.nodup_singleton _, fun a ha b hb he => hn ?_⟩
    rwa [← List.mem_singleton.1 hb, ← he]
  case known =>
    intro m hm
    rcases List.mem_append.1 hm with hm | hm
    · exact h.known m hm
    · exact ⟨s, List.mem_singleton.1 hm ▸ hs⟩
  case included =>
    intro before m after he x hx
    -- the name in question is the last one, or stands where it stood before
    rcases List.eq_nil_or_concat' after with rfl | ⟨after, last, rfl⟩
    · obtain ⟨hbefore, hname⟩ := List.append_inj' he rfl
      obtain ⟨s', hs', hx⟩ := hx
      obtain rfl := (List.cons.inj hname).1
      obtain rfl := Option.some.inj (hs.symm.trans hs')
      exact hbefore ▸ hall x hx
    · rw [← List.cons_append, ← List.append_assoc] at he
      exact h.included (List.append_inj' he rfl).1 x hx

theorem Ordered.reaches (h : w.Ordered order) {before after : List String} {a b : String}
    (he : order = before ++ a :: after) (hr : w.Reaches a b) : b ∈ before := by
  induction hr with
  | single hi => exact h.included he _ hi
  | tail _ hi ih =>
    obtain ⟨start, rest, rfl⟩ := List.append_of_mem ih
    have := h.included (by rw [he, List.append_assoc, List.cons_append]) _ hi
    exact List.mem_append_left _ this

theorem Ordered.mem_of_reaches (h : w.Ordered order) {a b : String} (ha : a ∈ order) (hr : w.Reaches a b) :
    b ∈ order := by
  obtain ⟨before, after, he⟩ := List.append_of_mem ha
  exact he ▸ List.mem_append_left _ (h.reaches he hr)

theorem Ordered.irreflexive (h : w.Ordered order) {name : String} (hn : name ∈ order) :
    ¬ w.Reaches name name := by
  intro hr
  obtain ⟨before, after, he⟩ := List.append_of_mem hn
  have hnd := he ▸ h.nodup
  rw [List.nodup_append] at hnd
  exact hnd.2.2 name (h.reaches he hr) name List.mem_cons_self rfl

theorem Walks.refl (h : w.Ordered order) : w.Walks path order order := ⟨h, List.prefix_refl _, fun _ _ hn => hn⟩

theorem Walks.trans (h : w.Walks path order order') (h' : w.Walks path order' order'') :
    w.Walks path order order'' :=
  ⟨h'.ordered, h.grows.trans h'.grows, fun n hn ho => h'.avoids n hn (h.avoids n hn ho)⟩

theorem Walks.mem (h : w.Walks path order order') {name : String} (hn : name ∈ order) : name ∈ order' :=
  h.grows.subset hn

theorem Walks.added (h : w.Walks path order order') : ∃ new, order' = order ++ new ∧ ∀ m ∈ new, m ∉ order := by
  obtain ⟨new, rfl⟩ := h.grows
  exact ⟨new, rfl, fun m hm ho => (List.nodup_append.1 h.ordered.nodup).2.2 m ho m hm rfl⟩

/-- After a walk to all that a package includes, on a path with this package, it comes last. -/
theorem Walks.concat {name : String} {s : PackageSettings} (h : w.Walks (name :: path) order order')
    (hs : w.settings? name = some s) (hnew : name ∉ order) (hpath : name ∉ path)
    (hall : ∀ m ∈ s.includes, m ∈ order') : w.Walks path order (order' ++ [name]) where
  ordered := h.ordered.concat hs (h.avoids name List.mem_cons_self hnew) hall
  grows := h.grows.trans (List.prefix_append _ _)
  avoids m hm ho := by
    rw [List.mem_append, List.mem_singleton]
    rintro (hmem | rfl)
    · exact h.avoids m (List.mem_cons_of_mem _ hm) ho hmem
    · exact hpath hm

theorem Walks.foldlM {α : Type} {f : List String → α → Except BindingError (List String)}
    (key : α → String) {l : List α}
    (hf : ∀ a ∈ l, ∀ {o o'}, w.Ordered o → f o a = .ok o' → w.Walks path o o' ∧ key a ∈ o')
    (h : w.Ordered order) (hrun : l.foldlM f order = .ok order') :
    w.Walks path order order' ∧ ∀ a ∈ l, key a ∈ order' := by
  induction l generalizing order with
  | nil =>
    cases hrun
    exact ⟨.refl h, nofun⟩
  | cons a l ih =>
    rw [List.foldlM_cons] at hrun
    obtain ⟨o, ha, hrun⟩ := Native.Document.bind_ok.1 hrun
    obtain ⟨hw, hmem⟩ := hf a List.mem_cons_self h ha
    obtain ⟨hw', hall⟩ := ih (fun b hb => hf b (List.mem_cons_of_mem _ hb)) hw.ordered hrun
    refine ⟨hw.trans hw', fun b hb => ?_⟩
    rcases List.mem_cons.1 hb with rfl | hb
    · exact hw'.mem hmem
    · exact hall b hb

theorem visit_walks {depth : Nat} {name : String} (h : w.Ordered order)
    (hrun : w.visit depth path name order = .ok order') :
    w.Walks path order order' ∧ ((w.settings? name).isSome → name ∈ order') := by
  -- on the depth, along any path: the walks to what a package includes have it on their path
  induction depth generalizing path name order order' with
  | zero => cases hrun
  | succ depth ih =>
    rw [visit] at hrun
    split at hrun
    · rename_i hc
      cases hrun
      exact ⟨.refl h, fun _ => by simpa using hc⟩
    split at hrun
    · cases hrun
    rename_i hnew hpath
    split at hrun
    · rename_i hnone
      cases hrun
      refine ⟨.refl h, fun hs => ?_⟩
      rw [hnone] at hs
      cases hs
    · rename_i s hs
      obtain ⟨o, hfold, hrun⟩ := Native.Document.bind_ok.1 hrun
      cases hrun
      have visited : ∀ m ∈ s.includes, ∀ {o o'}, w.Ordered o →
          (if (w.settings? m).isNone then throw (.unknownInclude name m)
            else w.visit depth (name :: path) m o) = .ok o' → w.Walks (name :: path) o o' ∧ id m ∈ o' := by
        intro m _ o o' ho hm
        split at hm
        · cases hm
        · rename_i hknown
          obtain ⟨hw, hmem⟩ := ih ho hm
          exact ⟨hw, hmem (by simpa [Option.isSome_iff_ne_none] using hknown)⟩
      obtain ⟨hw, hall⟩ := Walks.foldlM id visited h hfold
      exact ⟨hw.concat hs (by simpa using hnew) (by simpa using hpath) hall, fun _ => by simp⟩

variable (w) in
def visitAll (depth : Nat) (l : List PackageSettings) (order : List String) : Except BindingError (List String) :=
  l.foldlM (fun order s => w.visit depth [] s.name order) order

theorem visitAll_walks {depth : Nat} {l : List PackageSettings} (hl : ∀ s ∈ l, s ∈ w.packages)
    (h : w.Ordered order) (hrun : w.visitAll depth l order = .ok order') :
    w.Walks [] order order' ∧ ∀ s ∈ l, s.name ∈ order' := by
  refine Walks.foldlM (·.name) (fun s hs o o' ho hv => ?_) h hrun
  obtain ⟨hw, hmem⟩ := visit_walks ho hv
  exact ⟨hw, hmem (List.find?_isSome.2 ⟨s, hl s hs, by simp⟩)⟩

theorem order_ordered {names : List String} (h : w.order = .ok names) :
    w.Ordered names ∧ ∀ s ∈ w.packages, s.name ∈ names := by
  obtain ⟨_, -, h⟩ := Native.Document.bind_ok.1 h
  obtain ⟨hw, hall⟩ := visitAll_walks (fun _ hs => hs) .nil h
  exact ⟨hw.ordered, hall⟩

/-! ## The search -/

theorem nodup_eraseDups : ∀ l : List String, l.eraseDups.Nodup
  | [] => List.nodup_nil
  | a :: l => by
    rw [List.eraseDups_cons, List.nodup_cons]
    exact ⟨by simp, nodup_eraseDups _⟩
termination_by l => l.length
decreasing_by exact Nat.lt_succ_of_le (List.length_filter_le _ _)

variable (w) in
/-- What is true while the includes of a package are searched: `pending` are the names that are
still to be looked at, and `seen` those that have been found. -/
structure Searching (name : String) (pending seen : List String) : Prop where
  nodup : seen.Nodup
  sound : ∀ m ∈ seen, w.Reaches name m
  found : ∀ m ∈ pending, m = name ∨ m ∈ seen
  closed : ∀ {a b}, a = name ∨ a ∈ seen → a ∉ pending → w.Includes a b → b ∈ seen

variable {name : String} {pending seen : List String}

variable (w) in
def newIncludes (name : String) (seen : List String) : List String :=
  ((((w.settings? name).map (·.includes)).getD []).filter (!seen.contains ·)).eraseDups

theorem mem_newIncludes {m : String} : m ∈ w.newIncludes name seen ↔ w.Includes name m ∧ m ∉ seen := by
  unfold newIncludes Includes
  cases w.settings? name <;> simp

theorem Searching.start : w.Searching name [name] [] where
  nodup := List.nodup_nil
  sound := nofun
  found _ h := .inl (List.mem_singleton.1 h)
  closed h hn := absurd (List.mem_singleton.2 (h.resolve_right List.not_mem_nil)) hn

theorem Searching.step {a : String} (h : w.Searching name (a :: pending) seen) :
    w.Searching name (w.newIncludes a seen ++ pending) (w.newIncludes a seen ++ seen) := by
  have ha := h.found a List.mem_cons_self
  constructor
  case nodup =>
    rw [List.nodup_append]
    refine ⟨nodup_eraseDups _, h.nodup, ?_⟩
    rintro x hx _ hm rfl
    exact (mem_newIncludes.1 hx).2 hm
  case sound =>
    intro m hm
    rcases List.mem_append.1 hm with hm | hm
    · have hi := (mem_newIncludes.1 hm).1
      rcases ha with rfl | ha
      · exact .single hi
      · exact (h.sound a ha).tail hi
    · exact h.sound m hm
  case found =>
    intro m hm
    rcases List.mem_append.1 hm with hm | hm
    · exact .inr (List.mem_append_left _ hm)
    · exact (h.found m (List.mem_cons_of_mem _ hm)).imp_right (List.mem_append_right _)
  case closed =>
    intro x b hx hn hi
    rw [List.mem_append, not_or] at hn
    have hx : x = name ∨ x ∈ seen :=
      hx.imp_right fun hm => (List.mem_append.1 hm).resolve_left hn.1
    -- either the includes of this name have just been added, or they were there before
    by_cases hxa : x = a
    · subst hxa
      by_cases hb : b ∈ seen
      · exact List.mem_append_right _ hb
      · exact List.mem_append_left _ (mem_newIncludes.2 ⟨hi, hb⟩)
    · exact List.mem_append_right _ (h.closed hx (List.not_mem_cons_of_ne_of_not_mem hxa hn.2) hi)

variable (w) in
def allIncludes : List String := w.packages.flatMap fun s => s.includes

theorem Includes.mem {a b : String} (h : w.Includes a b) : b ∈ w.allIncludes := by
  obtain ⟨s, hs, hb⟩ := h
  exact List.mem_flatMap.2 ⟨s, List.mem_of_find?_eq_some hs, hb⟩

/-- What is found is included by some package, so that a search ends. -/
theorem Searching.length_le (h : w.Searching name pending seen) : seen.length ≤ w.allIncludes.length := by
  refine h.nodup.length_le_of_subset fun m hm => ?_
  cases h.sound m hm with
  | single hi => exact hi.mem
  | tail _ hi => exact hi.mem

/-- A search for which there are enough steps finds all there is. -/
theorem Searching.finish {steps : Nat} (h : w.Searching name pending seen)
    (hsteps : pending.length + w.allIncludes.length ≤ steps + seen.length) :
    w.Searching name [] (w.reach steps pending seen) := by
  induction steps generalizing pending seen with
  | zero =>
    have := h.length_le
    obtain rfl := List.length_eq_zero_iff.1 (by omega : pending.length = 0)
    exact h
  | succ steps ih =>
    cases pending with
    | nil => exact h
    | cons a pending =>
      refine ih h.step ?_
      simp only [List.length_cons, List.length_append] at hsteps ⊢
      omega

theorem Searching.mem_iff (h : w.Searching name [] seen) {m : String} : m ∈ seen ↔ w.Reaches name m := by
  refine ⟨h.sound m, fun hr => ?_⟩
  induction hr with
  | single hi => exact h.closed (.inl rfl) List.not_mem_nil hi
  | tail _ hi ih => exact h.closed (.inr ih) List.not_mem_nil hi

/-- A package is handed what it reaches along the includes, except itself. -/
theorem mem_includesOf {m : String} : m ∈ w.includesOf name ↔ w.Reaches name m ∧ m ≠ name := by
  have h : w.Searching name [] (w.reach (w.allIncludes.length + 1) [name] []) :=
    Searching.start.finish (by simp; omega)
  show m ∈ (w.reach (w.allIncludes.length + 1) [name] []).filter (· != name) ↔ _
  rw [List.mem_filter, bne_iff_ne, h.mem_iff]

end Workspace

end Bindery
