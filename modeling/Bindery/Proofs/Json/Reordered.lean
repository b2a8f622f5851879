import Bindery.Dict
import Bindery.Json.Record
import Bindery.Proofs.Json.Printing
import Bindery.Proofs.Lists

/-!
# The order of members

In which order the members of an object stand means nothing: a record whose members are read by
name is read alike however they have been arranged. So what is written can be read back even if
something on the way has sorted the members.
-/

namespace Bindery.Json

inductive Reordered : Json → Json → Prop
  | refl (v : Json) : Reordered v v
  | list {items items' : List Json} (h : List.Forall₂ Reordered items items') :
    Reordered (.list items) (.list items')
  | object {members members₁ members' : List (String × Json)} (hp : members.Perm members₁)
    (hnames : members₁.map (·.1) = members'.map (·.1))
    (hvalues : List.Forall₂ Reordered (members₁.map (·.2)) (members'.map (·.2))) :
    Reordered (.object members) (.object members')

variable {v w : Json}

/-! ## What a reordered value is -/

theorem forall₂_of_map {α : Type} {R : Json → Json → Prop} {l l' : List (α × Json)}
    (hnames : l.map (·.1) = l'.map (·.1)) (hvalues : List.Forall₂ R (l.map (·.2)) (l'.map (·.2))) :
    List.Forall₂ (fun m m' => m.1 = m'.1 ∧ R m.2 m'.2) l l' := by
  induction l generalizing l' with
  | nil =>
    cases l' with
    | nil => exact .nil
    | cons => cases hnames
  | cons m l ih =>
    cases l' with
    | nil => cases hnames
    | cons m' l' =>
      obtain ⟨hname, hnames⟩ := List.cons.inj hnames
      cases hvalues with
      | cons hvalue hvalues => exact .cons ⟨hname, hvalue⟩ (ih hnames hvalues)

theorem Reordered.list_cases {items : List Json} (h : v.Reordered (.list items)) :
    ∃ items', v = .list items' ∧ List.Forall₂ Reordered items' items := by
  cases h with
  | refl => exact ⟨items, rfl, List.forall₂_same.2 fun w _ => .refl w⟩
  | list h => exact ⟨_, rfl, h⟩

theorem Reordered.object_cases {members : List (String × Json)} (h : v.Reordered (.object members)) :
    ∃ ms ms', v = .object ms ∧ ms.Perm ms' ∧
      List.Forall₂ (fun m m' => m.1 = m'.1 ∧ m.2.Reordered m'.2) ms' members := by
  cases h with
  | refl => exact ⟨members, members, rfl, .refl _, List.forall₂_same.2 fun m _ => ⟨rfl, .refl _⟩⟩
  | object hp hnames hvalues => exact ⟨_, _, rfl, hp, forall₂_of_map hnames hvalues⟩

theorem names_eq {l l' : List (String × Json)}
    (h : List.Forall₂ (fun m m' => m.1 = m'.1 ∧ m.2.Reordered m'.2) l l') : l.map (·.1) = l'.map (·.1) := by
  induction h with
  | nil => rfl
  | cons hm _ ih => rw [List.map_cons, List.map_cons, hm.1, ih]

theorem values_reordered {l l' : List (String × Json)}
    (h : List.Forall₂ (fun m m' => m.1 = m'.1 ∧ m.2.Reordered m'.2) l l') :
    List.Forall₂ Reordered (l.map (·.2)) (l'.map (·.2)) := by
  rw [List.forall₂_map_left_iff, List.forall₂_map_right_iff]
  exact h.imp fun _ _ hm => hm.2

theorem exists_of_mem {l l' : List (String × Json)} {m : String × Json}
    (h : List.Forall₂ (fun m m' => m.1 = m'.1 ∧ m.2.Reordered m'.2) l l') (hm : m ∈ l') :
    ∃ value, (m.1, value) ∈ l ∧ value.Reordered m.2 := by
  induction h with
  | nil => cases hm
  | @cons a b _ _ hab _ ih =>
    rcases List.mem_cons.1 hm with rfl | hm
    · exact ⟨a.2, hab.1 ▸ List.mem_cons_self, hab.2⟩
    · obtain ⟨value, hv, hr⟩ := ih hm
      exact ⟨value, List.mem_cons_of_mem _ hv, hr⟩

/-! ## Reading what has been reordered -/

/-- Whether a reader finds `a` in a value, whatever the order of its members. -/
def Reads {α : Type} (read : Json → Option α) (w : Json) (a : α) : Prop :=
  ∀ v : Json, v.Reordered w → read v = some a

section
variable {α β : Type} {read : Json → Option α} {a : α}

theorem reads_text (s : String) : Reads text? (.text s) s := by
  intro v h
  cases h
  rfl

theorem reads_bool (b : Bool) : Reads bool? (.bool b) b := by
  intro v h
  cases h
  rfl

theorem reads_size {n : Nat} (hn : n < 0x10000000000000000) : Reads size? (.whole n) n := by
  intro v h
  cases h
  have hrange : 0 ≤ (n : Int) ∧ (n : Int) < 0x10000000000000000 := by omega
  simp [size?, hrange]

theorem reads_integer {i : Int} (hlow : -0x8000000000000000 ≤ i) (hhigh : i < 0x8000000000000000) :
    Reads integer? (.whole i) i := by
  intro v h
  cases h
  simp [integer?, hlow, hhigh]

theorem reads_null : Reads (nullable? read) .null none := by
  intro v h
  cases h
  rfl

theorem reads_some (hw : w ≠ .null) (h : Reads read w a) : Reads (nullable? read) w (some a) := by
  intro v hv
  have hread := h v hv
  unfold nullable?
  split
  · cases hv
    exact absurd rfl hw
  · rw [hread, Option.map_some]

theorem reads_choice {read : String → Option α} {s : String} (orEmpty : Bool) (h : read s = some a) :
    Reads (choice? orEmpty read) (.text s) a := by
  intro v hv
  cases hv
  exact h

theorem reads_list {write : β → Json} {read : Json → Option β} {l : List β}
    (h : ∀ b ∈ l, Reads read (write b) b) : Reads (list? read) (.list (l.map write)) l := by
  intro v hv
  obtain ⟨items, rfl, hitems⟩ := hv.list_cases
  show items.mapM read = some l
  clear hv
  induction l generalizing items with
  | nil =>
    cases hitems
    rfl
  | cons b l ih =>
    cases hitems with
    | cons hitem hitems =>
      rw [List.mapM_cons, h b List.mem_cons_self _ hitem,
        ih (fun c hc => h c (List.mem_cons_of_mem _ hc)) _ hitems]
      rfl

/-! ## Records -/

def Record.Has (r : Record) (members : List (String × Json)) : Prop :=
  ∀ m ∈ members, ∃ value, r.lookup m.1 = some value ∧ value.Reordered m.2

theorem Reordered.record? {members : List (String × Json)} (h : v.Reordered (.object members))
    (names : List String) (hnames : names.Nodup) (hsub : members.map (·.1) = names) :
    ∃ r, v.record? names = some r ∧ r.Has members := by
  obtain ⟨ms, ms', rfl, hp, hms⟩ := h.object_cases
  have hperm : (ms.map (·.1)).Perm names := (hp.map _).trans (by rw [names_eq hms, hsub])
  have hnd : (ms.map (·.1)).Nodup := hperm.nodup_iff.2 hnames
  have hknown : (ms.filter fun m => names.contains m.1) = ms := by
    rw [List.filter_eq_self]
    intro m hm
    simpa using hperm.subset (List.mem_map_of_mem hm)
  refine ⟨ms, ?_, fun m hm => ?_⟩
  · show (if ((ms.filter fun m => names.contains m.1).map (·.1)).Nodup then
      some (ms.filter fun m => names.contains m.1) else none) = some ms
    rw [hknown, if_pos hnd]
  · obtain ⟨value, hv, hr⟩ := exists_of_mem hms hm
    exact ⟨value, Dict.lookup_of_mem hnd (hp.symm.subset hv), hr⟩

theorem Record.Has.required? {r : Record} {members : List (String × Json)} (h : r.Has members) (name : String)
    (hm : (name, w) ∈ members) (hread : Reads read w a) : r.required? name read = some a := by
  obtain ⟨value, hl, hr⟩ := h _ hm
  unfold Record.required?
  rw [hl, Option.bind_some, hread value hr]

theorem Record.Has.optional? {r : Record} {members : List (String × Json)} (h : r.Has members) (name : String)
    (default : α) (hm : (name, w) ∈ members) (hread : Reads read w a) :
    r.optional? name default read = some a := by
  obtain ⟨value, hl, hr⟩ := h _ hm
  unfold Record.optional?
  rw [hl]
  exact hread value hr

/-- The tag that a record is written with is found, and the other members are left. -/
theorem Reordered.tagged? {tag kind : String} {members : List (String × Json)}
    (h : v.Reordered (.object ((tag, .text kind) :: members))) (hnew : tag ∉ members.map (·.1)) :
    ∃ rest, v.tagged? tag = some (kind, rest) ∧ rest.Reordered (.object members) := by
  obtain ⟨ms, ms', rfl, hp, hms⟩ := h.object_cases
  cases hms with
  | @cons m _ rest _ hm hrest =>
    obtain ⟨name, value⟩ := m
    obtain ⟨hname, hvalue⟩ : name = tag ∧ value.Reordered (.text kind) := hm
    subst hname
    cases hvalue
    have hother : ∀ m ∈ rest, m.1 ≠ name := by
      intro m hm he
      exact hnew (names_eq hrest ▸ List.mem_map.2 ⟨m, hm, he⟩)
    have htag : (ms.filter (·.1 == name)).Perm [(name, .text kind)] := by
      have hnone : rest.filter (·.1 == name) = [] := by
        simpa [List.filter_eq_nil_iff] using hother
      have hfilter := hp.filter (·.1 == name)
      rwa [List.filter_cons_of_pos (by simp), hnone] at hfilter
    have hleft : (ms.filter (·.1 != name)).Perm rest := by
      have hall : rest.filter (·.1 != name) = rest := by
        simpa [List.filter_eq_self] using hother
      have hfilter := hp.filter (·.1 != name)
      rwa [List.filter_cons_of_neg (by simp), hall] at hfilter
    refine ⟨.object (ms.filter (·.1 != name)), ?_, .object hleft (names_eq hrest) (values_reordered hrest)⟩
    simp only [Json.tagged?, List.perm_singleton.1 htag]

end

/-! ## Plain values -/

variable {depth : Nat}

theorem Plain.reordered (h : Plain depth w) {v : Json} (hv : v.Reordered w) : Plain depth v := by
  induction h generalizing v with
  | null =>
    cases hv
    exact .null
  | bool b =>
    cases hv
    exact .bool b
  | whole h =>
    cases hv
    exact .whole h
  | text s =>
    cases hv
    exact .text s
  | list _ ih =>
    obtain ⟨items, rfl, hitems⟩ := hv.list_cases
    refine .list fun item hitem => ?_
    obtain ⟨other, hother, hr⟩ := exists_partner hitems hitem
    exact ih other hother hr
  | object _ ih =>
    obtain ⟨ms, ms', rfl, hp, hms⟩ := hv.object_cases
    refine .object fun m hm => ?_
    obtain ⟨other, hother, -, hr⟩ := exists_partner hms (hp.subset hm)
    exact ih other hother hr

theorem allSound_iff {items : List Json} :
    allSound depth items = true ↔ ∀ item ∈ items, item.isSound depth = true := by
  induction items with
  | nil => simp [allSound]
  | cons item items ih => simp [allSound, ih]

theorem allMembersSound_iff {members : List (String × Json)} :
    allMembersSound depth members = true ↔ ∀ m ∈ members, m.2.isSound depth = true := by
  induction members with
  | nil => simp [allMembersSound]
  | cons m members ih => simp [allMembersSound, ih]

theorem Plain.isSound (h : Plain depth v) : v.isSound depth = true := by
  induction h with
  | null | bool | text => rfl
  | whole h => simp [Json.isSound, h]
  | list _ ih => simpa [Json.isSound, allSound_iff] using ih
  | object _ ih => simpa [Json.isSound, allMembersSound_iff] using ih

end Bindery.Json
