import Bindery.Emission
import Bindery.Lowering.Wrappers
import Bindery.Proofs.Native.Loading
import Bindery.Proofs.Package.Receivers

/-!
# Conservation of functions and variables

What a package exports is what its files declare: every function and every variable that it
wants once, with nothing added, and each method on the type that its receiver spells.
-/

namespace Bindery

open Native (Identity TypeNode)

/-! ## Declared names -/

def Native.TypeNode.declaredNames : TypeNode → List String
  | .enumeration e => e.name :: e.values.map (·.name)
  | .struct s => [s.name]
  | .union s => [s.name]
  | .typedef t => [t.name]
  | _ => []

/-- An identifier, or the name of a type that has none. -/
def IsNative (name : String) : Prop := name = "" ∨ isIdentifier name = true

instance : DecidablePred IsNative := fun name =>
  inferInstanceAs (Decidable (name = "" ∨ isIdentifier name = true))

structure Native.Document.HasIdentifiers (d : Native.Document) : Prop where
  types : ∀ e ∈ d.types.entries, ∀ name ∈ e.2.declaredNames, IsNative name
  functions : ∀ f ∈ d.functions, IsNative f.name
  globals : ∀ v ∈ d.globals, IsNative v.name

theorem IsNative.char {name : String} (h : IsNative name) {x : Char} (hx : x ∈ name.toList) :
    isIdentifierChar x = true := by
  rcases h with rfl | h
  · cases hx
  · unfold isIdentifier at h
    cases hl : name.toList with
    | nil => rw [hl] at hx; cases hx
    | cons c cs =>
      rw [hl] at h hx
      simp only [Bool.and_eq_true, List.all_eq_true] at h
      rcases List.mem_cons.1 hx with rfl | hx
      · exact h.1.1
      · exact h.2 x hx

def Emission.wrappers (e : Emission) : List Wrapper := e.functions ++ e.types.flatMap (·.methods)

namespace Package

variable {p p' : Package} {included : List Package}

theorem notMem_underscored {native : String} (hn : IsNative native) (k : Nat) {x : Char}
    (hx : isIdentifierChar x = false) (hl : letterCode x.toNat = false) :
    x ∉ (Scope.underscored (p.candidate native) k).toList := by
  rw [Scope.toList_underscored, List.mem_append]
  rintro (h | h)
  · rcases mem_upperName_filter h with ⟨h, -⟩ | h
    · rw [hn.char h] at hx
      cases hx
    · rw [h] at hl
      cases hl
  · obtain rfl := (List.mem_replicate.1 h).2
    revert hx
    decide

theorem Scoped.unqualified {s : Scope} (h : p.Scoped IsNative s) {id : Identity} {name : String}
    (hn : s.nameOf? id = some name) : Declaration.isQualified name = false := by
  obtain ⟨native, k, hnat, -, rfl⟩ := h.made hn
  unfold Declaration.isQualified
  simpa using notMem_underscored (p := p) hnat k (x := '.') (by decide) (by decide)

/-! ## Native names -/

theorem natives_of_tidy (hid : p.document.HasIdentifiers) {r : Registry} (ht : p.context.Tidy r)
    (x : Identity) (d : Declaration) (hd : r.get? x = some d) :
    IsNative d.native ∧ ∀ v ∈ d.ownConstants, IsNative v.native := by
  obtain ⟨M, hM, -⟩ := ht.consistent x d hd
  rw [← Declaration.ownConstants_bare]
  show IsNative d.bare.native ∧ _
  generalize d.bare = e at hM
  have names {node : TypeNode} (hn : p.document.types.get? x = some node) :
      ∀ name ∈ node.declaredNames, IsNative name :=
    hid.types (x, node) ((p.document.types.get?_eq_some_iff x node).1 hn)
  cases hM with
  | enumeration h hb =>
    refine ⟨names h.1 _ List.mem_cons_self, fun v hv => ?_⟩
    obtain ⟨w, hw, rfl⟩ := List.mem_map.1 hv
    exact names h.1 _ (List.mem_cons_of_mem _ (List.mem_map_of_mem hw))
  | struct h => exact ⟨names h.1 _ List.mem_cons_self, nofun⟩
  | union h => exact ⟨names h.1 _ List.mem_cons_self, nofun⟩
  | typedef h => exact ⟨names h.1 _ List.mem_cons_self, nofun⟩

theorem prepare_wellNamed_native (hid : p.document.HasIdentifiers) (h : p.prepare included = .ok p') :
    p'.WellNamed IsNative := by
  obtain ⟨lowered, r, hl, rfl⟩ := prepare_ok.1 h
  obtain ⟨hws, hgs, -⟩ := lowerShare_origins hl
  refine assignNames_wellNamed (tidy_of_lowerShare hl) (natives_of_tidy hid (tidy_of_lowerShare hl))
    (fun w hw => ?_) fun v hv => ?_
  · have hm := List.mem_map_of_mem (f := Wrapper.origin) hw
    rw [hws] at hm
    obtain ⟨f, hf, ho⟩ := List.mem_map.1 hm
    exact (congrArg (·.2.1) ho : f.name = w.native) ▸ hid.functions f (List.mem_filter.1 hf).1
  · have hm := List.mem_map_of_mem (f := GlobalVariable.origin) hv
    rw [hgs] at hm
    obtain ⟨u, hu, ho⟩ := List.mem_map.1 hm
    exact (congrArg (·.2.1) ho : u.name = v.native) ▸ hid.globals u (List.mem_filter.1 hu).1

/-! ## Variables -/

theorem nameVariables_kept {vs : List GlobalVariable} {s : Scope} (hs : p.Scoped (fun _ => True) s) :
    (p.nameVariables vs s).1.map (fun v => { v with managed := "" }) =
        vs.map (fun v => { v with managed := "" }) ∧
      ∀ v ∈ (p.nameVariables vs s).1, p.candidate v.native ≠ "" → v.managed ≠ "" := by
  have := p.nameVariables_induct vs (P := fun named gs s => p.Scoped (fun _ => True) s ∧
    gs.map (fun v => { v with managed := "" }) = named.map (fun v => { v with managed := "" }) ∧
    ∀ v ∈ gs, p.candidate v.native ≠ "" → v.managed ≠ "") ?_ ⟨hs, rfl, nofun⟩
  · exact this.2
  · intro named v _ gs s _ h
    obtain ⟨hs, hmap, hne⟩ := h
    refine ⟨hs.resolve trivial v.id, by simp [hmap], fun u hu => ?_⟩
    rcases List.mem_append.1 hu with hu | hu
    · exact hne u hu
    · obtain rfl := List.mem_singleton.1 hu
      exact fun hc => hs.resolve_ne_empty hc v.id

theorem prepare_globals (h : p.prepare included = .ok p') :
    p'.globals.map (·.origin) = p.wantedVariables.map (·.origin) ∧
      ∀ v ∈ p'.globals, v.type.isSingle = true ∧ (p.candidate v.native ≠ "" → v.managed ≠ "") := by
  obtain ⟨lowered, r, hl, rfl⟩ := prepare_ok.1 h
  obtain ⟨-, hgs, hsingle⟩ := lowerShare_origins hl
  obtain ⟨hs, hn⟩ := @typesNamed_named p (fun _ => True) included r (tidy_of_lowerShare hl)
    fun _ _ _ => ⟨trivial, fun _ _ => trivial⟩
  obtain ⟨hs', -⟩ := AllNamed.bindFunctions (fun _ _ => trivial) hs hn
  obtain ⟨hmap, hne⟩ := nameVariables_kept hs'
  refine ⟨?_, fun v hv => ⟨?_, hne v hv⟩⟩
  · rw [← hgs]
    have := congrArg (List.map GlobalVariable.origin) hmap
    rw [List.map_map, List.map_map] at this
    exact this
  · have hm := List.mem_map_of_mem (f := fun v : GlobalVariable => { v with managed := "" }) hv
    rw [show (p.assignNames included lowered r).globals.map _ = _ from hmap] at hm
    obtain ⟨u, hu, he⟩ := List.mem_map.1 hm
    exact (congrArg (·.type) he : u.type = v.type) ▸ hsingle u hu

/-- A variable whose name is no comment is initialised by a single statement. -/
theorem initializer?_isSome {v : GlobalVariable} (r : Registry) (hs : v.type.isSingle = true)
    (hne : v.managed ≠ "") (hslash : '/' ∉ v.managed.toList) : (v.initializer? r).isSome = true := by
  obtain ⟨c, cs, hl⟩ := List.exists_cons_of_ne_nil (mt String.toList_eq_nil_iff.1 hne)
  have hc : '/' ≠ c := fun he => hslash (hl ▸ he ▸ List.mem_cons_self)
  unfold GlobalVariable.initializer?
  rw [Descriptor.toManaged_of_isSingle hs]
  have hstart : ∀ rest, hasStart "//" (v.managed ++ rest) = false := by
    intro rest
    rw [hasStart, String.toList_append, hl]
    show (dropStart? ['/', '/'] (c :: (cs ++ rest.toList))).isSome = false
    rw [dropStart?, if_neg hc]
    rfl
  simp only [Binding.assign, String.append_assoc, hstart]
  rfl

/-! ## What is emitted -/

theorem sortByText_perm {α : Type} (key : α → String) (l : List α) : (sortByText key l).Perm l :=
  List.mergeSort_perm l _

/-- A declaration with an unqualified name is one that the package exports and declares. -/
theorem WellNamed.emitted_of_named {N : String → Prop} (h : p.WellNamed N) {x : Identity} {d : Declaration}
    (hx : p.types.get? x = some d) (hne : d.managed ≠ "") (hq : Declaration.isQualified d.managed = false) :
    d.isEmitted = true ∧ p.exports d.native d.file = true := by
  rcases (h.types x d hx).name with hn | hn | ⟨-, he, hn⟩
  · exact absurd hn hne
  · rw [hq] at hn
    cases hn
  · simp only [isNameable, Bool.and_eq_true] at hn
    exact ⟨by simp [Declaration.isEmitted, hn.1.1, hn.1.2, hne, hq], he⟩

theorem excludes_of_exports {native : String} {file : Identity} (h : p.exports native file = true) :
    p.excludes native = false := by
  simp only [Package.exports, Bool.and_eq_true, Bool.not_eq_true'] at h
  exact h.1.1.2

theorem WellNamed.emitted {N : String → Prop} (h : p.WellNamed N) {x : Identity} {d : Declaration}
    (hx : p.types.get? x = some d) {m : Wrapper} (hm : p.types.Receives d m) :
    d.isEmitted = true ∧ p.excludes d.native = false :=
  (h.emitted_of_named hx hm.named hm.unqualified).imp_right excludes_of_exports

theorem WellNamed.methods_perm {N : String → Prop} (h : p.WellNamed N)
    (hm : ∀ x d, p.types.get? x = some d → ∀ m ∈ d.methods, p.types.Receives d m) :
    ((Emission.ofPackage p).types.flatMap (·.methods)).Perm p.types.methods := by
  have hperm := sortByText_perm (fun d : Declaration => sortKey d.managed d.native)
    (p.types.values.filter fun d => d.isEmitted && !p.excludes d.native)
  refine (hperm.flatMap_right _).trans ?_
  have hfilter : ∀ l : List Declaration, (∀ d ∈ l, d ∈ p.types.values) →
      (l.filter fun d => d.isEmitted && !p.excludes d.native).flatMap (·.methods) =
        l.flatMap (·.methods) := by
    intro l hl
    induction l with
    | nil => rfl
    | cons d l ih =>
      rw [List.filter_cons]
      split
      · rw [List.flatMap_cons, List.flatMap_cons, ih fun e he => hl e (List.mem_cons_of_mem _ he)]
      · rename_i hd
        have hnone : d.methods = [] := by
          rw [List.eq_nil_iff_forall_not_mem]
          intro m hmem
          obtain ⟨e, he, rfl⟩ := List.mem_map.1 (hl d List.mem_cons_self)
          have hget := (p.types.get?_eq_some_iff _ _).2 he
          obtain ⟨hem, hex⟩ := h.emitted hget (hm _ _ hget m hmem)
          exact hd (by simp [hem, hex])
        rw [List.flatMap_cons, hnone, List.nil_append, ih fun e he => hl e (List.mem_cons_of_mem _ he)]
  rw [hfilter _ fun d hd => hd]
  exact .refl _

theorem keeps_of_bound (h : p'.Scoped IsNative p'.scope) {id : Identity} {managed native : String}
    {file : Identity} (hb : managed = "" ∨ p'.scope.nameOf? id = some managed) (hne : managed ≠ "")
    (he : p'.exports native file = true) : Emission.keeps p' managed native = true := by
  have hq := h.unqualified (hb.resolve_left hne)
  simp only [Package.exports, Bool.and_eq_true, Bool.not_eq_true'] at he
  simp [Emission.keeps, hne, hq, he.1.1.2]

theorem filter_id_eq_singleton {l : List Wrapper} (hnd : (l.map (·.id)).Nodup) {w : Wrapper}
    (hw : w ∈ l) : (l.filter fun v => v.id == w.id) = [w] := by
  induction l with
  | nil => cases hw
  | cons v l ih =>
    obtain ⟨hv, hl⟩ := List.nodup_cons.1 hnd
    rcases List.mem_cons.1 hw with rfl | hw
    · rw [List.filter_cons_of_pos (by simp), List.filter_eq_nil_iff.2]
      intro u hu he
      exact hv (List.mem_map.2 ⟨u, hu, by simpa using he⟩)
    · rw [List.filter_cons_of_neg, ih hl hw]
      intro he
      exact hv (List.mem_map.2 ⟨w, hw, by simpa using (eq_of_beq he).symm⟩)

theorem count_map_filter {α : Type} {f : α → Identity × String × Identity} {o : Identity × String × Identity}
    {keep : α → Bool} {l : List α} (h : ∀ a ∈ l, f a = o → keep a = true) :
    ((l.filter keep).map f).count o = (l.map f).count o := by
  simp only [List.count_eq_countP, List.countP_map, List.countP_filter]
  refine List.countP_congr fun a ha => ?_
  simp only [Function.comp_apply, Bool.and_eq_true, beq_iff_eq]
  exact ⟨fun hf => hf.1, fun hf => ⟨hf, h a ha hf⟩⟩

section
variable {raw : Native.Document}

theorem wanted_nodup (hdoc : raw.accept = .ok p.document) : (p.wantedFunctions.map (·.id)).Nodup :=
  (Native.Document.nodup_functions_of_accept hdoc).sublist (List.filter_sublist.map _)

theorem wrappers_perm (hdoc : raw.accept = .ok p.document) (hid : p.document.HasIdentifiers)
    (h : p.prepare included = .ok p') :
    (Emission.ofPackage p').wrappers.Perm
      ((p'.functions.filter fun w => Emission.keeps p' w.managed w.native) ++ p'.types.methods) := by
  have hm := (prepare_conserves h (wanted_nodup hdoc)).2.1
  exact (sortByText_perm _ _).append ((prepare_wellNamed_native hid h).methods_perm hm)

theorem wrappers_wanted (hdoc : raw.accept = .ok p.document) (hid : p.document.HasIdentifiers)
    (h : p.prepare included = .ok p') :
    ((Emission.ofPackage p').wrappers.map (·.id)).Nodup ∧
      ∀ w ∈ (Emission.ofPackage p').wrappers, ∃ f ∈ p.wantedFunctions, w.origin = f.origin := by
  have hperm := wrappers_perm hdoc hid h
  have hall := (prepare_conserves h (wanted_nodup hdoc)).1
  have hsub := (List.filter_sublist (p := fun w => Emission.keeps p' w.managed w.native)
    (l := p'.functions)).append_right p'.types.methods
  constructor
  · have hids := (hall.map Prod.fst)
    rw [List.map_map, List.map_map] at hids
    exact ((hperm.map _).nodup_iff).2 (((hids.nodup_iff).2 (wanted_nodup hdoc)).sublist (hsub.map _))
  · intro w hw
    have hmem := hall.subset (List.mem_map_of_mem (hsub.subset (hperm.subset hw)))
    obtain ⟨f, hf, ho⟩ := List.mem_map.1 hmem
    exact ⟨f, hf, ho.symm⟩

theorem emits_global (hid : p.document.HasIdentifiers) (h : p.prepare included = .ok p')
    {g : GlobalVariable} (hg : g ∈ p'.globals) (he : p.exports g.native g.file = true)
    (hc : p.candidate g.native ≠ "") :
    (Emission.keeps p' g.managed g.native && (g.initializer? p'.types).isSome) = true := by
  have hwn := prepare_wellNamed_native hid h
  obtain ⟨hsingle, hnamed⟩ := (prepare_globals h).2 g hg
  have hb := (hwn.globals g hg).2
  have hne := hnamed hc
  obtain ⟨native, k, hnat, -, hname⟩ := hwn.scope.made (hb.resolve_left hne)
  have hslash : '/' ∉ g.managed.toList := by
    rw [hname]
    exact notMem_underscored hnat k (by decide) (by decide)
  rw [keeps_of_bound hwn.scope hb hne ((prepare_settings h).1 ▸ he),
    initializer?_isSome p'.types hsingle hne hslash]
  rfl

theorem globals_perm (p : Package) : (Emission.ofPackage p).globals.Perm
    (p.globals.filter fun v => Emission.keeps p v.managed v.native && (v.initializer? p.types).isSome) :=
  sortByText_perm _ _

theorem globals_wanted (h : p.prepare included = .ok p') :
    ∀ g ∈ (Emission.ofPackage p').globals, (g.initializer? p'.types).isSome = true ∧
      ∃ v ∈ p.document.globals, p.exports v.name v.file = true ∧ g.origin = v.origin := by
  intro g hg
  obtain ⟨hmem, hkeep⟩ := List.mem_filter.1 ((globals_perm p').subset hg)
  have horigin := List.mem_map_of_mem (f := GlobalVariable.origin) hmem
  rw [(prepare_globals h).1] at horigin
  obtain ⟨v, hv, ho⟩ := List.mem_map.1 horigin
  obtain ⟨hvd, hve⟩ := List.mem_filter.1 hv
  exact ⟨(Bool.and_eq_true_iff.1 hkeep).2, v, hvd, hve, ho.symm⟩

theorem mem_wantedFunctions {f : Native.Function} : f ∈ p.wantedFunctions ↔
    f ∈ p.document.functions ∧ f.variadic = false ∧ p.exports f.name f.file = true := by
  simp [wantedFunctions]

theorem emits_function (hdoc : raw.accept = .ok p.document) (hid : p.document.HasIdentifiers)
    (h : p.prepare included = .ok p') {f : Native.Function} (hf : f ∈ p.wantedFunctions)
    (hc : p.candidate f.name ≠ "") :
    ∃ w, ((Emission.ofPackage p').wrappers.filter fun v => v.id == f.id) = [w] ∧ w.origin = f.origin := by
  have hwn := prepare_wellNamed_native hid h
  obtain ⟨hall, -, hnamed⟩ := prepare_conserves h (wanted_nodup hdoc)
  obtain ⟨w, hw, ho⟩ := List.mem_map.1 (hall.symm.subset (List.mem_map_of_mem hf))
  obtain ⟨hwid, hwn', hwf⟩ : w.id = f.id ∧ w.native = f.name ∧ w.file = f.file := by
    simpa [Wrapper.origin, Native.Function.origin] using ho
  have hmem : w ∈ (Emission.ofPackage p').wrappers := by
    apply (wrappers_perm hdoc hid h).symm.subset
    rcases List.mem_append.1 hw with hw | hw
    · have he : p'.exports w.native w.file = true := by
        rw [(prepare_settings h).1, hwn', hwf]
        exact (mem_wantedFunctions.1 hf).2.2
      have hkeep := keeps_of_bound hwn.scope (hwn.functions w hw).2 (hnamed w hw (hwn' ▸ hc)) he
      exact List.mem_append_left _ (List.mem_filter.2 ⟨hw, hkeep⟩)
    · exact List.mem_append_right _ hw
  exact ⟨w, hwid ▸ filter_id_eq_singleton (wrappers_wanted hdoc hid h).1 hmem, ho⟩

/-- Identities tell functions apart, so what is emitted under one stands for that function. -/
theorem wanted_of_emitted (hdoc : raw.accept = .ok p.document) (hid : p.document.HasIdentifiers)
    (h : p.prepare included = .ok p') {f : Native.Function} (hf : f ∈ p.document.functions) {w : Wrapper}
    (hw : w ∈ (Emission.ofPackage p').wrappers) (he : w.id = f.id) : f ∈ p.wantedFunctions := by
  obtain ⟨g, hg, ho⟩ := (wrappers_wanted hdoc hid h).2 w hw
  have hgid : g.id = f.id := (congrArg Prod.fst ho).symm.trans he
  have hnd := Native.Document.nodup_functions_of_accept hdoc
  obtain rfl : g = f := List.inj_on_of_nodup_map hnd (mem_wantedFunctions.1 hg).1 hf hgid
  exact hg

theorem count_globals (hid : p.document.HasIdentifiers) (h : p.prepare included = .ok p')
    {v : Native.Variable} (he : p.exports v.name v.file = true) (hc : p.candidate v.name ≠ "") :
    ((Emission.ofPackage p').globals.map (·.origin)).count v.origin =
      (p.document.globals.map (·.origin)).count v.origin := by
  rw [((globals_perm p').map _).count_eq, count_map_filter, (prepare_globals h).1, wantedVariables,
    count_map_filter]
  · intro u hu ho
    obtain ⟨-, hn, hf⟩ : u.id = v.id ∧ u.name = v.name ∧ u.file = v.file := by
      simpa [Native.Variable.origin] using ho
    rw [hn, hf, he]
  · intro g hg ho
    obtain ⟨-, hn, hf⟩ : g.id = v.id ∧ g.native = v.name ∧ g.file = v.file := by
      simpa [GlobalVariable.origin, Native.Variable.origin] using ho
    exact emits_global hid h hg (by rw [hn, hf, he]) (hn ▸ hc)

theorem receiver_of_emitted (hdoc : raw.accept = .ok p.document) (h : p.prepare included = .ok p')
    {d : Declaration} (hd : d ∈ (Emission.ofPackage p').types) {m : Wrapper} (hm : m ∈ d.methods) :
    ∃ receiver, m.receiver = some receiver ∧ receiver.type.managedName p'.types = "*" ++ d.managed := by
  have hd := (sortByText_perm _ _).subset hd
  obtain ⟨e, he, rfl⟩ := List.mem_map.1 (List.mem_filter.1 hd).1
  have hreceives := (prepare_conserves h (wanted_nodup hdoc)).2.1
  have hr := hreceives _ _ ((p'.types.get?_eq_some_iff _ _).2 he) m hm
  obtain ⟨receiver, ref, hrec, hty, htn⟩ := hr.receiver
  exact ⟨receiver, hrec, hty ▸ Registry.managedName_pointer htn hr.named⟩

/-- What a package exports is what its files declare, each function and variable once. -/
theorem functions_and_variables_conserved (hdoc : raw.accept = .ok p.document)
    (hid : p.document.HasIdentifiers) (h : p.prepare included = .ok p') :
    (∀ f ∈ p.document.functions, f.variadic = false → p.exports f.name f.file = true →
      p.candidate f.name ≠ "" →
        ∃ w, ((Emission.ofPackage p').wrappers.filter fun v => v.id == f.id) = [w] ∧
          w.origin = f.origin) ∧
    (∀ f ∈ p.document.functions, f.variadic = true ∨ p.exports f.name f.file = false →
      ∀ w ∈ (Emission.ofPackage p').wrappers, w.id ≠ f.id) ∧
    (∀ w ∈ (Emission.ofPackage p').wrappers, ∃ f ∈ p.document.functions,
      f.variadic = false ∧ p.exports f.name f.file = true ∧ w.origin = f.origin) ∧
    (∀ v ∈ p.document.globals, p.exports v.name v.file = true → p.candidate v.name ≠ "" →
      ((Emission.ofPackage p').globals.map (·.origin)).count v.origin =
        (p.document.globals.map (·.origin)).count v.origin) ∧
    (∀ v ∈ p.document.globals, p.exports v.name v.file = false →
      v.origin ∉ (Emission.ofPackage p').globals.map (·.origin)) ∧
    (∀ g ∈ (Emission.ofPackage p').globals, (g.initializer? p'.types).isSome = true ∧
      ∃ v ∈ p.document.globals, p.exports v.name v.file = true ∧ g.origin = v.origin) ∧
    ∀ d ∈ (Emission.ofPackage p').types, ∀ m ∈ d.methods, ∃ receiver,
      m.receiver = some receiver ∧ receiver.type.managedName p'.types = "*" ++ d.managed := by
  refine ⟨?_, ?_, ?_, ?_, ?_, globals_wanted h, fun d hd m hm => receiver_of_emitted hdoc h hd hm⟩
  · intro f hf hv he hc
    exact emits_function hdoc hid h (mem_wantedFunctions.2 ⟨hf, hv, he⟩) hc
  · intro f hf hno w hw he
    obtain ⟨-, hv, hx⟩ := mem_wantedFunctions.1 (wanted_of_emitted hdoc hid h hf hw he)
    simp [hv, hx] at hno
  · intro w hw
    obtain ⟨f, hf, ho⟩ := (wrappers_wanted hdoc hid h).2 w hw
    obtain ⟨hfd, hv, he⟩ := mem_wantedFunctions.1 hf
    exact ⟨f, hfd, hv, he, ho⟩
  · intro v hv he hc
    exact count_globals hid h he hc
  · intro v hv he hm
    obtain ⟨g, hg, ho⟩ := List.mem_map.1 hm
    obtain ⟨-, u, hu, hue, huo⟩ := globals_wanted h g hg
    obtain ⟨-, hn, hf⟩ : u.id = v.id ∧ u.name = v.name ∧ u.file = v.file := by
      simpa [Native.Variable.origin] using huo.symm.trans ho
    rw [← hn, ← hf, hue] at he
    cases he

/-- A struct with a function that becomes its method, one that does not, one that is never
wrapped, and a variable. -/
def vectors : Package where
  settings := { name := "vectors" }
  filter := .all
  rules := {}
  ownedFiles := ["f"]
  document := {
    files := [⟨"f", "vectors.h"⟩]
    types := Dict.ofList [
      ("d", .fundamental "double" 8),
      ("p", .pointer "s" 8),
      ("s", .struct { name := "vec", file := "f", size := 8, fields := [⟨"x", "d"⟩] })]
    functions := [
      { id := "f1", name := "vec_norm", file := "f", returns := "d", arguments := [⟨"v", "p", .unset⟩]
        variadic := false, callback := none },
      { id := "f2", name := "zero", file := "f", returns := "s", arguments := [], variadic := false
        callback := none },
      { id := "f3", name := "show", file := "f", returns := "d", arguments := [], variadic := true
        callback := none }]
    globals := [{ id := "g", name := "origin", file := "f", type := "s" }] }

theorem vectors_conserved :
    ∃ p, vectors.prepare [] = .ok p ∧
      (∃ w, ((Emission.ofPackage p).wrappers.filter fun v => v.id == "f1") = [w] ∧
        w.origin = ("f1", "vec_norm", "f")) ∧
      ((Emission.ofPackage p).globals.map (·.origin)).count ("g", "origin", "f") = 1 := by
  have hp : vectors.prepare [] = .ok _ := rfl
  have hdoc : vectors.document.accept = .ok vectors.document := rfl
  have hid : vectors.document.HasIdentifiers := ⟨by decide +kernel, by decide +kernel, by decide +kernel⟩
  obtain ⟨hfunctions, -, -, hglobals, -⟩ := functions_and_variables_conserved hdoc hid hp
  refine ⟨_, hp, hfunctions _ List.mem_cons_self rfl (by decide +kernel) (by decide +kernel), ?_⟩
  exact (hglobals _ List.mem_cons_self (by decide +kernel) (by decide +kernel)).trans (by decide +kernel)

end

end Package

end Bindery
