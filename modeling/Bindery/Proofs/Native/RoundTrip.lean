import Bindery.Native.Encoder
import Bindery.Proofs.Json.Reordered
import Bindery.Proofs.Native.Range

/-!
# Documents written and read back

A document that has been loaded is written with all its defaults and roots, and reading that gives
the same document: each reader finds what its writer has written under the same name. Sizes and
enumerators are within their ranges because a reader has let them pass before.
-/

namespace Bindery.Native

open Json

/-! ## Each writer with its reader -/

theorem reads_kind (isTypeNode : Bool) (k : PointerKind) :
    Reads (choice? isTypeNode PointerKind.ofName?) (.text k.name) k := by
  apply reads_choice
  cases k <;> rfl

theorem reads_sourceFile (f : SourceFile) : Reads SourceFile.ofJson? f.toJson f := by
  intro v hv
  obtain ⟨r, hr, has⟩ := hv.record? ["id", "name"] (by decide) rfl
  have hid := has.required? "id" (by simp) (reads_text f.id)
  have hname := has.required? "name" (by simp) (reads_text f.name)
  simp [SourceFile.ofJson?, hr, hid, hname]

theorem reads_enumerator {e : Enumerator} (h : e.InRange) : Reads Enumerator.ofJson? e.toJson e := by
  intro v hv
  obtain ⟨r, hr, has⟩ := hv.record? ["name", "value"] (by decide) rfl
  have hname := has.required? "name" (by simp) (reads_text e.name)
  have hvalue := has.required? "value" (by simp) (reads_integer h.1 h.2)
  simp [Enumerator.ofJson?, hr, hname, hvalue]

theorem reads_enumeration {e : Enumeration} (hsize : e.size < sizeLimit) (hvalues : ∀ v ∈ e.values, v.InRange) :
    Reads Enumeration.ofJson? (.object e.members) e := by
  intro v hv
  obtain ⟨r, hr, has⟩ := hv.record? ["name", "file", "size", "values"] (by decide) rfl
  have hname := has.optional? "name" "" (by simp [Enumeration.members]) (reads_text e.name)
  have hfile := has.optional? "file" "" (by simp [Enumeration.members]) (reads_text e.file)
  have hsize := has.required? "size" (by simp [Enumeration.members, sizeJson]) (reads_size hsize)
  have hvalues := has.optional? "values" [] (by simp [Enumeration.members])
    (reads_list fun x hx => reads_enumerator (hvalues x hx))
  simp [Enumeration.ofJson?, hr, hname, hfile, hsize, hvalues]

theorem reads_field (f : Field) : Reads Field.ofJson? f.toJson f := by
  intro v hv
  obtain ⟨r, hr, has⟩ := hv.record? ["name", "type"] (by decide) rfl
  have hname := has.optional? "name" "" (by simp) (reads_text f.name)
  have htype := has.required? "type" (by simp) (reads_text f.type)
  simp [Field.ofJson?, hr, hname, htype]

theorem reads_composite {c : Composite} (hsize : c.size < sizeLimit) :
    Reads Composite.ofJson? (.object c.members) c := by
  intro v hv
  obtain ⟨r, hr, has⟩ := hv.record? ["name", "file", "size", "fields"] (by decide) rfl
  have hname := has.optional? "name" "" (by simp [Composite.members]) (reads_text c.name)
  have hfile := has.optional? "file" "" (by simp [Composite.members]) (reads_text c.file)
  have hsize := has.required? "size" (by simp [Composite.members, sizeJson]) (reads_size hsize)
  have fields : Reads (list? Field.ofJson?) (.list (c.fields.map Field.toJson)) c.fields :=
    reads_list fun f _ => reads_field f
  have hfields := has.optional? "fields" [] (by simp [Composite.members]) fields
  simp [Composite.ofJson?, hr, hname, hfile, hsize, hfields]

theorem reads_typedef {t : Typedef} (hsize : t.size < sizeLimit) :
    Reads Typedef.ofJson? (.object t.members) t := by
  intro v hv
  obtain ⟨r, hr, has⟩ := hv.record? ["name", "file", "base", "root", "size"] (by decide) rfl
  have root : Reads (nullable? text?) (t.root.elim .null .text) t.root := by
    cases t.root with
    | none => exact reads_null
    | some root => exact reads_some nofun (reads_text root)
  have hname := has.required? "name" (by simp [Typedef.members]) (reads_text t.name)
  have hfile := has.optional? "file" "" (by simp [Typedef.members]) (reads_text t.file)
  have hbase := has.required? "base" (by simp [Typedef.members]) (reads_text t.base)
  have hroot := has.optional? "root" none (by simp [Typedef.members]) root
  have hsize := has.optional? "size" 0 (by simp [Typedef.members, sizeJson]) (reads_size hsize)
  simp [Typedef.ofJson?, hr, hname, hfile, hbase, hroot, hsize]

theorem reads_argument (isTypeNode : Bool) (a : Argument) : Reads (Argument.ofJson? isTypeNode) a.toJson a := by
  intro v hv
  obtain ⟨r, hr, has⟩ := hv.record? ["name", "type", "ptr_kind"] (by decide) rfl
  have hname := has.optional? "name" "" (by simp) (reads_text a.name)
  have htype := has.required? "type" (by simp) (reads_text a.type)
  have hkind := has.optional? "ptr_kind" .unset (by simp) (reads_kind isTypeNode a.kind)
  simp [Argument.ofJson?, hr, hname, htype, hkind]

theorem reads_arguments (isTypeNode : Bool) (as : List Argument) :
    Reads (list? (Argument.ofJson? isTypeNode)) (.list (as.map Argument.toJson)) as :=
  reads_list fun a _ => reads_argument isTypeNode a

theorem reads_functionType (f : FunctionType) : Reads FunctionType.ofJson? (.object f.members) f := by
  intro v hv
  obtain ⟨r, hr, has⟩ := hv.record? ["returns", "arguments"] (by decide) rfl
  have hreturns := has.required? "returns" (by simp [FunctionType.members]) (reads_text f.returns)
  have harguments := has.optional? "arguments" [] (by simp [FunctionType.members])
    (reads_arguments true f.arguments)
  simp [FunctionType.ofJson?, hr, hreturns, harguments]

/-! ## Type nodes -/

theorem reads_members {node : TypeNode} (h : node.InRange) :
    Reads (TypeNode.ofMembers? node.kindName) (.object node.members) node := by
  intro v hv
  cases node with
  | fundamental name size =>
    obtain ⟨r, hr, has⟩ := hv.record? ["name", "size"] (by decide) rfl
    have hname := has.required? "name" (by simp [TypeNode.members]) (reads_text name)
    have hsize := has.optional? "size" 0 (by simp [TypeNode.members, sizeJson]) (reads_size h)
    simp [TypeNode.ofMembers?, TypeNode.kindName, hr, hname, hsize]
  | enumeration e =>
    have he := reads_enumeration h.1 h.2 v hv
    simp [TypeNode.ofMembers?, TypeNode.kindName, he]
  | array element length size =>
    obtain ⟨r, hr, has⟩ := hv.record? ["element", "length", "size"] (by decide) rfl
    have helement := has.required? "element" (by simp [TypeNode.members]) (reads_text element)
    have hlength := has.required? "length" (by simp [TypeNode.members, sizeJson]) (reads_size h.1)
    have hsize := has.optional? "size" 0 (by simp [TypeNode.members, sizeJson]) (reads_size h.2)
    simp [TypeNode.ofMembers?, TypeNode.kindName, hr, helement, hlength, hsize]
  | struct c =>
    have hc := reads_composite h v hv
    simp [TypeNode.ofMembers?, TypeNode.kindName, hc]
  | union c =>
    have hc := reads_composite h v hv
    simp [TypeNode.ofMembers?, TypeNode.kindName, hc]
  | pointer pointee size =>
    obtain ⟨r, hr, has⟩ := hv.record? ["pointee", "size"] (by decide) rfl
    have hpointee := has.required? "pointee" (by simp [TypeNode.members]) (reads_text pointee)
    have hsize := has.optional? "size" 0 (by simp [TypeNode.members, sizeJson]) (reads_size h)
    simp [TypeNode.ofMembers?, TypeNode.kindName, hr, hpointee, hsize]
  | typedef t =>
    have ht := reads_typedef h v hv
    simp [TypeNode.ofMembers?, TypeNode.kindName, ht]
  | function f =>
    have hf := reads_functionType f v hv
    simp [TypeNode.ofMembers?, TypeNode.kindName, hf]
  | qualified base =>
    obtain ⟨r, hr, has⟩ := hv.record? ["base"] (by decide) rfl
    have hbase := has.required? "base" (by simp [TypeNode.members]) (reads_text base)
    simp [TypeNode.ofMembers?, TypeNode.kindName, hr, hbase]
  | unimplemented name =>
    obtain ⟨r, hr, has⟩ := hv.record? ["name"] (by decide) rfl
    have hname := has.optional? "name" "" (by simp [TypeNode.members]) (reads_text name)
    simp [TypeNode.ofMembers?, TypeNode.kindName, hr, hname]
  | unsupported =>
    obtain ⟨r, hr, -⟩ := hv.record? [] (by decide) rfl
    simp [TypeNode.ofMembers?, TypeNode.kindName, hr]

@[simp] theorem plain_size {depth n : Nat} : Plain depth (sizeJson n) ↔ n < sizeLimit := by
  rw [sizeJson, plain_whole, Int.natAbs_natCast, sizeLimit]

theorem plain_enumerator {depth : Nat} {e : Enumerator} (h : e.InRange) : Plain (depth + 1) e.toJson := by
  obtain ⟨hlow, hhigh⟩ := h
  have hvalue : e.value.natAbs < 0x10000000000000000 := by omega
  simp [Enumerator.toJson, hvalue]

theorem plain_option {α : Type} {depth : Nat} {write : α → Json} {o : Option α}
    (h : ∀ a, o = some a → Plain depth (write a)) : Plain depth (o.elim .null write) := by
  cases o with
  | none => exact .null
  | some a => exact h a rfl

/-- No node has more than three lists and objects inside one another. -/
theorem plain_node {node : TypeNode} (h : node.InRange) (depth : Nat) : Plain (depth + 3) node.toJson := by
  unfold TypeNode.InRange at h
  unfold TypeNode.toJson
  cases node with
  | fundamental | pointer | array => simpa [TypeNode.members] using h
  | enumeration e =>
    have hvalues : ∀ v ∈ e.values, Plain (depth + 1) v.toJson := fun v hv => plain_enumerator (h.2 v hv)
    simpa [TypeNode.members, Enumeration.members] using And.intro h.1 hvalues
  | struct | union => simpa [TypeNode.members, Composite.members, Field.toJson] using h
  | typedef t =>
    have hroot : Plain (depth + 2) (t.root.elim .null .text) := plain_option fun _ _ => .text _
    simpa [TypeNode.members, Typedef.members, hroot] using h
  | function => simp [TypeNode.members, FunctionType.members, Argument.toJson]
  | qualified | unimplemented | unsupported => simp [TypeNode.members]

theorem kind_not_mem (node : TypeNode) : "kind" ∉ node.members.map (·.1) := by
  cases node <;>
    simp [TypeNode.members, Enumeration.members, Composite.members, Typedef.members, FunctionType.members]

theorem reads_node {node : TypeNode} (h : node.InRange) : Reads TypeNode.ofJson? node.toJson node := by
  intro v hv
  obtain ⟨rest, htag, hrest⟩ := hv.tagged? (kind_not_mem node)
  have hsound := ((plain_node h 122).reordered hv).isSound
  have hmembers := reads_members h rest hrest
  simp [TypeNode.ofJson?, nodeDepth, htag, hsound, hmembers]

/-! ## Documents -/

theorem reads_hint {h : CallbackHint} (hh : h.InRange) : Reads CallbackHint.ofJson? h.toJson h := by
  intro v hv
  obtain ⟨r, hr, has⟩ := hv.record? ["arg_index", "data_index", "callback_data_index"] (by decide) rfl
  have harg := has.required? "arg_index" (by simp [sizeJson]) (reads_size hh.1)
  have hdata := has.required? "data_index" (by simp [sizeJson]) (reads_size hh.2.1)
  have hcallback := has.required? "callback_data_index" (by simp [sizeJson]) (reads_size hh.2.2)
  simp [CallbackHint.ofJson?, hr, harg, hdata, hcallback]

theorem reads_function {f : Function} (h : ∀ hint, f.callback = some hint → hint.InRange) :
    Reads Function.ofJson? f.toJson f := by
  intro v hv
  obtain ⟨r, hr, has⟩ := hv.record?
    ["id", "name", "file", "returns", "arguments", "variadic", "callback"] (by decide) rfl
  have callback :
      Reads (nullable? CallbackHint.ofJson?) (f.callback.elim .null CallbackHint.toJson) f.callback := by
    cases hc : f.callback with
    | none => exact reads_null
    | some hint => exact reads_some nofun (reads_hint (h hint hc))
  have hid := has.required? "id" (by simp) (reads_text f.id)
  have hname := has.required? "name" (by simp) (reads_text f.name)
  have hfile := has.optional? "file" "" (by simp) (reads_text f.file)
  have hreturns := has.required? "returns" (by simp) (reads_text f.returns)
  have harguments := has.optional? "arguments" [] (by simp) (reads_arguments false f.arguments)
  have hvariadic := has.optional? "variadic" false (by simp) (reads_bool f.variadic)
  have hcallback := has.optional? "callback" none (by simp) callback
  simp [Function.ofJson?, hr, hid, hname, hfile, hreturns, harguments, hvariadic, hcallback]

theorem reads_variable (x : Variable) : Reads Variable.ofJson? x.toJson x := by
  intro v hv
  obtain ⟨r, hr, has⟩ := hv.record? ["id", "name", "file", "type"] (by decide) rfl
  have hid := has.required? "id" (by simp) (reads_text x.id)
  have hname := has.required? "name" (by simp) (reads_text x.name)
  have hfile := has.optional? "file" "" (by simp) (reads_text x.file)
  have htype := has.required? "type" (by simp) (reads_text x.type)
  simp [Variable.ofJson?, hr, hid, hname, hfile, htype]

theorem mapM_some {α β : Type} {f : α → Option β} {g : α → β} {l : List α} (h : ∀ a ∈ l, f a = some (g a)) :
    l.mapM f = some (l.map g) := by
  induction l with
  | nil => rfl
  | cons a l ih =>
    rw [List.mapM_cons, h a List.mem_cons_self, ih fun b hb => h b (List.mem_cons_of_mem _ hb)]
    rfl

theorem decoded_entries {entries : List (String × TypeNode)} (h : ∀ e ∈ entries, e.2.InRange)
    {ms : List (String × Json)} (hms : List.Forall₂ (fun m m' => m.1 = m'.1 ∧ m.2.Reordered m'.2) ms
      (entries.map fun (id, node) => (id, node.toJson))) :
    ms.map (fun m => (m.1, TypeNode.ofJson? m.2)) = entries.map fun (id, node) => (id, some node) := by
  induction entries generalizing ms with
  | nil =>
    cases hms
    rfl
  | cons e entries ih =>
    cases hms with
    | @cons m _ ms _ hm hms =>
      have he : TypeNode.ofJson? m.2 = some e.2 := reads_node (h e List.mem_cons_self) _ hm.2
      rw [List.map_cons, List.map_cons, ih (fun e he => h e (List.mem_cons_of_mem _ he)) hms, he, hm.1]

theorem reads_types {types : Dict TypeNode} (h : ∀ {id node}, types.get? id = some node → node.InRange) :
    Reads typesOfJson? (.object (types.entries.map fun (id, node) => (id, node.toJson))) types := by
  intro v hv
  obtain ⟨ms, ms', rfl, hp, hms⟩ := hv.object_cases
  have hdecoded := decoded_entries (fun e he => h ((types.get?_eq_some_iff _ _).2 he)) hms
  let entry (m : String × Json) : String × TypeNode := (m.1, (TypeNode.ofJson? m.2).getD .unsupported)
  have hentries : ms'.map entry = types.entries := by
    have heq := congrArg (List.map fun (e : String × Option TypeNode) => (e.1, e.2.getD .unsupported)) hdecoded
    simpa [Function.comp_def] using heq
  have hall : ∀ m ∈ ms, (TypeNode.ofJson? m.2).map (fun node => (m.1, node)) = some (entry m) := by
    intro m hm
    have hin : (m.1, TypeNode.ofJson? m.2) ∈ types.entries.map fun (id, node) => (id, some node) :=
      hdecoded ▸ List.mem_map.2 ⟨m, hp.subset hm, rfl⟩
    obtain ⟨e, -, he⟩ := List.mem_map.1 hin
    have hnode : TypeNode.ofJson? m.2 = some e.2 := (Prod.ext_iff.1 he).2.symm
    simp [entry, hnode]
  have hperm : (ms.map entry).Perm types.entries := hentries ▸ hp.map entry
  simp only [typesOfJson?, mapM_some hall, Option.map_some, Dict.ofList_perm types hperm]

theorem reads_document {d : Document} (h : d.InRange) : Reads Document.ofJson? d.toJson d := by
  intro v hv
  obtain ⟨r, hr, has⟩ := hv.record? ["files", "types", "functions", "variables"] (by decide) rfl
  have files : Reads (list? SourceFile.ofJson?) (.list (d.files.map SourceFile.toJson)) d.files :=
    reads_list fun f _ => reads_sourceFile f
  have functions : Reads (list? Function.ofJson?) (.list (d.functions.map Function.toJson)) d.functions :=
    reads_list fun f hf => reads_function (h.hints f hf)
  have globals : Reads (list? Variable.ofJson?) (.list (d.globals.map Variable.toJson)) d.globals :=
    reads_list fun x _ => reads_variable x
  have hfiles := has.optional? "files" [] (by simp) files
  have htypes := has.optional? "types" {} (by simp) (reads_types h.nodes)
  have hfunctions := has.optional? "functions" [] (by simp) functions
  have hglobals := has.optional? "variables" [] (by simp) globals
  simp [Document.ofJson?, hr, hfiles, htypes, hfunctions, hglobals]

namespace Document

/-! ## Loading once more -/

variable {d raw : Document}

theorem Follows.hasType {next : TypeNode → Option Identity} {k : Nat} {id : Identity} {out : Identity × TypeNode}
    (h : d.Follows next k id out) : d.HasType out.1 := by
  induction h with
  | here hn _ => exact ⟨_, hn⟩
  | step _ _ _ ih => exact ih

namespace RootedFrom

variable (h : d.RootedFrom raw)

include h

theorem fills {id : Identity} {node : TypeNode} (hn : d.types.get? id = some node) :
    ∃ before, raw.types.get? id = some before ∧ raw.Fills id before node := by
  have hrel := h.nodes id
  rw [hn] at hrel
  cases hb : raw.types.get? id with
  | none =>
    rw [hb] at hrel
    cases hrel
  | some before =>
    rw [hb] at hrel
    cases hrel with
    | some hfills => exact ⟨before, rfl, hfills⟩

theorem hasType {id : Identity} (hid : raw.HasType id) : d.HasType id := by
  obtain ⟨before, hb⟩ := hid
  have hrel := h.nodes id
  rw [hb] at hrel
  cases hn : d.types.get? id with
  | none =>
    rw [hn] at hrel
    cases hrel
  | some node => exact ⟨node, hn⟩

theorem hasFile {id : Identity} (hid : raw.HasFile id) : d.HasFile id := by
  unfold HasFile
  rw [h.files]
  exact hid

theorem root_ne_none {id : Identity} {t : Typedef} (ht : d.types.get? id = some (.typedef t)) :
    t.root ≠ none := by
  obtain ⟨before, -, hfills⟩ := h.fills ht
  cases hfills with
  | kept hkept => exact hkept t rfl
  | filled => simp

theorem closed (hraw : raw.Closed) : d.Closed := by
  constructor
  case nodes =>
    intro id node ref hn href
    obtain ⟨before, hb, hfills⟩ := h.fills hn
    apply h.hasType
    cases hfills with
    | kept => exact hraw.nodes hb href
    | filled _ hf =>
      cases href with
      | base => exact hraw.nodes hb .base
      | root hr =>
        cases hr
        exact hf.hasType
  case nodeFiles =>
    intro id node file hn hfile
    obtain ⟨before, hb, hfills⟩ := h.fills hn
    apply h.hasFile
    cases hfills with
    | kept => exact hraw.nodeFiles hb hfile
    | filled => exact hraw.nodeFiles hb hfile
  case identities => exact h.functions ▸ hraw.identities
  case functionFiles => exact fun f hf => h.hasFile (hraw.functionFiles f (h.functions ▸ hf))
  case results => exact fun f hf => h.hasType (hraw.results f (h.functions ▸ hf))
  case arguments => exact fun f hf a ha => h.hasType (hraw.arguments f (h.functions ▸ hf) a ha)
  case hints => exact fun f hf => hraw.hints f (h.functions ▸ hf)
  case globalFiles => exact fun v hv => h.hasFile (hraw.globalFiles v (h.globals ▸ hv))
  case globals => exact fun v hv => h.hasType (hraw.globals v (h.globals ▸ hv))
  case chains => exact fun ht hr => absurd hr (h.root_ne_none ht)

theorem rooted_eq {id : Identity} {node : TypeNode} (hn : d.types.get? id = some node) :
    d.rooted id node = node := by
  cases node with
  | typedef t =>
    obtain ⟨root, hr⟩ := Option.ne_none_iff_exists'.1 (h.root_ne_none hn)
    have ht : ({ t with root := some root } : Typedef) = t := by rw [← hr]
    simp only [rooted, hr]
    exact congrArg TypeNode.typedef ht
  | _ => rfl

end RootedFrom

/-- A loaded document is accepted as it is. -/
theorem accept_of_loaded (h : raw.accept = .ok d) : d.accept = .ok d := by
  have hrooted := rootedFrom_of_accept h
  refine accept_ok.2 ⟨hrooted.closed (accept_ok.1 h).1, ?_⟩
  have htypes : d.types.mapValues d.rooted = d.types := by
    apply Dict.ext_get?
    intro id
    rw [Dict.get?_mapValues]
    cases hn : d.types.get? id with
    | none => rfl
    | some node => rw [Option.map_some, hrooted.rooted_eq hn]
  rw [htypes]

theorem plain_toJson (h : d.InRange) : Plain 5 d.toJson := by
  have htypes : Plain 4 (.object (d.types.entries.map fun (id, node) => (id, node.toJson))) := by
    apply Plain.object
    intro m hm
    obtain ⟨⟨id, node⟩, he, rfl⟩ := List.mem_map.1 hm
    exact plain_node (h.nodes ((d.types.get?_eq_some_iff id node).2 he)) 0
  have hcallbacks : ∀ f ∈ d.functions, Plain 2 (f.callback.elim .null CallbackHint.toJson) := by
    intro f hf
    refine plain_option fun hint hc => ?_
    have hhint := h.hints f hf hint hc
    unfold CallbackHint.InRange at hhint
    simpa [CallbackHint.toJson] using hhint
  have hfunctions : Plain 4 (.list (d.functions.map Function.toJson)) := by
    simpa [Function.toJson, Argument.toJson] using hcallbacks
  apply Plain.object
  simp only [List.forall_mem_cons, htypes, hfunctions, true_and]
  simp [SourceFile.toJson, Variable.toJson]

/-- A loaded document is read back from its JSON, in whichever order the members of that stand: from its
compact form, and from any other text that stands for it. -/
theorem read_toJson {text : String} (h : Document.read text = .ok d) {v : Json} (hv : v.Reordered d.toJson) :
    Document.read v.compact = .ok d ∧ ∀ other, Json.read? other = some v → Document.read other = .ok d := by
  have hrange := inRange_of_read h
  have haccept : d.accept = .ok d := by
    unfold Document.read at h
    split at h
    · exact accept_of_loaded h
    · cases h
  have again (other : String) (hother : Json.read? other = some v) : Document.read other = .ok d := by
    have hdecoded : (Json.read? other).bind Document.ofJson? = some d := by
      rw [hother, Option.bind_some, reads_document hrange v hv]
    rw [read_of_decoded hdecoded, haccept]
  exact ⟨again _ ((plain_toJson hrange).reordered hv).read_compact, again⟩

theorem tally_read_again :
    ∃ d, Document.read tallyJson.compact = .ok d ∧ Document.read d.toJson.compact = .ok d := by
  obtain ⟨d, hd⟩ := tally_read
  obtain ⟨hagain, -⟩ := read_toJson hd (.refl d.toJson)
  exact ⟨d, hd, hagain⟩

end Document

end Bindery.Native
