import Bindery.Proofs.Json.Printing
import Bindery.Proofs.Native.Chain
import Mathlib.Logic.Function.Iterate

/-!
# Closed documents

The checks of a document, one after the other, ask for no more and no less than that it is closed:
all that it refers to is in it, and every typedef without a root has one. Loading writes these roots
down and changes nothing else.
-/

namespace Bindery.Native

/-! ## What closedness is -/

inductive TypeNode.RefersTo : TypeNode → Identity → Prop
  | element {element length size} : RefersTo (.array element length size) element
  | structField {c f} (h : f ∈ c.fields) : RefersTo (.struct c) f.type
  | unionField {c f} (h : f ∈ c.fields) : RefersTo (.union c) f.type
  | pointee {pointee size} : RefersTo (.pointer pointee size) pointee
  | base {t} : RefersTo (.typedef t) t.base
  | root {t root} (h : t.root = some root) : RefersTo (.typedef t) root
  | result {f} : RefersTo (.function f) f.returns
  | parameter {f a} (h : a ∈ f.arguments) : RefersTo (.function f) a.type
  | qualified {base} : RefersTo (.qualified base) base

theorem TypeNode.mem_references {node : TypeNode} {id : Identity} : id ∈ node.references ↔ node.RefersTo id := by
  constructor
  · intro h
    cases node with
    | fundamental | enumeration | unimplemented | unsupported => cases h
    | array =>
      obtain rfl := List.mem_singleton.1 h
      exact .element
    | struct c =>
      obtain ⟨f, hf, rfl⟩ := List.mem_map.1 h
      exact .structField hf
    | union c =>
      obtain ⟨f, hf, rfl⟩ := List.mem_map.1 h
      exact .unionField hf
    | pointer =>
      obtain rfl := List.mem_singleton.1 h
      exact .pointee
    | typedef t =>
      rcases List.mem_cons.1 h with rfl | h
      · exact .base
      · exact .root (Option.mem_toList.1 h)
    | function f =>
      rcases List.mem_cons.1 h with rfl | h
      · exact .result
      · obtain ⟨a, ha, rfl⟩ := List.mem_map.1 h
        exact .parameter ha
    | qualified =>
      obtain rfl := List.mem_singleton.1 h
      exact .qualified
  · intro h
    cases h with
    | element | pointee | qualified => exact List.mem_singleton_self _
    | structField hf | unionField hf => exact List.mem_map_of_mem hf
    | base | result => exact List.mem_cons_self
    | root hr => exact List.mem_cons_of_mem _ (Option.mem_toList.2 hr)
    | parameter ha => exact List.mem_cons_of_mem _ (List.mem_map_of_mem ha)

namespace Document

variable (d : Document)

def HasType (id : Identity) : Prop := ∃ node, d.types.get? id = some node

/-- A declaration may be without a file; the file it names must be listed. -/
def HasFile (id : Identity) : Prop := id = "" ∨ ∃ f ∈ d.files, f.id = id

def Endless (id : Identity) : Prop :=
  ∃ chain : Nat → Identity, chain 0 = id ∧
    ∀ n, ∃ node, d.types.get? (chain n) = some node ∧ node.underlying? = some (chain (n + 1))

structure Closed : Prop where
  nodes : ∀ {id node ref}, d.types.get? id = some node → node.RefersTo ref → d.HasType ref
  nodeFiles : ∀ {id node file}, d.types.get? id = some node → node.file? = some file → d.HasFile file
  identities : (d.functions.map (·.id)).Nodup
  functionFiles : ∀ f ∈ d.functions, d.HasFile f.file
  results : ∀ f ∈ d.functions, d.HasType f.returns
  arguments : ∀ f ∈ d.functions, ∀ a ∈ f.arguments, d.HasType a.type
  hints : ∀ f ∈ d.functions, ∀ h, f.callback = some h →
    h.argIndex < f.arguments.length ∧ h.dataIndex < f.arguments.length ∧ h.argIndex ≠ h.dataIndex
  globalFiles : ∀ v ∈ d.globals, d.HasFile v.file
  globals : ∀ v ∈ d.globals, d.HasType v.type
  chains : ∀ {id t}, d.types.get? id = some (.typedef t) → t.root = none → ¬ d.Endless id

inductive Fills (id : Identity) : TypeNode → TypeNode → Prop
  | kept {node} (h : ∀ t, node = .typedef t → t.root ≠ none) : Fills id node node
  | filled {t root node k} (h : t.root = none) (hf : d.Follows TypeNode.underlying? k id (root, node)) :
    Fills id (.typedef t) (.typedef { t with root := some root })

structure RootedFrom (raw : Document) : Prop where
  files : d.files = raw.files
  functions : d.functions = raw.functions
  globals : d.globals = raw.globals
  nodes : ∀ id, Option.Rel (raw.Fills id) (raw.types.get? id) (d.types.get? id)

variable {d} {raw : Document}

/-! ## The checks -/

theorem then_ok {ε β : Type} {x : Except ε Unit} {f : Unit → Except ε β} {b : β} :
    (x >>= f) = .ok b ↔ x = .ok () ∧ f () = .ok b := by
  rw [bind_ok]
  constructor
  · intro h
    obtain ⟨_, h⟩ := h
    exact h
  · intro h
    exact ⟨(), h⟩

theorem forM_ok {ε α : Type} {l : List α} {f : α → Except ε Unit} :
    l.forM f = .ok () ↔ ∀ a ∈ l, f a = .ok () := by
  induction l with
  | nil => exact ⟨fun _ => nofun, fun _ => rfl⟩
  | cons a l ih =>
    show (f a >>= fun _ => l.forM f) = _ ↔ _
    rw [then_ok, List.forall_mem_cons, ih]

theorem forM_entries_ok {ε α : Type} {types : Dict α} {f : Identity → α → Except ε Unit} :
    (types.entries.forM fun e => f e.1 e.2) = .ok () ↔ ∀ id a, types.get? id = some a → f id a = .ok () := by
  rw [forM_ok]
  constructor
  · intro h id a ha
    exact h (id, a) ((types.get?_eq_some_iff id a).1 ha)
  · intro h e he
    exact h e.1 e.2 ((types.get?_eq_some_iff e.1 e.2).2 he)

theorem ite_throw_ok {ε : Type} {p : Prop} [Decidable p] {e : ε} :
    (if p then pure () else throw e : Except ε Unit) = .ok () ↔ p := by
  by_cases hp : p
  · simp [hp, pure, Except.pure]
  · simp [hp, throw, throwThe, MonadExceptOf.throw]

theorem checkType_ok {place : Place} {id : Identity} : d.checkType place id = .ok () ↔ d.HasType id := by
  unfold checkType HasType
  rw [ite_throw_ok, Dict.contains, Option.isSome_iff_exists]

theorem checkFile_ok {place : Place} {id : Identity} : d.checkFile place id = .ok () ↔ d.HasFile id := by
  unfold checkFile HasFile
  rw [ite_throw_ok]
  simp

theorem checkNode_ok {id : Identity} {node : TypeNode} : d.checkNode id node = .ok () ↔
    (∀ file, node.file? = some file → d.HasFile file) ∧ ∀ ref, node.RefersTo ref → d.HasType ref := by
  unfold checkNode
  simp only [then_ok, forM_ok, checkFile_ok, checkType_ok, Option.mem_toList, TypeNode.mem_references]

theorem checkHint_ok {f : Function} : checkHint f = .ok () ↔ ∀ h, f.callback = some h →
    h.argIndex < f.arguments.length ∧ h.dataIndex < f.arguments.length ∧ h.argIndex ≠ h.dataIndex := by
  unfold checkHint
  cases hc : f.callback with
  | none => simp [pure, Except.pure]
  | some h =>
    dsimp only
    rw [ite_throw_ok]
    simp [CallbackHint.fits, and_assoc]

theorem checkFunction_ok {f : Function} : d.checkFunction f = .ok () ↔ d.HasFile f.file ∧ d.HasType f.returns ∧
    (∀ a ∈ f.arguments, d.HasType a.type) ∧ checkHint f = .ok () := by
  unfold checkFunction
  simp only [then_ok, forM_ok, checkFile_ok, checkType_ok]

theorem checkFunctions_ok {seen : List Identity} {fs : List Function} : d.checkFunctions seen fs = .ok () ↔
    (fs.map (·.id)).Nodup ∧ (∀ f ∈ fs, f.id ∉ seen) ∧ ∀ f ∈ fs, d.checkFunction f = .ok () := by
  constructor
  · intro h
    obtain ⟨hnd, hseen⟩ := nodup_of_checkFunctions h
    refine ⟨hnd, hseen, ?_⟩
    clear hnd hseen
    induction fs generalizing seen with
    | nil => exact nofun
    | cons f fs ih =>
      rw [checkFunctions] at h
      split at h
      · cases h
      · obtain ⟨_, hf, h⟩ := bind_ok.1 h
        exact List.forall_mem_cons.2 ⟨hf, ih h⟩
  · intro h
    obtain ⟨hnd, hseen, hall⟩ := h
    induction fs generalizing seen with
    | nil => rfl
    | cons f fs ih =>
      obtain ⟨hf, hnd⟩ := List.nodup_cons.1 hnd
      have hnew : f.id ∉ seen := hseen f List.mem_cons_self
      unfold checkFunctions
      rw [if_neg (by simpa using hnew), hall f List.mem_cons_self]
      apply ih hnd
      · intro g hg hm
        rcases List.mem_cons.1 hm with he | hm
        · exact hf (List.mem_map.2 ⟨g, hg, he⟩)
        · exact hseen g (List.mem_cons_of_mem _ hg) hm
      · intro g hg
        exact hall g (List.mem_cons_of_mem _ hg)

theorem checkVariable_ok {v : Variable} : d.checkVariable v = .ok () ↔ d.HasFile v.file ∧ d.HasType v.type := by
  unfold checkVariable
  simp only [then_ok, checkFile_ok, checkType_ok]

theorem checkClosed_ok : d.checkClosed = .ok () ↔
    (∀ id node, d.types.get? id = some node → d.checkNode id node = .ok ()) ∧
      d.checkFunctions [] d.functions = .ok () ∧ ∀ v ∈ d.globals, d.checkVariable v = .ok () := by
  unfold checkClosed
  rw [then_ok, then_ok, forM_entries_ok, forM_ok]

/-! ## Endless chains -/

theorem Follows.not_endless {k : Nat} {id : Identity} {out : Identity × TypeNode}
    (h : d.Follows TypeNode.underlying? k id out) : ¬ d.Endless id := by
  induction h with
  | here hn h =>
    intro he
    obtain ⟨chain, rfl, hall⟩ := he
    obtain ⟨node, hn', h'⟩ := hall 0
    obtain rfl := Option.some.inj (hn.symm.trans hn')
    rw [h] at h'
    cases h'
  | step hn h _ ih =>
    intro he
    obtain ⟨chain, rfl, hall⟩ := he
    obtain ⟨node, hn', h'⟩ := hall 0
    obtain rfl := Option.some.inj (hn.symm.trans hn')
    obtain rfl := Option.some.inj (h.symm.trans h')
    exact ih ⟨fun n => chain (n + 1), rfl, fun n => hall (n + 1)⟩

variable (d) in
/-- The identity behind one that is a typedef or qualified, or else the same one. -/
def behind (id : Identity) : Identity := ((d.types.get? id).bind TypeNode.underlying?).getD id

/-- In a document all of whose chains stay within it, one that never comes to an end is endless. -/
theorem endless_of_not_follows
    (hnodes : ∀ {id node inner}, d.types.get? id = some node → node.underlying? = some inner → d.HasType inner)
    {id : Identity} (hid : d.HasType id) (hnone : ∀ k out, ¬ d.Follows TypeNode.underlying? k id out) :
    d.Endless id := by
  have goes_on {x : Identity} (hx : d.HasType x ∧ ∀ k out, ¬ d.Follows TypeNode.underlying? k x out) :
      (∃ node, d.types.get? x = some node ∧ node.underlying? = some (d.behind x)) ∧
        d.HasType (d.behind x) ∧ ∀ k out, ¬ d.Follows TypeNode.underlying? k (d.behind x) out := by
    obtain ⟨⟨node, hn⟩, hx⟩ := hx
    cases hi : node.underlying? with
    | none => exact absurd (.here hn hi) (hx 0 _)
    | some inner =>
      have hb : d.behind x = inner := by simp [behind, hn, hi]
      rw [hb]
      exact ⟨⟨node, hn, hi⟩, hnodes hn hi, fun k out hf => hx (k + 1) out (.step hn hi hf)⟩
  have stays : ∀ n, d.HasType (d.behind^[n] id) ∧
      ∀ k out, ¬ d.Follows TypeNode.underlying? k (d.behind^[n] id) out := by
    intro n
    induction n with
    | zero => exact ⟨hid, hnone⟩
    | succ n ih =>
      rw [Function.iterate_succ_apply']
      exact (goes_on ih).2
  refine ⟨fun n => d.behind^[n] id, rfl, fun n => ?_⟩
  dsimp only
  rw [Function.iterate_succ_apply']
  exact (goes_on (stays n)).1

theorem TypeNode.refersTo_underlying {node : TypeNode} {inner : Identity} (h : node.underlying? = some inner) :
    node.RefersTo inner := by
  cases node with
  | typedef t =>
    obtain rfl := Option.some.inj h
    exact .base
  | qualified base =>
    obtain rfl := Option.some.inj h
    exact .qualified
  | _ => cases h

theorem strip_ok_iff (hnodes : ∀ {id node ref}, d.types.get? id = some node → node.RefersTo ref → d.HasType ref)
    {id : Identity} (hid : d.HasType id) : (∃ out, d.strip id = .ok out) ↔ ¬ d.Endless id := by
  constructor
  · intro h
    obtain ⟨out, h⟩ := h
    obtain ⟨k, hf⟩ := strip_ok.1 h
    exact hf.not_endless
  · intro h
    by_contra hnone
    have stays {id inner : Identity} {node : TypeNode} (hn : d.types.get? id = some node)
        (hi : node.underlying? = some inner) : d.HasType inner :=
      hnodes hn (TypeNode.refersTo_underlying hi)
    refine h (endless_of_not_follows stays hid fun k out hf => ?_)
    exact hnone ⟨out, strip_ok.2 ⟨k, hf⟩⟩

/-! ## Roots -/

theorem checkChain_ok {id : Identity} {node : TypeNode} : d.checkChain id node = .ok () ↔
    ∀ t, node = .typedef t → t.root = none → ∃ out, d.strip id = .ok out := by
  unfold checkChain
  split
  · rename_i t hr
    rw [bind_ok]
    constructor
    · intro h _ _ _
      obtain ⟨out, h, -⟩ := h
      exact ⟨out, h⟩
    · intro h
      obtain ⟨out, h⟩ := h _ rfl rfl
      exact ⟨out, h, rfl⟩
  · rename_i hnot
    refine ⟨fun _ t ht hr => ?_, fun _ => rfl⟩
    obtain ⟨name, file, base, root, size⟩ := t
    subst hr
    exact absurd ht (hnot _ _ _ _)

theorem resolveRoots_ok : raw.resolveRoots = .ok d ↔
    (∀ id t, raw.types.get? id = some (.typedef t) → t.root = none → ∃ out, raw.strip id = .ok out) ∧
      d = { raw with types := raw.types.mapValues raw.rooted } := by
  unfold resolveRoots
  rw [then_ok, forM_entries_ok]
  refine and_congr ?_ ⟨fun h => (Except.ok.inj h).symm, fun h => congrArg _ h.symm⟩
  simp only [checkChain_ok]
  constructor
  · intro h id t ht
    exact h id _ ht t rfl
  · intro h id node hn t ht
    exact h id t (ht ▸ hn)

theorem fills_rooted {id : Identity} {node : TypeNode}
    (h : ∀ t, node = .typedef t → t.root = none → ∃ out, raw.strip id = .ok out) :
    raw.Fills id node (raw.rooted id node) := by
  unfold rooted
  split
  · rename_i t
    cases hr : t.root with
    | none =>
      obtain ⟨⟨root, node⟩, hs⟩ := h t rfl hr
      obtain ⟨k, hf⟩ := strip_ok.1 hs
      rw [hs]
      exact .filled hr hf
    | some root =>
      have ht : ({ t with root := some root } : Typedef) = t := by rw [← hr]
      show raw.Fills id _ (.typedef { t with root := some root })
      rw [ht]
      refine .kept fun u hu => ?_
      cases hu
      simp [hr]
  · rename_i hnot
    exact .kept fun t ht => absurd ht (hnot t)

/-! ## Loading -/

theorem closed_iff : raw.Closed ↔ raw.checkClosed = .ok () ∧
    ∀ id t, raw.types.get? id = some (.typedef t) → t.root = none → ∃ out, raw.strip id = .ok out := by
  simp only [checkClosed_ok, checkNode_ok, checkFunctions_ok, checkFunction_ok, checkHint_ok, checkVariable_ok]
  constructor
  · intro h
    refine ⟨⟨fun id node hn => ⟨fun file => h.nodeFiles hn, fun ref => h.nodes hn⟩,
      ⟨h.identities, fun _ _ => List.not_mem_nil, fun f hf => ⟨h.functionFiles f hf, h.results f hf,
        h.arguments f hf, h.hints f hf⟩⟩, fun v hv => ⟨h.globalFiles v hv, h.globals v hv⟩⟩, ?_⟩
    intro id t ht hr
    exact (strip_ok_iff h.nodes ⟨_, ht⟩).2 (h.chains ht hr)
  · intro h
    obtain ⟨⟨hnodes, ⟨hnd, -, hfunctions⟩, hglobals⟩, hchains⟩ := h
    have nodes {id : Identity} {node : TypeNode} {ref : Identity} (hn : raw.types.get? id = some node)
        (href : node.RefersTo ref) : raw.HasType ref := (hnodes id node hn).2 ref href
    constructor
    case nodes => exact nodes
    case nodeFiles => exact fun hn hf => (hnodes _ _ hn).1 _ hf
    case identities => exact hnd
    case functionFiles => exact fun f hf => (hfunctions f hf).1
    case results => exact fun f hf => (hfunctions f hf).2.1
    case arguments => exact fun f hf => (hfunctions f hf).2.2.1
    case hints => exact fun f hf => (hfunctions f hf).2.2.2
    case globalFiles => exact fun v hv => (hglobals v hv).1
    case globals => exact fun v hv => (hglobals v hv).2
    case chains => exact fun ht hr => (strip_ok_iff nodes ⟨_, ht⟩).1 (hchains _ _ ht hr)

theorem accept_ok : raw.accept = .ok d ↔
    raw.Closed ∧ d = { raw with types := raw.types.mapValues raw.rooted } := by
  unfold accept
  rw [then_ok, closed_iff, resolveRoots_ok, and_assoc]

theorem rootedFrom_of_accept (h : raw.accept = .ok d) : d.RootedFrom raw := by
  obtain ⟨hclosed, rfl⟩ := accept_ok.1 h
  obtain ⟨-, hchains⟩ := closed_iff.1 hclosed
  refine ⟨rfl, rfl, rfl, fun id => ?_⟩
  show Option.Rel (raw.Fills id) _ ((raw.types.mapValues raw.rooted).get? id)
  rw [Dict.get?_mapValues]
  cases hn : raw.types.get? id with
  | none => exact .none
  | some node => exact .some (fills_rooted fun t ht hr => hchains id t (ht ▸ hn) hr)

theorem read_of_decoded {text : String} (h : (Json.read? text).bind Document.ofJson? = some raw) :
    Document.read text = raw.accept := by
  unfold Document.read
  rw [h]

/-- A text that decodes to a document is accepted exactly when the document is closed, and what is
loaded is the document with the roots that it leaves out. -/
theorem loaded_iff_closed {text : String} (h : (Json.read? text).bind Document.ofJson? = some raw) :
    ((∃ d, Document.read text = .ok d) ↔ raw.Closed) ∧
      ∀ d, Document.read text = .ok d → d.RootedFrom raw := by
  rw [read_of_decoded h]
  refine ⟨⟨fun hd => ?_, fun hclosed => ?_⟩, fun d hd => rootedFrom_of_accept hd⟩
  · obtain ⟨d, hd⟩ := hd
    exact (accept_ok.1 hd).1
  · exact ⟨_, accept_ok.2 ⟨hclosed, rfl⟩⟩

/-- A function that returns a typedef of a qualified number, the root of which is left out, and a
node of an unknown kind. -/
def tallyJson : Json :=
  .object [
    ("types", .object [
      ("t", .object [("kind", .text "typedef"), ("name", .text "tally_t"), ("base", .text "q")]),
      ("q", .object [("kind", .text "cv_qualified"), ("base", .text "i")]),
      ("i", .object [("kind", .text "fundamental"), ("name", .text "int"), ("size", .whole 4)]),
      ("v", .object [("kind", .text "vector"), ("lanes", .whole 8)])]),
    ("functions", .list [.object [("id", .text "f"), ("name", .text "tally"), ("returns", .text "t")]])]

def tally : Document where
  types := Dict.ofList [
    ("t", .typedef { name := "tally_t", file := "", base := "q", root := none, size := 0 }),
    ("q", .qualified "i"), ("i", .fundamental "int" 4), ("v", .unsupported)]
  functions := [
    { id := "f", name := "tally", file := "", returns := "t", arguments := [], variadic := false
      callback := none }]

theorem tally_decoded : (Json.read? tallyJson.compact).bind Document.ofJson? = some tally := by
  have hplain : Json.Plain 3 tallyJson := by simp [tallyJson]
  rw [hplain.read_compact]
  rfl

theorem tally_read : ∃ d, Document.read tallyJson.compact = .ok d := by
  obtain ⟨d, hd, -⟩ := ok_of_any (x := tally.accept) (f := fun _ => true) (by decide +kernel)
  exact ⟨d, (read_of_decoded tally_decoded).trans hd⟩

theorem tally_closed : tally.Closed ∧ ∃ d, Document.read tallyJson.compact = .ok d ∧ d.RootedFrom tally := by
  obtain ⟨hclosed, hrooted⟩ := loaded_iff_closed tally_decoded
  obtain ⟨d, hd⟩ := tally_read
  exact ⟨hclosed.1 tally_read, d, hd, hrooted d hd⟩

end Document

end Bindery.Native
