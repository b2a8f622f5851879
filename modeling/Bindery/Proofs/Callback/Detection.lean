import Bindery.Proofs.Callback.Pairs
import Bindery.Proofs.Lowering.Depth
import Bindery.Proofs.Native.Pointers
import Mathlib.Order.Nat

/-!
# Detection of callback sites

In a document in which typedefs and qualifiers form no circle, the callback site of a function without
a hint is the first pair of neighbouring arguments that fit, and the search for it comes to no fault.
The building of a trampoline for such a site finds the place for the user data where the search has.
-/

namespace Bindery

open Native (Identity Document DocumentError)
open Native.Document (bind_ok lift_ok)

theorem Native.Document.Acyclic.acyclicChains {d : Document} (h : d.Acyclic) : d.AcyclicChains := by
  intro id hid
  refine h id (Relation.TransGen.mono (fun a b hs => ?_) _ _ hid)
  obtain ⟨node, hn, hi⟩ := hs
  cases node with
  | typedef | qualified => exact ⟨_, hn, hi⟩
  | _ => cases hi

/-! ## Least places -/

section
variable {s : Set Nat} {i : Nat}

theorem isLeast_iff_of_zero_mem (h : 0 ∈ s) : IsLeast s i ↔ i = 0 := by
  have hleast : IsLeast s 0 := ⟨h, fun _ _ => Nat.zero_le _⟩
  constructor
  · intro hi
    exact hi.unique hleast
  · rintro rfl
    exact hleast

theorem isLeast_iff_of_zero_notMem (h : 0 ∉ s) :
    IsLeast s i ↔ ∃ j, i = j + 1 ∧ IsLeast {j | j + 1 ∈ s} j := by
  constructor
  · intro hi
    cases i with
    | zero => exact absurd hi.1 h
    | succ j => exact ⟨j, rfl, hi.1, fun k hk => Nat.le_of_succ_le_succ (hi.2 hk)⟩
  · intro hi
    obtain ⟨j, rfl, hj⟩ := hi
    refine ⟨hj.1, fun k hk => ?_⟩
    cases k with
    | zero => exact absurd hk h
    | succ k => exact Nat.succ_le_succ (hj.2 hk)

theorem exists_isLeast (h : i ∈ s) : ∃ j, IsLeast s j := by
  classical
  exact ⟨_, Nat.isLeast_find ⟨i, h⟩⟩

end

namespace CallbackSite

variable (d : Document)

/-! ## Pairs of arguments -/

def voidPointersAt (as : List Native.Argument) : Set Nat :=
  {j | ∃ a, as[j]? = some a ∧ d.VoidPointer a.type}

/-- Whether one argument is a pointer to a function type that has an untyped pointer, and the other is an
untyped pointer. -/
def IsPair (a b : Native.Argument) : Prop :=
  (∃ functionType g, d.FunctionPointer a.type functionType g ∧ ∃ x ∈ g.arguments, d.VoidPointer x.type) ∧
    d.VoidPointer b.type

def pairsAt (as : List Native.Argument) : Set Nat :=
  {i | ∃ a b, as[i]? = some a ∧ as[i + 1]? = some b ∧ IsPair d a b}

structure Calls (site : CallbackSite) (a : Native.Argument) : Prop where
  slot : ∃ g, d.FunctionPointer a.type site.functionType g ∧
    IsLeast (voidPointersAt d g.arguments) site.callbackDataIndex
  typedefName : d.OutermostTypedef a.type site.typedefName

structure Leftmost (f : Native.Function) (site : CallbackSite) : Prop where
  argIndex : IsLeast (pairsAt d f.arguments) site.argIndex
  dataIndex : site.dataIndex = site.argIndex + 1
  callback : ∃ a, f.arguments[site.argIndex]? = some a ∧ Calls d site a

/-- Whether a site is that of two arguments of which the first has the given index. -/
structure Joins (site : CallbackSite) (index : Nat) (a b : Native.Argument) : Prop where
  argIndex : site.argIndex = index
  dataIndex : site.dataIndex = index + 1
  callback : Calls d site a
  userData : d.VoidPointer b.type

variable {d} {site site' : CallbackSite} {index i : Nat} {a b : Native.Argument} {as : List Native.Argument}

theorem Calls.unique (h : Calls d site a) (h' : Calls d site' a) :
    site.functionType = site'.functionType ∧ site.callbackDataIndex = site'.callbackDataIndex ∧
      site.typedefName = site'.typedefName := by
  obtain ⟨g, hg, hslot⟩ := h.slot
  obtain ⟨g', hg', hslot'⟩ := h'.slot
  obtain ⟨hfunction, rfl⟩ := hg.unique hg'
  exact ⟨hfunction, hslot.unique hslot', h.typedefName.unique h'.typedefName⟩

theorem Joins.unique (h : Joins d site index a b) (h' : Joins d site' index a b) : site = site' := by
  obtain ⟨hfunction, hslot, hname⟩ := h.callback.unique h'.callback
  have harg := h.argIndex.trans h'.argIndex.symm
  have hdata := h.dataIndex.trans h'.dataIndex.symm
  cases site
  cases site'
  simp_all

theorem Joins.isPair (h : Joins d site index a b) : IsPair d a b := by
  obtain ⟨g, hg, hslot⟩ := h.callback.slot
  obtain ⟨x, hx, hvoid⟩ := hslot.1
  exact ⟨⟨_, g, hg, x, List.mem_of_getElem? hx, hvoid⟩, h.userData⟩

theorem zero_mem_voidPointersAt : 0 ∈ voidPointersAt d (a :: as) ↔ d.VoidPointer a.type := by
  simp [voidPointersAt]

theorem zero_mem_pairsAt : 0 ∈ pairsAt d (a :: b :: as) ↔ IsPair d a b := by
  simp [pairsAt]

/-! ## The search -/

section
variable (hclosed : d.Closed) (hchains : d.AcyclicChains)
include hclosed hchains

theorem exists_firstVoidPointer (h : ∀ a ∈ as, d.HasType a.type) (index : Nat) :
    ∃ found, firstVoidPointer? d index as = .ok found ∧
      ∀ slot, found = some slot ↔ ∃ j, slot = index + j ∧ IsLeast (voidPointersAt d as) j := by
  induction as generalizing index with
  | nil =>
    refine ⟨none, rfl, fun slot => ⟨nofun, fun h => ?_⟩⟩
    obtain ⟨j, -, ⟨a, ha, -⟩, -⟩ := h
    cases ha
  | cons a as ih =>
    rw [List.forall_mem_cons] at h
    obtain ⟨isPointer, hask, hiff⟩ := Native.Document.exists_isVoidPointer hclosed hchains h.1
    cases isPointer with
    | true =>
      have hzero : 0 ∈ voidPointersAt d (a :: as) := zero_mem_voidPointersAt.2 (hiff.1 rfl)
      refine ⟨some index, by rw [firstVoidPointer?, hask]; rfl, fun slot => ?_⟩
      simp [isLeast_iff_of_zero_mem hzero, eq_comm]
    | false =>
      have hzero : 0 ∉ voidPointersAt d (a :: as) := fun h => by
        cases hiff.2 (zero_mem_voidPointersAt.1 h)
      obtain ⟨found, hfound, hrest⟩ := ih h.2 (index + 1)
      refine ⟨found, by rw [firstVoidPointer?, hask]; exact hfound, fun slot => ?_⟩
      rw [hrest slot]
      constructor
      · intro h
        obtain ⟨j, rfl, hj⟩ := h
        exact ⟨j + 1, by omega, (isLeast_iff_of_zero_notMem hzero).2 ⟨j, rfl, hj⟩⟩
      · intro h
        obtain ⟨_, rfl, hi⟩ := h
        obtain ⟨j, rfl, hj⟩ := (isLeast_iff_of_zero_notMem hzero).1 hi
        exact ⟨j, by omega, hj⟩

theorem exists_ofPair (ha : d.HasType a.type) (hb : d.HasType b.type) (index : Nat) :
    ∃ found, ofPair? d index a b = .ok found ∧ ∀ site, found = some site ↔ Joins d site index a b := by
  obtain ⟨callback, hcallback, hcallbacks⟩ := Native.Document.exists_functionPointer hclosed hchains ha
  obtain ⟨isPointer, hask, hiff⟩ := Native.Document.exists_isVoidPointer hclosed hchains hb
  have hcall (site : CallbackSite) (h : Joins d site index a b) :
      callback = some (site.functionType, site.typedefName) := by
    obtain ⟨g, hg, -⟩ := h.callback.slot
    exact (hcallbacks _ _).2 ⟨⟨g, hg⟩, h.callback.typedefName⟩
  rw [ofPair?, hcallback]
  cases callback with
  | none =>
    refine ⟨none, rfl, fun site => ⟨nofun, fun h => ?_⟩⟩
    cases hcall site h
  | some found =>
    obtain ⟨functionType, typedefName⟩ := found
    obtain ⟨⟨g, hg⟩, hname⟩ := (hcallbacks _ _).1 rfl
    simp only [bind, Except.bind, hask]
    cases isPointer with
    | false =>
      refine ⟨none, rfl, fun site => ⟨nofun, fun h => ?_⟩⟩
      cases hiff.2 h.userData
    | true =>
      obtain ⟨slot, hslot, hslots⟩ := exists_firstVoidPointer hclosed hchains
        (fun x hx => hclosed.nodes hg.get? (.parameter hx)) 0
      simp only [Nat.zero_add, exists_eq_left'] at hslots
      have joins (j : Nat) (hj : slot = some j) :
          Joins d ⟨index, index + 1, j, functionType, typedefName⟩ index a b :=
        ⟨rfl, rfl, ⟨⟨g, hg, (hslots j).1 hj⟩, hname⟩, hiff.1 rfl⟩
      simp only [Native.Document.functionType_ok.2 hg.get?, hslot]
      refine ⟨_, rfl, fun site => ⟨fun h => ?_, fun h => ?_⟩⟩
      · obtain ⟨j, hj, rfl⟩ := Option.map_eq_some_iff.1 h
        exact joins j hj
      · obtain ⟨g', hg', hleast⟩ := h.callback.slot
        cases hcall site h
        obtain ⟨-, rfl⟩ := hg.unique hg'
        have hj := (hslots _).2 hleast
        rw [hj, Option.map_some, (joins _ hj).unique h]

theorem exists_joins (ha : d.HasType a.type) (h : IsPair d a b) (index : Nat) :
    ∃ site, Joins d site index a b := by
  obtain ⟨⟨functionType, g, hg, x, hx, hvoid⟩, hb⟩ := h
  obtain ⟨i, hi⟩ := List.getElem?_of_mem hx
  have hmem : i ∈ voidPointersAt d g.arguments := ⟨x, hi, hvoid⟩
  obtain ⟨j, hj⟩ := exists_isLeast hmem
  obtain ⟨name, hname⟩ := Native.Document.exists_outermostTypedef hclosed hchains ha
  exact ⟨⟨index, index + 1, j, functionType, name⟩, rfl, rfl, ⟨⟨g, hg, hj⟩, hname⟩, hb⟩

theorem exists_firstPair (h : ∀ a ∈ as, d.HasType a.type) (index : Nat) :
    ∃ found, firstPair? d index as = .ok found ∧ ∀ site, found = some site ↔
      ∃ i a b, IsLeast (pairsAt d as) i ∧ as[i]? = some a ∧ as[i + 1]? = some b ∧
        Joins d site (index + i) a b := by
  induction as generalizing index with
  | nil =>
    refine ⟨none, rfl, fun site => ⟨nofun, fun h => ?_⟩⟩
    obtain ⟨_, _, _, -, ha, -⟩ := h
    cases ha
  | cons a as ih =>
    cases as with
    | nil =>
      refine ⟨none, rfl, fun site => ⟨nofun, fun h => ?_⟩⟩
      obtain ⟨_, _, _, -, -, hb, -⟩ := h
      cases hb
    | cons b rest =>
      obtain ⟨ha, hrest⟩ := List.forall_mem_cons.1 h
      have hb := (List.forall_mem_cons.1 hrest).1
      obtain ⟨found, hfound, hjoins⟩ := exists_ofPair hclosed hchains ha hb index
      rw [firstPair?, hfound]
      cases found with
      | some site =>
        have hsite := (hjoins site).1 rfl
        have hzero : 0 ∈ pairsAt d (a :: b :: rest) := zero_mem_pairsAt.2 hsite.isPair
        refine ⟨some site, rfl, fun site' => ?_⟩
        simp [isLeast_iff_of_zero_mem hzero, hjoins]
      | none =>
        have hzero : 0 ∉ pairsAt d (a :: b :: rest) := by
          intro h
          obtain ⟨site, hsite⟩ := exists_joins hclosed hchains ha (zero_mem_pairsAt.1 h) index
          cases (hjoins site).2 hsite
        -- a pair of the rest is one place further on in the whole list
        obtain ⟨found, hfound, hfirst⟩ := ih hrest (index + 1)
        refine ⟨found, hfound, fun site => ?_⟩
        rw [hfirst site]
        constructor
        · intro h
          obtain ⟨i, x, y, hi, hx, hy, hsite⟩ := h
          rw [Nat.add_right_comm] at hsite
          exact ⟨i + 1, x, y, (isLeast_iff_of_zero_notMem hzero).2 ⟨i, rfl, hi⟩, hx, hy, hsite⟩
        · intro h
          obtain ⟨_, x, y, hfirst, hx, hy, hsite⟩ := h
          obtain ⟨i, rfl, hi⟩ := (isLeast_iff_of_zero_notMem hzero).1 hfirst
          rw [← Nat.add_assoc, Nat.add_right_comm] at hsite
          exact ⟨i, x, y, hi, hx, hy, hsite⟩

end

theorem leftmost_iff {f : Native.Function} : Leftmost d f site ↔ ∃ i a b, IsLeast (pairsAt d f.arguments) i ∧
    f.arguments[i]? = some a ∧ f.arguments[i + 1]? = some b ∧ Joins d site i a b := by
  constructor
  · intro h
    obtain ⟨a, ha, hcallback⟩ := h.callback
    obtain ⟨⟨_, b, -, hb, hpair⟩, hfirst⟩ := h.argIndex
    exact ⟨_, a, b, h.argIndex, ha, hb, rfl, h.dataIndex, hcallback, hpair.2⟩
  · intro h
    obtain ⟨_, a, b, hi, ha, -, hsite⟩ := h
    obtain rfl := hsite.argIndex
    exact ⟨hi, hsite.dataIndex, a, ha, hsite.callback⟩

end CallbackSite

namespace LoweringContext

variable {c : LoweringContext}

/-! ## Trampolines -/

inductive BadCallback : BindingError → Prop
  | mk (function : String) (why : CallbackFault) : BadCallback (.invalidCallback function why)

theorem BadCallback.foreign : Foreign BadCallback := ⟨nofun, nofun, nofun⟩

theorem callback_lowerWithin (depth : Nat) (id : Identity) (s : Bool) :
    Lowering.Never BadCallback (c.lowerWithin depth id s) := by
  induction depth generalizing id s with
  | zero => exact .throw nofun
  | succ depth ih => exact BadCallback.foreign.lowerWithin (fun _ next _ _ => ih next) s

theorem callback_declare (id : Identity) : Lowering.Never BadCallback (c.declare id) :=
  callback_lowerWithin _ id true

theorem callback_value (id : Identity) (place : String) : Lowering.Never BadCallback (c.value id place) :=
  (callback_declare id).bind fun _ => .lift fun _ he => BadCallback.foreign.requireValue he

theorem callback_lowerPlain (id : Identity) : Lowering.Never BadCallback (c.lowerPlain id) := by
  refine .ask_bind nofun fun node _ => ?_
  split
  · exact (callback_declare id).bind fun _ => Lowering.Never.get.bind fun _ => .pure _
  · exact callback_declare id

theorem callback_lowerTarget (pointee : Identity) (kind : Native.PointerKind) :
    Lowering.Never BadCallback (c.lowerTarget pointee kind) := by
  refine (callback_declare pointee).bind fun target => ?_
  split
  · exact .pure _
  · cases kind <;> exact .pure _

theorem callback_lowerNested (id pointee : Identity) : Lowering.Never BadCallback (c.lowerNested id pointee) := by
  refine .ask_bind nofun fun (_, target) _ => ?_
  cases target <;> exact (callback_value _ _).bind fun _ => .pure _

theorem callback_resolve (id : Identity) (kind : Native.PointerKind) :
    Lowering.Never BadCallback (c.resolve id kind) := by
  unfold resolve
  split
  · exact callback_lowerPlain id
  refine .ask_bind nofun fun (_, node) _ => ?_
  cases node with
  | pointer pointee size =>
    cases kind with
    | string | stringArray => exact .pure _
    | typedef => exact callback_declare id
    | arrayArray => exact callback_lowerNested id pointee
    | _ => exact callback_lowerTarget pointee _
  | _ => exact callback_declare id

theorem callback_resolveReturn (id : Identity) : Lowering.Never BadCallback (c.resolveReturn id) := by
  refine .ask_bind nofun fun isVoid _ => ?_
  split
  · exact .pure _
  refine .ask_bind nofun fun isCString _ => ?_
  split
  · exact .pure _
  · exact (callback_resolve id .unset).bind fun _ => .pure _

theorem callback_lowerArguments (owner : String) (as : List Native.Argument) :
    Lowering.Never BadCallback (c.lowerArguments owner as) := by
  refine Lowering.Never.bind (.mapM fun (a, index) _ => ?_) fun _ => .pure _
  refine (callback_resolve a.type a.kind).bind fun type => ?_
  dsimp only
  split
  · exact .throw nofun
  · exact .pure _

/-- A callback that takes the user data back is never called invalid. -/
theorem callback_buildTrampoline {site : CallbackSite} (h : site.HandsBack c.document) (name : String) :
    Lowering.Never BadCallback (c.buildTrampoline site name) := by
  obtain ⟨g, a, hg, ha, hvoid⟩ := h
  refine .ask_bind nofun fun f hf => ?_
  obtain rfl := Except.ok.inj (hg.symm.trans hf)
  have hslot : c.hasSlot g.arguments site.callbackDataIndex = .ok true := hasSlot_ok_iff.2 ⟨a, ha, hvoid⟩
  refine .lift_bind (fun e he => by cases hslot.symm.trans he) fun fits hfits => ?_
  obtain rfl := Except.ok.inj (hslot.symm.trans hfits)
  refine (callback_lowerArguments _ _).bind fun (parameters, arguments) => ?_
  exact (callback_resolveReturn _).bind fun _ => .ask_bind nofun fun _ _ => .pure _

end LoweringContext

namespace CallbackSite

/-! ## The first pair -/

/-- The search in a loaded document comes to no fault, and finds the first pair with the first untyped pointer
of the callback, for which the building of a trampoline finds no fault with the callback either. -/
theorem detect_leftmost {text : String} {d : Document} (hread : Document.read text = .ok d)
    (hchains : d.AcyclicChains) {f : Native.Function} (hf : f ∈ d.functions) (hhint : f.callback = none) :
    ∃ found, detect d f = .ok found ∧ ((∃ site, found = some site) ↔ ∃ i, i ∈ pairsAt d f.arguments) ∧
      (∀ site, found = some site ↔ Leftmost d f site) ∧
      ∀ site, found = some site → ∀ rules name r function why,
        (LoweringContext.buildTrampoline ⟨d, rules⟩ site name).run r ≠ .error (.invalidCallback function why) := by
  have hclosed := Native.Document.closed_of_read hread
  have htypes := hclosed.arguments f hf
  obtain ⟨found, hfound, hfirst⟩ := exists_firstPair hclosed hchains htypes 0
  have hdetect : detect d f = .ok found := by
    unfold detect
    rw [hhint]
    exact lift_ok.2 hfound
  have hleftmost (site : CallbackSite) : found = some site ↔ Leftmost d f site := by
    rw [leftmost_iff, hfirst]
    simp only [Nat.zero_add]
  refine ⟨found, hdetect, ⟨fun h => ?_, fun h => ?_⟩, hleftmost, ?_⟩
  · obtain ⟨site, hsite⟩ := h
    exact ⟨_, ((hleftmost site).1 hsite).argIndex.1⟩
  · obtain ⟨_, h⟩ := h
    obtain ⟨i, hi⟩ := exists_isLeast h
    obtain ⟨a, b, ha, hb, hpair⟩ := hi.1
    obtain ⟨site, hsite⟩ := exists_joins hclosed hchains (htypes a (List.mem_of_getElem? ha)) hpair i
    exact ⟨site, (hleftmost site).2 (leftmost_iff.2 ⟨i, a, b, hi, ha, hb, hsite⟩)⟩
  · intro site hsite rules name r function why hbad
    have hslot := (detect_genuine hhint (hsite ▸ hdetect)).slot
    exact LoweringContext.callback_buildTrampoline hslot name r _ hbad (.mk function why)

/-- A function with two candidates for a pair, of which the first takes no user data back. -/
def treeJson : Json :=
  .object [
    ("types", .object [
      ("i", .object [("kind", .text "fundamental"), ("name", .text "int"), ("size", .whole 4)]),
      ("v", .object [("kind", .text "fundamental"), ("name", .text "void")]),
      ("vp", .object [("kind", .text "pointer"), ("pointee", .text "v"), ("size", .whole 8)]),
      ("less", .object [("kind", .text "function_type"), ("returns", .text "i"),
        ("arguments", .list [.object [("type", .text "i")]])]),
      ("lessp", .object [("kind", .text "pointer"), ("pointee", .text "less"), ("size", .whole 8)]),
      ("visit", .object [("kind", .text "function_type"), ("returns", .text "v"),
        ("arguments", .list [.object [("type", .text "i")], .object [("type", .text "vp")]])]),
      ("visitp", .object [("kind", .text "pointer"), ("pointee", .text "visit"), ("size", .whole 8)]),
      ("visit_t", .object [("kind", .text "typedef"), ("name", .text "visit_t"), ("base", .text "visitp"),
        ("root", .text "visitp")]),
      ("const", .object [("kind", .text "cv_qualified"), ("base", .text "visit_t")])]),
    ("functions", .list [.object [("id", .text "f"), ("name", .text "each"), ("returns", .text "v"),
      ("arguments", .list [.object [("type", .text "lessp")], .object [("type", .text "vp")],
        .object [("type", .text "const")], .object [("type", .text "vp")]])]])]

def each : Native.Function where
  id := "f"
  name := "each"
  file := ""
  returns := "v"
  arguments := [⟨"", "lessp", .unset⟩, ⟨"", "vp", .unset⟩, ⟨"", "const", .unset⟩, ⟨"", "vp", .unset⟩]
  variadic := false
  callback := none

def tree : Document where
  types := Dict.ofList [
    ("i", .fundamental "int" 4), ("v", .fundamental "void" 0), ("vp", .pointer "v" 8),
    ("less", .function { returns := "i", arguments := [⟨"", "i", .unset⟩] }), ("lessp", .pointer "less" 8),
    ("visit", .function { returns := "v", arguments := [⟨"", "i", .unset⟩, ⟨"", "vp", .unset⟩] }),
    ("visitp", .pointer "visit" 8),
    ("visit_t", .typedef { name := "visit_t", file := "", base := "visitp", root := some "visitp", size := 0 }),
    ("const", .qualified "visit_t")]
  functions := [each]

theorem tree_read : Document.read treeJson.compact = .ok tree := by
  have hplain : Json.Plain 7 treeJson := by simp [treeJson]
  have hdecoded : (Json.read? treeJson.compact).bind Document.ofJson? = some tree := by
    rw [hplain.read_compact]
    rfl
  exact (Native.Document.read_of_decoded hdecoded).trans rfl

theorem tree_acyclicChains : tree.AcyclicChains :=
  Native.Document.Acyclic.acyclicChains <| Native.Document.acyclic_of_rank
    (fun id => if id = "const" then 3 else if id = "visit_t" then 2 else
      if id = "vp" ∨ id = "lessp" ∨ id = "visitp" then 1 else 0) (by decide)

def visitSite : CallbackSite where
  argIndex := 2
  dataIndex := 3
  callbackDataIndex := 1
  functionType := "visit"
  typedefName := some "visit_t"

theorem tree_leftmost : Document.read treeJson.compact = .ok tree ∧ tree.AcyclicChains ∧ each ∈ tree.functions ∧
    each.callback = none ∧ detect tree each = .ok (some visitSite) ∧ Leftmost tree each visitSite ∧
    ∀ rules name r function why, (LoweringContext.buildTrampoline ⟨tree, rules⟩ visitSite name).run r ≠
      .error (.invalidCallback function why) := by
  have hdetect : detect tree each = .ok (some visitSite) := by decide +kernel
  obtain ⟨found, hfound, -, hleftmost, hbuilds⟩ :=
    detect_leftmost tree_read tree_acyclicChains List.mem_cons_self rfl
  obtain rfl := Except.ok.inj (hdetect.symm.trans hfound)
  exact ⟨tree_read, tree_acyclicChains, List.mem_cons_self, rfl, hdetect, (hleftmost _).1 rfl, hbuilds _ rfl⟩

end CallbackSite

end Bindery
