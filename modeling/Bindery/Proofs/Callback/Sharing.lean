import Bindery.Proofs.Callback.Spelling
import Bindery.Proofs.Callback.Trampoline
import Mathlib.Data.List.InsertIdx

/-!
# Shared trampolines

Callbacks with one signature key share the trampoline that is built for the first of them. That is
sound for two callbacks whose types are alike, place by place, or names behind pointers and
qualifiers. It is not sound for all others: a pointer to a function is spelled like an untyped pointer.
-/

namespace Bindery

open Native (Identity Document TypeNode)

open Native.Document (SpelledOut)

/-- What holds of two computations that run side by side, step by step, holds of two lists of them. -/
theorem Lowering.run_mapM_along {α α' β β' : Type} {I : Registry → Prop} {P : α → α' → Prop}
    {Q : β → β' → Prop} {f : α → Lowering β} {g : α' → Lowering β'}
    (hstep : ∀ {a a' r r' b r₁}, P a a' → I r → I r' → (f a).run r = .ok (b, r₁) →
      I r₁ ∧ ∃ b' r₁', (g a').run r' = .ok (b', r₁') ∧ I r₁' ∧ Q b b')
    {l : List α} {l' : List α'} (h : List.Forall₂ P l l') {r r' r₁ : Registry} {bs : List β}
    (hI : I r) (hI' : I r') (hrun : (l.mapM f).run r = .ok (bs, r₁)) :
    I r₁ ∧ ∃ bs' r₁', (l'.mapM g).run r' = .ok (bs', r₁') ∧ I r₁' ∧ List.Forall₂ Q bs bs' := by
  induction h generalizing r r' bs with
  | nil =>
    obtain ⟨rfl, rfl⟩ := run_pure_ok.1 hrun
    exact ⟨hI, [], r', run_pure_ok.2 ⟨rfl, rfl⟩, hI', .nil⟩
  | cons hP _ ih =>
    rw [List.mapM_cons] at hrun
    obtain ⟨b, r₂, hb, hrun⟩ := run_bind_ok.1 hrun
    obtain ⟨bs, r₃, hbs, hrun⟩ := run_bind_ok.1 hrun
    obtain ⟨rfl, rfl⟩ := run_pure_ok.1 hrun
    obtain ⟨hI₂, b', r₂', hb', hI₂', hQ⟩ := hstep hP hI hI' hb
    obtain ⟨hI₃, bs', r₃', hbs', hI₃', hQs⟩ := ih hI₂ hI₂' hbs
    refine ⟨hI₃, b' :: bs', r₃', ?_, hI₃', .cons hQ hQs⟩
    rw [List.mapM_cons]
    exact run_bind_ok.2 ⟨b', r₂', hb', run_bind_ok.2 ⟨bs', r₃', hbs', run_pure_ok.2 ⟨rfl, rfl⟩⟩⟩

/-! ## Parameters without their names -/

def Parameter.outline (p : Parameter) : Descriptor × Bool := (p.type, p.isOutput)

section
variable {ps qs : List Parameter} {result result' : Option Parameter}

theorem callbackSignature_congr (slot : Nat) (h : ps.map Parameter.outline = qs.map Parameter.outline)
    (hresult : result.map (·.type) = result'.map (·.type)) :
    callbackSignature ps slot result = callbackSignature qs slot result' := by
  have rest (ps : List Parameter) (select : Bool → Bool) :
      ((withoutSlot ps slot).filter fun p => select p.isOutput).map (·.type) =
        (((ps.map Parameter.outline).eraseIdx slot).filter fun o => select o.2).map (·.1) := by
    rw [List.eraseIdx_map, List.filter_map, List.map_map]
    rfl
  have hrest (select : Bool → Bool) : ((withoutSlot ps slot).filter fun p => select p.isOutput).map (·.type) =
      ((withoutSlot qs slot).filter fun p => select p.isOutput).map (·.type) := by
    rw [rest, rest, h]
  have hinputs := hrest not
  have houtputs := hrest id
  simp only [id] at houtputs
  have hreturned : result.toList.map (·.type) = result'.toList.map (·.type) := by
    rw [← Option.toList_map, ← Option.toList_map, hresult]
  simp only [callbackSignature, List.map_append, hinputs, houtputs, hreturned]

theorem resultParameter_type (type : Option Descriptor) (ps : List Parameter) :
    (resultParameter type ps).map (·.type) = type := by
  cases type <;> rfl

end

/-! ## Trampolines for alike callbacks -/

namespace Trampoline

structure Agrees (t t' : Trampoline) : Prop where
  parameters : t.parameters.map Parameter.outline = t'.parameters.map Parameter.outline
  arguments : t.arguments.map (·.type) = t'.arguments.map (·.type)
  result : t.result.map (·.type) = t'.result.map (·.type)
  dataIndex : t.dataIndex = t'.dataIndex
  signature : t.signature = t'.signature

theorem agrees_ofParameters {site site' : CallbackSite} {name name' key key' : String}
    {ps qs : List Parameter} {returned : Option Descriptor}
    (hslot : site.callbackDataIndex = site'.callbackDataIndex)
    (h : ps.map Parameter.outline = qs.map Parameter.outline) (hlt : site.callbackDataIndex < ps.length) :
    (ofParameters site name key ps returned).Agrees (ofParameters site' name' key' qs returned) := by
  have hlength : ps.length = qs.length := by simpa using congrArg List.length h
  have hresult : (resultParameter returned ps).map (·.type) = (resultParameter returned qs).map (·.type) := by
    rw [resultParameter_type, resultParameter_type]
  have hcallable := callbackSignature_congr site.callbackDataIndex h hresult
  have hparameters : (ofParameters site name key ps returned).parameters.map Parameter.outline =
      (ofParameters site' name' key' qs returned).parameters.map Parameter.outline := by
    show (ps.modify _ _).map _ = (qs.modify _ _).map _
    rw [map_modify (k := fun _ => (_, false)) fun _ => rfl, map_modify (k := fun _ => (_, false)) fun _ => rfl,
      h, ← hslot, hcallable]
  refine ⟨hparameters, ?_, hresult, hslot, ?_⟩
  · have htypes (t : List Parameter) :
        (t.map Parameter.argument).map (·.type) = (t.map Parameter.outline).map (·.1) := by
      rw [List.map_map, List.map_map]
      rfl
    rw [arguments_ofParameters, arguments_ofParameters, htypes, htypes, hparameters]
  · rw [signature_ofParameters hlt, signature_ofParameters (hslot ▸ hlength ▸ hlt), ← hslot, hcallable]

end Trampoline

namespace LoweringContext

variable {c : LoweringContext} {r r' r₁ : Registry} {a b : Identity}

variable (c) in
structure Replaces (a b : Identity) : Prop where
  alike : c.document.Alike a b
  truth : c.SameTruth a b

variable (c) in
structure ReplacesArgument (a b : Native.Argument) : Prop where
  kind : a.kind = b.kind
  type : c.Replaces a.type b.type

theorem Replaces.refl (a : Identity) : c.Replaces a a :=
  ⟨.same a, fun _ _ hn hm => congrArg _ (Option.some.inj (hn.symm.trans hm))⟩

theorem Replaces.symm (h : c.Replaces a b) : c.Replaces b a :=
  ⟨h.alike.symm, fun n m hn hm => (h.truth m n hm hn).symm⟩

theorem ReplacesArgument.symm {a b : Native.Argument} (h : c.ReplacesArgument a b) : c.ReplacesArgument b a :=
  ⟨h.kind.symm, h.type.symm⟩

theorem lowerArgument_along {owner owner' : String} {i j : Nat} {a b : Native.Argument} {p : Parameter}
    {x : CallArgument} (h : c.ReplacesArgument a b) (hc : c.Consistent r) (hc' : c.Consistent r')
    (hr : (c.lowerArgument owner i a).run r = .ok ((p, x), r₁)) :
    c.Consistent r₁ ∧ ∃ q r₁', (c.lowerArgument owner' j b).run r' = .ok (q, r₁') ∧ c.Consistent r₁' ∧
      p.outline = q.1.outline := by
  obtain ⟨-, hout, -, hvoid, hp⟩ := lowerArgument_ok hr
  obtain ⟨hgives, hc₁⟩ := (Transparent.resolve _ _).gives hc hp
  obtain ⟨r₁', hq, hc₁'⟩ := (Gives.resolve h.type.alike h.type.truth hgives).run hc'
  let q : Parameter := ⟨parameterName j b.name, p.type, b.kind == .output⟩
  refine ⟨hc₁, (q, q.argument), r₁', ?_, hc₁', ?_⟩
  · refine Lowering.run_bind_ok.2 ⟨p.type, r₁', h.kind ▸ hq, ?_⟩
    dsimp only
    rw [if_neg (by simp [hvoid])]
    exact Lowering.run_pure_ok.2 ⟨rfl, rfl⟩
  · show (p.type, p.isOutput) = (p.type, b.kind == .output)
    rw [hout, h.kind]

theorem lowerArguments_along {owner owner' : String} {as bs : List Native.Argument} {ps : List Parameter}
    {xs : List CallArgument} (h : List.Forall₂ c.ReplacesArgument as bs) (hc : c.Consistent r)
    (hc' : c.Consistent r') (hr : (c.lowerArguments owner as).run r = .ok ((ps, xs), r₁)) :
    c.Consistent r₁ ∧ ∃ qs ys r₁', (c.lowerArguments owner' bs).run r' = .ok ((qs, ys), r₁') ∧
      c.Consistent r₁' ∧ ps.map Parameter.outline = qs.map Parameter.outline := by
  obtain ⟨pairs, _, hpairs, hr⟩ := Lowering.run_bind_ok.1 hr
  obtain ⟨he, rfl⟩ := Lowering.run_pure_ok.1 hr
  obtain ⟨hc₁, pairs', r₁', hpairs', hc₁', hall⟩ := Lowering.run_mapM_along (I := c.Consistent)
    (P := fun x (y : Native.Argument × Nat) => c.ReplacesArgument x.1 y.1)
    (Q := fun x y => x.1.outline = y.1.outline) (g := fun y => c.lowerArgument owner' y.2 y.1)
    (fun hP hI hI' hp => lowerArgument_along hP hI hI' hp) (forall₂_zipIdx h 0) hc hc' hpairs
  refine ⟨hc₁, pairs'.unzip.1, pairs'.unzip.2, r₁', ?_, hc₁', ?_⟩
  · exact Lowering.run_bind_ok.2 ⟨pairs', r₁', hpairs', Lowering.run_pure_ok.2 ⟨rfl, rfl⟩⟩
  · rw [List.unzip_eq_map] at he ⊢
    cases he
    rw [List.map_map, List.map_map, ← List.forall₂_eq_eq_eq, List.forall₂_map_left_iff,
      List.forall₂_map_right_iff]
    exact hall

theorem hasSlot_along {as bs : List Native.Argument} {slot : Nat} (h : List.Forall₂ c.ReplacesArgument as bs)
    (hslot : c.hasSlot as slot = .ok true) : c.hasSlot bs slot = .ok true := by
  have hlt := hasSlot_ok hslot
  have hlt' : slot < bs.length := h.length_eq ▸ hlt
  unfold hasSlot at hslot ⊢
  rw [List.getElem?_eq_getElem hlt] at hslot
  rw [List.getElem?_eq_getElem hlt']
  have hv := Native.Document.lift_ok.1 hslot
  exact Native.Document.lift_ok.2 ((List.Forall₂.get h hlt hlt').type.alike.isVoidPointer hv)

theorem buildTrampoline_along {site site' : CallbackSite} {name : String} {f g : Native.FunctionType}
    {t : Trampoline} (hf : c.document.functionType site.functionType = .ok f)
    (hg : c.document.functionType site'.functionType = .ok g)
    (hslot : site.callbackDataIndex = site'.callbackDataIndex)
    (hargs : List.Forall₂ c.ReplacesArgument f.arguments g.arguments)
    (hreturns : c.Replaces f.returns g.returns) (hkey : ∃ key, site'.signatureKey c.document = .ok key)
    (hc : c.Consistent r) (hc' : c.Consistent r') (h : (c.buildTrampoline site name).run r = .ok (t, r₁)) :
    ∃ t' r₁', (c.buildTrampoline site' name).run r' = .ok (t', r₁') ∧ t.Agrees t' := by
  obtain ⟨f', ps, xs, r₂, returned, key, hf', hfits, hps, hreturned, -, rfl⟩ := buildTrampoline_ok.1 h
  obtain rfl := Except.ok.inj (hf.symm.trans hf')
  obtain ⟨key', hkey'⟩ := hkey
  obtain ⟨hc₂, qs, ys, r₂', hqs, hc₂', houtline⟩ := lowerArguments_along hargs hc hc' hps
  -- the two registries need not be the same by now, but the result does not depend on them
  obtain ⟨hgives, -⟩ := (Transparent.resolveReturn _).gives hc₂ hreturned
  obtain ⟨r₁', hreturned', -⟩ := (Gives.resolveReturn hreturns.alike hreturns.truth hgives).run hc₂'
  have hfits' := hasSlot_along hargs (hslot ▸ hfits)
  have hbuilt : (c.buildTrampoline site' name).run r' = .ok (_, r₁') :=
    buildTrampoline_ok.2 ⟨g, qs, ys, r₂', returned, key', hg, hfits', hqs, hreturned', hkey', rfl⟩
  refine ⟨_, r₁', hbuilt, ?_⟩
  have hseen (ps : List Parameter) : (ps.map Parameter.fromCallback).map Parameter.outline =
      (ps.map Parameter.outline).map fun o => (o.1.fromCallback, o.2) := by
    rw [List.map_map, List.map_map]
    rfl
  refine Trampoline.agrees_ofParameters hslot (by rw [hseen, hseen, houtline]) ?_
  rw [List.length_map, (lowerArguments_ok hps).2]
  exact hasSlot_ok hfits

/-! ## What a key tells of a type -/

variable (c) in
/-- Whether a type is a name behind pointers and qualifiers. No qualifier hides that it is a truth type. -/
structure SpelledPlainly (id : Identity) : Prop where
  spelled : ∃ core stars, c.document.SpelledOut id core stars
  truth : ∀ base core node, c.document.types.get? id = some (.qualified base) →
    c.document.SpelledOut id core 0 → c.document.types.get? core = some node → c.isTruthType node = false

variable (c) in
/-- Whether one spelling of two types leaves no doubt: they are alike anyway, such as a type and
itself, or both are a name behind pointers and qualifiers. -/
def Told (a b : Identity) : Prop := c.Replaces a b ∨ c.SpelledPlainly a ∧ c.SpelledPlainly b

theorem SpelledPlainly.isTruthType (h : c.SpelledPlainly a) {core : Identity} {stars : Nat}
    (hs : c.document.SpelledOut a core stars) {n node : TypeNode} (hn : c.document.types.get? a = some n)
    (hcore : c.document.types.get? core = some node) :
    c.isTruthType n = (stars == 0 && c.isTruthType node) := by
  cases hs with
  | named =>
    obtain rfl := Option.some.inj (hn.symm.trans hcore)
    simp
  | pointer hp =>
    obtain rfl := Option.some.inj (hn.symm.trans hp)
    rfl
  | qualified hq hs =>
    obtain rfl := Option.some.inj (hn.symm.trans hq)
    cases stars with
    | zero => rw [h.truth _ core node hq (.qualified hq hs) hcore]; rfl
    | succ => rfl

theorem Told.replaces (hd : c.document.Legible) (h : c.Told a b) {s : String}
    (ha : c.document.cSpelling a = .ok s) (hb : c.document.cSpelling b = .ok s) : c.Replaces a b := by
  rcases h with h | ⟨hpa, hpb⟩
  · exact h
  · obtain ⟨core, stars, hs⟩ := hpa.spelled
    obtain ⟨core', stars', hs'⟩ := hpb.spelled
    obtain ⟨halike, rfl, hcore⟩ := hd.alike hs hs' ha hb
    refine ⟨halike, fun n m hn hm => ?_⟩
    obtain ⟨node, _, _, hnode, -⟩ := hs.node
    rw [hpa.isTruthType hs hn hnode, hpb.isTruthType hs' hm (hcore ▸ hnode)]

/-- Callbacks with equal keys can share a trampoline if the key tells their types, place by place: a
trampoline can be built for both or for neither, and the two have the same types. -/
theorem shared_trampolines_agree (hd : c.document.Legible) {site site' : CallbackSite} {key : String}
    (hkey : site.signatureKey c.document = .ok key) (hkey' : site'.signatureKey c.document = .ok key)
    {f g : Native.FunctionType} (hf : c.document.functionType site.functionType = .ok f)
    (hg : c.document.functionType site'.functionType = .ok g)
    (hargs : ∀ (i : Nat) (a b : Native.Argument), f.arguments[i]? = some a → g.arguments[i]? = some b →
      c.Told a.type b.type)
    (hreturns : c.Told f.returns g.returns) (hc : c.Consistent r) (name : String) :
    (∃ t t' r₁ r₁', (c.buildTrampoline site name).run r = .ok (t, r₁) ∧
      (c.buildTrampoline site' name).run r = .ok (t', r₁') ∧ t.Agrees t') ∨
    ∃ e e', (c.buildTrampoline site name).run r = .error e ∧
      (c.buildTrampoline site' name).run r = .error e' := by
  obtain ⟨f', g', hf', hg', hslot, hspelled, s, hs, hs'⟩ := CallbackSite.signatureKey_inj hd hkey hkey'
  obtain rfl := Except.ok.inj (hf.symm.trans hf')
  obtain rfl := Except.ok.inj (hg.symm.trans hg')
  have hreplaced := hreturns.replaces hd hs hs'
  have hall : List.Forall₂ c.ReplacesArgument f.arguments g.arguments := by
    refine List.forall₂_iff_get.2 ⟨hspelled.length_eq, fun i hi hi' => ?_⟩
    have hplace := List.Forall₂.get hspelled hi hi'
    obtain ⟨u, hu, hu'⟩ := hplace.spelling
    have htold := hargs i _ _ (List.getElem?_eq_getElem hi) (List.getElem?_eq_getElem hi')
    exact ⟨hplace.kind, htold.replaces hd hu hu'⟩
  have hback : List.Forall₂ c.ReplacesArgument g.arguments f.arguments :=
    (hall.imp fun _ _ h => h.symm).flip
  cases hrun : (c.buildTrampoline site name).run r with
  | ok out =>
    obtain ⟨t', r₁', hrun', hagrees⟩ :=
      buildTrampoline_along hf hg hslot hall hreplaced ⟨key, hkey'⟩ hc hc hrun
    exact .inl ⟨out.1, t', out.2, r₁', rfl, hrun', hagrees⟩
  | error e =>
    cases hrun' : (c.buildTrampoline site' name).run r with
    | ok out =>
      obtain ⟨t, r₁, hrun'', -⟩ :=
        buildTrampoline_along hg hf hslot.symm hback hreplaced.symm ⟨key, hkey⟩ hc hc hrun'
      rw [hrun] at hrun''
      cases hrun''
    | error e' => exact .inr ⟨e, e', rfl, rfl⟩

/-- Callbacks for a number, for a number that stays as it is, for a pointer to a function and for an
untyped pointer. -/
def handlers : LoweringContext where
  rules := {}
  document := {
    files := [⟨"f", "handlers.h"⟩]
    types := Dict.ofList [
      ("v", .fundamental "void" 0),
      ("i", .fundamental "int" 4),
      ("ci", .qualified "i"),
      ("vp", .pointer "v" 8),
      ("ip", .pointer "i" 8),
      ("cip", .pointer "ci" 8),
      ("done", .function { returns := "v", arguments := [⟨"status", "i", .unset⟩] }),
      ("dp", .pointer "done" 8),
      ("read", .function { returns := "v", arguments := [⟨"user", "vp", .unset⟩, ⟨"count", "ip", .unset⟩] }),
      ("peek", .function { returns := "v", arguments := [⟨"data", "vp", .unset⟩, ⟨"n", "cip", .unset⟩] }),
      ("end", .function { returns := "v", arguments := [⟨"user", "vp", .unset⟩, ⟨"done", "dp", .unset⟩] }),
      ("item", .function { returns := "v", arguments := [⟨"user", "vp", .unset⟩, ⟨"item", "vp", .unset⟩] }),
      ("readp", .pointer "read" 8),
      ("peekp", .pointer "peek" 8),
      ("endp", .pointer "end" 8),
      ("itemp", .pointer "item" 8)]
    functions := ["read", "peek", "end", "item"].map fun name =>
      { id := "f_" ++ name, name := "on_" ++ name, file := "f", returns := "v"
        variadic := false, callback := none
        arguments := [⟨"fn", name ++ "p", .unset⟩, ⟨"user", "vp", .unset⟩] } }

theorem handlers_legible : handlers.document.Legible := by
  constructor
  case clean =>
    have all : ∀ e ∈ handlers.document.types.entries, e.2.name?.all Native.isClean = true := by
      decide +kernel
    intro id node name hn hname
    have hclean := all (id, node) ((Dict.get?_eq_some_iff _ _ _).1 hn)
    rwa [hname] at hclean
  case distinct =>
    have all : ∀ e ∈ handlers.document.types.entries, ∀ e' ∈ handlers.document.types.entries,
        e.2.name?.isSome = true → e.2.spelled? = e'.2.spelled? → e.1 = e'.1 := by decide +kernel
    intro a b n m name hn hm hname _ hsame
    have ha := (Dict.get?_eq_some_iff _ _ _).1 hn
    have hb := (Dict.get?_eq_some_iff _ _ _).1 hm
    exact .inl (all (a, n) ha (b, m) hb (by simp [hname]) hsame)

/-- A qualifier behind a pointer leaves no trace. -/
theorem handlers_read_and_peek : ∃ key t t' r r',
    CallbackSite.signatureKey handlers.document ⟨0, 1, 0, "read", none⟩ = .ok key ∧
    CallbackSite.signatureKey handlers.document ⟨0, 1, 0, "peek", none⟩ = .ok key ∧
    (handlers.buildTrampoline ⟨0, 1, 0, "read", none⟩ "reader").run {} = .ok (t, r) ∧
    (handlers.buildTrampoline ⟨0, 1, 0, "peek", none⟩ "reader").run {} = .ok (t', r') ∧ t.Agrees t' := by
  have named : handlers.document.SpelledOut "i" "i" 0 := .named rfl rfl (by decide)
  have read : handlers.SpelledPlainly "ip" := ⟨⟨"i", 1, .pointer rfl named⟩, nofun⟩
  have peek : handlers.SpelledPlainly "cip" := ⟨⟨"i", 1, .pointer rfl (.qualified rfl named)⟩, nofun⟩
  obtain ⟨⟨t, r⟩, hr, -⟩ := Native.Document.ok_of_any (f := fun _ => true)
    (x := (handlers.buildTrampoline ⟨0, 1, 0, "read", none⟩ "reader").run {}) (by decide +kernel)
  have hkey : CallbackSite.signatureKey handlers.document ⟨0, 1, 0, "read", none⟩ =
      .ok "void(void*:Unset,int*:Unset)@0" := rfl
  have hkey' : CallbackSite.signatureKey handlers.document ⟨0, 1, 0, "peek", none⟩ =
      .ok "void(void*:Unset,int*:Unset)@0" := rfl
  have hargs : ∀ (i : Nat) (a b : Native.Argument),
      [⟨"user", "vp", .unset⟩, ⟨"count", "ip", .unset⟩][i]? = some a →
      [⟨"data", "vp", .unset⟩, ⟨"n", "cip", .unset⟩][i]? = some b → handlers.Told a.type b.type := by
    intro i a b ha hb
    match i with
    | 0 =>
      cases ha
      cases hb
      exact .inl (.refl _)
    | 1 =>
      cases ha
      cases hb
      exact .inr ⟨read, peek⟩
    | i + 2 => cases ha
  rcases shared_trampolines_agree handlers_legible hkey hkey' rfl rfl hargs (.inl (.refl _)) Consistent.empty
    "reader" with ⟨t, t', r, r', ht, ht', hagrees⟩ | ⟨e, e', he, -⟩
  · exact ⟨_, t, t', r, r', hkey, hkey', ht, ht', hagrees⟩
  · rw [hr] at he
    cases he

/-- A pointer to a function is spelled like an untyped pointer, and the managed functions differ. -/
theorem handlers_end_and_item :
    ∃ f ∈ handlers.document.functions, ∃ g ∈ handlers.document.functions, ∃ site site' key t t' r r',
      CallbackSite.detect handlers.document f = .ok (some site) ∧
      CallbackSite.detect handlers.document g = .ok (some site') ∧
      site.signatureKey handlers.document = .ok key ∧ site'.signatureKey handlers.document = .ok key ∧
      (handlers.buildTrampoline site "reader").run {} = .ok (t, r) ∧
      (handlers.buildTrampoline site' "reader").run {} = .ok (t', r') ∧
      t.signature.inputs = [.pointer .opaqueFunction] ∧ t'.signature.inputs = [.pointer .void] := by
  exact ⟨_, .tail _ (.tail _ (.head _)), _, .tail _ (.tail _ (.tail _ (.head _))), ⟨0, 1, 0, "end", none⟩,
    ⟨0, 1, 0, "item", none⟩, "void(void*:Unset,void*:Unset)@0", _, _, _, _, rfl, rfl, rfl, rfl, rfl, rfl,
    rfl, rfl⟩

end LoweringContext

end Bindery
