import Bindery.Proofs.Package.Conservation
import Bindery.Proofs.Package.Wrapping

/-!
# Sharing of trampolines

The functions of a package with callback sites of one signature key share a trampoline. It is
built for the first of them in the order of the document, and named after the typedef of that
site or after that function, with underscores where earlier trampolines have taken the name.
-/

namespace Bindery

open Native (Identity)

theorem CallbackSite.trampolineName_ne_empty (filter : NameFilter) (site : CallbackSite) (function : String) :
    site.trampolineName filter function ≠ "" := by
  intro h
  have := congrArg String.toList h
  simp [trampolineName] at this

namespace Package

variable (p : Package)

/-! ## One function after the other -/

structure Uses (f : Native.Function) (site : CallbackSite) (key : String) : Prop where
  detected : CallbackSite.detect p.document f = .ok (some site)
  key : site.signatureKey p.document = .ok key

/-- A trampoline that has been built for `f`, as no function before has a site of its key. The
trampolines before it have the names that its own would have had with fewer underscores. -/
structure Introduces (earlier : List Native.Function) (before : List Trampoline) (f : Native.Function)
    (site : CallbackSite) (t : Trampoline) : Prop where
  uses : p.Uses f site t.key
  first : ∀ g ∈ earlier, ∀ other, ¬ p.Uses g other t.key
  built : ∃ r r', (p.context.buildTrampoline site t.name).run r = .ok (t, r')
  name : ∃ k, t.name = Scope.underscored (site.trampolineName p.filter f.name) k ∧
    ∀ j < k, Scope.underscored (site.trampolineName p.filter f.name) j ∈ before.map (·.name)

structure Pooled (fs : List Native.Function) (pool : TrampolinePool) : Prop where
  bindings : pool.names.bindings = pool.trampolines.map fun t => (t.key, t.name)
  bijective : pool.names.Bijective
  served : ∀ f ∈ fs, ∀ {site key}, p.Uses f site key → key ∈ pool.trampolines.map (·.key)
  introduced : ∀ {before t after}, pool.trampolines = before ++ t :: after →
    ∃ earlier f later site, fs = earlier ++ f :: later ∧ p.Introduces earlier before f site t

variable {p} {fs : List Native.Function} {f : Native.Function} {pool pool' : TrampolinePool} {w : Wrapper}
  {r r' : Registry}

theorem Uses.unique {site site' : CallbackSite} {key key' : String} (h : p.Uses f site key)
    (h' : p.Uses f site' key') : site = site' ∧ key = key' := by
  have hsite := h.detected.symm.trans h'.detected
  cases hsite
  have hkey := h.key.symm.trans h'.key
  cases hkey
  exact ⟨rfl, rfl⟩

theorem Pooled.empty : p.Pooled [] {} where
  bindings := rfl
  bijective := .empty
  served := nofun
  introduced h := by simp at h

/-- One more function that needs no new trampoline. -/
theorem Pooled.keep (h : p.Pooled fs pool)
    (hf : ∀ {site key}, p.Uses f site key → key ∈ pool.trampolines.map (·.key)) :
    p.Pooled (fs ++ [f]) pool where
  bindings := h.bindings
  bijective := h.bijective
  served g hg := by
    rcases List.mem_append.1 hg with hg | hg
    · exact h.served g hg
    · obtain rfl := List.mem_singleton.1 hg
      exact hf
  introduced ht := by
    obtain ⟨earlier, g, later, site, rfl, hg⟩ := h.introduced ht
    exact ⟨earlier, g, later ++ [f], site, by simp, hg⟩

/-- One more function, with the trampoline that is built for it. -/
theorem Pooled.add (h : p.Pooled fs pool) {site : CallbackSite} {t : Trampoline} (hf : p.Uses f site t.key)
    (hnew : t.key ∉ pool.trampolines.map (·.key))
    (hname : t.name = pool.names.fresh (site.trampolineName p.filter f.name))
    (hbuilt : (p.context.buildTrampoline site t.name).run r = .ok (t, r')) :
    p.Pooled (fs ++ [f])
      { trampolines := pool.trampolines ++ [t], names := ⟨pool.names.bindings ++ [(t.key, t.name)]⟩ } where
  bindings := by rw [h.bindings, List.map_append, List.map_singleton]
  bijective := by
    apply h.bijective.append
    · rw [Scope.nameOf?_eq_none_iff, h.bindings]
      intro b hb he
      obtain ⟨u, hu, rfl⟩ := List.mem_map.1 hb
      exact hnew (he ▸ List.mem_map_of_mem hu)
    · rw [hname]
      exact Scope.fresh_free _ _
  served g hg := by
    intro site' key hu
    rw [List.map_append]
    rcases List.mem_append.1 hg with hg | hg
    · exact List.mem_append_left _ (h.served g hg hu)
    · obtain rfl := List.mem_singleton.1 hg
      exact List.mem_append_right _ (List.mem_singleton.2 (hu.unique hf).2)
  introduced {before u after} ht := by
    rcases List.eq_nil_or_concat after with rfl | ⟨after, v, rfl⟩
    · -- the trampoline is the new one
      obtain ⟨rfl, hu⟩ := List.append_inj' ht rfl
      obtain rfl := List.singleton_inj.1 hu
      obtain ⟨k, hk, hlt, -⟩ := pool.names.fresh_spec (site.trampolineName p.filter f.name)
      refine ⟨fs, f, [], site, rfl, hf, fun g hg other hu => hnew (h.served g hg hu), ⟨r, r', hbuilt⟩, k,
        hname.trans hk, fun j hj => ?_⟩
      obtain ⟨key, hb⟩ := (pool.names.hasName_iff _).1 (hlt j hj)
      rw [h.bindings] at hb
      obtain ⟨v, hv, he⟩ := List.mem_map.1 hb
      exact List.mem_map.2 ⟨v, hv, congrArg Prod.snd he⟩
    · have ht : pool.trampolines ++ [t] = (before ++ u :: after) ++ [v] := by simpa using ht
      obtain ⟨ht, -⟩ := List.append_inj' ht rfl
      obtain ⟨earlier, g, later, site', rfl, hg⟩ := h.introduced ht
      exact ⟨earlier, g, later ++ [f], site', by simp, hg⟩

theorem Pooled.trampolineFor (h : p.Pooled fs pool) {site : CallbackSite} {t : Trampoline}
    (hdetect : CallbackSite.detect p.document f = .ok (some site))
    (ht : (p.trampolineFor f site pool).run r = .ok ((t, pool'), r')) : p.Pooled (fs ++ [f]) pool' := by
  obtain ⟨key, _, hask, ht⟩ := Lowering.run_bind_ok.1 ht
  obtain ⟨hkey, rfl⟩ := Lowering.run_ask_ok.1 hask
  have huses : p.Uses f site key := ⟨hdetect, hkey⟩
  split at ht
  · rename_i found hfind
    obtain ⟨he, -⟩ := Lowering.run_pure_ok.1 ht
    cases he
    refine h.keep fun hu => ?_
    rw [(hu.unique huses).2]
    exact List.mem_map.2 ⟨t, List.mem_of_find?_eq_some hfind, by simpa using List.find?_some hfind⟩
  · rename_i hfind
    have hnew : key ∉ pool.trampolines.map (·.key) := by
      intro hm
      obtain ⟨u, hu, he⟩ := List.mem_map.1 hm
      have := List.find?_eq_none.1 hfind u hu
      simp [he] at this
    have hfree : pool.names.nameOf? key = none := by
      rw [Scope.nameOf?_eq_none_iff, h.bindings]
      intro b hb he
      obtain ⟨u, hu, rfl⟩ := List.mem_map.1 hb
      exact hnew (he ▸ List.mem_map_of_mem hu)
    rw [Scope.resolve_new _ hfree (CallbackSite.trampolineName_ne_empty _ _ _)] at ht
    obtain ⟨u, _, hu, ht⟩ := Lowering.run_bind_ok.1 ht
    obtain ⟨he, -⟩ := Lowering.run_pure_ok.1 ht
    cases he
    obtain ⟨_, _, _, _, _, key', -, -, -, -, hkey', hmade⟩ := LoweringContext.buildTrampoline_ok.1 hu
    have htkey : t.key = key := by
      rw [← hmade]
      exact (Except.ok.inj (hkey.symm.trans hkey')).symm
    have htname : t.name = pool.names.fresh (site.trampolineName p.filter f.name) := by
      rw [← hmade]
      rfl
    have hadd := h.add (htkey ▸ huses) (htkey ▸ hnew) htname (htname ▸ hu)
    rw [htkey, htname] at hadd
    exact hadd

theorem Pooled.lowerWanted (h : p.Pooled fs pool)
    (hw : (p.lowerWanted f pool).run r = .ok ((w, pool'), r')) : p.Pooled (fs ++ [f]) pool' := by
  obtain ⟨_, _, -, hw⟩ := Lowering.run_bind_ok.1 hw
  obtain ⟨site?, _, hlift, hw⟩ := Lowering.run_bind_ok.1 hw
  obtain ⟨hdetect, rfl⟩ := Lowering.run_lift_ok.1 hlift
  cases site? with
  | none =>
    obtain ⟨he, -⟩ := Lowering.run_pure_ok.1 hw
    cases he
    refine h.keep fun hu => ?_
    have := hdetect.symm.trans hu.detected
    cases this
  | some site =>
    obtain ⟨⟨t, pool₁⟩, _, hfor, hw⟩ := Lowering.run_bind_ok.1 hw
    obtain ⟨he, -⟩ := Lowering.run_pure_ok.1 hw
    cases he
    exact h.trampolineFor hdetect hfor

theorem Pooled.lowerAllWanted {gs : List Native.Function} {ws : List Wrapper} (h : p.Pooled fs pool)
    (hws : (p.lowerAllWanted gs pool).run r = .ok ((ws, pool'), r')) : p.Pooled (fs ++ gs) pool' := by
  induction gs generalizing fs pool ws r r' with
  | nil =>
    obtain ⟨he, -⟩ := Lowering.run_pure_ok.1 hws
    cases he
    rw [List.append_nil]
    exact h
  | cons g gs ih =>
    obtain ⟨⟨w, pool₁⟩, r₁, hw, hws⟩ := Lowering.run_bind_ok.1 hws
    obtain ⟨⟨ws', pool₂⟩, r₂, hws', hws⟩ := Lowering.run_bind_ok.1 hws
    obtain ⟨he, -⟩ := Lowering.run_pure_ok.1 hws
    cases he
    rw [List.append_cons]
    exact ih (h.lowerWanted hw) hws'

/-! ## Prepared packages -/

variable {included : List Package} {p' : Package}

theorem prepare_pooled (h : p.prepare included = .ok p') :
    ∃ names, p.Pooled p.wantedFunctions { trampolines := p'.trampolines, names } := by
  obtain ⟨lowered, r, hl, rfl⟩ := prepare_ok.1 h
  obtain ⟨pool, _, _, hws, htrampolines, -⟩ := lowerShare_ok hl
  refine ⟨pool.names, ?_⟩
  rw [show (p.assignNames included lowered r).trampolines = pool.trampolines from htrampolines]
  exact Pooled.empty.lowerAllWanted hws

theorem prepare_built (h : p.prepare included = .ok p') : ∀ t ∈ p'.trampolines, p.Built t := by
  obtain ⟨lowered, r, hl, rfl⟩ := prepare_ok.1 h
  exact built_of_lowerShare hl

variable (p p') in
structure SharesTrampolines : Prop where
  keys : (p'.trampolines.map (·.key)).Nodup
  names : (p'.trampolines.map (·.name)).Nodup
  goNames : (p'.trampolines.map (·.goName)).Nodup
  cNames : (p'.trampolines.map (·.cName)).Nodup
  wrapped : ((p'.functions ++ p'.types.methods).map (·.origin)).Perm (p.wantedFunctions.map (·.origin))
  /-- A function pointer is passed as the one trampoline of the signature key. -/
  stubs : ∀ f ∈ p.wantedFunctions, ∀ w ∈ p'.functions ++ p'.types.methods, w.origin = f.origin →
    ∀ site, CallbackSite.detect p.document f = .ok (some site) → ∃ t ∈ p'.trampolines,
      p.Uses f site t.key ∧ (∀ u ∈ p'.trampolines, u.key = t.key → u = t) ∧
      ∃ x, w.arguments[site.argIndex]? = some x ∧ x.managed = "C." ++ t.cName
  /-- The first function that uses a trampoline gives it its name. -/
  introduced : ∀ {before t after}, p'.trampolines = before ++ t :: after →
    ∃ earlier f later site, p.wantedFunctions = earlier ++ f :: later ∧ p.Introduces earlier before f site t

/-- The functions of a prepared package share one trampoline for each callback signature. -/
theorem one_trampoline_per_signature {raw : Native.Document} (hdoc : raw.accept = .ok p.document)
    (h : p.prepare included = .ok p') : p.SharesTrampolines p' := by
  obtain ⟨names, hpool⟩ := prepare_pooled h
  have hkeys : (p'.trampolines.map (·.key)).Nodup := by
    have := hpool.bijective.ids
    rwa [hpool.bindings, List.map_map] at this
  have hnames : (p'.trampolines.map (·.name)).Nodup := by
    have := hpool.bijective.names
    rwa [hpool.bindings, List.map_map] at this
  have suffixed (suffix : String) : (p'.trampolines.map fun t => t.name ++ suffix).Nodup := by
    have := hnames.map (f := (· ++ suffix)) fun a b hab => (String.append_left_inj _).1 hab
    rwa [List.map_map] at this
  constructor
  case keys => exact hkeys
  case names => exact hnames
  case goNames => exact suffixed "_Go"
  case cNames => exact suffixed "_C"
  case wrapped => exact (prepare_conserves h (wanted_nodup hdoc)).1
  case introduced => exact hpool.introduced
  case stubs =>
    intro f hf w hw horigin site hsite
    obtain ⟨g, hg, own, hwraps⟩ := (prepare_wraps h).2 w hw
    have hid : g.id = f.id := congrArg Prod.fst (hwraps.origin.symm.trans horigin)
    obtain rfl := List.inj_on_of_nodup_map (wanted_nodup hdoc) hg hf hid
    cases hwraps.calls with
    | direct hs _ =>
      rw [hs] at hsite
      cases hsite
    | @redirected site' t hs ht hkey hr =>
      rw [hs] at hsite
      cases hsite
      obtain ⟨pointer, userData, -, -, hpointer, -⟩ := hr.pair
      exact ⟨t, ht, ⟨hs, hkey⟩, fun u hu he => List.inj_on_of_nodup_map hkeys hu ht he, _, hpointer, rfl⟩

/-- Two typedefs of one managed name for callbacks with different signatures, and a function that
takes the first kind of callback without its typedef. -/
def listeners : Package where
  settings := { name := "listeners" }
  filter := .all
  rules := {}
  ownedFiles := ["f"]
  document := {
    files := [⟨"f", "listeners.h"⟩]
    types := Dict.ofList [
      ("a", .function { returns := "v", arguments := [⟨"event", "i", .unset⟩, ⟨"user", "vp", .unset⟩] }),
      ("ap", .pointer "a" 8),
      ("b", .function { returns := "v", arguments := [⟨"user", "vp", .unset⟩] }),
      ("bp", .pointer "b" 8),
      ("h", .typedef { name := "handler", file := "f", base := "ap", root := some "ap", size := 8 }),
      ("ht", .typedef { name := "handler_t", file := "f", base := "bp", root := some "bp", size := 8 }),
      ("i", .fundamental "int" 4),
      ("v", .fundamental "void" 0),
      ("vp", .pointer "v" 8)]
    functions := [
      { id := "f1", name := "listen", file := "f", returns := "v", variadic := false, callback := none
        arguments := [⟨"fn", "h", .unset⟩, ⟨"user", "vp", .unset⟩] },
      { id := "f2", name := "finish", file := "f", returns := "v", variadic := false, callback := none
        arguments := [⟨"fn", "ht", .unset⟩, ⟨"user", "vp", .unset⟩] },
      { id := "f3", name := "once", file := "f", returns := "v", variadic := false, callback := none
        arguments := [⟨"fn", "ap", .unset⟩, ⟨"user", "vp", .unset⟩] }]
    globals := [] }

theorem listeners_share : listeners.document.accept = .ok listeners.document ∧
    ∃ p, listeners.prepare [] = .ok p ∧ listeners.SharesTrampolines p ∧
      p.trampolines.map (fun t => (t.key, t.cName)) =
        [("void(int:Unset,void*:Unset)@1", "handlerCallback_C"), ("void(void*:Unset)@0", "handlerCallback__C")] ∧
      p.functions.map (fun w => (w.id, w.arguments.map (·.managed))) =
        [("f1", ["C.handlerCallback_C", "fn"]), ("f2", ["C.handlerCallback__C", "fn"]),
          ("f3", ["C.handlerCallback_C", "fn"])] := by
  have hdoc : listeners.document.accept = .ok listeners.document := rfl
  obtain ⟨p, hp, hnames⟩ := Native.Document.ok_of_any (x := listeners.prepare [])
    (f := fun p => decide (p.trampolines.map (fun t => (t.key, t.cName)) =
        [("void(int:Unset,void*:Unset)@1", "handlerCallback_C"), ("void(void*:Unset)@0", "handlerCallback__C")] ∧
      p.functions.map (fun w => (w.id, w.arguments.map (·.managed))) =
        [("f1", ["C.handlerCallback_C", "fn"]), ("f2", ["C.handlerCallback__C", "fn"]),
          ("f3", ["C.handlerCallback_C", "fn"])])) (by decide +kernel)
  exact ⟨hdoc, p, hp, one_trampoline_per_signature hdoc hp, of_decide_eq_true hnames⟩

end Package

end Bindery
