import Bindery.Package.Preparation
import Bindery.Proofs.Lowering.Population
import Bindery.Proofs.Lowering.Results

/-!
# Lowering of a package's share

Until a package populates its declarations it only makes requests, so what every request keeps is
kept by all that it lowers. There is one wrapper for each function that the package wants, in the
same order, and one global for each variable.
-/

namespace Bindery

open Native (Identity)

/-! ## Origins -/

def Native.Function.origin (f : Native.Function) : Identity × String × Identity := (f.id, f.name, f.file)

def Native.Variable.origin (v : Native.Variable) : Identity × String × Identity := (v.id, v.name, v.file)

def Wrapper.origin (w : Wrapper) : Identity × String × Identity := (w.id, w.native, w.file)

def GlobalVariable.origin (v : GlobalVariable) : Identity × String × Identity := (v.id, v.native, v.file)

namespace LoweringContext

variable {c : LoweringContext} {α : Type}

/-! ## What requests keep -/

section
variable {P : Registry → Prop} (hP : ∀ q, Lowering.Preserves P (c.serve q))
include hP

theorem preserves_value (id : Identity) (place : String) : Lowering.Preserves P (c.value id place) :=
  fun r _ _ hr h => hP (.value id place) r () _ hr (Lowering.run_discard h)

theorem preserves_declare (id : Identity) : Lowering.Preserves P (c.declare id) :=
  fun r _ _ hr h => hP (.lower id true) r () _ hr (Lowering.run_discard h)

theorem preserves_resolve (id : Identity) (kind : Native.PointerKind) :
    Lowering.Preserves P (c.resolve id kind) :=
  fun r _ _ hr h => hP (.resolve id kind) r () _ hr (Lowering.run_discard h)

theorem preserves_resolveReturn (id : Identity) : Lowering.Preserves P (c.resolveReturn id) :=
  fun r _ _ hr h => hP (.resolveReturn id) r () _ hr (Lowering.run_discard h)

theorem preserves_lowerArgument (owner : String) (index : Nat) (a : Native.Argument) :
    Lowering.Preserves P (c.lowerArgument owner index a) := by
  refine (preserves_resolve hP _ _).bind fun type => ?_
  split
  · exact .throw _
  · exact .pure _

theorem preserves_lowerArguments (owner : String) (as : List Native.Argument) :
    Lowering.Preserves P (c.lowerArguments owner as) :=
  (Lowering.Preserves.mapM (fun (a, index) => preserves_lowerArgument hP owner index a) _).bind
    fun _ => .pure _

theorem preserves_lowerFunction (f : Native.Function) : Lowering.Preserves P (c.lowerFunction f) :=
  (preserves_lowerArguments hP _ _).bind fun (_, _) =>
    (preserves_resolveReturn hP _).bind fun _ => .pure _

theorem preserves_lowerVariable (v : Native.Variable) : Lowering.Preserves P (c.lowerVariable v) :=
  (preserves_value hP _ _).bind fun _ => .pure _

theorem preserves_buildTrampoline (site : CallbackSite) (name : String) :
    Lowering.Preserves P (c.buildTrampoline site name) := by
  refine (Lowering.Preserves.ask _).bind fun f => (Lowering.Preserves.lift _).bind fun fits => ?_
  split
  · exact .throw _
  · exact (preserves_lowerArguments hP _ _).bind fun (_, _) =>
      (preserves_resolveReturn hP _).bind fun _ => (Lowering.Preserves.ask _).bind fun _ => .pure _

end

theorem preserves_requested (q : Request) : Lowering.Preserves c.Requested (c.serve q) :=
  fun _ _ _ hr h => .serve hr h

theorem preserves_tidy (q : Request) : Lowering.Preserves c.Tidy (c.serve q) := by
  intro r u r' ht hr
  obtain ⟨M, hM⟩ := Transparent.serve q r u r' ht.consistent hr
  exact ht.grows (hM.of_run ht.consistent hr).2

theorem Requested.tidy {r : Registry} (h : c.Requested r) : c.Tidy r := by
  induction h with
  | empty => exact .empty
  | serve _ hq ih => exact preserves_tidy _ _ _ _ ih hq

/-! ## Functions and variables -/

theorem lowerFunction_origin {f : Native.Function} {w : Wrapper} {r r' : Registry}
    (h : (c.lowerFunction f).run r = .ok (w, r')) : w.origin = f.origin := by
  obtain ⟨_, _, -, h⟩ := Lowering.run_bind_ok.1 h
  obtain ⟨_, _, -, h⟩ := Lowering.run_bind_ok.1 h
  obtain ⟨rfl, -⟩ := Lowering.run_pure_ok.1 h
  rfl

theorem lowerVariable_ok {v : Native.Variable} {g : GlobalVariable} {r r' : Registry} (ht : c.Tidy r)
    (h : (c.lowerVariable v).run r = .ok (g, r')) : g.origin = v.origin ∧ g.type.isSingle = true := by
  obtain ⟨type, _, hv, h⟩ := Lowering.run_bind_ok.1 h
  obtain ⟨rfl, -⟩ := Lowering.run_pure_ok.1 h
  obtain ⟨d, _, hd, hr⟩ := Lowering.run_bind_ok.1 hv
  obtain ⟨hvoid, rfl⟩ := requireValue_ok.1 (Lowering.run_lift_ok.1 hr).1
  obtain ⟨n, M, hM⟩ := lowers_of_lower ht.consistent hd
  exact ⟨rfl, hM.isSingle.resolve_left (by simp [hvoid])⟩

end LoweringContext

namespace Package

variable {p : Package}

section
variable {P : Registry → Prop} (hP : ∀ q, Lowering.Preserves P (p.context.serve q))
include hP

theorem preserves_trampolineFor (f : Native.Function) (site : CallbackSite) (pool : TrampolinePool) :
    Lowering.Preserves P (p.trampolineFor f site pool) := by
  refine (Lowering.Preserves.ask _).bind fun key => ?_
  split
  · exact .pure _
  · exact (LoweringContext.preserves_buildTrampoline hP _ _).bind fun _ => .pure _

theorem preserves_lowerWanted (f : Native.Function) (pool : TrampolinePool) :
    Lowering.Preserves P (p.lowerWanted f pool) := by
  refine (LoweringContext.preserves_lowerFunction hP f).bind fun w =>
    (Lowering.Preserves.lift _).bind fun site => ?_
  split
  · exact (preserves_trampolineFor hP f _ pool).bind fun (_, _) => .pure _
  · exact .pure _

theorem preserves_lowerAllWanted (fs : List Native.Function) (pool : TrampolinePool) :
    Lowering.Preserves P (p.lowerAllWanted fs pool) := by
  induction fs generalizing pool with
  | nil => exact .pure _
  | cons f fs ih =>
    exact (preserves_lowerWanted hP f pool).bind fun (_, pool) => (ih pool).bind fun (_, _) => .pure _

end

/-- Before it populates, a package only makes requests. -/
theorem requested_of_lowerShare {lowered : Lowered} {r : Registry}
    (h : p.lowerShare.run {} = .ok (lowered, r)) :
    ∃ r₀ n, p.context.Requested r₀ ∧ p.context.populate.run r₀ = .ok (n, r) := by
  have hP := p.context.preserves_requested
  obtain ⟨⟨ws, pool⟩, r₁, hws, h⟩ := Lowering.run_bind_ok.1 h
  obtain ⟨gs, r₂, hgs, h⟩ := Lowering.run_bind_ok.1 h
  obtain ⟨_, r₃, hes, h⟩ := Lowering.run_bind_ok.1 h
  obtain ⟨n, r₄, hpopulate, h⟩ := Lowering.run_bind_ok.1 h
  obtain ⟨-, rfl⟩ := Lowering.run_pure_ok.1 h
  have h₁ := preserves_lowerAllWanted hP _ _ _ _ _ .empty hws
  have h₂ := Lowering.Preserves.mapM (LoweringContext.preserves_lowerVariable hP) _ _ _ _ h₁ hgs
  have h₃ := Lowering.Preserves.forM
    (fun id => (LoweringContext.preserves_declare hP id).bind fun _ => .pure _) _ _ _ _ h₂ hes
  exact ⟨r₃, n, h₃, hpopulate⟩

theorem tidy_of_lowerShare {lowered : Lowered} {r : Registry} (h : p.lowerShare.run {} = .ok (lowered, r)) :
    p.context.Tidy r := by
  obtain ⟨r₀, n, hr, hp⟩ := requested_of_lowerShare h
  exact (hr.tidy.populate hp).1

theorem lowerWanted_origin {f : Native.Function} {pool pool' : TrampolinePool} {w : Wrapper}
    {r r' : Registry} (h : (p.lowerWanted f pool).run r = .ok ((w, pool'), r')) :
    w.origin = f.origin := by
  obtain ⟨w₀, _, hw, h⟩ := Lowering.run_bind_ok.1 h
  obtain ⟨site, _, -, h⟩ := Lowering.run_bind_ok.1 h
  rw [← LoweringContext.lowerFunction_origin hw]
  cases site with
  | none =>
    obtain ⟨he, -⟩ := Lowering.run_pure_ok.1 h
    cases he
    rfl
  | some site =>
    obtain ⟨_, _, -, h⟩ := Lowering.run_bind_ok.1 h
    obtain ⟨he, -⟩ := Lowering.run_pure_ok.1 h
    cases he
    rfl

theorem lowerAllWanted_origin {fs : List Native.Function} {pool pool' : TrampolinePool}
    {ws : List Wrapper} {r r' : Registry}
    (h : (p.lowerAllWanted fs pool).run r = .ok ((ws, pool'), r')) :
    ws.map (·.origin) = fs.map (·.origin) := by
  induction fs generalizing pool ws r r' with
  | nil =>
    obtain ⟨he, -⟩ := Lowering.run_pure_ok.1 h
    cases he
    rfl
  | cons f fs ih =>
    obtain ⟨⟨w, pool₁⟩, _, hw, h⟩ := Lowering.run_bind_ok.1 h
    obtain ⟨⟨ws', pool₂⟩, _, hws, h⟩ := Lowering.run_bind_ok.1 h
    obtain ⟨he, -⟩ := Lowering.run_pure_ok.1 h
    cases he
    rw [List.map_cons, List.map_cons, lowerWanted_origin hw, ih hws]

theorem lowerVariables_ok {vs : List Native.Variable} {gs : List GlobalVariable} {r r' : Registry}
    (hr : p.context.Requested r) (h : (vs.mapM p.context.lowerVariable).run r = .ok (gs, r')) :
    gs.map (·.origin) = vs.map (·.origin) ∧ ∀ g ∈ gs, g.type.isSingle = true := by
  induction vs generalizing gs r r' with
  | nil =>
    rw [List.mapM_nil] at h
    obtain ⟨rfl, -⟩ := Lowering.run_pure_ok.1 h
    exact ⟨rfl, nofun⟩
  | cons v vs ih =>
    rw [List.mapM_cons] at h
    obtain ⟨g, _, hg, h⟩ := Lowering.run_bind_ok.1 h
    obtain ⟨gs', _, hgs, h⟩ := Lowering.run_bind_ok.1 h
    obtain ⟨rfl, -⟩ := Lowering.run_pure_ok.1 h
    obtain ⟨ho, hs⟩ := LoweringContext.lowerVariable_ok hr.tidy hg
    have hr₁ := LoweringContext.preserves_lowerVariable p.context.preserves_requested v _ _ _ hr hg
    obtain ⟨hos, hss⟩ := ih hr₁ hgs
    refine ⟨by rw [List.map_cons, List.map_cons, ho, hos], fun u hu => ?_⟩
    rcases List.mem_cons.1 hu with rfl | hu
    · exact hs
    · exact hss u hu

theorem lowerShare_ok {lowered : Lowered} {r : Registry} (h : p.lowerShare.run {} = .ok (lowered, r)) :
    ∃ pool r₁ r₂, (p.lowerAllWanted p.wantedFunctions {}).run {} = .ok ((lowered.wrappers, pool), r₁) ∧
      lowered.trampolines = pool.trampolines ∧
      (p.wantedVariables.mapM p.context.lowerVariable).run r₁ = .ok (lowered.globals, r₂) := by
  obtain ⟨⟨ws, pool⟩, r₁, hws, h⟩ := Lowering.run_bind_ok.1 h
  obtain ⟨gs, r₂, hgs, h⟩ := Lowering.run_bind_ok.1 h
  obtain ⟨_, _, -, h⟩ := Lowering.run_bind_ok.1 h
  obtain ⟨_, _, -, h⟩ := Lowering.run_bind_ok.1 h
  obtain ⟨rfl, -⟩ := Lowering.run_pure_ok.1 h
  exact ⟨pool, r₁, r₂, hws, rfl, hgs⟩

theorem lowerShare_origins {lowered : Lowered} {r : Registry}
    (h : p.lowerShare.run {} = .ok (lowered, r)) :
    lowered.wrappers.map (·.origin) = p.wantedFunctions.map (·.origin) ∧
      lowered.globals.map (·.origin) = p.wantedVariables.map (·.origin) ∧
      ∀ g ∈ lowered.globals, g.type.isSingle = true := by
  obtain ⟨pool, r₁, r₂, hws, -, hgs⟩ := lowerShare_ok h
  have hr := preserves_lowerAllWanted p.context.preserves_requested _ _ _ _ _ .empty hws
  exact ⟨lowerAllWanted_origin hws, lowerVariables_ok hr hgs⟩

/-! ## Trampolines -/

variable (p) in
/-- A trampoline that has been built where only requests have been made before. -/
def Built (t : Trampoline) : Prop :=
  ∃ site name r r', p.context.Requested r ∧ (p.context.buildTrampoline site name).run r = .ok (t, r')

theorem built_of_trampolineFor {f : Native.Function} {site : CallbackSite} {pool pool' : TrampolinePool}
    {t : Trampoline} {r r' : Registry} (hr : p.context.Requested r) (hpool : ∀ t ∈ pool.trampolines, p.Built t)
    (h : (p.trampolineFor f site pool).run r = .ok ((t, pool'), r')) : ∀ t ∈ pool'.trampolines, p.Built t := by
  obtain ⟨key, _, hask, h⟩ := Lowering.run_bind_ok.1 h
  obtain ⟨-, rfl⟩ := Lowering.run_ask_ok.1 hask
  split at h
  · obtain ⟨he, -⟩ := Lowering.run_pure_ok.1 h
    cases he
    exact hpool
  · obtain ⟨u, r₁, hu, h⟩ := Lowering.run_bind_ok.1 h
    obtain ⟨he, -⟩ := Lowering.run_pure_ok.1 h
    cases he
    intro v hv
    rcases List.mem_append.1 hv with hv | hv
    · exact hpool v hv
    · obtain rfl := List.mem_singleton.1 hv
      exact ⟨site, _, r, r₁, hr, hu⟩

theorem built_of_lowerWanted {f : Native.Function} {pool pool' : TrampolinePool} {w : Wrapper}
    {r r' : Registry} (hr : p.context.Requested r) (hpool : ∀ t ∈ pool.trampolines, p.Built t)
    (h : (p.lowerWanted f pool).run r = .ok ((w, pool'), r')) : ∀ t ∈ pool'.trampolines, p.Built t := by
  obtain ⟨w₀, r₁, hw, h⟩ := Lowering.run_bind_ok.1 h
  obtain ⟨site?, _, hlift, h⟩ := Lowering.run_bind_ok.1 h
  obtain ⟨-, rfl⟩ := Lowering.run_lift_ok.1 hlift
  have hr₁ := LoweringContext.preserves_lowerFunction p.context.preserves_requested f _ _ _ hr hw
  cases site? with
  | none =>
    obtain ⟨he, -⟩ := Lowering.run_pure_ok.1 h
    cases he
    exact hpool
  | some site =>
    obtain ⟨⟨t, pool₁⟩, _, hfor, h⟩ := Lowering.run_bind_ok.1 h
    obtain ⟨he, -⟩ := Lowering.run_pure_ok.1 h
    cases he
    exact built_of_trampolineFor hr₁ hpool hfor

theorem built_of_lowerAllWanted {fs : List Native.Function} {pool pool' : TrampolinePool}
    {ws : List Wrapper} {r r' : Registry} (hr : p.context.Requested r)
    (hpool : ∀ t ∈ pool.trampolines, p.Built t)
    (h : (p.lowerAllWanted fs pool).run r = .ok ((ws, pool'), r')) : ∀ t ∈ pool'.trampolines, p.Built t := by
  induction fs generalizing pool ws r r' with
  | nil =>
    obtain ⟨he, -⟩ := Lowering.run_pure_ok.1 h
    cases he
    exact hpool
  | cons f fs ih =>
    obtain ⟨⟨w, pool₁⟩, r₁, hw, h⟩ := Lowering.run_bind_ok.1 h
    obtain ⟨⟨ws', pool₂⟩, r₂, hws, h⟩ := Lowering.run_bind_ok.1 h
    obtain ⟨he, -⟩ := Lowering.run_pure_ok.1 h
    cases he
    have hr₁ := preserves_lowerWanted p.context.preserves_requested f pool _ _ _ hr hw
    exact ih hr₁ (built_of_lowerWanted hr hpool hw) hws

theorem built_of_lowerShare {lowered : Lowered} {r : Registry}
    (h : p.lowerShare.run {} = .ok (lowered, r)) : ∀ t ∈ lowered.trampolines, p.Built t := by
  obtain ⟨pool, r₁, r₂, hws, htrampolines, -⟩ := lowerShare_ok h
  rw [htrampolines]
  exact built_of_lowerAllWanted .empty (fun _ ht => absurd ht List.not_mem_nil) hws

end Package

end Bindery
