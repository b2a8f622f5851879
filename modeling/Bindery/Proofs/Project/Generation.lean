import Bindery.Project.Session
import Bindery.Proofs.Native.Closed
import Bindery.Proofs.Package.Stubs
import Bindery.Proofs.Workspace.Walk

/-!
# Generations

All packages are prepared before anything is done, and the C files of prepared packages can be
rendered. So a generation that fails has done nothing but read the document, unless a directory
cannot be made or a file cannot be written. What has been done is a list of actions, each of which
leads from one state of the file system to the next.
-/

namespace Bindery

open Native.Document (bind_ok)

variable {σ : Type}

/-! ## Runs -/

def runOn {α : Type} (x : ExceptT CommandError (StateM σ) α) (s : σ) : Except CommandError α × σ :=
  Id.run (x.run.run s)

section
variable {α β : Type} {x : ExceptT CommandError (StateM σ) α} {f : α → ExceptT CommandError (StateM σ) β}
  {s s' : σ}

theorem runOn_lift (x : StateM σ α) : runOn (liftM x) s = (.ok (x.run s).1, (x.run s).2) := rfl

theorem runOn_bind {a : α} (h : runOn x s = (.ok a, s')) : runOn (x >>= f) s = runOn (f a) s' := by
  simp only [runOn, ExceptT.run_bind, StateT.run_bind, Id.run_bind] at h ⊢
  rw [h]

theorem runOn_bind_error {e : CommandError} (h : runOn x s = (.error e, s')) :
    runOn (x >>= f) s = (.error e, s') := by
  simp only [runOn, ExceptT.run_bind, StateT.run_bind, Id.run_bind] at h ⊢
  rw [h]
  rfl

theorem requireDone_run {possible : StateM σ Bool} {e : CommandError} :
    runOn (requireDone possible e) s =
      (if (possible.run s).1 then .ok () else .error e, (possible.run s).2) := by
  unfold requireDone
  rw [runOn_bind (runOn_lift possible)]
  cases (possible.run s).1 <;> rfl

end

/-! ## Actions -/

variable [FileSystem (StateM σ)]

inductive Action.Does : Action → σ → σ → Prop
  | makeDirectories {path : Path} {s s' : σ}
    (h : (FileSystem.makeDirectories path : StateM σ Bool).run s = (true, s')) :
    Does (.makeDirectories path) s s'
  | write {path : Path} {content : String} {s s' : σ}
    (h : (FileSystem.write path content : StateM σ Bool).run s = (true, s')) :
    Does (.write path content) s s'
  | print {text : String} {s s' : σ} (h : (FileSystem.print text : StateM σ Unit).run s = ((), s')) :
    Does (.print text) s s'

inductive Action.Fails : Action → CommandError → σ → σ → Prop
  | makeDirectories {path : Path} {s s' : σ}
    (h : (FileSystem.makeDirectories path : StateM σ Bool).run s = (false, s')) :
    Fails (.makeDirectories path) (.creating path) s s'
  | write {path : Path} {content : String} {s s' : σ}
    (h : (FileSystem.write path content : StateM σ Bool).run s = (false, s')) :
    Fails (.write path content) (.writing path) s s'
  | fail {e : CommandError} {s : σ} : Fails (.fail e) e s s

def CommandError.isOutput : CommandError → Bool
  | .creating _ | .writing _ => true
  | _ => false

theorem Action.Fails.isOutput {a : Action} {e : CommandError} {s s' : σ} (h : a.Fails e s s')
    (hne : ∀ x, a ≠ .fail x) : e.isOutput = true := by
  cases h with
  | makeDirectories | write => rfl
  | fail => exact (hne e rfl).elim

inductive Performs : List Action → σ → σ → Prop
  | nil {s : σ} : Performs [] s s
  | cons {a : Action} {actions : List Action} {s s₁ s' : σ} (h : a.Does s s₁)
    (rest : Performs actions s₁ s') : Performs (a :: actions) s s'

/-- An action either is done or fails. -/
theorem Action.perform_run (a : Action) (s : σ) :
    (∃ s', runOn a.perform s = (.ok (), s') ∧ a.Does s s') ∨
      ∃ e s', runOn a.perform s = (.error e, s') ∧ a.Fails e s s' := by
  cases a with
  | makeDirectories path =>
    have hrun : runOn (perform (.makeDirectories path)) s = _ := requireDone_run
    rcases h : (FileSystem.makeDirectories path : StateM σ Bool).run s with ⟨_ | _, s'⟩
    · exact .inr ⟨_, s', by rw [hrun, h]; rfl, .makeDirectories h⟩
    · exact .inl ⟨s', by rw [hrun, h]; rfl, .makeDirectories h⟩
  | write path content =>
    have hrun : runOn (perform (.write path content)) s = _ := requireDone_run
    rcases h : (FileSystem.write path content : StateM σ Bool).run s with ⟨_ | _, s'⟩
    · exact .inr ⟨_, s', by rw [hrun, h]; rfl, .write h⟩
    · exact .inl ⟨s', by rw [hrun, h]; rfl, .write h⟩
  | print text => exact .inl ⟨_, rfl, .print rfl⟩
  | fail e => exact .inr ⟨e, s, rfl, .fail⟩

/-- All actions are done, or all up to the first that fails. -/
theorem perform_all (actions : List Action) (s : σ) :
    (∃ s', runOn (actions.forM Action.perform) s = (.ok (), s') ∧ Performs actions s s') ∨
      ∃ done a rest e s₁ s', actions = done ++ a :: rest ∧
        runOn (actions.forM Action.perform) s = (.error e, s') ∧ Performs done s s₁ ∧ a.Fails e s₁ s' := by
  induction actions generalizing s with
  | nil => exact .inl ⟨s, rfl, .nil⟩
  | cons a actions ih =>
    rw [List.forM]
    rcases a.perform_run s with ⟨s₁, hrun, hdoes⟩ | ⟨e, s', hrun, hfails⟩
    · rw [runOn_bind hrun]
      rcases ih s₁ with ⟨s', hall, hrest⟩ | ⟨done, b, rest, e, s₂, s', rfl, hall, hrest, hfails⟩
      · exact .inl ⟨s', hall, .cons hdoes hrest⟩
      · exact .inr ⟨a :: done, b, rest, e, s₂, s', rfl, hall, .cons hdoes hrest, hfails⟩
    · exact .inr ⟨[], a, actions, e, s, s', rfl, runOn_bind_error hrun, .nil, hfails⟩

/-! ## Prepared packages -/

namespace Workspace

variable {w : Workspace} {ps : List Package}

theorem prepared_settings (h : w.prepare = .ok ps) : ∀ p ∈ ps, w.settings? p.name = some p.settings ∧
    ∃ p₀ included, Package.ofSettings p.settings w.document w.pointerWidth = .ok p₀ ∧
      p₀.prepare included = .ok p := by
  intro p hp
  obtain ⟨before, after, hsplit⟩ := List.append_of_mem hp
  obtain ⟨x, p₀, hx, hp₀, hprepare⟩ := (prepare_ordered h).2 before p after hsplit
  have hsettings : p.settings = x := by
    obtain ⟨_, -, h⟩ := bind_ok.1 hp₀
    cases h
    obtain ⟨_, _, -, he⟩ := Package.prepare_ok.1 hprepare
    rw [← he]
    rfl
  subst hsettings
  exact ⟨hx, p₀, _, hp₀, hprepare⟩

/-- Each package of a workspace is prepared once. -/
theorem prepare_perm (h : w.prepare = .ok ps) : (ps.map (·.settings)).Perm w.packages := by
  have hnames : ((ps.map (·.settings)).map (·.name)).Perm (w.packages.map (·.name)) := by
    rw [List.map_map]
    exact order_perm (prepare_names h)
  have hnd : ((ps.map (·.settings)).map (·.name)).Nodup := by
    rw [List.map_map]
    exact (prepare_ordered h).1.nodup
  have hnd' := hnames.nodup_iff.1 hnd
  have known : ∀ x ∈ ps.map (·.settings), x ∈ w.packages := by
    intro x hx
    obtain ⟨p, hp, rfl⟩ := List.mem_map.1 hx
    exact List.mem_of_find?_eq_some (prepared_settings h p hp).1
  rw [List.perm_ext_iff_of_nodup hnd.of_map hnd'.of_map]
  refine fun x => ⟨known x, fun hx => ?_⟩
  obtain ⟨y, hy, hname⟩ := List.mem_map.1 (hnames.mem_iff.2 (List.mem_map_of_mem hx))
  obtain rfl := List.inj_on_of_nodup_map hnd' (known y hy) hx hname
  exact hy

end Workspace

def documentRead (manifest : Manifest) (directory : Path) (s : σ) : Option String × σ :=
  (FileSystem.read? (manifest.declarationsPath directory) : StateM σ (Option String)).run s

def Manifest.workspace (manifest : Manifest) (document : Native.Document) : Workspace :=
  { document, packages := manifest.packages, pointerWidth := manifest.project.pointerWidth }

/-- The packages of the given names, or all if there are none. -/
def Manifest.prepareNamed (manifest : Manifest) (names : List String) (document : Native.Document) :
    Except BindingError (List Package) :=
  if names.isEmpty then (manifest.workspace document).prepare
  else (manifest.workspace document).prepareOnly names

def Manifest.prepared (manifest : Manifest) (directory : Path) (names : List String) (text? : Option String) :
    Except CommandError (List Package) := do
  let document ← (text?.elim (.error .unreadable) Native.Document.read).mapError
    (.loadingDeclarations (manifest.declarationsPath directory))
  (manifest.prepareNamed names document).mapError .preparing

variable {manifest : Manifest} {directory : Path} {names : List String} {s : σ} {packages : List Package}

theorem loadDocument_run (path : Path) : (loadDocument path : StateM σ _).run s =
    ((((FileSystem.read? path : StateM σ (Option String)).run s).1.elim (.error .unreadable) Native.Document.read),
      ((FileSystem.read? path : StateM σ (Option String)).run s).2) := by
  unfold loadDocument
  rw [StateT.run_bind]
  rcases (FileSystem.read? path : StateM σ (Option String)).run s with ⟨_ | text, s₁⟩ <;> rfl

/-- Preparing packages does nothing but read the document. -/
theorem preparePackages_run : runOn (preparePackages manifest directory names) s =
    (manifest.prepared directory names (documentRead manifest directory s).1,
      (documentRead manifest directory s).2) := by
  have hload := loadDocument_run (manifest.declarationsPath directory) (s := s)
  rw [← documentRead] at hload
  unfold preparePackages Manifest.prepared
  dsimp only
  rw [runOn_bind (runOn_lift _), hload]
  dsimp only
  cases (documentRead manifest directory s).1.elim (.error .unreadable) Native.Document.read with
  | error e => rfl
  | ok document =>
    show _ = ((manifest.prepareNamed names document).mapError CommandError.preparing, _)
    dsimp only
    rw [pure_bind]
    split
    · rename_i packages hpackages
      rw [show manifest.prepareNamed names document = .ok packages from hpackages]
      rfl
    · rename_i e hfault
      rw [show manifest.prepareNamed names document = .error e from hfault]
      rfl

structure Selected (manifest : Manifest) (names : List String) (document : Native.Document)
    (packages : List Package) : Prop where
  settings : (packages.map (·.settings)).Perm
    (manifest.packages.filter fun x => names.isEmpty || names.contains x.name)
  prepared : ∀ p ∈ packages, ∃ p₀ included,
    Package.ofSettings p.settings document manifest.project.pointerWidth = .ok p₀ ∧
      p₀.prepare included = .ok p

theorem selected_of_prepareNamed {document : Native.Document}
    (h : manifest.prepareNamed names document = .ok packages) :
    Selected manifest names document packages := by
  unfold Manifest.prepareNamed at h
  split at h
  · rename_i hnames
    constructor
    case settings =>
      simp only [hnames, Bool.true_or, List.filter_true]
      exact Workspace.prepare_perm h
    case prepared =>
      intro p hp
      exact (Workspace.prepared_settings h p hp).2
  · rename_i hnames
    obtain ⟨_, -, h⟩ := bind_ok.1 h
    obtain ⟨all, hall, h⟩ := bind_ok.1 h
    cases h
    constructor
    case settings =>
      simp only [hnames, Bool.false_or]
      have := (Workspace.prepare_perm hall).filter fun x => names.contains x.name
      rwa [List.filter_map] at this
    case prepared =>
      intro p hp
      exact (Workspace.prepared_settings hall p (List.mem_of_mem_filter hp)).2

theorem mapError_ok {ε ε' α : Type} {x : Except ε α} {f : ε → ε'} {a : α} :
    x.mapError f = .ok a ↔ x = .ok a := by
  cases x with
  | error e => exact ⟨nofun, nofun⟩
  | ok b => exact ⟨fun h => by cases h; rfl, fun h => by cases h; rfl⟩

theorem prepared_ok {text? : Option String} : manifest.prepared directory names text? = .ok packages ↔
    ∃ text document, text? = some text ∧ Native.Document.read text = .ok document ∧
      manifest.prepareNamed names document = .ok packages := by
  unfold Manifest.prepared
  rw [bind_ok]
  simp only [mapError_ok]
  cases text? with
  | none => simp
  | some text => simp

theorem isOutput_of_prepared {text? : Option String} {e : CommandError}
    (h : manifest.prepared directory names text? = .error e) : e.isOutput = false := by
  unfold Manifest.prepared at h
  cases hread : text?.elim (.error .unreadable) Native.Document.read with
  | error x =>
    rw [hread] at h
    cases h
    rfl
  | ok document =>
    rw [hread] at h
    replace h : (manifest.prepareNamed names document).mapError CommandError.preparing = .error e := h
    cases hnamed : manifest.prepareNamed names document with
    | error x =>
      rw [hnamed] at h
      cases h
      rfl
    | ok packages =>
      rw [hnamed] at h
      cases h

/-! ## Written files -/

def Action.written? : Action → Option (Path × String)
  | .write path content => some (path, content)
  | _ => none

namespace Emission

variable (e : Emission)

/-- The files of a package. It has the C files if it has trampolines, and then its Go file includes
the header. -/
inductive Writes (directory : Path) (files : OutputFiles) : List (Path × String) → Prop
  | go (hnone : e.trampolines = []) (hgo : ¬ e.IncludesHeader files.h (e.goSource (some files.h))) :
    Writes directory files [(directory.join files.go, e.goSource (some files.h))]
  | all {c h : String} (hsome : e.trampolines ≠ [])
    (hgo : e.IncludesHeader files.h (e.goSource (some files.h))) (hc : e.cSource = .ok c)
    (hh : e.cHeader = .ok h) :
    Writes directory files [(directory.join files.go, e.goSource (some files.h)),
      (directory.join files.c, c), (directory.join files.h, h)]

variable {e} {directory : Path} {files : OutputFiles}

theorem writeActions_written : (e.writeActions directory files).filterMap Action.written? =
    (directory.join files.go, e.goSource (some files.h)) ::
      (e.stubActions directory files).filterMap Action.written? := by
  simp [writeActions, Action.written?, List.filterMap_cons]

theorem fail_mem_writeActions {x : CommandError} :
    .fail x ∈ e.writeActions directory files ↔ .fail x ∈ e.stubActions directory files := by
  simp [writeActions]

theorem writeActions_writes (h : e.Renders) :
    e.Writes directory files ((e.writeActions directory files).filterMap Action.written?) ∧
      ∀ x, .fail x ∉ e.writeActions directory files := by
  simp only [writeActions_written, fail_mem_writeActions]
  by_cases hnone : e.trampolines = []
  · have hstubs : e.stubActions directory files = [] := by simp [stubActions, hnone]
    rw [hstubs]
    exact ⟨.go hnone (mt includesHeader_goSource.1 (not_not_intro hnone)), by simp⟩
  · obtain ⟨c, hc⟩ := h.source
    obtain ⟨header, hh⟩ := h.header
    have hstubs : e.stubActions directory files =
        [.write (directory.join files.c) c, .write (directory.join files.h) header] := by
      simp [stubActions, hnone, hc, hh, writeOr]
    rw [hstubs]
    exact ⟨.all hnone (includesHeader_goSource.2 hnone) hc hh, by simp⟩

end Emission

theorem generation_writes {packages : List Package} {architecture : String} {root : Path}
    (h : ∀ p ∈ packages, (Emission.ofPackage p).Renders) :
    (∃ files, List.Forall₂ (fun p => (Emission.ofPackage p).Writes (root.join p.name)
        (p.settings.outputFiles architecture)) packages files ∧
      (generation packages architecture root).filterMap Action.written? = files.flatten) ∧
    ∀ x, .fail x ∉ generation packages architecture root := by
  refine ⟨⟨packages.map fun p => ((Emission.ofPackage p).writeActions (root.join p.name)
    (p.settings.outputFiles architecture)).filterMap Action.written?, ?_, ?_⟩, fun x hx => ?_⟩
  · rw [List.forall₂_map_right_iff, List.forall₂_same]
    intro p hp
    exact (Emission.writeActions_writes (h p hp)).1
  · simp only [generation, List.filterMap_append, List.filterMap_flatMap, List.flatMap_map]
    exact (List.append_nil _).trans List.flatMap_def
  · unfold generation at hx
    rw [List.mem_append, List.mem_singleton, List.mem_flatMap] at hx
    rcases hx with ⟨e, he, hx⟩ | hx
    · obtain ⟨p, hp, rfl⟩ := List.mem_map.1 he
      exact (Emission.writeActions_writes (h p hp)).2 x hx
    · cases hx

/-! ## All or nothing -/

def WritesSelected (manifest : Manifest) (names : List String) (root : Path) (document : Native.Document)
    (actions : List Action) : Prop :=
  ∃ packages files, Selected manifest names document packages ∧
    List.Forall₂ (fun p => (Emission.ofPackage p).Writes (root.join p.name)
      (p.settings.outputFiles manifest.project.architecture)) packages files ∧
    actions.filterMap Action.written? = files.flatten

structure Generates (manifest : Manifest) (directory : Path) (names : List String) (output : Option Path)
    (dryRun : Bool) (s : σ) (out : Except CommandError Unit) (s' : σ) : Prop where
  /-- Unless it is the output that fails, there are no packages, and nothing has been done. -/
  failed : ∀ {e}, out = .error e → e.isOutput = false →
    manifest.prepared directory names (documentRead manifest directory s).1 = .error e ∧
      s' = (documentRead manifest directory s).2
  /-- Output fails where a call of the file system does. -/
  interrupted : ∀ {e}, out = .error e → e.isOutput = true → dryRun = false ∧
    ∃ (actions : List Action) (a : Action) (s₁ : σ),
      Performs actions (documentRead manifest directory s).2 s₁ ∧ a.Fails e s₁ s' ∧ ∀ x, a ≠ .fail x
  complete : out = .ok () → dryRun = false → ∃ text document actions,
    (documentRead manifest directory s).1 = some text ∧ Native.Document.read text = .ok document ∧
      Performs actions (documentRead manifest directory s).2 s' ∧
      WritesSelected manifest names (manifest.outputRoot directory output) document actions
  dry : dryRun = true → ∃ actions, Performs actions (documentRead manifest directory s).2 s' ∧
    ∀ a ∈ actions, ∃ text, a = .print text

def Manifest.actions (manifest : Manifest) (directory : Path) (output : Option Path) (dryRun : Bool)
    (packages : List Package) : List Action :=
  if dryRun then dryGeneration packages manifest.project.architecture
  else generation packages manifest.project.architecture (manifest.outputRoot directory output)

variable {output : Option Path} {dryRun : Bool}

theorem runOn_generate (h : manifest.prepared directory names (documentRead manifest directory s).1 = .ok packages) :
    runOn (generate manifest directory names output dryRun) s =
      runOn ((manifest.actions directory output dryRun packages).forM Action.perform)
        (documentRead manifest directory s).2 := by
  have hrun : runOn (preparePackages manifest directory names) s = _ := preparePackages_run
  rw [h] at hrun
  exact runOn_bind hrun

theorem runOn_generate_error {e : CommandError}
    (h : manifest.prepared directory names (documentRead manifest directory s).1 = .error e) :
    runOn (generate manifest directory names output dryRun) s = (.error e, (documentRead manifest directory s).2) := by
  have hrun : runOn (preparePackages manifest directory names) s = _ := preparePackages_run
  rw [h] at hrun
  exact runOn_bind_error hrun

theorem dryActions_print : ∀ a ∈ manifest.actions directory output true packages, ∃ text, a = .print text := by
  intro a ha
  obtain ⟨e, -, rfl⟩ := List.mem_map.1 ha
  exact ⟨_, rfl⟩

theorem Selected.renders {document : Native.Document} (h : Selected manifest names document packages) :
    ∀ p ∈ packages, (Emission.ofPackage p).Renders := by
  intro p hp
  obtain ⟨_, _, -, hprepare⟩ := h.prepared p hp
  exact Emission.renders_of_prepare hprepare

theorem fail_notMem_actions (h : ∀ p ∈ packages, (Emission.ofPackage p).Renders) (x : CommandError) :
    .fail x ∉ manifest.actions directory output dryRun packages := by
  cases dryRun with
  | true =>
    intro hx
    obtain ⟨_, he⟩ := dryActions_print _ hx
    cases he
  | false => exact (generation_writes h).2 x

theorem generate_run : Generates manifest directory names output dryRun s
    (runOn (generate manifest directory names output dryRun) s).1
    (runOn (generate manifest directory names output dryRun) s).2 := by
  cases hprepared : manifest.prepared directory names (documentRead manifest directory s).1 with
  | error e =>
    rw [runOn_generate_error hprepared]
    constructor
    case failed =>
      intro _ h _
      cases h
      exact ⟨hprepared, rfl⟩
    case interrupted =>
      intro _ h houtput
      cases h
      simp [isOutput_of_prepared hprepared] at houtput
    case complete => exact nofun
    case dry => exact fun _ => ⟨[], .nil, nofun⟩
  | ok packages =>
    obtain ⟨text, document, htext, hdocument, hnamed⟩ := prepared_ok.1 hprepared
    have hselected := selected_of_prepareNamed hnamed
    rw [runOn_generate hprepared]
    rcases perform_all (manifest.actions directory output dryRun packages) (documentRead manifest directory s).2 with
      ⟨s', hrun, hall⟩ | ⟨done, a, rest, e, s₁, s', he, hrun, hdone, hfails⟩
    · rw [hrun]
      constructor
      case failed | interrupted => exact nofun
      case complete =>
        rintro - rfl
        obtain ⟨⟨files, hfiles, hwritten⟩, -⟩ := generation_writes hselected.renders
        exact ⟨text, document, _, htext, hdocument, hall, packages, files, hselected, hfiles, hwritten⟩
      case dry =>
        rintro rfl
        exact ⟨_, hall, dryActions_print⟩
    · rw [hrun]
      have ha : a ∈ manifest.actions directory output dryRun packages := by simp [he]
      have hne : ∀ x, a ≠ .fail x := fun x hx => fail_notMem_actions hselected.renders x (hx ▸ ha)
      have hdry : dryRun ≠ true := by
        rintro rfl
        obtain ⟨_, rfl⟩ := dryActions_print a ha
        cases hfails
      constructor
      case failed =>
        intro _ h houtput
        cases h
        simp [hfails.isOutput hne] at houtput
      case interrupted =>
        intro _ h _
        cases h
        exact ⟨by simpa using hdry, done, a, s₁, hdone, hfails, hne⟩
      case complete => exact nofun
      case dry => exact fun h => absurd h hdry

/-- A generation that fails, but not in its output, leaves the session as it was. -/
theorem Session.generate_unchanged {s s' : Session} {e : CommandError}
    (h : runOn (generate manifest directory names output dryRun) s = (.error e, s'))
    (he : e.isOutput = false) : s' = s := by
  have hgenerates : Generates manifest directory names output dryRun s _ _ := generate_run
  rw [h] at hgenerates
  exact (hgenerates.failed rfl he).2

/-- The C files of prepared packages can be rendered, and a generation writes all files of the selected
packages or, unless it cannot write, none. -/
theorem generate_all_or_nothing (manifest : Manifest) (directory : Path) (names : List String)
    (output : Option Path) (dryRun : Bool) (s : σ) :
    (∀ p included p', Package.prepare p included = .ok p' → (Emission.ofPackage p').Renders) ∧
      Generates manifest directory names output dryRun s
        (runOn (generate manifest directory names output dryRun) s).1
        (runOn (generate manifest directory names output dryRun) s).2 :=
  ⟨fun _ _ _ => Emission.renders_of_prepare, generate_run⟩

/-! A function that takes a callback, in a project with a single package. -/

def walkManifest : Manifest where
  project := { declarations := "walk.json" }
  packages := [{ name := "walk", headers := ["walk.h"], namePrefix := some "walk_" }]

def walkJson : Json :=
  .object [
    ("files", .list [.object [("id", .text "f"), ("name", .text "walk.h")]]),
    ("types", .object [
      ("v", .object [("kind", .text "fundamental"), ("name", .text "void")]),
      ("p", .object [("kind", .text "pointer"), ("pointee", .text "v"), ("size", .whole 8)]),
      ("g", .object [("kind", .text "function_type"), ("returns", .text "v"),
        ("arguments", .list [.object [("name", .text "user"), ("type", .text "p")]])]),
      ("h", .object [("kind", .text "pointer"), ("pointee", .text "g"), ("size", .whole 8)])]),
    ("functions", .list [
      .object [("id", .text "a"), ("name", .text "walk_all"), ("file", .text "f"), ("returns", .text "v"),
        ("arguments", .list [.object [("name", .text "visit"), ("type", .text "h")],
          .object [("name", .text "data"), ("type", .text "p")]])]])]

def walk : Native.Document where
  files := [⟨"f", "walk.h"⟩]
  types := Dict.ofList [
    ("v", .fundamental "void" 0), ("p", .pointer "v" 8),
    ("g", .function { returns := "v", arguments := [⟨"user", "p", .unset⟩] }), ("h", .pointer "g" 8)]
  functions := [
    { id := "a", name := "walk_all", file := "f", returns := "v", variadic := false, callback := none
      arguments := [⟨"visit", "h", .unset⟩, ⟨"data", "p", .unset⟩] }]

def walkSession : Session where
  tree := { entries := Dict.ofList [("/walk.json", .file walkJson.compact)] }
  currentDirectory := "/"

theorem walk_read : Native.Document.read walkJson.compact = .ok walk := by
  have hplain : Json.Plain 5 walkJson := by simp [walkJson]
  have hdecoded : (Json.read? walkJson.compact).bind Native.Document.ofJson? = some walk := by
    rw [hplain.read_compact]
    rfl
  exact Native.Document.read_of_decoded hdecoded

theorem walk_documentRead : documentRead walkManifest "" walkSession = (some walkJson.compact, walkSession) := rfl

def walkFiles : List String :=
  ["/walk.json", "/walk/auto_amd64.c", "/walk/auto_amd64.go", "/walk/auto_amd64.h"]

theorem walk_run : ∃ s, runOn (generate walkManifest "" [] none false) walkSession = (.ok (), s) ∧
    s.tree.files.map (·.1) = walkFiles := by
  obtain ⟨packages, hpackages, hok⟩ := Native.Document.ok_of_any (x := walkManifest.prepareNamed [] walk)
    (f := fun packages =>
      let result := runOn ((walkManifest.actions "" none false packages).forM Action.perform) walkSession
      result.1.isOk && decide (result.2.tree.files.map (·.1) = walkFiles)) (by decide +kernel)
  have hprepared : walkManifest.prepared "" [] (documentRead walkManifest "" walkSession).1 = .ok packages := by
    rw [walk_documentRead]
    exact prepared_ok.2 ⟨_, walk, rfl, walk_read, hpackages⟩
  rw [runOn_generate hprepared, walk_documentRead]
  obtain ⟨hout, hfiles⟩ := Bool.and_eq_true_iff.1 hok
  rcases hrun : runOn ((walkManifest.actions "" none false packages).forM Action.perform) walkSession with
    ⟨_ | _, s⟩
  · rw [hrun] at hout
    cases hout
  · rw [hrun] at hfiles
    exact ⟨s, rfl, of_decide_eq_true hfiles⟩

theorem walk_generates : ∃ s, s.tree.files.map (·.1) = walkFiles ∧
    Generates walkManifest "" [] none false walkSession (.ok ()) s := by
  obtain ⟨s, hrun, hfiles⟩ := walk_run
  obtain ⟨-, hgenerates⟩ := generate_all_or_nothing walkManifest "" [] none false walkSession
  rw [hrun] at hgenerates
  exact ⟨s, hfiles, hgenerates⟩

end Bindery
