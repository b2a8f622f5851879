import Bindery.Proofs.Callback.Spelling
import Bindery.Proofs.Package.Trampolines
import Bindery.Render.Stub

/-!
# The C files of prepared packages

A trampoline gets its signature key only if C can spell all types of the callback, and these are
the types in its stub. So the C files of a prepared package can be written in any case. Its Go
file includes the header with the prototypes just when there are trampolines.
-/

namespace Bindery

open Native (Identity)

open Native.Document (bind_ok lift_ok)

theorem exists_mapM_ok {ε α β : Type} {f : α → Except ε β} {l : List α} (h : ∀ a ∈ l, ∃ b, f a = .ok b) :
    ∃ bs, l.mapM f = .ok bs := by
  induction l with
  | nil => exact ⟨[], rfl⟩
  | cons a l ih =>
    obtain ⟨b, hb⟩ := h a List.mem_cons_self
    obtain ⟨bs, hbs⟩ := ih fun x hx => h x (List.mem_cons_of_mem _ hx)
    refine ⟨b :: bs, ?_⟩
    rw [List.mapM_cons]
    exact bind_ok.2 ⟨b, hb, bind_ok.2 ⟨bs, hbs, rfl⟩⟩

/-! ## Function types -/

structure Native.Document.Declares (d : Native.Document) (id : Identity) (f : Native.FunctionType) : Prop where
  type : d.functionType id = .ok f
  arguments : ∀ a ∈ f.arguments, ∃ s, d.cSpelling a.type = .ok s
  returns : ∃ s, d.cSpelling f.returns = .ok s
  isVoid : ∃ b, d.isVoid f.returns = .ok b

namespace LoweringContext

variable {c : LoweringContext} {r r' : Registry}

theorem isVoid_of_resolveReturn {id : Identity} {returned : Option Descriptor}
    (h : (c.resolveReturn id).run r = .ok (returned, r')) : ∃ b, c.document.isVoid id = .ok b := by
  obtain ⟨b, _, hask, -⟩ := Lowering.run_bind_ok.1 h
  exact ⟨b, (Lowering.run_ask_ok.1 hask).1⟩

theorem declares_of_buildTrampoline {site : CallbackSite} {name : String} {t : Trampoline}
    (h : (c.buildTrampoline site name).run r = .ok (t, r')) :
    ∃ f, c.document.Declares t.functionType f := by
  obtain ⟨f, ps, xs, r₁, returned, key, hf, -, -, hreturned, hkey, rfl⟩ := buildTrampoline_ok.1 h
  obtain ⟨f', parts, result, hf', hparts, hresult, -⟩ := CallbackSite.signatureKey_ok hkey
  obtain rfl := Except.ok.inj (hf.symm.trans hf')
  refine ⟨f, hf, fun a ha => ?_, ⟨result, hresult⟩, isVoid_of_resolveReturn hreturned⟩
  obtain ⟨_, -, s, hs, -⟩ := exists_partner hparts.flip ha
  exact ⟨s, hs⟩

end LoweringContext

namespace Package

variable {p p' : Package} {included : List Package}

theorem prepare_declares (h : p.prepare included = .ok p') :
    ∀ t ∈ p'.trampolines, ∃ f, p'.document.Declares t.functionType f := by
  intro t ht
  obtain ⟨site, name, r, r', -, hbuilt⟩ := prepare_built h t ht
  rw [prepare_document h]
  exact LoweringContext.declares_of_buildTrampoline hbuilt

end Package

/-! ## Stubs -/

namespace Emission

variable {e : Emission} {t : Trampoline}

variable (e) in
def stubParameter (a : Native.Argument × Nat) : Except BindingError (String × String) := do
  let name := stubParameterName a.2 a.1.name
  pure ((← e.package.document.cSpelling a.1.type) ++ " " ++ name, name)

theorem stubParameter_ok {a : Native.Argument × Nat} {x : String × String} :
    e.stubParameter a = .ok x ↔ ∃ s, e.package.document.cSpelling a.1.type = .ok s ∧
      (s ++ " " ++ stubParameterName a.2 a.1.name, stubParameterName a.2 a.1.name) = x := by
  unfold stubParameter
  simp only [bind_ok, lift_ok]
  exact exists_congr fun s => and_congr_right fun _ => ⟨fun h => Except.ok.inj h, fun h => congrArg Except.ok h⟩

/-- What a prototype consists of. -/
theorem prototype_eq {f : Native.FunctionType} {returnsVoid : Bool} {spelling : String}
    {parameters : List (String × String)} (hf : e.package.document.functionType t.functionType = .ok f)
    (hvoid : e.package.document.isVoid f.returns = .ok returnsVoid)
    (hspelling : e.package.document.cSpelling f.returns = .ok spelling)
    (hparameters : f.arguments.zipIdx.mapM e.stubParameter = .ok parameters) :
    e.prototype t = .ok
      { text := (if returnsVoid then "void" else spelling) ++ " " ++ t.cName ++ "(" ++
          (if parameters.isEmpty then "void" else commaSeparated (parameters.map (·.1))) ++ ")"
        argumentNames := parameters.map (·.2), returnsVoid } := by
  unfold prototype
  refine bind_ok.2 ⟨f, lift_ok.2 hf, bind_ok.2 ⟨returnsVoid, lift_ok.2 hvoid, ?_⟩⟩
  cases returnsVoid with
  | true => exact bind_ok.2 ⟨"void", rfl, bind_ok.2 ⟨parameters, hparameters, rfl⟩⟩
  | false => exact bind_ok.2 ⟨spelling, lift_ok.2 hspelling, bind_ok.2 ⟨parameters, hparameters, rfl⟩⟩

theorem stubParameters_ok {f : Native.FunctionType} (h : e.package.document.Declares t.functionType f) :
    ∃ parameters, f.arguments.zipIdx.mapM e.stubParameter = .ok parameters := by
  apply exists_mapM_ok
  intro a ha
  obtain ⟨s, hs⟩ := h.arguments a.1 (List.fst_mem_of_mem_zipIdx ha)
  exact ⟨_, stubParameter_ok.2 ⟨s, hs, rfl⟩⟩

theorem prototype_ok {f : Native.FunctionType} (h : e.package.document.Declares t.functionType f) :
    ∃ q, e.prototype t = .ok q := by
  obtain ⟨parameters, hparameters⟩ := stubParameters_ok h
  obtain ⟨spelling, hspelling⟩ := h.returns
  obtain ⟨returnsVoid, hvoid⟩ := h.isVoid
  exact ⟨_, prototype_eq h.type hvoid hspelling hparameters⟩

structure Renders (e : Emission) : Prop where
  source : ∃ c, e.cSource = .ok c
  header : ∃ h, e.cHeader = .ok h

theorem renders_of_prototypes (h : ∀ t ∈ e.trampolines, ∃ q, e.prototype t = .ok q) : e.Renders where
  source := by
    obtain ⟨stubs, hstubs⟩ := exists_mapM_ok (f := e.stubLines) fun t ht => by
      obtain ⟨q, hq⟩ := h t ht
      exact ⟨_, bind_ok.2 ⟨q, hq, rfl⟩⟩
    exact ⟨_, bind_ok.2 ⟨stubs, hstubs, rfl⟩⟩
  header := by
    obtain ⟨prototypes, hprototypes⟩ := exists_mapM_ok h
    exact ⟨_, bind_ok.2 ⟨prototypes, hprototypes, rfl⟩⟩

/-- The C files of a prepared package can be written. -/
theorem renders_of_prepare {p p' : Package} {included : List Package} (h : p.prepare included = .ok p') :
    (ofPackage p').Renders := by
  apply renders_of_prototypes
  intro t ht
  obtain ⟨f, hf⟩ := Package.prepare_declares h t ((Package.sortByText_perm _ _).subset ht)
  exact prototype_ok hf

/-! ## The include of the header -/

variable (e)

/-- The Go file up to the headers of the settings. -/
def opening : String :=
  unlines ([generatedNotice, "", "package " ++ e.package.name, ""]
    ++ (["/*"] ++ e.package.settings.headers.map fun h => "#include <" ++ h ++ ">"))

/-- The Go file from the system header on. -/
def closing : String :=
  let body := unlines e.bodyLines
  unlines (["#include <stdlib.h>"] ++ e.package.settings.cgoDirectives.map ("#cgo " ++ ·)
    ++ ["*/", "import \"C\"", ""] ++ e.importLines body) ++ trimEnd body ++ "\n"

def IncludesHeader (header text : String) : Prop :=
  ∃ rest, text = e.opening ++ ("#include \"" ++ header ++ "\"\n" ++ rest)

variable {e}

theorem unlines_append (l m : List String) : unlines (l ++ m) = unlines l ++ unlines m := by
  simp [unlines]

theorem goSource_eq (header : String) : e.goSource (some header) = e.opening ++
    ((if e.trampolines.isEmpty then "" else "#include \"" ++ header ++ "\"\n") ++ e.closing) := by
  have hinclude : unlines (if e.trampolines.isEmpty then [] else ["#include \"" ++ header ++ "\""]) =
      if e.trampolines.isEmpty then "" else "#include \"" ++ header ++ "\"\n" := by
    split
    · rfl
    · simp [unlines, String.append_assoc]
  rw [← hinclude]
  simp only [goSource, opening, closing, preambleLines, unlines_append, String.append_assoc,
    Option.toList_some, List.map_singleton]

theorem closing_eq : ∃ rest, e.closing = "#include <" ++ rest := by
  have hfirst : unlines ["#include <stdlib.h>"] = "#include <" ++ "stdlib.h>\n" := by decide
  unfold closing
  simp only [unlines_append, String.append_assoc, hfirst]
  exact ⟨_, rfl⟩

/-- The Go file includes the header just when there are trampolines. -/
theorem includesHeader_goSource {header : String} :
    e.IncludesHeader header (e.goSource (some header)) ↔ e.trampolines ≠ [] := by
  rw [goSource_eq]
  constructor
  · rintro ⟨rest, h⟩ hnil
    obtain ⟨more, hclosing⟩ := e.closing_eq
    have h := (String.append_right_inj _).1 h
    rw [hnil, hclosing] at h
    -- without trampolines a header in angle brackets comes next
    have := congrArg (fun s => s.toList[9]?) h
    simp [String.toList_append] at this
  · intro hne
    refine ⟨e.closing, ?_⟩
    simp [hne]

end Emission

end Bindery
