import Bindery.Proofs.Mentions
import Bindery.Proofs.Package.SizeChecks

/-!
# Imports

The included packages that a file imports are found by a search of its text. The search finds every
package that a managed type is spelled with. It also goes through the native spellings and the names, of
which a remark has one in front of its full stop.
-/

namespace Bindery

open Native (Identity)

/-! ## Files -/

namespace Emission

def mentions (e : Emission) : List Mention :=
  let r := e.package.types
  e.globals.flatMap (fun v => v.type.managedMentions v.managed ("C." ++ v.native))
    ++ e.types.flatMap (·.mentions r)
    ++ e.sizeChecked.flatMap (fun d => [.text d.nativeName, .text d.managed])
    ++ e.functions.flatMap (·.mentions r)
    ++ e.trampolines.flatMap (·.mentions r)

end Emission

section
variable {q : String} {r : Registry} (hq : IsPackageName q)
include hq

theorem mentions_initLines (checked : List Declaration) : Mentions q r (initLines checked)
    (checked.flatMap fun d => [.text d.nativeName, .text d.managed]) := by
  unfold initLines
  split
  · rename_i hnone
    rw [List.isEmpty_iff.1 hnone]
    exact mentions_fixed hq (by simp)
  · refine mentions_between hq ["func init() \x7b"] ["\x7d", ""] (by decide) (by decide) (.flatMap fun d _ => ?_)
    unfold Mentions Declaration.sizeCheckLines
    simp (disch := decide) [String.append_assoc, hq.qualifiedBy_after, hq.qualifiedBy_between,
      hq.qualifiedBy_before, hq.not_qualifiedBy]
    tauto

variable {e : Emission} (hinit : ∀ v ∈ e.globals, (v.initializer? e.package.types).isSome = true)
include hinit

theorem mentions_variableLines : Mentions q e.package.types e.variableLines
    (e.globals.flatMap fun v => v.type.managedMentions v.managed ("C." ++ v.native)) := by
  have hend : ∀ l ∈ if e.globals.isEmpty then [] else [""], IsFixed l := by split <;> decide
  refine mentions_between hq [] _ (by simp) hend ?_
  rw [List.filterMap_eq_flatMap_toList]
  refine .flatMap fun v hv => ?_
  have hline := mentions_toManaged (r := e.package.types) hq .set v.managed ("C." ++ v.native) v.type
  obtain ⟨line, hl⟩ := Option.isSome_iff_exists.1 (hinit v hv)
  have hsingle : v.type.toManaged e.package.types .set v.managed ("C." ++ v.native) = [line] := by
    unfold GlobalVariable.initializer? at hl
    split at hl
    · rename_i l hlines
      split at hl
      · cases hl
      · rw [hlines, Option.some.inj hl]
    · cases hl
  rw [hsingle] at hline
  rw [hl, Option.map_some, Option.toList_some]
  unfold Mentions at *
  simpa (disch := decide) [hq.qualifiedBy_after] using hline

theorem mentions_bodyLines : Mentions q e.package.types e.bodyLines e.mentions := by
  unfold Emission.bodyLines Emission.mentions
  exact ((((mentions_variableLines hq hinit).append (.flatMap fun d _ =>
    mentions_type hq d e.package.rules.pointerWidth)).append (mentions_initLines hq e.sizeChecked)).append
    (.flatMap fun w _ => mentions_wrapper hq w)).append (.flatMap fun t _ => mentions_trampoline hq t)

end

/-! ## Lines of imports -/

def ImportedPackage.line (x : ImportedPackage) : String := "\t" ++ x.name ++ " \"" ++ x.path ++ "\""

/-- The name of a package can be read off the line that imports it. -/
theorem ImportedPackage.name_of_line {x y : ImportedPackage} (hx : IsPackageName x.name) (hy : IsPackageName y.name)
    (h : x.line = y.line) : x.name = y.name := by
  have hword {z : ImportedPackage} (hz : IsPackageName z.name) :
      z.line.toList.tail.takeWhile isWord = z.name.toList := by
    have hline : z.line.toList.tail = z.name.toList ++ ' ' :: '"' :: (z.path.toList ++ ['"']) := by
      simp [ImportedPackage.line]
    have hblank : isWord ' ' = false := by decide
    rw [hline, List.takeWhile_append_of_pos hz.word, List.takeWhile_cons_of_neg (by simp [hblank]), List.append_nil]
  rw [← String.toList_inj, ← hword hx, h, hword hy]

/-- The line that imports a package is none of the fixed ones. -/
theorem ImportedPackage.line_ne {x : ImportedPackage} (hx : IsPackageName x.name) :
    x.line ∉ ["import (", "\t\"unsafe\"", ")", ""] := by
  obtain ⟨c, cs, hl⟩ := List.exists_cons_of_ne_nil (mt String.toList_eq_nil_iff.1 hx.ne_empty)
  have hline : x.line.toList = '\t' :: c :: (cs ++ ' ' :: '"' :: (x.path.toList ++ ['"'])) := by
    simp [ImportedPackage.line, hl]
  have hquote : c ≠ '"' := by
    rintro rfl
    have := hx.word '"' (hl ▸ List.mem_cons_self)
    revert this
    decide
  simp [← String.toList_inj, hline, hquote]

theorem mem_block {line : String} {own others : List String} (hown : line ∉ "import (" :: own ++ [")", ""]) :
    line ∈ (if (own ++ others).isEmpty then [] else "import (" :: (own ++ others) ++ [")", ""]) ↔ line ∈ others := by
  simp only [List.cons_append, List.mem_cons, List.mem_append, not_or] at hown
  split
  · rename_i hnone
    rw [(List.append_eq_nil_iff.1 (List.isEmpty_iff.1 hnone)).2]
  · simp [hown]

theorem Emission.mem_importLines {e : Emission} (hnames : ∀ x ∈ e.package.imports, IsPackageName x.name)
    {x : ImportedPackage} (hx : x ∈ e.package.imports) {body : String} :
    x.line ∈ e.importLines body ↔ usesPackage body x.name = true := by
  have hfixed := ImportedPackage.line_ne (hnames x hx)
  have hown : x.line ∉ "import (" :: (if hasPiece "unsafe." body then ["\t\"unsafe\""] else []) ++ [")", ""] := by
    split
    · exact hfixed
    · exact fun hm => hfixed (by simp only [List.cons_append, List.nil_append, List.mem_cons] at hm ⊢; tauto)
  refine (mem_block hown).trans ?_
  constructor
  · intro h
    obtain ⟨y, hy, hline⟩ := List.mem_map.1 h
    obtain ⟨hy, huses⟩ := List.mem_filter.1 hy
    rwa [ImportedPackage.name_of_line (hnames y hy) (hnames x hx) hline] at huses
  · exact fun h => List.mem_map.2 ⟨x, List.mem_filter.2 ⟨hx, h⟩, rfl⟩

/-! ## Imports of prepared packages -/

namespace Package

variable {p p' : Package} {included : List Package}

theorem globals_initialized : ∀ v ∈ (Emission.ofPackage p).globals, (v.initializer? p.types).isSome = true := by
  intro v hv
  have hkept := (List.mem_filter.1 ((sortByText_perm _ _).mem_iff.1 hv)).2
  exact ((Bool.and_eq_true _ _).mp hkept).2

theorem mentioned_iff {q : String} {r : Registry} {ms : List Mention} : Mentioned q r ms ↔
    (∃ T, .type T ∈ ms ∧ QualifiedBy q (T.managedName r)) ∨ ∃ s, .text s ∈ ms ∧ QualifiedBy q s := by
  constructor
  · intro h
    obtain ⟨m, hm, hq⟩ := h
    cases m with
    | type T => exact .inl ⟨T, hm, hq⟩
    | text s => exact .inr ⟨s, hm, hq⟩
  · intro h
    rcases h with ⟨T, hT, hq⟩ | ⟨s, hs, hq⟩
    · exact ⟨_, hT, hq⟩
    · exact ⟨_, hs, hq⟩

/-- A file imports an included package exactly if something that it mentions has a name qualified by it. So
it imports all that its managed types are spelled with, and besides these what a native spelling, a name or
a literal happens to be qualified by. -/
theorem imports_iff (h : p.prepare included = .ok p') (hnames : ∀ x ∈ included, IsPackageName x.name) :
    let e := Emission.ofPackage p'
    (∀ header, ∃ preamble, e.goSource header =
      unlines (preamble ++ e.importLines (unlines e.bodyLines)) ++ trimEnd (unlines e.bodyLines) ++ "\n") ∧
    ∀ x ∈ included, (ImportedPackage.mk x.name x.settings.path).line ∈ e.importLines (unlines e.bodyLines) ↔
      (∃ T, .type T ∈ e.mentions ∧ QualifiedBy x.name (T.managedName p'.types)) ∨
        ∃ s, .text s ∈ e.mentions ∧ QualifiedBy x.name s := by
  intro e
  refine ⟨fun header => ⟨_, rfl⟩, fun x hx => ?_⟩
  have himports : e.package.imports = _ := prepare_imports h
  have hq := hnames x hx
  have hall : ∀ y ∈ e.package.imports, IsPackageName y.name := by
    rw [himports]
    intro y hy
    obtain ⟨z, hz, rfl⟩ := List.mem_map.1 hy
    exact hnames z hz
  rw [Emission.mem_importLines hall (by rw [himports]; exact List.mem_map_of_mem hx), hq.usesPackage_iff,
    hq.qualifiedBy_unlines]
  exact (mentions_bodyLines hq globals_initialized).trans mentioned_iff

theorem exists_type_iff {q : String} {r : Registry} {ms : List Mention} (hq : IsPackageName q) :
    (∃ T, .type T ∈ ms ∧ QualifiedBy q (T.managedName r)) ↔ ms.any (·.isTypeOf r q) = true := by
  rw [List.any_eq_true]
  constructor
  · intro h
    obtain ⟨T, hT, hqualified⟩ := h
    exact ⟨_, hT, List.contains_iff_mem.2 (hq.qualifiedBy_iff.1 hqualified)⟩
  · intro h
    obtain ⟨m, hm, hqualified⟩ := h
    cases m with
    | type T => exact ⟨T, hm, hq.qualifiedBy_iff.2 (List.contains_iff_mem.1 hqualified)⟩
    | text s => cases hqualified

/-- A package for the header of a struct, or for a header with a typedef of a number, a function of which
returns a value of the given type. -/
def sketch (name file : String) (returned : Identity) : Package where
  settings := { name, path := "example.com/" ++ name }
  filter := .all
  rules := {}
  ownedFiles := [file]
  document := {
    files := [⟨"b", "point.h"⟩, ⟨"u", "shape.h"⟩]
    types := Dict.ofList [
      ("d", .fundamental "double" 8),
      ("s", .struct { name := "extent", file := "b", size := 8, fields := [⟨"x", "d"⟩] }),
      ("t", .typedef { name := "point", file := "u", base := "d", root := some "d", size := 8 })]
    functions := [
      { id := "f1", name := "measure", file := "b", returns := "s", arguments := [], variadic := false
        callback := none },
      { id := "f2", name := "tip", file := "u", returns := returned, arguments := [], variadic := false
        callback := none }]
    globals := [] }

theorem isPackageName_point : IsPackageName "point" where
  ne_empty := by decide
  -- deciding the statement itself would go through every character there is
  word := List.all_eq_true.1 (by decide)
  ne_native := by decide
  ne_unsafe := by decide

/-- What holds of the second package, after the first. -/
theorem sketch_prepared (returned : Identity) (f : Package → Bool)
    (h : ((sketch "point" "b" returned).prepare []).toOption.any (fun base => base.name == "point" &&
      ((sketch "shape" "u" returned).prepare [base]).toOption.any f) = true) :
    ∃ base user, (sketch "point" "b" returned).prepare [] = .ok base ∧ base.name = "point" ∧
      (sketch "shape" "u" returned).prepare [base] = .ok user ∧ f user = true := by
  obtain ⟨base, hbase, hrest⟩ := Native.Document.ok_of_any h
  obtain ⟨hname, huser⟩ := (Bool.and_eq_true _ _).mp hrest
  obtain ⟨user, huser, hf⟩ := Native.Document.ok_of_any huser
  exact ⟨base, user, hbase, beq_iff_eq.1 hname, huser, hf⟩

/-- The result is spelled with the package of the struct, which is imported. -/
theorem sketch_extent_imported : ∃ base user, (sketch "point" "b" "s").prepare [] = .ok base ∧
    (sketch "shape" "u" "s").prepare [base] = .ok user ∧ IsPackageName base.name ∧
      let e := Emission.ofPackage user
      (ImportedPackage.mk base.name base.settings.path).line ∈ e.importLines (unlines e.bodyLines) := by
  obtain ⟨base, user, hbase, hname, huser, htype⟩ := sketch_prepared "s"
    (fun user => (Emission.ofPackage user).mentions.any (·.isTypeOf user.types "point")) (by decide +kernel)
  have hq : IsPackageName base.name := hname ▸ isPackageName_point
  have hiff := (imports_iff huser (by simpa using hq)).2 base (by simp)
  exact ⟨base, user, hbase, huser, hq, hiff.2 (.inl ((exists_type_iff hq).2 (hname ▸ htype)))⟩

/-- No type is spelled with the package, but the remark above the typedef ends with its native name. -/
theorem sketch_point_imported_in_vain : (sketch "shape" "u" "t").document.accept = .ok (sketch "shape" "u" "t").document ∧
    ∃ base user, (sketch "point" "b" "t").prepare [] = .ok base ∧
      (sketch "shape" "u" "t").prepare [base] = .ok user ∧ IsPackageName base.name ∧
      let e := Emission.ofPackage user
      (ImportedPackage.mk base.name base.settings.path).line ∈ e.importLines (unlines e.bodyLines) ∧
        ¬ ∃ T, .type T ∈ e.mentions ∧ QualifiedBy base.name (T.managedName user.types) := by
  refine ⟨rfl, ?_⟩
  obtain ⟨base, user, hbase, hname, huser, hboth⟩ := sketch_prepared "t"
    (fun user => usesPackage (unlines (Emission.ofPackage user).bodyLines) "point" &&
      !(Emission.ofPackage user).mentions.any (·.isTypeOf user.types "point")) (by decide +kernel)
  obtain ⟨huses, htype⟩ := (Bool.and_eq_true _ _).mp hboth
  have hq : IsPackageName base.name := hname ▸ isPackageName_point
  refine ⟨base, user, hbase, huser, hq, ?_, ?_⟩
  · have himports : user.imports = [⟨base.name, base.settings.path⟩] := prepare_imports huser
    exact (Emission.mem_importLines (e := .ofPackage user) (by simpa [Emission.ofPackage, himports] using hq)
      (x := ⟨base.name, base.settings.path⟩) (by simp [Emission.ofPackage, himports])).2 (hname ▸ huses)
  · rw [exists_type_iff hq, hname]
    exact ne_true_of_eq_false (Bool.not_eq_true' _ ▸ htype)

end Package

end Bindery
