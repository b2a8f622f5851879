import Bindery.Callback.Trampoline
import Bindery.Emission
import Bindery.Json.Printer

/-!
# Listings

What a package declares and what a document holds, one line for each declaration or kind.
-/

namespace Bindery

structure Row where
  kind : String
  native : String
  managed : String
  deriving DecidableEq, Repr

def padded (width : Nat) (s : String) : String :=
  s ++ String.ofList (List.replicate (width - s.length) ' ')

namespace Emission

variable (e : Emission)

/-- All declarations in the order of the Go file; methods follow their type. -/
def rows : List Row :=
  e.globals.map (fun v => { kind := "variable", native := v.native, managed := v.managed })
    ++ e.types.flatMap (fun d =>
      { kind := d.kindName, native := d.native, managed := d.managed }
        :: d.sortedMethods.map fun w =>
          { kind := "method", native := w.native, managed := d.managed ++ "." ++ w.managed })
    ++ e.functions.map (fun w => { kind := "function", native := w.native, managed := w.managed })
    ++ e.trampolines.map fun t =>
      { kind := "trampoline", native := t.cName, managed := t.goName }

/-- The column of native names is as wide as the longest of them is in bytes. -/
def nativeWidth (rows : List Row) : Nat := (rows.map (·.native.utf8ByteSize)).max?.getD 0

def listing : String :=
  let width := nativeWidth e.rows
  String.join <|
    ["--- " ++ e.package.name ++ " (" ++ e.package.settings.path ++ ") ---\n"]
      ++ e.rows.map (fun r =>
        "  " ++ padded 10 r.kind ++ " " ++ padded width r.native ++ "  " ++ r.managed ++ "\n")
      ++ ["\n", e.statistics.summary ++ "\n"]

end Emission

def Statistics.toJson (s : Statistics) : Json :=
  .object [("functions", .whole s.functions), ("methods", .whole s.methods),
    ("trampolines", .whole s.trampolines), ("types", .whole s.types),
    ("variables", .whole s.globals)]

def Row.toJson (r : Row) : Json :=
  .object [("kind", .text r.kind), ("managed", .text r.managed), ("native", .text r.native)]

/-- The listing as JSON, with the members of each object in the order of their names. -/
def Emission.jsonListing (e : Emission) : String :=
  let value := Json.object [("declarations", .list (e.rows.map Row.toJson)),
    ("package", .text e.package.name), ("statistics", e.statistics.toJson)]
  value.pretty ++ "\n"

def Native.Document.listing (d : Native.Document) (path : String) : String :=
  let count (title : String) (n : Nat) : String :=
    "  " ++ padded 12 (title ++ ":") ++ toString n ++ "\n"
  String.join <|
    ["--- Declarations (" ++ path ++ ") ---\n", count "Files" d.files.length,
     count "Functions" d.functions.length,
     count "Variadic" (d.functions.filter (·.variadic)).length,
     count "Variables" d.globals.length, count "Types" d.types.size]
      ++ d.kindCounts.entries.map fun (kind, n) =>
        "    " ++ padded 16 kind ++ " " ++ toString n ++ "\n"

end Bindery
