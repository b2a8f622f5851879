import Bindery.Project.Command

/-!
# The command line

Arguments are read from left to right, and the first that is not understood ends the
reading. Options are written `--name value` or `--name=value`; a value that begins with a
dash needs the second form.
-/

namespace Bindery

inductive Invocation where
  | help
  | version
  | command (c : Command)
  deriving DecidableEq, Repr

namespace CommandLine

inductive OptionKind where
  | switch
  | text
  | path
  /-- A text each time it is given. -/
  | texts
  deriving DecidableEq, Repr

def optionsOf : String → Option (List (String × OptionKind))
  | "generate" =>
    some [("manifest", .path), ("package", .texts), ("output-dir", .path), ("dry-run", .switch)]
  | "inspect" => some [("manifest", .path), ("package", .text), ("export", .text)]
  | "decls" => some [("input", .path)]
  | _ => none

/-! ## Reading options -/

inductive Argument where
  | ending
  /-- A name after two dashes, with the value that is attached to it. -/
  | long (name : String) (attached : Option String)
  /-- Letters after one dash. -/
  | short (letters : List Char)
  | plain (text : String)
  deriving DecidableEq, Repr

def Argument.ofString (s : String) : Argument :=
  match s.toList with
  | ['-', '-'] => .ending
  | '-' :: '-' :: cs =>
    let name := String.ofList (cs.takeWhile (· != '='))
    match cs.dropWhile (· != '=') with
    | [] => .long name none
    | _ :: value => .long name (some (String.ofList value))
  | '-' :: c :: cs => .short (c :: cs)
  | _ => .plain s

inductive Halt where
  | misuse
  | help
  | version
  deriving DecidableEq, Repr

def readLetters (versioned : Bool) : List Char → Except Halt Unit
  | [] => pure ()
  | 'v' :: cs => readLetters versioned cs
  | 'h' :: _ => throw .help
  | 'V' :: _ => throw (if versioned then .version else .misuse)
  | _ => throw .misuse

def readCommon (versioned : Bool) : String → Except Halt Unit
  | "verbose" => pure ()
  | "help" => throw .help
  | "version" => throw (if versioned then .version else .misuse)
  | _ => throw .misuse

abbrev Given := List (String × String)

def takeValue (attached : Option String) (rest : List String) :
    Except Halt (String × List String) :=
  match attached, rest with
  | some value, rest => pure (value, rest)
  | none, next :: rest =>
    match Argument.ofString next with
    | .plain value => pure (value, rest)
    | _ => throw .misuse
  | none, [] => throw .misuse

def admits (given : Given) (name : String) (kind : OptionKind) (value : String) : Bool :=
  (kind == .texts || (given.lookup name).isNone) && !(kind == .path && value.isEmpty)

def readOptions (kinds : List (String × OptionKind)) :
    (steps : Nat) → Given → List String → Except Halt Given
  | 0, _, _ => throw .misuse
  | _ + 1, given, [] => pure given
  | steps + 1, given, arg :: rest =>
    match Argument.ofString arg with
    | .ending => if rest.isEmpty then pure given else throw .misuse
    | .plain _ => throw .misuse
    | .short letters => do
      readLetters false letters
      readOptions kinds steps given rest
    | .long name attached =>
      match kinds.lookup name with
      | none => do
        if attached.isSome then throw .misuse
        readCommon false name
        readOptions kinds steps given rest
      | some .switch =>
        if attached.isSome || (given.lookup name).isSome then throw .misuse
        else readOptions kinds steps (given ++ [(name, "")]) rest
      | some kind => do
        let (value, rest) ← takeValue attached rest
        if admits given name kind value then readOptions kinds steps (given ++ [(name, value)]) rest
        else throw .misuse

/-! ## Commands -/

def require (given : Given) (name : String) : Except Halt String :=
  match given.lookup name with
  | some value => pure value
  | none => throw .misuse

def commandOf (name : String) (given : Given) : Except Halt Command := do
  match name with
  | "generate" =>
    let packages := (given.filter (·.1 == "package")).map (·.2)
    pure (.generate (given.lookup "manifest") packages (given.lookup "output-dir")
      (given.lookup "dry-run").isSome)
  | "inspect" =>
    pure (.inspect (given.lookup "manifest") (← require given "package") (given.lookup "export"))
  | "decls" => pure (.decls (← require given "input"))
  | _ => throw .misuse

/-- Reads the arguments up to the name of a command and hands over the rest. -/
def readCommand : List String → Except Halt Command
  | [] => throw .misuse
  | arg :: rest =>
    match Argument.ofString arg with
    | .ending => throw .misuse
    | .short letters => do
      readLetters true letters
      readCommand rest
    | .long name attached => do
      if attached.isSome then throw .misuse
      readCommon true name
      readCommand rest
    | .plain "help" =>
      match rest with
      | [] => throw .help
      | [name] => throw (if (optionsOf name).isSome || name == "help" then .help else .misuse)
      | _ => throw .misuse
    | .plain name =>
      match optionsOf name with
      | none => throw .misuse
      | some kinds => do commandOf name (← readOptions kinds (rest.length + 1) [] rest)

def read? (args : List String) : Option Invocation :=
  match readCommand args with
  | .ok c => some (.command c)
  | .error .help => some .help
  | .error .version => some .version
  | .error .misuse => none

end CommandLine

/-! ## Invocation -/

inductive Ending where
  | success
  | failure (e : CommandError)
  | misuse
  deriving DecidableEq, Repr

def Ending.code : Ending → Nat
  | success => 0
  | failure _ => 1
  | misuse => 2

def versionText : String := "cbridge 0.1.0\n"

def helpText : String :=
  unlines
    ["C to Go binding generator", "", "Usage: cbridge [-v]... <COMMAND>", "", "Commands:",
     "  generate [--manifest PATH] [--package NAME]... [--output-dir PATH] [--dry-run]",
     "  inspect --package NAME [--manifest PATH] [--export text|json]",
     "  decls --input PATH"]

def invoke {m : Type → Type} [Monad m] [FileSystem m] (currentDirectory : Path)
    (args : List String) : m Ending := do
  match CommandLine.read? args with
  | none => pure .misuse
  | some .help => do
    FileSystem.print helpText
    pure .success
  | some .version => do
    FileSystem.print versionText
    pure .success
  | some (.command c) =>
    match ← (c.run currentDirectory).run with
    | .ok _ => pure .success
    | .error e => pure (.failure e)

end Bindery
