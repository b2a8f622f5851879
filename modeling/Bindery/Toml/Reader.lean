import Bindery.Toml.Scalar
import Bindery.Toml.Tables

/-!
# Reading TOML

`Toml.read?` reads a whole settings file. Steps return the rest of the text; the
recursion into arrays and inline tables is bounded by the length of the text.
-/

namespace Bindery.Toml

def isSpace (c : Char) : Bool := c == ' ' || c == '\t'

def skipSpace (cs : List Char) : List Char := cs.dropWhile isSpace

/-- Characters that may stand in texts and comments: all but the control characters. -/
def isPlain (c : Char) : Bool := c == '\t' || (0x20 ≤ c.toNat && c != '\x7f')

def newline? : List Char → Option (List Char)
  | '\n' :: rest => some rest
  | '\r' :: '\n' :: rest => some rest
  | _ => none

def skipComment : List Char → List Char
  | '#' :: rest => rest.dropWhile isPlain
  | rest => rest

def endOfLine? (cs : List Char) : Option (List Char) :=
  match skipComment (skipSpace cs) with
  | [] => some []
  | rest => newline? rest

def skipLines : Nat → List Char → List Char
  | 0, cs => cs
  | fuel + 1, cs =>
    let rest := skipComment (skipSpace cs)
    match newline? rest with
    | some rest => skipLines fuel rest
    | none => rest

/-! ## Texts -/

def hexDigits? (width : Nat) (cs : List Char) : Option (Char × List Char) :=
  let ds := cs.take width
  let n := natOf 16 ds
  if ds.length == width && ds.all isHexDigit && n.isValidChar then
    some (Char.ofNat n, cs.drop width)
  else
    none

def escape? : List Char → Option (Char × List Char)
  | 'b' :: rest => some ('\x08', rest)
  | 't' :: rest => some ('\t', rest)
  | 'n' :: rest => some ('\n', rest)
  | 'f' :: rest => some ('\x0c', rest)
  | 'r' :: rest => some ('\r', rest)
  | '"' :: rest => some ('"', rest)
  | '\\' :: rest => some ('\\', rest)
  | 'u' :: rest => hexDigits? 4 rest
  | 'U' :: rest => hexDigits? 8 rest
  | _ => none

def lineText? (quote : Char) : Nat → List Char → List Char → Option (String × List Char)
  | 0, _, _ => none
  | fuel + 1, read, cs =>
    match cs with
    | [] => none
    | c :: rest =>
      if c == quote then some (String.ofList read.reverse, rest)
      else if c == '\\' && quote == '"' then do
        let (c, rest) ← escape? rest
        lineText? quote fuel (c :: read) rest
      else if isPlain c then lineText? quote fuel (c :: read) rest
      else none

/-- Quotes at the end of a text on several lines: up to two more belong to the text. -/
def closing? (quote : Char) (cs : List Char) : Option (List Char × List Char) :=
  let quotes := cs.takeWhile (· == quote)
  let extra := min (quotes.length - 3) 2
  if quotes.length < 3 then none else some (List.replicate extra quote, cs.drop (3 + extra))

def skipBlankLines : Nat → List Char → List Char
  | 0, cs => cs
  | fuel + 1, cs =>
    let rest := skipSpace cs
    match newline? rest with
    | some rest => skipBlankLines fuel rest
    | none => rest

def blockText? (quote : Char) : Nat → List Char → List Char → Option (String × List Char)
  | 0, _, _ => none
  | fuel + 1, read, cs =>
    match closing? quote cs with
    | some (quotes, rest) => some (String.ofList (read.reverse ++ quotes), rest)
    | none =>
      match newline? cs with
      | some rest => blockText? quote fuel ('\n' :: read) rest
      | none =>
        match cs with
        | [] => none
        | c :: rest =>
          if c == '\\' && quote == '"' then
            match newline? (skipSpace rest) with
            | some rest => blockText? quote fuel read (skipBlankLines rest.length rest)
            | none => do
              let (c, rest) ← escape? rest
              blockText? quote fuel (c :: read) rest
          else if isPlain c then blockText? quote fuel (c :: read) rest
          else none

def quoted? (quote : Char) (cs : List Char) : Option (String × List Char) :=
  match cs with
  | a :: b :: rest =>
    if a == quote && b == quote then
      let rest := (newline? rest).getD rest
      blockText? quote (rest.length + 1) [] rest
    else lineText? quote (cs.length + 1) [] cs
  | _ => lineText? quote (cs.length + 1) [] cs

/-! ## Keys -/

def isBareKeyChar (c : Char) : Bool := c.isAlphanum || c == '-' || c == '_'

def simpleKey? (cs : List Char) : Option (String × List Char) :=
  match cs with
  | '"' :: rest => lineText? '"' (rest.length + 1) [] rest
  | '\'' :: rest => lineText? '\'' (rest.length + 1) [] rest
  | cs =>
    let key := cs.takeWhile isBareKeyChar
    if key.isEmpty then none else some (String.ofList key, cs.dropWhile isBareKeyChar)

def key? : Nat → List Char → Option (List String × List Char)
  | 0, _ => none
  | fuel + 1, cs => do
    let (part, rest) ← simpleKey? (skipSpace cs)
    let rest := skipSpace rest
    match rest with
    | '.' :: rest => (key? fuel rest).map fun (parts, rest) => (part :: parts, rest)
    | rest => pure ([part], rest)

/-- How deep values may be nested, and how many parts a key may have. -/
def depthLimit : Nat := 79

def path? (cs : List Char) : Option (List String × List Char) := do
  let (parts, rest) ← key? (cs.length + 1) cs
  if depthLimit < parts.length then none else pure (parts, rest)

/-! ## Values -/

mutual

def value? (depth : Nat) : Nat → List Char → Option (Toml × List Char)
  | 0, _ => none
  | fuel + 1, cs =>
    match cs with
    | '"' :: rest => (quoted? '"' rest).map fun (s, rest) => (.text s, rest)
    | '\'' :: rest => (quoted? '\'' rest).map fun (s, rest) => (.text s, rest)
    | '[' :: rest =>
      if depth = 0 then none
      else (items? (depth - 1) fuel rest).map fun (items, rest) => (.array items, rest)
    | '\x7b' :: rest =>
      if depth = 0 then none
      else
        match skipSpace rest with
        | '\x7d' :: rest => some (.table [], rest)
        | rest =>
          (inlineTable? (depth - 1) fuel emptyRoot rest).map fun (t, rest) => (t.toToml, rest)
    | cs => do
      let (word, rest) := scalarText cs
      let v ← scalar? word
      pure (v, rest)

def items? (depth : Nat) : Nat → List Char → Option (List Toml × List Char)
  | 0, _ => none
  | fuel + 1, cs =>
    match skipLines cs.length cs with
    | ']' :: rest => some ([], rest)
    | cs => do
      let (item, rest) ← value? depth fuel cs
      match skipLines rest.length rest with
      | ',' :: rest => (items? depth fuel rest).map fun (items, rest) => (item :: items, rest)
      | ']' :: rest => pure ([item], rest)
      | _ => none

def inlineTable? (depth : Nat) : Nat → OpenTable → List Char → Option (OpenTable × List Char)
  | 0, _, _ => none
  | fuel + 1, t, cs => do
    let (path, rest) ← path? cs
    match rest with
    | '=' :: rest =>
      let (v, rest) ← value? depth fuel (skipSpace rest)
      let t ← putValue path v t
      match skipSpace rest with
      | ',' :: rest => inlineTable? depth fuel t rest
      | '\x7d' :: rest => pure (t, rest)
      | _ => none
    | _ => none

end

/-! ## Files -/

/-- A file that has been read in part: its tables, and the header that is in force. -/
structure Reading where
  root : OpenTable
  header : List String

def expression? (r : Reading) (cs : List Char) : Option (Reading × List Char) :=
  match cs with
  | '[' :: '[' :: rest => do
    let (path, rest) ← path? rest
    match rest with
    | ']' :: ']' :: rest =>
      pure ({ root := ← openArray path r.root, header := path }, ← endOfLine? rest)
    | _ => none
  | '[' :: rest => do
    let (path, rest) ← path? rest
    match rest with
    | ']' :: rest => pure ({ root := ← openTable path r.root, header := path }, ← endOfLine? rest)
    | _ => none
  | cs => do
    let (path, rest) ← path? cs
    match rest with
    | '=' :: rest =>
      let rest := skipSpace rest
      let (v, rest) ← value? depthLimit (2 * rest.length + 2) rest
      let root ← descend false r.header (putValue path v) r.root
      pure ({ r with root }, ← endOfLine? rest)
    | _ => none

def expressions? : Nat → Reading → List Char → Option Reading
  | 0, _, _ => none
  | fuel + 1, r, cs =>
    match skipLines cs.length cs with
    | [] => some r
    | cs => do
      let (r, rest) ← expression? r cs
      expressions? fuel r rest

def read? (s : String) : Option Toml := do
  let cs := match s.toList with
    | '\ufeff' :: cs => cs
    | cs => cs
  let r ← expressions? (cs.length + 1) { root := emptyRoot, header := [] } cs
  pure r.root.toToml

end Bindery.Toml
