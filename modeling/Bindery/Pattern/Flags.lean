import Bindery.Pattern.Tree
import Bindery.Text.Blank
import Bindery.Unicode.Folding

/-!
# Flags of patterns

Flags such as `(?i)` change what the characters of a pattern stand for. Without the
Unicode mode a pattern may name ASCII characters only, and it may not ask for all but some
of them, for that would take in parts of characters.
-/

namespace Bindery

structure Flags where
  ignoreCase : Bool := false
  multiLine : Bool := false
  dotMatchesNewline : Bool := false
  swapGreed : Bool := false
  unicode : Bool := true
  carriageReturn : Bool := false
  verbose : Bool := false

/-- Drops blanks and comments. A comment goes from a number sign to the end of the line. -/
def dropIdle (inComment : Bool) : List Char → List Char
  | [] => []
  | c :: rest =>
    if inComment then dropIdle (c != '\n') rest
    else if isBlank c then dropIdle false rest
    else if c == '#' then dropIdle true rest
    else c :: rest

namespace Flags

def skip (f : Flags) (cs : List Char) : List Char := if f.verbose then dropIdle false cs else cs

def set? (f : Flags) (letter : Char) (on : Bool) : Option Flags :=
  match letter with
  | 'i' => some { f with ignoreCase := on }
  | 'm' => some { f with multiLine := on }
  | 's' => some { f with dotMatchesNewline := on }
  | 'U' => some { f with swapGreed := on }
  | 'u' => some { f with unicode := on }
  | 'R' => some { f with carriageReturn := on }
  | 'x' => some { f with verbose := on }
  | _ => none

/-! ## Sets -/

def fold (f : Flags) (s : CodeSet) : CodeSet :=
  if !f.ignoreCase then s else if f.unicode then s.folded else s.foldedAscii

def negated? (f : Flags) (negate : Bool) (s : CodeSet) : Option CodeSet :=
  if !negate then some s else if f.unicode then some s.compl else none

def allows (f : Flags) (c : Char) : Bool := f.unicode || c.toNat < 0x80

def literal (f : Flags) (c : Char) : PatternTree :=
  if f.ignoreCase then .ofSet (f.fold (.single c)) else .text [c]

def point? (f : Flags) : Option PatternTree :=
  if !f.unicode then none
  else if f.dotMatchesNewline then some (.ofSet .any)
  else if f.carriageReturn then some (.ofSet (CodeSet.ofRanges [('\n', '\n'), ('\r', '\r')]).compl)
  else some (.ofSet (CodeSet.single '\n').compl)

/-- The sets `\d`, `\s`, `\w` and, in upper case, their complements. -/
def letterSet? (f : Flags) (c : Char) : Option CodeSet :=
  match c.toLower with
  | 'd' =>
    f.negated? (c == 'D') (if f.unicode then Unicode.decimalNumber else .range '0' '9')
  | 's' =>
    f.negated? (c == 'S')
      (if f.unicode then Unicode.whiteSpace else .ofRanges [('\t', '\r'), (' ', ' ')])
  | 'w' =>
    f.negated? (c == 'W')
      (if f.unicode then Unicode.wordCharacter
        else .ofRanges [('0', '9'), ('A', 'Z'), ('_', '_'), ('a', 'z')])
  | _ => none

/-- The sets of the form `[:name:]`, which have characters below 128 only. -/
def asciiSets : List (String × List (Char × Char)) :=
  [("alnum", [('0', '9'), ('A', 'Z'), ('a', 'z')]),
   ("alpha", [('A', 'Z'), ('a', 'z')]),
   ("ascii", [('\x00', '\x7f')]),
   ("blank", [('\t', '\t'), (' ', ' ')]),
   ("cntrl", [('\x00', '\x1f'), ('\x7f', '\x7f')]),
   ("digit", [('0', '9')]),
   ("graph", [('!', '~')]),
   ("lower", [('a', 'z')]),
   ("print", [(' ', '~')]),
   ("punct", [('!', '/'), (':', '@'), ('[', '\x60'), ('\x7b', '~')]),
   ("space", [('\t', '\r'), (' ', ' ')]),
   ("upper", [('A', 'Z')]),
   ("word", [('0', '9'), ('A', 'Z'), ('_', '_'), ('a', 'z')]),
   ("xdigit", [('0', '9'), ('A', 'F'), ('a', 'f')])]

/-! ## Places -/

def lineStart (f : Flags) : Look :=
  if !f.multiLine then .textStart else if f.carriageReturn then .anyLineStart else .lineStart

def lineEnd (f : Flags) : Look :=
  if !f.multiLine then .textEnd else if f.carriageReturn then .anyLineEnd else .lineEnd

end Flags

end Bindery
