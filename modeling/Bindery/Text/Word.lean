import Bindery.Unicode.Property

/-!
# Word characters

The characters that patterns count as parts of a word: letters, marks, decimal and
letter numbers, connectors, the circled and squared letters, and the two joiners.
-/

namespace Bindery

def isAsciiWord (c : Char) : Bool := c.isAlphanum || c == '_'

def isWord (c : Char) : Bool :=
  if c.toNat < 0x80 then isAsciiWord c else Unicode.wordCharacter.has c

def isWordBoundary (before after : Option Char) : Bool := before.any isWord != after.any isWord

end Bindery
