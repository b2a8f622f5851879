/-!
# Lines of source text
-/

namespace Bindery

def unlines (lines : List String) : String := String.join (lines.map (· ++ "\n"))

def indented (lines : List String) : List String := lines.map ("\t" ++ ·)

def commaSeparated (items : List String) : String := ", ".intercalate items

end Bindery
