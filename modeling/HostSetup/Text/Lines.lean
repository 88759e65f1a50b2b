/-!
Lines of a text, and the cut at the first occurrence of a character.
-/
namespace HostSetup.Text

/-- A carriage return that ends a line belongs to the line break. -/
def dropReturn (line : List Char) : List Char :=
  if line.getLast? = some '\r' then line.dropLast else line

/-- What stands before the line feeds, and what follows the last one unless it is empty. -/
def lineList (cs : List Char) : List (List Char) :=
  let pieces := cs.splitOn '\n'
  pieces.dropLast.map dropReturn ++ pieces.getLast?.toList.filter (!·.isEmpty)

def lines (s : String) : List String := (lineList s.toList).map .ofList

def firstLine (s : String) : String := (lines s).headD ""

/-- Both sides of the first occurrence of a character. -/
def cut? (mark : Char) (s : String) : Option (String × String) :=
  match s.toList.splitOn mark with
  | [] | [_] => none
  | left :: right => some (.ofList left, .ofList ([mark].intercalate right))

def joinLines (parts : List String) : String := "\n".intercalate parts

end HostSetup.Text
