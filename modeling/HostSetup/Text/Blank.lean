/-!
Blank characters: trimming them off a text, and the words that stand between them.
-/
namespace HostSetup.Text

/-- The characters with the property White_Space. -/
def isBlank (c : Char) : Bool :=
  c = ' ' || ('\t' ≤ c && c ≤ '\r') || c = '\u0085' || c = '\u00a0' || c = '\u1680' ||
    ('\u2000' ≤ c && c ≤ '\u200a') || c = '\u2028' || c = '\u2029' || c = '\u202f' ||
    c = '\u205f' || c = '\u3000'

/-- Without the characters at both ends that satisfy `p`. -/
def stripEnds (p : Char → Bool) (cs : List Char) : List Char :=
  ((cs.dropWhile p).reverse.dropWhile p).reverse

def trim (s : String) : String := .ofList (stripEnds isBlank s.toList)

/-- Without one kind of character at both ends, however often it stands there. -/
def unwrap (mark : Char) (s : String) : String := .ofList (stripEnds (· == mark) s.toList)

/-- The runs of characters between blanks, none of them empty. -/
def fields (cs : List Char) : List (List Char) := (cs.splitOnP isBlank).filter (!·.isEmpty)

def words (s : String) : List String := (fields s.toList).map .ofList

theorem fields_nil : fields [] = [] := rfl

/-- A blank between two texts keeps their words apart. -/
theorem fields_append_blank (left right : List Char) {c : Char} (blank : isBlank c = true) :
    fields (left ++ c :: right) = fields left ++ fields right := by
  simp [fields, List.splitOnP_append_cons left right blank]

end HostSetup.Text
