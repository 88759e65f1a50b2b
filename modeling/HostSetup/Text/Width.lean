import HostSetup.Text.EmojiTable
import HostSetup.Text.WidthTable

/-!
The number of columns a line takes on a terminal. Characters are counted one by one, but an emoji
with its modifiers takes two columns as a whole, and so do several that are joined.
-/
namespace HostSetup.Text
namespace Width

/-- Control characters take one column: their effect is not known here. -/
def ofChar (c : Char) : Nat :=
  if c.toNat < 0xa0 then 1
  else if zeroWidth.holds c then 0
  else if wide.holds c then 2
  else 1

/-- Asks for the emoji form of the character before it. -/
def emojiSelector : Char := '\ufe0f'

/-- Asks for the plain form of the emoji before it. -/
def plainSelector : Char := '\ufe0e'

/-- Ideographs that take two columns in either form. -/
def isEnclosedIdeograph (c : Char) : Bool := 0x1f200 ≤ c.toNat && c.toNat ≤ 0x1f2ff

/-- An emoji that is shown as a narrow sign. -/
def isPlain (c : Char) (rest : List Char) : Bool :=
  rest.head? = some plainSelector && emoji.holds c && !isEnclosedIdeograph c

/-- Joins two emoji into one. -/
def joiner : Char := '\u200d'

/-- The number of characters of the emoji that a line begins with, 0 if it begins with none. -/
def emojiLength : List Char → Nat
  | c :: next :: _ =>
    if modifier.holds next && modifierBase.holds c then 2
    else if next = emojiSelector && (emoji.holds c || emojiOnDemand.holds c) then 2
    else if emoji.holds c then 1
    else 0
  | [c] => if emoji.holds c then 1 else 0
  | [] => 0

/-- `skip` characters have been counted already; a joined emoji takes no more columns. -/
def ofLine : Nat → Bool → List Char → Nat
  | _, _, [] => 0
  | skip + 1, joined, _ :: cs => ofLine skip joined cs
  | 0, joined, c :: cs =>
    if isPlain c cs then 1 + ofLine 1 false cs
    else match emojiLength (c :: cs) with
    | 0 => ofChar c + ofLine 0 false cs
    | more + 1 =>
      (if joined then 0 else 2) +
        if (cs.drop more).head? = some joiner then ofLine (more + 1) true cs else ofLine more false cs

end Width

def width (line : List Char) : Nat := Width.ofLine 0 false line

example : width "日本é".toList = 5 := by cbv
example : width "⌚\ufe0e⌚".toList = 3 := by cbv
example : width "1\ufe0f⚠\ufe0f".toList = 4 := by cbv

end HostSetup.Text
