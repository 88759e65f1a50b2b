import HostSetup.Proofs.Text.Substitution
import HostSetup.Translator

/-!
Placeholders of a command line. The program replaces the interpreter first and the directory of the
helper scripts in what that leaves, so the second pass might find a placeholder that the first one
has made. It finds none if the name of the interpreter has no brace and is no part of the word
between the braces of the second placeholder: then both passes do what one pass over the line as it
was written does, with any directory.
-/
namespace HostSetup

/-- What a line can leave to the translator. -/
inductive Placeholder
  | python
  | readies
  deriving DecidableEq, Repr

namespace Placeholder

def name : Placeholder → String
  | .python => "python"
  | .readies => "readies"

/-- As it is written in a line. -/
def word (hole : Placeholder) : List Char := '{' :: hole.name.toList ++ ['}']

/-- The placeholder that a line begins with. -/
def begins? (line : List Char) : Option Placeholder :=
  [python, readies].find? (·.word.isPrefixOf line)

theorem begins?_word (hole : Placeholder) (rest : List Char) :
    begins? (hole.word ++ rest) = some hole := by
  cases hole <;> rfl

theorem begins?_eq_none {line : List Char} (absent : ∀ hole : Placeholder, ¬hole.word <+: line) :
    begins? line = none := by
  simp [begins?, absent]

/-- A line is empty, or begins with a placeholder or with a letter that begins none. -/
@[elab_as_elim]
theorem line_induction {motive : List Char → Prop} (nil : motive [])
    (placeholder : ∀ (hole : Placeholder) (rest : List Char), motive rest → motive (hole.word ++ rest))
    (letter : ∀ (c : Char) (rest : List Char), (∀ hole : Placeholder, ¬hole.word <+: c :: rest) →
      motive rest → motive (c :: rest))
    (line : List Char) : motive line := by
  induction length : line.length using Nat.strongRecOn generalizing line with
  | ind n ih =>
    cases line with
    | nil => exact nil
    | cons c rest =>
      by_cases begins : ∃ hole : Placeholder, hole.word <+: c :: rest
      · obtain ⟨hole, behind, whole⟩ := begins
        have shorter : behind.length < n := by
          rw [← length, ← whole, List.length_append]
          have some_word : 0 < hole.word.length := by simp [word]
          omega
        rw [← whole]
        exact placeholder hole behind (ih _ shorter behind rfl)
      · have shorter : rest.length < n := by
          rw [← length]
          exact Nat.lt_succ_self _
        exact letter c rest (not_exists.mp begins) (ih _ shorter rest rfl)

end Placeholder

/-- A placeholder in a line, or a letter that stands for itself. -/
inductive Piece
  | placeholder (hole : Placeholder)
  | letter (c : Char)
  deriving DecidableEq, Repr

namespace Piece

/-- What becomes of a piece, given what is put in for the placeholders. -/
def filled (value : Placeholder → List Char) : Piece → List Char
  | .placeholder hole => value hole
  | .letter c => [c]

/-- One pass over a line, from left to right. `skip` characters of the placeholder that was read
last are still to be passed over. -/
def readFrom : Nat → List Char → List Piece
  | _, [] => []
  | skip + 1, _ :: cs => readFrom skip cs
  | 0, c :: cs =>
    match Placeholder.begins? (c :: cs) with
    | some hole => .placeholder hole :: readFrom (hole.word.length - 1) cs
    | none => .letter c :: readFrom 0 cs

def read (line : List Char) : List Piece := readFrom 0 line

theorem readFrom_length (passed line : List Char) :
    readFrom passed.length (passed ++ line) = read line := by
  induction passed with
  | nil => rfl
  | cons c rest ih => exact ih

theorem read_word (hole : Placeholder) (line : List Char) :
    read (hole.word ++ line) = .placeholder hole :: read line := by
  have begins := Placeholder.begins?_word hole line
  rw [Placeholder.word, List.cons_append, List.cons_append] at begins ⊢
  rw [read, readFrom, begins]
  simp only [Placeholder.word, List.cons_append, List.length_cons, Nat.add_sub_cancel, readFrom_length]

theorem read_letter {c : Char} {line : List Char}
    (absent : ∀ hole : Placeholder, ¬hole.word <+: c :: line) :
    read (c :: line) = .letter c :: read line := by
  rw [read, readFrom, Placeholder.begins?_eq_none absent, read]

/-- A line in which every placeholder gives way to what is put in for it. -/
def fillIn (value : Placeholder → List Char) (line : List Char) : List Char :=
  (read line).flatMap (filled value)

variable {value : Placeholder → List Char}

theorem fillIn_nil : fillIn value [] = [] := rfl

theorem fillIn_word (hole : Placeholder) (line : List Char) :
    fillIn value (hole.word ++ line) = value hole ++ fillIn value line := by
  rw [fillIn, read_word]
  rfl

theorem fillIn_letter {c : Char} {line : List Char}
    (absent : ∀ hole : Placeholder, ¬hole.word <+: c :: line) :
    fillIn value (c :: line) = c :: fillIn value line := by
  rw [fillIn, read_letter absent]
  rfl

/-- Nothing of the line is lost when it is read. -/
theorem fillIn_word_self (line : List Char) : fillIn Placeholder.word line = line := by
  induction line using Placeholder.line_induction with
  | nil => rfl
  | placeholder hole rest ih => rw [fillIn_word, ih]
  | letter c rest absent ih => rw [fillIn_letter absent, ih]

/-- No placeholder of the line is taken for letters. -/
theorem not_begins_of_read {line : List Char} {front back : List Piece} {c : Char}
    (split : read line = front ++ .letter c :: back) (hole : Placeholder) :
    ¬hole.word <+: c :: back.flatMap (filled Placeholder.word) := by
  induction line using Placeholder.line_induction generalizing front with
  | nil => simp [read, readFrom] at split
  | placeholder other rest ih =>
    rw [read_word] at split
    cases front with
    | nil => simp at split
    | cons first others => exact ih (List.cons.inj split).2
  | letter d rest absent ih =>
    rw [read_letter absent] at split
    cases front with
    | nil =>
      obtain ⟨letters, rfl⟩ := List.cons.inj split
      obtain rfl := Piece.letter.inj letters
      have whole : (read rest).flatMap (filled Placeholder.word) = rest := fillIn_word_self rest
      rw [whole]
      exact absent hole
    | cons first others => exact ih (List.cons.inj split).2

end Piece

/-- A name that is no part of a placeholder. -/
structure IsOrdinary (name : List Char) : Prop where
  no_opening : '{' ∉ name
  no_closing : '}' ∉ name
  apart : ¬name <:+: Placeholder.readies.name.toList

namespace Placeholder

open Piece

/-- What is put in for the placeholders. -/
def values (interpreter directory : List Char) : Placeholder → List Char
  | python => interpreter
  | readies => directory

theorem substitute_python (interpreter line : List Char) :
    Text.substituteFrom python.word interpreter 0 line = fillIn (values interpreter readies.word) line := by
  induction line using line_induction with
  | nil => rfl
  | placeholder hole rest ih =>
    rw [fillIn_word, ← ih]
    cases hole with
    | python => exact Text.substituteFrom_occurrence (by simp [word]) rest
    | readies =>
      have other : ¬python.word <+: readies.word ++ rest := by simp [word, name]
      refine (Text.substituteFrom_letter other).trans (congrArg ('{' :: ·) ?_)
      exact Text.substituteFrom_append_of_not_mem (by decide) rest
  | letter c rest absent ih =>
    rw [fillIn_letter absent, Text.substituteFrom_letter (absent python), ih]

variable {interpreter : List Char}

/-- The end of the second placeholder is nowhere made by the first pass. -/
theorem prefix_of_prefix_fillIn (ordinary : IsOrdinary interpreter) {inner line : List Char}
    (part : inner <:+: readies.name.toList)
    (reached : inner ++ ['}'] <+: fillIn (values interpreter readies.word) line) :
    inner ++ ['}'] <+: line := by
  induction line using line_induction generalizing inner with
  | nil => simp [fillIn_nil] at reached
  | placeholder hole rest ih =>
    rw [fillIn_word] at reached
    cases hole with
    | python =>
      -- either the closing brace would be one of the name, or the name a part of the word
      rcases List.prefix_or_prefix_of_prefix reached (List.prefix_append interpreter _) with
        within | beyond
      · exact absurd (within.subset (by simp)) ordinary.no_closing
      · rcases List.prefix_concat_iff.mp beyond with whole | inside
        · exact absurd (by simp [whole]) ordinary.no_closing
        · exact absurd (inside.isInfix.trans part) ordinary.apart
    | readies =>
      cases inner with
      | nil => simp [values, word] at reached
      | cons d others =>
        obtain ⟨opening, _⟩ := List.cons_prefix_cons.mp reached
        have inside : '{' ∈ readies.name.toList := part.subset (by simp [opening])
        exact absurd inside (by decide)
  | letter c rest absent ih =>
    rw [fillIn_letter absent] at reached
    cases inner with
    | nil => simpa using reached
    | cons d others =>
      obtain ⟨rfl, later⟩ := List.cons_prefix_cons.mp reached
      have shorter := (List.suffix_cons d others).isInfix.trans part
      exact List.cons_prefix_cons.mpr ⟨rfl, ih shorter later⟩

theorem substitute_readies (ordinary : IsOrdinary interpreter) (directory line : List Char) :
    Text.substituteFrom readies.word directory 0 (fillIn (values interpreter readies.word) line) =
      fillIn (values interpreter directory) line := by
  induction line using line_induction with
  | nil => rfl
  | placeholder hole rest ih =>
    rw [fillIn_word, fillIn_word, ← ih]
    cases hole with
    | python => exact Text.substituteFrom_append_of_not_mem ordinary.no_opening _
    | readies => exact Text.substituteFrom_occurrence (by simp [word]) _
  | letter c rest absent ih =>
    rw [fillIn_letter absent, fillIn_letter absent, ← ih]
    refine Text.substituteFrom_letter fun occurs => absent readies ?_
    obtain ⟨first, reached⟩ := List.cons_prefix_cons.mp occurs
    exact List.cons_prefix_cons.mpr ⟨first, prefix_of_prefix_fillIn ordinary (List.infix_refl _) reached⟩

end Placeholder

namespace Translator

open Piece

variable (t : Translator)

/-- A line is read in one pass, in which no character is lost and no placeholder overlooked, and if
the interpreter has an ordinary name, expanding the line is putting in the interpreter and the
directory for the placeholders that were read and nothing else. -/
theorem expand_in_one_pass (ordinary : IsOrdinary t.python.toList) (line : String) :
    let pieces := read line.toList
    pieces.flatMap (filled Placeholder.word) = line.toList ∧
      (∀ front c back, pieces = front ++ .letter c :: back →
        ∀ hole : Placeholder, ¬hole.word <+: c :: back.flatMap (filled Placeholder.word)) ∧
      (t.expand line).toList =
        pieces.flatMap (filled (Placeholder.values t.python.toList t.readies.toList)) := by
  refine ⟨fillIn_word_self _, fun front c back split => not_begins_of_read split, ?_⟩
  have first := Placeholder.substitute_python t.python.toList line.toList
  have second := Placeholder.substitute_readies ordinary t.readies.toList line.toList
  rw [← first] at second
  simp only [expand, Text.substitute, String.toList_ofList]
  exact second

/-- Braces around and inside of placeholders, and a directory that is written like one. -/
theorem expand_in_one_pass_nested :
    let t : Translator := { python := "python3.11", readies := "{python}" }
    let line := "{{python}} {readies} {readi{python}es}"
    IsOrdinary t.python.toList ∧
      (t.expand line).toList =
        (read line.toList).flatMap
          (filled (Placeholder.values t.python.toList t.readies.toList)) ∧
      t.expand line = "{python3.11} {python} {readipython3.11es}" := by
  intro t line
  have apart : ¬t.python.toList <:+: Placeholder.readies.name.toList := by
    intro inside
    have letter : 'p' ∈ Placeholder.readies.name.toList := inside.subset (by decide)
    exact absurd letter (by decide)
  have ordinary : IsOrdinary t.python.toList := ⟨by decide, by decide, apart⟩
  obtain ⟨_, _, filled⟩ := t.expand_in_one_pass ordinary line
  refine ⟨ordinary, filled, ?_⟩
  decide +kernel

/-- A name that is part of the word completes a placeholder that is not in the line. -/
example :
    ({ python := "ad", readies := "bin" } : Translator).expand "{re{python}ies}" = "bin" := by
  decide

end Translator
end HostSetup
