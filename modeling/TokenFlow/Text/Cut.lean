/-
# TokenFlow.Text.Cut -- text at a mark

`cut` divides a text at the first occurrence of a mark, `pieces` at every one.
Both keep all the rest: putting the mark back gives the text again.
-/

namespace TokenFlow.Text

set_option autoImplicit false

/-- The text before the first `mark`, and the text after it when there is one. -/
def cut (mark : Char) : List Char → List Char × Option (List Char)
  | [] => ([], none)
  | c :: rest =>
      if c = mark then ([], some rest)
      else
        let (before, after) := cut mark rest
        (c :: before, after)

theorem cut_of_notMem {mark : Char} {text : List Char} (h : mark ∉ text) :
    cut mark text = (text, none) := by
  induction text with
  | nil => rfl
  | cons c rest ih =>
      simp only [List.mem_cons, not_or] at h
      simp [cut, Ne.symm h.1, ih h.2]

theorem cut_append {mark : Char} {before : List Char} (h : mark ∉ before) (rest : List Char) :
    cut mark (before ++ mark :: rest) = (before, some rest) := by
  induction before with
  | nil => simp [cut]
  | cons c more ih =>
      simp only [List.mem_cons, not_or] at h
      simp [cut, Ne.symm h.1, ih h.2]

/-- The text before the last `mark` and the text after it, when there is one. -/
def cutLast? (mark : Char) (text : List Char) : Option (List Char × List Char) :=
  match cut mark text.reverse with
  | (after, some before) => some (before.reverse, after.reverse)
  | (_, none) => none

/-- The stretches between the marks; one empty stretch for the empty text. -/
def pieces (mark : Char) : List Char → List (List Char)
  | [] => [[]]
  | c :: rest =>
      if c = mark then [] :: pieces mark rest
      else
        match pieces mark rest with
        | [] => [[c]]
        | piece :: more => (c :: piece) :: more

theorem pieces_ne_nil (mark : Char) (text : List Char) : pieces mark text ≠ [] := by
  cases text with
  | nil => simp [pieces]
  | cons c rest =>
      simp only [pieces]
      split
      · simp
      · split <;> simp

end TokenFlow.Text
