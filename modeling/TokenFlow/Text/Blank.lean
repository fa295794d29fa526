/-
# TokenFlow.Text.Blank -- the two blank classes, and trimming

Numbers in documents are trimmed of the characters with the Unicode property
White_Space (`isBlank`).  Words on a request line and flow names are delimited
by a slightly larger class, which counts the four information separators
U+001C to U+001F as blanks too (`isSeparator`).
-/

namespace TokenFlow.Text

set_option autoImplicit false

/-- The Unicode property White_Space. -/
def isBlank (c : Char) : Bool :=
  let n := c.toNat
  (0x09 ≤ n && n ≤ 0x0D) || n == 0x20 || n == 0x85 || n == 0xA0 || n == 0x1680
    || (0x2000 ≤ n && n ≤ 0x200A) || n == 0x2028 || n == 0x2029 || n == 0x202F
    || n == 0x205F || n == 0x3000

/-- White space, or an information separator. -/
def isSeparator (c : Char) : Bool :=
  isBlank c || (0x1C ≤ c.toNat && c.toNat ≤ 0x1F)

/-- Drops what satisfies `p` at both ends. -/
def trim (p : Char → Bool) (text : List Char) : List Char :=
  ((text.dropWhile p).reverse.dropWhile p).reverse

/-- Only what satisfies `p` is lost. -/
theorem exists_eq_trim (p : Char → Bool) (text : List Char) :
    ∃ before after, text = before ++ trim p text ++ after ∧ ∀ c ∈ before ++ after, p c = true := by
  have passed (text : List Char) : ∀ c ∈ text.takeWhile p, p c = true :=
    List.all_eq_true.mp List.all_takeWhile
  refine ⟨text.takeWhile p, ((text.dropWhile p).reverse.takeWhile p).reverse, ?_, ?_⟩
  · have rest : trim p text ++ ((text.dropWhile p).reverse.takeWhile p).reverse =
        text.dropWhile p := by
      rw [trim, ← List.reverse_append, List.takeWhile_append_dropWhile, List.reverse_reverse]
    rw [List.append_assoc, rest, List.takeWhile_append_dropWhile]
  · intro c found
    rcases List.mem_append.mp found with front | back
    · exact passed _ c front
    · exact passed _ c (List.mem_reverse.mp back)

/-- A text in which nothing satisfies `p` comes out as it is. -/
theorem trim_append {p : Char → Bool} {before word after : List Char}
    (blank : ∀ c ∈ before ++ after, p c = true) (solid : ∀ c ∈ word, p c = false) :
    trim p (before ++ word ++ after) = word := by
  rw [List.forall_mem_append] at blank
  have kept {text : List Char} (solid : ∀ c ∈ text, p c = false) (full : text ≠ [])
      (more : List Char) : (text ++ more).dropWhile p = text ++ more := by
    cases text with
    | nil => exact absurd rfl full
    | cons c text => simp [solid c List.mem_cons_self]
  rw [trim, List.append_assoc, List.dropWhile_append_of_pos blank.1]
  by_cases empty : word = []
  · have nothing : (after ++ []).dropWhile p = [] := List.dropWhile_append_of_pos blank.2
    rw [List.append_nil] at nothing
    simp [empty, nothing]
  · have reversed : ∀ c ∈ word.reverse, p c = false := by simpa using solid
    have ends := kept reversed (by simpa using empty) []
    rw [kept solid empty, List.reverse_append,
      List.dropWhile_append_of_pos (by simpa using blank.2)]
    simpa using congrArg List.reverse ends

/-- Drops what satisfies `p` at the end. -/
def trimRight (p : Char → Bool) (text : List Char) : List Char :=
  (text.reverse.dropWhile p).reverse

theorem exists_eq_trimRight (p : Char → Bool) (text : List Char) :
    ∃ after, text = trimRight p text ++ after ∧ ∀ c ∈ after, p c = true := by
  refine ⟨(text.reverse.takeWhile p).reverse, ?_, fun c found => ?_⟩
  · rw [trimRight, ← List.reverse_append, List.takeWhile_append_dropWhile, List.reverse_reverse]
  · exact List.all_eq_true.mp List.all_takeWhile c (List.mem_reverse.mp found)

/-- The maximal stretches of characters outside `p`. -/
def words (p : Char → Bool) : List Char → List (List Char)
  | [] => []
  | c :: rest =>
      if p c then words p rest
      else
        match rest with
        | [] => [[c]]
        | d :: _ =>
            if p d then [c] :: words p rest
            else
              match words p rest with
              | [] => [[c]]
              | word :: more => (c :: word) :: more

/-- ASCII capitals as small letters, everything else unchanged. -/
def lowerAscii (text : List Char) : List Char :=
  text.map Char.toLower

end TokenFlow.Text
