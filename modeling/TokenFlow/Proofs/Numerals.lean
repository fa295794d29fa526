/-
# TokenFlow.Proofs.Numerals -- what a text stands for as a whole number

In a text a whole number may be dressed up: with blanks around it, a sign, zeros in front
of it, a fraction of zeros, underscores between its digits.  `IsNumeral` says what such a
text stands for without saying how it is read, and reading comes to just that
(`ofText_of_isNumeral`), as long as the number has up to 53 bits.

A numeral is tidied part by part.  Of its digits only the `significant` ones are left, and
the rest is dropped or stays as it is, so each step has one lemma, and `tidy?_numeral`
puts them together.  There is nothing to tidy in a plain text (`tidy?_of_plain`), so it
makes no difference that a plain text is read as it stands.
-/
import Mathlib.Tactic.Ring
import TokenFlow.Document.WholeNumber

namespace TokenFlow.Document.WholeNumber

set_option autoImplicit false

open TokenFlow.Json TokenFlow.Text

/-! ## Digits -/

theorem isDigit_iff {c : Char} : isDigit c = true ↔ 48 ≤ c.toNat ∧ c.toNat ≤ 57 := by
  simp only [isDigit, Bool.and_eq_true, decide_eq_true_eq, Char.le_def, UInt32.le_iff_toNat_le]
  rfl

theorem isBlank_of_isDigit {c : Char} (digit : isDigit c = true) : isBlank c = false := by
  rw [isDigit_iff] at digit
  simp [isBlank]
  omega

theorem ne_of_isDigit {c other : Char} (digit : isDigit c = true)
    (no : isDigit other = false) : c ≠ other := by
  rintro rfl
  cases digit.symm.trans no

/-- Each further digit multiplies by ten what was read before it. -/
theorem le_foldl_digits (digits : List Char) (n : Nat) :
    n * 10 ^ digits.length ≤ digits.foldl (fun n c => 10 * n + (c.toNat - 48)) n := by
  induction digits generalizing n with
  | nil => simp
  | cons c digits ih =>
      calc n * 10 ^ (digits.length + 1)
          = 10 * n * 10 ^ digits.length := by ring
        _ ≤ (10 * n + (c.toNat - 48)) * 10 ^ digits.length :=
          Nat.mul_le_mul_right _ (Nat.le_add_right _ _)
        _ ≤ _ := ih _

/-- Digits are as few as their number is small, unless there are zeros in front. -/
theorem length_le_of_small {digits : List Char} (all : ∀ c ∈ digits, isDigit c = true)
    (solid : digits.head? ≠ some '0') (small : digitsValue digits ≤ 2 ^ 53) :
    digits.length ≤ maxWholeLength := by
  cases digits with
  | nil => exact Nat.zero_le _
  | cons d digits =>
      have digit := isDigit_iff.mp (all d List.mem_cons_self)
      have nonzero : d.toNat ≠ 48 := by
        intro zero
        apply solid
        rw [List.head?_cons, ← Char.ofNat_toNat d, zero]
      have read : 1 * 10 ^ digits.length ≤ digitsValue (d :: digits) :=
        calc 1 * 10 ^ digits.length
            ≤ (10 * 0 + (d.toNat - 48)) * 10 ^ digits.length :=
              Nat.mul_le_mul_right _ (by omega)
          _ ≤ digitsValue (d :: digits) := le_foldl_digits digits _
      have few : 10 ^ digits.length < 10 ^ 16 := by omega
      have short := (Nat.pow_lt_pow_iff_right (by decide)).mp few
      rw [List.length_cons, maxWholeLength]
      omega

theorem digitsValue_dropWhile_zero (digits : List Char) :
    digitsValue (digits.dropWhile (· = '0')) = digitsValue digits := by
  induction digits with
  | nil => rfl
  | cons d digits ih =>
      by_cases zero : d = '0'
      · subst zero
        exact ih
      · simp [zero]

/-- The digits without zeros in front of them; one zero is left when there is nothing else. -/
def significant (digits : List Char) : List Char :=
  if digits.dropWhile (· = '0') = [] then ['0'] else digits.dropWhile (· = '0')

theorem digitsValue_significant (digits : List Char) :
    digitsValue (significant digits) = digitsValue digits := by
  unfold significant
  split
  · rename_i zeros
    rw [← digitsValue_dropWhile_zero digits, zeros]
    rfl
  · exact digitsValue_dropWhile_zero digits

theorem head?_significant {digits : List Char} (zero : (significant digits).head? = some '0') :
    significant digits = ['0'] := by
  unfold significant at zero ⊢
  split at zero
  · rename_i zeros
    rw [if_pos zeros]
  · have dropped := List.head?_dropWhile_not (fun d => decide (d = '0')) digits
    rw [zero] at dropped
    simp at dropped

theorem significant_of_plain {digits : List Char} (nonempty : digits ≠ [])
    (plain : digits.head? = some '0' → digits = ['0']) : significant digits = digits := by
  cases digits with
  | nil => exact absurd rfl nonempty
  | cons d digits =>
      by_cases zero : d = '0'
      · have single : d :: digits = ['0'] := plain (by simp [zero])
        rw [single]
        rfl
      · simp [significant, zero]

/-! ## Numerals -/

/-- Digits with single underscores between them, and the digits alone. -/
inductive Grouped : List Char → List Char → Prop
  | one {d : Char} (digit : isDigit d = true) : Grouped [d] [d]
  | next {d : Char} {written digits : List Char} (digit : isDigit d = true)
      (rest : Grouped written digits) : Grouped (d :: written) (d :: digits)
  | apart {d : Char} {written digits : List Char} (digit : isDigit d = true)
      (rest : Grouped written digits) : Grouped (d :: '_' :: written) (d :: digits)

/-- At most one sign, and whether it is a minus sign. -/
inductive IsSign : List Char → Bool → Prop
  | unsigned : IsSign [] false
  | plus : IsSign ['+'] false
  | minus : IsSign ['-'] true

/-- No fraction, or one of zeros. -/
inductive IsZeroFraction : List Char → Prop
  | none : IsZeroFraction []
  | zeros {zeros : List Char} (nonempty : zeros ≠ []) (only : ∀ c ∈ zeros, c = '0') :
      IsZeroFraction ('.' :: zeros)

def signed (negative : Bool) (magnitude : Nat) : Int :=
  if negative then -(magnitude : Int) else magnitude

/-- The text stands for the number: with blanks around it, a sign, grouped digits and a
fraction of zeros. -/
inductive IsNumeral : List Char → Int → Prop
  | mk {before sign written digits fraction after : List Char} {negative : Bool}
      (blank : ∀ c ∈ before ++ after, isBlank c = true) (marked : IsSign sign negative)
      (grouped : Grouped written digits) (zeros : IsZeroFraction fraction) :
      IsNumeral (before ++ (sign ++ written ++ fraction) ++ after)
        (signed negative (digitsValue digits))

namespace Grouped

variable {written digits : List Char}

theorem exists_cons (grouped : Grouped written digits) :
    ∃ d rest, written = d :: rest ∧ isDigit d = true ∧ digits.head? = some d := by
  cases grouped with
  | one digit => exact ⟨_, _, rfl, digit, rfl⟩
  | next digit rest => exact ⟨_, _, rfl, digit, rfl⟩
  | apart digit rest => exact ⟨_, _, rfl, digit, rfl⟩

theorem isDigit_of_mem (grouped : Grouped written digits) :
    ∀ c ∈ digits, isDigit c = true := by
  induction grouped with
  | one digit => simpa using digit
  | next digit rest ih => simpa using ⟨digit, ih⟩
  | apart digit rest ih => simpa using ⟨digit, ih⟩

theorem of_digits (all : ∀ c ∈ digits, isDigit c = true) (nonempty : digits ≠ []) :
    Grouped digits digits := by
  induction digits with
  | nil => exact absurd rfl nonempty
  | cons d digits ih =>
      rw [List.forall_mem_cons] at all
      cases digits with
      | nil => exact .one all.1
      | cons e digits => exact .next all.1 (ih all.2 (List.cons_ne_nil _ _))

theorem digit_or_underscore (grouped : Grouped written digits) :
    ∀ c ∈ written, isDigit c = true ∨ c = '_' := by
  induction grouped with
  | one digit => simpa using .inl digit
  | next digit rest ih => simpa using ⟨.inl digit, ih⟩
  | apart digit rest ih => simpa using ⟨.inl digit, ih⟩

theorem filter_underscore (grouped : Grouped written digits) :
    written.filter (· ≠ '_') = digits := by
  have kept {d : Char} (digit : isDigit d = true) : d ≠ '_' := ne_of_isDigit digit rfl
  induction grouped with
  | one digit => simp [kept digit]
  | next digit rest ih => simpa [kept digit] using ih
  | apart digit rest ih => simpa [kept digit] using ih

theorem not_hasDoubleUnderscore (grouped : Grouped written digits) :
    hasDoubleUnderscore written = false := by
  have kept {d : Char} (digit : isDigit d = true) : d ≠ '_' := ne_of_isDigit digit rfl
  induction grouped with
  | one digit => simp [hasDoubleUnderscore]
  | next digit rest ih => simpa [hasDoubleUnderscore, kept digit] using ih
  | apart digit rest ih =>
      obtain ⟨e, more, rfl, digit', -⟩ := rest.exists_cons
      simpa [hasDoubleUnderscore, kept digit, kept digit'] using ih

theorem getLast?_isDigit (grouped : Grouped written digits) :
    ∃ d, written.getLast? = some d ∧ isDigit d = true := by
  induction grouped with
  | one digit => exact ⟨_, rfl, digit⟩
  | next digit rest ih =>
      obtain ⟨e, last, digit'⟩ := ih
      exact ⟨e, by simp [List.getLast?_cons, last], digit'⟩
  | apart digit rest ih =>
      obtain ⟨e, last, digit'⟩ := ih
      exact ⟨e, by simp [List.getLast?_cons, last], digit'⟩

/-- The digits that a grouped text begins with are not more than it has. -/
theorem length_takeWhile_le (grouped : Grouped written digits) {rest : List Char}
    (ends : rest.takeWhile isDigit = []) :
    ((written ++ rest).takeWhile isDigit).length ≤ digits.length := by
  induction grouped with
  | one digit => simp [digit, ends]
  | next digit grouped ih => simpa [digit] using ih
  | apart digit grouped ih => simp [digit, show isDigit '_' = false from rfl]

/-- What dropping zeros from a grouped text leaves: there is nothing else, and the last of
them is a zero; or a grouped text is left, of the digits without their zeros. -/
def DropsZeros (written digits : List Char) : Prop :=
  ((∀ c ∈ written, isZeroOrUnderscore c = true) ∧ written.getLast? = some '0' ∧
      digits.dropWhile (· = '0') = []) ∨
    Grouped (written.dropWhile isZeroOrUnderscore) (digits.dropWhile (· = '0'))

theorem DropsZeros.behind {front : List Char} (drops : DropsZeros written digits)
    (zeros : ∀ c ∈ front, isZeroOrUnderscore c = true) :
    DropsZeros (front ++ written) ('0' :: digits) := by
  rcases drops with ⟨all, last, none⟩ | left
  · refine .inl ⟨List.forall_mem_append.mpr ⟨zeros, all⟩, by simp [last], by simpa using none⟩
  · right
    rw [List.dropWhile_append_of_pos zeros]
    simpa using left

theorem dropsZeros (grouped : Grouped written digits) : DropsZeros written digits := by
  have kept {d : Char} (digit : isDigit d = true) (ne : d ≠ '0') :
      isZeroOrUnderscore d = false := by
    simp [isZeroOrUnderscore, ne, ne_of_isDigit digit (show isDigit '_' = false from rfl)]
  induction grouped with
  | @one d digit =>
      by_cases zero : d = '0'
      · subst zero
        exact .inl ⟨by simp [isZeroOrUnderscore], rfl, rfl⟩
      · right
        simpa [kept digit zero, zero] using Grouped.one digit
  | @next d written digits digit rest ih =>
      by_cases zero : d = '0'
      · subst zero
        exact @DropsZeros.behind written digits ['0'] ih (by simp [isZeroOrUnderscore])
      · right
        simpa [kept digit zero, zero] using Grouped.next digit rest
  | @apart d written digits digit rest ih =>
      by_cases zero : d = '0'
      · subst zero
        exact @DropsZeros.behind written digits ['0', '_'] ih (by simp [isZeroOrUnderscore])
      · right
        simpa [kept digit zero, zero] using Grouped.apart digit rest

end Grouped

/-! ## Tidying -/

section Tidying

variable {written digits fraction : List Char}

theorem IsZeroFraction.dropWhile_zeros (zeros : IsZeroFraction fraction) :
    fraction.takeWhile isZeroOrUnderscore = [] ∧
      fraction.dropWhile isZeroOrUnderscore = fraction := by
  cases zeros with
  | none => exact ⟨rfl, rfl⟩
  | zeros nonempty only => exact ⟨rfl, rfl⟩

/-- Of nothing but zeros the last one is left. -/
theorem dropLeadingZeros?_of_zeros {more : List Char} (zeros : IsZeroFraction fraction)
    (passed : ∀ c ∈ '0' :: more, isZeroOrUnderscore c = true)
    (last : ('0' :: more).getLast? = some '0') :
    dropLeadingZeros? ('0' :: more ++ fraction) = some ('0' :: fraction) := by
  obtain ⟨none, same⟩ := zeros.dropWhile_zeros
  have dropped : ('0' :: (more ++ fraction)).dropWhile isZeroOrUnderscore = fraction :=
    (List.dropWhile_append_of_pos passed).trans same
  have taken : ('0' :: (more ++ fraction)).takeWhile isZeroOrUnderscore = '0' :: more := by
    rw [← List.cons_append, List.takeWhile_append_of_pos passed, none, List.append_nil]
  simp only [List.cons_append, dropLeadingZeros?]
  rw [dropped, taken, last]
  cases zeros with
  | none => rfl
  | zeros nonempty only => rfl

/-- Otherwise they are dropped up to the first other digit. -/
theorem dropLeadingZeros?_of_digit {more rest : List Char} {d : Char}
    (front : ('0' :: more).dropWhile isZeroOrUnderscore = d :: rest) (digit : isDigit d = true)
    (behind : List Char) :
    dropLeadingZeros? ('0' :: more ++ behind) = some (d :: rest ++ behind) := by
  have dropped : ('0' :: (more ++ behind)).dropWhile isZeroOrUnderscore = d :: (rest ++ behind) := by
    rw [← List.cons_append, List.dropWhile_append, front]
    rfl
  have solid : d ≠ '.' := ne_of_isDigit digit rfl
  simp only [List.cons_append, dropLeadingZeros?]
  rw [dropped]
  simp [digit]

/-- Zeros are dropped up to the significant digits. -/
theorem dropLeadingZeros?_grouped (grouped : Grouped written digits)
    (zeros : IsZeroFraction fraction) :
    ∃ rest, Grouped rest (significant digits) ∧
      dropLeadingZeros? (written ++ fraction) = some (rest ++ fraction) := by
  obtain ⟨d, more, rfl, digit, head⟩ := grouped.exists_cons
  by_cases zero : d = '0'
  · subst zero
    rcases grouped.dropsZeros with ⟨passed, last, only⟩ | left
    · have single : significant digits = ['0'] := if_pos only
      rw [single]
      exact ⟨['0'], .one digit, dropLeadingZeros?_of_zeros zeros passed last⟩
    · obtain ⟨e, rest, front, digit', head'⟩ := left.exists_cons
      have kept : significant digits = digits.dropWhile (· = '0') := by
        apply if_neg
        intro none
        simp [none] at head'
      rw [front] at left
      rw [kept]
      exact ⟨e :: rest, left, dropLeadingZeros?_of_digit front digit' fraction⟩
  · have kept : significant digits = digits := by
      apply significant_of_plain
      · intro none
        simp [none] at head
      · intro found
        rw [head] at found
        exact absurd (Option.some.inj found) zero
    rw [kept]
    exact ⟨d :: more, grouped, by simp [dropLeadingZeros?, digit]⟩

/-- A minus sign stays, a plus sign does not. -/
def keptSign (negative : Bool) : List Char :=
  if negative then ['-'] else []

theorem dropSignedZeros?_grouped {sign : List Char} {negative : Bool}
    (marked : IsSign sign negative) (grouped : Grouped written digits)
    (zeros : IsZeroFraction fraction) :
    ∃ rest, Grouped rest (significant digits) ∧
      dropSignedZeros? (sign ++ written ++ fraction) =
        some (keptSign negative ++ rest ++ fraction) := by
  obtain ⟨rest, left, dropped⟩ := dropLeadingZeros?_grouped grouped zeros
  obtain ⟨d, more, rfl, digit, -⟩ := grouped.exists_cons
  have unsigned : d ≠ '+' ∧ d ≠ '-' := ⟨ne_of_isDigit digit rfl, ne_of_isDigit digit rfl⟩
  refine ⟨rest, left, ?_⟩
  cases marked with
  | unsigned => simpa [dropSignedZeros?, unsigned, keptSign] using dropped
  | plus => simpa [dropSignedZeros?, unsigned, keptSign] using dropped
  | minus =>
      obtain ⟨e, last, rfl, digit', -⟩ := left.exists_cons
      have unsigned' : e ≠ '-' := ne_of_isDigit digit' rfl
      simp only [List.cons_append] at dropped
      simp [dropSignedZeros?, dropped, unsigned', keptSign]

theorem dropZeroFraction_append {word : List Char} (pointless : ∀ c ∈ word, c ≠ '.')
    (zeros : IsZeroFraction fraction) : dropZeroFraction (word ++ fraction) = word := by
  have passed : ∀ c ∈ word, (decide (c ≠ '.')) = true := by simpa using pointless
  unfold dropZeroFraction
  rw [List.dropWhile_append_of_pos passed, List.takeWhile_append_of_pos passed]
  cases zeros with
  | none => simp
  | @zeros zeros nonempty only =>
      have all : zeros.all (· = '0') = true := by simpa using only
      exact (if_pos ⟨nonempty, all⟩).trans (List.append_nil word)

theorem dropUnderscores_grouped (negative : Bool) (grouped : Grouped written digits) :
    dropUnderscores (keptSign negative ++ written) = keptSign negative ++ digits := by
  obtain ⟨d, more, rfl, digit, -⟩ := grouped.exists_cons
  obtain ⟨e, last, digit'⟩ := grouped.getLast?_isDigit
  have kept {d : Char} (digit : isDigit d = true) : d ≠ '_' := ne_of_isDigit digit rfl
  have single := grouped.not_hasDoubleUnderscore
  have filtered := grouped.filter_underscore
  have ends : (keptSign negative ++ d :: more).head? ≠ some '_' ∧
      (keptSign negative ++ d :: more).getLast? ≠ some '_' ∧
      hasDoubleUnderscore (keptSign negative ++ d :: more) = false := by
    cases negative with
    | false => simp [keptSign, kept digit, kept digit', last, single]
    | true => simp [keptSign, kept digit, kept digit', last, single, hasDoubleUnderscore]
  rw [dropUnderscores, if_neg (by simpa using ends), List.filter_append, filtered]
  cases negative <;> rfl

/-- There are no blanks inside a numeral. -/
theorem solid_numeral {sign : List Char} {negative : Bool} (marked : IsSign sign negative)
    (grouped : Grouped written digits) (zeros : IsZeroFraction fraction) :
    ∀ c ∈ sign ++ written ++ fraction, isBlank c = false := by
  simp only [List.forall_mem_append]
  refine ⟨⟨?_, fun c found => ?_⟩, ?_⟩
  · cases marked <;> simp [isBlank]
  · rcases grouped.digit_or_underscore c found with digit | rfl
    · exact isBlank_of_isDigit digit
    · rfl
  · cases zeros with
    | none => exact List.forall_mem_nil _
    | zeros nonempty only =>
        refine List.forall_mem_cons.mpr ⟨rfl, fun c found => ?_⟩
        rw [only c found]
        rfl

/-- Of a numeral the sign and the significant digits are left. -/
theorem tidy?_numeral {before sign after : List Char} {negative : Bool}
    (blank : ∀ c ∈ before ++ after, isBlank c = true) (marked : IsSign sign negative)
    (grouped : Grouped written digits) (zeros : IsZeroFraction fraction) :
    tidy? (before ++ (sign ++ written ++ fraction) ++ after) =
      some (keptSign negative ++ significant digits) := by
  have solid := solid_numeral marked grouped zeros
  obtain ⟨rest, left, dropped⟩ := dropSignedZeros?_grouped marked grouped zeros
  have pointless : ∀ c ∈ keptSign negative ++ rest, c ≠ '.' := by
    rw [List.forall_mem_append]
    refine ⟨by cases negative <;> simp [keptSign], fun c found => ?_⟩
    rcases left.digit_or_underscore c found with digit | rfl
    · exact ne_of_isDigit digit rfl
    · decide
  rw [tidy?, trim_append blank solid, dropped, Option.map_some,
    dropZeroFraction_append pointless zeros, dropUnderscores_grouped negative left]

end Tidying

/-! ## Reading -/

theorem keptSign_splitMinus (text : List Char) :
    text = keptSign (splitMinus text).1 ++ (splitMinus text).2 := by
  unfold splitMinus
  split <;> rfl

theorem splitMinus_keptSign (negative : Bool) {d : Char} (digit : isDigit d = true)
    (rest : List Char) :
    splitMinus (keptSign negative ++ d :: rest) = (negative, d :: rest) := by
  cases negative with
  | true => rfl
  | false =>
      have unsigned : d ≠ '-' := ne_of_isDigit digit rfl
      simp [splitMinus, keptSign, unsigned]

/-- A plain text is a sign and digits. -/
theorem plain?_eq_some_iff {text : List Char} {n : Int} :
    plain? text = some n ↔ ∃ negative digits, text = keptSign negative ++ digits ∧
      digits ≠ [] ∧ (∀ c ∈ digits, isDigit c = true) ∧
      (digits.head? = some '0' → digits = ['0']) ∧ digits.length ≤ maxWholeLength ∧
      n = signed negative (digitsValue digits) := by
  constructor
  · intro read
    unfold plain? at read
    dsimp only at read
    split at read
    · rename_i plain
      obtain ⟨nonempty, all, single, short⟩ := plain
      exact ⟨_, _, keptSign_splitMinus text, nonempty, List.all_eq_true.mp all, single, short,
        (Option.some.inj read).symm⟩
    · cases read
  · rintro ⟨negative, digits, rfl, nonempty, all, single, short, rfl⟩
    obtain ⟨d, rest, rfl⟩ := List.exists_cons_of_ne_nil nonempty
    rw [plain?, splitMinus_keptSign negative (all d List.mem_cons_self)]
    exact if_pos ⟨nonempty, List.all_eq_true.mpr all, single, short⟩

/-- A sign and significant digits are plain, unless they are too many. -/
theorem plain?_significant {written digits : List Char} (negative : Bool)
    (grouped : Grouped written digits) (small : digitsValue digits ≤ 2 ^ 53) :
    plain? (keptSign negative ++ significant digits) =
      some (signed negative (digitsValue digits)) := by
  obtain ⟨rest, left, -⟩ := dropLeadingZeros?_grouped grouped .none
  have nonempty : significant digits ≠ [] := by
    obtain ⟨d, more, -, -, head⟩ := left.exists_cons
    intro none
    simp [none] at head
  have short : (significant digits).length ≤ maxWholeLength := by
    by_cases zero : (significant digits).head? = some '0'
    · rw [head?_significant zero]
      decide
    · rw [← digitsValue_significant] at small
      exact length_le_of_small left.isDigit_of_mem zero small
  refine plain?_eq_some_iff.mpr ⟨negative, significant digits, rfl, nonempty,
    left.isDigit_of_mem, head?_significant, short, ?_⟩
  rw [digitsValue_significant]

/-- There is nothing to tidy in a plain text. -/
theorem tidy?_of_plain {text : List Char} {n : Int} (plain : plain? text = some n) :
    tidy? text = some text := by
  obtain ⟨negative, digits, rfl, nonempty, all, single, -, -⟩ := plain?_eq_some_iff.mp plain
  have marked : IsSign (keptSign negative) negative := by
    cases negative
    · exact .unsigned
    · exact .minus
  have bare : ∀ c ∈ ([] ++ [] : List Char), isBlank c = true := List.forall_mem_nil _
  have tidied := tidy?_numeral bare marked (.of_digits all nonempty) .none
  rw [significant_of_plain nonempty single] at tidied
  simpa using tidied

theorem signed_natAbs (negative : Bool) (magnitude : Nat) :
    (signed negative magnitude).natAbs = magnitude := by
  cases negative <;> simp [signed]

theorem isDigit_of_isBlank {c : Char} (blank : isBlank c = true) : isDigit c = false := by
  cases digit : isDigit c with
  | false => rfl
  | true => exact absurd (blank.symm.trans (isBlank_of_isDigit digit)) (by decide)

/-- Behind the digits of a numeral there is no further digit. -/
theorem takeWhile_isDigit_behind {fraction after : List Char}
    (blank : ∀ c ∈ after, isBlank c = true) (zeros : IsZeroFraction fraction) :
    (fraction ++ after).takeWhile isDigit = [] := by
  cases zeros with
  | zeros nonempty only => rfl
  | none =>
      cases after with
      | nil => rfl
      | cons c after => simp [isDigit_of_isBlank (blank c List.mem_cons_self)]

/-- What is short, or begins with a zero, does not look too long. -/
theorem isOversized_of_short {text : List Char}
    (short : ((splitMinus text).2.takeWhile isDigit).head? ≠ some '0' →
      ((splitMinus text).2.takeWhile isDigit).length ≤ maxWholeLength) :
    isOversized text = false := by
  simp only [isOversized, Bool.and_eq_false_iff, decide_eq_false_iff_not, Nat.not_lt, not_not,
    ne_eq]
  by_cases zero : ((splitMinus text).2.takeWhile isDigit).head? = some '0'
  · exact .inl zero
  · exact .inr (short zero)

theorem isOversized_of_numeral {before sign written digits fraction after : List Char}
    {negative : Bool} (blank : ∀ c ∈ before ++ after, isBlank c = true)
    (marked : IsSign sign negative) (grouped : Grouped written digits)
    (zeros : IsZeroFraction fraction) (small : digitsValue digits ≤ 2 ^ 53) :
    isOversized (before ++ (sign ++ written ++ fraction) ++ after) = false := by
  apply isOversized_of_short
  rw [List.forall_mem_append] at blank
  obtain ⟨d, rest, rfl, digit, head⟩ := grouped.exists_cons
  -- the digits begin behind at most a minus sign
  have counted (negative : Bool) (text : List Char)
      (same : text = keptSign negative ++ (d :: rest ++ (fraction ++ after)))
      (solid : ((splitMinus text).2.takeWhile isDigit).head? ≠ some '0') :
      ((splitMinus text).2.takeWhile isDigit).length ≤ maxWholeLength := by
    rw [same, List.cons_append, splitMinus_keptSign negative digit] at solid ⊢
    have solid' : digits.head? ≠ some '0' := by
      rw [head]
      simpa [digit] using solid
    exact (grouped.length_takeWhile_le (takeWhile_isDigit_behind blank.2 zeros)).trans
      (length_le_of_small grouped.isDigit_of_mem solid' small)
  cases before with
  | nil =>
      cases marked with
      | unsigned => exact counted false _ (by simp [keptSign])
      | minus => exact counted true _ (by simp [keptSign])
      | plus => exact fun _ => Nat.zero_le _
  | cons b before =>
      have front := blank.1 b List.mem_cons_self
      have unsigned : b ≠ '-' := by
        rintro rfl
        cases front
      simp [splitMinus, unsigned, isDigit_of_isBlank front]

/-- A numeral is read as the number that it stands for. -/
theorem ofText_of_isNumeral {text : List Char} {n : Int} (numeral : IsNumeral text n)
    (small : n.natAbs ≤ 2 ^ 53) : ofText text = .ok n := by
  obtain ⟨blank, marked, grouped, zeros⟩ := numeral
  rename_i before sign written digits fraction after negative
  rw [signed_natAbs] at small
  have tidied := tidy?_numeral blank marked grouped zeros
  have read : plain? (keptSign negative ++ significant digits) =
      some (signed negative (digitsValue digits)) :=
    plain?_significant negative grouped small
  have either : (plain? (before ++ (sign ++ written ++ fraction) ++ after)).or
      ((tidy? (before ++ (sign ++ written ++ fraction) ++ after)).bind plain?) =
        some (signed negative (digitsValue digits)) := by
    rw [tidied, Option.bind_some, read]
    cases plain : plain? (before ++ (sign ++ written ++ fraction) ++ after) with
    | none => rfl
    | some m =>
        have same := Option.some.inj ((tidy?_of_plain plain).symm.trans tidied)
        rw [same, read] at plain
        rw [← plain]
        rfl
  rw [ofText, isOversized_of_numeral blank marked grouped zeros small, either]
  rfl

end TokenFlow.Document.WholeNumber
