/-
# TokenFlow.Host.Punycode -- code points in letters, digits and hyphens

The Punycode transcription.  The basic code points of a text come first; each of
the others follows as the number of places it is away from the one before, in
ascending order, written in digits whose value depends on where they stand.
Reading gives code points and not characters, because a text may be the
transcription of numbers that are no characters.
-/
import TokenFlow.Text.Cut

namespace TokenFlow.Host.Punycode

set_option autoImplicit false

open TokenFlow.Text

/-! ## Digits -/

/-- The first code point that is transcribed. -/
def firstExtended : Nat := 0x80

def lastCodePoint : Nat := 0x10FFFF

def initialBias : Nat := 72

/-- `a` to `z`, then `0` to `9`. -/
def digit (value : Nat) : Char :=
  if value < 26 then Char.ofNat (0x61 + value) else Char.ofNat (0x30 + value - 26)

def digitValue? (c : Char) : Option Nat :=
  if 'a' ≤ c ∧ c ≤ 'z' then some (c.toNat - 0x61)
  else if 'A' ≤ c ∧ c ≤ 'Z' then some (c.toNat - 0x41)
  else if '0' ≤ c ∧ c ≤ '9' then some (c.toNat - 0x30 + 26)
  else none

/-- A digit below the threshold of its place is the last one; the places are
numbered from one. -/
def threshold (place bias : Nat) : Nat :=
  min 26 (max 1 (36 * place - bias))

theorem threshold_pos (place bias : Nat) : 0 < threshold place bias := by
  unfold threshold
  omega

/-- Divides by 35 down to 455, and counts 36 for each division. -/
def scaleDown (distance count : Nat) : Nat × Nat :=
  if 455 < distance then scaleDown (distance / 35) (count + 36) else (distance, count)
termination_by distance

/-- The bias after a distance, when the text has reached a length. -/
def adapt (distance length : Nat) (first : Bool) : Nat :=
  let halved := if first then distance / 700 else distance / 2
  let (rest, count) := scaleDown (halved + halved / length) 0
  count + 36 * rest / (rest + 38)

/-! ## Writing -/

/-- The digits of a distance, from a place on. -/
def digits (bias place distance : Nat) : List Char :=
  let least := threshold place bias
  if distance < least then [digit distance]
  else
    digit (least + (distance - least) % (36 - least))
      :: digits bias (place + 1) ((distance - least) / (36 - least))
termination_by distance
decreasing_by
  have positive := threshold_pos place bias
  have bounded : (distance - threshold place bias) / (36 - threshold place bias)
      ≤ distance - threshold place bias := Nat.div_le_self _ _
  omega

/-- What is known while a text is written. -/
structure Writer where
  output : List Char
  distance : Nat
  bias : Nat
  /-- How many code points are written. -/
  written : Nat

/-- Passes one code point of the text in the round for `current`. -/
def Writer.pass (basic current : Nat) (writer : Writer) (n : Nat) : Writer :=
  if n < current then { writer with distance := writer.distance + 1 }
  else if n = current then
    { output := writer.output ++ digits writer.bias 1 writer.distance
      distance := 0
      bias := adapt writer.distance (writer.written + 1) (writer.written == basic)
      written := writer.written + 1 }
  else writer

/-- One round for each code point to write, in ascending order. -/
def Writer.rounds (text : List Nat) (basic : Nat) : List Nat → Nat → Writer → Writer
  | [], _, writer => writer
  | current :: later, reached, writer =>
      let advanced :=
        { writer with distance := writer.distance + (current - reached) * (writer.written + 1) }
      let passed := text.foldl (Writer.pass basic current) advanced
      rounds text basic later (current + 1) { passed with distance := passed.distance + 1 }

def encode (text : List Nat) : List Char :=
  let basic := text.filter (· < firstExtended)
  let extended := ((text.filter (firstExtended ≤ ·)).mergeSort (· ≤ ·)).eraseDups
  let writer := Writer.rounds text basic.length extended firstExtended
    ⟨[], 0, initialBias, basic.length⟩
  basic.map Char.ofNat ++ (if basic = [] then [] else ['-']) ++ writer.output

/-! ## Reading -/

/-- A distance, and the text behind its digits. -/
def distance? (bias : Nat) : List Char → Nat → Nat → Nat → Option (Nat × List Char)
  | [], _, _, _ => none
  | c :: rest, place, weight, sum =>
      (digitValue? c).bind fun value =>
        let least := threshold place bias
        if value < least then some (sum + value * weight, rest)
        else distance? bias rest (place + 1) (weight * (36 - least)) (sum + value * weight)

theorem distance?_length_lt {bias : Nat} {text : List Char} {place weight sum distance : Nat}
    {rest : List Char} (h : distance? bias text place weight sum = some (distance, rest)) :
    rest.length < text.length := by
  induction text generalizing place weight sum with
  | nil => simp [distance?] at h
  | cons c more ih =>
      simp only [distance?, Option.bind_eq_some_iff] at h
      obtain ⟨value, _, h⟩ := h
      split at h
      · simp only [Option.some.injEq, Prod.mk.injEq] at h
        rw [← h.2]
        exact Nat.lt_succ_self _
      · exact Nat.lt_succ_of_lt (ih h)

/-- Puts in the code points that the digits tell of, each one as many places behind
the one before as its distance says, where every round over the positions goes
to the next code point. -/
def insertAll (bias current position : Nat) (first : Bool) (output : List Nat)
    (text : List Char) : Option (List Nat) :=
  match text with
  | [] => some output
  | c :: rest =>
      match _h : distance? bias (c :: rest) 1 1 0 with
      | none => none
      | some (distance, more) =>
          let length := output.length + 1
          let reached := position + distance
          let current := current + reached / length
          if lastCodePoint < current then none
          else
            insertAll (adapt distance length first) current (reached % length + 1) false
              (output.insertIdx (reached % length) current) more
termination_by text.length
decreasing_by exact distance?_length_lt _h

/-- The code points of a transcription, if it is one. -/
def decode? (text : List Char) : Option (List Nat) :=
  let (basic, extended) := (cutLast? '-' text).getD ([], text)
  insertAll initialBias firstExtended 0 true (basic.map Char.toNat) extended

end TokenFlow.Host.Punycode
