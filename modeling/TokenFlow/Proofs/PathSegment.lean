/-
# TokenFlow.Proofs.PathSegment -- any text fits into one segment of a path

Reading UTF-8 takes back exactly what writing put down, character by character
(`Utf8.units_encodeChar`).  A percent escape stands for one of these octets, so a text that
was written with escapes reads as itself (`Percent.decode_encode`).  What is written holds
no character that means anything in an address (`IsSegment`).
-/
import TokenFlow.Text.Percent

namespace TokenFlow.Text

set_option autoImplicit false

namespace Utf8

/-! ## Octets -/

theorem toNat_ofNat {n : Nat} (small : n < 256) : (UInt8.ofNat n).toNat = n :=
  UInt8.toNat_ofNat_of_lt' small

/-- The octet that continues a character with six bits of it. -/
def tail (bits : Nat) : UInt8 :=
  UInt8.ofNat (0x80 + bits)

variable {bits low high lead : Nat}

theorem inRange_tail (small : bits < 64) (above : low ≤ 0x80 + bits) (below : 0x80 + bits ≤ high) :
    inRange low high (tail bits) = true := by
  rw [inRange, tail, toNat_ofNat (by omega), decide_eq_true above, decide_eq_true below]
  rfl

theorem payload_tail (small : bits < 64) : payload (tail bits) = bits := by
  have octet : (tail bits).toNat = 0x80 + bits := toNat_ofNat (by omega)
  unfold payload
  omega

/-! ## Units -/

theorem unit_one (rest : List UInt8) (below : lead < 0x80) :
    unit lead rest = (some (Char.ofNat lead), rest) := by
  unfold unit
  rw [if_pos below]

theorem unit_two (rest : List UInt8) (above : 0xC2 ≤ lead) (below : lead < 0xE0)
    (small : bits < 64) :
    unit lead (tail bits :: rest) = (some (Char.ofNat ((lead - 0xC0) * 64 + bits)), rest) := by
  have second : inRange 0x80 0xBF (tail bits) = true :=
    inRange_tail small (by omega) (by omega)
  unfold unit
  rw [if_neg (by omega), if_neg (by omega), if_pos below]
  simp only [second, if_true, payload_tail small]

theorem unit_three (rest : List UInt8) {bits' : Nat} (above : 0xE0 ≤ lead) (below : lead < 0xF0)
    (small : bits < 64) (small' : bits' < 64) (short : lead = 0xE0 → 32 ≤ bits)
    (surrogate : lead = 0xED → bits < 32) :
    unit lead (tail bits :: tail bits' :: rest) =
      (some (Char.ofNat ((lead - 0xE0) * 4096 + bits * 64 + bits')), rest) := by
  have second : inRange (if lead = 0xE0 then 0xA0 else 0x80) (if lead = 0xED then 0x9F else 0xBF)
      (tail bits) = true := by
    apply inRange_tail small
    · split <;> omega
    · split <;> omega
  have third : inRange 0x80 0xBF (tail bits') = true :=
    inRange_tail small' (by omega) (by omega)
  unfold unit
  rw [if_neg (by omega), if_neg (by omega), if_neg (by omega), if_pos below]
  simp only [second, third, if_true, payload_tail small, payload_tail small']

theorem unit_four (rest : List UInt8) {bits' bits'' : Nat} (above : 0xF0 ≤ lead)
    (below : lead < 0xF5) (small : bits < 64) (small' : bits' < 64) (small'' : bits'' < 64)
    (short : lead = 0xF0 → 16 ≤ bits) (beyond : lead = 0xF4 → bits < 16) :
    unit lead (tail bits :: tail bits' :: tail bits'' :: rest) =
      (some (Char.ofNat ((lead - 0xF0) * 262144 + bits * 4096 + bits' * 64 + bits'')), rest) := by
  have second : inRange (if lead = 0xF0 then 0x90 else 0x80) (if lead = 0xF4 then 0x8F else 0xBF)
      (tail bits) = true := by
    apply inRange_tail small
    · split <;> omega
    · split <;> omega
  have third : inRange 0x80 0xBF (tail bits') = true :=
    inRange_tail small' (by omega) (by omega)
  have fourth : inRange 0x80 0xBF (tail bits'') = true :=
    inRange_tail small'' (by omega) (by omega)
  unfold unit
  rw [if_neg (by omega), if_neg (by omega), if_neg (by omega), if_neg (by omega), if_pos below]
  simp only [second, third, fourth, if_true, payload_tail small, payload_tail small',
    payload_tail small'']

theorem units_cons (octet : UInt8) (rest : List UInt8) :
    units (octet :: rest) = (unit octet.toNat rest).1 :: units (unit octet.toNat rest).2 := by
  rw [units]

/-- The first unit of the octets of a character is this character. -/
theorem units_encodeChar (c : Char) (rest : List UInt8) :
    units (encodeChar c ++ rest) = some c :: units rest := by
  have back {n : Nat} (same : n = c.toNat) : Char.ofNat n = c := by
    rw [same, Char.ofNat_toNat]
  have valid : c.toNat < 0xD800 ∨ 0xDFFF < c.toNat ∧ c.toNat < 0x110000 := c.valid
  have first {lead : Nat} {tail : List UInt8} (small : lead < 256)
      (read : unit lead (tail ++ rest) = (some c, rest)) :
      units (UInt8.ofNat lead :: tail ++ rest) = some c :: units rest := by
    rw [List.cons_append, units_cons, toNat_ofNat small, read]
  -- as many octets as the number of the character needs
  unfold encodeChar
  by_cases one : c.toNat < 0x80
  · rw [if_pos one]
    refine first (by omega) ?_
    rw [List.nil_append, unit_one rest one, back rfl]
  by_cases two : c.toNat < 0x800
  · rw [if_neg one, if_pos two]
    refine first (by omega) ((unit_two rest ?_ ?_ ?_).trans ?_)
    · omega
    · omega
    · omega
    · rw [back (by omega)]
  by_cases three : c.toNat < 0x10000
  · rw [if_neg one, if_neg two, if_pos three]
    refine first (by omega) ((unit_three rest ?_ ?_ ?_ ?_ ?_ ?_).trans ?_)
    · omega
    · omega
    · omega
    · omega
    · omega
    · omega
    · rw [back (by omega)]
  · rw [if_neg one, if_neg two, if_neg three]
    refine first (by omega) ((unit_four rest ?_ ?_ ?_ ?_ ?_ ?_ ?_).trans ?_)
    · omega
    · omega
    · omega
    · omega
    · omega
    · omega
    · omega
    · rw [back (by omega)]

theorem units_encode (text : List Char) : units (encode text) = text.map some := by
  induction text with
  | nil => simp [units]
  | cons c text ih => rw [encode_cons, units_encodeChar, ih, List.map_cons]

/-- Reading takes back what writing put down. -/
theorem decode_encode (text : List Char) : decode (encode text) = text := by
  rw [decode, units_encode, List.map_map]
  exact List.map_id text

/-! ## Strings -/

theorem encodeChar_eq (c : Char) : encodeChar c = String.utf8EncodeChar c := by
  have number : c.val.toNat = c.toNat := rfl
  have bound : c.toNat < 0xD800 ∨ 0xDFFF < c.toNat ∧ c.toNat < 0x110000 := c.valid
  have swap (bits : Nat) : 0x80 + bits = bits + 128 := Nat.add_comm _ _
  simp only [encodeChar, String.utf8EncodeChar, number, swap]
  by_cases one : c.toNat < 0x80
  · rw [if_pos one, if_pos (by omega)]
  by_cases two : c.toNat < 0x800
  · have lead : c.toNat / 64 % 32 + 192 = 0xC0 + c.toNat / 64 := by omega
    rw [if_neg one, if_pos two, if_neg (by omega), if_pos (by omega), lead]
  by_cases three : c.toNat < 0x10000
  · have lead : c.toNat / 4096 % 16 + 224 = 0xE0 + c.toNat / 4096 := by omega
    rw [if_neg one, if_neg two, if_pos three, if_neg (by omega), if_neg (by omega),
      if_pos (by omega), lead]
  · have lead : c.toNat / 262144 % 8 + 240 = 0xF0 + c.toNat / 262144 := by omega
    rw [if_neg one, if_neg two, if_neg three, if_neg (by omega), if_neg (by omega),
      if_neg (by omega), lead]

/-- The octets written for a text are those that the string is made of. -/
theorem encode_toList (text : String) : encode text.toList = text.toUTF8.data.toList := by
  rw [String.toUTF8, ← String.utf8Encode_toList, List.utf8Encode, List.data_toByteArray,
    encode, funext encodeChar_eq]

end Utf8

/-! ## Escapes -/

theorem Hex.octet?_digits (octet : UInt8) :
    Hex.octet? (Hex.digit (octet.toNat / 16)) (Hex.digit (octet.toNat % 16)) = some octet := by
  have bound := octet.toNat_lt
  have high := Hex.value?_digit (octet.toNat / 16) (by omega)
  have low := Hex.value?_digit (octet.toNat % 16) (by omega)
  have whole : 16 * (octet.toNat / 16) + octet.toNat % 16 = octet.toNat := Nat.div_add_mod _ 16
  simp only [Hex.octet?, high, low, whole, UInt8.ofNat_toNat]

namespace Percent

/-- Letters, digits, `_ . - ~`, and escapes: nothing that ends a segment or an address, and
no sign that means anything in one. -/
inductive IsSegment : List Char → Prop
  | nil : IsSegment []
  | plain {c : Char} {rest : List Char} (unreserved : isUnreserved c = true)
      (segment : IsSegment rest) : IsSegment (c :: rest)
  | escaped {high low : Char} {octet : UInt8} {rest : List Char}
      (digits : Hex.octet? high low = some octet) (segment : IsSegment rest) :
      IsSegment ('%' :: high :: low :: rest)

/-- An escape stands for its octet. -/
theorem octets_escape (octet : UInt8) (rest : List Char) :
    octets (escape octet ++ rest) = octet :: octets rest := by
  simp only [escape, List.cons_append, List.nil_append, octets, Hex.octet?_digits]

theorem octets_flatMap_escape (written : List UInt8) (rest : List Char) :
    octets (written.flatMap escape ++ rest) = written ++ octets rest := by
  induction written with
  | nil => rfl
  | cons octet written ih =>
      rw [List.flatMap_cons, List.append_assoc, octets_escape, ih, List.cons_append]

/-- A sign that is no percent sign stands for itself. -/
theorem octets_cons_of_ne {c : Char} (plain : c ≠ '%') (rest : List Char) :
    octets (c :: rest) = Utf8.encodeChar c ++ octets rest := by
  rw [octets]
  exact fun _ _ _ percent _ => plain percent

theorem octets_cons_of_isUnreserved {c : Char} (unreserved : isUnreserved c = true)
    (rest : List Char) : octets (c :: rest) = Utf8.encodeChar c ++ octets rest := by
  refine octets_cons_of_ne ?_ rest
  rintro rfl
  revert unreserved
  decide

theorem octets_encode (text : List Char) : octets (encode text) = Utf8.encode text := by
  induction text with
  | nil => rfl
  | cons c text ih =>
      rw [encode_cons, encodeChar, Utf8.encode_cons]
      by_cases unreserved : isUnreserved c = true
      · rw [if_pos unreserved, List.singleton_append, octets_cons_of_isUnreserved unreserved, ih]
      · rw [if_neg unreserved, octets_flatMap_escape, ih]

/-- Any text can be taken back from its segment. -/
theorem decode_encode (text : List Char) : decode (encode text) = text := by
  rw [decode, octets_encode, Utf8.decode_encode]

theorem isSegment_escapes (written : List UInt8) {rest : List Char} (segment : IsSegment rest) :
    IsSegment (written.flatMap escape ++ rest) := by
  induction written with
  | nil => exact segment
  | cons octet written ih =>
      rw [List.flatMap_cons, List.append_assoc]
      exact .escaped (Hex.octet?_digits octet) ih

theorem isSegment_encode (text : List Char) : IsSegment (encode text) := by
  induction text with
  | nil => exact .nil
  | cons c text ih =>
      rw [encode_cons, encodeChar]
      by_cases unreserved : isUnreserved c = true
      · rw [if_pos unreserved]
        exact .plain unreserved ih
      · rw [if_neg unreserved]
        exact isSegment_escapes _ ih

/-- A segment has no slash, and nothing that begins a query or a fragment. -/
theorem IsSegment.notMem {segment : List Char} (is : IsSegment segment) {sign : Char}
    (ends : sign = '/' ∨ sign = '?' ∨ sign = '#') : sign ∉ segment := by
  have apart : isUnreserved sign = false ∧ sign ≠ '%' ∧ Hex.value? sign = none := by
    rcases ends with rfl | rfl | rfl <;> decide
  obtain ⟨reserved, mark, noDigit⟩ := apart
  induction is with
  | nil => exact List.not_mem_nil
  | plain unreserved segment ih =>
      rw [List.mem_cons, not_or]
      refine ⟨?_, ih⟩
      rintro rfl
      rw [reserved] at unreserved
      cases unreserved
  | @escaped high low octet rest digits segment ih =>
      have read : ∃ first second, Hex.value? high = some first ∧ Hex.value? low = some second := by
        unfold Hex.octet? at digits
        split at digits
        · rename_i first second one two
          exact ⟨first, second, one, two⟩
        · cases digits
      obtain ⟨first, second, one, two⟩ := read
      simp only [List.mem_cons, not_or]
      refine ⟨mark, ?_, ?_, ih⟩
      · rintro rfl
        rw [noDigit] at one
        cases one
      · rintro rfl
        rw [noDigit] at two
        cases two

end Percent

end TokenFlow.Text
