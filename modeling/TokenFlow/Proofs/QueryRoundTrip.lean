/-
# TokenFlow.Proofs.QueryRoundTrip -- a query gives back the pairs it was written from

Writing leaves few signs in a query: unreserved characters, `%` and `+` in a name or a
value, `=` and `&` around them (`isQuerySign`).  So `=` and `&` stand only where they
divide, and cutting there undoes the joining (`decodePair_encodePair`,
`decodePairs_append`).  Inside a name or a value `+` stands for a space and every other
character is read back from its octets (`decodeText_encodeText`).

A query that continues another one adds its pairs to those that were there, whatever the
first one says, even when it is empty or ends with `&`.
-/
import TokenFlow.Proofs.PathSegment
import TokenFlow.Url.Query

namespace TokenFlow

set_option autoImplicit false

namespace Text

/-! ## Stretches between marks -/

theorem pieces_of_notMem {mark : Char} {text : List Char} (h : mark ∉ text) :
    pieces mark text = [text] := by
  induction text with
  | nil => rfl
  | cons c rest ih =>
      simp only [List.mem_cons, not_or] at h
      simp [pieces, Ne.symm h.1, ih h.2]

/-- A mark divides: what stands after it does not change the stretches before it. -/
theorem pieces_append_mark (mark : Char) (first rest : List Char) :
    pieces mark (first ++ mark :: rest) = pieces mark first ++ pieces mark rest := by
  induction first with
  | nil => simp [pieces]
  | cons c first ih =>
      rw [List.cons_append, pieces, pieces]
      by_cases here : c = mark
      · rw [if_pos here, if_pos here, ih, List.cons_append]
      · rw [if_neg here, if_neg here, ih]
        cases divided : pieces mark first with
        | nil => exact absurd divided (pieces_ne_nil mark first)
        | cons piece more => rfl

/-! ## Signs of an escaped text -/

namespace Percent

theorem isUnreserved_digit : ∀ value, value < 16 → isUnreserved (Hex.digit value) = true := by
  decide

/-- What is written for a character is unreserved, but for the percent signs. -/
theorem isUnreserved_of_mem_encodeChar {c sign : Char} (h : sign ∈ encodeChar c) :
    isUnreserved sign = true ∨ sign = '%' := by
  unfold encodeChar at h
  split at h
  · rename_i unreserved
    obtain rfl := List.mem_singleton.mp h
    exact .inl unreserved
  · obtain ⟨octet, -, written⟩ := List.mem_flatMap.mp h
    have bound := octet.toNat_lt
    simp only [escape, List.mem_cons, List.not_mem_nil, or_false] at written
    rcases written with rfl | rfl | rfl
    · exact .inr rfl
    · exact .inl (isUnreserved_digit _ (by omega))
    · exact .inl (isUnreserved_digit _ (by omega))

/-- The octets of what is written for a character are the octets of the character. -/
theorem octets_encodeChar (c : Char) (rest : List Char) :
    octets (encodeChar c ++ rest) = Utf8.encodeChar c ++ octets rest := by
  unfold encodeChar
  split
  · rename_i unreserved
    exact octets_cons_of_isUnreserved unreserved rest
  · exact octets_flatMap_escape _ rest

end Percent

end Text

namespace Url.Query

open TokenFlow.Text

/-! ## One text -/

/-- What `+` stands for inside a name or a value. -/
def readSign (sign : Char) : Char :=
  if sign = '+' then ' ' else sign

theorem decodeText_eq (text : List Char) :
    decodeText text = String.ofList (Percent.decode (text.map readSign)) :=
  rfl

/-- What is written for a character reads as its octets. -/
theorem octets_readSign (c : Char) (rest : List Char) :
    Percent.octets ((encodeChar c).map readSign ++ rest) =
      Utf8.encodeChar c ++ Percent.octets rest := by
  unfold encodeChar
  split
  · rename_i space
    rw [space]
    exact Percent.octets_cons_of_ne (by decide) rest
  · have plain : (Percent.encodeChar c).map readSign = Percent.encodeChar c := by
      refine (List.map_congr_left fun sign written => ?_).trans (List.map_id _)
      refine if_neg ?_
      rintro rfl
      have apart : ¬ (Percent.isUnreserved '+' = true ∨ '+' = '%') := by decide
      exact apart (Percent.isUnreserved_of_mem_encodeChar written)
    rw [plain, Percent.octets_encodeChar]

theorem octets_readSigns (text : List Char) :
    Percent.octets ((text.flatMap encodeChar).map readSign) = Utf8.encode text := by
  induction text with
  | nil => rfl
  | cons c text ih =>
      rw [List.flatMap_cons, List.map_append, octets_readSign, ih, Utf8.encode_cons]

/-- Any text is read back from what was written for it. -/
theorem decodeText_encodeText (text : String) : decodeText (encodeText text) = text := by
  rw [decodeText_eq, encodeText, Percent.decode, octets_readSigns, Utf8.decode_encode,
    String.ofList_toList]

/-! ## Signs of a query -/

/-- A sign that a name or a value is written with. -/
def isTextSign (sign : Char) : Bool :=
  Percent.isUnreserved sign || sign == '%' || sign == '+'

/-- A sign that a query is written with. -/
def isQuerySign (sign : Char) : Bool :=
  isTextSign sign || sign == '=' || sign == '&'

/-- Queries are written in visible ASCII. -/
theorem visible_of_isQuerySign {sign : Char} (h : isQuerySign sign = true) :
    0x20 < sign.toNat ∧ sign.toNat < 0x7F := by
  simp only [isQuerySign, isTextSign, Percent.isUnreserved, Bool.or_eq_true, beq_iff_eq,
    or_assoc] at h
  rcases h with alphanumeric | rfl | rfl | rfl | rfl | rfl | rfl | rfl | rfl
  · unfold Char.isAlphanum Char.isAlpha Char.isUpper Char.isLower Char.isDigit at alphanumeric
    simp [UInt32.le_iff_toNat_le] at alphanumeric
    have number : sign.toNat = sign.val.toNat := rfl
    omega
  all_goals decide

theorem isTextSign_of_mem {text : String} {sign : Char} (h : sign ∈ encodeText text) :
    isTextSign sign = true := by
  obtain ⟨c, -, written⟩ := List.mem_flatMap.mp h
  unfold encodeChar at written
  split at written
  · obtain rfl := List.mem_singleton.mp written
    rfl
  · rcases Percent.isUnreserved_of_mem_encodeChar written with unreserved | rfl
    · simp [isTextSign, unreserved]
    · rfl

theorem notMem_encodeText {sign : Char} (h : isTextSign sign = false) (text : String) :
    sign ∉ encodeText text := by
  intro written
  rw [isTextSign_of_mem written] at h
  cases h

theorem isQuerySign_of_mem_encodePair {pair : String × String} {sign : Char}
    (h : sign ∈ encodePair pair) : isQuerySign sign = true := by
  rcases List.mem_append.mp h with name | rest
  · simp [isQuerySign, isTextSign_of_mem name]
  · rcases List.mem_cons.mp rest with rfl | value
    · rfl
    · simp [isQuerySign, isTextSign_of_mem value]

theorem isQuerySign_of_mem {pairs : List (String × String)} {sign : Char}
    (h : sign ∈ encodePairs pairs) : isQuerySign sign = true := by
  induction pairs with
  | nil => cases h
  | cons pair more ih =>
      cases more with
      | nil => exact isQuerySign_of_mem_encodePair h
      | cons next more =>
          rcases List.mem_append.mp h with here | rest
          · exact isQuerySign_of_mem_encodePair here
          · rcases List.mem_cons.mp rest with rfl | later
            · rfl
            · exact ih later

theorem notMem_encodePairs {sign : Char} (h : isQuerySign sign = false)
    (pairs : List (String × String)) : sign ∉ encodePairs pairs := by
  intro written
  rw [isQuerySign_of_mem written] at h
  cases h

/-! ## Pairs -/

/-- A pair is read back: what is written for its name has no `=`. -/
theorem decodePair_encodePair (pair : String × String) :
    decodePair (encodePair pair) = pair := by
  have divided : cut '=' (encodePair pair) = (encodeText pair.1, some (encodeText pair.2)) :=
    cut_append (notMem_encodeText (by decide) pair.1) _
  rw [decodePair, divided]
  exact Prod.ext (decodeText_encodeText pair.1) (decodeText_encodeText pair.2)

theorem decodePairs_encodePair (pair : String × String) :
    decodePairs (encodePair pair) = [pair] := by
  have undivided : '&' ∉ encodePair pair := by
    rw [encodePair, List.mem_append, List.mem_cons, not_or, not_or]
    exact ⟨notMem_encodeText (by decide) _, by decide, notMem_encodeText (by decide) _⟩
  have full : encodePair pair ≠ [] := by
    rw [encodePair]
    exact List.append_ne_nil_of_right_ne_nil _ (List.cons_ne_nil _ _)
  rw [decodePairs, pieces_of_notMem undivided]
  simp [full, decodePair_encodePair]

/-- Pairs that are written behind a query come after its own. -/
theorem decodePairs_append (query more : List Char) :
    decodePairs (query ++ '&' :: more) = decodePairs query ++ decodePairs more := by
  simp only [decodePairs, pieces_append_mark, List.filter_append, List.map_append]

/-- Every list of pairs is read back as it was written: in order, with its repetitions and
its empty names and values. -/
theorem decodePairs_encodePairs (pairs : List (String × String)) :
    decodePairs (encodePairs pairs) = pairs := by
  induction pairs with
  | nil => rfl
  | cons pair more ih =>
      cases more with
      | nil => exact decodePairs_encodePair pair
      | cons next more =>
          rw [encodePairs, decodePairs_append, decodePairs_encodePair, ih, List.singleton_append]
          exact List.cons_ne_nil next more

end Url.Query

end TokenFlow
