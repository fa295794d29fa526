/-
# TokenFlow.Proofs.AnnouncedLifetime -- how long a grant says that it lasts

Issuers announce a lifetime as an integer, as a double without a fraction, as a truth value
or as a text.  `Denotes` says which whole number such a value stands for, and `Announces`
which lifetime follows from it: the number when it is positive, and an hour when it is not,
or when there is none.  A grant that is read from a body has the lifetime that the body
announces (`Grant.lifetime_of_announces`).
-/
import TokenFlow.Proofs.DocumentFields
import TokenFlow.Proofs.Numerals
import TokenFlow.Proofs.WholeSeconds

namespace TokenFlow.Document

set_option autoImplicit false

open TokenFlow.Json TokenFlow.Number

namespace WholeNumber

/-! ## Values -/

/-- The whole number that a value stands for. -/
inductive Denotes : Value → Int → Prop
  | integer (n : Int) : Denotes (.integer n) n
  | real (n : Int) : Denotes (.real (.exactly n)) n
  | negativeZero : Denotes (.real .negativeZero) 0
  | yes : Denotes (.bool true) 1
  | no : Denotes (.bool false) 0
  | text {text : String} {n : Int} (numeral : IsNumeral text.toList n) : Denotes (.string text) n

theorem toInt?_exactly (n : Int) : (Binary64.exactly n).toInt? = some n := by
  have whole : n * (Binary64.one : Int) % Binary64.one = 0 := Int.mul_emod_left _ _
  have back : n * (Binary64.one : Int) / Binary64.one = n :=
    Int.mul_ediv_cancel n Binary64.one_pos.ne'
  rw [Binary64.exactly, Binary64.toInt?, if_pos whole, back]

theorem inWordRange_of_small {n : Int} (small : n.natAbs ≤ 2 ^ 53) : inWordRange n = true := by
  have word : Int.pow 2 63 = 9223372036854775808 := by decide
  rw [inWordRange, word, Bool.and_eq_true, decide_eq_true_iff, decide_eq_true_iff]
  omega

theorem ofValue_of_denotes {value : Value} {n : Int} (denotes : Denotes value n)
    (small : n.natAbs ≤ 2 ^ 53) : ofValue value = .ok n := by
  cases denotes with
  | integer => rfl
  | real =>
      have finite : (Binary64.exactly n).isFinite = true := rfl
      simp [ofValue, ofReal, finite, toInt?_exactly, inWordRange_of_small small]
  | negativeZero => rfl
  | yes => rfl
  | no => rfl
  | text numeral => exact ofText_of_isNumeral numeral small

end WholeNumber

/-! ## Lifetimes -/

/-- How long a credential lasts by what its grant says: for as long as announced when that
is positive, and for an hour otherwise. -/
inductive Announces : Option Value → Int → Prop
  | absent : Announces none 3600
  | null : Announces (some .null) 3600
  | positive {value : Value} {n : Int} (denotes : WholeNumber.Denotes value n)
      (positive : 0 < n) (small : n ≤ 2 ^ 53) : Announces (some value) n
  | nonpositive {value : Value} {n : Int} (denotes : WholeNumber.Denotes value n)
      (nonpositive : n ≤ 0) (small : -2 ^ 53 ≤ n) : Announces (some value) 3600

theorem Announces.small {field : Option Value} {lifetime : Int}
    (announced : Announces field lifetime) : 0 < lifetime ∧ lifetime ≤ 2 ^ 53 := by
  cases announced with
  | positive denotes positive small => exact ⟨positive, small⟩
  | absent | null | nonpositive => decide

/-- What is read of the field, and what is made of it. -/
theorem optionalWhole_of_announces {fields : Fields} {name : String} {lifetime : Int}
    (announced : Announces (fields.lookup name) lifetime) :
    ∃ read, fields.optionalWhole name = .ok read ∧
      ∀ grant : Grant, grant.expiresIn = read → grant.lifetime = lifetime := by
  unfold Fields.optionalWhole Grant.lifetime
  generalize fields.lookup name = field at announced
  cases announced with
  | absent => exact ⟨none, rfl, fun grant same => by rw [same]; rfl⟩
  | null => exact ⟨none, rfl, fun grant same => by rw [same]; rfl⟩
  | @positive value n denotes positive small =>
      have read := WholeNumber.ofValue_of_denotes denotes (by omega)
      refine ⟨some lifetime, ?_, fun grant same => by rw [same]; exact if_pos positive⟩
      cases denotes <;> simp only [read]
  | @nonpositive value n denotes nonpositive small =>
      have read := WholeNumber.ofValue_of_denotes denotes (by omega)
      refine ⟨some n, ?_, fun grant same => by rw [same]; exact if_neg (by omega)⟩
      cases denotes <;> simp only [read]

theorem Grant.lifetime_of_announces {body : List UInt8} {fields : Fields} {grant : Grant}
    {lifetime : Int} (object : Value.ofOctets? body = some (.object fields))
    (came : Grant.ofBody body = .ok grant)
    (announced : Announces (fields.lookup "expires_in") lifetime) : grant.lifetime = lifetime := by
  obtain ⟨read, found, made⟩ := optionalWhole_of_announces announced
  have describes := Grant.ofFields_eq_ok_iff.mp (ofFields_of_read object came)
  have same := (Fields.optionalWhole_eq_ok_iff.mpr describes.expiresIn).symm.trans found
  injection same with same
  exact made grant same

end TokenFlow.Document
