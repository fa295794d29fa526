/-
# TokenFlow.Text.Hex -- hexadecimal digits

Digits are read in either case and written as capitals.
-/

namespace TokenFlow.Text.Hex

set_option autoImplicit false

def value? (c : Char) : Option Nat :=
  if '0' ≤ c ∧ c ≤ '9' then some (c.toNat - 48)
  else if 'A' ≤ c ∧ c ≤ 'F' then some (c.toNat - 55)
  else if 'a' ≤ c ∧ c ≤ 'f' then some (c.toNat - 87)
  else none

/-- A value below sixteen. -/
def digit (value : Nat) : Char :=
  if value < 10 then Char.ofNat (48 + value) else Char.ofNat (55 + value)

theorem value?_digit : ∀ value, value < 16 → value? (digit value) = some value := by
  decide

/-- The octet of two digits. -/
def octet? (high low : Char) : Option UInt8 :=
  match value? high, value? low with
  | some h, some l => some (UInt8.ofNat (16 * h + l))
  | _, _ => none

/-- The octets of a text of digit pairs. -/
def octets? : List Char → Option (List UInt8)
  | [] => some []
  | high :: low :: rest =>
      match octet? high low with
      | some octet => (octets? rest).map (octet :: ·)
      | none => none
  | [_] => none

end TokenFlow.Text.Hex
