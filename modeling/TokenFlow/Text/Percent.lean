/-
# TokenFlow.Text.Percent -- percent escapes

Every octet of the UTF-8 form that is not an unreserved character is written
`%XX` with capital digits.  Reading takes each well-formed escape as an octet,
leaves every other character in place, and reads the octets back as UTF-8; a
percent sign that no two hexadecimal digits follow stays a percent sign.
-/
import TokenFlow.Text.Hex
import TokenFlow.Text.Utf8

namespace TokenFlow.Text.Percent

set_option autoImplicit false

/-! ## Writing -/

/-- Letters, digits and `_ . - ~`, which stand for themselves. -/
def isUnreserved (c : Char) : Bool :=
  c.isAlphanum || c == '_' || c == '.' || c == '-' || c == '~'

def escape (octet : UInt8) : List Char :=
  ['%', Hex.digit (octet.toNat / 16), Hex.digit (octet.toNat % 16)]

/-- One character: itself when it is unreserved, else its octets escaped. -/
def encodeChar (c : Char) : List Char :=
  if isUnreserved c then [c] else (Utf8.encodeChar c).flatMap escape

/-- A text as one path segment. -/
def encode (text : List Char) : List Char :=
  text.flatMap encodeChar

@[simp] theorem encode_nil : encode [] = [] := rfl

@[simp] theorem encode_cons (c : Char) (text : List Char) :
    encode (c :: text) = encodeChar c ++ encode text := rfl

/-! ## Reading -/

/-- The octets a text stands for. -/
def octets : List Char → List UInt8
  | [] => []
  | '%' :: high :: low :: rest =>
      match Hex.octet? high low with
      | some octet => octet :: octets rest
      | none => 37 :: octets (high :: low :: rest)
  | c :: rest => Utf8.encodeChar c ++ octets rest

def decode (text : List Char) : List Char :=
  Utf8.decode (octets text)

end TokenFlow.Text.Percent
