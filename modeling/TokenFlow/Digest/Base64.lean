/-
# TokenFlow.Digest.Base64 -- octets in an alphabet of sixty-four characters

Three octets are four characters; one or two octets at the end are two or three
characters.  `encodeUrl` uses the URL-safe alphabet and no padding,
`encodePadded` the standard alphabet and padding to a multiple of four.
`decodeUrl?` reads the URL-safe form back.
-/

namespace TokenFlow.Digest.Base64

set_option autoImplicit false

/-! ## Alphabets -/

/-- Letters and digits at 0 to 61, then the two given characters. -/
def symbol (at62 at63 : Char) (value : Nat) : Char :=
  if value < 26 then Char.ofNat (65 + value)
  else if value < 52 then Char.ofNat (97 + (value - 26))
  else if value < 62 then Char.ofNat (48 + (value - 52))
  else if value = 62 then at62 else at63

def urlSymbol (value : Nat) : Char :=
  symbol '-' '_' value

/-- The value of a character of the URL-safe alphabet. -/
def urlValue? (c : Char) : Option Nat :=
  if 'A' ≤ c ∧ c ≤ 'Z' then some (c.toNat - 65)
  else if 'a' ≤ c ∧ c ≤ 'z' then some (c.toNat - 97 + 26)
  else if '0' ≤ c ∧ c ≤ '9' then some (c.toNat - 48 + 52)
  else if c = '-' then some 62
  else if c = '_' then some 63
  else none

/-! ## Writing -/

def encodeWith (letter : Nat → Char) : List UInt8 → List Char
  | [] => []
  | [a] => [letter (a.toNat / 4), letter (a.toNat % 4 * 16)]
  | [a, b] =>
      [letter (a.toNat / 4), letter (a.toNat % 4 * 16 + b.toNat / 16), letter (b.toNat % 16 * 4)]
  | a :: b :: c :: rest =>
      letter (a.toNat / 4) :: letter (a.toNat % 4 * 16 + b.toNat / 16)
        :: letter (b.toNat % 16 * 4 + c.toNat / 64) :: letter (c.toNat % 64)
        :: encodeWith letter rest

def encodeUrl (octets : List UInt8) : String :=
  String.ofList (encodeWith urlSymbol octets)

def encodePadded (octets : List UInt8) : String :=
  let text := encodeWith (symbol '+' '/') octets
  String.ofList (text ++ List.replicate ((4 - text.length % 4) % 4) '=')

/-! ## Reading -/

/-- The octets of values below sixty-four; a single value at the end is no octet,
and unused bits at the end must be zero. -/
def octets? : List Nat → Option (List UInt8)
  | [] => some []
  | [_] => none
  | [p, q] => if q % 16 = 0 then some [UInt8.ofNat (p * 4 + q / 16)] else none
  | [p, q, r] =>
      if r % 4 = 0 then
        some [UInt8.ofNat (p * 4 + q / 16), UInt8.ofNat (q % 16 * 16 + r / 4)]
      else none
  | p :: q :: r :: s :: rest =>
      (octets? rest).map fun more =>
        UInt8.ofNat (p * 4 + q / 16) :: UInt8.ofNat (q % 16 * 16 + r / 4)
          :: UInt8.ofNat (r % 4 * 64 + s) :: more

def decodeUrl? (text : String) : Option (List UInt8) :=
  (text.toList.mapM urlValue?).bind octets?

end TokenFlow.Digest.Base64
