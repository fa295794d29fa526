/-
# TokenFlow.Text.Utf8 -- characters as octets, and octets as characters

`encode` writes characters as UTF-8.  `units` reads any octets at all: each unit
is one character or one ill-formed stretch, where a stretch is the longest
prefix that some character's octets begin with (or one octet when there is no
such prefix).  The two readers differ only in what they do with a stretch:
`decode` puts one replacement character in its place and `decode?` refuses the
whole text, so both accept exactly the same well-formed octets.
-/

namespace TokenFlow.Text.Utf8

set_option autoImplicit false

/-! ## Writing -/

/-- Whether every character is a single octet in UTF-8. -/
def isAscii (text : List Char) : Bool :=
  text.all (·.toNat < 0x80)

/-- The one to four octets of a character. -/
def encodeChar (c : Char) : List UInt8 :=
  let n := c.toNat
  if n < 0x80 then
    [UInt8.ofNat n]
  else if n < 0x800 then
    [UInt8.ofNat (0xC0 + n / 64), UInt8.ofNat (0x80 + n % 64)]
  else if n < 0x10000 then
    [UInt8.ofNat (0xE0 + n / 4096), UInt8.ofNat (0x80 + n / 64 % 64), UInt8.ofNat (0x80 + n % 64)]
  else
    [UInt8.ofNat (0xF0 + n / 262144), UInt8.ofNat (0x80 + n / 4096 % 64),
      UInt8.ofNat (0x80 + n / 64 % 64), UInt8.ofNat (0x80 + n % 64)]

def encode (text : List Char) : List UInt8 :=
  text.flatMap encodeChar

@[simp] theorem encode_nil : encode [] = [] := rfl

@[simp] theorem encode_cons (c : Char) (text : List Char) :
    encode (c :: text) = encodeChar c ++ encode text := rfl

@[simp] theorem encode_append (a b : List Char) : encode (a ++ b) = encode a ++ encode b := by
  simp [encode]

/-! ## Reading -/

def inRange (low high : Nat) (octet : UInt8) : Bool :=
  low ≤ octet.toNat && octet.toNat ≤ high

/-- The last six bits of a continuation octet. -/
def payload (octet : UInt8) : Nat :=
  octet.toNat - 0x80

/-- The unit that starts with the octet `lead`, and the octets after it.  The
second octet of a three or four octet character has a narrower range after some
leads: that is what excludes overlong forms, surrogates and values above
U+10FFFF. -/
def unit (lead : Nat) (rest : List UInt8) : Option Char × List UInt8 :=
  if lead < 0x80 then
    (some (Char.ofNat lead), rest)
  else if lead < 0xC2 then
    (none, rest)
  else if lead < 0xE0 then
    match rest with
    | [] => (none, [])
    | x :: afterX =>
        if inRange 0x80 0xBF x then
          (some (Char.ofNat ((lead - 0xC0) * 64 + payload x)), afterX)
        else (none, x :: afterX)
  else if lead < 0xF0 then
    match rest with
    | [] => (none, [])
    | x :: afterX =>
        if inRange (if lead = 0xE0 then 0xA0 else 0x80) (if lead = 0xED then 0x9F else 0xBF) x then
          match afterX with
          | [] => (none, [])
          | y :: afterY =>
              if inRange 0x80 0xBF y then
                (some (Char.ofNat ((lead - 0xE0) * 4096 + payload x * 64 + payload y)), afterY)
              else (none, y :: afterY)
        else (none, x :: afterX)
  else if lead < 0xF5 then
    match rest with
    | [] => (none, [])
    | x :: afterX =>
        if inRange (if lead = 0xF0 then 0x90 else 0x80) (if lead = 0xF4 then 0x8F else 0xBF) x then
          match afterX with
          | [] => (none, [])
          | y :: afterY =>
              if inRange 0x80 0xBF y then
                match afterY with
                | [] => (none, [])
                | z :: afterZ =>
                    if inRange 0x80 0xBF z then
                      (some (Char.ofNat ((lead - 0xF0) * 262144 + payload x * 4096
                        + payload y * 64 + payload z)), afterZ)
                    else (none, z :: afterZ)
              else (none, y :: afterY)
        else (none, x :: afterX)
  else (none, rest)

theorem unit_length_le (lead : Nat) (rest : List UInt8) :
    (unit lead rest).2.length ≤ rest.length := by
  unfold unit
  repeat' split
  all_goals simp only [List.length_cons, List.length_nil]; try omega

/-- The text as a list of units, `none` for an ill-formed stretch. -/
def units : List UInt8 → List (Option Char)
  | [] => []
  | octet :: rest => (unit octet.toNat rest).1 :: units (unit octet.toNat rest).2
termination_by octets => octets.length
decreasing_by
  have := unit_length_le octet.toNat rest
  simp only [List.length_cons]
  omega

/-- Every octet string as text, ill-formed stretches replaced by U+FFFD. -/
def decode (octets : List UInt8) : List Char :=
  (units octets).map (·.getD '\uFFFD')

/-- Well-formed octets as text. -/
def decode? (octets : List UInt8) : Option (List Char) :=
  (units octets).mapM id

end TokenFlow.Text.Utf8
