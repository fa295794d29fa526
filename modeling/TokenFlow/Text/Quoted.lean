/-
# TokenFlow.Text.Quoted -- a text shown between quotes

Messages show a piece of input between quotes so that its ends are visible.
Single quotes are used unless the text holds single but no double ones.
Backslashes, the quote in use and invisible characters are escaped.
-/
import TokenFlow.Text.Hex
import TokenFlow.Text.Visible

namespace TokenFlow.Text.Quoted

set_option autoImplicit false

/-- The last hexadecimal digits of a number, in small letters. -/
def lowerHex (value : Nat) : Nat → List Char
  | 0 => []
  | count + 1 => lowerHex (value / 16) count ++ [(Hex.digit (value % 16)).toLower]

/-- A character by its number, in the shortest of three forms. -/
def escapeNumber (value : Nat) : List Char :=
  if value < 0x100 then '\\' :: 'x' :: lowerHex value 2
  else if value < 0x10000 then '\\' :: 'u' :: lowerHex value 4
  else '\\' :: 'U' :: lowerHex value 8

def escapeChar (hidden : Char → Bool) (quote c : Char) : List Char :=
  if c = quote ∨ c = '\\' then ['\\', c]
  else if c = '\n' then ['\\', 'n']
  else if c = '\r' then ['\\', 'r']
  else if c = '\t' then ['\\', 't']
  else if hidden c then escapeNumber c.toNat
  else [c]

def encode (hidden : Char → Bool) (text : List Char) : List Char :=
  let quote := if text.contains '\'' && !text.contains '"' then '"' else '\''
  quote :: text.flatMap (escapeChar hidden quote) ++ [quote]

def toText (text : String) : String :=
  String.ofList (encode isInvisible text.toList)

/-- Octets between quotes: only visible ASCII characters stand for themselves. -/
def octetsToText (octets : List UInt8) : String :=
  String.ofList (encode (fun c => c.toNat < 0x20 || 0x7F ≤ c.toNat)
    (octets.map fun octet => Char.ofNat octet.toNat))

end TokenFlow.Text.Quoted
