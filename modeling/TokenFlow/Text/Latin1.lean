/-
# TokenFlow.Text.Latin1 -- one octet, one character

The first 256 characters, by number.  Request lines and bodies labelled
ISO-8859-1 are read this way, which never fails.
-/

namespace TokenFlow.Text.Latin1

set_option autoImplicit false

def decode (octets : List UInt8) : List Char :=
  octets.map fun octet => Char.ofNat octet.toNat

end TokenFlow.Text.Latin1
