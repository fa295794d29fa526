/-
# TokenFlow.Text.Ranges -- tables of code points

Properties of characters are tables of ranges, both ends included.
-/

namespace TokenFlow.Text

set_option autoImplicit false

def within (ranges : List (Nat × Nat)) (n : Nat) : Bool :=
  ranges.any fun range => range.1 ≤ n && n ≤ range.2

end TokenFlow.Text
