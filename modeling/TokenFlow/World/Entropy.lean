/-
# TokenFlow.World.Entropy -- a source of random octets and choices

Any source: a state, a way to take one octet, and a way to choose one of so many
numbers.  What is drawn depends on the source alone, so the same source gives the
same draws.  A source that chooses by octets (`ofOctets`) takes as many of the
first bits of an octet as the bound has, and the next octet when that is too much.
A stream of which every octet is too much from some place on is no source, since a
choice from it would have no end.
-/

namespace TokenFlow

set_option autoImplicit false

structure Entropy where
  next : Nat → UInt8 × Nat
  /-- One of the numbers below a bound. -/
  choice : (bound : Nat) → 0 < bound → Nat → Fin bound × Nat
  state : Nat

namespace Entropy

/-! ## Octets -/

/-- The next octets of the source, and the source after them. -/
def draw (entropy : Entropy) : Nat → List UInt8 × Entropy
  | 0 => ([], entropy)
  | count + 1 =>
      let (octet, state) := entropy.next entropy.state
      let (octets, rest) := draw { entropy with state } count
      (octet :: octets, rest)

theorem length_draw (entropy : Entropy) (count : Nat) :
    (entropy.draw count).1.length = count := by
  induction count generalizing entropy with
  | zero => rfl
  | succ count ih => simp [draw, ih]

/-! ## Choices -/

/-- So many numbers below a bound, and the source after them. -/
def pick (entropy : Entropy) (bound : Nat) (positive : 0 < bound) :
    Nat → List (Fin bound) × Entropy
  | 0 => ([], entropy)
  | count + 1 =>
      let (chosen, state) := entropy.choice bound positive entropy.state
      let (more, rest) := pick { entropy with state } bound positive count
      (chosen :: more, rest)

theorem length_pick (entropy : Entropy) (bound : Nat) (positive : 0 < bound) (count : Nat) :
    (entropy.pick bound positive count).1.length = count := by
  induction count generalizing entropy with
  | zero => rfl
  | succ count ih => simp [pick, ih]

/-! ## Sources -/

/-- A linear congruential step. -/
def congruential (state : Nat) : UInt8 × Nat :=
  let state := (state * 1103515245 + 12345) % Nat.pow 2 31
  (UInt8.ofNat (state / Nat.pow 2 16), state)

/-- A stream that repeats itself for a repeated seed, and chooses by remainders. -/
def ofSeed (seed : Nat) : Entropy where
  next := congruential
  choice bound positive state :=
    let (octet, state) := congruential state
    (⟨octet.toNat % bound, Nat.mod_lt _ positive⟩, state)
  state := seed

/-- The number in the first bits of an octet, as many as a bound of one octet has. -/
def leadingBits (bound : Nat) (octet : UInt8) : Nat :=
  octet.toNat >>> (8 - (Nat.log2 bound + 1))

/-- The first octet whose leading bits are below a bound, and the place behind it;
zeros come after the octets. -/
def firstBelow (bound : Nat) (positive : 0 < bound) : List UInt8 → Nat → Fin bound × Nat
  | [], index => (⟨0, positive⟩, index + 1)
  | octet :: rest, index =>
      if below : leadingBits bound octet < bound then (⟨leadingBits bound octet, below⟩, index + 1)
      else firstBelow bound positive rest (index + 1)

/-- Given octets, and zeros after them. -/
def ofOctets (octets : List UInt8) : Entropy where
  next index := (octets.getD index 0, index + 1)
  choice bound positive index := firstBelow bound positive (octets.drop index) index
  state := 0

end Entropy

end TokenFlow
