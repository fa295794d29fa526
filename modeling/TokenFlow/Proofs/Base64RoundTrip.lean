/-
# TokenFlow.Proofs.Base64RoundTrip -- the octets behind a text of six bits a sign

Octets are written as values of six bits, each value as one sign (`encodeWith_eq_map`).  A
sign is read as its value (`urlValue?_urlSymbol`) and the values as the octets they were cut
from (`octets?_sextets`), so a text has the octets it was written for and no others
(`encodeUrl_injective`).
-/
import Mathlib.Logic.Function.Basic
import TokenFlow.Digest.Base64

namespace TokenFlow.Digest.Base64

set_option autoImplicit false

/-! ## Values of six bits -/

/-- The values that octets are cut into: four for every three octets, and two or three for
what is left. -/
def sextets : List UInt8 → List Nat
  | [] => []
  | [a] => [a.toNat / 4, a.toNat % 4 * 16]
  | [a, b] => [a.toNat / 4, a.toNat % 4 * 16 + b.toNat / 16, b.toNat % 16 * 4]
  | a :: b :: c :: rest =>
      a.toNat / 4 :: (a.toNat % 4 * 16 + b.toNat / 16)
        :: (b.toNat % 16 * 4 + c.toNat / 64) :: c.toNat % 64 :: sextets rest

theorem encodeWith_eq_map (letter : Nat → Char) (octets : List UInt8) :
    encodeWith letter octets = (sextets octets).map letter := by
  induction octets using sextets.induct with
  | case1 => rfl
  | case2 a => rfl
  | case3 a b => rfl
  | case4 a b c rest ih => simp only [encodeWith, sextets, ih, List.map_cons]

theorem sextets_lt (octets : List UInt8) : ∀ value ∈ sextets octets, value < 64 := by
  have bound (octet : UInt8) : octet.toNat < 256 := octet.toNat_lt
  induction octets using sextets.induct with
  | case1 => simp [sextets]
  | case2 a =>
      have := bound a
      simp only [sextets, List.forall_mem_cons]
      refine ⟨?_, ?_, List.forall_mem_nil _⟩
      · omega
      · omega
  | case3 a b =>
      have := bound a
      have := bound b
      simp only [sextets, List.forall_mem_cons]
      refine ⟨?_, ?_, ?_, List.forall_mem_nil _⟩
      · omega
      · omega
      · omega
  | case4 a b c rest ih =>
      have := bound a
      have := bound b
      have := bound c
      simp only [sextets, List.forall_mem_cons]
      refine ⟨?_, ?_, ?_, ?_, ih⟩
      · omega
      · omega
      · omega
      · omega

theorem length_sextets (octets : List UInt8) :
    (sextets octets).length = (4 * octets.length + 2) / 3 := by
  induction octets using sextets.induct with
  | case1 => rfl
  | case2 a => simp [sextets]
  | case3 a b => simp [sextets]
  | case4 a b c rest ih =>
      simp only [sextets, List.length_cons, ih]
      omega

/-- The values give back the octets that they were cut from. -/
theorem octets?_sextets (octets : List UInt8) : octets? (sextets octets) = some octets := by
  have back {n : Nat} {octet : UInt8} (same : n = octet.toNat) : UInt8.ofNat n = octet := by
    rw [same, UInt8.ofNat_toNat]
  induction octets using sextets.induct with
  | case1 => rfl
  | case2 a =>
      have first : UInt8.ofNat (a.toNat / 4 * 4 + a.toNat % 4 * 16 / 16) = a := back (by omega)
      simp only [sextets, octets?, first]
      rw [if_pos (by omega)]
  | case3 a b =>
      have := b.toNat_lt
      have first : UInt8.ofNat
          (a.toNat / 4 * 4 + (a.toNat % 4 * 16 + b.toNat / 16) / 16) = a := back (by omega)
      have second : UInt8.ofNat
          ((a.toNat % 4 * 16 + b.toNat / 16) % 16 * 16 + b.toNat % 16 * 4 / 4) = b :=
        back (by omega)
      simp only [sextets, octets?, first, second]
      rw [if_pos (by omega)]
  | case4 a b c rest ih =>
      have := b.toNat_lt
      have := c.toNat_lt
      have first : UInt8.ofNat
          (a.toNat / 4 * 4 + (a.toNat % 4 * 16 + b.toNat / 16) / 16) = a := back (by omega)
      have second : UInt8.ofNat ((a.toNat % 4 * 16 + b.toNat / 16) % 16 * 16
          + (b.toNat % 16 * 4 + c.toNat / 64) / 4) = b := back (by omega)
      have third : UInt8.ofNat
          ((b.toNat % 16 * 4 + c.toNat / 64) % 4 * 64 + c.toNat % 64) = c := back (by omega)
      simp only [sextets, octets?, ih, first, second, third, Option.map_some]

/-! ## Signs -/

/-- A sign of the URL-safe alphabet. -/
def IsUrlSign (c : Char) : Prop :=
  c.isAlphanum = true ∨ c = '-' ∨ c = '_'

instance (c : Char) : Decidable (IsUrlSign c) :=
  inferInstanceAs (Decidable (_ ∨ _))

theorem isUrlSign_urlSymbol {value : Nat} (small : value < 64) : IsUrlSign (urlSymbol value) := by
  revert value
  decide

theorem urlValue?_urlSymbol {value : Nat} (small : value < 64) :
    urlValue? (urlSymbol value) = some value := by
  revert value
  decide

theorem mapM_urlValue?_urlSymbol {values : List Nat} (small : ∀ value ∈ values, value < 64) :
    (values.map urlSymbol).mapM urlValue? = some values := by
  induction values with
  | nil => rfl
  | cons value values ih =>
      rw [List.forall_mem_cons] at small
      simp [urlValue?_urlSymbol small.1, ih small.2]

/-! ## Texts -/

theorem toList_encodeUrl (octets : List UInt8) :
    (encodeUrl octets).toList = (sextets octets).map urlSymbol := by
  rw [encodeUrl, String.toList_ofList, encodeWith_eq_map]

theorem length_encodeUrl (octets : List UInt8) :
    (encodeUrl octets).length = (4 * octets.length + 2) / 3 := by
  rw [← String.length_toList, toList_encodeUrl, List.length_map, length_sextets]

theorem isUrlSign_of_mem_encodeUrl {octets : List UInt8} {c : Char}
    (found : c ∈ (encodeUrl octets).toList) : IsUrlSign c := by
  rw [toList_encodeUrl] at found
  obtain ⟨value, cut, rfl⟩ := List.mem_map.mp found
  exact isUrlSign_urlSymbol (sextets_lt octets value cut)

/-- Reading takes back what writing put down. -/
theorem decodeUrl?_encodeUrl (octets : List UInt8) :
    decodeUrl? (encodeUrl octets) = some octets := by
  rw [decodeUrl?, toList_encodeUrl, mapM_urlValue?_urlSymbol (sextets_lt octets),
    Option.bind_some, octets?_sextets]

theorem encodeUrl_injective : Function.Injective encodeUrl := by
  intro a b same
  have read := congrArg decodeUrl? same
  rw [decodeUrl?_encodeUrl, decodeUrl?_encodeUrl] at read
  exact Option.some.inj read

/-- A text that writes thirty-two octets: without padding, and read back as these octets. -/
structure IsForm (octets : List UInt8) (text : String) : Prop where
  length : text.length = 43
  signs : ∀ c ∈ text.toList, IsUrlSign c
  reads : decodeUrl? text = some octets

theorem isForm_encodeUrl {octets : List UInt8} (size : octets.length = 32) :
    IsForm octets (encodeUrl octets) where
  length := by rw [length_encodeUrl, size]
  signs _ found := isUrlSign_of_mem_encodeUrl found
  reads := decodeUrl?_encodeUrl octets

end TokenFlow.Digest.Base64
