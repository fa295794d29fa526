/-
# TokenFlow.Proofs.DrawnKeys -- what a proof key and a state are made of

A verifier has one unreserved character for each choice that is made, so it is ASCII and has
a challenge, and both are as long as a document form of the key asks for
(`ofFields_fields`).  A challenge writes a digest and a state writes what was drawn for it;
both are thirty-two octets, which can be read back (`Base64.IsForm`).

A source that reads a stream of octets passes over those it cannot choose with (`Reads`).
What it chooses is chosen by the others, in their order (`Reads.pick`).
-/
import TokenFlow.Proofs.Base64RoundTrip
import TokenFlow.Proofs.Browsing
import TokenFlow.Proofs.CallbackRoundTrip

namespace TokenFlow

set_option autoImplicit false

open TokenFlow.Digest TokenFlow.Document TokenFlow.Text

/-! ## Octets that choose -/

namespace Entropy

variable {source : Entropy} {octets : Nat → UInt8} {bound : Nat}

/-- The choice that an octet makes, unless it is passed over. -/
def accepted? (bound : Nat) (octet : UInt8) : Option (Fin bound) :=
  if below : leadingBits bound octet < bound then some ⟨leadingBits bound octet, below⟩
  else none

theorem accepted?_zero (positive : 0 < bound) : accepted? bound 0 = some ⟨0, positive⟩ := by
  have zero : leadingBits bound 0 = 0 := Nat.zero_shiftRight _
  simp only [accepted?, zero, positive, dite_true]

/-- So many octets of a stream, from a place on. -/
def stretch (octets : Nat → UInt8) (place : Nat) : Nat → List UInt8
  | 0 => []
  | count + 1 => octets place :: stretch octets (place + 1) count

theorem stretch_add (place count more : Nat) :
    stretch octets place (count + more) =
      stretch octets place count ++ stretch octets (place + count) more := by
  induction count generalizing place with
  | zero => rw [Nat.zero_add]; rfl
  | succ count ih =>
      rw [Nat.succ_add, ← Nat.add_assoc, Nat.add_right_comm place]
      exact congrArg (octets place :: ·) (ih (place + 1))

/-- A source reads a stream: it takes one octet after another, and an octet that it cannot
choose with is passed over for the next one. -/
structure Reads (source : Entropy) (octets : Nat → UInt8) : Prop where
  next (place : Nat) : source.next place = (octets place, place + 1)
  choice (bound : Nat) (positive : 0 < bound) (place : Nat) : ∃ passed,
    (∀ octet ∈ stretch octets place passed, accepted? bound octet = none) ∧
    accepted? bound (octets (place + passed)) = some (source.choice bound positive place).1 ∧
    (source.choice bound positive place).2 = place + passed + 1

/-- Octets that are given, with zeros after them, are read as a stream. -/
theorem reads_ofOctets (octets : List UInt8) :
    (ofOctets octets).Reads fun place => octets.getD place 0 where
  next _ := rfl
  choice bound positive place := by
    show ∃ passed, _ ∧ _ = some (firstBelow bound positive (octets.drop place) place).1 ∧
      (firstBelow bound positive (octets.drop place) place).2 = _
    induction rest : octets.drop place generalizing place with
    | nil =>
        have beyond : octets.getD place 0 = 0 := by
          rw [List.getD_eq_getElem?_getD, ← List.head?_drop, rest]
          rfl
        refine ⟨0, fun _ found => absurd found List.not_mem_nil, ?_, rfl⟩
        rw [Nat.add_zero, beyond, accepted?_zero positive]
        rfl
    | cons octet rest' ih =>
        have here : octets.getD place 0 = octet := by
          rw [List.getD_eq_getElem?_getD, ← List.head?_drop, rest]
          rfl
        have behind : octets.drop (place + 1) = rest' := by
          rw [← List.tail_drop, rest, List.tail_cons]
        by_cases below : leadingBits bound octet < bound
        · refine ⟨0, fun _ found => absurd found List.not_mem_nil, ?_, ?_⟩
          · rw [Nat.add_zero, here]
            simp only [accepted?, firstBelow, below, dite_true]
          · simp only [firstBelow, below, dite_true, Nat.add_zero]
        · obtain ⟨passed, unfit, chosen, left⟩ := ih (place + 1) behind
          have unfitting : accepted? bound (octets.getD place 0) = none := by
            simp only [accepted?, here, below, dite_false]
          refine ⟨passed + 1, List.forall_mem_cons.mpr ⟨unfitting, unfit⟩, ?_, ?_⟩
          · rw [← Nat.add_assoc, Nat.add_right_comm, chosen]
            simp only [firstBelow, below, dite_false]
          · simp only [firstBelow, below, dite_false]
            omega

/-- What is chosen from a stream is chosen by the octets that are read and not passed over,
and nothing is read behind the last of them. -/
theorem Reads.pick (reads : source.Reads octets) (positive : 0 < bound) (count : Nat) :
    ∃ taken,
      (source.pick bound positive count).2 = { source with state := source.state + taken } ∧
      (source.pick bound positive count).1 =
        (stretch octets source.state taken).filterMap (accepted? bound) ∧
      ∀ octet ∈ (stretch octets source.state taken).getLast?, accepted? bound octet ≠ none := by
  induction count generalizing source with
  | zero => exact ⟨0, rfl, rfl, fun _ found => absurd found (Option.not_mem_none _)⟩
  | succ count ih =>
      obtain ⟨passed, unfit, chosen, moved⟩ := reads.choice bound positive source.state
      have onward : { source with state := source.state + passed + 1 }.Reads octets :=
        ⟨reads.next, reads.choice⟩
      obtain ⟨taken, left, more, last⟩ := ih onward
      have first : stretch octets source.state (passed + 1) =
          stretch octets source.state passed ++ [octets (source.state + passed)] :=
        stretch_add ..
      have both : stretch octets source.state (passed + 1 + taken) =
          stretch octets source.state (passed + 1) ++
            stretch octets (source.state + passed + 1) taken :=
        stretch_add ..
      refine ⟨passed + 1 + taken, ?_, ?_, fun octet found => ?_⟩
      · show (pick { source with state := (source.choice bound positive source.state).2 } bound
          positive count).2 = _
        rw [moved, left, Nat.add_assoc, Nat.add_assoc]
      · show (source.choice bound positive source.state).1 :: (pick { source with
          state := (source.choice bound positive source.state).2 } bound positive count).1 = _
        rw [moved, more, both, first, List.filterMap_append, List.filterMap_append,
          List.filterMap_eq_nil_iff.mpr unfit, List.nil_append, List.filterMap_cons, chosen]
        rfl
      · rw [both, first, List.getLast?_append, List.getLast?_concat, Option.mem_def,
          Option.or_eq_some_iff] at found
        obtain later | ⟨-, here⟩ := found
        · exact last octet later
        · obtain rfl := Option.some.inj here
          simp [chosen]

end Entropy

namespace ProofKey

variable {chosen : List (Fin alphabet.length)} {c : Char}

/-! ## Verifiers -/

theorem mem_alphabet_of_mem_verifierOf (found : c ∈ (verifierOf chosen).toList) :
    c ∈ alphabet := by
  rw [verifierOf, String.toList_ofList] at found
  obtain ⟨choice, -, rfl⟩ := List.mem_map.mp found
  exact List.get_mem alphabet choice

theorem isUnreserved_of_mem_verifierOf (found : c ∈ (verifierOf chosen).toList) :
    Percent.isUnreserved c = true := by
  have all : ∀ c ∈ alphabet, Percent.isUnreserved c = true :=
    forall_mem_of_all (by decide +kernel)
  exact all c (mem_alphabet_of_mem_verifierOf found)

theorem isAscii_verifierOf (chosen : List (Fin alphabet.length)) :
    Utf8.isAscii (verifierOf chosen).toList = true := by
  have all : ∀ c ∈ alphabet, c.toNat < 0x80 := forall_mem_of_all (by decide +kernel)
  rw [Utf8.isAscii, List.all_eq_true]
  intro c found
  exact decide_eq_true (all c (mem_alphabet_of_mem_verifierOf found))

theorem length_verifierOf (chosen : List (Fin alphabet.length)) :
    (verifierOf chosen).length = chosen.length := by
  rw [← String.length_toList, verifierOf, String.toList_ofList, List.length_map]

/-! ## Challenges -/

theorem challenge?_verifierOf (chosen : List (Fin alphabet.length)) :
    challenge? (verifierOf chosen) = .ok (digestText (verifierOf chosen).toList) := by
  rw [challenge?, if_pos (isAscii_verifierOf chosen)]

theorem isForm_digestText (text : List Char) :
    Base64.IsForm (Sha256.digest (text.map fun c => UInt8.ofNat c.toNat)) (digestText text) :=
  Base64.isForm_encodeUrl (Sha256.length_digest _)

/-! ## Document form -/

/-- The members of the document form of a key. -/
def fields (key : ProofKey) : Fields :=
  [("code_verifier", .string key.verifier), ("code_challenge", .string key.challenge),
    ("code_challenge_method", .string key.method)]

theorem boundedText_of_lookup {fields : Fields} {name text : String} {low high : Nat}
    (found : fields.lookup name = some (.string text)) (above : low ≤ text.length)
    (below : text.length ≤ high) : fields.boundedText name low high = .ok text := by
  have read : fields.requiredText name = .ok text := by
    simp only [Fields.requiredText, found]
  simp only [Fields.boundedText, read]
  rw [if_neg (by omega), if_neg (by omega)]

/-- A key whose texts are as long as they should be is read back from its document form. -/
theorem ofFields_fields {key : ProofKey}
    (verifier : minLength ≤ key.verifier.length ∧ key.verifier.length ≤ maxLength)
    (challenge : 43 ≤ key.challenge.length ∧ key.challenge.length ≤ 128) :
    ofFields key.fields = .ok key := by
  have first : key.fields.boundedText "code_verifier" minLength maxLength = .ok key.verifier :=
    boundedText_of_lookup rfl verifier.1 verifier.2
  have second : key.fields.boundedText "code_challenge" 43 128 = .ok key.challenge :=
    boundedText_of_lookup rfl challenge.1 challenge.2
  rw [ofFields, first, second]
  rfl

/-! ## Drawing -/

/-- What the characters of a verifier are chosen by. -/
theorem chosen_of_generate {length : Int} {world after : World} {octets : Nat → UInt8}
    {key : ProofKey} (reads : world.entropy.Reads octets)
    (given : generate length world = (.ok key, after)) :
    ∃ taken, after.entropy.state = world.entropy.state + taken ∧
      key.verifier.toList =
        ((Entropy.stretch octets world.entropy.state taken).filterMap
          (Entropy.accepted? alphabet.length)).map alphabet.get ∧
      ∀ octet ∈ (Entropy.stretch octets world.entropy.state taken).getLast?,
        Entropy.accepted? alphabet.length octet ≠ none := by
  by_cases inside : (minLength : Int) ≤ length ∧ length ≤ maxLength
  · rw [generate_of_bounds inside] at given
    obtain ⟨same, rfl⟩ := Prod.mk.inj given
    obtain rfl := Except.ok.inj same
    obtain ⟨taken, left, chosen, last⟩ := reads.pick alphabet_length_pos length.toNat
    refine ⟨taken, congrArg Entropy.state left, ?_, last⟩
    rw [ofVerifier, verifierOf, String.toList_ofList]
    exact congrArg (List.map alphabet.get) chosen
  · rw [generate_of_not_bounds inside] at given
    cases given

/-- A length out of bounds is refused before anything is drawn.  With any other length there is
a key, after as many choices: its verifier has this many characters, all of them unreserved, its
challenge is the one that is computed for the verifier, and its document form is accepted.
From a stream, the characters are those chosen by the octets that are read and not passed over,
and nothing is read behind the last of them.  Every ASCII text has a challenge, which
writes the digest of the octets of the text; a state writes the octets that were drawn for it,
so other octets give another state. -/
theorem keys_and_states_written :
    (∀ (length : Int) (world : World), ¬ (43 ≤ length ∧ length ≤ 128) →
      generate length world = (.error .verifierLength, world)) ∧
    (∀ (length : Int) (world : World), 43 ≤ length ∧ length ≤ 128 →
      ∃ key, generate length world =
          (.ok key, { world with entropy := (choices world.entropy length.toNat).2 }) ∧
        (key.verifier.length : Int) = length ∧
        (∀ c ∈ key.verifier.toList, Percent.isUnreserved c = true) ∧
        challenge? key.verifier = .ok key.challenge ∧
        ofFields key.fields = .ok key) ∧
    (∀ (length : Int) (world after : World) (octets : Nat → UInt8) (key : ProofKey),
      world.entropy.Reads octets → generate length world = (.ok key, after) →
        ∃ taken, after.entropy.state = world.entropy.state + taken ∧
          key.verifier.toList =
            ((Entropy.stretch octets world.entropy.state taken).filterMap
              (Entropy.accepted? alphabet.length)).map alphabet.get ∧
          ∀ octet ∈ (Entropy.stretch octets world.entropy.state taken).getLast?,
            Entropy.accepted? alphabet.length octet ≠ none) ∧
    (∀ text : String, (∀ c ∈ text.toList, c.toNat < 0x80) →
      ∃ challenge, challenge? text = .ok challenge ∧
        Base64.IsForm (Sha256.digest text.toUTF8.data.toList) challenge) ∧
    (∀ world, ∃ state,
      drawState world = (.ok state, { world with entropy := (world.entropy.draw 32).2 }) ∧
        Base64.IsForm (world.entropy.draw 32).1 state) ∧
    ∀ world world' state, (drawState world).1 = .ok state → (drawState world').1 = .ok state →
      (world.entropy.draw 32).1 = (world'.entropy.draw 32).1 := by
  refine ⟨?refused, ?generated, ?accepted, ?computed, ?drawn, ?apart⟩
  case refused =>
    intro length world outside
    exact generate_of_not_bounds outside world
  case generated =>
    intro length world inside
    let chosen := (choices world.entropy length.toNat).1
    have size : (verifierOf chosen).length = length.toNat := by
      rw [length_verifierOf]
      exact Entropy.length_pick ..
    refine ⟨ofVerifier (verifierOf chosen), generate_of_bounds inside world, ?_, ?_, ?_, ?_⟩
    · show ((verifierOf chosen).length : Int) = length
      rw [size]
      omega
    · intro c found
      exact isUnreserved_of_mem_verifierOf found
    · exact challenge?_verifierOf chosen
    · have challenge := (isForm_digestText (verifierOf chosen).toList).length
      apply ofFields_fields
      · show 43 ≤ (verifierOf chosen).length ∧ (verifierOf chosen).length ≤ 128
        rw [size]
        omega
      · show 43 ≤ (digestText _).length ∧ (digestText _).length ≤ 128
        rw [challenge]
        omega
  case accepted =>
    intro length world after octets key reads given
    exact chosen_of_generate reads given
  case computed =>
    intro text ascii
    have isAscii : Utf8.isAscii text.toList = true := by
      rw [Utf8.isAscii, List.all_eq_true]
      intro c found
      exact decide_eq_true (ascii c found)
    refine ⟨digestText text.toList, ?_, ?_⟩
    · rw [challenge?, if_pos isAscii]
    · rw [← Utf8.encode_toList, Utf8.encode_of_isAscii ascii]
      exact isForm_digestText text.toList
  case drawn =>
    intro world
    exact ⟨_, rfl, Base64.isForm_encodeUrl (world.entropy.length_draw 32)⟩
  case apart =>
    intro world world' state given given'
    have written : Base64.encodeUrl (world.entropy.draw 32).1 = state := Except.ok.inj given
    have written' : Base64.encodeUrl (world'.entropy.draw 32).1 = state := Except.ok.inj given'
    exact Base64.encodeUrl_injective (written.trans written'.symm)

/-- One source at a time of the clock. -/
def seeded (seconds : Nat) : World :=
  .quiet (.exactly seconds) (.ofSeed 7)

/-- Before each octet that chooses `b` there is one that is passed over. -/
def hesitant : World :=
  .quiet (.exactly 0) (.ofOctets ((List.replicate 43 [0xFF, 0x02]).flatten))

/-- A verifier that would be too short, the longest one, one whose octets are passed over by
turns, a challenge, and a state that two logins share. -/
theorem keys_and_states_of_seeded :
    generate 42 (seeded 0) = (.error .verifierLength, seeded 0) ∧
    (∃ key, generate 128 (seeded 0) =
        (.ok key, { seeded 0 with entropy := (choices (Entropy.ofSeed 7) 128).2 }) ∧
      (key.verifier.length : Int) = 128 ∧
      (∀ c ∈ key.verifier.toList, Percent.isUnreserved c = true) ∧
      challenge? key.verifier = .ok key.challenge ∧
      ofFields key.fields = .ok key) ∧
    (∃ key after, generate 43 hesitant = (.ok key, after) ∧ after.entropy.state = 86 ∧
      key.verifier.toList = List.replicate 43 'b') ∧
    (∃ challenge, challenge? "verifier" = .ok challenge ∧
      Base64.IsForm (Sha256.digest "verifier".toUTF8.data.toList) challenge) ∧
    ((seeded 0).entropy.draw 32).1 = ((seeded 1).entropy.draw 32).1 := by
  refine ⟨keys_and_states_written.1 42 (seeded 0) (by decide),
    keys_and_states_written.2.1 128 (seeded 0) (by decide), ?_,
    keys_and_states_written.2.2.2.1 "verifier" (forall_mem_of_all (by decide)),
    keys_and_states_written.2.2.2.2.2 (seeded 0) (seeded 1) _ rfl rfl⟩
  obtain ⟨key, given, -⟩ := keys_and_states_written.2.1 43 hesitant (by decide)
  obtain ⟨taken, left, chosen, -⟩ :=
    keys_and_states_written.2.2.1 43 hesitant _ _ key (Entropy.reads_ofOctets _) given
  have read : (choices hesitant.entropy 43).2.state = 86 := by decide +kernel
  obtain rfl : taken = 86 := (Nat.zero_add taken).symm.trans (left.symm.trans read)
  exact ⟨key, _, given, read, chosen.trans (by decide +kernel)⟩

/-- The sample key of RFC 7636. -/
example : (challenge? "dBjftJeZ4CVP-mB92K27uhbUJU1p1r_wW1gFWFOEjXk").toOption =
    some "E9Melhoa2OwvFrEMTJguCHaoeK1t8URWbuGJSstw-cM" := by
  decide +kernel

end ProofKey

end TokenFlow
