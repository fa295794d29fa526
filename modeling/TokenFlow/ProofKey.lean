/-
# TokenFlow.ProofKey -- the proof key and the state of a login

A login proves that the code comes back to whoever asked for it: the challenge
goes into the authorization address, the verifier into the exchange, and the
challenge is the digest of the verifier.  The state ties the redirect to the
login.  Both are random: a verifier takes one choice for each character, a state
thirty-two octets.
-/
import TokenFlow.Digest.Base64
import TokenFlow.Digest.Sha256
import TokenFlow.Document.Field
import TokenFlow.Text.Utf8
import TokenFlow.World.Basic

namespace TokenFlow

set_option autoImplicit false

open TokenFlow.Digest TokenFlow.Document

structure ProofKey where
  verifier : String
  challenge : String
  method : String
  deriving DecidableEq, Repr

namespace ProofKey

def minLength : Nat := 43

def maxLength : Nat := 128

def defaultLength : Nat := 64

/-- The characters of a verifier: the unreserved ones. -/
def alphabet : List Char :=
  "abcdefghijklmnopqrstuvwxyzABCDEFGHIJKLMNOPQRSTUVWXYZ0123456789-._~".toList

theorem alphabet_length_pos : 0 < alphabet.length := by
  decide

/-- The verifier that choices from the alphabet make. -/
def verifierOf (choices : List (Fin alphabet.length)) : String :=
  String.ofList (choices.map alphabet.get)

/-- The digest of a verifier, whose characters are octets as they are. -/
def digestText (verifier : List Char) : String :=
  Base64.encodeUrl (Sha256.digest (verifier.map fun c => UInt8.ofNat c.toNat))

/-- The challenge of a verifier, which has to be ASCII. -/
def challenge? (verifier : String) : Except Fault String :=
  if Text.Utf8.isAscii verifier.toList then .ok (digestText verifier.toList)
  else .error .notAscii

def ofVerifier (verifier : String) : ProofKey :=
  ⟨verifier, digestText verifier.toList, "S256"⟩

/-- A new proof key.  A length out of bounds is refused before anything is drawn. -/
def generate (length : Int) : WorldAct ProofKey := do
  if (minLength : Int) ≤ length ∧ length ≤ maxLength then
    let choices ← World.pick alphabet.length alphabet_length_pos length.toNat
    pure (ofVerifier (verifierOf choices))
  else Act.raise .verifierLength

/-! ## Document form -/

def ofFields (fields : Fields) : Checked ProofKey :=
  ProofKey.mk <$> fields.boundedText "code_verifier" minLength maxLength
    <*> fields.boundedText "code_challenge" 43 128
    <*> fields.textOr "code_challenge_method" "S256"

def ofBody (body : List UInt8) : Except (List Issue) ProofKey :=
  read ofFields body

end ProofKey

/-- The state value of one login. -/
def drawState : WorldAct String := do
  pure (Base64.encodeUrl (← World.draw 32))

end TokenFlow
