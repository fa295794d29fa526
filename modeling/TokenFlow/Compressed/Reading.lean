/-
# TokenFlow.Compressed.Reading -- compressed octets, bit by bit

Compressed octets are read as bits, each octet from its lowest bit on, and what
was read so far is kept whatever happens: octets that end too early are no flaw,
they only give less.  A `Flaw` is everything else that can be wrong with them.
-/

namespace TokenFlow.Compressed

set_option autoImplicit false

/-- What is wrong with compressed octets. -/
inductive Flaw where
  | headerCheck
  | method
  | window
  | headerFlags
  | headerSum
  /-- The octets can only be read with a dictionary that nobody has. -/
  | dictionary
  | blockType
  | storedLength
  | tooManyCodes
  /-- The lengths of the codes for the lengths of the other codes make no code. -/
  | lengthCodes
  | repetition
  | endCode
  | literalCodes
  | distanceCodes
  | literalCode
  | distanceCode
  | tooFarBack
  | dataSum
  | dataLength
  deriving DecidableEq, Repr

def Flaw.detail : Flaw → String
  | .headerCheck => "incorrect header check"
  | .method => "unknown compression method"
  | .window => "invalid window size"
  | .headerFlags => "unknown header flags set"
  | .headerSum => "header crc mismatch"
  | .dictionary => "need dictionary"
  | .blockType => "invalid block type"
  | .storedLength => "invalid stored block lengths"
  | .tooManyCodes => "too many length or distance symbols"
  | .lengthCodes => "invalid code lengths set"
  | .repetition => "invalid bit length repeat"
  | .endCode => "invalid code -- missing end-of-block"
  | .literalCodes => "invalid literal/lengths set"
  | .distanceCodes => "invalid distances set"
  | .literalCode => "invalid literal/length code"
  | .distanceCode => "invalid distance code"
  | .tooFarBack => "invalid distance too far back"
  | .dataSum => "incorrect data check"
  | .dataLength => "incorrect length check"

def Flaw.message (flaw : Flaw) : String :=
  "Error -3 while decompressing data: " ++ flaw.detail

/-- Why reading stops. -/
inductive Stop where
  /-- The octets are used up. -/
  | ended
  | flawed (flaw : Flaw)
  deriving DecidableEq, Repr

structure Progress where
  bits : List Bool
  /-- How many bits were read. -/
  position : Nat
  /-- The octets that were read, last one first. -/
  output : List UInt8

/-- The bits of an octet, lowest one first. -/
def bitsOfOctet (octet : UInt8) : List Bool :=
  (List.range 8).map octet.toNat.testBit

def Progress.start (octets : List UInt8) : Progress :=
  ⟨octets.flatMap bitsOfOctet, 0, []⟩

/-- Reading keeps its progress when it stops. -/
abbrev Reading (α : Type) := ExceptT Stop (StateM Progress) α

namespace Reading

def flawed {α : Type} (flaw : Flaw) : Reading α :=
  throw (.flawed flaw)

def ended {α : Type} : Reading α :=
  throw .ended

def numberOf (bits : List Bool) : Nat :=
  bits.foldr (fun bit n => 2 * n + bit.toNat) 0

/-- A number of so many bits, lowest one first. -/
def number (count : Nat) : Reading Nat := do
  let progress ← get
  let taken := progress.bits.take count
  if taken.length < count then ended
  else
    set { progress with
      bits := progress.bits.drop count
      position := progress.position + count }
    pure (numberOf taken)

/-- Goes on to the next whole octet. -/
def align : Reading Unit := do
  let _ ← number ((8 - (← get).position % 8) % 8)

def put (octet : UInt8) : Reading Unit :=
  modify fun progress => { progress with output := octet :: progress.output }

/-- Puts octets again that were put a distance ago. -/
def copy (distance : Nat) : Nat → Reading Unit
  | 0 => pure ()
  | length + 1 => do
      match (← get).output[distance - 1]? with
      | some octet => put octet
      | none => flawed .tooFarBack
      copy distance length

/-- So many octets as they are. -/
def plain : Nat → Reading Unit
  | 0 => pure ()
  | length + 1 => do
      put (UInt8.ofNat (← number 8))
      plain length

/-- What reading octets gives. -/
def run (reading : Reading Unit) (octets : List UInt8) : Except Flaw (List UInt8) :=
  match StateT.run (ExceptT.run reading) (Progress.start octets) with
  | (.error (.flawed flaw), _) => .error flaw
  | (_, progress) => .ok progress.output.reverse

end Reading

end TokenFlow.Compressed
