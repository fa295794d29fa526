/-
# TokenFlow.Compressed.Block -- blocks of compressed octets

Compressed octets come in blocks, of which the last one is marked.  A block holds
octets as they are, or symbols of two prefix codes, which are fixed or told at the
start of the block.  A symbol is an octet, the end of the block, or a length; a
length is followed by the distance back to what comes again.
-/
import TokenFlow.Compressed.PrefixCode

namespace TokenFlow.Compressed.Block

set_option autoImplicit false

/-! ## Lengths and distances -/

/-- The least length of a symbol above the end of a block, and its additional bits. -/
def lengths : List (Nat × Nat) :=
  [(3, 0), (4, 0), (5, 0), (6, 0), (7, 0), (8, 0), (9, 0), (10, 0), (11, 1), (13, 1), (15, 1),
    (17, 1), (19, 2), (23, 2), (27, 2), (31, 2), (35, 3), (43, 3), (51, 3), (59, 3), (67, 4),
    (83, 4), (99, 4), (115, 4), (131, 5), (163, 5), (195, 5), (227, 5), (258, 0)]

/-- The least distance of a symbol, and its additional bits. -/
def distances : List (Nat × Nat) :=
  [(1, 0), (2, 0), (3, 0), (4, 0)]
    ++ (List.range 26).map fun n => ((2 + n % 2) * Nat.pow 2 (n / 2 + 1) + 1, n / 2 + 1)

/-- The number of a symbol, with its additional bits. -/
def amount (table : List (Nat × Nat)) (symbol : Nat) (flaw : Flaw) : Reading Nat :=
  match table[symbol]? with
  | none => Reading.flawed flaw
  | some (least, bits) => do pure (least + (← Reading.number bits))

/-- The symbol that ends a block. -/
def endSymbol : Nat := 256

/-- Puts what a length and the distance behind it stand for. -/
def repeated (distanceCode : PrefixCode) (symbol : Nat) : Reading Unit := do
  let length ← amount lengths (symbol - endSymbol - 1) .literalCode
  match ← distanceCode.read with
  | none => Reading.flawed .distanceCode
  | some symbol => Reading.copy (← amount distances symbol .distanceCode) length

/-- Symbols up to the end of a block, of which there are no more than `fuel`. -/
def symbols (literalCode distanceCode : PrefixCode) : Nat → Reading Unit
  | 0 => Reading.ended
  | fuel + 1 => do
      match ← literalCode.read with
      | none => Reading.flawed .literalCode
      | some symbol =>
          if symbol = endSymbol then pure ()
          else
            if symbol < endSymbol then Reading.put (UInt8.ofNat symbol)
            else repeated distanceCode symbol
            symbols literalCode distanceCode fuel

/-! ## Codes -/

/-- The code of these lengths, or a flaw. -/
def codeOf (lengths : List Nat) (maySpare : Bool) (flaw : Flaw) : Reading PrefixCode :=
  match PrefixCode.ofLengths? lengths maySpare with
  | some code => pure code
  | none => Reading.flawed flaw

def fixedLiteralLengths : List Nat :=
  List.replicate 144 8 ++ List.replicate 112 9 ++ List.replicate 24 7 ++ List.replicate 8 8

def fixedDistanceLengths : List Nat :=
  List.replicate 32 5

/-- The order in which the lengths of the codes for lengths are told. -/
def lengthOrder : List Nat :=
  [16, 17, 18, 0, 8, 7, 9, 6, 10, 5, 11, 4, 12, 3, 13, 2, 14, 1, 15]

/-- So many lengths of three bits each, in their order. -/
def orderedLengths (count : Nat) : Reading (List Nat) := do
  let told ← (lengthOrder.take count).mapM fun symbol => do pure (symbol, ← Reading.number 3)
  pure ((List.range lengthOrder.length).map fun symbol => (told.lookup symbol).getD 0)

/-- Lengths until there are `total` of them; `known` are those so far, last one first.
A symbol is a length, or says how often the last length or a zero comes again. -/
def codeLengths (code : PrefixCode) (total : Nat) : Nat → List Nat → Reading (List Nat)
  | 0, known => pure known.reverse
  | fuel + 1, known => do
      if known.length = total then pure known.reverse
      else
        let symbol := (← code.read).getD 0
        if symbol < 16 then codeLengths code total fuel (symbol :: known)
        else
          let (value, least, bits) : Option Nat × Nat × Nat :=
            if symbol = 16 then (known.head?, 3, 2)
            else if symbol = 17 then (some 0, 3, 3)
            else (some 0, 11, 7)
          let count := least + (← Reading.number bits)
          match value with
          | none => Reading.flawed .repetition
          | some length =>
              if total < known.length + count then Reading.flawed .repetition
              else codeLengths code total fuel (List.replicate count length ++ known)

/-- The two codes that are told at the start of a block. -/
def toldCodes : Reading (PrefixCode × PrefixCode) := do
  let literals := 257 + (← Reading.number 5)
  let distances := 1 + (← Reading.number 5)
  let ordered := 4 + (← Reading.number 4)
  if 286 < literals ∨ 30 < distances then Reading.flawed .tooManyCodes
  else
    let code ← codeOf (← orderedLengths ordered) false .lengthCodes
    let total := literals + distances
    let lengths ← codeLengths code total total []
    if lengths[endSymbol]? = some 0 then Reading.flawed .endCode
    else
      let literalCode ← codeOf (lengths.take literals) true .literalCodes
      let distanceCode ← codeOf (lengths.drop literals) true .distanceCodes
      pure (literalCode, distanceCode)

/-! ## Blocks -/

/-- A block of octets as they are; its length comes twice, once with all bits turned. -/
def stored : Reading Unit := do
  Reading.align
  let length ← Reading.number 16
  let turned ← Reading.number 16
  if length + turned = 0xFFFF then Reading.plain length else Reading.flawed .storedLength

/-- One block of a kind; every symbol of it takes one of the bits that are left. -/
def ofKind (kind : Nat) : Reading Unit := do
  let fuel := (← get).bits.length + 1
  match kind with
  | 0 => stored
  | 1 => do
      let literalCode ← codeOf fixedLiteralLengths false .literalCodes
      let distanceCode ← codeOf fixedDistanceLengths false .distanceCodes
      symbols literalCode distanceCode fuel
  | 2 => do
      let (literalCode, distanceCode) ← toldCodes
      symbols literalCode distanceCode fuel
  | _ => Reading.flawed .blockType

/-- Blocks up to the last one, of which there are no more than `fuel`. -/
def blocks : Nat → Reading Unit
  | 0 => Reading.ended
  | fuel + 1 => do
      let last ← Reading.number 1
      ofKind (← Reading.number 2)
      if last = 1 then pure () else blocks fuel

/-- All blocks. -/
def all : Reading Unit := do
  blocks ((← get).bits.length + 1)

end TokenFlow.Compressed.Block
