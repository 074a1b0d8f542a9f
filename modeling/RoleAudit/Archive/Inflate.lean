import RoleAudit.Archive.Bits

/-!
# Deflated data

Data in the deflate format: blocks of stored octets, or of codes for octets and for copies of what
came before.

- `storedBlock`, `codedBlock`: the kinds of blocks; `ownCodes`: the codes that a block brings;
- `inflate`: the data.
-/

namespace RoleAudit
namespace Archive

/-! ## Codes -/

def longestWord : Nat := 15

/-- The share of all words that a code uses, in units of the longest words. -/
def Code.used (lengths : List Nat) : Nat :=
  lengths.foldl (fun used n => if n == 0 then used else used + Nat.pow 2 (longestWord - n)) 0

/--
The lengths make a code: no word starts another one. A code that leaves words unused is taken only
if it has no word at all, or just one of a single bit and `single` allows it.
-/
def Code.fits (single : Bool) (lengths : List Nat) : Bool :=
  let used := Code.used lengths
  used == Nat.pow 2 longestWord || used == 0 ||
    (single && longestOf lengths == 1 && used ≤ Nat.pow 2 longestWord)

/-! ## Blocks -/

/-- The least length that each length symbol stands for, and how many bits add to it. -/
def lengthTable : List (Nat × Nat) :=
  [(3, 0), (4, 0), (5, 0), (6, 0), (7, 0), (8, 0), (9, 0), (10, 0), (11, 1), (13, 1), (15, 1),
    (17, 1), (19, 2), (23, 2), (27, 2), (31, 2), (35, 3), (43, 3), (51, 3), (59, 3), (67, 4),
    (83, 4), (99, 4), (115, 4), (131, 5), (163, 5), (195, 5), (227, 5), (258, 0)]

/-- The least distance that each distance symbol stands for, and how many bits add to it. -/
def distanceTable : List (Nat × Nat) :=
  [(1, 0), (2, 0), (3, 0), (4, 0), (5, 1), (7, 1), (9, 2), (13, 2), (17, 3), (25, 3), (33, 4),
    (49, 4), (65, 5), (97, 5), (129, 6), (193, 6), (257, 7), (385, 7), (513, 8), (769, 8),
    (1025, 9), (1537, 9), (2049, 10), (3073, 10), (4097, 11), (6145, 11), (8193, 12), (12289, 12),
    (16385, 13), (24577, 13)]

/-- Read the number that a symbol of a table stands for. -/
def tableNumber (table : List (Nat × Nat)) (symbol : Nat) : Unpacker Nat := do
  match table[symbol]? with
  | some (least, extra) => return least + (← nextBits extra)
  | none => throw .invalid

def copyBack (distance : Nat) : Nat → Unpacker Unit
  | 0 => return ()
  | n + 1 => do
    let output := (← get).output
    match output[output.size - distance]? with
    | some b => emit b
    | none => throw .invalid
    copyBack distance n

def blockEnd : Nat := 256

/-- Decode symbols up to the end of a block. -/
def codedBlock (literals distances : Code) : Nat → Unpacker Unit
  | 0 => throw .starved
  | steps + 1 => do
    let symbol ← literals.decode
    if symbol < blockEnd then
      emit (UInt8.ofNat symbol)
      codedBlock literals distances steps
    else if symbol == blockEnd then return ()
    else
      -- a symbol above the end is a length, and a distance follows it
      let length ← tableNumber lengthTable (symbol - blockEnd - 1)
      let distance ← tableNumber distanceTable (← distances.decode)
      if (← get).output.size < distance then throw .invalid
      copyBack distance length
      codedBlock literals distances steps

def storedOctets : Nat → Unpacker Unit
  | 0 => return ()
  | n + 1 => do
    emit (UInt8.ofNat (← nextBits 8))
    storedOctets n

/-- A block of octets as they are, after its length and the complement of its length. -/
def storedBlock : Unpacker Unit := do
  alignOctet
  let length ← nextBits 16
  let check ← nextBits 16
  if length + check != 0xffff then throw .invalid
  storedOctets length

def fixedLiterals : List Nat :=
  List.replicate 144 8 ++ List.replicate 112 9 ++ List.replicate 24 7 ++ List.replicate 8 8

def fixedDistances : List Nat :=
  List.replicate 32 5

/-- The order in which the lengths of the code for lengths are written. -/
def lengthOrder : List Nat :=
  [16, 17, 18, 0, 8, 7, 9, 6, 10, 5, 11, 4, 12, 3, 13, 2, 14, 1, 15]

/-- Read a number of lengths with their code; repetitions may not reach beyond them. -/
def codedLengths (code : Code) (total : Nat) : Nat → List Nat → Unpacker (List Nat)
  | 0, _ => throw .invalid
  | steps + 1, done => do
    if done.length == total then return done.reverse
    let symbol ← code.decode
    if symbol < 16 then codedLengths code total steps (symbol :: done)
    else
      -- the length before, or a length of zero, is repeated
      let (value, times) ←
        if symbol == 16 then
          let n ← nextBits 2
          match done with
          | last :: _ => pure (last, n + 3)
          | [] => throw .invalid
        else if symbol == 17 then do pure (0, (← nextBits 3) + 3)
        else do pure (0, (← nextBits 7) + 11)
      if total < done.length + times then throw .invalid
      codedLengths code total steps (List.replicate times value ++ done)

/-- A code for lengths without any word reads each bit as the length zero. -/
def lengthsCode (lengths : List Nat) : Code :=
  if longestOf lengths == 0 then ⟨[2], #[0, 0]⟩ else Code.ofLengths lengths

/-- The codes that a block brings with it. -/
def ownCodes : Unpacker (Code × Code) := do
  let literals := (← nextBits 5) + 257
  let distances := (← nextBits 5) + 1
  let written := (← nextBits 4) + 4
  if 286 < literals || 30 < distances then throw .invalid
  let sizes ← (List.replicate written 3).mapM nextBits
  let places := lengthOrder.zip sizes
  let lengths := (List.range 19).map fun s => (places.lookup s).getD 0
  if !Code.fits false lengths then throw .invalid
  let all ← codedLengths (lengthsCode lengths) (literals + distances) (literals + distances + 1) []
  let first := all.take literals
  let second := all.drop literals
  -- a block that has no word for its end is refused
  if first.getD blockEnd 0 == 0 then throw .invalid
  if !Code.fits true first || !Code.fits true second then throw .invalid
  return (Code.ofLengths first, Code.ofLengths second)

def blocks : Nat → Unpacker Unit
  | 0 => throw .starved
  | steps + 1 => do
    let last ← nextBit
    let kind ← nextBits 2
    if kind == 0 then storedBlock
    else if kind == 1 then
      codedBlock (Code.ofLengths fixedLiterals) (Code.ofLengths fixedDistances)
        ((← bitsLeft) + 1)
    else if kind == 2 then
      let (literals, distances) ← ownCodes
      codedBlock literals distances ((← bitsLeft) + 1)
    else throw .invalid
    if last == 1 then return () else blocks steps

/-- The data of deflated input, or nothing if the input breaks the format. -/
def inflate (input : Octets) : Option Octets :=
  unpacked (blocks (input.length * 8 + 1)) input

end Archive
end RoleAudit
