import RoleAudit.Text.Encoding

/-!
# Packed bits

Data that is packed bit by bit, in words of a prefix code.

- `Unpacker`: steps that read bits from the low end of each octet and put out octets;
- `Code`: a prefix code given by the lengths of its words, decoded by counting;
- `unpacked`: what steps put out. Input that stops early gives what it holds so far; input that
  breaks the format gives nothing.
-/

namespace RoleAudit
namespace Archive

/-! ## Bits -/

/-- The input, with bits of the current octet that are not used yet. -/
structure Bits where
  rest : Octets
  held : Nat
  count : Nat

/-- Why decoding stops before the end. -/
inductive Halt where
  /-- The input is used up. -/
  | starved
  /-- The input breaks the format. -/
  | invalid
  deriving DecidableEq

structure Unpacking where
  bits : Bits
  output : Array UInt8

/-- A step of decoding; what was put out before a stop remains. -/
abbrev Unpacker (α : Type) := ExceptT Halt (StateM Unpacking) α

def nextBit : Unpacker Nat := do
  let s ← get
  if s.bits.count == 0 then
    match s.bits.rest with
    | [] => throw .starved
    | b :: rest =>
      -- the low bit of an octet comes first
      set { s with bits := ⟨rest, b.toNat / 2, 7⟩ }
      return b.toNat % 2
  else
    set { s with bits := ⟨s.bits.rest, s.bits.held / 2, s.bits.count - 1⟩ }
    return s.bits.held % 2

def nextBits : Nat → Unpacker Nat
  | 0 => return 0
  | n + 1 => do
    let low ← nextBit
    return low + 2 * (← nextBits n)

/-- Drop the bits of the current octet that are not used yet. -/
def alignOctet : Unpacker Unit :=
  modify fun s => { s with bits := ⟨s.bits.rest, 0, 0⟩ }

def bitsLeft : Unpacker Nat := do
  let s ← get
  return s.bits.rest.length * 8 + s.bits.count

def emit (b : UInt8) : Unpacker Unit :=
  modify fun s => { s with output := s.output.push b }

/-! ## Codes -/

/-- A prefix code: how many words it has of each length, and the symbols in order of their words. -/
structure Code where
  counts : List Nat
  symbols : Array Nat

def longestOf (lengths : List Nat) : Nat :=
  lengths.foldl max 0

/-- The code with words of the given lengths up to a bound; the symbol is the place in the list. -/
def Code.upTo (longest : Nat) (lengths : List Nat) : Code :=
  let numbered := lengths.zipIdx
  let sizes := (List.range longest).map (· + 1)
  { counts := sizes.map fun size => (lengths.filter (· == size)).length
    symbols := (sizes.flatMap fun size =>
      (numbered.filter fun (n, _) => n == size).map (·.2)).toArray }

def Code.ofLengths (lengths : List Nat) : Code :=
  Code.upTo (max 1 (longestOf lengths)) lengths

/-- Decode a word: the bits so far, the first word of this length, and its place. -/
def decodeWord (symbols : Array Nat) : List Nat → Nat → Nat → Nat → Unpacker Nat
  | [], _, _, _ => throw .invalid
  | count :: rest, word, first, place => do
    let word := word * 2 + (← nextBit)
    -- the words of one length are numbers that follow each other
    if word < first + count then
      match symbols[place + (word - first)]? with
      | some symbol => return symbol
      | none => throw .invalid
    else decodeWord symbols rest word ((first + count) * 2) (place + count)

def Code.decode (code : Code) : Unpacker Nat :=
  decodeWord code.symbols code.counts 0 0 0

/-! ## Input -/

/-- What steps put out for some input, or nothing if the input breaks the format. -/
def unpacked (steps : Unpacker Unit) (input : Octets) : Option Octets :=
  match steps.run.run ⟨⟨input, 0, 0⟩, #[]⟩ with
  | (.error .invalid, _) => none
  | (_, stop) => some stop.output.toList

end Archive
end RoleAudit
