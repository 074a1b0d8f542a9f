import RoleAudit.Archive.Bits
import RoleAudit.Archive.Fault

/-!
# Ranges

Data of a range coder: literals, and copies of what came before. The chance of each bit is learnt
from the bits that were read in the same context.

- `Ranger`: steps that read bits by their chances;
- `nextLiteral`, `nextLength`, `nextDistance`: what symbols are made of;
- `symbols`: the symbols up to the end mark, or up to the end of the input;
- `unpackRanges`: the data behind a header of its own, as archives hold it.
-/

namespace RoleAudit
namespace Archive
namespace Ranges

/-! ## Bits by their chances -/

structure Ranging where
  rest : Octets
  range : UInt32
  code : UInt32
  /-- The chance of a zero in each context, in units of one in 2048. -/
  chances : Array UInt32
  output : Array UInt8

/-- A step of unpacking; what was put out before a stop remains. -/
abbrev Ranger (α : Type) := ExceptT Halt (StateM Ranging) α

def nextOctet : Ranger UInt8 := do
  let s ← get
  match s.rest with
  | [] => throw .starved
  | b :: rest =>
    set { s with rest := rest }
    return b

/-- Widen a range that has become too narrow. -/
def widen : Ranger Unit := do
  if (← get).range < 0x1000000 then
    let b ← nextOctet
    modify fun s => { s with range := s.range <<< 8, code := s.code <<< 8 ||| b.toUInt32 }

/-- The chance at first, when zeros are as likely as ones. -/
def evenChance : UInt32 := 1024

/-- Read a bit by the chance of its context, which learns from it. -/
def nextChance (context : Nat) : Ranger Nat := do
  widen
  let s ← get
  let chance := s.chances.getD context evenChance
  let bound := (s.range >>> 11) * chance
  if s.code < bound then
    let learnt := chance + ((2048 - chance) >>> 5)
    set { s with range := bound, chances := s.chances.setIfInBounds context learnt }
    return 0
  else
    let learnt := chance - (chance >>> 5)
    set { s with
      range := s.range - bound, code := s.code - bound
      chances := s.chances.setIfInBounds context learnt }
    return 1

/-- Read a bit for which both values are as likely. -/
def nextEven : Ranger Nat := do
  widen
  let s ← get
  let half := s.range >>> 1
  let left := s.code - half
  -- the high bit of the difference is its sign
  if left >>> 31 == 1 then
    set { s with range := half }
    return 0
  else
    set { s with range := half, code := left }
    return 1

def evenBits (width : Nat) : Ranger Nat :=
  (List.replicate width ()).foldlM (fun n _ => return n * 2 + (← nextEven)) 0

/-- A number of some bits, high bit first, in the contexts from `base` on. -/
def treeNumber (base width : Nat) : Ranger Nat := do
  let node ← (List.replicate width ()).foldlM
    (fun node _ => return node * 2 + (← nextChance (base + node))) 1
  return node - Nat.pow 2 width

/-- A number of some bits, low bit first. -/
def turnedNumber (base width : Nat) : Ranger Nat := do
  let (_, n) ← (List.range width).foldlM (fun ((node, n) : Nat × Nat) i => do
    let bit ← nextChance (base + node)
    return (node * 2 + bit, n + bit * Nat.pow 2 i)) (1, 0)
  return n

/-! ## Contexts -/

/-- How the format of some data is set. -/
structure Format where
  /-- How many high bits of the octet before count for a literal. -/
  literalBits : Nat
  /-- How many low bits of its place count for a literal. -/
  literalPlaceBits : Nat
  /-- How many low bits of its place count for other symbols. -/
  placeBits : Nat
  /-- How far back copies may reach. -/
  window : Nat

/-- The number of kinds of histories that are told apart. -/
def histories : Nat := 12

def isCopyAt (history place : Nat) : Nat := history * 16 + place

def isRepeatAt (history : Nat) : Nat := histories * 16 + history

def isFirstAt (history : Nat) : Nat := histories * 17 + history

def isSecondAt (history : Nat) : Nat := histories * 18 + history

def isThirdAt (history : Nat) : Nat := histories * 19 + history

def isLongAt (history place : Nat) : Nat := histories * 20 + history * 16 + place

def slotsAt (length : Nat) : Nat := 432 + min (length - 2) 3 * 64

def distancesAt : Nat := 688

def alignmentAt : Nat := 803

def newLengthsAt : Nat := 819

def oldLengthsAt : Nat := 1333

def literalsAt : Nat := 1847

def contextCount (f : Format) : Nat :=
  literalsAt + 0x300 * Nat.pow 2 (f.literalBits + f.literalPlaceBits)

/-! ## Symbols -/

/-- What symbols so far mean for the next one. -/
structure Memory where
  /-- The kinds of the last symbols. -/
  history : Nat
  /-- The last four distances, less one, the latest first. -/
  distances : Nat × Nat × Nat × Nat

/-- The last symbols end in a literal. -/
def Memory.afterLiteral (m : Memory) : Bool :=
  m.history < 7

def Memory.withLiteral (m : Memory) : Memory :=
  { m with history :=
      if m.history < 4 then 0 else if m.history < 10 then m.history - 3 else m.history - 6 }

def put (b : UInt8) : Ranger Unit :=
  modify fun s => { s with output := s.output.push b }

/-- The octet that stands some places back; a distance is less by one. -/
def octetBack (distance : Nat) : Ranger UInt8 := do
  let output := (← get).output
  return output.getD (output.size - distance - 1) 0

def copy (distance : Nat) : Nat → Ranger Unit
  | 0 => return ()
  | n + 1 => do
    put (← octetBack distance)
    copy distance n

/-- A literal by itself. -/
def plainLiteral (base : Nat) : Ranger Nat :=
  treeNumber base 8

/-- A literal after a copy: while its bits are those of another octet, they tell its context. -/
def likelyLiteral (base other : Nat) : Ranger Nat := do
  let step (s : Nat × Bool) (i : Nat) : Ranger (Nat × Bool) := do
    let likely := other / Nat.pow 2 (7 - i) % 2
    let context := if s.2 then base + 0x100 + likely * 0x100 + s.1 else base + s.1
    let bit ← nextChance context
    return (s.1 * 2 + bit, s.2 && bit == likely)
  let (node, _) ← (List.range 8).foldlM step (1, true)
  return node - 0x100

def nextLiteral (f : Format) (m : Memory) : Ranger UInt8 := do
  let output := (← get).output
  let place := output.size % Nat.pow 2 f.literalPlaceBits
  let before := (output.back?.getD 0).toNat
  let base := literalsAt +
    0x300 * (place * Nat.pow 2 f.literalBits + before / Nat.pow 2 (8 - f.literalBits))
  if m.afterLiteral then return UInt8.ofNat (← plainLiteral base)
  else return UInt8.ofNat (← likelyLiteral base (← octetBack m.distances.1).toNat)

/-- The length of a copy. -/
def nextLength (base place : Nat) : Ranger Nat := do
  if (← nextChance base) == 0 then return (← treeNumber (base + 2 + place * 8) 3) + 2
  if (← nextChance (base + 1)) == 0 then return (← treeNumber (base + 130 + place * 8) 3) + 10
  return (← treeNumber (base + 258) 8) + 18

/-- The distance of a copy of some length, less one. -/
def nextDistance (length : Nat) : Ranger Nat := do
  let slot ← treeNumber (slotsAt length) 6
  if slot < 4 then return slot
  -- a slot tells the two high bits and how many follow them
  let width := slot / 2 - 1
  let high := (2 + slot % 2) * Nat.pow 2 width
  if slot < 14 then return high + (← turnedNumber (distancesAt + high - slot) width)
  let middle ← evenBits (width - 4)
  return high + middle * 16 + (← turnedNumber alignmentAt 4)

/-- The distance that marks the end, less one. -/
def endDistance : Nat := 0xffffffff

/-- A copy may reach so far back. -/
def reaches (f : Format) (distance : Nat) : Ranger Bool := do
  return distance < min (← get).output.size f.window

/-- Copy from a new distance, or find the end. -/
def newCopy (f : Format) (m : Memory) (place : Nat) : Ranger (Option Memory) := do
  let length ← nextLength newLengthsAt place
  let distance ← nextDistance length
  if distance == endDistance then
    widen
    -- nothing may be left of the code
    if (← get).code != 0 then throw .invalid
    return none
  if !(← reaches f distance) then throw .invalid
  copy distance length
  let (a, b, c, _) := m.distances
  return some ⟨if m.afterLiteral then 7 else 10, (distance, a, b, c)⟩

/-- The last four distances once an older one of them becomes the latest one. -/
def recalled (m : Memory) : Ranger (Nat × Nat × Nat × Nat) := do
  let (a, b, c, d) := m.distances
  if (← nextChance (isSecondAt m.history)) == 0 then return (b, a, c, d)
  if (← nextChance (isThirdAt m.history)) == 0 then return (c, a, b, d)
  return (d, a, b, c)

/-- Copy from one of the last distances. -/
def oldCopy (f : Format) (m : Memory) (place : Nat) : Ranger Memory := do
  if !(← reaches f 0) then throw .invalid
  let isFirst := (← nextChance (isFirstAt m.history)) == 0
  if isFirst then
    if (← nextChance (isLongAt m.history place)) == 0 then
      -- a single octet
      put (← octetBack m.distances.1)
      return { m with history := if m.afterLiteral then 9 else 11 }
  let distances ← if isFirst then pure m.distances else recalled m
  let length ← nextLength oldLengthsAt place
  copy distances.1 length
  return ⟨if m.afterLiteral then 8 else 11, distances⟩

/-- Read one symbol; nothing is left to remember at the end. -/
def symbol (f : Format) (m : Memory) : Ranger (Option Memory) := do
  let place := (← get).output.size % Nat.pow 2 f.placeBits
  if (← nextChance (isCopyAt m.history place)) == 0 then
    put (← nextLiteral f m)
    return some m.withLiteral
  if (← nextChance (isRepeatAt m.history)) == 0 then newCopy f m place
  else return some (← oldCopy f m place)

def symbols (f : Format) : Nat → Memory → Ranger Unit
  | 0, _ => throw .starved
  | steps + 1, m => do
    match ← symbol f m with
    | none => return ()
    | some m => symbols f steps m

/-- Read the first octets of the code; the very first one is zero. -/
def start : Ranger Unit := do
  if (← nextOctet) != 0 then throw .invalid
  (List.replicate 4 ()).forM fun _ => do
    let b ← nextOctet
    modify fun s => { s with code := s.code <<< 8 ||| b.toUInt32 }

/-- The data of some input, or nothing if the input breaks the format. -/
def unpacked (f : Format) (input : Octets) : Option Octets :=
  -- an octet serves for less than four hundred bits, however likely they are
  let steps := (input.length + 1) * 512
  let s : Ranging :=
    ⟨input, 0xffffffff, 0, Array.replicate (contextCount f) evenChance, #[]⟩
  match (do start; symbols f steps ⟨0, (0, 0, 0, 0)⟩ : Ranger Unit).run.run s with
  | (.error .invalid, _) => none
  | (_, stop) => some stop.output.toList

/-! ## Headers -/

/-- The least window, in octets. -/
def leastWindow : Nat := 4096

/-- The format that five octets set, if it exists. -/
def formatOf? : Octets → Option Format
  | [settings, a, b, c, d] =>
    let n := settings.toNat
    let f : Format :=
      { literalBits := n % 9
        literalPlaceBits := n / 9 % 5
        placeBits := n / 45
        -- windows are made of pieces of sixteen octets
        window := (max leastWindow
          (a.toNat + 256 * (b.toNat + 256 * (c.toNat + 256 * d.toNat))) + 15) / 16 * 16 }
    if 225 ≤ n || 4 < f.literalBits + f.literalPlaceBits then none else some f
  | _ => none

end Ranges

/-- The data of input in ranges, behind the format that its header sets; short input has no data. -/
def unpackRanges (input : Octets) : Except Fault Octets :=
  match input with
  | _ :: _ :: a :: b :: rest =>
    let size := a.toNat + 256 * b.toNat
    if rest.length ≤ size then .ok []
    else
      match Ranges.formatOf? (rest.take size) with
      | none => .error (.corruptRanges "Invalid or unsupported options")
      | some f =>
        match Ranges.unpacked f (rest.drop size) with
        | none => .error (.corruptRanges "Corrupt input data")
        | some data => .ok data
  | _ => .ok []

end Archive
end RoleAudit
