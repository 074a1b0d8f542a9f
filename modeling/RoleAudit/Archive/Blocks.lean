import RoleAudit.Archive.Bits
import RoleAudit.Archive.Checksum

/-!
# Blocks of sorted data

Data in the block-sorting format. A block holds the last column of the sorted rotations of its data,
in which equal octets stand together, as moves to the front of a list and as lengths of runs.

- `columnOf`: the column that symbols stand for; `unsorted`: the data in its own order;
- `spread`: four octets alike are followed by how many more there are;
- `readBlock`: one block; `packedBlocks`: all of them, each with its checksum;
- `unpackBlocks`: the data.

The high bit of an octet comes first here, so the input is read with its octets turned. Checksums
are compared in this form as well.
-/

namespace RoleAudit
namespace Archive

/-- An octet with its bits in the other order. -/
def turned (b : UInt8) : UInt8 :=
  UInt8.ofNat <| (List.range 8).foldl (fun n i => n * 2 + b.toNat / Nat.pow 2 i % 2) 0

/-- Read a number of some bits, high bit first. -/
def highBits (width : Nat) : Unpacker Nat :=
  (List.replicate width ()).foldlM (fun n _ => return n * 2 + (← nextBit)) 0

/-- The next octets have to be the given ones. -/
def expectOctets (expected : List Nat) : Unpacker Unit :=
  expected.forM fun n => do
    if (← highBits 8) != n then throw .invalid

/-! ## Tables of a block -/

def flags (count : Nat) : Unpacker (List Bool) :=
  (List.replicate count ()).mapM fun _ => return (← nextBit) == 1

/-- The octets that occur in a block, in ascending order. -/
def occurring : Unpacker (List UInt8) := do
  let rows ← flags 16
  let all ← rows.mapM fun used => if used then flags 16 else return List.replicate 16 false
  return (all.flatten.zipIdx.filter (·.1)).map fun (_, n) => UInt8.ofNat n

/-- Count ones up to a zero; so many ones break the format. -/
def onesBelow : Nat → Unpacker Nat
  | 0 => throw .invalid
  | limit + 1 => do
    if (← nextBit) == 0 then return 0
    return (← onesBelow limit) + 1

/-- Move the item at a place to the front. -/
def toFront (items : List α) (place : Nat) : List α :=
  match items[place]? with
  | some a => a :: items.eraseIdx place
  | none => items

/-- Selectors beyond this many are read and not used. -/
def selectorLimit : Nat := 18002

/-- Which of the codes each group of symbols uses. -/
def selectors (codes : Nat) : Unpacker (List Nat) := do
  let count ← highBits 15
  if count == 0 then throw .invalid
  let moves ← (List.replicate count ()).mapM fun _ => onesBelow codes
  let step (s : List Nat × List Nat) (move : Nat) : List Nat × List Nat :=
    let order := toFront s.2 move
    (order.head?.toList ++ s.1, order)
  return ((moves.take selectorLimit).foldl step ([], List.range codes)).1.reverse

/-- The greatest length of a word of a code, and one more bit that is read before this is seen. -/
def wordLimit : Nat := 20

/-- Read a length as steps up and down from the length before. -/
def nextLength : Nat → Nat → Unpacker Nat
  | 0, _ => throw .starved
  | steps + 1, length => do
    if length == 0 || wordLimit < length then throw .invalid
    if (← nextBit) == 0 then return length
    nextLength steps (if (← nextBit) == 0 then length + 1 else length - 1)

/-- A code for some symbols. -/
def readCode (symbols : Nat) : Unpacker Code := do
  let first ← highBits 5
  let steps := (← bitsLeft) + 1
  let lengths ← (List.replicate symbols ()).foldlM
    (fun (done : List Nat) _ => return (← nextLength steps (done.headD first)) :: done) []
  return Code.upTo (wordLimit + 1) lengths.reverse

/-! ## The column of a block -/

/-- The part of a column that is read. -/
structure Column where
  octets : Array UInt8
  /-- The octets in the order of their last occurrence. -/
  recent : List UInt8
  /-- How often the first of them follows, as far as it is read. -/
  run : Nat
  /-- What the next digit of this number is worth. -/
  weight : Nat

/-- Digits of a run may not be worth more. -/
def weightLimit : Nat := 2097152

/-- The column with its run, which may not exceed the size of a block. -/
def Column.settled (c : Column) (size : Nat) : Option Column :=
  if size < c.octets.size + c.run then none
  else
    some { c with
      octets := c.octets ++ Array.replicate c.run (c.recent.headD 0), run := 0, weight := 1 }

/-- Take a digit of a run, which is one or two. -/
def Column.addDigit (c : Column) (digit : Nat) : Option Column :=
  if weightLimit ≤ c.weight then none
  else some { c with run := c.run + digit * c.weight, weight := c.weight * 2 }

/-- Take an octet by its place among the recent ones. -/
def Column.addMove (c : Column) (size place : Nat) : Option Column := do
  let c ← c.settled size
  if size ≤ c.octets.size then none
  let recent := toFront c.recent place
  some { c with octets := c.octets.push (recent.headD 0), recent := recent }

def orInvalid (a : Option α) : Unpacker α :=
  match a with
  | some a => return a
  | none => throw .invalid

/-- Read symbols up to the last one; there is a code for each. -/
def columnOf (size last : Nat) : List Code → Column → Unpacker (Array UInt8)
  | [], _ => throw .invalid
  | code :: codes, c => do
    let symbol ← code.decode
    if symbol < 2 then columnOf size last codes (← orInvalid (c.addDigit (symbol + 1)))
    else if symbol == last then return (← orInvalid (c.settled size)).octets
    else columnOf size last codes (← orInvalid (c.addMove size (symbol - 1)))

/-! ## The data of a block -/

/-- The places of a column in the order of their octets. -/
def sortedPlaces (column : Array UInt8) : Array Nat :=
  let places := column.zipIdx.foldl (fun places (b, n) => places.modify b.toNat (·.push n))
    (Array.replicate 256 #[])
  places.foldl (· ++ ·) #[]

/-- The octets of a column in the order of the data, which begins at a place of the sorted ones. -/
def unsorted (column : Array UInt8) (origin : Nat) : Array UInt8 :=
  let places := sortedPlaces column
  let step (s : Array UInt8 × Nat) (_ : Nat) : Array UInt8 × Nat :=
    (s.1.push (column.getD s.2 0), places.getD s.2 0)
  ((List.range column.size).foldl step (#[], places.getD origin 0)).1

/-- Octets that are put out: the last one, and how often it came in a row. -/
structure Spreading where
  output : Array UInt8
  last : UInt8
  times : Nat

def Spreading.add (s : Spreading) (b : UInt8) : Spreading :=
  if s.times == 4 then ⟨s.output ++ Array.replicate b.toNat s.last, b, 0⟩
  else if 0 < s.times && s.last == b then ⟨s.output.push b, b, s.times + 1⟩
  else ⟨s.output.push b, b, 1⟩

/-- Put out octets; after four alike stands how many more there are. -/
def spread (octets : Array UInt8) : Option (Array UInt8) :=
  let s := octets.foldl Spreading.add ⟨#[], 0, 0⟩
  if s.times == 4 then none else some s.output

/-- The lengths of the stretches of a disturbed block, which follow each other again and again. -/
def stretchLengths : List Nat :=
  [619, 720, 127, 481, 931, 816, 813, 233, 566, 247, 985, 724, 205, 454, 863, 491, 741, 242, 949,
    214, 733, 859, 335, 708, 621, 574, 73, 654, 730, 472, 419, 436, 278, 496, 867, 210, 399, 680,
    480, 51, 878, 465, 811, 169, 869, 675, 611, 697, 867, 561, 862, 687, 507, 283, 482, 129, 807,
    591, 733, 623, 150, 238, 59, 379, 684, 877, 625, 169, 643, 105, 170, 607, 520, 932, 727, 476,
    693, 425, 174, 647, 73, 122, 335, 530, 442, 853, 695, 249, 445, 515, 909, 545, 703, 919, 874,
    474, 882, 500, 594, 612, 641, 801, 220, 162, 819, 984, 589, 513, 495, 799, 161, 604, 958, 533,
    221, 400, 386, 867, 600, 782, 382, 596, 414, 171, 516, 375, 682, 485, 911, 276, 98, 553, 163,
    354, 666, 933, 424, 341, 533, 870, 227, 730, 475, 186, 263, 647, 537, 686, 600, 224, 469, 68,
    770, 919, 190, 373, 294, 822, 808, 206, 184, 943, 795, 384, 383, 461, 404, 758, 839, 887, 715,
    67, 618, 276, 204, 918, 873, 777, 604, 560, 951, 160, 578, 722, 79, 804, 96, 409, 713, 940, 652,
    934, 970, 447, 318, 353, 859, 672, 112, 785, 645, 863, 803, 350, 139, 93, 354, 99, 820, 908,
    609, 772, 154, 274, 580, 184, 79, 626, 630, 742, 653, 282, 762, 623, 680, 81, 927, 626, 789,
    125, 411, 521, 938, 300, 821, 78, 343, 175, 128, 250, 170, 774, 972, 275, 999, 639, 495, 78,
    352, 126, 857, 956, 358, 619, 580, 124, 737, 594, 701, 612, 669, 112, 134, 694, 363, 992, 809,
    743, 168, 974, 944, 375, 748, 52, 600, 747, 642, 182, 862, 81, 344, 805, 988, 739, 511, 655,
    814, 334, 249, 515, 897, 955, 664, 981, 649, 113, 974, 459, 893, 228, 433, 837, 553, 268, 926,
    240, 102, 654, 459, 51, 686, 754, 806, 760, 493, 403, 415, 394, 687, 700, 946, 670, 656, 610,
    738, 392, 760, 799, 887, 653, 978, 321, 576, 617, 626, 502, 894, 679, 243, 440, 680, 879, 194,
    572, 640, 724, 926, 56, 204, 700, 707, 151, 457, 449, 797, 195, 791, 558, 945, 679, 297, 59, 87,
    824, 713, 663, 412, 693, 342, 606, 134, 108, 571, 364, 631, 212, 174, 643, 304, 329, 343, 97,
    430, 751, 497, 314, 983, 374, 822, 928, 140, 206, 73, 263, 980, 736, 876, 478, 430, 305, 170,
    514, 364, 692, 829, 82, 855, 953, 676, 246, 369, 970, 294, 750, 807, 827, 150, 790, 288, 923,
    804, 378, 215, 828, 592, 281, 565, 555, 710, 82, 896, 831, 547, 261, 524, 462, 293, 465, 502,
    56, 661, 821, 976, 991, 658, 869, 905, 758, 745, 193, 768, 550, 608, 933, 378, 286, 215, 979,
    792, 961, 61, 688, 793, 644, 986, 403, 106, 366, 905, 644, 372, 567, 466, 434, 645, 210, 389,
    550, 919, 135, 780, 773, 635, 389, 707, 100, 626, 958, 165, 504, 920, 176, 193, 713, 857, 265,
    203, 50, 668, 108, 645, 990, 626, 197, 510, 357, 358, 850, 858, 364, 936, 638]

/-- The last octet but one of each stretch has its low bit changed. -/
def disturbed (octets : Array UInt8) : Array UInt8 :=
  let rounds := octets.size / stretchLengths.foldl (· + ·) 0 + 1
  let step (s : Array UInt8 × Nat) (length : Nat) : Array UInt8 × Nat :=
    (s.1.modify (s.2 + length - 2) (· ^^^ 1), s.2 + length)
  ((List.replicate rounds stretchLengths).flatten.foldl step (octets, 0)).1

/-- The data of a block of a size, after its checksum. -/
def readBlock (size : Nat) : Unpacker (Array UInt8) := do
  let isDisturbed ← nextBit
  let origin ← highBits 24
  -- the greatest place is checked once the whole column is there as well
  if size + 10 < origin then throw .invalid
  let used ← occurring
  if used.isEmpty then throw .invalid
  let codes ← highBits 3
  if codes < 2 || 6 < codes then throw .invalid
  let chosen ← selectors codes
  let tables ← (List.replicate codes ()).mapM fun _ => readCode (used.length + 2)
  -- a group of symbols has fifty of them
  let perSymbol := chosen.flatMap fun n => List.replicate 50 (tables.getD n ⟨[], #[]⟩)
  let column ← columnOf size (used.length + 1) perSymbol ⟨#[], used, 0, 1⟩
  if column.size ≤ origin then throw .invalid
  let octets := unsorted column origin
  orInvalid (spread (if isDisturbed == 1 then disturbed octets else octets))

/-! ## All blocks -/

def openingMark : List Nat := [0x41, 0x59, 0x26, 0x53, 0x59]

def closingMark : List Nat := [0x72, 0x45, 0x38, 0x50, 0x90]

/-- By how many units of 1024 octets the room for data grows each time. -/
def roomSteps : List Nat :=
  [32, 64, 256, 1024, 4096, 8192, 16384, 16384, 32768, 32768, 32768, 32768, 65536, 65536, 131072,
    131072, 262144]

/-- The room that is there once some octets are put out. -/
def roomFor (size : Nat) : Nat :=
  let step (room units : Nat) : Nat :=
    if room == 0 || room < size then room + units * 1024 else room
  roomSteps.foldl step 0

/-- Put out the data of a block; when no input is left there is no more room than before. -/
def emitBlock (data : Array UInt8) : Unpacker Unit := do
  let s ← get
  let room := roomFor s.output.size
  if s.bits.rest.isEmpty && room < s.output.size + data.size then
    set { s with output := s.output ++ data.extract 0 (room - s.output.size) }
    throw .starved
  set { s with output := s.output ++ data }

/-- The checksum of all blocks with one more; both are turned. -/
def joinChecksums (before next : Nat) : Nat :=
  (before / 2 + before % 2 * 2147483648) ^^^ next

/-- Blocks up to the end, with the checksum of those before. -/
def packedBlocks (size : Nat) : Nat → Nat → Unpacker Unit
  | 0, _ => throw .starved
  | steps + 1, before => do
    let mark ← highBits 8
    if mark == 0x17 then
      expectOctets closingMark
      if (← nextBits 32) != before then throw .invalid
    else if mark == 0x31 then
      expectOctets openingMark
      let expected ← nextBits 32
      let data ← readBlock size
      emitBlock data
      if checksum (data.toList.map turned) != expected then throw .invalid
      packedBlocks size steps (joinChecksums before expected)
    else throw .invalid

/-- The mark of the format, and the size of its blocks as a digit. -/
def packedData (steps : Nat) : Unpacker Unit := do
  expectOctets [0x42, 0x5a, 0x68]
  let digit ← highBits 8
  if digit < 0x31 || 0x39 < digit then throw .invalid
  packedBlocks ((digit - 0x30) * 100000) steps 0

/-- The data of input in blocks, or nothing if the input breaks the format. -/
def unpackBlocks (input : Octets) : Option Octets :=
  unpacked (packedData (input.length + 1)) (input.map turned)

end Archive
end RoleAudit
