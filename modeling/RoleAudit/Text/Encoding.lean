/-!
# Encodings

Octets and the characters that they stand for.

- `utf8Units`: UTF-8 read as characters and faults, each fault with the octets that it spans;
- `decodeLossy`: UTF-8 without what is not valid;
- `decodeUtf8?`: UTF-8 that is valid throughout;
- `encodeUtf8`: the octets of a text;
- `uniformLines`: every line end written as a single line feed.

A fault spans the longest start of a character, so that reading goes on at the octet that broke it.
-/

namespace RoleAudit

/-- A string of octets. -/
abbrev Octets := List UInt8

namespace Text

/-- Why octets are not UTF-8. -/
inductive Utf8Fault where
  | invalidStart
  | invalidContinuation
  | truncated
  deriving DecidableEq, Repr

def Utf8Fault.reason : Utf8Fault → String
  | .invalidStart => "invalid start byte"
  | .invalidContinuation => "invalid continuation byte"
  | .truncated => "unexpected end of data"

/-- One step of reading UTF-8: a character, or a fault over a number of octets. -/
inductive Utf8Unit where
  | char (c : Char)
  | fault (span : Nat) (cause : Utf8Fault)
  deriving DecidableEq

/-- A character of which some octets are read and others are still owed. -/
structure Utf8Part where
  /-- Octets read so far. -/
  taken : Nat
  /-- Octets still owed, at least one. -/
  owed : Nat
  /-- Bounds for the next octet. -/
  low : Nat
  high : Nat
  /-- The bits read so far. -/
  bits : Nat

/-- What the first octet of a character begins. -/
def utf8Lead (b : UInt8) : Utf8Unit ⊕ Utf8Part :=
  let n := b.toNat
  if n < 0x80 then .inl (.char (Char.ofNat n))
  else if n < 0xc2 then .inl (.fault 1 .invalidStart)
  else if n < 0xe0 then .inr ⟨1, 1, 0x80, 0xbf, n - 0xc0⟩
  -- the bounds leave out long forms, surrogates and what is above the last code point
  else if n == 0xe0 then .inr ⟨1, 2, 0xa0, 0xbf, 0⟩
  else if n == 0xed then .inr ⟨1, 2, 0x80, 0x9f, n - 0xe0⟩
  else if n < 0xf0 then .inr ⟨1, 2, 0x80, 0xbf, n - 0xe0⟩
  else if n == 0xf0 then .inr ⟨1, 3, 0x90, 0xbf, 0⟩
  else if n < 0xf4 then .inr ⟨1, 3, 0x80, 0xbf, n - 0xf0⟩
  else if n == 0xf4 then .inr ⟨1, 3, 0x80, 0x8f, 4⟩
  else .inl (.fault 1 .invalidStart)

/-- Read UTF-8, possibly from within a character. -/
def utf8UnitsFrom : Option Utf8Part → Octets → List Utf8Unit
  | none, [] => []
  | some p, [] => [.fault p.taken .truncated]
  | none, b :: bs =>
    match utf8Lead b with
    | .inl unit => unit :: utf8UnitsFrom none bs
    | .inr p => utf8UnitsFrom (some p) bs
  | some p, b :: bs =>
    if p.low ≤ b.toNat && b.toNat ≤ p.high then
      let bits := p.bits * 64 + (b.toNat - 0x80)
      if p.owed == 1 then .char (Char.ofNat bits) :: utf8UnitsFrom none bs
      else utf8UnitsFrom (some ⟨p.taken + 1, p.owed - 1, 0x80, 0xbf, bits⟩) bs
    else
      -- the octet that does not fit begins anew
      .fault p.taken .invalidContinuation ::
        match utf8Lead b with
        | .inl unit => unit :: utf8UnitsFrom none bs
        | .inr p => utf8UnitsFrom (some p) bs

def utf8Units (bytes : Octets) : List Utf8Unit :=
  utf8UnitsFrom none bytes

/-- The characters of UTF-8 text; what is not valid is left out. -/
def decodeLossy (bytes : Octets) : List Char :=
  (utf8Units bytes).filterMap fun
    | .char c => some c
    | .fault _ _ => none

def Utf8Unit.width : Utf8Unit → Nat
  | .char c => c.utf8Size
  | .fault span _ => span

/-- The first fault among units, with the octets before it. -/
def firstFault? (before : Nat) : List Utf8Unit → Option (Nat × Nat × Utf8Fault)
  | [] => none
  | .char c :: rest => firstFault? (before + c.utf8Size) rest
  | .fault span cause :: _ => some (before, span, cause)

/-- A fault in octets that were to be read as UTF-8 throughout. -/
structure Utf8Problem where
  /-- The octets before the fault. -/
  place : Nat
  /-- The octets that it spans. -/
  span : Nat
  /-- The first of them. -/
  octet : Nat
  cause : Utf8Fault
  deriving DecidableEq, Repr

def utf8Problem? (bytes : Octets) : Option Utf8Problem :=
  (firstFault? 0 (utf8Units bytes)).map fun (place, span, cause) =>
    ⟨place, span, ((bytes.drop place).head?.getD 0).toNat, cause⟩

/-- The characters of UTF-8 text, if it is valid throughout. -/
def decodeUtf8? (bytes : Octets) : Option (List Char) :=
  let units := utf8Units bytes
  if (firstFault? 0 units).isSome then none
  else
    some (units.filterMap fun
      | .char c => some c
      | .fault _ _ => none)

def encodeUtf8 (s : String) : Octets :=
  s.toList.flatMap String.utf8EncodeChar

/-- Write a carriage return, alone or before a line feed, as one line feed. -/
def uniformLines : List Char → List Char
  | [] => []
  | '\r' :: '\n' :: cs => '\n' :: uniformLines cs
  | '\r' :: cs => '\n' :: uniformLines cs
  | c :: cs => c :: uniformLines cs

end Text
end RoleAudit
