/-!
# Bytes as text

`decodeLossy` reads bytes as UTF-8 and writes one replacement character for each maximal piece that
no well-formed sequence starts with, so a truncated sequence counts once and every other stray byte
counts by itself. `decode?` accepts well-formed bytes only.
-/

namespace Checkout.Text

/-- The character that stands for bytes that are no text. -/
def replacement : Char := Char.ofNat 0xFFFD

/-- A sequence that has begun: how many bytes it still owes, the bounds of the next one, and the
value read so far. -/
structure Pending where
  owed : Nat
  low : Nat
  high : Nat
  value : Nat
  deriving DecidableEq, Repr

/-- What the first byte of a sequence announces. -/
inductive Lead where
  | char (c : Char)
  | more (p : Pending)
  | stray
  deriving Repr

/-- The first byte of a sequence. The bounds of the second byte rule out overlong forms, surrogates
and values above the last code point. -/
def lead (b : Nat) : Lead :=
  if b < 0x80 then .char (Char.ofNat b)
  else if b < 0xC2 then .stray
  else if b < 0xE0 then .more ⟨1, 0x80, 0xBF, b - 0xC0⟩
  else if b = 0xE0 then .more ⟨2, 0xA0, 0xBF, 0⟩
  else if b = 0xED then .more ⟨2, 0x80, 0x9F, 0xD⟩
  else if b < 0xF0 then .more ⟨2, 0x80, 0xBF, b - 0xE0⟩
  else if b = 0xF0 then .more ⟨3, 0x90, 0xBF, 0⟩
  else if b < 0xF4 then .more ⟨3, 0x80, 0xBF, b - 0xF0⟩
  else if b = 0xF4 then .more ⟨3, 0x80, 0x8F, 4⟩
  else .stray

/-- Reads bytes in the middle of a sequence (`some`) or between two (`none`). -/
def decodeLossyFrom : Option Pending → List UInt8 → List Char
  | none, [] => []
  | some _, [] => [replacement]
  | none, b :: rest =>
    match lead b.toNat with
    | .char c => c :: decodeLossyFrom none rest
    | .more p => decodeLossyFrom (some p) rest
    | .stray => replacement :: decodeLossyFrom none rest
  | some p, b :: rest =>
    if p.low ≤ b.toNat ∧ b.toNat ≤ p.high then
      let value := p.value * 64 + (b.toNat - 0x80)
      if p.owed ≤ 1 then Char.ofNat value :: decodeLossyFrom none rest
      else decodeLossyFrom (some ⟨p.owed - 1, 0x80, 0xBF, value⟩) rest
    else
      match lead b.toNat with
      | .char c => replacement :: c :: decodeLossyFrom none rest
      | .more q => replacement :: decodeLossyFrom (some q) rest
      | .stray => replacement :: replacement :: decodeLossyFrom none rest

/-- Bytes as text, if they are well formed. -/
def decode? (bytes : List UInt8) : Option String := String.fromUTF8? ⟨bytes.toArray⟩

/-- A text as bytes. -/
def encode (s : String) : List UInt8 := s.toUTF8.data.toList

/-- Bytes as text, with replacement characters where they are not well formed. -/
def decodeLossy (bytes : List UInt8) : String :=
  match decode? bytes with
  | some s => s
  | none => String.ofList (decodeLossyFrom none bytes)

end Checkout.Text
