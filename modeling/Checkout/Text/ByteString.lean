import Checkout.Text.Utf8

/-!
# Byte strings

The system knows names and path names as strings of bytes, which need not be text. A text stands for its
bytes wherever a byte string is expected. Where a text is needed for a byte string, `shown` gives it: the
text that the bytes are, or one with a replacement character for each piece that is none, so that different
byte strings may be shown alike.
-/

namespace Checkout

/-- A string of bytes. -/
structure ByteString where
  ofList ::
  toList : List UInt8
  deriving DecidableEq, Repr

namespace ByteString

/-- The bytes of a text. -/
def ofText (text : String) : ByteString := ⟨Text.encode text⟩

instance : Coe String ByteString := ⟨ofText⟩

/-- The byte string as text, with replacement characters where it is none. -/
def shown (s : ByteString) : String := Text.decodeLossy s.toList

instance : ToString ByteString := ⟨shown⟩

instance : Append ByteString := ⟨fun s t => ⟨s.toList ++ t.toList⟩⟩

/-- Byte strings are ordered byte by byte, and what begins another one comes before it. -/
instance : LT ByteString := ⟨fun s t => s.toList < t.toList⟩

instance : LE ByteString := ⟨fun s t => s.toList ≤ t.toList⟩

instance (s t : ByteString) : Decidable (s < t) := inferInstanceAs (Decidable (s.toList < t.toList))

instance (s t : ByteString) : Decidable (s ≤ t) := inferInstanceAs (Decidable (s.toList ≤ t.toList))

/-- The number of bytes. -/
def length (s : ByteString) : Nat := s.toList.length

/-- Byte strings one after another, with a separator in between. -/
def intercalate (separator : ByteString) (parts : List ByteString) : ByteString :=
  ⟨separator.toList.intercalate (parts.map toList)⟩

end ByteString

end Checkout
