import TemplateEngine.Sink.Basic

namespace TemplateEngine

/-- A growing buffer that never asks for a pause. -/
structure OutputBuffer where
  text : String
deriving DecidableEq, Inhabited

/-- A growing buffer that asks for a pause once it holds `limit` bytes. -/
structure LimitedBuffer where
  text : String
  limit : Nat
deriving DecidableEq, Inhabited

/-- A buffer that refuses a text which would take it past `capacity` bytes. -/
structure CappedBuffer where
  text : String
  capacity : Nat
deriving DecidableEq, Inhabited

namespace OutputBuffer

def empty : OutputBuffer := ⟨""⟩

/-- The buffered text, and the emptied buffer. -/
def take (b : OutputBuffer) : String × OutputBuffer := (b.text, empty)

instance : Sink OutputBuffer where
  append s b := (.ok (), ⟨b.text ++ s⟩)
  isFull b := (false, b)

end OutputBuffer

namespace LimitedBuffer

def new (limit : Nat) : LimitedBuffer := ⟨"", limit⟩

def isFull (b : LimitedBuffer) : Bool := decide (b.limit ≤ b.text.utf8ByteSize)

/-- The buffered text, and the emptied buffer. -/
def take (b : LimitedBuffer) : String × LimitedBuffer := (b.text, new b.limit)

instance : Sink LimitedBuffer where
  append s b := (.ok (), ⟨b.text ++ s, b.limit⟩)
  isFull b := (b.isFull, b)

end LimitedBuffer

namespace CappedBuffer

def new (capacity : Nat) : CappedBuffer := ⟨"", capacity⟩

/-- The buffered text, and the emptied buffer. -/
def take (b : CappedBuffer) : String × CappedBuffer := (b.text, new b.capacity)

instance : Sink CappedBuffer where
  append s b :=
    if b.text.utf8ByteSize + s.utf8ByteSize ≤ b.capacity then (.ok (), ⟨b.text ++ s, b.capacity⟩)
    else (.error ⟨"sink full"⟩, b)
  isFull b := (false, b)

end CappedBuffer

end TemplateEngine
