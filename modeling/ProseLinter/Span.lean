import ProseLinter.Text

/-!
Spans: half-open ranges of offsets. A span never ends before it starts, which its type says. Two
spans overlap if they share an offset or start at the same one, so two insertions at one place
overlap. An excerpt is a part of a text with the offset at which it stands.
-/

namespace ProseLinter

/-- The offsets from `start` up to, and without, `stop`. -/
structure Span where
  start : Nat
  stop : Nat
  ordered : start ≤ stop := by omega
deriving DecidableEq

namespace Span

instance : Repr Span := ⟨fun span _ => repr (span.start, span.stop)⟩

def ofLength (start length : Nat) : Span := ⟨start, start + length, by omega⟩

def point (offset : Nat) : Span := ⟨offset, offset, by omega⟩

def ofBounds? (start stop : Int) : Option Span :=
  if bounds : 0 ≤ start ∧ start ≤ stop then some ⟨start.toNat, stop.toNat, by omega⟩ else none

/-- The span of a piece of text that lies `offset` code points to the right of where `span` says. -/
def shift (offset : Nat) (span : Span) : Span :=
  ⟨offset + span.start, offset + span.stop, Nat.add_le_add_left span.ordered offset⟩

def length (span : Span) : Nat := span.stop - span.start

def overlaps (a b : Span) : Bool :=
  a.start == b.start || (decide (a.start < b.stop) && decide (b.start < a.stop))

def isWithin (span : Span) (length : Nat) : Bool := decide (span.stop ≤ length)

def read (span : Span) (text : Text) : Text := text.slice span.start span.stop

theorem overlaps_comm (a b : Span) : a.overlaps b = b.overlaps a := by
  rw [overlaps, overlaps, Bool.and_comm]
  rw [show (a.start == b.start) = (b.start == a.start) from BEq.comm]

end Span

/-- A part of a text and the offset at which it starts. -/
structure Excerpt where
  start : Nat
  text : Text
deriving Repr, DecidableEq

namespace Excerpt

def span (excerpt : Excerpt) : Span := Span.ofLength excerpt.start excerpt.text.length

end Excerpt

end ProseLinter
