/-!
# Stretches of a document

Whatever is read from a document keeps the stretch that it was read from, so
that a complaint can point at it.  Characters are counted, not bytes.
-/

namespace BookCensus.Toml

/-- A stretch of a document: from a character up to another, which lies behind it. -/
structure Span where
  start : Nat
  stop : Nat
  deriving DecidableEq, Repr

namespace Span

/-- The gap in front of a stretch. -/
def before (s : Span) : Span := ⟨s.start, s.start⟩

/-- The gap behind a stretch. -/
def after (s : Span) : Span := ⟨s.stop, s.stop⟩

/-- The stretch from the start of one to the end of another. -/
def upTo (s t : Span) : Span := ⟨s.start, t.stop⟩

/-- The part of a stretch from one of its characters up to another. -/
def part (s : Span) (start stop : Nat) : Span := ⟨s.start + start, s.start + stop⟩

end Span

/-- A thing and the stretch that it was read from. -/
structure Located (α : Type) where
  span : Span
  value : α
  deriving DecidableEq, Repr

end BookCensus.Toml
