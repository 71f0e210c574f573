import TokenGate.Time.Duration
/-!
Points in time, in seconds since the epoch and nanoseconds after them. Seconds are 64 bits wide
and may be negative; what lies beyond them is no point in time.
-/
namespace TokenGate

/-- Whether a number of seconds fits into 64 bits with a sign. -/
abbrev Instant.InRange (seconds : Int) : Prop :=
  -0x8000_0000_0000_0000 ≤ seconds ∧ seconds < 0x8000_0000_0000_0000

structure Instant where
  seconds : Int
  nanos : Nat
  inRange : Instant.InRange seconds
  nanos_lt : nanos < 1000000000
  deriving Repr

namespace Instant

instance : DecidableEq Instant := fun a b =>
  decidable_of_iff (a.seconds = b.seconds ∧ a.nanos = b.nanos) (by cases a; cases b; simp)

def ofParts? (seconds : Int) (nanos : Nat) : Option Instant :=
  if h : InRange seconds ∧ nanos < 1000000000 then some ⟨seconds, nanos, h.1, h.2⟩ else none

theorem zero_inRange : InRange 0 := by decide

def epoch : Instant := ⟨0, 0, zero_inRange, Duration.zero_nanos_lt⟩

def toNanos (t : Instant) : Int := t.seconds * 1000000000 + t.nanos

/-- The point a span later. -/
def add? (t : Instant) (d : Duration) : Option Instant :=
  if t.nanos + d.nanos < 1000000000 then ofParts? (t.seconds + d.seconds) (t.nanos + d.nanos)
  else ofParts? (t.seconds + d.seconds + 1) (t.nanos + d.nanos - 1000000000)

/-- The point a span earlier. -/
def sub? (t : Instant) (d : Duration) : Option Instant :=
  if d.nanos ≤ t.nanos then ofParts? (t.seconds - d.seconds) (t.nanos - d.nanos)
  else ofParts? (t.seconds - d.seconds - 1) (t.nanos + 1000000000 - d.nanos)

/-- The span from a point to one that is not before it. -/
def span (a b : Instant) : Duration :=
  have ha := a.nanos_lt
  have hb := b.nanos_lt
  have ra := a.inRange
  have rb := b.inRange
  if h : a.nanos ≤ b.nanos then
    ⟨(b.seconds - a.seconds).toNat, b.nanos - a.nanos, by omega, by omega⟩
  else
    ⟨(b.seconds - a.seconds - 1).toNat, b.nanos + 1000000000 - a.nanos, by omega, by omega⟩

/-- The span between two points, whichever comes first. -/
def distance (a b : Instant) : Duration := if a.toNanos ≤ b.toNanos then span a b else span b a

/-- Whole seconds since the epoch, rounded toward it. -/
def unixSeconds (t : Instant) : Int :=
  if 0 ≤ t.seconds ∨ t.nanos = 0 then t.seconds else t.seconds + 1

end Instant

end TokenGate
