/-!
Spans of time, in whole seconds and nanoseconds.
-/
namespace TokenGate

structure Duration where
  seconds : Nat
  nanos : Nat
  seconds_lt : seconds < 0x1_0000_0000_0000_0000
  nanos_lt : nanos < 1000000000
  deriving Repr, DecidableEq

namespace Duration

theorem zero_nanos_lt : 0 < 1000000000 := by decide

def ofParts? (seconds nanos : Nat) : Option Duration :=
  if h : seconds < 0x1_0000_0000_0000_0000 ∧ nanos < 1000000000
  then some ⟨seconds, nanos, h.1, h.2⟩ else none

def ofSeconds (n : Nat) (h : n < 0x1_0000_0000_0000_0000 := by decide) : Duration :=
  ⟨n, 0, h, zero_nanos_lt⟩

/-- A span of less than `2 ^ 64` milliseconds. -/
def ofMillis (n : Nat) (h : n < 0x1_0000_0000_0000_0000) : Duration :=
  ⟨n / 1000, n % 1000 * 1000000, by omega, by omega⟩

def toNanos (d : Duration) : Nat := d.seconds * 1000000000 + d.nanos

/-- Whole milliseconds after the last whole second. -/
def subsecMillis (d : Duration) : Nat := d.nanos / 1000000

def millis (d : Duration) : Nat := d.seconds * 1000 + d.subsecMillis

instance : LE Duration := ⟨fun a b => a.toNanos ≤ b.toNanos⟩

instance (a b : Duration) : Decidable (a ≤ b) :=
  inferInstanceAs (Decidable (a.toNanos ≤ b.toNanos))

end Duration

end TokenGate
