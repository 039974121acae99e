/-! A duration, and the offset of an instant from the starting instant, is a natural number of
nanoseconds. -/
namespace GracefulDrain

namespace Nanos

def perSecond : Nat := 1000000000

def perMilli : Nat := 1000000

def ofMillis (ms : Nat) : Nat := ms * perMilli

/-- `seconds` whole seconds and `rest` nanoseconds. -/
def ofParts (seconds rest : Nat) : Nat := seconds * perSecond + rest

def seconds (d : Nat) : Nat := d / perSecond

def subsecond (d : Nat) : Nat := d % perSecond

def millis (d : Nat) : Nat := d / perMilli

theorem ofMillis_lt_ofMillis {a b : Nat} : ofMillis a < ofMillis b ↔ a < b := by
  simp only [ofMillis, perMilli]
  omega

theorem ofMillis_eq_zero {a : Nat} : ofMillis a = 0 ↔ a = 0 := by
  simp only [ofMillis, perMilli]
  omega

end Nanos

/-- A clock that moves only when it is told to. -/
structure ManualClock where
  now : Nat
  deriving DecidableEq, Repr

namespace ManualClock

/-- The first offset that no instant reaches: instants count seconds in a signed 64-bit word. -/
def horizon : Nat := (Nat.pow 2 63 - 1) * Nanos.perSecond

/-- Moves forward, or refuses when the sum would pass the horizon. -/
def advance? (clock : ManualClock) (d : Nat) : Option ManualClock :=
  if clock.now + d < horizon then some ⟨clock.now + d⟩ else none

/-- Jumps to any instant, earlier ones included. -/
def set (_ : ManualClock) (instant : Nat) : ManualClock := ⟨instant⟩

end ManualClock

end GracefulDrain
