/-!
# Spans of time

Deadlines are spans counted in nanoseconds. A span is written in the largest of the units s, ms,
µs and ns that is not above it, with as many decimals as it needs and no trailing zero.
-/

set_option autoImplicit false

namespace Wlan

structure Span where
  nanos : Nat
  deriving DecidableEq, Repr

namespace Span

def ofSeconds (n : Nat) : Span := ⟨n * 1000000000⟩

def ofMillis (n : Nat) : Span := ⟨n * 1000000⟩

/-- The longest span there is: the largest number of seconds that 64 bits hold, and all
nanoseconds of one second more. -/
def longest : Span := ⟨18446744073709551615 * 1000000000 + 999999999⟩

/-- `n` in units of `10 ^ places`, without trailing zeros. -/
def decimal (places n : Nat) : String :=
  let unit := Nat.pow 10 places
  let digits := (toString (unit + n % unit)).toList.tail
  let kept := (digits.reverse.dropWhile (· == '0')).reverse
  if kept.isEmpty then toString (n / unit)
  else toString (n / unit) ++ "." ++ String.ofList kept

def text (s : Span) : String :=
  if s.nanos ≥ 1000000000 then decimal 9 s.nanos ++ "s"
  else if s.nanos ≥ 1000000 then decimal 6 s.nanos ++ "ms"
  else if s.nanos ≥ 1000 then decimal 3 s.nanos ++ "µs"
  else toString s.nanos ++ "ns"

end Span

end Wlan
