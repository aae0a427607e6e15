import StubDns.Number.Whole
import StubDns.Text.Basic

/-! # Durations

A length of time in seconds and billionths of a second. It is written in the
largest unit of which it has at least one, with the decimals it needs.
-/

namespace StubDns

structure Duration where
  seconds : Nat
  nanoseconds : Nat
  deriving DecidableEq, Repr

namespace Duration

def ofMilliseconds (count : Nat) : Duration where
  seconds := count / 1000
  nanoseconds := count % 1000 * 1000000

/-- A fraction of `places` decimals behind a point, without zeros at the end;
nothing for none. -/
def renderFraction (places value : Nat) : Text :=
  let digits := Whole.render value
  let padded := List.replicate (places - digits.length) '0' ++ digits
  if value = 0 then [] else '.' :: (padded.reverse.dropWhile (· = '0')).reverse

/-- A number with decimals and a unit. -/
def renderUnit (whole places fraction : Nat) (unit : String) : Text :=
  Whole.render whole ++ renderFraction places fraction ++ unit.toList

def render (duration : Duration) : Text :=
  let nanoseconds := duration.nanoseconds
  if 0 < duration.seconds then
    renderUnit duration.seconds 9 nanoseconds "s"
  else if 1000000 ≤ nanoseconds then
    renderUnit (nanoseconds / 1000000) 6 (nanoseconds % 1000000) "ms"
  else if 1000 ≤ nanoseconds then
    renderUnit (nanoseconds / 1000) 3 (nanoseconds % 1000) "µs"
  else
    renderUnit nanoseconds 0 0 "ns"

example : (ofMilliseconds 1500).render = "1.5s".toList := by decide +kernel

end Duration

end StubDns
