import Wlan.Text.Lines
import Wlan.Text.Numeral

/-!
# IPv4 addresses

An address is four octets, written in decimal with points between them. The reader takes the
written form only: no sign, no blank, and no zero in front of another digit.
-/

set_option autoImplicit false

namespace Wlan

structure Ipv4 where
  first : UInt8
  second : UInt8
  third : UInt8
  fourth : UInt8
  deriving DecidableEq, Repr

namespace Ipv4

/-- One octet of an address: at most three digits, and no needless zero in front. -/
def octet? (cs : List Char) : Option UInt8 :=
  if !Text.isDecimal cs || cs.length > 3 then none
  else if cs.head? = some '0' ∧ cs.length > 1 then none
  else if Text.ofDigits 10 cs ≤ 255 then some (UInt8.ofNat (Text.ofDigits 10 cs))
  else none

def parse? (s : String) : Option Ipv4 :=
  match Text.parts '.' s.toList with
  | [a, b, c, d] => do
    let a ← octet? a
    let b ← octet? b
    let c ← octet? c
    let d ← octet? d
    return ⟨a, b, c, d⟩
  | _ => none

def text (ip : Ipv4) : String :=
  ".".intercalate
    [toString ip.first.toNat, toString ip.second.toNat, toString ip.third.toNat,
      toString ip.fourth.toNat]

end Ipv4

end Wlan
