/-!
# Numerals

The small readers of numbers that several formats share: a run of digits in a base, and the octet
of a listing column. A column value may carry a plus sign and leading zeros, but nothing else.
-/

set_option autoImplicit false

namespace Wlan.Text

/-- The value of a digit, with letters of either case above nine. -/
def digitValue? (c : Char) : Option Nat :=
  let n := c.toNat
  if 0x30 ≤ n ∧ n ≤ 0x39 then some (n - 0x30)
  else if 0x61 ≤ n ∧ n ≤ 0x7A then some (n - 0x61 + 10)
  else if 0x41 ≤ n ∧ n ≤ 0x5A then some (n - 0x41 + 10)
  else none

def isDigitOf (base : Nat) (c : Char) : Bool :=
  match digitValue? c with
  | some d => d < base
  | none => false

/-- The number that a run of digits writes; characters that are no digits count as zero. -/
def ofDigits (base : Nat) (cs : List Char) : Nat :=
  cs.foldl (fun n c => n * base + (digitValue? c).getD 0) 0

/-- A non-empty run of decimal digits. -/
def isDecimal (cs : List Char) : Bool :=
  !cs.isEmpty && cs.all (isDigitOf 10)

/-- The octet that a column writes: decimal digits, at most 255, after an optional plus sign. -/
def readOctet? (cs : List Char) : Option UInt8 :=
  let digits := match cs with
    | '+' :: rest => rest
    | _ => cs
  if isDecimal digits && ofDigits 10 digits ≤ 255 then some (UInt8.ofNat (ofDigits 10 digits))
  else none

def hexDigit (upper : Bool) (d : Nat) : Char :=
  if d < 10 then Char.ofNat (0x30 + d)
  else Char.ofNat ((if upper then 0x41 else 0x61) + (d - 10))

def hex4 (upper : Bool) (n : Nat) : List Char :=
  [hexDigit upper (n / 4096 % 16), hexDigit upper (n / 256 % 16), hexDigit upper (n / 16 % 16),
    hexDigit upper (n % 16)]

end Wlan.Text
