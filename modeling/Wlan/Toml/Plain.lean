import Wlan.Toml.Unquote
import Wlan.Toml.Value

/-!
# Plain values

Values that need no quotes and no brackets: booleans, integers, numbers with a fraction, and
points in time. Such a value is a run of letters, digits and a few signs, and the whole run has to
be of one of these kinds. Only a date may be followed by a blank and a time.

Integers must fit 64 bits with a sign. A fraction must not round to positive infinity in double
precision, although infinity can be written by its name.
-/

set_option autoImplicit false

namespace Wlan.Toml

/-! ## Digits -/

/-- Reads digits of a base in which single underscores may stand between two digits; gives the
digits. -/
def digits? (base : Nat) : List Char → Option (List Char)
  | [] => none
  | [c] => if Text.isDigitOf base c then some [c] else none
  | c :: '_' :: rest =>
    if Text.isDigitOf base c then (digits? base rest).map (c :: ·) else none
  | c :: rest => if Text.isDigitOf base c then (digits? base rest).map (c :: ·) else none

/-- A sign, if there is one, and the rest; the flag says whether the sign is a minus. -/
def signed : List Char → Bool × List Char
  | '-' :: rest => (true, rest)
  | '+' :: rest => (false, rest)
  | cs => (false, cs)

/-- Decimal digits without a needless zero in front. -/
def decimalDigits? (cs : List Char) : Option (List Char) := do
  let ds ← digits? 10 cs
  if ds.head? = some '0' ∧ ds.length > 1 then none else some ds

/-! ## Integers -/

/-- The integers that 64 bits with a sign can hold. -/
def fits (n : Int) : Bool := -9223372036854775808 ≤ n && n < 9223372036854775808

/-- The absolute value and the sign of an integer. -/
def integer? (cs : List Char) : Option Int := do
  let n : Int ← match cs with
    | '0' :: 'x' :: rest => (digits? 16 rest).map fun ds => (Text.ofDigits 16 ds : Int)
    | '0' :: 'o' :: rest => (digits? 8 rest).map fun ds => (Text.ofDigits 8 ds : Int)
    | '0' :: 'b' :: rest => (digits? 2 rest).map fun ds => (Text.ofDigits 2 ds : Int)
    | _ =>
      let (minus, cs) := signed cs
      (decimalDigits? cs).map fun ds =>
        let n : Int := Text.ofDigits 10 ds
        if minus then -n else n
  if fits n then some n else none

/-! ## Fractions -/

/-- Whether `digits` times ten to the power `exponent` rounds to infinity in double precision. The
least such number lies half a unit above the greatest double, and a number with fewer than 300 or
more than 320 digits before its point needs no arithmetic. -/
def overflows (digits : List Char) (exponent : Int) : Bool :=
  let kept := digits.dropWhile (· == '0')
  let size : Int := kept.length + exponent
  -- `kept` writes a number between ten to the power `size - 1` and ten to the power `size`.
  if kept.isEmpty || size < 300 then false
  else if size > 320 then true
  else
    let n := Text.ofDigits 10 kept
    let limit := Nat.pow 2 1024 - Nat.pow 2 970
    let scale := Nat.pow 10 exponent.natAbs
    if exponent < 0 then n ≥ limit * scale else n * scale ≥ limit

/-- The exponent of a fraction: an `e` of either case, a sign, and digits. -/
def exponent? (cs : List Char) : Option Int :=
  match cs with
  | [] => some 0
  | c :: rest =>
    if c = 'e' ∨ c = 'E' then
      let (minus, rest) := signed rest
      (digits? 10 rest).map fun ds =>
        let n : Int := Text.ofDigits 10 ds
        if minus then -n else n
    else none

/-- Whether the run is a number with a fraction, an exponent, or both, or one of the named ones. -/
def isFraction (cs : List Char) : Bool :=
  let (minus, body) := signed cs
  if body = "inf".toList ∨ body = "nan".toList then true
  else
    let isExponentMark := fun c => c = 'e' || c = 'E'
    let mantissa := body.takeWhile fun c => !isExponentMark c
    let tail := body.dropWhile fun c => !isExponentMark c
    let whole := mantissa.takeWhile (· ≠ '.')
    let point := mantissa.dropWhile (· ≠ '.')
    let places := match point with
      | [] => if tail.isEmpty then none else some []
      | _ :: after => digits? 10 after
    match decimalDigits? whole, places, exponent? tail with
    | some ds, some ps, some e => minus || !overflows (ds ++ ps) (e - ps.length)
    | _, _, _ => false

/-! ## Points in time -/

/-- A number of exactly as many digits as there are characters. -/
def fixed? (cs : List Char) : Option Nat :=
  if Text.isDecimal cs then some (Text.ofDigits 10 cs) else none

def daysOf (year month : Nat) : Nat :=
  if month = 2 then
    if year % 4 = 0 ∧ (year % 100 ≠ 0 ∨ year % 400 = 0) then 29 else 28
  else if month = 4 ∨ month = 6 ∨ month = 9 ∨ month = 11 then 30
  else 31

def isDate : List Char → Bool
  | [a, b, c, d, '-', e, f, '-', g, h] =>
    match fixed? [a, b, c, d], fixed? [e, f], fixed? [g, h] with
    | some year, some month, some day =>
      1 ≤ month && month ≤ 12 && 1 ≤ day && day ≤ daysOf year month
    | _, _, _ => false
  | _ => false

/-- Reads hours, minutes and seconds with their decimals; a minute may have a leap second. -/
def time? : List Char → Option (List Char)
  | a :: b :: ':' :: c :: d :: ':' :: e :: f :: rest =>
    match fixed? [a, b], fixed? [c, d], fixed? [e, f] with
    | some hour, some minute, some second =>
      if hour ≤ 23 ∧ minute ≤ 59 ∧ second ≤ 60 then
        match rest with
        | '.' :: after =>
          let places := after.takeWhile (Text.isDigitOf 10)
          if places.isEmpty then none else some (after.dropWhile (Text.isDigitOf 10))
        | _ => some rest
      else none
    | _, _, _ => none
  | _ => none

/-- Whether what follows a time is nothing or an offset from universal time. -/
def isOffset : List Char → Bool
  | [] => true
  | ['Z'] => true
  | ['z'] => true
  | [sign, a, b, ':', c, d] =>
    (sign = '+' || sign = '-') &&
      match fixed? [a, b], fixed? [c, d] with
      | some hour, some minute => hour ≤ 23 && minute ≤ 59
      | _, _ => false
  | _ => false

/-- Whether the run is a time with or without an offset; only a time with a date may have one. -/
def isTime (mayHaveOffset : Bool) (cs : List Char) : Bool :=
  match time? cs with
  | some [] => true
  | some rest => mayHaveOffset && isOffset rest
  | none => false

/-- Whether the run is a date, a time, or both with a letter between them. -/
def isMoment (cs : List Char) : Bool :=
  isDate cs || isTime false cs ||
    (isDate (cs.take 10) &&
      match cs.drop 10 with
      | c :: rest => (c = 'T' || c = 't') && isTime true rest
      | [] => false)

/-! ## All of them -/

/-- What may stand in a plain value. -/
def isPlain (c : Char) : Bool :=
  c.isAlphanum || c = '+' || c = '-' || c = '_' || c = '.' || c = ':'

def ofRun? (run : List Char) : Option Value :=
  -- No run is of two kinds, so that the order below is only one of convenience.
  if run = "true".toList then some (.boolean true)
  else if run = "false".toList then some (.boolean false)
  else match integer? run with
    | some n => some (.integer n)
    | none =>
      if isFraction run then some (.fraction (String.ofList run))
      else if isMoment run then some (.moment (String.ofList run))
      else none

/-- Reads a plain value. A blank and a digit after a date mean that a time follows. -/
def readPlain (cs : List Char) : Option (Value × List Char) :=
  let run := cs.takeWhile isPlain
  let rest := cs.dropWhile isPlain
  match rest with
  | ' ' :: c :: more =>
    if isDate run && Text.isDigitOf 10 c then
      let time := (c :: more).takeWhile isPlain
      if isTime true time then
        some (.moment (String.ofList (run ++ ' ' :: time)), (c :: more).dropWhile isPlain)
      else none
    else (ofRun? run).map (·, rest)
  | _ => (ofRun? run).map (·, rest)

end Wlan.Toml
