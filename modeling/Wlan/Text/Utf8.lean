/-!
# Reading octets that ought to be UTF-8

What a program prints need not be UTF-8, and a listing has to be read anyway. Each stretch of
octets that begins like an encoded character but is not continued as one becomes a single
U+FFFD, and reading goes on with the octet that broke it. The stretch replaced is thus as long as
possible, and no octet that could begin a character is swallowed.

The reader is a state machine with one recursion over the octets. Which second octets a lead octet
admits (no overlong form, no surrogate, nothing above U+10FFFF) is held as the bounds of the next
octet, so that all later octets are treated alike.
-/

set_option autoImplicit false

namespace Wlan.Text

/-- A character begun and not finished: its bits so far, the octets it still lacks after the
next one, and the bounds of the next one. -/
structure Begun where
  bits : Nat
  further : Nat
  low : Nat
  high : Nat

/-- What a lead octet starts: `none` if no character begins with it. -/
def Begun.ofLead (b : Nat) : Option Begun :=
  if 0xC2 ≤ b ∧ b ≤ 0xDF then some ⟨b - 0xC0, 0, 0x80, 0xBF⟩
  -- The four leads with bounds of their own keep out what has a shorter form or is no character.
  else if b = 0xE0 then some ⟨0, 1, 0xA0, 0xBF⟩
  else if b = 0xED then some ⟨0xD, 1, 0x80, 0x9F⟩
  else if 0xE1 ≤ b ∧ b ≤ 0xEF then some ⟨b - 0xE0, 1, 0x80, 0xBF⟩
  else if b = 0xF0 then some ⟨0, 2, 0x90, 0xBF⟩
  else if b = 0xF4 then some ⟨4, 2, 0x80, 0x8F⟩
  else if 0xF1 ≤ b ∧ b ≤ 0xF3 then some ⟨b - 0xF0, 2, 0x80, 0xBF⟩
  else none

/-- The mark that stands for octets which are no character. -/
def replacementMark : Char := '\uFFFD'

/-- An octet met between characters: what it adds to the text, and what it begins. -/
def Begun.first (b : Nat) : List Char × Option Begun :=
  if b < 0x80 then ([Char.ofNat b], none)
  else match Begun.ofLead b with
    | some begun => ([], some begun)
    | none => ([replacementMark], none)

/-- An octet met inside a character. One that does not fit ends the stretch and is then taken as
if met between characters. -/
def Begun.next (begun : Begun) (b : Nat) : List Char × Option Begun :=
  if begun.low ≤ b ∧ b ≤ begun.high then
    let bits := begun.bits * 64 + (b - 0x80)
    match begun.further with
    | 0 => ([Char.ofNat bits], none)
    | further + 1 => ([], some ⟨bits, further, 0x80, 0xBF⟩)
  else
    let (added, state) := Begun.first b
    (replacementMark :: added, state)

/-- The characters read from the octets, starting inside the character `begun` if there is one. -/
def decodeFrom : Option Begun → List UInt8 → List Char
  | none, [] => []
  | some _, [] => [replacementMark]
  | none, b :: rest =>
    let (added, state) := Begun.first b.toNat
    added ++ decodeFrom state rest
  | some begun, b :: rest =>
    let (added, state) := begun.next b.toNat
    added ++ decodeFrom state rest

/-- The text of the octets, with U+FFFD for what is not UTF-8. -/
def decodeLossy (bytes : ByteArray) : String :=
  String.ofList (decodeFrom none bytes.data.toList)

end Wlan.Text
