import Wlan.Text.Numeral

/-!
# Written numbers

The digits below ten are the ASCII digits, so that a run of them writes the number which the core
library takes it for, and what the core library writes is read back (`ofDigits_toDigits`). Without a
needless zero in front there is no other way to write a number (`toDigits_ofDigits`).

The octet of a listing column may have such zeros, and is read exactly where one is written. Four
hexadecimal digits, of either case, write any number that they have room for (`ofDigits_hex4`).
-/

set_option autoImplicit false

namespace Wlan.Text

theorem digitValue?_of_isDigit {c : Char} (h : c.isDigit = true) :
    digitValue? c = some (c.toNat - 0x30) := by
  have hc : 0x30 ≤ c.toNat ∧ c.toNat ≤ 0x39 := Char.isDigit_iff_toNat.mp h
  rw [digitValue?, if_pos hc]

theorem isDigitOf_ten_iff {c : Char} : isDigitOf 10 c = true ↔ c.isDigit = true := by
  have hiff : c.isDigit = true ↔ 0x30 ≤ c.toNat ∧ c.toNat ≤ 0x39 := Char.isDigit_iff_toNat
  constructor
  · intro h
    unfold isDigitOf at h
    split at h
    · next d hd =>
      have hlt : d < 10 := of_decide_eq_true h
      simp only [digitValue?] at hd
      rw [hiff]
      split at hd
      · assumption
      · -- The letters stand for ten and more.
        split at hd
        · have := Option.some.inj hd
          omega
        · split at hd
          · have := Option.some.inj hd
            omega
          · cases hd
    · cases h
  · intro h
    have hc := hiff.mp h
    simp only [isDigitOf, digitValue?_of_isDigit h, decide_eq_true_eq]
    omega

theorem ofDigits_eq_ofDigitChars {cs : List Char} (h : ∀ c ∈ cs, c.isDigit = true) (init : Nat) :
    cs.foldl (fun n c => n * 10 + (digitValue? c).getD 0) init = Nat.ofDigitChars 10 cs init := by
  induction cs generalizing init with
  | nil => rfl
  | cons c cs ih =>
    have hc := digitValue?_of_isDigit (h c List.mem_cons_self)
    rw [List.foldl_cons, Nat.ofDigitChars_cons, ih fun d hd => h d (List.mem_cons_of_mem _ hd),
      hc, Option.getD_some, Nat.mul_comm init 10]
    rfl

/-! ## Written numbers -/

theorem isDigit_of_mem {n : Nat} : ∀ c ∈ Nat.toDigits 10 n, c.isDigit = true :=
  fun _ hc => Nat.isDigit_of_mem_toDigits (by decide) (by decide) hc

theorem ofDigits_toDigits (n : Nat) : ofDigits 10 (Nat.toDigits 10 n) = n :=
  (ofDigits_eq_ofDigitChars isDigit_of_mem 0).trans Nat.ofDigitChars_ten_toDigits

/-- A positive number is written without a zero in front. -/
theorem head?_toDigits {n : Nat} (h : 0 < n) : (Nat.toDigits 10 n).head? ≠ some '0' := by
  induction n using Nat.strongRecOn with
  | ind n ih =>
    by_cases hn : n < 10
    · rw [Nat.toDigits_of_lt_base hn]
      have : ∀ d < 10, 0 < d → [Nat.digitChar d].head? ≠ some '0' := by decide
      exact this n hn h
    · have hq := ih (n / 10) (Nat.div_lt_self h (by decide)) (by omega)
      rw [Nat.toDigits_of_base_le (by decide) (by omega)]
      cases hd : Nat.toDigits 10 (n / 10) with
      | nil => exact absurd hd Nat.toDigits_ne_nil
      | cons c cs => simpa [hd] using hq

/-- A digit writes its own value. -/
theorem toDigits_digit {c : Char} (hc : c.isDigit = true) :
    Nat.toDigits 10 (c.toNat - '0'.toNat) = [c] := by
  have hrange : 48 ≤ c.toNat ∧ c.toNat ≤ 57 := Char.isDigit_iff_toNat.mp hc
  have hzero : '0'.toNat = 48 := rfl
  have hlt : c.toNat - '0'.toNat < 10 := by omega
  rw [Nat.toDigits_of_lt_base hlt, List.singleton_inj, ← Char.toNat_inj,
    Nat.toNat_digitChar_of_lt_ten hlt]
  omega

/-- Digits after a positive number write what they add to it. -/
theorem toDigits_append {cs : List Char} (hcs : ∀ c ∈ cs, c.isDigit = true) {n : Nat} (hn : 0 < n) :
    Nat.toDigits 10 n ++ cs = Nat.toDigits 10 (Nat.ofDigitChars 10 cs n) := by
  induction cs generalizing n with
  | nil => simp
  | cons c cs ih =>
    have hc := hcs c List.mem_cons_self
    have hrange : 48 ≤ c.toNat ∧ c.toNat ≤ 57 := Char.isDigit_iff_toNat.mp hc
    have hlt : c.toNat - '0'.toNat < 10 := by
      have hzero : '0'.toNat = 48 := rfl
      omega
    have hfirst := Nat.toDigits_append_toDigits (b := 10) (by decide) hn hlt
    rw [toDigits_digit hc] at hfirst
    rw [Nat.ofDigitChars_cons, ← ih (fun d hd => hcs d (List.mem_cons_of_mem _ hd)) (by omega),
      ← hfirst, List.append_assoc, List.singleton_append]

/-- Digits without a needless zero in front are the digits of the number that they write. -/
theorem toDigits_ofDigits {cs : List Char} (hne : cs ≠ []) (hcs : ∀ c ∈ cs, c.isDigit = true)
    (hlead : cs.head? = some '0' → cs.length ≤ 1) : Nat.toDigits 10 (ofDigits 10 cs) = cs := by
  cases cs with
  | nil => exact absurd rfl hne
  | cons c rest =>
    have hc := hcs c List.mem_cons_self
    have hrest : ∀ d ∈ rest, d.isDigit = true := fun d hd => hcs d (List.mem_cons_of_mem _ hd)
    have hvalue : ofDigits 10 (c :: rest) = Nat.ofDigitChars 10 rest (c.toNat - '0'.toNat) := by
      rw [ofDigits, ofDigits_eq_ofDigitChars hcs, Nat.ofDigitChars_cons, Nat.mul_zero, Nat.zero_add]
    rw [hvalue]
    by_cases hzero : c = '0'
    · have hnil : rest = [] := by
        have hlength : (c :: rest).length ≤ 1 := hlead (congrArg some hzero)
        exact List.eq_nil_of_length_eq_zero (Nat.le_zero.mp (Nat.le_of_succ_le_succ hlength))
      rw [hnil, Nat.ofDigitChars_nil, toDigits_digit hc]
    · have hpos : 0 < c.toNat - '0'.toNat := by
        have hrange : 48 ≤ c.toNat ∧ c.toNat ≤ 57 := Char.isDigit_iff_toNat.mp hc
        have hne' : c.toNat ≠ '0'.toNat := fun h => hzero (Char.toNat_inj.mp h)
        have hzero : '0'.toNat = 48 := rfl
        omega
      rw [← toDigits_append hrest hpos, toDigits_digit hc, List.singleton_append]

/-! ## Hexadecimal digits -/

theorem digitValue?_hexDigit : ∀ upper, ∀ d < 16, digitValue? (hexDigit upper d) = some d := by
  decide

theorem isDigitOf_hexDigit (upper : Bool) {d : Nat} (h : d < 16) :
    isDigitOf 16 (hexDigit upper d) = true := by
  simp [isDigitOf, digitValue?_hexDigit upper d h, h]

theorem all_isDigitOf_hex4 (upper : Bool) (n : Nat) :
    (hex4 upper n).all (isDigitOf 16) = true := by
  have hdigit (m : Nat) : isDigitOf 16 (hexDigit upper (m % 16)) = true :=
    isDigitOf_hexDigit upper (Nat.mod_lt m (by decide))
  simp only [hex4, List.all_cons, List.all_nil, hdigit, Bool.and_self]

theorem ofDigits_hex4 (upper : Bool) {n : Nat} (h : n < 0x10000) :
    ofDigits 16 (hex4 upper n) = n := by
  have hvalue (m : Nat) : digitValue? (hexDigit upper (m % 16)) = some (m % 16) :=
    digitValue?_hexDigit upper _ (Nat.mod_lt m (by decide))
  simp only [ofDigits, hex4, List.foldl_cons, List.foldl_nil, hvalue, Option.getD_some]
  omega

/-! ## Octets -/

/-- The characters write this octet: its decimal digits, with any number of zeros in front, after
an optional plus sign. -/
def WritesOctet (cs : List Char) (n : UInt8) : Prop :=
  ∃ digits, (cs = digits ∨ cs = '+' :: digits) ∧ digits ≠ [] ∧ (∀ c ∈ digits, c.isDigit = true) ∧
    Nat.ofDigitChars 10 digits 0 = n.toNat

theorem isDecimal_iff {cs : List Char} :
    isDecimal cs = true ↔ cs ≠ [] ∧ ∀ c ∈ cs, c.isDigit = true := by
  simp [isDecimal, isDigitOf_ten_iff]

/-- What stands after the sign, or everything where there is none. -/
def afterSign : List Char → List Char
  | '+' :: rest => rest
  | cs => cs

theorem readOctet?_eq (cs : List Char) :
    readOctet? cs
      = if isDecimal (afterSign cs) && ofDigits 10 (afterSign cs) ≤ 255 then
          some (UInt8.ofNat (ofDigits 10 (afterSign cs)))
        else none := by
  unfold readOctet?
  fun_cases afterSign cs with
  | case1 rest => rfl
  | case2 _ hne =>
    split
    · exact absurd rfl (hne _)
    · rfl

theorem readOctet?_eq_some_iff {cs : List Char} {n : UInt8} :
    readOctet? cs = some n ↔ WritesOctet cs n := by
  have hofDigits {digits : List Char} (h : ∀ c ∈ digits, c.isDigit = true) :
      ofDigits 10 digits = Nat.ofDigitChars 10 digits 0 := ofDigits_eq_ofDigitChars h 0
  rw [readOctet?_eq]
  constructor
  · intro h
    split at h
    · next hdecimal =>
      rw [Bool.and_eq_true, isDecimal_iff, decide_eq_true_eq] at hdecimal
      obtain ⟨⟨hne, hdigits⟩, hle⟩ := hdecimal
      refine ⟨afterSign cs, ?_, hne, hdigits, ?_⟩
      · unfold afterSign
        split
        · exact Or.inr rfl
        · exact Or.inl rfl
      · rw [← hofDigits hdigits, ← Option.some.inj h]
        exact (UInt8.toNat_ofNat_of_lt' (Nat.lt_succ_of_le hle)).symm
    · cases h
  · rintro ⟨digits, hcs, hne, hdigits, hn⟩
    have hafter : afterSign cs = digits := by
      rcases hcs with rfl | rfl
      · unfold afterSign
        split
        · exact absurd (hdigits '+' List.mem_cons_self) (by decide)
        · rfl
      · rfl
    have hvalue : ofDigits 10 digits = n.toNat := (hofDigits hdigits).trans hn
    have hle : n.toNat ≤ 255 := Nat.le_of_lt_succ n.toNat_lt
    rw [hafter, hvalue, isDecimal_iff.mpr ⟨hne, hdigits⟩, Bool.true_and, if_pos (decide_eq_true hle),
      UInt8.ofNat_toNat]

end Wlan.Text
