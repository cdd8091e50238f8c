import Mathlib.Data.Nat.Digits.Defs
import Wlan.Ipv4
import Wlan.Proofs.Text.Lines
import Wlan.Proofs.Text.Numeral

/-!
# Written addresses

An address is read from its text and from nothing else (`parse?_eq_some_iff`), so that each has one
way to be written and no two are written alike.
-/

set_option autoImplicit false

namespace Wlan.Ipv4

theorem octet?_toDigits (n : UInt8) : octet? (Nat.toDigits 10 n.toNat) = some n := by
  have hdecimal : Text.isDecimal (Nat.toDigits 10 n.toNat) = true :=
    Text.isDecimal_iff.mpr ⟨Nat.toDigits_ne_nil, Text.isDigit_of_mem⟩
  have hlt : n.toNat < 256 := n.toNat_lt
  have hlength : (Nat.toDigits 10 n.toNat).length ≤ 3 :=
    Nat.toDigits_length 10 n.toNat 3 (by omega) (by omega)
  -- Only of zero is the first digit a zero, and there it is the only one.
  have hlead : ¬ ((Nat.toDigits 10 n.toNat).head? = some '0' ∧
      (Nat.toDigits 10 n.toNat).length > 1) := by
    rintro ⟨hhead, hlong⟩
    rcases Nat.eq_zero_or_pos n.toNat with hzero | hpos
    · rw [hzero] at hlong
      exact absurd hlong (Nat.lt_irrefl 1)
    · exact Text.head?_toDigits hpos hhead
  have hshort : ¬ (Nat.toDigits 10 n.toNat).length > 3 := Nat.not_lt.mpr hlength
  simp only [octet?, hdecimal, hshort, Bool.not_true, decide_false, Bool.or_self, if_neg hlead,
    Text.ofDigits_toDigits, if_pos (Nat.le_of_lt_succ hlt), UInt8.ofNat_toNat, reduceIte,
    Bool.false_eq_true]

/-- An octet is read exactly from its digits. -/
theorem octet?_eq_some_iff {cs : List Char} {n : UInt8} :
    octet? cs = some n ↔ cs = Nat.toDigits 10 n.toNat := by
  constructor
  · intro h
    unfold octet? at h
    split at h
    · cases h
    · next hshort =>
      split at h
      · cases h
      · next hlead =>
        split at h
        · next hle =>
          simp only [Bool.or_eq_true, Bool.not_eq_true', decide_eq_true_eq, not_or,
            Bool.not_eq_false, Text.isDecimal_iff] at hshort
          obtain ⟨⟨hne, hdigits⟩, -⟩ := hshort
          have hhead : cs.head? = some '0' → cs.length ≤ 1 :=
            fun hzero => Nat.le_of_not_gt fun hlong => hlead ⟨hzero, hlong⟩
          have hn : n.toNat = Text.ofDigits 10 cs := by
            rw [← Option.some.inj h]
            exact UInt8.toNat_ofNat_of_lt' (Nat.lt_succ_of_le hle)
          rw [hn, Text.toDigits_ofDigits hne hdigits hhead]
        · cases h
  · rintro rfl
    exact octet?_toDigits n

theorem point_notMem_toDigits (n : Nat) : '.' ∉ Nat.toDigits 10 n :=
  fun h => absurd (Text.isDigit_of_mem '.' h) (by simp)

theorem toList_text (ip : Ipv4) :
    ip.text.toList = Nat.toDigits 10 ip.first.toNat ++ '.' :: (Nat.toDigits 10 ip.second.toNat
      ++ '.' :: (Nat.toDigits 10 ip.third.toNat ++ '.' :: Nat.toDigits 10 ip.fourth.toNat)) := by
  have htext : ip.text = toString ip.first.toNat ++ "." ++ toString ip.second.toNat ++ "."
      ++ toString ip.third.toNat ++ "." ++ toString ip.fourth.toNat := rfl
  simp [htext, String.toList_append]

theorem parse?_text (ip : Ipv4) : parse? ip.text = some ip := by
  have hparts : Text.parts '.' ip.text.toList = [Nat.toDigits 10 ip.first.toNat,
      Nat.toDigits 10 ip.second.toNat, Nat.toDigits 10 ip.third.toNat,
      Nat.toDigits 10 ip.fourth.toNat] := by
    rw [toList_text, Text.parts_append, Text.parts_append, Text.parts_append]
    repeat rw [Text.parts_of_notMem (point_notMem_toDigits _)]
    rfl
  simp only [parse?, hparts, octet?_toDigits]
  rfl

/-- **An address is read exactly from its text.** -/
theorem parse?_eq_some_iff {s : String} {ip : Ipv4} : parse? s = some ip ↔ s = ip.text := by
  constructor
  · intro h
    unfold parse? at h
    split at h
    · next a b c d hparts =>
      obtain ⟨first, hfirst, h⟩ := Option.bind_eq_some_iff.mp h
      obtain ⟨second, hsecond, h⟩ := Option.bind_eq_some_iff.mp h
      obtain ⟨third, hthird, h⟩ := Option.bind_eq_some_iff.mp h
      obtain ⟨fourth, hfourth, h⟩ := Option.bind_eq_some_iff.mp h
      cases h
      rw [octet?_eq_some_iff] at hfirst hsecond hthird hfourth
      have hjoined := Text.intercalate_parts '.' s.toList
      rw [hparts, hfirst, hsecond, hthird, hfourth] at hjoined
      rw [← String.toList_inj, toList_text, ← hjoined]
      simp [List.intercalate_cons_cons]
    · cases h
  · rintro rfl
    exact parse?_text ip

theorem text_injective {a b : Ipv4} (h : a.text = b.text) : a = b :=
  Option.some.inj ((parse?_text a).symm.trans (h ▸ parse?_text b))

end Wlan.Ipv4
