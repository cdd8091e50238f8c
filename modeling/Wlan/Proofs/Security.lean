import Mathlib.Data.List.Find
import Mathlib.Tactic.SplitIfs
import Wlan.Proofs.Text.Words
import Wlan.Security

/-!
# The strongest mode of a column

A security column is a text of words, each of which may name a mode. The reader looks for the marks
of the modes in the column as a whole, from the strongest to the weakest, and stops at the first. No
mark has a blank in it, so that a mark found in the column is found in one of its words
(`ofListing_of_hasWords`). The reader thus takes the strongest of the modes that the words name, in
whatever order they stand, and one word more can only make it stronger (`ofListing_strongest`).

Whether the network has any security at all is no question of marks. It has none only if there is no
word in the column, or a placeholder and nothing else.
-/

set_option autoImplicit false

namespace Wlan.Security

/-! ## Modes and their strength -/

/-- The modes that a listing can name with the marks of their names, the strongest first. -/
def marks : List (String × Security) :=
  [("802.1X", eap), ("WPA3", sae), ("WPA2", psk), ("WPA", wpaPsk), ("WEP", wep)]

/-- The strongest mode whose mark is shown. -/
def strongest (shown : String → Bool) : Security :=
  ((marks.find? fun m => shown m.1).map Prod.snd).getD unknown

/-- The strongest mode that a word names. -/
def mode (word : List Char) : Security :=
  strongest fun mark => Text.occurs mark.toList word

/-- How the kinds compare that a listing can show. The weakest is none at all, and the two kinds
that no listing shows are put with it. -/
def strength : Security → Nat
  | eap => 6
  | sae => 5
  | psk => 4
  | wpaPsk => 3
  | wep => 2
  | unknown => 1
  | unsecured => 0
  | pskSha256 => 0
  | wapiPsk => 0

theorem pairwise_strength_marks :
    marks.Pairwise fun m n => strength n.2 < strength m.2 := by
  decide

theorem strongest_of_find? {shown : String → Bool} {m : String × Security}
    (h : marks.find? (fun m => shown m.1) = some m) : strongest shown = m.2 := by
  rw [strongest, h]
  rfl

theorem strongest_of_none {shown : String → Bool} (h : ∀ m ∈ marks, shown m.1 = false) :
    strongest shown = unknown := by
  have hnone : marks.find? (fun m => shown m.1) = none := by
    rw [List.find?_eq_none]
    intro m hm
    simp [h m hm]
  rw [strongest, hnone]
  rfl

theorem strongest_congr {shown shown' : String → Bool} (h : ∀ m ∈ marks, shown m.1 = shown' m.1) :
    strongest shown = strongest shown' := by
  have hsame : marks.find? (fun m => shown m.1) = marks.find? fun m => shown' m.1 :=
    List.find?_congr h
  rw [strongest, strongest, hsame]

theorem strongest_mem (shown : String → Bool) :
    strongest shown = unknown ∨ ∃ m ∈ marks, shown m.1 = true ∧ strongest shown = m.2 := by
  cases hfound : marks.find? fun m => shown m.1 with
  | none =>
    rw [strongest, hfound]
    exact Or.inl rfl
  | some m =>
    have hshown := List.find?_some hfound
    exact Or.inr ⟨m, List.mem_of_find?_eq_some hfound, hshown, strongest_of_find? hfound⟩

/-- The strongest mode is stronger than any other that is shown. -/
theorem strength_le_strongest {shown : String → Bool} {m : String × Security} (hm : m ∈ marks)
    (hshown : shown m.1 = true) : strength m.2 ≤ strength (strongest shown) := by
  cases hfound : marks.find? fun m => shown m.1 with
  | none => exact absurd hshown (List.find?_eq_none.mp hfound m hm)
  | some first =>
    obtain ⟨-, before, after, hmarks, hbefore⟩ := List.find?_eq_some_iff_append.mp hfound
    have hordered := pairwise_strength_marks
    rw [strongest_of_find? hfound]
    rw [hmarks] at hm hordered
    rcases List.mem_append.mp hm with hmem | hmem
    · have hhidden := hbefore m hmem
      simp [hshown] at hhidden
    · rcases List.mem_cons.mp hmem with rfl | hmem
      · exact Nat.le_refl _
      · have hlater := (List.pairwise_cons.mp (List.pairwise_append.mp hordered).2.1).1 m hmem
        exact Nat.le_of_lt hlater

theorem strength_strongest_pos (shown : String → Bool) : 0 < strength (strongest shown) := by
  have hmarks : ∀ m ∈ marks, 0 < strength m.2 := by decide
  rcases strongest_mem shown with h | ⟨m, hm, -, h⟩
  · rw [h]
    decide
  · rw [h]
    exact hmarks m hm

/-- To show more marks is to show a mode that is at least as strong. -/
theorem strength_strongest_mono {shown shown' : String → Bool}
    (h : ∀ mark, shown mark = true → shown' mark = true) :
    strength (strongest shown) ≤ strength (strongest shown') := by
  rcases strongest_mem shown with hnone | ⟨m, hm, hshown, hstrongest⟩
  · rw [hnone]
    exact strength_strongest_pos shown'
  · rw [hstrongest]
    exact strength_le_strongest hm (h m.1 hshown)

/-! ## Columns -/

/-- The strongest mode of some words is named by one of them. -/
theorem exists_mode_eq_strongest {words : List (List Char)} (hne : words ≠ []) :
    ∃ w ∈ words, mode w = strongest fun mark => words.any (Text.occurs mark.toList) := by
  cases hfound : marks.find? fun m => words.any (Text.occurs m.1.toList) with
  | none =>
    have hnone : ∀ m ∈ marks, words.any (Text.occurs m.1.toList) = false := by
      intro m hm
      exact Bool.eq_false_iff.mpr (List.find?_eq_none.mp hfound m hm)
    obtain ⟨w, hw⟩ := List.exists_mem_of_ne_nil words hne
    refine ⟨w, hw, ?_⟩
    rw [strongest_of_none hnone]
    apply strongest_of_none
    intro m hm
    exact Bool.eq_false_iff.mpr (List.any_eq_false.mp (hnone m hm) w hw)
  | some m =>
    obtain ⟨hshown, before, after, hmarks, hbefore⟩ := List.find?_eq_some_iff_append.mp hfound
    obtain ⟨w, hw, hnamed⟩ := List.any_eq_true.mp hshown
    refine ⟨w, hw, ?_⟩
    rw [strongest_of_find? hfound]
    apply strongest_of_find?
    rw [List.find?_eq_some_iff_append]
    refine ⟨hnamed, before, after, hmarks, ?_⟩
    -- A stronger mark would have been found in the words together.
    intro stronger hstronger
    have hnone := hbefore stronger hstronger
    rw [Bool.not_eq_true'] at hnone ⊢
    exact Bool.eq_false_iff.mpr (List.any_eq_false.mp hnone w hw)

theorem ofListing_eq (column : List Char) :
    ofListing column =
      if Text.trimmed column = [] ∨ Text.trimmed column = ['-', '-'] then unsecured
      else strongest fun mark => Text.occurs mark.toList (Text.trimmed column) := by
  unfold ofListing strongest marks
  dsimp only
  split_ifs <;> simp_all [List.find?]

section

variable {words words' : List (List Char)} {column column' : List Char}

/-- The words of a column are a placeholder, or there are none. -/
def IsVacant (words : List (List Char)) : Prop := words = [] ∨ words = [['-', '-']]

instance (words : List (List Char)) : Decidable (IsVacant words) :=
  inferInstanceAs (Decidable (words = [] ∨ words = [['-', '-']]))

/-- What is looked for in a column is looked for in its words. -/
theorem ofListing_of_hasWords (h : Text.HasWords words column) :
    ofListing column =
      if IsVacant words then unsecured
      else strongest fun mark => words.any (Text.occurs mark.toList) := by
  have hplaceholder : [' '].intercalate words = ['-', '-'] ↔ words = [['-', '-']] :=
    h.intercalate_eq_iff (by decide)
  have hvacant : (Text.trimmed column = [] ∨ Text.trimmed column = ['-', '-']) ↔ IsVacant words := by
    rw [h.trimmed_eq, h.intercalate_eq_nil_iff, hplaceholder]
    exact Iff.rfl
  have hmarks : ∀ m ∈ marks, m.1.toList ≠ [] ∧ ' ' ∉ m.1.toList := by decide
  by_cases hwords : IsVacant words
  · rw [ofListing_eq, if_pos (hvacant.mpr hwords), if_pos hwords]
  · rw [ofListing_eq, if_neg (hwords ∘ hvacant.mp), if_neg hwords, h.trimmed_eq]
    apply strongest_congr
    intro m hm
    exact Text.occurs_intercalate (hmarks m hm).1 (hmarks m hm).2 words

theorem ofListing_eq_unsecured_iff (h : Text.HasWords words column) :
    ofListing column = unsecured ↔ IsVacant words := by
  rw [ofListing_of_hasWords h]
  constructor
  · intro hnone
    by_contra hwords
    rw [if_neg hwords] at hnone
    have hpos := strength_strongest_pos fun mark => words.any (Text.occurs mark.toList)
    rw [hnone] at hpos
    exact absurd hpos (by decide)
  · intro hwords
    exact if_pos hwords

theorem IsVacant.of_perm (hperm : words'.Perm words) (hwords : IsVacant words) : IsVacant words' := by
  rcases hwords with rfl | rfl
  · exact Or.inl hperm.eq_nil
  · exact Or.inr (List.perm_singleton.mp hperm)

/-- A word more is no placeholder alone. -/
theorem not_isVacant_insert {before after : List (List Char)} (w : List Char)
    (hwords : ¬ IsVacant (before ++ after)) : ¬ IsVacant (before ++ w :: after) := by
  rintro (hnil | hone)
  · simp at hnil
  · cases before with
    | nil =>
      obtain ⟨-, rfl⟩ := List.cons.inj hone
      exact hwords (Or.inl rfl)
    | cons v before =>
      obtain ⟨-, hrest⟩ := List.cons.inj hone
      simp at hrest

/-- **The strongest mode that is named counts, wherever it stands.** A column has no security exactly
if there is no word in it, or a placeholder alone. Otherwise it is as secure as the strongest of its
words: one of them names that mode, and none names a stronger one. The order of the words makes no
difference, and neither do the blanks around them; and a word more, anywhere among them, never makes
the column weaker. -/
theorem ofListing_strongest (h : Text.HasWords words column) :
    (ofListing column = unsecured ↔ words = [] ∨ words = [['-', '-']]) ∧
    (words ≠ [] → words ≠ [['-', '-']] →
      (∃ w ∈ words, mode w = ofListing column) ∧
        ∀ w ∈ words, strength (mode w) ≤ strength (ofListing column)) ∧
    (∀ words' column', Text.HasWords words' column' → words'.Perm words →
      ofListing column' = ofListing column) ∧
    ∀ before w after column', words = before ++ after →
      Text.HasWords (before ++ w :: after) column' →
      strength (ofListing column) ≤ strength (ofListing column') := by
  refine ⟨ofListing_eq_unsecured_iff h, ?_, ?_, ?_⟩
  · intro hne hplaceholder
    have hwords : ¬ IsVacant words := not_or.mpr ⟨hne, hplaceholder⟩
    rw [ofListing_of_hasWords h, if_neg hwords]
    refine ⟨exists_mode_eq_strongest hne, ?_⟩
    intro w hw
    apply strength_strongest_mono
    intro mark hmark
    exact List.any_eq_true.mpr ⟨w, hw, hmark⟩
  · intro words' column' h' hperm
    have hvacant : IsVacant words' ↔ IsVacant words := ⟨.of_perm hperm.symm, .of_perm hperm⟩
    have hshown (mark : String) : words'.any (Text.occurs mark.toList)
        = words.any (Text.occurs mark.toList) := hperm.any_eq
    simp only [ofListing_of_hasWords h', ofListing_of_hasWords h, hvacant, hshown]
  · rintro before w after column' rfl h'
    by_cases hwords : IsVacant (before ++ after)
    · rw [(ofListing_eq_unsecured_iff h).mpr hwords]
      exact Nat.zero_le _
    · rw [ofListing_of_hasWords h, ofListing_of_hasWords h', if_neg hwords,
        if_neg (not_isVacant_insert w hwords)]
      apply strength_strongest_mono
      intro mark hmark
      obtain ⟨v, hv, hnamed⟩ := List.any_eq_true.mp hmark
      refine List.any_eq_true.mpr ⟨v, ?_, hnamed⟩
      simp only [List.mem_append, List.mem_cons] at hv ⊢
      exact hv.imp_right Or.inr

end

/-- An access point of two generations, listed in either order, and one that offers more. -/
theorem ofListing_strongest_mixed :
    let words := ["WPA1".toList, "WPA2".toList]
    let column := " WPA1 WPA2\t".toList
    Text.HasWords words column ∧ (∃ w ∈ words, mode w = ofListing column) ∧
      ofListing "WPA2 WPA1".toList = ofListing column ∧
      strength (ofListing column) ≤ strength (ofListing "WPA1 802.1X WPA2".toList) := by
  intro words column
  have hcolumn : Text.HasWords words column := ⟨by decide, [' '], ['\t'], by decide, by decide, rfl⟩
  have hswapped : Text.HasWords ["WPA2".toList, "WPA1".toList] "WPA2 WPA1".toList :=
    ⟨by decide, [], [], by decide, by decide, rfl⟩
  have hmore : Text.HasWords ["WPA1".toList, "802.1X".toList, "WPA2".toList]
      "WPA1 802.1X WPA2".toList := ⟨by decide, [], [], by decide, by decide, rfl⟩
  obtain ⟨-, hstrongest, hperm, hgrows⟩ := ofListing_strongest hcolumn
  exact ⟨hcolumn, (hstrongest (by decide) (by decide)).1, hperm _ _ hswapped (.swap _ _ _),
    hgrows ["WPA1".toList] _ ["WPA2".toList] _ rfl hmore⟩

end Wlan.Security
