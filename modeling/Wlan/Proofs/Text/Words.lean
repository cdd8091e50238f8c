import Mathlib.Data.List.Induction
import Wlan.Proofs.Text.Lines
import Wlan.Text.Blank

/-!
# Texts made of words

Words are free of blanks and stand with one blank between them; around all of them there may be any
blanks, which mean nothing (`HasWords.trimmed_eq`). Since no word has a blank in it, neither has
anything that is looked for in a word, and so what is looked for in the whole text is found exactly
if it is found in one of the words (`occurs_intercalate`).
-/

set_option autoImplicit false

namespace Wlan.Text

/-! ## Blanks around a text -/

theorem trimmed_concat {c : Char} (hc : isBlank c = true) (cs : List Char) :
    trimmed (cs ++ [c]) = trimmed cs := by
  have hall : [c].dropWhile isBlank = [] := by simp [hc]
  unfold trimmed
  rw [List.dropWhile_append, hall]
  split
  · next hnone => rw [List.isEmpty_iff.mp hnone]
  · rw [List.reverse_append, List.reverse_singleton, List.singleton_append,
      List.dropWhile_cons_of_pos hc]

theorem trimmed_append (cs : List Char) {after : List Char} (h : ∀ c ∈ after, isBlank c = true) :
    trimmed (cs ++ after) = trimmed cs := by
  induction after using List.reverseRecOn with
  | nil => rw [List.append_nil]
  | append_singleton after c ih =>
    have hc : isBlank c = true := h c (by simp)
    have hafter : ∀ d ∈ after, isBlank d = true := fun d hd => h d (by simp [hd])
    rw [← List.append_assoc, trimmed_concat hc, ih hafter]

theorem trimmed_append_left {before : List Char} (h : ∀ c ∈ before, isBlank c = true)
    (cs : List Char) : trimmed (before ++ cs) = trimmed cs := by
  unfold trimmed
  rw [List.dropWhile_append_of_pos h]

theorem dropWhile_isBlank_eq_self {cs : List Char} (h : ∀ c ∈ cs.head?, isBlank c = false) :
    cs.dropWhile isBlank = cs := by
  cases cs with
  | nil => rfl
  | cons c rest =>
    have hc : isBlank c = false := h c rfl
    exact List.dropWhile_cons_of_neg (by simp [hc])

/-- A text that neither begins nor ends with a blank is left as it is. -/
theorem trimmed_eq_self {cs : List Char} (hhead : ∀ c ∈ cs.head?, isBlank c = false)
    (hlast : ∀ c ∈ cs.getLast?, isBlank c = false) : trimmed cs = cs := by
  have hreverse : cs.reverse.dropWhile isBlank = cs.reverse := by
    apply dropWhile_isBlank_eq_self
    rw [List.head?_reverse]
    exact hlast
  unfold trimmed
  rw [dropWhile_isBlank_eq_self hhead, hreverse, List.reverse_reverse]

/-! ## What occurs between separators -/

/-- A stretch without the separator cannot reach across it. -/
theorem prefix_of_prefix_append_cons {needle before rest : List Char} {sep : Char}
    (hsep : sep ∉ needle) (h : needle <+: before ++ sep :: rest) : needle <+: before := by
  have hwhole : before ++ [sep] <+: before ++ sep :: rest := ⟨rest, by simp⟩
  rcases List.prefix_or_prefix_of_prefix h hwhole with hshort | hlong
  · rcases List.prefix_concat_iff.mp hshort with rfl | hbefore
    · exact absurd (by simp) hsep
    · exact hbefore
  · exact absurd (hlong.subset (by simp)) hsep

theorem infix_append_cons_iff {needle : List Char} {sep : Char} (hsep : sep ∉ needle)
    (before rest : List Char) :
    needle <:+: before ++ sep :: rest ↔ needle <:+: before ∨ needle <:+: rest := by
  constructor
  · intro h
    induction before with
    | nil =>
      rcases List.infix_cons_iff.mp h with hfirst | hrest
      · have hhead : needle <+: [] ++ sep :: rest := hfirst
        have hnil : needle <+: [] := prefix_of_prefix_append_cons hsep hhead
        exact Or.inl hnil.isInfix
      · exact Or.inr hrest
    | cons c before ih =>
      rcases List.infix_cons_iff.mp h with hfirst | hlater
      · have hword : needle <+: c :: before := prefix_of_prefix_append_cons hsep hfirst
        exact Or.inl hword.isInfix
      · exact (ih hlater).imp_left fun hword => List.infix_cons hword
  · rintro (h | h)
    · exact h.trans (List.prefix_append _ _).isInfix
    · exact h.trans ((List.suffix_cons sep rest).trans (List.suffix_append _ _)).isInfix

/-- What has no separator in it is found between separators or nowhere. -/
theorem occurs_intercalate {needle : List Char} {sep : Char} (hne : needle ≠ [])
    (hsep : sep ∉ needle) (words : List (List Char)) :
    occurs needle ([sep].intercalate words) = words.any (occurs needle) := by
  induction words with
  | nil =>
    cases needle with
    | nil => exact absurd rfl hne
    | cons c rest => rfl
  | cons w words ih =>
    cases words with
    | nil => simp
    | cons v words =>
      rw [List.intercalate_cons_cons, List.any_cons, ← ih, Bool.eq_iff_iff, Bool.or_eq_true,
        occurs_iff, occurs_iff, occurs_iff, List.append_assoc, List.singleton_append]
      exact infix_append_cons_iff hsep w _

/-! ## Words -/

def IsWord (w : List Char) : Prop := w ≠ [] ∧ ∀ c ∈ w, isBlank c = false

def AreBlanks (cs : List Char) : Prop := ∀ c ∈ cs, isBlank c = true

-- The text is gone through, not the alphabet, of which there may be an enumeration too.
instance (w : List Char) : Decidable (IsWord w) :=
  @instDecidableAnd _ _ inferInstance (List.decidableBAll (fun c => isBlank c = false) w)

instance (cs : List Char) : Decidable (AreBlanks cs) :=
  List.decidableBAll (fun c => isBlank c = true) cs

/-- The text consists of these words, with one blank between them and any blanks around them. -/
structure HasWords (words : List (List Char)) (text : List Char) : Prop where
  areWords : ∀ w ∈ words, IsWord w
  text : ∃ before after, AreBlanks before ∧ AreBlanks after ∧
    text = before ++ [' '].intercalate words ++ after

namespace HasWords

variable {words : List (List Char)} {text : List Char}

theorem head?_intercalate (h : ∀ w ∈ words, IsWord w) :
    ∀ c ∈ ([' '].intercalate words).head?, isBlank c = false := by
  intro c hc
  match words with
  | [] => cases hc
  | [w] =>
    rw [List.intercalate_singleton] at hc
    exact (h w List.mem_cons_self).2 c (List.mem_of_mem_head? hc)
  | w :: v :: more =>
    obtain ⟨hne, hw⟩ := h w List.mem_cons_self
    rw [List.intercalate_cons_cons, List.append_assoc, List.head?_append,
      List.head?_eq_some_head hne, Option.some_or, ← List.head?_eq_some_head hne] at hc
    exact hw c (List.mem_of_mem_head? hc)

theorem getLast?_intercalate (h : ∀ w ∈ words, IsWord w) :
    ∀ c ∈ ([' '].intercalate words).getLast?, isBlank c = false := by
  intro c hc
  rcases List.eq_nil_or_concat words with rfl | ⟨init, last, rfl⟩
  · cases hc
  · rw [List.concat_eq_append] at h hc
    obtain ⟨hne, hlast⟩ := h last (by simp)
    rw [intercalate_concat, List.getLast?_append, List.getLast?_eq_some_getLast hne,
      Option.some_or, ← List.getLast?_eq_some_getLast hne] at hc
    exact hlast c (List.mem_of_mem_getLast? hc)

/-- What is left of the text are the words. -/
theorem trimmed_eq (h : HasWords words text) : trimmed text = [' '].intercalate words := by
  obtain ⟨before, after, hbefore, hafter, rfl⟩ := h.text
  rw [trimmed_append _ hafter, trimmed_append_left hbefore]
  exact trimmed_eq_self (head?_intercalate h.areWords) (getLast?_intercalate h.areWords)

/-- A text that could be one word is one. -/
theorem intercalate_eq_iff (h : HasWords words text) {w : List Char} (hw : IsWord w) :
    [' '].intercalate words = w ↔ words = [w] := by
  constructor
  · intro hjoined
    match words with
    | [] => exact absurd hjoined.symm hw.1
    | [v] => rw [← hjoined, List.intercalate_singleton]
    | v :: u :: more =>
      have hblank : ' ' ∈ w := by
        rw [← hjoined, List.intercalate_cons_cons]
        simp
      exact absurd (hw.2 ' ' hblank) (by decide)
  · rintro rfl
    exact List.intercalate_singleton

theorem intercalate_eq_nil_iff (h : HasWords words text) :
    [' '].intercalate words = [] ↔ words = [] := by
  constructor
  · intro hjoined
    match words with
    | [] => rfl
    | [v] =>
      rw [List.intercalate_singleton] at hjoined
      exact absurd hjoined (h.areWords v List.mem_cons_self).1
    | v :: u :: more =>
      rw [List.intercalate_cons_cons] at hjoined
      simp at hjoined
  · rintro rfl
    rfl

end HasWords

end Wlan.Text
