import Mathlib.Tactic.ByContra
import Mathlib.Tactic.SplitIfs
import Wlan.Proofs.Text.Numeral
import Wlan.Toml.Quote
import Wlan.Toml.Unquote

/-!
# A quoted string reads back

The writer takes one of four forms, and the reader has a reader for each of them. The statement
this file is for is `unquote_quote`: whatever the string, and whichever form the writer chose for
it, reading gives the string and leaves what came after it.

The two plain forms are inductions over the string. The two triple forms are not quite: their
readers look three to five characters ahead, so what a quote means depends on the quotes that
follow it. What makes them go through is a count that the writer keeps as well, of the quotes
that stand directly before the place reached, and that count never exceeds two.
-/

set_option autoImplicit false

namespace Wlan.Toml

@[simp] theorem withFirst_some (c : Char) (cs rest : List Char) :
    withFirst c (some (cs, rest)) = some (c :: cs, rest) := rfl

/-- What may follow a quoted string. A further quote would be read as part of its end. -/
def Follows (rest : List Char) : Prop :=
  rest.head? ≠ some '"' ∧ rest.head? ≠ some '\''

theorem follows_lineFeed (rest : List Char) : Follows ('\n' :: rest) :=
  ⟨by simp, by simp⟩

/-! ## Escapes

The readers of the two double-quoted forms read escapes alike, and what they have in common is
all that an escape needs to be read back. -/

/-- Four hexadecimal digits name the character they were written for. -/
theorem named?_hex4 {c : Char} (h : c.toNat < 0x80) : named? (Text.hex4 true c.toNat) = some c := by
  have value : Text.ofDigits 16 (Text.hex4 true c.toNat) = c.toNat :=
    Text.ofDigits_hex4 true (by omega)
  rw [named?, if_pos (Text.all_isDigitOf_hex4 true c.toNat), value, scalar?,
    if_pos (Or.inl (by omega)), Char.ofNat_toNat]

/-- A reader that takes characters one by one and knows the escapes. -/
structure Unescapes (read : List Char → Option (List Char × List Char)) : Prop where
  unicode : ∀ a b c d rest x, named? [a, b, c, d] = some x →
    read ('\\' :: 'u' :: a :: b :: c :: d :: rest) = withFirst x (read rest)
  short : ∀ c x rest, shortEscape? c = some x → read ('\\' :: c :: rest) = withFirst x (read rest)
  plain : ∀ c rest, isPrintable c = true → c ≠ '"' → c ≠ '\\' →
    read (c :: rest) = withFirst c (read rest)

theorem Unescapes.readBasic : Unescapes readBasic where
  unicode a b c d rest x h := by simp [Toml.readBasic, h]
  short c x rest h := by
    have hu : c ≠ 'u' := by rintro rfl; simp [shortEscape?] at h
    have hU : c ≠ 'U' := by rintro rfl; simp [shortEscape?] at h
    rw [Toml.readBasic] <;> simp_all
  plain c rest hp hq hb := by rw [Toml.readBasic] <;> simp_all

theorem Unescapes.readBasicBlock : Unescapes (readBasicBlock .no) where
  unicode a b c d rest x h := by simp [Toml.readBasicBlock, h]
  short c x rest h := by
    have hu : c ≠ 'u' := by rintro rfl; simp [shortEscape?] at h
    have hU : c ≠ 'U' := by rintro rfl; simp [shortEscape?] at h
    have hr : c ≠ '\r' := by rintro rfl; simp [shortEscape?] at h
    have hn : c ≠ '\n' := by rintro rfl; simp [shortEscape?] at h
    have hg : isGap c = false := by
      rw [Bool.eq_false_iff]
      intro hg
      simp only [isGap, Bool.or_eq_true, decide_eq_true_eq] at hg
      rcases hg with rfl | rfl <;> simp [shortEscape?] at h
    rw [Toml.readBasicBlock] <;> simp_all
  plain c rest hp hq hb := by
    have hr : c ≠ '\r' := by rintro rfl; exact absurd hp (by decide)
    have hn : c ≠ '\n' := by rintro rfl; exact absurd hp (by decide)
    rw [Toml.readBasicBlock] <;> simp_all

theorem isPrintable_of_not_isControl {c : Char} (h : isControl c = false) (hn : c ≠ '\n') :
    isPrintable c = true := by
  simp only [isControl, Bool.or_eq_false_iff, Bool.and_eq_false_iff, decide_eq_false_iff_not,
    Decidable.not_not] at h
  simp only [isPrintable, Bool.or_eq_true, Bool.and_eq_true, decide_eq_true_eq]
  obtain ⟨(hlow | rfl) | rfl, hdel⟩ := h
  · exact Or.inr ⟨by omega, hdel⟩
  · exact Or.inl rfl
  · exact absurd rfl hn

/-- A control character is written with four digits, so it had better be a small one. -/
theorem toNat_lt_of_isControl {c : Char} (h : isControl c = true) : c.toNat < 0x80 := by
  simp only [isControl, Bool.or_eq_true, Bool.and_eq_true, decide_eq_true_eq] at h
  omega

/-- What is written for a character that is neither a quote nor a line feed is read as it. -/
theorem Unescapes.escapedControl {read : List Char → Option (List Char × List Char)}
    (hread : Unescapes read) {c : Char} (hq : c ≠ '"') (hn : c ≠ '\n') (rest : List Char) :
    read (escapedControl c ++ rest) = withFirst c (read rest) := by
  unfold Toml.escapedControl
  split_ifs with hb ht h8 hc hr hctl
  · subst hb; exact hread.short '\\' '\\' rest rfl
  · subst ht; exact hread.short 't' '\t' rest rfl
  · subst h8; exact hread.short 'b' '\x08' rest rfl
  · subst hc; exact hread.short 'f' '\x0c' rest rfl
  · subst hr; exact hread.short 'r' '\r' rest rfl
  · exact hread.unicode _ _ _ _ rest c (named?_hex4 (toNat_lt_of_isControl hctl))
  · exact hread.plain c rest (isPrintable_of_not_isControl (by simpa using hctl) hn) hq hb

/-- … and does not begin with a quote or a line end, so that it ends no run and is no run itself. -/
theorem head?_escapedControl {c : Char} (hq : c ≠ '"') (hn : c ≠ '\n') :
    ∃ d rest, escapedControl c = d :: rest ∧ d ≠ '"' ∧ d ≠ '\n' ∧ d ≠ '\r' := by
  unfold escapedControl
  split_ifs with hb ht h8 hc hr hctl
  all_goals first
    | exact ⟨'\\', _, rfl, by decide, by decide, by decide⟩
    | exact ⟨c, [], rfl, hq, hn, hr⟩

/-! ## The plain forms -/

theorem readBasic_basicBody (cs rest : List Char) :
    readBasic (basicBody cs ++ '"' :: rest) = some (cs, rest) := by
  induction cs with
  | nil => rfl
  | cons c cs ih =>
    rw [basicBody, List.flatMap_cons, ← basicBody, List.append_assoc]
    by_cases hq : c = '"'
    · subst hq
      rw [if_pos rfl, List.cons_append, List.cons_append, List.nil_append,
        Unescapes.readBasic.short '"' '"' _ rfl, ih, withFirst_some]
    · rw [if_neg hq]
      by_cases hn : c = '\n'
      · subst hn
        rw [if_pos rfl, List.cons_append, List.cons_append, List.nil_append,
          Unescapes.readBasic.short 'n' '\n' _ rfl, ih, withFirst_some]
      · rw [if_neg hn, Unescapes.readBasic.escapedControl hq hn, ih, withFirst_some]

theorem readLiteral_append {cs : List Char} (hp : ∀ c ∈ cs, isPrintable c = true)
    (hq : '\'' ∉ cs) (rest : List Char) : readLiteral (cs ++ '\'' :: rest) = some (cs, rest) := by
  induction cs with
  | nil => rfl
  | cons c cs ih =>
    have hc : c ≠ '\'' := fun h => hq (h ▸ List.mem_cons_self)
    have hcp : isPrintable c = true := hp c List.mem_cons_self
    have hcs := ih (fun d hd => hp d (List.mem_cons_of_mem _ hd))
      (fun h => hq (List.mem_cons_of_mem _ h))
    rw [List.cons_append, readLiteral, if_pos hcp, hcs, withFirst_some]
    exact hc

/-! ## Runs of quotes -/

theorem le_longestRunFrom (q : Char) (run : Nat) (cs : List Char) :
    run ≤ longestRunFrom q run cs := by
  induction cs generalizing run with
  | nil => exact Nat.le_refl run
  | cons c cs ih =>
    rw [longestRunFrom]
    split
    · exact Nat.le_trans (Nat.le_succ run) (ih (run + 1))
    · exact Nat.le_max_left _ _

/-- A quote makes the run before it longer, and the run stays within the bound. -/
theorem longestRunFrom_quote {q : Char} {run n : Nat} {cs : List Char}
    (h : longestRunFrom q run (q :: cs) ≤ n) : longestRunFrom q (run + 1) cs ≤ n ∧ run + 1 ≤ n := by
  rw [longestRunFrom, if_pos rfl] at h
  exact ⟨h, Nat.le_trans (le_longestRunFrom q (run + 1) cs) h⟩

/-- Any other character ends the run before it. -/
theorem longestRunFrom_other {q c : Char} {run n : Nat} {cs : List Char} (hc : c ≠ q)
    (h : longestRunFrom q run (c :: cs) ≤ n) : longestRunFrom q 0 cs ≤ n := by
  rw [longestRunFrom, if_neg hc] at h
  exact Nat.le_trans (Nat.le_max_right _ _) h

theorem not_mem_of_longestRunFrom {q : Char} {run : Nat} {cs : List Char}
    (h : longestRunFrom q run cs ≤ 0) : q ∉ cs := by
  induction cs generalizing run with
  | nil => exact List.not_mem_nil
  | cons c cs ih =>
    by_cases hc : c = q
    · subst hc
      exact absurd (longestRunFrom_quote h).2 (by omega)
    · rw [List.mem_cons, not_or]
      exact ⟨fun hq => hc hq.symm, ih (longestRunFrom_other hc h)⟩

/-! ## The triple forms

What the readers of the two triple forms know about quotes is the same: three or more of them end
the string, fewer are text. A quote is therefore read as text if the quotes right after it in the
string are at most one, even where the closing quotes come next. -/

/-- A reader of a triple form, as far as quotes go. -/
structure ReadsBlock (q : Char) (read : List Char → Option (List Char × List Char)) : Prop where
  close : ∀ k ≤ 2, ∀ rest : List Char, rest.head? ≠ some q →
    read (List.replicate k q ++ q :: q :: q :: rest) = some (List.replicate k q, rest)
  single : ∀ rest : List Char, ¬ [q, q] <+: rest → read (q :: rest) = withFirst q (read rest)

theorem ReadsBlock.readLiteralBlock : ReadsBlock '\'' readLiteralBlock where
  close k hk rest hrest := by
    have hne : ∀ more, rest ≠ '\'' :: more := by rintro more rfl; exact hrest rfl
    match k, hk with
    | 0, _ | 1, _ | 2, _ =>
      simp only [List.replicate, List.cons_append, List.nil_append]
      rw [Toml.readLiteralBlock] <;> simp_all
  single rest h := by
    have hne : ∀ more, rest ≠ '\'' :: '\'' :: more := fun more he => h ⟨more, he.symm⟩
    rw [Toml.readLiteralBlock, if_pos (by decide)] <;> simp_all

theorem ReadsBlock.readBasicBlock : ReadsBlock '"' (readBasicBlock .no) where
  close k hk rest hrest := by
    have hne : ∀ more, rest ≠ '"' :: more := by rintro more rfl; exact hrest rfl
    match k, hk with
    | 0, _ | 1, _ | 2, _ =>
      simp only [List.replicate, List.cons_append, List.nil_append]
      rw [Toml.readBasicBlock] <;> simp_all
  single rest h := by
    have hne : ∀ more, rest ≠ '"' :: '"' :: more := fun more he => h ⟨more, he.symm⟩
    rw [Toml.readBasicBlock] <;> simp_all

/-- A quote of the string, with what is written after it and the closing quotes. -/
theorem ReadsBlock.quote {q : Char} {read : List Char → Option (List Char × List Char)}
    (hread : ReadsBlock q read) {written rest : List Char} (hw : ¬ [q, q] <+: written)
    (hrest : rest.head? ≠ some q) :
    read (q :: (written ++ q :: q :: q :: rest))
      = withFirst q (read (written ++ q :: q :: q :: rest)) := by
  match written, hw with
  | [], _ =>
    have h0 := hread.close 0 (by decide) rest hrest
    have h1 := hread.close 1 (by decide) rest hrest
    simp only [List.replicate, List.nil_append, List.cons_append] at h0 h1 ⊢
    rw [h0, h1, withFirst_some]
  | [c], hw =>
    by_cases hc : c = q
    · subst hc
      have h1 := hread.close 1 (by decide) rest hrest
      have h2 := hread.close 2 (by decide) rest hrest
      simp only [List.replicate, List.nil_append, List.cons_append] at h1 h2 ⊢
      rw [h1, h2, withFirst_some]
    · exact hread.single _ (by simp [Ne.symm hc])
  | c :: d :: more, hw => exact hread.single _ (by simpa using hw)

theorem not_prefix_of_longestRunFrom {q : Char} {run : Nat} {cs : List Char}
    (h : longestRunFrom q (run + 1) cs ≤ 2) : ¬ [q, q] <+: cs := by
  rintro ⟨more, rfl⟩
  have h1 := longestRunFrom_quote h
  have h2 := longestRunFrom_quote h1.1
  omega

theorem readLiteralBlock_append {cs : List Char} {run : Nat}
    (hctl : ∀ c ∈ cs, isControl c = false) (hrun : longestRunFrom '\'' run cs ≤ 2)
    {rest : List Char} (hrest : rest.head? ≠ some '\'') :
    readLiteralBlock (cs ++ '\'' :: '\'' :: '\'' :: rest) = some (cs, rest) := by
  induction cs generalizing run with
  | nil => exact ReadsBlock.readLiteralBlock.close 0 (by decide) rest hrest
  | cons c cs ih =>
    have hcs := fun d hd => hctl d (List.mem_cons_of_mem c hd)
    by_cases hq : c = '\''
    · subst hq
      have hrun' := (longestRunFrom_quote hrun).1
      rw [List.cons_append, ReadsBlock.readLiteralBlock.quote (not_prefix_of_longestRunFrom hrun')
        hrest, ih hcs hrun', withFirst_some]
    · have hcs' := ih hcs (longestRunFrom_other hq hrun)
      by_cases hn : c = '\n'
      · subst hn
        rw [List.cons_append, readLiteralBlock, hcs', withFirst_some]
      · have hc : isControl c = false := hctl c List.mem_cons_self
        have hr : c ≠ '\r' := by rintro rfl; exact absurd hc (by decide)
        rw [List.cons_append, readLiteralBlock, if_pos (isPrintable_of_not_isControl hc hn), hcs',
          withFirst_some]
        all_goals simp_all

/-- After two quotes the writer escapes the next one, … -/
theorem head?_basicBlockBody {run : Nat} {cs : List Char} (h : run = 2 ∨ cs.head? ≠ some '"') :
    (basicBlockBody run cs).head? ≠ some '"' := by
  cases cs with
  | nil => simp [basicBlockBody]
  | cons c cs =>
    rw [basicBlockBody]
    split_ifs with hq hrun hn
    · simp
    · subst hq; exact absurd h (by simp [hrun])
    · simp
    · obtain ⟨d, more, hd, hdq, -, -⟩ := head?_escapedControl hq hn
      simp [hd, hdq]

/-- … so that after one at most one more is written. -/
theorem not_prefix_basicBlockBody {run : Nat} (h1 : 1 ≤ run) (h2 : run ≤ 2) (cs : List Char) :
    ¬ ['"', '"'] <+: basicBlockBody run cs := by
  rintro ⟨more, hmore⟩
  have hhead : (basicBlockBody run cs).head? = some '"' := by rw [← hmore]; rfl
  cases cs with
  | nil => simp [basicBlockBody] at hhead
  | cons c cs =>
    have hrun : run = 1 := by
      by_contra hne
      exact head?_basicBlockBody (Or.inl (by omega)) hhead
    have hc : c = '"' := by
      by_contra hne
      exact head?_basicBlockBody (Or.inr (by simpa using hne)) hhead
    subst hrun hc
    rw [basicBlockBody, if_pos rfl, if_neg (by decide)] at hmore
    have hnext : (basicBlockBody 2 cs).head? = some '"' := by
      rw [← (List.cons.inj hmore).2]; rfl
    exact head?_basicBlockBody (Or.inl rfl) hnext

theorem readBasicBlock_basicBlockBody {run : Nat} (hrun : run ≤ 2) (cs : List Char)
    {rest : List Char} (hrest : rest.head? ≠ some '"') :
    readBasicBlock .no (basicBlockBody run cs ++ '"' :: '"' :: '"' :: rest) = some (cs, rest) := by
  induction cs generalizing run with
  | nil => exact ReadsBlock.readBasicBlock.close 0 (by decide) rest hrest
  | cons c cs ih =>
    rw [basicBlockBody]
    split_ifs with hq hfull hn
    · subst hq
      rw [List.cons_append, List.cons_append, Unescapes.readBasicBlock.short '"' '"' _ rfl,
        ih (by decide), withFirst_some]
    · -- The run is one or two with this quote, so that at most one more quote is written after it.
      subst hq
      rw [List.cons_append, ReadsBlock.readBasicBlock.quote
        (not_prefix_basicBlockBody (by omega) (by omega) cs) hrest, ih (by omega), withFirst_some]
    · subst hn
      rw [List.cons_append, readBasicBlock, ih (by decide), withFirst_some] <;> simp
    · rw [List.append_assoc, Unescapes.readBasicBlock.escapedControl hq hn, ih (by decide),
        withFirst_some]

/-! ## Which form was written -/

/-- The line feed that opens a triple form is dropped, and nothing else is. -/
theorem dropLineEnd_of_head? {cs : List Char} (hn : cs.head? ≠ some '\n')
    (hr : cs.head? ≠ some '\r') : dropLineEnd cs = cs := by
  cases cs with
  | nil => rfl
  | cons c cs => rw [dropLineEnd] <;> simp_all

theorem head?_append_ne {c q : Char} {cs : List Char} (hc : c ∉ cs) (hq : c ≠ q)
    (rest : List Char) : (cs ++ q :: rest).head? ≠ some c := by
  cases cs with
  | nil => simpa using Ne.symm hq
  | cons d cs => simpa using fun h : d = c => hc (h ▸ List.mem_cons_self)

theorem head?_basicBlockBody_append (run : Nat) {cs : List Char} (hn : '\n' ∉ cs)
    (rest : List Char) :
    (basicBlockBody run cs ++ '"' :: rest).head? ≠ some '\n' ∧
      (basicBlockBody run cs ++ '"' :: rest).head? ≠ some '\r' := by
  cases cs with
  | nil => simp [basicBlockBody]
  | cons c cs =>
    have hc : c ≠ '\n' := fun h => hn (h ▸ List.mem_cons_self)
    rw [basicBlockBody]
    split_ifs with hq hfull
    · simp
    · simp
    · obtain ⟨d, more, hd, -, hdn, hdr⟩ := head?_escapedControl hq hc
      simp [hd, hdn, hdr]

theorem unquote_basic (lineFeed : Bool) (cs : List Char) {rest : List Char} (hrest : Follows rest) :
    unquote (Form.basic.write lineFeed cs ++ rest) = some (cs, rest) := by
  have hbody := readBasic_basicBody cs rest
  have hne : ∀ more, basicBody cs ++ '"' :: rest ≠ '"' :: '"' :: more := by
    intro more he
    cases cs with
    -- An empty string and a quote after it would look like the beginning of a triple form.
    | nil => exact hrest.1 (by rw [(List.cons.inj he).2]; rfl)
    | cons c cs =>
      rw [basicBody, List.flatMap_cons] at he
      by_cases hq : c = '"'
      · simp [hq] at he
      · by_cases hn : c = '\n'
        · simp [hn] at he
        · obtain ⟨d, tail, hd, hdq, -, -⟩ := head?_escapedControl hq hn
          simp [hq, hn, hd, hdq] at he
  rw [Form.write, List.append_assoc, List.cons_append, List.singleton_append, unquote, hbody]
  exact hne

theorem unquote_literal (lineFeed : Bool) {cs : List Char} (hctl : ∀ c ∈ cs, isControl c = false)
    (hn : '\n' ∉ cs) (hq : '\'' ∉ cs) {rest : List Char} (hrest : Follows rest) :
    unquote (Form.literal.write lineFeed cs ++ rest) = some (cs, rest) := by
  have hp : ∀ c ∈ cs, isPrintable c = true := fun c hc =>
    isPrintable_of_not_isControl (hctl c hc) fun h => hn (h ▸ hc)
  have hne : ∀ more, cs ++ '\'' :: rest ≠ '\'' :: '\'' :: more := by
    intro more he
    cases cs with
    | nil => exact hrest.2 (by rw [(List.cons.inj he).2]; rfl)
    | cons c cs => exact hq ((List.cons.inj he).1 ▸ List.mem_cons_self)
  rw [Form.write, List.append_assoc, List.cons_append, List.singleton_append, unquote,
    readLiteral_append hp hq]
  exact hne

theorem unquote_basicBlock (cs : List Char) {rest : List Char} (hrest : Follows rest) :
    unquote (Form.basicBlock.write (cs.contains '\n') cs ++ rest) = some (cs, rest) := by
  have hread := readBasicBlock_basicBlockBody (Nat.zero_le 2) cs hrest.1
  by_cases hn : '\n' ∈ cs
  · simp only [Form.write, List.contains_iff_mem.mpr hn, if_pos, List.append_assoc,
      List.cons_append, List.nil_append, unquote, dropLineEnd]
    exact hread
  · have hhead := head?_basicBlockBody_append 0 hn ('"' :: '"' :: rest)
    have hno : cs.contains '\n' = false := by simpa using hn
    simp only [Form.write, hno, Bool.false_eq_true, if_false, List.append_nil, List.append_assoc,
      List.cons_append, List.nil_append, unquote, dropLineEnd_of_head? hhead.1 hhead.2]
    exact hread

theorem unquote_literalBlock {cs : List Char} (hctl : ∀ c ∈ cs, isControl c = false)
    (hrun : longestRun '\'' cs ≤ 2) {rest : List Char} (hrest : Follows rest) :
    unquote (Form.literalBlock.write (cs.contains '\n') cs ++ rest) = some (cs, rest) := by
  have hread := readLiteralBlock_append hctl hrun hrest.2
  by_cases hn : '\n' ∈ cs
  · simp only [Form.write, List.contains_iff_mem.mpr hn, if_pos, List.append_assoc,
      List.cons_append, List.nil_append, unquote, dropLineEnd]
    exact hread
  · have hr : '\r' ∉ cs := fun h => absurd (hctl _ h) (by decide)
    have hno : cs.contains '\n' = false := by simpa using hn
    have hdrop := dropLineEnd_of_head? (head?_append_ne hn (by decide) ('\'' :: '\'' :: rest))
      (head?_append_ne (q := '\'') hr (by decide) _)
    simp only [Form.write, hno, Bool.false_eq_true, if_false, List.append_nil, List.append_assoc,
      List.cons_append, List.nil_append, unquote, hdrop]
    exact hread

/-- **A quoted string reads back**, and what follows it is left. -/
theorem unquote_quote (cs : List Char) {rest : List Char} (hrest : Follows rest) :
    unquote (quote cs ++ rest) = some (cs, rest) := by
  have hctl (h : (!(Traits.of cs).control) = true) : ∀ c ∈ cs, isControl c = false := by
    simpa [Traits.of] using h
  have hline (h : (!(Traits.of cs).lineFeed) = true) : '\n' ∉ cs := by
    simpa [Traits.of] using h
  change unquote ((Traits.of cs).form.write (Traits.of cs).lineFeed cs ++ rest) = _
  rw [Traits.form]
  split_ifs with hbasic hliteral hblock hliteralBlock hescaped
  · exact unquote_basic _ cs hrest
  · simp only [Bool.and_eq_true, decide_eq_true_eq] at hliteral
    obtain ⟨⟨hc, hn⟩, hs⟩ := hliteral
    exact unquote_literal _ (hctl hc) (hline hn) (not_mem_of_longestRunFrom (Nat.le_of_eq hs)) hrest
  · exact unquote_basicBlock cs hrest
  · simp only [Bool.and_eq_true, decide_eq_true_eq] at hliteralBlock
    exact unquote_literalBlock (hctl hliteralBlock.1) hliteralBlock.2 hrest
  · exact unquote_basicBlock cs hrest
  · exact unquote_basic _ cs hrest

example : quote "a\"'\nb".toList = "\"\"\"\na\"'\nb\"\"\"".toList := by decide

end Wlan.Toml
