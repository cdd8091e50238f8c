import Mathlib.Data.Option.Basic
import Wlan.Proofs.Text.Numeral
import Wlan.Proofs.Toml.Quoting
import Wlan.Toml.Syntax

/-!
# Written lines read back

A document is written line by line: an assignment of a string, a number or an empty array to a
bare key, a header, an empty line. This file says of each kind of line that the reader makes one
statement of it and goes on with the next line.

The reader of statements recurses on a bound that the length of the text supplies. The bound is
hidden here: `Reads cs ss` says that the text reads as these statements under every bound that is
large enough, and then the lines compose.
-/

set_option autoImplicit false

namespace Wlan.Toml

/-! ## Decimal numerals -/

/-- A run of digits is read as itself: there is no underscore in it to drop. -/
theorem digits?_of_isDigit {cs : List Char} (h : ∀ c ∈ cs, c.isDigit = true) (hne : cs ≠ []) :
    digits? 10 cs = some cs := by
  induction cs with
  | nil => exact absurd rfl hne
  | cons c cs ih =>
    have hc := Text.isDigitOf_ten_iff.mpr (h c List.mem_cons_self)
    cases cs with
    | nil => rw [digits?, if_pos hc]
    | cons d ds =>
      have hd : d ≠ '_' := by
        rintro rfl
        exact absurd (h '_' (by simp)) (by decide)
      rw [digits?, if_pos hc, ih (fun e he => h e (List.mem_cons_of_mem _ he)) (by simp)]
      · rfl
      all_goals simp [hd]

theorem decimalDigits?_toDigits (n : Nat) :
    decimalDigits? (Nat.toDigits 10 n) = some (Nat.toDigits 10 n) := by
  have hlead : ¬ ((Nat.toDigits 10 n).head? = some '0' ∧ (Nat.toDigits 10 n).length > 1) := by
    rintro ⟨hhead, hlen⟩
    cases n with
    | zero => simp at hlen
    | succ n => exact Text.head?_toDigits (Nat.succ_pos n) hhead
  simp [decimalDigits?, digits?_of_isDigit Text.isDigit_of_mem Nat.toDigits_ne_nil, hlead]

theorem signed_of_isDigit {cs : List Char} (h : ∀ c ∈ cs, c.isDigit = true) :
    signed cs = (false, cs) := by
  unfold signed
  split
  · exact absurd (h '-' List.mem_cons_self) (by decide)
  · exact absurd (h '+' List.mem_cons_self) (by decide)
  · rfl

theorem integer?_toDigits {n : Nat} (h : fits n = true) :
    integer? (Nat.toDigits 10 n) = some (n : Int) := by
  -- A digit in the second place leaves no base but ten.
  have hbase (c : Char) (hc : c.isDigit = false) (rest : List Char) :
      Nat.toDigits 10 n ≠ '0' :: c :: rest := by
    intro he
    exact absurd (Text.isDigit_of_mem c (by rw [he]; simp)) (by simp [hc])
  rw [integer?, Option.bind_eq_bind, Option.bind_eq_some_iff]
  · refine ⟨n, ?_, ?_⟩
    · simp [signed_of_isDigit Text.isDigit_of_mem, decimalDigits?_toDigits, Text.ofDigits_toDigits]
    · show (if fits (n : Int) = true then some (n : Int) else none) = some (n : Int)
      rw [if_pos h]
  · exact hbase 'x' (by decide)
  · exact hbase 'o' (by decide)
  · exact hbase 'b' (by decide)

theorem ofRun?_toDigits {n : Nat} (h : fits n = true) :
    ofRun? (Nat.toDigits 10 n) = some (.integer n) := by
  have htrue : Nat.toDigits 10 n ≠ "true".toList := by
    intro he
    exact absurd (Text.isDigit_of_mem 't' (by rw [he]; decide)) (by decide)
  have hfalse : Nat.toDigits 10 n ≠ "false".toList := by
    intro he
    exact absurd (Text.isDigit_of_mem 'f' (by rw [he]; decide)) (by decide)
  rw [ofRun?, if_neg htrue, if_neg hfalse, integer?_toDigits h]

/-- A number is read to the end of its line, if 64 bits with a sign can hold it. -/
theorem readPlain_toDigits {n : Nat} (h : fits n = true) (rest : List Char) :
    readPlain (Nat.toDigits 10 n ++ '\n' :: rest) = some (.integer n, '\n' :: rest) := by
  have hplain : ∀ c ∈ Nat.toDigits 10 n, isPlain c = true := by
    intro c hc
    simp [isPlain, Char.isAlphanum, Text.isDigit_of_mem c hc]
  have hrun : (Nat.toDigits 10 n ++ '\n' :: rest).takeWhile isPlain = Nat.toDigits 10 n := by
    rw [List.takeWhile_append_of_pos hplain]
    simp [isPlain]
  have hrest : (Nat.toDigits 10 n ++ '\n' :: rest).dropWhile isPlain = '\n' :: rest := by
    rw [List.dropWhile_append_of_pos hplain]
    simp [isPlain]
  simp [readPlain, hrun, hrest, ofRun?_toDigits h]

/-! ## Values -/

/-- A text that reads as a value up to the end of its line. -/
def Writes (text : List Char) (v : Value) : Prop :=
  (∃ c more, text = c :: more ∧ isGap c = false) ∧
    ∀ rest, readValue (text ++ '\n' :: rest) = some (v, '\n' :: rest)

/-- A quoted string begins with a quote, which is how a value is known to be a string. -/
theorem Form.write_eq_cons (f : Form) (lineFeed : Bool) (cs : List Char) :
    ∃ q more, f.write lineFeed cs = q :: more ∧ (q = '"' ∨ q = '\'') := by
  cases f with
  | basic => exact ⟨'"', _, rfl, Or.inl rfl⟩
  | literal => exact ⟨'\'', _, rfl, Or.inr rfl⟩
  | basicBlock => exact ⟨'"', _, rfl, Or.inl rfl⟩
  | literalBlock => exact ⟨'\'', _, rfl, Or.inr rfl⟩

theorem writes_quote (s : String) : Writes (quote s.toList) (.text s) := by
  obtain ⟨q, more, hq, hcases⟩ :
      ∃ q more, quote s.toList = q :: more ∧ (q = '"' ∨ q = '\'') := Form.write_eq_cons _ _ _
  refine ⟨⟨q, more, hq, ?_⟩, fun rest => ?_⟩
  · rcases hcases with rfl | rfl <;> rfl
  · have hread := unquote_quote s.toList (follows_lineFeed rest)
    rw [hq, List.cons_append] at hread ⊢
    rcases hcases with rfl | rfl
    · rw [readValue, nestingLimit, readValueBelow, hread]
      simp
    · rw [readValue, nestingLimit, readValueBelow, hread]
      simp

theorem writes_toDigits {n : Nat} (h : fits n = true) : Writes (Nat.toDigits 10 n) (.integer n) := by
  cases hd : Nat.toDigits 10 n with
  | nil => exact absurd hd Nat.toDigits_ne_nil
  | cons c more =>
    have hc : c.isDigit = true := Text.isDigit_of_mem c (by rw [hd]; exact List.mem_cons_self)
    have hne (d : Char) (hdig : d.isDigit = false) : c ≠ d := by
      rintro rfl
      exact absurd hc (by simp [hdig])
    refine ⟨⟨c, more, rfl, ?_⟩, fun rest => ?_⟩
    · simp [isGap, hne ' ' (by decide), hne '\t' (by decide)]
    · have hread := readPlain_toDigits h rest
      rw [hd, List.cons_append] at hread
      rw [List.cons_append, readValue, nestingLimit, readValueBelow, hread]
      · simpa using hne '"' (by decide)
      · simpa using hne '\'' (by decide)
      · simpa using hne '[' (by decide)
      · simpa using hne '\x7b' (by decide)

theorem writes_emptyArray : Writes "[]".toList (.array false []) :=
  ⟨⟨'[', [']'], rfl, rfl⟩, fun _ => rfl⟩

/-! ## Lines -/

/-- The text reads as these statements, whatever bound the reader is given. -/
def Reads (cs : List Char) (ss : List Statement) : Prop :=
  ∀ bound, cs.length < bound → readStatements bound cs = some ss

/-- A key that needs no quotes. -/
def IsBareKey (key : String) : Prop :=
  key.toList ≠ [] ∧ key.toList.all isBare = true

instance (key : String) : Decidable (IsBareKey key) :=
  inferInstanceAs (Decidable (key.toList ≠ [] ∧ key.toList.all isBare = true))

theorem ne_of_isBare {c d : Char} (hc : isBare c = true) (hd : isBare d = false) : c ≠ d := by
  rintro rfl
  exact absurd hc (by simp [hd])

theorem isGap_of_isBare {c : Char} (h : isBare c = true) : isGap c = false := by
  have hspace : c ≠ ' ' := ne_of_isBare h (by decide)
  have htab : c ≠ '\t' := ne_of_isBare h (by decide)
  simp [isGap, hspace, htab]

theorem IsBareKey.eq_cons {key : String} (h : IsBareKey key) :
    ∃ k ks, key.toList = k :: ks ∧ isBare k = true := by
  cases hk : key.toList with
  | nil => exact absurd hk h.1
  | cons k ks =>
    have hmem : k ∈ key.toList := by
      rw [hk]
      exact List.mem_cons_self
    exact ⟨k, ks, rfl, List.all_eq_true.mp h.2 k hmem⟩

theorem skipGap_cons {c : Char} (h : isGap c = false) (rest : List Char) :
    skipGap (c :: rest) = c :: rest := by
  simp [skipGap, h]

theorem reads_nil : Reads [] [] := by
  intro bound h
  cases bound with
  | zero => exact absurd h (Nat.not_lt_zero _)
  | succ bound => rfl

theorem reads_emptyLine {rest : List Char} {ss : List Statement} (h : Reads rest ss) :
    Reads (['\n'] ++ rest) ss := by
  intro bound hb
  cases bound with
  | zero => exact absurd hb (Nat.not_lt_zero _)
  | succ bound => exact h bound (Nat.lt_of_succ_lt_succ hb)

/-- A path of one bare key is read up to the character that ends it, blanks between them or not. -/
theorem readPath_append {key : String} (hkey : IsBareKey key) (gap : List Char)
    (hgap : gap.all isGap = true) {d : Char} (hd : isBare d = false) (hdgap : isGap d = false)
    (hdot : d ≠ '.') (rest : List Char) :
    readPath (key.toList ++ (gap ++ d :: rest)) = some (⟨[], key⟩, d :: rest) := by
  obtain ⟨k, ks, hk, hkbare⟩ := hkey.eq_cons
  have hbare := List.all_eq_true.mp hkey.2
  rw [List.all_eq_true] at hgap
  have hskip : skipGap (gap ++ d :: rest) = d :: rest := by
    rw [skipGap, List.dropWhile_append_of_pos hgap]
    simp [hdgap]
  have hstop : ∀ c more, gap ++ d :: rest = c :: more → isBare c = false := by
    intro c more he
    cases gap with
    | nil => rw [← (List.cons.inj he).1]; exact hd
    | cons g gap =>
      have hg := hgap g List.mem_cons_self
      rw [← (List.cons.inj he).1]
      simp only [isGap, Bool.or_eq_true, decide_eq_true_eq] at hg
      rcases hg with rfl | rfl <;> decide
  have htake : (key.toList ++ (gap ++ d :: rest)).takeWhile isBare = key.toList := by
    rw [List.takeWhile_append_of_pos hbare]
    cases hs : gap ++ d :: rest with
    | nil => simp
    | cons c more => simp [hstop c more hs]
  have hdrop : (key.toList ++ (gap ++ d :: rest)).dropWhile isBare = gap ++ d :: rest := by
    rw [List.dropWhile_append_of_pos hbare]
    cases hs : gap ++ d :: rest with
    | nil => simp
    | cons c more => simp [hstop c more hs]
  have hread : readKey (k :: (ks ++ (gap ++ d :: rest))) = some (key, gap ++ d :: rest) := by
    rw [hk, List.cons_append] at htake hdrop
    rw [readKey, htake, hdrop]
    · simp [← hk]
    · simpa using ne_of_isBare hkbare (by decide)
    · simpa using ne_of_isBare hkbare (by decide)
  rw [hk, readPath, nestingLimit, readPathBelow, List.cons_append,
    skipGap_cons (isGap_of_isBare hkbare), hread]
  simp only [Option.bind_eq_bind, Option.bind_some, hskip]
  split
  · next he => exact absurd (List.cons.inj he).1 hdot
  · rfl

theorem lineEnd?_lineFeed (rest : List Char) : lineEnd? ('\n' :: rest) = some rest := rfl

theorem readPair_append {key : String} (hkey : IsBareKey key) {text : List Char} {v : Value}
    (hv : Writes text v) (rest : List Char) :
    readPair readValue (key.toList ++ (" = ".toList ++ (text ++ '\n' :: rest)))
      = some ((⟨[], key⟩, v), '\n' :: rest) := by
  obtain ⟨⟨c, more, htext, hc⟩, hread⟩ := hv
  have hpath := readPath_append hkey [' '] (by decide) (d := '=') (by decide) (by decide)
    (by decide) (' ' :: (text ++ '\n' :: rest))
  have hgap : skipGap (' ' :: (text ++ '\n' :: rest)) = text ++ '\n' :: rest := by
    rw [htext, List.cons_append]
    exact (List.dropWhile_cons_of_pos rfl).trans (skipGap_cons hc _)
  have heq : " = ".toList ++ (text ++ '\n' :: rest) = [' '] ++ '=' :: ' ' :: (text ++ '\n' :: rest) :=
    rfl
  rw [heq, readPair, hpath]
  simp only [Option.bind_eq_bind, Option.bind_some, hgap, hread, skipGap_cons (c := '\n') rfl]
  rfl

theorem reads_assignment {key : String} (hkey : IsBareKey key) {text : List Char} {v : Value}
    (hv : Writes text v) {rest : List Char} {ss : List Statement} (h : Reads rest ss) :
    Reads (key.toList ++ (" = ".toList ++ (text ++ (['\n'] ++ rest))))
      (.assignment ⟨[], key⟩ v :: ss) := by
  intro bound hb
  have hpair := readPair_append hkey hv rest
  obtain ⟨k, ks, hk, hkbare⟩ := hkey.eq_cons
  rw [List.singleton_append] at hb ⊢
  rw [hk] at hpair hb ⊢
  cases bound with
  | zero => exact absurd hb (Nat.not_lt_zero _)
  | succ bound =>
    have hrest : readStatements bound rest = some ss := by
      refine h bound ?_
      simp only [List.cons_append, List.length_cons, List.length_append] at hb
      omega
    rw [List.cons_append] at hpair ⊢
    unfold readStatements
    rw [skipGap_cons (isGap_of_isBare hkbare)]
    -- A bare key begins like no other kind of line.
    split
    · next he => cases he
    · next he => exact absurd (List.cons.inj he).1 (ne_of_isBare hkbare (by decide))
    · next he => exact absurd (List.cons.inj he).1 (ne_of_isBare hkbare (by decide))
    · next he => exact absurd (List.cons.inj he).1 (ne_of_isBare hkbare (by decide))
    · next he => exact absurd (List.cons.inj he).1 (ne_of_isBare hkbare (by decide))
    · rw [hpair]
      simp only [Option.bind_eq_bind, Option.bind_some, lineEnd?_lineFeed, hrest]
      rfl

theorem readStatements_header {bound : Nat} {cs rest : List Char} {s : Statement}
    {ss : List Statement} (hs : readHeader cs = some (s, rest))
    (h : readStatements bound rest = some ss) :
    readStatements (bound + 1) ('[' :: cs) = some (s :: ss) := by
  rw [readStatements, skipGap_cons rfl]
  simp only [hs, Option.bind_eq_bind, Option.bind_some, h]
  rfl

theorem reads_header {key : String} (hkey : IsBareKey key) {rest : List Char} {ss : List Statement}
    (h : Reads rest ss) :
    Reads (['['] ++ (key.toList ++ ([']', '\n'] ++ rest))) (.header ⟨[], key⟩ :: ss) := by
  intro bound hb
  simp only [List.cons_append, List.nil_append] at hb ⊢
  have hpath := readPath_append hkey [] (by decide) (d := ']') (by decide) (by decide)
    (by decide) ('\n' :: rest)
  obtain ⟨k, ks, hk, hkbare⟩ := hkey.eq_cons
  cases bound with
  | zero => exact absurd hb (Nat.not_lt_zero _)
  | succ bound =>
    refine readStatements_header ?_ (h bound ?_)
    · rw [List.nil_append, hk, List.cons_append] at hpath
      rw [hk, List.cons_append, readHeader, hpath]
      · simp [lineEnd?_lineFeed]
      · simpa using ne_of_isBare hkbare (by decide)
    · simp only [List.length_cons, List.length_append] at hb
      omega

theorem reads_element {key : String} (hkey : IsBareKey key) {rest : List Char} {ss : List Statement}
    (h : Reads rest ss) :
    Reads (['[', '['] ++ (key.toList ++ ([']', ']', '\n'] ++ rest)))
      (.element ⟨[], key⟩ :: ss) := by
  intro bound hb
  simp only [List.cons_append, List.nil_append] at hb ⊢
  have hpath := readPath_append hkey [] (by decide) (d := ']') (by decide) (by decide)
    (by decide) (']' :: '\n' :: rest)
  cases bound with
  | zero => exact absurd hb (Nat.not_lt_zero _)
  | succ bound =>
    refine readStatements_header ?_ (h bound ?_)
    · rw [List.nil_append] at hpath
      simp [readHeader, hpath, lineEnd?_lineFeed]
    · simp only [List.length_cons, List.length_append] at hb
      omega

end Wlan.Toml
