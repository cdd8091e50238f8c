import Wlan.Json
import Wlan.Proofs.Text.Numeral

/-!
# A string in JSON reads back

A reader of strings that knows nothing of how they are written here: it goes by the grammar of the
format, with its eight short escapes and the one by four hexadecimal digits of either case, and it
stops at the first quote that is not escaped. Whatever stands in a string, it finds that string and
leaves what came after it (`isQuoted_quoted`).

Only of the escapes by number it knows less than the format. There are pairs of them that stand for
one character beyond U+FFFF, and the reader takes none of these.
-/

set_option autoImplicit false

namespace Wlan.Json

/-- The character that a letter after a backslash stands for. -/
def shortEscapes : List (Char × Char) :=
  [('"', '"'), ('\\', '\\'), ('/', '/'), ('b', '\x08'), ('f', '\x0c'), ('n', '\n'), ('r', '\r'),
    ('t', '\t')]

/-- Reads what comes after an opening quote: the string, and what follows its closing quote. -/
def readText? : List Char → Option (List Char × List Char)
  | '"' :: rest => some ([], rest)
  | '\\' :: 'u' :: a :: b :: c :: d :: rest =>
    if [a, b, c, d].all (Text.isDigitOf 16) then
      (readText? rest).map (Prod.map (Char.ofNat (Text.ofDigits 16 [a, b, c, d]) :: ·) id)
    else none
  | '\\' :: e :: rest => do
    let c ← shortEscapes.lookup e
    (readText? rest).map (Prod.map (c :: ·) id)
  | c :: rest =>
    if 0x20 ≤ c.toNat ∧ c ≠ '\\' then (readText? rest).map (Prod.map (c :: ·) id) else none
  | [] => none

/-- The text is this string in quotes, and ends where it ends, whatever may follow. -/
def IsQuoted (s text : String) : Prop :=
  ∃ body, text.toList = '"' :: body ∧ ∀ rest, readText? (body ++ rest) = some (s.toList, rest)

theorem readText?_short {e c : Char} (h : shortEscapes.lookup e = some c) (rest : List Char) :
    readText? ('\\' :: e :: rest) = (readText? rest).map (Prod.map (c :: ·) id) := by
  have hu : e ≠ 'u' := by
    rintro rfl
    cases h
  rw [readText?]
  · rw [h]
    rfl
  · rintro a b c d rest' rfl
    exact absurd rfl hu

theorem readText?_plain {c : Char} (hquote : c ≠ '"') (hslash : c ≠ '\\') (hc : 0x20 ≤ c.toNat)
    (rest : List Char) :
    readText? (c :: rest) = (readText? rest).map (Prod.map (c :: ·) id) := by
  rw [readText?]
  · exact if_pos ⟨hc, hslash⟩
  · exact fun h => absurd h hquote
  · exact fun _ _ _ _ _ h => absurd h hslash
  · exact fun _ _ h => absurd h hslash

theorem readText?_hex4 {c : Char} (hc : c.toNat < 0x20) (rest : List Char) :
    readText? ('\\' :: 'u' :: Text.hex4 false c.toNat ++ rest)
      = (readText? rest).map (Prod.map (c :: ·) id) := by
  have hdigits := Text.all_isDigitOf_hex4 false c.toNat
  have hvalue := Text.ofDigits_hex4 false (Nat.lt_trans hc (by decide))
  unfold Text.hex4 at *
  simp only [List.cons_append, List.nil_append]
  rw [readText?, if_pos hdigits, hvalue, Char.ofNat_toNat]

/-- How a character stands inside quotes: behind a backslash, by its number, or as it is. -/
theorem escaped_cases (c : Char) :
    (∃ e, shortEscapes.lookup e = some c ∧ escaped c = ['\\', e]) ∨
    (c.toNat < 0x20 ∧ escaped c = '\\' :: 'u' :: Text.hex4 false c.toNat) ∨
    (c ≠ '"' ∧ c ≠ '\\' ∧ 0x20 ≤ c.toNat ∧ escaped c = [c]) := by
  by_cases hshort : c ∈ ['"', '\\', '\n', '\r', '\t', '\x08', '\x0c']
  · simp only [List.mem_cons, List.not_mem_nil, or_false] at hshort
    rcases hshort with rfl | rfl | rfl | rfl | rfl | rfl | rfl
    all_goals exact Or.inl ⟨_, by rfl, rfl⟩
  · simp only [List.mem_cons, List.not_mem_nil, or_false, not_or] at hshort
    have hescaped : escaped c
        = if c.toNat < 0x20 then '\\' :: 'u' :: Text.hex4 false c.toNat else [c] := by
      simp only [escaped, hshort, reduceIte]
    by_cases hc : c.toNat < 0x20
    · exact Or.inr (Or.inl ⟨hc, hescaped.trans (if_pos hc)⟩)
    · exact Or.inr (Or.inr ⟨hshort.1, hshort.2.1, Nat.not_lt.mp hc, hescaped.trans (if_neg hc)⟩)

theorem readText?_escaped (c : Char) (rest : List Char) :
    readText? (escaped c ++ rest) = (readText? rest).map (Prod.map (c :: ·) id) := by
  rcases escaped_cases c with ⟨e, hlookup, h⟩ | ⟨hc, h⟩ | ⟨hquote, hslash, hc, h⟩
  · rw [h]
    exact readText?_short hlookup rest
  · rw [h]
    exact readText?_hex4 hc rest
  · rw [h]
    exact readText?_plain hquote hslash hc rest

theorem readText?_quoted (cs rest : List Char) :
    readText? (cs.flatMap escaped ++ '"' :: rest) = some (cs, rest) := by
  induction cs with
  | nil => rfl
  | cons c cs ih =>
    rw [List.flatMap_cons, List.append_assoc, readText?_escaped, ih]
    rfl

/-- **A quoted string is the string that it quotes.** -/
theorem isQuoted_quoted (s : String) : IsQuoted s (quoted s) := by
  refine ⟨s.toList.flatMap escaped ++ ['"'], ?_, fun rest => ?_⟩
  · simp [quoted]
  · rw [List.append_assoc]
    exact readText?_quoted s.toList rest

end Wlan.Json
