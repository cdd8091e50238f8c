import Wlan.NetworkManager.Terse

/-!
# Rows read back

Every field can stand in a row. Its colons and backslashes are escaped, so that a colon that parts
two fields is met only between them, and the reader gives back the fields that were written
(`split_row`).

Every line can be read, too. A colon in it parts two fields unless it is escaped, and whether it is
can be told from the backslashes in front of it (`IsEscaped`), so that the number of fields is known
before they are read (`length_split`).
-/

set_option autoImplicit false

namespace Wlan.NetworkManager.Terse

/-- The two characters that a row uses for itself. -/
def IsSpecial (c : Char) : Prop := c = ':' ∨ c = '\\'

instance : DecidablePred IsSpecial := fun c => inferInstanceAs (Decidable (c = ':' ∨ c = '\\'))

/-! ## Rows as text -/

theorem escape_cons (c : Char) (rest : List Char) :
    escape (c :: rest) = if IsSpecial c then '\\' :: c :: escape rest else c :: escape rest := rfl

theorem escape_append (f g : List Char) : escape (f ++ g) = escape f ++ escape g := by
  induction f with
  | nil => rfl
  | cons c f ih =>
    rw [List.cons_append, escape_cons, escape_cons, ih]
    split <;> rfl

theorem row_singleton (f : List Char) : row [f] = escape f := List.intercalate_singleton

theorem row_cons (f : List Char) {fields : List (List Char)} (h : fields ≠ []) :
    row (f :: fields) = escape f ++ ':' :: row fields := by
  cases fields with
  | nil => exact absurd rfl h
  | cons g fields => simp [row, List.intercalate_cons_cons]

theorem row_ne_nil {fields : List (List Char)} (h : 1 < fields.length) : row fields ≠ [] := by
  cases fields with
  | nil => cases h
  | cons f fields =>
    have hfields : fields ≠ [] := by
      rintro rfl
      exact Nat.lt_irrefl 1 h
    rw [row_cons f hfields]
    simp

theorem getLast?_escape_singleton (c : Char) : (escape [c]).getLast? = some c := by
  rw [escape_cons]
  split <;> rfl

theorem mem_escape {c : Char} {f : List Char} : c ∈ escape f → c = '\\' ∨ c ∈ f := by
  induction f with
  | nil => exact Or.inr
  | cons d f ih =>
    rw [escape_cons, List.mem_cons]
    split
    · rw [List.mem_cons, List.mem_cons]
      rintro (h | h | h)
      · exact Or.inl h
      · exact Or.inr (Or.inl h)
      · exact (ih h).imp_right Or.inr
    · rw [List.mem_cons]
      rintro (h | h)
      · exact Or.inr (Or.inl h)
      · exact (ih h).imp_right Or.inr

/-- Any other character of a row comes from one of its fields. -/
theorem exists_mem_of_mem_row {c : Char} (hc : ¬ IsSpecial c) {fields : List (List Char)}
    (h : c ∈ row fields) : ∃ f ∈ fields, c ∈ f := by
  have hfield {f : List Char} (hf : c ∈ escape f) : c ∈ f :=
    (mem_escape hf).resolve_left fun heq => hc (Or.inr heq)
  induction fields with
  | nil => cases h
  | cons f fields ih =>
    by_cases hfields : fields = []
    · subst hfields
      rw [row_singleton] at h
      exact ⟨f, List.mem_cons_self, hfield h⟩
    · rw [row_cons f hfields, List.mem_append, List.mem_cons] at h
      rcases h with h | h | h
      · exact ⟨f, List.mem_cons_self, hfield h⟩
      · exact absurd (Or.inl h) hc
      · obtain ⟨g, hg, hmem⟩ := ih h
        exact ⟨g, List.mem_cons_of_mem _ hg, hmem⟩

/-! ## Reading -/

theorem split_of_not_isSpecial {c : Char} (hc : ¬ IsSpecial c) (rest : List Char) :
    split (c :: rest) = Text.consFirst c (split rest) := by
  rw [split]
  · exact fun h _ => hc (Or.inr h)
  · exact fun _ _ h _ => hc (Or.inr h)
  · exact fun h => hc (Or.inl h)

/-- An escaped field puts its characters in front of whatever follows it. -/
theorem split_escape_append (f rest : List Char) :
    split (escape f ++ rest) = f.foldr Text.consFirst (split rest) := by
  induction f with
  | nil => rfl
  | cons c f ih =>
    rw [escape_cons, List.foldr_cons, ← ih]
    split
    · rfl
    · next hc => exact split_of_not_isSpecial hc _

theorem foldr_consFirst (f first : List Char) (more : List (List Char)) :
    f.foldr Text.consFirst (first :: more) = (f ++ first) :: more := by
  induction f with
  | nil => rfl
  | cons c f ih =>
    rw [List.foldr_cons, ih]
    rfl

/-- **A row reads back as its fields.** -/
theorem split_row {fields : List (List Char)} (h : fields ≠ []) : split (row fields) = fields := by
  induction fields with
  | nil => exact absurd rfl h
  | cons f fields ih =>
    by_cases hfields : fields = []
    · subst hfields
      have hsplit := split_escape_append f []
      rw [List.append_nil] at hsplit
      rw [row_singleton, hsplit, split, foldr_consFirst, List.append_nil]
    · have hcolon : split (':' :: row fields) = [] :: split (row fields) := rfl
      rw [row_cons f hfields, split_escape_append, hcolon, ih hfields, foldr_consFirst,
        List.append_nil]

/-! ## Any line -/

/-- The character at this place is escaped: there is a backslash in front of it which is not itself
escaped. -/
def IsEscaped (cs : List Char) : Nat → Prop
  | 0 => False
  | i + 1 => cs[i]? = some '\\' ∧ ¬ IsEscaped cs i

instance IsEscaped.decidable (cs : List Char) : DecidablePred (IsEscaped cs)
  | 0 => inferInstanceAs (Decidable False)
  | i + 1 =>
    have := IsEscaped.decidable cs i
    inferInstanceAs (Decidable (cs[i]? = some '\\' ∧ ¬ IsEscaped cs i))

/-- The places of the colons that part two fields: of those that are not escaped. -/
def separators (cs : List Char) : List Nat :=
  (List.range cs.length).filter fun i => cs[i]? = some ':' ∧ ¬ IsEscaped cs i

/-- What is escaped is decided by what stands before it. -/
theorem isEscaped_append_left {before : List Char} (rest : List Char) {i : Nat}
    (hi : i ≤ before.length) : IsEscaped (before ++ rest) i ↔ IsEscaped before i := by
  induction i with
  | zero => exact Iff.rfl
  | succ i ih =>
    simp only [IsEscaped, List.getElem?_append_left hi, ih (Nat.le_of_succ_le hi)]

/-- Where no escape is left open, nothing before matters. -/
theorem isEscaped_append_right {before : List Char} (hbefore : ¬ IsEscaped before before.length)
    (rest : List Char) (i : Nat) :
    IsEscaped (before ++ rest) (before.length + i) ↔ IsEscaped rest i := by
  induction i with
  | zero =>
    rw [Nat.add_zero, isEscaped_append_left rest (Nat.le_refl _)]
    exact iff_false_intro hbefore
  | succ i ih =>
    have hget : (before ++ rest)[before.length + i]? = rest[i]? := by
      rw [List.getElem?_append_right (Nat.le_add_right _ _), Nat.add_sub_cancel_left]
    rw [Nat.add_succ, IsEscaped, IsEscaped, ih, hget]

theorem separators_append {before : List Char} (hbefore : ¬ IsEscaped before before.length)
    (rest : List Char) :
    separators (before ++ rest)
      = separators before ++ (separators rest).map (before.length + ·) := by
  have hleft : (List.range before.length).filter
      (fun i => (before ++ rest)[i]? = some ':' ∧ ¬ IsEscaped (before ++ rest) i)
      = separators before := by
    refine List.filter_congr fun i hi => ?_
    have hlt : i < before.length := List.mem_range.mp hi
    simp only [List.getElem?_append_left hlt, isEscaped_append_left rest (Nat.le_of_lt hlt)]
  have hright : (List.range rest.length).filter
      ((fun i => decide ((before ++ rest)[i]? = some ':' ∧ ¬ IsEscaped (before ++ rest) i))
        ∘ (before.length + ·)) = separators rest := by
    refine List.filter_congr fun i _ => ?_
    simp only [Function.comp_apply, isEscaped_append_right hbefore,
      List.getElem?_append_right (Nat.le_add_right _ i), Nat.add_sub_cancel_left]
  rw [separators, List.length_append, List.range_add, List.filter_append, List.filter_map, hleft,
    hright]

theorem length_separators_append (before rest : List Char)
    (hbefore : ¬ IsEscaped before before.length) :
    (separators (before ++ rest)).length
      = (separators before).length + (separators rest).length := by
  rw [separators_append hbefore, List.length_append, List.length_map]

theorem length_consFirst (c : Char) {stretches : List (List Char)} (h : stretches ≠ []) :
    (Text.consFirst c stretches).length = stretches.length := by
  cases stretches with
  | nil => exact absurd rfl h
  | cons first more => rfl

/-- **Each colon that is not escaped opens a field.** -/
theorem length_split (line : List Char) : (split line).length = (separators line).length + 1 := by
  fun_induction split line with
  | case1 => rfl
  | case2 => rfl
  | case3 c rest ih =>
    -- A pair is passed over whatever it escapes.
    have hpair : separators ['\\', c] = [] := by simp [separators, List.range_succ, IsEscaped]
    have hcut := length_separators_append ['\\', c] rest (by simp [IsEscaped])
    rw [length_consFirst c (split_ne_nil rest), ih]
    simpa [hpair] using hcut.symm
  | case4 rest ih =>
    have hcolon : separators [':'] = [0] := by decide
    have hcut := length_separators_append [':'] rest (by simp [IsEscaped])
    rw [List.length_cons, ih]
    simpa [hcolon, Nat.add_comm] using hcut.symm
  | case5 c rest hlast hpair hcolon ih =>
    have hescape : c ≠ '\\' := by
      rintro rfl
      cases rest with
      | nil => exact hlast rfl rfl
      | cons d more => exact hpair d more rfl rfl
    have hplain : separators [c] = [] := by
      simpa [separators, List.range_succ, IsEscaped] using hcolon
    have hcut := length_separators_append [c] rest (by simp [IsEscaped, hescape])
    rw [length_consFirst c (split_ne_nil rest), ih]
    simpa [hplain] using hcut.symm

/-- **Reading is the exact reverse of writing.** Fields that are written in a row are read back, be
there what may in them, as long as there is one at all. Whatever the line, it is read as one field
more than it has colons that are not escaped, and these fields are read again from a row of them. -/
theorem split_decodes :
    (∀ fields : List (List Char), fields ≠ [] → split (row fields) = fields) ∧
    ∀ line : List Char, (split line).length = (separators line).length + 1 ∧
      split (row (split line)) = split line :=
  ⟨fun _ h => split_row h, fun line => ⟨length_split line, split_row (split_ne_nil line)⟩⟩

/-- Empty fields at either end, fields of nothing but what has to be escaped, and a line with two
backslashes before one colon, one before the next and one at its end. -/
theorem split_decodes_dangling :
    let fields := [[], ['\\', ':'], ['\\'], []]
    let line := ['\\', '\\', ':', '\\', ':', 'a', ':', '\\']
    (fields ≠ [] ∧ split (row fields) = fields) ∧
      (split line).length = 3 ∧ split (row (split line)) = split line := by
  intro fields line
  have hfields : fields ≠ [] := by decide
  obtain ⟨hlength, hagain⟩ := split_decodes.2 line
  have hplaces : separators line = [2, 6] := by decide
  rw [hplaces] at hlength
  exact ⟨⟨hfields, split_decodes.1 fields hfields⟩, hlength, hagain⟩

end Wlan.NetworkManager.Terse
