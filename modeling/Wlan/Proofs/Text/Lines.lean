import Wlan.Text.Lines

/-!
# Texts made of lines, and of parts

A text is made of lines by ending each of them with a line feed, or by putting line feeds between
them. Reading its lines gives back what it was made of, but for a carriage return at the end of a
line, which goes with the line feed. `filterMap_lines` says so to a reader of lines to whom that
makes no difference.

Of parts with separators between them there is no such exception (`parts_append`,
`intercalate_parts`).
-/

set_option autoImplicit false

namespace Wlan.Text

/-- A line without the carriage return at its end. -/
def withoutReturn : List Char → List Char
  | [] => []
  | ['\r'] => []
  | c :: rest => c :: withoutReturn rest

theorem withoutReturn_or (l : List Char) : withoutReturn l = l ∨ withoutReturn l ++ ['\r'] = l := by
  fun_induction withoutReturn l with
  | case1 => exact Or.inl rfl
  | case2 => exact Or.inr rfl
  | case3 c rest hlast ih =>
    rcases ih with h | h
    · exact Or.inl (congrArg (c :: ·) h)
    · exact Or.inr (congrArg (c :: ·) h)

/-- What is no line feed, and no carriage return before one, belongs to the first line. -/
theorem lines_cons {c : Char} {rest : List Char} (hc : c ≠ '\n')
    (hreturn : c = '\r' → rest.head? ≠ some '\n') :
    lines (c :: rest) = consFirst c (lines rest) := by
  rw [lines]
  · exact hc
  · rintro more rfl rfl
    exact hreturn rfl rfl

theorem lines_append {l : List Char} (hl : '\n' ∉ l) (rest : List Char) :
    lines (l ++ '\n' :: rest) = withoutReturn l :: lines rest := by
  fun_induction withoutReturn l with
  | case1 => rfl
  | case2 => rfl
  | case3 c more hlast ih =>
    rw [List.mem_cons, not_or] at hl
    rw [List.cons_append, lines_cons (Ne.symm hl.1), ih hl.2]
    · rfl
    · rintro rfl hhead
      cases more with
      | nil => exact hlast rfl rfl
      | cons d more =>
        have hd : d = '\n' := Option.some.inj hhead
        exact hl.2 (hd ▸ List.mem_cons_self)

/-- The last line may go without a line feed; then it is kept as it stands. -/
theorem lines_of_notMem {l : List Char} (hl : '\n' ∉ l) (hne : l ≠ []) : lines l = [l] := by
  induction l with
  | nil => exact absurd rfl hne
  | cons c rest ih =>
    rw [List.mem_cons, not_or] at hl
    rw [lines_cons (Ne.symm hl.1)]
    · cases rest with
      | nil => rfl
      | cons d more => rw [ih hl.2 (List.cons_ne_nil d more)]; rfl
    · rintro - hhead
      exact hl.2 (List.mem_of_mem_head? hhead)

/-- The text is made of these lines. -/
def HasLines (ls : List (List Char)) (text : List Char) : Prop :=
  text = ls.flatMap (· ++ ['\n']) ∨ text = ['\n'].intercalate ls

/-- What stands between parts ends all of them but the last. -/
theorem intercalate_concat (sep : List Char) (init : List (List Char)) (last : List Char) :
    sep.intercalate (init ++ [last]) = init.flatMap (· ++ sep) ++ last := by
  induction init with
  | nil => exact List.intercalate_singleton
  | cons l init ih =>
    cases init with
    | nil => simp [List.intercalate_cons_cons]
    | cons m init =>
      rw [List.cons_append, List.cons_append, List.intercalate_cons_cons, ← List.cons_append, ih]
      simp

section

variable {α : Type} {read : List Char → Option α} {ls : List (List Char)}

theorem filterMap_lines_append (hls : ∀ l ∈ ls, '\n' ∉ l)
    (hread : ∀ l, l ++ ['\r'] ∈ ls → read l = read (l ++ ['\r'])) (rest : List Char) :
    (lines (ls.flatMap (· ++ ['\n']) ++ rest)).filterMap read
      = ls.filterMap read ++ (lines rest).filterMap read := by
  induction ls with
  | nil => rfl
  | cons l ls ih =>
    have hmore := ih (fun m hm => hls m (List.mem_cons_of_mem _ hm))
      (fun m hm => hread m (List.mem_cons_of_mem _ hm))
    have hfirst : read (withoutReturn l) = read l := by
      rcases withoutReturn_or l with h | h
      · rw [h]
      · have hread' := hread (withoutReturn l) (List.mem_cons.mpr (Or.inl h))
        rwa [h] at hread'
    rw [List.flatMap_cons, List.append_assoc, List.append_assoc, List.singleton_append,
      lines_append (hls l List.mem_cons_self), List.filterMap_cons, List.filterMap_cons, hfirst,
      hmore]
    cases read l <;> rfl

/-- **Lines are read as they were written.** -/
theorem filterMap_lines {text : List Char} (htext : HasLines ls text)
    (hls : ∀ l ∈ ls, l ≠ [] ∧ '\n' ∉ l)
    (hread : ∀ l, l ++ ['\r'] ∈ ls → read l = read (l ++ ['\r'])) :
    (lines text).filterMap read = ls.filterMap read := by
  rcases htext with rfl | rfl
  · have hall := filterMap_lines_append (fun l hl => (hls l hl).2) hread []
    simpa using hall
  · rcases List.eq_nil_or_concat ls with rfl | ⟨init, last, rfl⟩
    · rfl
    · rw [List.concat_eq_append] at hls hread ⊢
      obtain ⟨hne, hlast⟩ := hls last (List.mem_append_right _ List.mem_cons_self)
      have hinit := filterMap_lines_append
        (fun l hl => (hls l (List.mem_append_left _ hl)).2)
        (fun l hl => hread l (List.mem_append_left _ hl)) last
      rw [intercalate_concat, hinit, lines_of_notMem hlast hne, List.filterMap_append]

end

/-! ## What stands before a separator -/

/-- A text is split at its first separator. -/
theorem splitOnce_eq (sep : Char) (cs : List Char) :
    splitOnce sep cs =
      if sep ∈ cs then some (cs.takeWhile (· ≠ sep), (cs.dropWhile (· ≠ sep)).tail) else none := by
  induction cs with
  | nil => rfl
  | cons c rest ih =>
    rw [splitOnce, ih]
    by_cases hc : c = sep
    · subst hc
      simp
    · by_cases hrest : sep ∈ rest
      · simp [hc, hrest]
      · simp [hc, hrest, Ne.symm hc]

/-! ## Parts -/

theorem notMem_of_mem_parts {sep : Char} {part cs : List Char} (h : part ∈ parts sep cs) :
    sep ∉ part := by
  induction cs generalizing part with
  | nil =>
    rw [List.mem_singleton.mp h]
    exact List.not_mem_nil
  | cons c rest ih =>
    rw [parts] at h
    split at h
    · rcases List.mem_cons.mp h with rfl | h
      · exact List.not_mem_nil
      · exact ih h
    · next hc =>
      cases hrest : parts sep rest with
      | nil => exact absurd hrest (parts_ne_nil sep rest)
      | cons first more =>
        rw [hrest] at h ih
        rcases List.mem_cons.mp h with rfl | h
        · rw [List.mem_cons, not_or]
          exact ⟨fun heq => hc heq.symm, ih List.mem_cons_self⟩
        · exact ih (List.mem_cons_of_mem _ h)

theorem parts_of_notMem {sep : Char} {cs : List Char} (h : sep ∉ cs) : parts sep cs = [cs] := by
  induction cs with
  | nil => rfl
  | cons c rest ih =>
    rw [List.mem_cons, not_or] at h
    rw [parts, if_neg (Ne.symm h.1), ih h.2]
    rfl

theorem parts_append (sep : Char) (before rest : List Char) :
    parts sep (before ++ sep :: rest) = parts sep before ++ parts sep rest := by
  induction before with
  | nil => simp [parts]
  | cons c before ih =>
    rw [List.cons_append, parts, parts, ih]
    split
    · rfl
    · cases hbefore : parts sep before with
      | nil => exact absurd hbefore (parts_ne_nil sep before)
      | cons first more => rfl

/-- What stands before a separator can be told from what stands after it. -/
theorem append_cons_eq_iff {sep : Char} {before before' rest rest' : List Char}
    (h : sep ∉ before) (h' : sep ∉ before') :
    before ++ sep :: rest = before' ++ sep :: rest' ↔ before = before' ∧ rest = rest' := by
  constructor
  · intro heq
    have hparts := congrArg (parts sep) heq
    rw [parts_append, parts_append, parts_of_notMem h, parts_of_notMem h'] at hparts
    obtain rfl : before = before' := (List.cons.inj hparts).1
    exact ⟨rfl, (List.cons.inj (List.append_cancel_left heq)).2⟩
  · rintro ⟨rfl, rfl⟩
    rfl

theorem intercalate_consFirst (sep : List Char) (c : Char) {stretches : List (List Char)}
    (h : stretches ≠ []) :
    sep.intercalate (consFirst c stretches) = c :: sep.intercalate stretches := by
  match stretches, h with
  | [first], _ => simp [consFirst]
  | first :: second :: more, _ => simp [consFirst, List.intercalate_cons_cons]

/-- The parts with the separators between them are the text. -/
theorem intercalate_parts (sep : Char) (cs : List Char) :
    [sep].intercalate (parts sep cs) = cs := by
  induction cs with
  | nil => rfl
  | cons c rest ih =>
    rw [parts]
    split
    · next hc =>
      obtain ⟨first, more, hparts⟩ := List.exists_cons_of_ne_nil (parts_ne_nil sep rest)
      rw [hparts] at ih
      rw [hparts, List.intercalate_cons_cons, ih, hc, List.nil_append, List.singleton_append]
    · rw [intercalate_consFirst _ c (parts_ne_nil sep rest), ih]

end Wlan.Text
