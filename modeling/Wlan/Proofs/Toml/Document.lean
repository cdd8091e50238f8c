import Wlan.Toml.Document

/-!
# Documents put together from plain sections

The documents that a program writes are plainer than those that it reads: every key is bare, no
key comes twice in a table, and a section is either a table of the document or the next element of
an array of tables. For such documents putting the statements together is appending.
-/

set_option autoImplicit false

namespace Wlan.Toml

/-! ## Entries as statements -/

/-- Entries as they stand under a header, one assignment each. -/
def assignments (es : Entries) : List (Path × Value) := es.map fun (k, v) => (⟨[], k⟩, v)

def assigned (es : Entries) : List Statement := (assignments es).map fun (p, v) => .assignment p v

theorem assigned_append (es fs : Entries) : assigned (es ++ fs) = assigned es ++ assigned fs := by
  simp [assigned, assignments]

theorem sections_assigned (es : Entries) (ss : List Statement) :
    sections (assigned es ++ ss) = (assignments es ++ (sections ss).1, (sections ss).2) := by
  induction es with
  | nil => rfl
  | cons e es ih =>
    have hcons : assigned (e :: es) ++ ss = .assignment ⟨[], e.1⟩ e.2 :: (assigned es ++ ss) := rfl
    rw [hcons, sections, ih]
    rfl

/-! ## One table -/

theorem Entries.add?_of_lookup {es : Entries} {key : String} (h : es.lookup key = none) (v : Value) :
    es.add? key v = some (es ++ [(key, v)]) := by
  rw [Entries.add?, h]

theorem Entries.lookup_of_notMem {es : Entries} {key : String} (h : key ∉ es.map Prod.fst) :
    es.lookup key = none := by
  rw [List.lookup_eq_none_iff]
  intro e he
  rw [bne_iff_ne]
  rintro rfl
  exact h (List.mem_map_of_mem he)

/-- Assignments to keys that are all different append to what is there. -/
theorem assignAll_append {es fs : Entries} (h : ((es ++ fs).map Prod.fst).Nodup) :
    assignAll es (assignments fs) = some (es ++ fs) := by
  induction fs generalizing es with
  | nil => simp [assignAll, assignments]
  | cons f fs ih =>
    have hsplit : es ++ f :: fs = (es ++ [f]) ++ fs := by simp
    have hnew : es.lookup f.1 = none := by
      refine Entries.lookup_of_notMem fun hmem => ?_
      rw [List.map_append, List.map_cons, List.nodup_append] at h
      exact h.2.2 f.1 hmem f.1 List.mem_cons_self rfl
    rw [hsplit] at h ⊢
    rw [← ih h]
    have hassign : assign es ⟨[], f.1⟩ f.2 = some (es ++ [f]) := Entries.add?_of_lookup hnew f.2
    simp only [assignAll, assignments, List.map_cons, List.foldlM_cons, hassign, Option.bind_eq_bind,
      Option.bind_some]

theorem assignAll_assignments {es : Entries} (h : (es.map Prod.fst).Nodup) :
    assignAll [] (assignments es) = some es :=
  assignAll_append h

/-! ## Sections in their places -/

/-- A key that is new comes last. -/
theorem Entries.set_of_lookup {es : Entries} {key : String} (h : es.lookup key = none) (v : Value) :
    es.set key v = es ++ [(key, v)] := by
  rw [Entries.set, h]

/-- A key that came last gets its new value where it is. -/
theorem Entries.set_append_singleton {es : Entries} {key : String} (h : es.lookup key = none)
    (old v : Value) : (es ++ [(key, old)]).set key v = es ++ [(key, v)] := by
  have hlast : (es ++ [(key, old)]).lookup key = some old := by
    simp [List.lookup_append, h]
  have hothers : es.map (fun e => (e.1, if e.1 == key then v else e.2)) = es.map id := by
    refine List.map_congr_left fun e he => ?_
    have hne : (key != e.1) = true := List.lookup_eq_none_iff.mp h e he
    rw [bne_iff_ne] at hne
    simp [Ne.symm hne]
  rw [List.map_id] at hothers
  rw [Entries.set, hlast]
  simpa using hothers

theorem addTo_table {es fs : Entries} {key : String} (h : es.lookup key = none)
    (hnodup : (fs.map Prod.fst).Nodup) :
    Section.addTo es ⟨false, ⟨[], key⟩, assignments fs⟩ = some (es ++ [(key, .table .header fs)]) := by
  simp [Section.addTo, place, h, Section.over, assignAll_assignments hnodup, Entries.set_of_lookup h]

/-- The entry for an array of tables, which is not there as long as it has no elements. -/
def arrayEntry (key : String) (tables : List Entries) : Entries :=
  if tables.isEmpty then [] else [(key, .array true (tables.map (.table .header)))]

theorem addTo_element {es fs : Entries} {key : String} (h : es.lookup key = none)
    (tables : List Entries) (hnodup : (fs.map Prod.fst).Nodup) :
    Section.addTo (es ++ arrayEntry key tables) ⟨true, ⟨[], key⟩, assignments fs⟩
      = some (es ++ arrayEntry key (tables ++ [fs])) := by
  cases tables with
  | nil =>
    simp [arrayEntry, Section.addTo, place, h, Section.over, assignAll_assignments hnodup,
      Entries.set_of_lookup h]
  | cons t ts =>
    have hlast (v : Value) : (es ++ [(key, v)]).lookup key = some v := by
      simp [List.lookup_append, h]
    simp [arrayEntry, Section.addTo, place, hlast, Section.over, assignAll_assignments hnodup,
      Entries.set_append_singleton h]

/-- All the elements of an array of tables, one section each. -/
theorem addAll_elements {es : Entries} {key : String} (h : es.lookup key = none)
    (before tables : List Entries)
    (hnodup : ∀ t ∈ tables, (t.map Prod.fst).Nodup) :
    (tables.map fun t => (⟨true, ⟨[], key⟩, assignments t⟩ : Section)).foldlM Section.addTo
        (es ++ arrayEntry key before)
      = some (es ++ arrayEntry key (before ++ tables)) := by
  induction tables generalizing before with
  | nil => simp
  | cons t ts ih =>
    rw [List.map_cons, List.foldlM_cons, addTo_element h before (hnodup t List.mem_cons_self)]
    simpa using ih (before ++ [t]) fun u hu => hnodup u (List.mem_cons_of_mem _ hu)

end Wlan.Toml
