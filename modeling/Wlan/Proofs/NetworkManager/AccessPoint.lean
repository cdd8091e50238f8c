import Mathlib.Data.List.Forall2
import Wlan.NetworkManager.AccessPoint
import Wlan.Proofs.NetworkManager.Terse
import Wlan.Proofs.Text.Numeral
import Wlan.Proofs.Text.Words

/-!
# What a listing shows

The listing of a scan is written from the columns of its access points, which may hold anything but
line feeds. `ofListing_rows` says that nothing of it is lost on the way back and nothing added:
there is one access point for every row that has a name, with the name as it was, however often the
same name occurs; and the order is that of falling strength, where rows of equal strength keep the
order of the listing.

A carriage return at the end of a row is taken for a part of the line's end. It could only have
belonged to the last column, and there blanks at the end mean nothing.
-/

set_option autoImplicit false

namespace Wlan

/-! ## Blanks at the end of a column -/

theorem Security.ofListing_concat {c : Char} (hc : Text.isBlank c = true) (column : List Char) :
    ofListing (column ++ [c]) = ofListing column := by
  unfold ofListing
  rw [Text.trimmed_concat hc]

namespace NetworkManager.AccessPoint

/-! ## Columns -/

/-- What the tool has to say of an access point. -/
structure Columns where
  ssid : String
  channel : String
  signal : String
  security : String

namespace Columns

def fields (c : Columns) : List (List Char) :=
  [c.ssid.toList, c.channel.toList, c.signal.toList, c.security.toList]

def row (c : Columns) : List Char := Terse.row c.fields

/-- The access point is the one that these columns are about. A channel that is no octet is not
known, and a strength that is none counts as nothing. -/
structure Shows (c : Columns) (a : AccessPoint) : Prop where
  ssid : a.ssid = c.ssid
  channel : ∀ n, a.channel = some n ↔ Text.WritesOctet c.channel.toList n
  signal : Text.WritesOctet c.signal.toList a.signal ∨
    (a.signal = 0 ∧ ∀ n, ¬ Text.WritesOctet c.signal.toList n)
  security : a.security = .ofListing c.security.toList

/-- What is read from the columns, if there is a name among them. -/
def read (c : Columns) : AccessPoint where
  ssid := c.ssid
  channel := Text.readOctet? c.channel.toList
  signal := (Text.readOctet? c.signal.toList).getD 0
  security := .ofListing c.security.toList

theorem shows_read (c : Columns) : c.Shows c.read where
  ssid := rfl
  channel := fun _ => Text.readOctet?_eq_some_iff
  signal := by
    unfold read
    cases hsignal : Text.readOctet? c.signal.toList with
    | none =>
      refine Or.inr ⟨rfl, fun n hn => ?_⟩
      rw [Text.readOctet?_eq_some_iff.mpr hn] at hsignal
      cases hsignal
    | some n => exact Or.inl (Text.readOctet?_eq_some_iff.mp hsignal)
  security := rfl

theorem ofFields?_fields (c : Columns) :
    ofFields? c.fields = if c.ssid = "" then none else some c.read := by
  have hname : c.ssid.toList = [] ↔ c.ssid = "" := String.toList_eq_nil_iff
  simp only [fields, ofFields?, List.intercalate_singleton, String.ofList_toList, hname]
  rfl

theorem ofFields?_split_row (c : Columns) :
    ofFields? (Terse.split c.row) = if c.ssid = "" then none else some c.read := by
  rw [row, Terse.split_row (by simp [fields]), ofFields?_fields]

/-- A carriage return at the end of a row says nothing. -/
theorem ofFields?_split_of_return {c : Columns} {l : List Char} (h : l ++ ['\r'] = c.row) :
    ofFields? (Terse.split l) = ofFields? (Terse.split (l ++ ['\r'])) := by
  obtain ⟨ssid, channel, signal, security⟩ := c
  have hrow (last : List Char) : Terse.row [ssid.toList, channel.toList, signal.toList, last]
      = Terse.row [ssid.toList, channel.toList, signal.toList] ++ ':' :: Terse.escape last := by
    simp [Terse.row, List.intercalate_cons_cons, List.intercalate_singleton]
  rcases List.eq_nil_or_concat security.toList with hnil | ⟨init, last, hconcat⟩
  · have hlast := congrArg List.getLast? h
    simp [row, fields, hnil, hrow, Terse.escape] at hlast
  · rw [List.concat_eq_append] at hconcat
    have hends : Terse.row [ssid.toList, channel.toList, signal.toList, init]
        ++ Terse.escape [last] = l ++ ['\r'] := by
      rw [h, row, fields, hconcat, hrow, hrow, Terse.escape_append, List.append_assoc,
        List.cons_append]
    have hreturn : last = '\r' := by
      have hlast := congrArg List.getLast? hends
      simpa [Terse.getLast?_escape_singleton] using hlast
    subst hreturn
    have hl : l = Terse.row [ssid.toList, channel.toList, signal.toList, init] :=
      (List.append_inj_left' hends rfl).symm
    rw [h, row, fields, hconcat, hl, Terse.split_row (by simp), Terse.split_row (by simp)]
    simp only [ofFields?, List.intercalate_singleton,
      Security.ofListing_concat (show Text.isBlank '\r' = true by decide)]

/-- Rows without a name are left out. -/
theorem filterMap_ofFields? (listed : List Columns) :
    listed.filterMap (fun c => ofFields? (Terse.split c.row))
      = (listed.filter (·.ssid ≠ "")).map read := by
  induction listed with
  | nil => rfl
  | cons c listed ih =>
    rw [List.filterMap_cons, List.filter_cons, ih, ofFields?_split_row]
    by_cases hname : c.ssid = "" <;> simp [hname]

theorem not_mem_row {c : Columns} (h : ∀ f ∈ c.fields, '\n' ∉ f) : '\n' ∉ c.row := by
  intro hmem
  obtain ⟨f, hf, hmem⟩ := Terse.exists_mem_of_mem_row (by decide) hmem
  exact h f hf hmem

end Columns

/-! ## Listings -/

theorem rows_eq {listed : List Columns} {text : String}
    (hfields : ∀ c ∈ listed, ∀ f ∈ c.fields, '\n' ∉ f)
    (htext : Text.HasLines (listed.map Columns.row) text.toList) :
    rows text = (listed.filter (·.ssid ≠ "")).map Columns.read := by
  have hlines : ∀ l ∈ listed.map Columns.row, l ≠ [] ∧ '\n' ∉ l := by
    intro l hl
    obtain ⟨c, hc, rfl⟩ := List.mem_map.mp hl
    exact ⟨Terse.row_ne_nil (by simp [Columns.fields]), Columns.not_mem_row (hfields c hc)⟩
  have hreturn : ∀ l, l ++ ['\r'] ∈ listed.map Columns.row →
      ofFields? (Terse.split l) = ofFields? (Terse.split (l ++ ['\r'])) := by
    intro l hl
    obtain ⟨c, -, hc⟩ := List.mem_map.mp hl
    exact Columns.ofFields?_split_of_return hc.symm
  rw [rows, Text.filterMap_lines htext hlines hreturn, List.filterMap_map]
  exact Columns.filterMap_ofFields? listed

/-- The order of strength, in which nothing is incomparable. -/
theorem atLeast_trans (a b c : AccessPoint) (hab : atLeast a b = true) (hbc : atLeast b c = true) :
    atLeast a c = true := by
  simp only [atLeast, decide_eq_true_eq] at *
  exact UInt8.le_trans hbc hab

theorem atLeast_total (a b : AccessPoint) : (atLeast a b || atLeast b a) = true := by
  simp only [atLeast, Bool.or_eq_true, decide_eq_true_eq]
  exact UInt8.le_total _ _

/-- Sorting leaves those of one strength in their order. -/
theorem filter_signal_mergeSort (found : List AccessPoint) (strength : UInt8) :
    (found.mergeSort atLeast).filter (·.signal = strength)
      = found.filter (·.signal = strength) := by
  have hequal : (found.filter (·.signal = strength)).Pairwise fun a b => atLeast a b = true := by
    refine List.pairwise_of_forall_mem_list fun a ha b hb => ?_
    simp only [List.mem_filter, decide_eq_true_eq] at ha hb
    simp [atLeast, ha.2, hb.2]
  have hsublist := List.sublist_mergeSort atLeast_trans atLeast_total hequal List.filter_sublist
  have hfiltered := hsublist.filter (·.signal = strength)
  rw [List.filter_filter] at hfiltered
  simp only [Bool.and_self] at hfiltered
  refine (hfiltered.eq_of_length ?_).symm
  exact (((List.mergeSort_perm found atLeast).filter _).length_eq).symm

/-- **A listing shows what is in it.** Every access point with a name is found, once for each row
and as its columns say, and none besides; the strongest come first, and those of equal strength
stay in the order of the listing. -/
theorem ofListing_rows (listed : List Columns) (text : String)
    (hfields : ∀ c ∈ listed, ∀ f ∈ c.fields, '\n' ∉ f)
    (htext : Text.HasLines (listed.map Columns.row) text.toList) :
    ∃ shown : List AccessPoint, List.Forall₂ Columns.Shows (listed.filter (·.ssid ≠ "")) shown ∧
      (ofListing text).Perm shown ∧
      (ofListing text).Pairwise (fun a b => b.signal ≤ a.signal) ∧
      ∀ strength, (ofListing text).filter (·.signal = strength)
        = shown.filter (·.signal = strength) := by
  refine ⟨rows text, ?_, List.mergeSort_perm _ _, ?_, filter_signal_mergeSort (rows text)⟩
  · rw [rows_eq hfields htext, List.forall₂_map_right_iff, List.forall₂_same]
    exact fun c _ => c.shows_read
  · have hsorted := List.pairwise_mergeSort atLeast_trans atLeast_total (rows text)
    simp only [atLeast, decide_eq_true_eq] at hsorted
    exact hsorted

/-- A name that is all colons and backslashes and occurs twice, a hidden network between, and a line
that ends in a carriage return. -/
theorem ofListing_rows_escaped :
    let listed : List Columns := [⟨"\\:\\", "6", "40", "WPA2\r"⟩, ⟨"", "1", "90", "WPA3"⟩,
      ⟨"\\:\\", "+11", "300", "a:b"⟩, ⟨"home", "", "40", "--"⟩]
    let found := ofListing (String.ofList ((listed.map Columns.row).flatMap (· ++ ['\n'])))
    found.length = 3 ∧ found.Pairwise (fun a b => b.signal ≤ a.signal) := by
  intro listed found
  obtain ⟨shown, hshown, hperm, hsorted, -⟩ := ofListing_rows listed _ (by decide)
    (Or.inl String.toList_ofList)
  refine ⟨?_, hsorted⟩
  rw [hperm.length_eq, ← hshown.length_eq]
  decide

end NetworkManager.AccessPoint

end Wlan
