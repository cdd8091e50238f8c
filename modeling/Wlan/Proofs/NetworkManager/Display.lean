import Mathlib.Data.List.Forall2
import Wlan.NetworkManager.AccessPoint
import Wlan.Proofs.Json

/-!
# What is shown of access points

Each of the two ways to print access points shows every one of them, in the given order, and
nothing else. In a table there is one row for each under a fixed heading (`isTable_table`), in JSON
one record for each (`isList_json`). What a row and a record have to hold of an access point is said
here without the functions that print them: a row has five cells, and a record has four fields, the
name among them in quotes that any reader of JSON undoes.

A row may cut a long name, so that two networks can have the same row. A record never does.
-/

set_option autoImplicit false

namespace Wlan

/-! ## Kinds of security -/

/-- What a person may type for this kind; the unknown kind, which nobody can ask for, goes by that
name. -/
def Security.IsMeantBy (s : Security) (text : String) : Prop :=
  parse text = if s = unknown then .error ⟨"unknown"⟩ else .ok s

theorem Security.isMeantBy_label (s : Security) : s.IsMeantBy s.label := by
  cases s <;> rfl

theorem Security.isMeantBy_name (s : Security) : s.IsMeantBy s.name := by
  cases s <;> rfl

/-! ## Cells -/

namespace Text

/-- A cell of this width, with the text at its left end and blanks after it. -/
structure IsLeftIn (width : Nat) (text cell : String) : Prop where
  length : cell.length = width
  blanks : ∃ blanks, cell = text ++ blanks ∧ ∀ c ∈ blanks.toList, c = ' '

/-- A cell of this width, with the text at its right end and blanks before it. -/
structure IsRightIn (width : Nat) (text cell : String) : Prop where
  length : cell.length = width
  blanks : ∃ blanks, cell = blanks ++ text ∧ ∀ c ∈ blanks.toList, c = ' '

variable {width : Nat} {text : String}

theorem isLeftIn_padRight (h : text.length ≤ width) :
    IsLeftIn width text (padRight width text) where
  length := by
    rw [padRight, String.length_append, String.length_ofList, List.length_replicate]
    omega
  blanks := ⟨_, rfl, fun c hc => List.eq_of_mem_replicate (String.toList_ofList ▸ hc)⟩

theorem isRightIn_padLeft (h : text.length ≤ width) :
    IsRightIn width text (padLeft width text) where
  length := by
    rw [padLeft, String.length_append, String.length_ofList, List.length_replicate]
    omega
  blanks := ⟨_, rfl, fun c hc => List.eq_of_mem_replicate (String.toList_ofList ▸ hc)⟩

/-- An octet has at most three digits. -/
theorem length_toString_octet (n : UInt8) : (toString n.toNat).length ≤ 3 := by
  have hdigits : (Nat.toDigits 10 n.toNat).length ≤ 3 :=
    (Nat.length_toDigits_le_iff (by decide) (by decide)).mpr (Nat.lt_trans n.toNat_lt (by decide))
  have hlength : (toString n.toNat).length = (Nat.toDigits 10 n.toNat).length :=
    String.length_ofList
  rw [hlength]
  exact hdigits

end Text

namespace NetworkManager.AccessPoint

/-! ## Rows -/

/-- The channel of an access point, or what stands for one that is not known. -/
def channelText (unknown : String) (a : AccessPoint) : String :=
  match a.channel with
  | some n => toString n.toNat
  | none => unknown

/-- A name where there is room for so many characters: all of it, or its beginning and three
points. -/
inductive IsCutTo (width : Nat) (name : String) : (text : String) → Prop
  | whole (hfits : name.length ≤ width) : IsCutTo width name name
  | cut {kept rest : String} (hname : name = kept ++ rest) (hlong : width < name.length)
    (hkept : (kept ++ "...").length = width) : IsCutTo width name (kept ++ "...")

/-- So many blocks are filled: one for every twenty per cent, but none where it says more than
all. -/
def filled (signal : UInt8) : Nat :=
  if signal.toNat ≤ 100 then min 4 (signal.toNat / 20) else 0

/-- The cells of a row, from left to right. -/
structure Cells where
  name : String
  channel : String
  signal : String
  blocks : String
  security : String

namespace Cells

def row (c : Cells) : String :=
  c.name ++ " " ++ c.channel ++ " " ++ c.signal ++ "% " ++ c.blocks ++ " " ++ c.security

/-- The cells are about this access point. -/
structure Shows (c : Cells) (a : AccessPoint) : Prop where
  name : ∃ text, IsCutTo 32 a.ssid text ∧ Text.IsLeftIn 32 text c.name
  channel : Text.IsRightIn 4 (channelText "-" a) c.channel
  signal : Text.IsRightIn 5 (toString a.signal.toNat) c.signal
  blocks : c.blocks.toList
    = List.replicate (filled a.signal) '█' ++ List.replicate (4 - filled a.signal) '░'
  security : a.security.IsMeantBy c.security

end Cells

theorem isCutTo_shortened {width : Nat} (hwidth : 3 ≤ width) (name : String) :
    IsCutTo width name (shortened width name) := by
  unfold shortened
  split
  · next hlong =>
    have hname : name = String.ofList (name.toList.take (width - 3))
        ++ String.ofList (name.toList.drop (width - 3)) := by
      rw [← String.ofList_append, List.take_append_drop, String.ofList_toList]
    refine .cut hname hlong ?_
    have hpoints : "...".length = 3 := rfl
    rw [String.length_append, String.length_ofList, List.length_take, hpoints,
      String.length_toList]
    omega
  · next hfits => exact .whole (Nat.not_lt.mp hfits)

theorem IsCutTo.length_le {width : Nat} {name text : String} (h : IsCutTo width name text) :
    text.length ≤ width := by
  cases h with
  | whole hfits => exact hfits
  | cut hname hlong hkept => exact Nat.le_of_eq hkept

theorem length_channelText_le (a : AccessPoint) : (channelText "-" a).length ≤ 4 := by
  unfold channelText
  split
  · next n _ => exact Nat.le_succ_of_le (Text.length_toString_octet n)
  · decide

theorem filled_eq {signal : UInt8} {n : Nat} (hfull : signal.toNat ≤ 100)
    (h : min 4 (signal.toNat / 20) = n) : filled signal = n := (if_pos hfull).trans h

theorem toList_bars (signal : UInt8) : (bars signal).toList
    = List.replicate (filled signal) '█' ++ List.replicate (4 - filled signal) '░' := by
  unfold bars
  simp only [UInt8.le_iff_toNat_le, UInt8.reduceToNat]
  split
  · rw [filled_eq (n := 4) (by omega) (by omega)]
    rfl
  split
  · rw [filled_eq (n := 3) (by omega) (by omega)]
    rfl
  split
  · rw [filled_eq (n := 2) (by omega) (by omega)]
    rfl
  split
  · rw [filled_eq (n := 1) (by omega) (by omega)]
    rfl
  · have hnone : filled signal = 0 := by
      unfold filled
      split
      · omega
      · rfl
    rw [hnone]
    rfl

/-- The cells that a row is printed from. -/
def cells (a : AccessPoint) : Cells where
  name := Text.padRight 32 (shortened 32 a.ssid)
  channel := Text.padLeft 4 (channelText "-" a)
  signal := Text.padLeft 5 (toString a.signal.toNat)
  blocks := bars a.signal
  security := a.security.label

theorem row_cells (a : AccessPoint) : a.cells.row = tableRow a := rfl

theorem shows_cells (a : AccessPoint) : a.cells.Shows a where
  name :=
    have hcut := isCutTo_shortened (by decide) a.ssid
    ⟨_, hcut, Text.isLeftIn_padRight hcut.length_le⟩
  channel := Text.isRightIn_padLeft a.length_channelText_le
  signal := Text.isRightIn_padLeft (Nat.le_trans (Text.length_toString_octet a.signal) (by decide))
  blocks := toList_bars a.signal
  security := a.security.isMeantBy_label

/-! ## Tables -/

/-- A table of these access points: one row for each of them, under a heading and a line. -/
inductive IsTable : List AccessPoint → String → Prop
  | empty : IsTable [] "No networks found.\n"
  | rows {found : List AccessPoint} {shown : List Cells} (hne : found ≠ [])
    (hshown : List.Forall₂ Cells.Shows shown found) :
    IsTable found ("SSID                             CHAN SIGNAL SECURITY\n"
      ++ "------------------------------------------------------------\n"
      ++ String.join (shown.map fun c => c.row ++ "\n"))

theorem forall₂_cells (found : List AccessPoint) :
    List.Forall₂ Cells.Shows (found.map cells) found := by
  rw [List.forall₂_map_left_iff]
  exact List.forall₂_same.mpr fun a _ => shows_cells a

/-- **A table shows the access points that it is made of.** -/
theorem isTable_table (found : List AccessPoint) : IsTable found (table found) := by
  cases found with
  | nil => exact .empty
  | cons a rest =>
    have htable : table (a :: rest) = String.join
        (("SSID                             CHAN SIGNAL SECURITY"
            :: "------------------------------------------------------------"
            :: ((a :: rest).map cells).map Cells.row).map fun row => row ++ "\n") := by
      simp only [List.map_map, Function.comp_def, row_cells]
      rfl
    rw [htable, List.map_cons, List.map_cons, String.join_cons, String.join_cons,
      ← String.append_assoc, List.map_map]
    exact .rows (List.cons_ne_nil a rest) (forall₂_cells (a :: rest))

/-! ## Records -/

/-- A record of this access point, with its four fields in this order. -/
inductive IsRecord (a : AccessPoint) : (text : String) → Prop
  | fields {name security kind : String} (hname : Json.IsQuoted a.ssid name)
    (hsecurity : Json.IsQuoted kind security) (hkind : a.security.IsMeantBy kind)
    (hsaved : Security.ofName? kind = some a.security) :
    IsRecord a ("  \x7b\n" ++ "    \"ssid\": " ++ name ++ ",\n"
      ++ "    \"channel\": " ++ channelText "null" a ++ ",\n"
      ++ "    \"signal\": " ++ toString a.signal.toNat ++ ",\n"
      ++ "    \"security\": " ++ security ++ "\n" ++ "  \x7d")

/-- A JSON text that lists these access points: one record for each of them. -/
inductive IsList : List AccessPoint → String → Prop
  | empty : IsList [] "[]"
  | records {found : List AccessPoint} {shown : List String} (hne : found ≠ [])
    (hshown : List.Forall₂ IsRecord found shown) :
    IsList found ("[\n" ++ ",\n".intercalate shown ++ "\n]")

theorem render_channel (a : AccessPoint) :
    (match a.channel with | some c => Json.Scalar.number c.toNat | none => .null).render
      = channelText "null" a := by
  unfold channelText
  cases a.channel <;> rfl

theorem isRecord_record (a : AccessPoint) :
    IsRecord a ("  " ++ Json.renderRecord "  " a.record) := by
  have hopen (rest : String) : "  " ++ ("\x7b\n" ++ rest) = "  \x7b\n" ++ rest := by
    rw [← String.append_assoc]
    rfl
  have hrecord : "  " ++ Json.renderRecord "  " a.record = "  \x7b\n"
      ++ ("  " ++ "  " ++ Json.quoted "ssid" ++ ": ") ++ Json.quoted a.ssid ++ ",\n"
      ++ ("  " ++ "  " ++ Json.quoted "channel" ++ ": ") ++ channelText "null" a ++ ",\n"
      ++ ("  " ++ "  " ++ Json.quoted "signal" ++ ": ") ++ toString a.signal.toNat ++ ",\n"
      ++ ("  " ++ "  " ++ Json.quoted "security" ++ ": ") ++ Json.quoted a.security.name ++ "\n"
      ++ "  \x7d" := by
    rw [← render_channel]
    simp only [Json.renderRecord, record, List.isEmpty_cons, List.map_cons, List.map_nil,
      String.intercalate_cons_cons, String.intercalate_singleton, Bool.false_eq_true, reduceIte,
      String.append_assoc, hopen]
    rfl
  rw [hrecord]
  -- The names of the fields need no escapes.
  exact .fields (Json.isQuoted_quoted a.ssid) (Json.isQuoted_quoted a.security.name)
    a.security.isMeantBy_name (Security.ofName?_name a.security)

/-- **A JSON text lists the access points that it is made of.** -/
theorem isList_json (found : List AccessPoint) : IsList found (json found) := by
  cases found with
  | nil => exact .empty
  | cons a rest =>
    have hjson : json (a :: rest) = "[\n" ++ ",\n".intercalate
        ((a :: rest).map fun a => "  " ++ Json.renderRecord "  " a.record) ++ "\n]" := by
      rw [json, Json.renderList, List.map_map]
      rfl
    rw [hjson]
    refine .records (List.cons_ne_nil a rest) ?_
    rw [List.forall₂_map_right_iff]
    exact List.forall₂_same.mpr fun a _ => isRecord_record a

end NetworkManager.AccessPoint

end Wlan
