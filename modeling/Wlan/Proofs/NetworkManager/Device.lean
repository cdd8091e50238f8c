import Mathlib.Data.List.Forall2
import Wlan.NetworkManager.Device
import Wlan.Proofs.NetworkManager.Terse
import Wlan.Proofs.Text.Lines

/-!
# Which devices a listing shows

The reader of devices parts a row at every colon and undoes no escape. So it gives back the devices
of a listing exactly if there is nothing to undo: if no name, kind or state has a colon or a
backslash in it (`ofListing_rows_iff`).

Of a field that has one it makes something else, with a backslash in it. That is nothing that a
wireless device is called by its kind, and no name that a plain one could be mistaken for. A plain
name is therefore found as it should be whatever else is listed, and only devices that have other
names are missed or mistaken.
-/

set_option autoImplicit false

namespace Wlan.NetworkManager

namespace Terse

/-! ## Parting at every colon -/

/-- There is nothing to escape in a field. -/
def IsPlain (field : List Char) : Prop := ∀ c ∈ field, ¬ IsSpecial c

-- The field is gone through, not the alphabet, of which there may be an enumeration too.
instance (field : List Char) : Decidable (IsPlain field) :=
  List.decidableBAll (fun c => ¬ IsSpecial c) field

/-- What a reader makes of a field that does not know of escapes. -/
structure ReadsAs (field part : List Char) : Prop where
  plain : IsPlain field → part = field
  /-- A field with something to escape becomes another, which cannot be mistaken for a plain one. -/
  escaped : ¬ IsPlain field → part ≠ field ∧ '\\' ∈ part

/-- Who looks for something plain is not misled. -/
theorem ReadsAs.eq_iff {field part plain : List Char} (h : ReadsAs field part)
    (hplain : IsPlain plain) : part = plain ↔ field = plain := by
  by_cases hfield : IsPlain field
  · rw [h.plain hfield]
  · constructor
    · rintro rfl
      exact absurd (Or.inr rfl) (hplain _ (h.escaped hfield).2)
    · rintro rfl
      exact absurd hplain hfield

theorem escape_of_isPlain {field : List Char} (h : IsPlain field) : escape field = field := by
  induction field with
  | nil => rfl
  | cons c rest ih =>
    rw [escape_cons, if_neg (h c List.mem_cons_self), ih fun d hd => h d (List.mem_cons_of_mem _ hd)]

theorem length_le_length_escape (field : List Char) : field.length ≤ (escape field).length := by
  induction field with
  | nil => exact Nat.le_refl _
  | cons c rest ih =>
    rw [escape_cons]
    split
    · simp only [List.length_cons]
      omega
    · exact Nat.succ_le_succ ih

theorem isPlain_of_escape_eq {field : List Char} (h : escape field = field) : IsPlain field := by
  induction field with
  | nil => exact fun c hc => absurd hc List.not_mem_nil
  | cons c rest ih =>
    rw [escape_cons] at h
    split at h
    · have hlength := congrArg List.length h
      have hle := length_le_length_escape rest
      simp only [List.length_cons] at hlength
      omega
    · next hc => exact List.forall_mem_cons.mpr ⟨hc, ih (List.cons.inj h).2⟩

/-- A backslash stands in front of the first character that is escaped, and so before any colon. -/
theorem backslash_mem_of_not_isPlain {field part : List Char} {more : List (List Char)}
    (hfield : ¬ IsPlain field) (hparts : Text.parts ':' (escape field) = part :: more) :
    '\\' ∈ part := by
  induction field generalizing part with
  | nil => exact absurd (fun c hc => absurd hc List.not_mem_nil) hfield
  | cons c rest ih =>
    rw [escape_cons] at hparts
    split at hparts
    · rw [Text.parts, if_neg (by decide)] at hparts
      cases hrest : Text.parts ':' (c :: escape rest) with
      | nil => exact absurd hrest (Text.parts_ne_nil ':' _)
      | cons first others =>
        rw [hrest] at hparts
        rw [← (List.cons.inj hparts).1]
        exact List.mem_cons_self
    · next hc =>
      rw [Text.parts, if_neg fun hcolon => hc (Or.inl hcolon)] at hparts
      have hrest : ¬ IsPlain rest := fun h => hfield (List.forall_mem_cons.mpr ⟨hc, h⟩)
      cases hfirst : Text.parts ':' (escape rest) with
      | nil => exact absurd hfirst (Text.parts_ne_nil ':' _)
      | cons first others =>
        rw [hfirst] at hparts ih
        obtain ⟨rfl, rfl⟩ := List.cons.inj hparts
        exact List.mem_cons_of_mem _ (ih hrest rfl)

/-- The first part of a field that was escaped. Of a plain one there is no other. -/
theorem exists_parts_escape (field : List Char) :
    ∃ part more, Text.parts ':' (escape field) = part :: more ∧ ReadsAs field part ∧
      (IsPlain field → more = []) := by
  by_cases hplain : IsPlain field
  · have hcolon : ':' ∉ field := fun h => hplain ':' h (Or.inl rfl)
    refine ⟨field, [], ?_, ⟨fun _ => rfl, fun h => absurd hplain h⟩, fun _ => rfl⟩
    rw [escape_of_isPlain hplain, Text.parts_of_notMem hcolon]
  · cases hparts : Text.parts ':' (escape field) with
    | nil => exact absurd hparts (Text.parts_ne_nil ':' _)
    | cons part more =>
      have hpart : ':' ∉ part := Text.notMem_of_mem_parts (hparts ▸ List.mem_cons_self)
      refine ⟨part, more, rfl, ⟨fun h => absurd h hplain, fun _ => ⟨?_, ?_⟩⟩,
        fun h => absurd h hplain⟩
      · rintro rfl
        -- Without a colon there is one part only, which is longer than the field.
        have hcolon : ':' ∉ escape part := fun h => (mem_escape h).elim (by decide) hpart
        rw [Text.parts_of_notMem hcolon] at hparts
        exact hplain (isPlain_of_escape_eq (List.cons.inj hparts).1)
      · exact backslash_mem_of_not_isPlain hplain hparts

end Terse

namespace Device

open Terse (IsPlain ReadsAs)

/-! ## Rows of devices -/

def fields (d : Device) : List (List Char) := [d.name.toList, d.kind.toList, d.state.toList]

def row (d : Device) : List Char := Terse.row d.fields

/-- What a row is taken for: each field as far as those before it had nothing to escape. -/
structure IsTakenFor (d taken : Device) : Prop where
  name : ReadsAs d.name.toList taken.name.toList
  kind : IsPlain d.name.toList → ReadsAs d.kind.toList taken.kind.toList
  state : IsPlain d.name.toList → IsPlain d.kind.toList → ReadsAs d.state.toList taken.state.toList

theorem ofRow?_row {d : Device} (hname : d.name ≠ "") :
    ∃ taken, ofRow? d.row = some taken ∧ d.IsTakenFor taken := by
  obtain ⟨name, moreName, hnameParts, hreadName, hmoreName⟩ :=
    Terse.exists_parts_escape d.name.toList
  obtain ⟨kind, moreKind, hkindParts, hreadKind, hmoreKind⟩ :=
    Terse.exists_parts_escape d.kind.toList
  obtain ⟨state, moreState, hstateParts, hreadState, -⟩ := Terse.exists_parts_escape d.state.toList
  have hparts : Text.parts ':' d.row
      = name :: (moreName ++ kind :: (moreKind ++ state :: moreState)) := by
    rw [row, fields, Terse.row_cons _ (by simp), Terse.row_cons _ (by simp), Terse.row_singleton,
      Text.parts_append, Text.parts_append, hnameParts, hkindParts, hstateParts]
    rfl
  have hne : name ≠ [] := by
    rintro rfl
    by_cases hplain : IsPlain d.name.toList
    · exact hname (String.toList_eq_nil_iff.mp (hreadName.plain hplain).symm)
    · exact absurd (hreadName.escaped hplain).2 List.not_mem_nil
  -- The kind and the state are the next two parts, whichever field they come from.
  obtain ⟨second, third, others, hnext, hsecond, hthird⟩ :
      ∃ second third others,
        moreName ++ kind :: (moreKind ++ state :: moreState) = second :: third :: others ∧
          (moreName = [] → second = kind) ∧
          (moreName = [] → moreKind = [] → third = state) := by
    match moreName, moreKind with
    | [], [] => exact ⟨_, _, _, rfl, fun _ => rfl, fun _ _ => rfl⟩
    | [], _ :: _ => exact ⟨_, _, _, rfl, fun _ => rfl, nofun⟩
    | [_], _ => exact ⟨_, _, _, rfl, nofun, nofun⟩
    | _ :: _ :: _, _ => exact ⟨_, _, _, rfl, nofun, nofun⟩
  refine ⟨⟨String.ofList name, String.ofList second, String.ofList third⟩, ?_, ?_⟩
  · rw [ofRow?, hparts, hnext]
    simp only [if_neg hne]
  · constructor
    · simpa using hreadName
    · intro hplain
      simpa [hsecond (hmoreName hplain)] using hreadKind
    · intro hplain hplainKind
      simpa [hthird (hmoreName hplain) (hmoreKind hplainKind)] using hreadState

/-- There is nothing to escape in the fields of a device. -/
def IsPlain (d : Device) : Prop := ∀ f ∈ d.fields, Terse.IsPlain f

theorem isPlain_iff {d : Device} : d.IsPlain ↔
    Terse.IsPlain d.name.toList ∧ Terse.IsPlain d.kind.toList ∧ Terse.IsPlain d.state.toList := by
  simp [IsPlain, fields]

theorem IsTakenFor.eq_of_isPlain {d taken : Device} (h : d.IsTakenFor taken) (hd : d.IsPlain) :
    taken = d := by
  obtain ⟨hname, hkind, hstate⟩ := isPlain_iff.mp hd
  obtain ⟨name, kind, state⟩ := d
  obtain ⟨name', kind', state'⟩ := taken
  have hname' := String.toList_inj.mp (h.name.plain hname)
  have hkind' := String.toList_inj.mp ((h.kind hname).plain hkind)
  have hstate' := String.toList_inj.mp ((h.state hname hkind).plain hstate)
  dsimp only at hname' hkind' hstate'
  rw [hname', hkind', hstate']

theorem isPlain_of_isTakenFor_self {d : Device} (h : d.IsTakenFor d) : d.IsPlain := by
  have hplain {field : List Char} (hfield : ReadsAs field field) : Terse.IsPlain field :=
    Decidable.byContradiction fun hnot => (hfield.escaped hnot).1 rfl
  have hname := hplain h.name
  have hkind := hplain (h.kind hname)
  exact isPlain_iff.mpr ⟨hname, hkind, hplain (h.state hname hkind)⟩

/-! ## Listings -/

section

variable {devices : List Device} {text : String}

theorem forall₂_isTakenFor (hnames : ∀ d ∈ devices, d.name ≠ "")
    (hbreaks : ∀ d ∈ devices, ∀ f ∈ d.fields, '\n' ∉ f ∧ '\r' ∉ f)
    (htext : Text.HasLines (devices.map row) text.toList) :
    List.Forall₂ IsTakenFor devices (ofListing text) := by
  have hmem {c : Char} (hc : ¬ Terse.IsSpecial c) {d : Device} (hd : ∀ f ∈ d.fields, c ∉ f) :
      c ∉ d.row := by
    intro h
    obtain ⟨f, hf, hcf⟩ := Terse.exists_mem_of_mem_row hc h
    exact hd f hf hcf
  have hlines : ∀ l ∈ devices.map row, l ≠ [] ∧ '\n' ∉ l := by
    intro l hl
    obtain ⟨d, hd, rfl⟩ := List.mem_map.mp hl
    exact ⟨Terse.row_ne_nil (by simp [fields]), hmem (by decide) fun f hf => (hbreaks d hd f hf).1⟩
  have hreturn : ∀ l, l ++ ['\r'] ∈ devices.map row → ofRow? l = ofRow? (l ++ ['\r']) := by
    intro l hl
    obtain ⟨d, hd, hrow⟩ := List.mem_map.mp hl
    have hnone : '\r' ∉ d.row := hmem (by decide) fun f hf => (hbreaks d hd f hf).2
    rw [hrow] at hnone
    exact absurd (List.mem_append_right _ List.mem_cons_self) hnone
  rw [ofListing, Text.filterMap_lines htext hlines hreturn, List.filterMap_map]
  clear hlines hreturn htext hbreaks
  induction devices with
  | nil => exact .nil
  | cons d devices ih =>
    obtain ⟨taken, htaken, htakenFor⟩ := ofRow?_row (hnames d List.mem_cons_self)
    rw [List.filterMap_cons, Function.comp_apply, htaken]
    exact .cons htakenFor (ih fun e he => hnames e (List.mem_cons_of_mem _ he))

/-! ## The choice among them -/

theorem IsTakenFor.name_eq_iff {d taken : Device} (h : d.IsTakenFor taken) {name : String}
    (hname : Terse.IsPlain name.toList) : taken.name = name ↔ d.name = name := by
  rw [← String.toList_inj, h.name.eq_iff hname, String.toList_inj]

theorem IsTakenFor.isWireless_eq {d taken : Device} (h : d.IsTakenFor taken)
    (hname : Terse.IsPlain d.name.toList) : taken.isWireless = d.isWireless := by
  have hwifi : taken.kind = "wifi" ↔ d.kind = "wifi" := by
    rw [← String.toList_inj, (h.kind hname).eq_iff (by decide), String.toList_inj]
  rw [Bool.eq_iff_iff, isWireless, isWireless, beq_iff_eq, beq_iff_eq, hwifi]

/-- Two searches that agree at every place find the same place. -/
theorem find?_of_forall₂ {taken : List Device} {R : Device → Device → Prop} {p q : Device → Bool}
    (h : List.Forall₂ R devices taken) (hpq : ∀ d t, R d t → q t = p d) :
    (devices.find? p = none ∧ taken.find? q = none) ∨
      ∃ d t, R d t ∧ devices.find? p = some d ∧ taken.find? q = some t := by
  induction h with
  | nil => exact Or.inl ⟨rfl, rfl⟩
  | @cons d t devices taken hdt _ ih =>
    cases hd : p d with
    | true =>
      have ht : q t = true := (hpq d t hdt).trans hd
      exact Or.inr ⟨d, t, hdt, List.find?_cons_of_pos hd, List.find?_cons_of_pos ht⟩
    | false =>
      have ht : q t = false := (hpq d t hdt).trans hd
      rwa [List.find?_cons_of_neg (by simp [hd]), List.find?_cons_of_neg (by simp [ht])]

/-- A plain name is looked for as if all names were. -/
theorem choose_some_of_forall₂ {taken : List Device} (h : List.Forall₂ IsTakenFor devices taken)
    {name : String} (hname : Terse.IsPlain name.toList) :
    (choose taken (some name)).map Device.name = (choose devices (some name)).map Device.name := by
  have hpq : ∀ d t, IsTakenFor d t → (t.name == name) = (d.name == name) := by
    intro d t hdt
    rw [Bool.eq_iff_iff, beq_iff_eq, beq_iff_eq, hdt.name_eq_iff hname]
  rcases find?_of_forall₂ h hpq with ⟨hd, ht⟩ | ⟨d, t, hdt, hd, ht⟩
  · rw [choose, choose, hd, ht]
  · have hfound := List.find?_some hd
    have hdname : d.name = name := eq_of_beq hfound
    have hplain : Terse.IsPlain d.name.toList := hdname ▸ hname
    have htname : t.name = d.name := (hdt.name_eq_iff hplain).mpr rfl
    simp only [choose, hd, ht, hdt.isWireless_eq hplain]
    split
    · exact congrArg Except.ok htname
    · rfl

/-- The first wireless device is found where all names are plain. -/
theorem choose_none_of_forall₂ {taken : List Device} (h : List.Forall₂ IsTakenFor devices taken)
    (hplain : ∀ d ∈ devices, Terse.IsPlain d.name.toList) :
    (choose taken none).map Device.name = (choose devices none).map Device.name := by
  have hboth := (List.forall₂_and_left devices taken).mpr ⟨hplain, h⟩
  rcases find?_of_forall₂ hboth fun d t hdt => hdt.2.isWireless_eq hdt.1 with
    ⟨hd, ht⟩ | ⟨d, t, hdt, hd, ht⟩
  · rw [choose, choose, hd, ht]
  · have htname : t.name = d.name := (hdt.2.name_eq_iff hdt.1).mpr rfl
    rw [choose, choose, hd, ht]
    exact congrArg Except.ok htname

/-- No name that is read has a colon in it. -/
theorem colon_notMem_name {d : Device} (h : d ∈ ofListing text) : ':' ∉ d.name.toList := by
  obtain ⟨l, -, hl⟩ := List.mem_filterMap.mp h
  unfold ofRow? at hl
  split at hl
  · next name kind state more hparts =>
    split at hl
    · cases hl
    · cases hl
      rw [String.toList_ofList]
      exact Text.notMem_of_mem_parts (hparts ▸ List.mem_cons_self)
  · cases hl

theorem choose_of_colon_mem {name : String} (hname : ':' ∈ name.toList) :
    choose (ofListing text) (some name) = .error (.of (.interfaceNotFound name)) := by
  have hnone : (ofListing text).find? (·.name == name) = none := by
    rw [List.find?_eq_none]
    intro d hd heq
    exact colon_notMem_name hd (eq_of_beq heq ▸ hname)
  rw [choose, hnone]

end

/-- **Devices are read back if there is nothing to escape**, and otherwise not. Among any devices
one that is asked for by a plain name is found as it should be, and so is the first wireless one if
all names are plain; but a name with a colon in it is never found. -/
theorem ofListing_rows_iff (devices : List Device) (text : String)
    (hnames : ∀ d ∈ devices, d.name ≠ "")
    (hbreaks : ∀ d ∈ devices, ∀ f ∈ d.fields, '\n' ∉ f ∧ '\r' ∉ f)
    (htext : Text.HasLines (devices.map row) text.toList) :
    (ofListing text = devices ↔ ∀ d ∈ devices, d.IsPlain) ∧
    (∀ name : String, Terse.IsPlain name.toList →
      (choose (ofListing text) (some name)).map Device.name
        = (choose devices (some name)).map Device.name) ∧
    ((∀ d ∈ devices, Terse.IsPlain d.name.toList) →
      (choose (ofListing text) none).map Device.name
        = (choose devices none).map Device.name) ∧
    ∀ name : String, ':' ∈ name.toList →
      choose (ofListing text) (some name) = .error (.of (.interfaceNotFound name)) := by
  have htaken := forall₂_isTakenFor hnames hbreaks htext
  refine ⟨⟨fun heq => ?_, fun hplain => ?_⟩, fun name => choose_some_of_forall₂ htaken,
    choose_none_of_forall₂ htaken, fun name => choose_of_colon_mem⟩
  · rw [heq, List.forall₂_same] at htaken
    exact fun d hd => isPlain_of_isTakenFor_self (htaken d hd)
  · have hboth := (List.forall₂_and_left devices _).mpr ⟨hplain, htaken⟩
    have hequal : List.Forall₂ (fun d t => t = d) devices (ofListing text) :=
      hboth.imp fun d t hdt => hdt.2.eq_of_isPlain hdt.1
    exact List.forall₂_eq_eq_eq ▸ hequal.flip

/-- A device that goes by its address does not keep another from being found. -/
theorem ofListing_rows_iff_address :
    let devices : List Device :=
      [⟨"00:1A:7D:DA:71:13", "bt", "disconnected"⟩, ⟨"wlan0", "wifi", "connected"⟩]
    let found := ofListing (String.ofList ((devices.map row).flatMap (· ++ ['\n'])))
    found ≠ devices ∧ (choose found (some "wlan0")).map Device.name = .ok "wlan0" := by
  intro devices found
  obtain ⟨hiff, hsome, -, -⟩ := ofListing_rows_iff devices _ (by decide) (by decide)
    (Or.inl String.toList_ofList)
  refine ⟨fun heq => ?_, (hsome "wlan0" (by decide)).trans rfl⟩
  have hplain := isPlain_iff.mp (hiff.mp heq _ List.mem_cons_self)
  exact absurd hplain.1 (by decide)

/-- But it is itself taken for something else, and cannot be found. -/
theorem ofListing_address :
    let d : Device := ⟨"00:1A:7D:DA:71:13", "bt", "disconnected"⟩
    let found := ofListing (String.ofList (d.row ++ ['\n']))
    found = [⟨"00\\", "1A\\", "7D\\"⟩] ∧ found ≠ [d] ∧
      choose found (some d.name) = .error (.of (.interfaceNotFound d.name)) ∧
      choose [d] (some d.name) = .error (.of (.interfaceNotWireless d.name)) := by
  decide +kernel

end Device

end Wlan.NetworkManager
