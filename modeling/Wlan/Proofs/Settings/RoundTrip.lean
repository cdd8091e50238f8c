import Mathlib.Algebra.Group.Nat.Defs
import Wlan.Proofs.Toml.Document
import Wlan.Proofs.Toml.Statement
import Wlan.Settings.File

/-!
# Settings survive being saved

What is written can be read, and gives the settings that were written. The way from one to the
other has three stations, each of them a value of the library, and one section here for each step:

* the text, `render`;
* the statements in it, `asStatements`, one for every line that is not empty;
* the table they amount to, `asEntries`, out of which the settings are decoded.

The layout depends on whether there are networks and whether there is a default interface. It is
only the first step that has to know: the statements and the table are lists, in which what is
absent contributes nothing.
-/

set_option autoImplicit false

namespace Wlan.Settings

open Toml

/-! ## What is written -/

def optionalEntries (key : String) : Option String → Entries
  | some s => [(key, .text s)]
  | none => []

def networkEntries (n : SavedNetwork) : Entries :=
  [("ssid", .text n.ssid)] ++ optionalEntries "password" n.password
    ++ [("security", .text n.security.name)] ++ optionalEntries "interface" n.interface

def patienceEntries (p : Patience) : Entries :=
  [("connect_timeout_secs", .integer p.connectSeconds), ("dhcp_timeout_secs", .integer p.leaseSeconds)]

def headEntries (s : Settings) : Entries :=
  (if s.networks.isEmpty then [("networks", .array false [])] else [])
    ++ optionalEntries "default_interface" s.defaultInterface

/-- The statements in the text of the settings. -/
def asStatements (s : Settings) : List Statement :=
  assigned (headEntries s)
    ++ s.networks.flatMap (fun n => .element ⟨[], "networks"⟩ :: assigned (networkEntries n))
    ++ .header ⟨[], "wait"⟩ :: assigned (patienceEntries s.patience)

/-- The table that those statements amount to. -/
def asEntries (s : Settings) : Entries :=
  headEntries s ++ arrayEntry "networks" (s.networks.map networkEntries)
    ++ [("wait", .table .header (patienceEntries s.patience))]

/-! ## From the text to the statements -/

theorem reads_line (key : String) (hkey : IsBareKey key) {text : List Char} {v : Value}
    (hv : Writes text v) {rest : List Char} {ss : List Statement} (h : Reads rest ss) :
    Reads (line key text ++ rest) (assigned [(key, v)] ++ ss) := by
  have h' := reads_assignment hkey hv h
  simpa [line, assigned, assignments] using h'

theorem reads_textLine? (key : String) (hkey : IsBareKey key) (s : Option String)
    {rest : List Char} {ss : List Statement} (h : Reads rest ss) :
    Reads (textLine? key s ++ rest) (assigned (optionalEntries key s) ++ ss) := by
  cases s with
  | none => exact h
  | some s => exact reads_line key hkey (writes_quote s) h

theorem reads_networkText (n : SavedNetwork) {rest : List Char} {ss : List Statement}
    (h : Reads rest ss) :
    Reads (networkText n ++ rest)
      (.element ⟨[], "networks"⟩ :: (assigned (networkEntries n) ++ ss)) := by
  -- From the last line to the first, since a line is read with all that follows it.
  have hinterface := reads_textLine? "interface" (by decide) n.interface (reads_emptyLine h)
  have hsecurity := reads_line "security" (by decide) (writes_quote n.security.name) hinterface
  have hpassword := reads_textLine? "password" (by decide) n.password hsecurity
  have hssid := reads_line "ssid" (by decide) (writes_quote n.ssid) hpassword
  have helement := reads_element (show IsBareKey "networks" by decide) hssid
  have hopen : "[[networks]]\n".toList = ['[', '['] ++ ("networks".toList ++ [']', ']', '\n']) := by
    decide
  unfold networkText
  rw [hopen]
  simpa only [textLine, networkEntries, assigned_append, List.append_assoc] using helement

theorem reads_networks (ns : List SavedNetwork) {rest : List Char} {ss : List Statement}
    (h : Reads rest ss) :
    Reads (ns.flatMap networkText ++ rest)
      (ns.flatMap (fun n => .element ⟨[], "networks"⟩ :: assigned (networkEntries n)) ++ ss) := by
  induction ns with
  | nil => exact h
  | cons n ns ih =>
    rw [List.flatMap_cons, List.flatMap_cons, List.append_assoc, List.append_assoc, List.cons_append]
    exact reads_networkText n ih

theorem isWritable_iff (s : Settings) :
    s.isWritable = true
      ↔ s.patience.connectSeconds ≤ greatest ∧ s.patience.leaseSeconds ≤ greatest := by
  rw [isWritable, Bool.and_eq_true, decide_eq_true_iff, decide_eq_true_iff]

/-- A number is written only if it can be read again. -/
theorem fits_of_le_greatest {n : Nat} (h : n ≤ greatest) : fits n = true := by
  rw [greatest] at h
  simp only [fits, Bool.and_eq_true, decide_eq_true_eq]
  omega

theorem reads_patienceText {s : Settings} (h : s.isWritable = true) :
    Reads (patienceText s.patience)
      (.header ⟨[], "wait"⟩ :: assigned (patienceEntries s.patience)) := by
  obtain ⟨hconnect, hlease⟩ := (isWritable_iff s).mp h
  have hwriteConnect := writes_toDigits (fits_of_le_greatest hconnect)
  have hwriteLease := writes_toDigits (fits_of_le_greatest hlease)
  have hsecond := reads_line "dhcp_timeout_secs" (by decide) hwriteLease reads_nil
  have hfirst := reads_line "connect_timeout_secs" (by decide) hwriteConnect hsecond
  have hheader := reads_header (show IsBareKey "wait" by decide) hfirst
  have hopen : "[wait]\n".toList = ['['] ++ ("wait".toList ++ [']', '\n']) := by decide
  have hentries : patienceEntries s.patience
      = [("connect_timeout_secs", Value.integer s.patience.connectSeconds)]
        ++ [("dhcp_timeout_secs", Value.integer s.patience.leaseSeconds)] := rfl
  unfold patienceText
  rw [hopen, hentries, assigned_append]
  simpa only [Nat.toString_eq_repr, Nat.toList_repr, List.append_assoc, List.append_nil] using hheader

theorem reads_headText (s : Settings) {rest : List Char} {ss : List Statement} (h : Reads rest ss) :
    Reads (headText s ++ rest)
      (assigned (headEntries s)
        ++ (s.networks.flatMap (fun n => .element ⟨[], "networks"⟩ :: assigned (networkEntries n))
        ++ ss)) := by
  unfold headText headEntries
  cases hn : s.networks with
  | nil =>
    have hrest := reads_textLine? "default_interface" (by decide) s.defaultInterface
      (reads_emptyLine h)
    have hline := reads_line "networks" (by decide) writes_emptyArray hrest
    simpa only [List.isEmpty_nil, if_true, List.flatMap_nil, List.nil_append, assigned_append,
      List.append_assoc] using hline
  | cons n ns =>
    -- The empty line after the default interface is there only if the interface is.
    have hnetworks := reads_networks (n :: ns) h
    cases hi : s.defaultInterface with
    | none => exact hnetworks
    | some i =>
      have hline := reads_line "default_interface" (by decide) (writes_quote i)
        (reads_emptyLine hnetworks)
      simpa only [List.isEmpty_cons, textLine?, textLine, optionalEntries, Option.isSome_some, if_true,
        Bool.false_eq_true, if_false, List.nil_append, List.append_assoc] using hline

theorem reads_render {s : Settings} (h : s.isWritable = true) :
    Reads (headText s ++ patienceText s.patience) (asStatements s) := by
  have hread := reads_headText s (reads_patienceText h)
  simpa only [asStatements, List.append_assoc] using hread

/-- What is written does not begin with a byte order mark, since no statement does; so reading
drops nothing. -/
theorem statements_render {s : Settings} (h : s.isWritable = true) :
    Toml.statements s.render = some (asStatements s) := by
  have hread := reads_render h _ (Nat.lt_succ_self _)
  unfold Toml.statements render
  rw [String.toList_ofList]
  split
  · next rest he =>
    rw [he] at hread
    have hnone : readStatements (('\uFEFF' :: rest).length + 1) ('\uFEFF' :: rest) = none := rfl
    rw [hnone] at hread
    cases hread
  · exact hread

/-! ## From the statements to the table -/

theorem nodup_headEntries (s : Settings) : ((headEntries s).map Prod.fst).Nodup := by
  unfold headEntries
  cases s.networks <;> cases s.defaultInterface <;> simp [optionalEntries]

theorem nodup_networkEntries (n : SavedNetwork) : ((networkEntries n).map Prod.fst).Nodup := by
  unfold networkEntries
  cases n.password <;> cases n.interface <;> simp [optionalEntries]

theorem nodup_patienceEntries (p : Patience) : ((patienceEntries p).map Prod.fst).Nodup := by
  simp [patienceEntries]

/-- The section of a network, and below it that of the waits. -/
def networkSection (n : SavedNetwork) : Section :=
  ⟨true, ⟨[], "networks"⟩, assignments (networkEntries n)⟩

def patienceSection (p : Patience) : Section :=
  ⟨false, ⟨[], "wait"⟩, assignments (patienceEntries p)⟩

theorem sections_networks (ns : List SavedNetwork) (ss : List Statement)
    (h : (sections ss).1 = []) :
    sections (ns.flatMap (fun n => .element ⟨[], "networks"⟩ :: assigned (networkEntries n)) ++ ss)
      = ([], ns.map networkSection ++ (sections ss).2) := by
  induction ns with
  | nil => simp [← h]
  | cons n ns ih =>
    rw [List.flatMap_cons, List.append_assoc, List.cons_append, sections, sections_assigned, ih]
    simp [networkSection]

theorem sections_asStatements (s : Settings) :
    sections (asStatements s)
      = (assignments (headEntries s), s.networks.map networkSection ++ [patienceSection s.patience]) := by
  have hwait : sections (.header ⟨[], "wait"⟩ :: assigned (patienceEntries s.patience))
      = ([], [patienceSection s.patience]) := rfl
  rw [asStatements, List.append_assoc, sections_assigned, sections_networks _ _ (by rw [hwait]), hwait]
  simp

/-- An empty list of networks is an entry, and then no network is a table. -/
theorem addNetworks (s : Settings) :
    (s.networks.map networkSection).foldlM Section.addTo (headEntries s)
      = some (headEntries s ++ arrayEntry "networks" (s.networks.map networkEntries)) := by
  cases hn : s.networks with
  | nil => simp [arrayEntry]
  | cons n ns =>
    have hnew : (headEntries s).lookup "networks" = none := by
      rw [headEntries, hn]
      cases s.defaultInterface <;> rfl
    have hnodup : ∀ t ∈ (n :: ns).map networkEntries, (t.map Prod.fst).Nodup := by
      intro t ht
      obtain ⟨m, -, rfl⟩ := List.mem_map.mp ht
      exact nodup_networkEntries m
    have hadd := addAll_elements hnew [] _ hnodup
    rw [List.map_map] at hadd
    have hempty : arrayEntry "networks" [] = [] := rfl
    rw [hempty, List.append_nil, List.nil_append] at hadd
    exact hadd

theorem assemble_asStatements (s : Settings) : assemble (asStatements s) = some (asEntries s) := by
  have hnew : (headEntries s ++ arrayEntry "networks" (s.networks.map networkEntries)).lookup "wait"
      = none := by
    unfold headEntries
    cases s.networks with
    | nil => cases s.defaultInterface <;> rfl
    | cons n ns => cases s.defaultInterface <;> rfl
  have hwait := addTo_table hnew (nodup_patienceEntries s.patience)
  rw [assemble, sections_asStatements]
  simp only [assignAll_assignments (nodup_headEntries s), Option.bind_eq_bind, Option.bind_some,
    List.foldlM_append, addNetworks, List.foldlM_cons, List.foldlM_nil, patienceSection, hwait]
  rfl

/-! ## From the table to the settings -/

theorem network?_networkEntries (n : SavedNetwork) :
    network? (.table .header (networkEntries n)) = some n := by
  obtain ⟨ssid, password, security, interface⟩ := n
  cases password <;> cases interface <;>
    simp [network?, fields, networkEntries, optionalEntries, List.lookup_cons, text?, security?]

theorem patience?_patienceEntries (p : Patience) :
    patience? (some (.table .header (patienceEntries p))) = some p := by
  simp [patience?, fields, patienceEntries, List.lookup_cons, seconds?]

theorem mapM_network? (ns : List SavedNetwork) :
    ((ns.map networkEntries).map (Value.table .header)).mapM network? = some ns := by
  induction ns with
  | nil => rfl
  | cons n ns ih =>
    rw [List.map_cons, List.map_cons, List.mapM_cons, network?_networkEntries, ih]
    rfl

theorem ofEntries?_asEntries (s : Settings) : ofEntries? (asEntries s) = some s := by
  obtain ⟨networks, interface, patience⟩ := s
  have hnetworks : (asEntries ⟨networks, interface, patience⟩).lookup "networks"
      = some (.array (!networks.isEmpty) ((networks.map networkEntries).map (.table .header))) := by
    cases networks <;> cases interface <;>
      simp [asEntries, headEntries, optionalEntries, arrayEntry, List.lookup_cons]
  have hinterface : (asEntries ⟨networks, interface, patience⟩).lookup "default_interface"
      = interface.map .text := by
    cases networks <;> cases interface <;>
      simp [asEntries, headEntries, optionalEntries, arrayEntry, List.lookup_cons]
  have hpatience : (asEntries ⟨networks, interface, patience⟩).lookup "wait"
      = some (.table .header (patienceEntries patience)) := by
    cases networks <;> cases interface <;>
      simp [asEntries, headEntries, optionalEntries, arrayEntry, List.lookup_cons]
  rw [ofEntries?, hnetworks, hinterface, hpatience, patience?_patienceEntries, networks?,
    mapM_network?]
  cases interface <;> rfl

/-- **What is written reads back.** -/
theorem parse?_render {s : Settings} (h : s.isWritable = true) : parse? s.render = some s := by
  rw [parse?, Toml.parse?, statements_render h]
  simp only [Option.bind_eq_bind, Option.bind_some, assemble_asStatements, ofEntries?_asEntries]

/-! ## Through the file -/

theorem fromUTF8?_toUTF8 (text : String) : String.fromUTF8? text.toUTF8 = some text := by
  have hvalid : text.toUTF8.IsValidUTF8 := text.isValidUTF8
  rw [String.fromUTF8?, dif_pos hvalid]
  rfl

/-- An attempt to save: how it went, and what is at the place afterwards. Where it fails nothing
was written. -/
def attempt (place : Place) (s : Settings) (spot : Spot) : Except Failure Unit × Spot :=
  match s.save place spot with
  | .ok after => (.ok (), after)
  | .error f => (.error f, spot)

theorem save_of_isOpen (place : Place) {s : Settings} {spot : Spot} (hopen : spot.isOpen = true)
    (h : s.isWritable = true) : s.save place spot = .ok (.file s.render.toUTF8) := by
  cases spot with
  | vacant => simp [save, render?, h, Spot.writeFault?]
  | file bytes => simp [save, render?, h, Spot.writeFault?]
  | sealed bytes => cases hopen
  | directory => cases hopen
  | blocked => cases hopen

theorem attempt_of_isWritable {place : Place} {s : Settings} {spot : Spot}
    (hopen : spot.isOpen = true) (h : s.isWritable = true) :
    attempt place s spot = (.ok (), .file s.render.toUTF8) := by
  rw [attempt, save_of_isOpen place hopen h]

theorem attempt_of_not_isWritable {place : Place} {s : Settings} {spot : Spot}
    (hopen : spot.isOpen = true) (h : ¬ s.isWritable = true) :
    attempt place s spot = (.error ⟨["Failed to serialize config"], .numberTooLarge⟩, spot) := by
  have hblocked : spot ≠ .blocked := by
    rintro rfl
    cases hopen
  simp [attempt, save, render?, h, hblocked]

theorem load_of_parse? {place : Place} {text : String} {s : Settings} (h : parse? text = some s) :
    load place (.file text.toUTF8) = .ok s := by
  simp only [load, read, fromUTF8?_toUTF8, h]

theorem load_render {place : Place} {s : Settings} (h : s.isWritable = true) :
    load place (.file s.render.toUTF8) = .ok s := load_of_parse? (parse?_render h)

/-- **Saving and loading are inverse.** If a file can be put at the place, then settings whose
waits fit into 64 bits with a sign are saved, and what is loaded is what was saved; all others are
turned away, and the place is left as it was. -/
theorem load_attempt (place : Place) (s : Settings) (spot : Spot) (hopen : spot.isOpen = true) :
    (s.patience.connectSeconds ≤ 2 ^ 63 - 1 ∧ s.patience.leaseSeconds ≤ 2 ^ 63 - 1 →
      ∃ after, attempt place s spot = (.ok (), after) ∧ load place after = .ok s) ∧
    (2 ^ 63 - 1 < s.patience.connectSeconds ∨ 2 ^ 63 - 1 < s.patience.leaseSeconds →
      attempt place s spot
        = (.error ⟨["Failed to serialize config"], .numberTooLarge⟩, spot)) := by
  have hgreatest : 2 ^ 63 - 1 = greatest := rfl
  rw [hgreatest]
  constructor
  · intro hwaits
    have hwritable := (isWritable_iff s).mpr hwaits
    exact ⟨_, attempt_of_isWritable hopen hwritable, load_render hwritable⟩
  · intro hwaits
    refine attempt_of_not_isWritable hopen fun hwritable => ?_
    have hfits := (isWritable_iff s).mp hwritable
    rcases hwaits with hconnect | hlease
    · exact absurd hfits.1 (Nat.not_le_of_lt hconnect)
    · exact absurd hfits.2 (Nat.not_le_of_lt hlease)

/-- Two entries of one name, a password full of quotes, and interfaces that are there but empty. -/
theorem load_attempt_quotes :
    let s : Settings :=
      ⟨[⟨"home", some "\r\x27\x27\x27 \"\"\" \\", .sae, none⟩, ⟨"home", none, .unsecured, some ""⟩], some "",
        ⟨2 ^ 63 - 1, 0⟩⟩
    ∃ after, attempt ⟨"etc", "wlan"⟩ s .vacant = (.ok (), after) ∧ load ⟨"etc", "wlan"⟩ after = .ok s :=
  (load_attempt ⟨"etc", "wlan"⟩ _ .vacant rfl).1
    ⟨Nat.le_refl _, Nat.zero_le _⟩

end Wlan.Settings
