import Mathlib.Data.List.Forall2
import Wlan.Proofs.CommandLine.Work
import Wlan.Proofs.Settings.RoundTrip
import Wlan.Proofs.Text.Lines

/-!
# What is shown of passwords

The settings are shown with a row for each network, and of its password with as many stars as it has
octets, up to twelve. That can be learned of the passwords, and it is all: two settings that differ
in nothing but their passwords are shown alike exactly if the same can be seen of each
(`settingsText_eq_iff`). The text of the two files has no part in it. A password may be quoted in
one style or another, and the one file may be in a form that the other never had, as long as they
load to the same (`showConfig_masks`).
-/

set_option autoImplicit false

namespace Wlan

def SavedNetwork.withoutPassword (n : SavedNetwork) : SavedNetwork := { n with password := none }

def Settings.withoutPasswords (s : Settings) : Settings :=
  { s with networks := s.networks.map SavedNetwork.withoutPassword }

namespace CommandLine

/-! ## One password -/

/-- What can be seen of a password: whether there is one, and its length in octets as far as
twelve. -/
def visible (password : Option String) : Option Nat := password.map fun p => min p.utf8ByteSize 12

/-- The passwords have as many octets, or both have twelve and more. -/
def Indistinct (p p' : String) : Prop :=
  p.utf8ByteSize = p'.utf8ByteSize ∨ 12 ≤ p.utf8ByteSize ∧ 12 ≤ p'.utf8ByteSize

/-- Passwords of which the same can be seen cannot be told apart. -/
theorem visible_eq_iff {password password' : Option String} :
    visible password = visible password' ↔ Option.Rel Indistinct password password' := by
  constructor
  · intro h
    match password, password' with
    | none, none => exact .none
    | none, some p' => cases h
    | some p, none => cases h
    | some p, some p' =>
      have hmin : min p.utf8ByteSize 12 = min p'.utf8ByteSize 12 := Option.some.inj h
      refine .some ?_
      unfold Indistinct
      omega
  · rintro (hindistinct | _)
    · unfold Indistinct at hindistinct
      refine congrArg some ?_
      dsimp only
      omega
    · rfl

/-- How that is written. -/
def stars : Option Nat → List Char
  | none => ['-']
  | some n => List.replicate n '*'

theorem toList_masked (password : Option String) :
    (masked password).toList = stars (visible password) := by
  cases password with
  | none => rfl
  | some p => exact String.toList_ofList

theorem stars_injective : Function.Injective stars := by
  have hdash (n : Nat) : ['-'] ≠ List.replicate n '*' := by
    intro h
    have hmem : '-' ∈ List.replicate n '*' := h ▸ List.mem_singleton_self '-'
    exact absurd (List.eq_of_mem_replicate hmem) (by decide)
  intro shown shown' h
  match shown, shown' with
  | none, none => rfl
  | none, some n => exact absurd h (hdash n)
  | some n, none => exact absurd h.symm (hdash n)
  | some n, some n' =>
    have hlength : (List.replicate n '*').length = (List.replicate n' '*').length :=
      congrArg List.length h
    rw [List.length_replicate, List.length_replicate] at hlength
    rw [hlength]

/-- A password does not end the row that it stands in. -/
theorem newline_notMem_stars (shown : Option Nat) : '\n' ∉ stars shown := by
  cases shown <;> simp [stars]

/-! ## The table of networks -/

/-- The row of a network up to its password. -/
def rowStart (n : SavedNetwork) : String :=
  Text.padRight 24 n.ssid ++ " " ++ Text.padRight 16 n.security.label ++ " "
    ++ Text.padRight 16 (n.interface.getD "-") ++ " "

/-- The rows of these networks, without the heading of the table. -/
def rowsOf (ns : List SavedNetwork) : List Char :=
  ns.flatMap fun n => (rowStart n).toList ++ stars (visible n.password) ++ ['\n']

theorem toList_printed (rows : List String) :
    (Text.printed rows).toList = rows.flatMap fun row => row.toList ++ ['\n'] := by
  unfold Text.printed
  induction rows with
  | nil => simp
  | cons row rows ih => simp [ih]

/-- The heading is the same, whatever networks stand below it. -/
theorem toList_networkTable : ∃ heading : List Char, ∀ ns : List SavedNetwork, ns ≠ [] →
    (networkTable ns).toList = heading ++ rowsOf ns := by
  refine ⟨(Text.printed [Text.padRight 24 "SSID" ++ " " ++ Text.padRight 16 "SECURITY" ++ " "
    ++ Text.padRight 16 "INTERFACE" ++ " " ++ "PASSWORD", Text.rule 68]).toList, fun ns hns => ?_⟩
  have hempty : ¬ ns.isEmpty = true := fun h => hns (List.isEmpty_iff.mp h)
  unfold networkTable
  simp only [if_neg hempty, toList_printed, List.flatMap_cons, List.flatMap_nil, List.append_nil,
    List.flatMap_map, List.append_assoc]
  unfold rowsOf rowStart
  simp only [String.toList_append, toList_masked, List.append_assoc]

theorem rowStart_withoutPassword (n : SavedNetwork) : rowStart n.withoutPassword = rowStart n := rfl

/-- Rows that start alike are alike where the same is seen of the passwords. -/
theorem rowsOf_eq_iff {ns ns' : List SavedNetwork}
    (h : ns.map SavedNetwork.withoutPassword = ns'.map SavedNetwork.withoutPassword) :
    rowsOf ns = rowsOf ns' ↔
      (ns.map fun n => visible n.password) = ns'.map fun n => visible n.password := by
  induction ns generalizing ns' with
  | nil =>
    have hnil : ns' = [] := List.map_eq_nil_iff.mp h.symm
    rw [hnil]
    exact ⟨fun _ => rfl, fun _ => rfl⟩
  | cons n ns ih =>
    cases ns' with
    | nil => cases h
    | cons n' ns' =>
      obtain ⟨hn, hns⟩ := List.cons_eq_cons.mp h
      have hstart : rowStart n = rowStart n' := by
        rw [← rowStart_withoutPassword n, hn, rowStart_withoutPassword]
      have hrow (m : SavedNetwork) (ms : List SavedNetwork) : rowsOf (m :: ms)
          = (rowStart m).toList ++ (stars (visible m.password) ++ '\n' :: rowsOf ms) := by
        simp [rowsOf]
      rw [hrow, hrow, hstart, List.append_right_inj,
        Text.append_cons_eq_iff (newline_notMem_stars _) (newline_notMem_stars _),
        stars_injective.eq_iff, ih hns, List.map_cons, List.map_cons, List.cons_eq_cons]

theorem map_visible_eq {ns ns' : List SavedNetwork}
    (h : List.Forall₂ (fun n n' => Option.Rel Indistinct n.password n'.password) ns ns') :
    (ns.map fun n => visible n.password) = ns'.map fun n => visible n.password := by
  rw [← List.forall₂_eq_eq_eq, List.forall₂_map_left_iff, List.forall₂_map_right_iff]
  exact h.imp fun _ _ => visible_eq_iff.mpr

/-! ## The settings -/

/-- **Settings are shown alike where the same can be seen of their passwords**, and only there. -/
theorem settingsText_eq_iff {s s' : Settings} (h : s.withoutPasswords = s'.withoutPasswords) :
    settingsText s = settingsText s' ↔
      (s.networks.map fun n => visible n.password) = s'.networks.map fun n => visible n.password := by
  obtain ⟨networks, interface, patience⟩ := s
  obtain ⟨networks', interface', patience'⟩ := s'
  obtain ⟨hnetworks, rfl, rfl⟩ := Settings.mk.inj h
  have htable : settingsText ⟨networks, interface, patience⟩
      = settingsText ⟨networks', interface, patience⟩ ↔
        (networkTable networks).toList = (networkTable networks').toList := by
    rw [← String.toList_inj]
    simp only [settingsText, String.toList_append, List.append_right_inj]
  rw [htable, ← rowsOf_eq_iff hnetworks]
  by_cases hempty : networks = []
  · subst hempty
    obtain rfl : networks' = [] := List.map_eq_nil_iff.mp hnetworks.symm
    exact ⟨fun _ => rfl, fun _ => rfl⟩
  · have hempty' : networks' ≠ [] := by
      rintro rfl
      exact hempty (List.map_eq_nil_iff.mp hnetworks)
    obtain ⟨heading, htext⟩ := toList_networkTable
    rw [htext _ hempty, htext _ hempty', List.append_right_inj]

/-! ## The subcommand -/

theorem run_loadSettings {place : Place} {settings : Settings} {s : Shell}
    (hload : Settings.load place s.spot = .ok settings) :
    (loadSettings place).run.run s = (.ok settings, s) := by
  have hrun : (loadSettings place).run.run s
      = (Work.orFail (Settings.load place s.spot)).run.run s := rfl
  rw [hrun, hload]
  rfl

theorem run_showConfig {place : Place} {settings : Settings} {s : Shell}
    (hload : Settings.load place s.spot = .ok settings) :
    (showConfig place).run.run s = (.ok (), { s with
      printed := s.printed ++ ("Config file: " ++ place.path ++ "\n\n")
        ++ settingsText settings }) := by
  let titled : Shell := { s with printed := s.printed ++ ("Config file: " ++ place.path ++ "\n\n") }
  have hloaded : (loadSettings place).run.run titled = (.ok settings, titled) :=
    run_loadSettings hload
  unfold showConfig
  rw [Work.run_bind_of_ok (Work.run_print _ s), Work.run_bind_of_ok hloaded, Work.run_print]

/-- Settings that can be loaded are shown below the place that they were loaded from, and nothing
else comes of it. -/
theorem run_eq_showConfig {place : Place} {w : World} {settings : Settings}
    (hload : Settings.load place w.spot = .ok settings) (clock : Clock) :
    run clock place w .showConfig
      = ⟨.ok (), "Config file: " ++ place.path ++ "\n\n" ++ settingsText settings, [], [], w⟩ := by
  have hwarnings : (settingsFor place w.spot).2 = [] := by
    rw [settingsFor, hload]
  have hrun : (showConfig place).run.run (startShell clock place w) = _ := run_showConfig hload
  rw [run_eq]
  refine (congrArg Ran.of hrun).trans ?_
  simp only [Ran.of, startShell, hwarnings, String.empty_append]
  rfl

/-- **Of a password nobody is shown more than its length, and of a long one not even that.** For two
settings files that load to the same but for the passwords, the same is printed exactly if for each
network either there is no password in both of them, or there is one in both and the lengths in
octets are the same as far as twelve; and both are shown without a failure and without a word in the
log. In particular no two passwords of the same length can be told apart, nor any two of twelve octets
and more. -/
theorem showConfig_masks {place : Place} {w w' : World} {s s' : Settings}
    (hload : Settings.load place w.spot = .ok s) (hload' : Settings.load place w'.spot = .ok s')
    (hsame : s.withoutPasswords = s'.withoutPasswords) (clock : Clock) :
    let ran := run clock place w .showConfig
    let ran' := run clock place w' .showConfig
    ran.exit = .ok () ∧ ran'.exit = .ok () ∧ ran.log = ran'.log ∧ ran.jobLog = ran'.jobLog ∧
    (ran.printed = ran'.printed ↔
      (s.networks.map fun n => visible n.password) = s'.networks.map fun n => visible n.password) ∧
    (List.Forall₂ (fun n n' => Option.Rel Indistinct n.password n'.password) s.networks s'.networks →
      ran.printed = ran'.printed) := by
  intro ran ran'
  have hran : ran = _ := run_eq_showConfig hload clock
  have hran' : ran' = _ := run_eq_showConfig hload' clock
  have hprinted : ran.printed = ran'.printed ↔
      (s.networks.map fun n => visible n.password) = s'.networks.map fun n => visible n.password := by
    rw [← settingsText_eq_iff hsame, hran, hran', ← String.toList_inj, ← String.toList_inj]
    simp only [String.toList_append, List.append_right_inj]
  refine ⟨?_, ?_, ?_, ?_, hprinted, fun hindistinct => hprinted.mpr (map_visible_eq hindistinct)⟩
  · rw [hran]
  · rw [hran']
  · rw [hran, hran']
  · rw [hran, hran']

/-- One file as somebody wrote it, with one password in single quotes and one in escapes, and one as it
is saved. Two of the passwords are longer than twelve octets, and two have six octets each but not as
many characters. -/
theorem showConfig_masks_quotes :
    let place : Place := ⟨"etc", "wlan"⟩
    let text :=
      "[[networks]]\nsecurity = \"sae\"\npassword = \x27correct \"horse\"\x27\nssid = \"home\"\n\n"
        ++ "[[networks]]\nssid = \"cafe\"\npassword = \"\\u00e9t\\u00e9!\"\n"
    let s : Settings :=
      ⟨[⟨"home", some "correct \"horse\"", .sae, none⟩, ⟨"cafe", some "été!", .unsecured, none⟩], none, {}⟩
    let s' : Settings :=
      ⟨[⟨"home", some "battery \x27\x27\x27 staple", .sae, none⟩, ⟨"cafe", some "summer", .unsecured, none⟩],
        none, {}⟩
    let w : World := ⟨⟨none, []⟩, .file text.toUTF8⟩
    let w' : World := ⟨⟨none, []⟩, .file s'.render.toUTF8⟩
    (Settings.load place w.spot = .ok s ∧ Settings.load place w'.spot = .ok s' ∧
      s.withoutPasswords = s'.withoutPasswords) ∧
    (run .instant place w .showConfig).printed = (run .instant place w' .showConfig).printed := by
  intro place text s s' w w'
  have hparse : Settings.parse? text = some s := by decide +kernel
  have hload : Settings.load place w.spot = .ok s := Settings.load_of_parse? hparse
  have hload' : Settings.load place w'.spot = .ok s' := Settings.load_render rfl
  have hsame : s.withoutPasswords = s'.withoutPasswords := rfl
  have hlong : Indistinct "correct \"horse\"" "battery \x27\x27\x27 staple" := Or.inr (by decide)
  have hshort : Indistinct "été!" "summer" := Or.inl (by decide)
  obtain ⟨-, -, -, -, -, hprinted⟩ := showConfig_masks hload hload' hsame .instant
  exact ⟨⟨hload, hload', hsame⟩, hprinted (.cons (.some hlong) (.cons (.some hshort) .nil))⟩

end CommandLine

end Wlan
