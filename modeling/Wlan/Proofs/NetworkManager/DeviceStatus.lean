import Mathlib.Tactic.SplitIfs
import Wlan.NetworkManager.DeviceStatus
import Wlan.Proofs.Text.Lines

/-!
# What a device status is read from

A status is gathered line by line, and each line may overwrite what earlier ones have said. So of
all that is said about an entry the last counts, if it says anything at all (`field_foldl`). A line
speaks of one entry only, which is why the lines of one key can be read as if there were no others:
what they are mixed with, and how, makes no difference (`ofLines_readsLast`).

The four entries differ in one point. A placeholder is no connection, no address and no gateway, but
it is a state.
-/

set_option autoImplicit false

namespace Wlan.NetworkManager

/-! ## Lines of a key -/

/-- What stands before the first colon of a line. -/
def keyOf (line : List Char) : String := String.ofList (line.takeWhile (· ≠ ':'))

/-- What stands after it, with any further colons. -/
def valueOf (line : List Char) : String := String.ofList (line.dropWhile (· ≠ ':')).tail

/-- The lines of the text with this key. A line without a colon has none. -/
def linesOf (key text : String) : List (List Char) :=
  (Text.lines text.toList).filter fun line => ':' ∈ line ∧ keyOf line = key

/-- The values that the text gives to this key, in their order. -/
def valuesOf (key text : String) : List String := (linesOf key text).map valueOf

/-- The last of the values that says anything. -/
def lastUsable (values : List String) : Option String :=
  (values.filter fun value => value ≠ "" ∧ value ≠ "--").getLast?

/-! ## Entries -/

/-- What a status tells of a device. -/
inductive Entry
  | state
  | connection
  | address
  | gateway

namespace Entry

def key : Entry → String
  | state => "GENERAL.STATE"
  | connection => "GENERAL.CONNECTION"
  | address => "IP4.ADDRESS[1]"
  | gateway => "IP4.GATEWAY"

/-- Whether a value is taken for this entry. -/
def takes : Entry → String → Bool
  | state, _ => true
  | _, value => DeviceStatus.isPresent value

/-- What a status tells of this entry. -/
def told : Entry → DeviceStatus → Option String
  | state, s => some s.state
  | connection, s => s.connection
  | address, s => s.address
  | gateway, s => s.gateway

/-- What one line says about this entry. -/
def readIn (e : Entry) (line : List Char) : Option String :=
  if (':' ∈ line ∧ keyOf line = e.key) ∧ e.takes (valueOf line) then some (valueOf line) else none

end Entry

/-! ## One line -/

theorem note_eq (s : DeviceStatus) {line : List Char} (hcolon : ':' ∈ line) :
    s.note line =
      if keyOf line = "GENERAL.STATE" then { s with state := valueOf line }
      else if !DeviceStatus.isPresent (valueOf line) then s
      else if keyOf line = "GENERAL.CONNECTION" then { s with connection := some (valueOf line) }
      else if keyOf line = "IP4.ADDRESS[1]" then { s with address := some (valueOf line) }
      else if keyOf line = "IP4.GATEWAY" then { s with gateway := some (valueOf line) }
      else s := by
  unfold DeviceStatus.note
  rw [Text.splitOnce_eq, if_pos hcolon]
  rfl

/-- A line overwrites the entry that it speaks of, and no other. -/
theorem told_note (e : Entry) (s : DeviceStatus) (line : List Char) :
    e.told (s.note line) = (e.readIn line).or (e.told s) := by
  unfold Entry.readIn
  by_cases hcolon : ':' ∈ line
  · rw [note_eq s hcolon]
    by_cases hkey : keyOf line = e.key
    · cases hvalue : DeviceStatus.isPresent (valueOf line) <;> cases e <;>
        simp [Entry.told, Entry.takes, Entry.key, hcolon, hkey, hvalue]
    · have hother : (if (':' ∈ line ∧ keyOf line = e.key) ∧ e.takes (valueOf line) then
          some (valueOf line) else none) = none := by simp [hkey]
      rw [hother, Option.none_or]
      -- Whichever entry the line speaks of, it is another one.
      cases e <;> split_ifs <;> first | rfl | exact absurd ‹_› hkey
  · have hnote : s.note line = s := by
      unfold DeviceStatus.note
      rw [Text.splitOnce_eq, if_neg hcolon]
    simp [hnote, hcolon]

/-! ## All lines -/

/-- What is overwritten again and again is in the end what it was last overwritten with. -/
theorem field_foldl {σ α β : Type} {step : σ → α → σ} {field : σ → Option β} {read : α → Option β}
    (hstep : ∀ s a, field (step s a) = (read a).or (field s)) (s : σ) (as : List α) :
    field (as.foldl step s) = (as.filterMap read).getLast?.or (field s) := by
  induction as generalizing s with
  | nil => rfl
  | cons a as ih =>
    rw [List.foldl_cons, ih, hstep, List.filterMap_cons]
    cases read a with
    | none => rfl
    | some b =>
      rw [List.getLast?_cons]
      cases (as.filterMap read).getLast? <;> rfl

/-- An entry is what the last of its values says that is taken for it. -/
theorem told_ofLines (e : Entry) (interface text : String) :
    e.told (DeviceStatus.ofLines interface text)
      = ((valuesOf e.key text).filter e.takes).getLast?.or (e.told (.blank interface)) := by
  have hread (lines : List (List Char)) : lines.filterMap e.readIn
      = ((lines.filter fun line => ':' ∈ line ∧ keyOf line = e.key).map valueOf).filter e.takes := by
    induction lines with
    | nil => rfl
    | cons line lines ih =>
      rw [List.filterMap_cons, ih, Entry.readIn]
      by_cases hkey : ':' ∈ line ∧ keyOf line = e.key
      · cases htakes : e.takes (valueOf line) <;> simp [hkey, htakes]
      · simp [hkey]
  have hlast := field_foldl (told_note e) (.blank interface) (Text.lines text.toList)
  rw [hread] at hlast
  exact hlast

theorem lastUsable_eq (values : List String) :
    lastUsable values = (values.filter DeviceStatus.isPresent).getLast? := by
  unfold lastUsable
  congr 2
  funext value
  simp [DeviceStatus.isPresent]

theorem interface_note (s : DeviceStatus) (line : List Char) :
    (s.note line).interface = s.interface := by
  unfold DeviceStatus.note
  split
  · rfl
  · dsimp only
    split_ifs <;> rfl

theorem interface_ofLines (interface text : String) :
    (DeviceStatus.ofLines interface text).interface = interface := by
  have hfold (lines : List (List Char)) (s : DeviceStatus) :
      (lines.foldl DeviceStatus.note s).interface = s.interface := by
    induction lines generalizing s with
    | nil => rfl
    | cons line lines ih => exact (ih (s.note line)).trans (interface_note s line)
  exact hfold _ (.blank interface)

theorem state_ofLines (interface text : String) :
    (DeviceStatus.ofLines interface text).state
      = (valuesOf "GENERAL.STATE" text).getLast?.getD "unknown" := by
  have htold := told_ofLines .state interface text
  have hall : (valuesOf "GENERAL.STATE" text).filter Entry.state.takes
      = valuesOf "GENERAL.STATE" text := List.filter_eq_self.mpr fun _ _ => rfl
  rw [show Entry.state.key = "GENERAL.STATE" from rfl, hall] at htold
  apply Option.some.inj
  exact htold.trans Option.or_some

theorem told_ofLines_of_ne_state {e : Entry} (he : e ≠ .state) (interface text : String) :
    e.told (DeviceStatus.ofLines interface text) = lastUsable (valuesOf e.key text) := by
  rw [told_ofLines, lastUsable_eq]
  cases e with
  | state => exact absurd rfl he
  | connection | address | gateway => exact Option.or_none

theorem ofLines_eq (interface text : String) : DeviceStatus.ofLines interface text =
    { interface
      state := (valuesOf "GENERAL.STATE" text).getLast?.getD "unknown"
      connection := lastUsable (valuesOf "GENERAL.CONNECTION" text)
      address := lastUsable (valuesOf "IP4.ADDRESS[1]" text)
      gateway := lastUsable (valuesOf "IP4.GATEWAY" text) } := by
  have hinterface := interface_ofLines interface text
  have hstate := state_ofLines interface text
  have hconnection := told_ofLines_of_ne_state (e := .connection) nofun interface text
  have haddress := told_ofLines_of_ne_state (e := .address) nofun interface text
  have hgateway := told_ofLines_of_ne_state (e := .gateway) nofun interface text
  cases hs : DeviceStatus.ofLines interface text
  rw [hs] at hinterface hstate hconnection haddress hgateway
  rw [DeviceStatus.mk.injEq]
  exact ⟨hinterface, hstate, hconnection, haddress, hgateway⟩

/-- **A status is what the last lines say.** The state is the last value of its key, and unknown if
there is none; the connection, the address and the gateway are each the last value of their key that
is neither empty nor a placeholder, if there is one. So nothing but the lines of these four keys
matters, and of those not how they are mixed. -/
theorem ofLines_readsLast :
    (∀ interface text : String, DeviceStatus.ofLines interface text =
      { interface
        state := (valuesOf "GENERAL.STATE" text).getLast?.getD "unknown"
        connection := lastUsable (valuesOf "GENERAL.CONNECTION" text)
        address := lastUsable (valuesOf "IP4.ADDRESS[1]" text)
        gateway := lastUsable (valuesOf "IP4.GATEWAY" text) }) ∧
    ∀ interface text text' : String,
      (∀ key ∈ ["GENERAL.STATE", "GENERAL.CONNECTION", "IP4.ADDRESS[1]", "IP4.GATEWAY"],
        linesOf key text = linesOf key text') →
      let s := DeviceStatus.ofLines interface text
      let s' := DeviceStatus.ofLines interface text'
      s = s' ∧ s.isConnected = s'.isConnected ∧ s.isDisconnected = s'.isDisconnected ∧
        s.ipv4 = s'.ipv4 := by
  refine ⟨ofLines_eq, ?_⟩
  intro interface text text' hlines s s'
  have hvalues (key : String) (hkey : key ∈ ["GENERAL.STATE", "GENERAL.CONNECTION",
      "IP4.ADDRESS[1]", "IP4.GATEWAY"]) : valuesOf key text = valuesOf key text' :=
    congrArg (List.map valueOf) (hlines key hkey)
  have hsame : s = s' := by
    show DeviceStatus.ofLines interface text = DeviceStatus.ofLines interface text'
    rw [ofLines_eq, ofLines_eq, hvalues "GENERAL.STATE" (by simp),
      hvalues "GENERAL.CONNECTION" (by simp), hvalues "IP4.ADDRESS[1]" (by simp),
      hvalues "IP4.GATEWAY" (by simp)]
  exact ⟨hsame, congrArg _ hsame, congrArg _ hsame, congrArg _ hsame⟩

/-- A placeholder behind a name with a colon in it, and the same lines in another order, with other
line ends and others in between. -/
theorem ofLines_readsLast_shuffled :
    let text := "GENERAL.STATE:100\r\nGENERAL.CONNECTION:Lab: 2\r\nGENERAL.CONNECTION:--\r\n"
    let text' := "GENERAL.CONNECTION:Lab: 2\nno colon\nGENERAL.CONNECTION:--\nGENERAL.STATE:100"
    let s := DeviceStatus.ofLines "wlan0" text
    (∀ key ∈ ["GENERAL.STATE", "GENERAL.CONNECTION", "IP4.ADDRESS[1]", "IP4.GATEWAY"],
      linesOf key text = linesOf key text') ∧
    s = DeviceStatus.ofLines "wlan0" text' ∧ s.connection = some "Lab: 2" := by
  intro text text' s
  have hlines : ∀ key ∈ ["GENERAL.STATE", "GENERAL.CONNECTION", "IP4.ADDRESS[1]", "IP4.GATEWAY"],
      linesOf key text = linesOf key text' := by
    decide +kernel
  have hconnection : lastUsable (valuesOf "GENERAL.CONNECTION" text) = some "Lab: 2" := by
    decide +kernel
  have hreads := congrArg DeviceStatus.connection (ofLines_readsLast.1 "wlan0" text)
  exact ⟨hlines, (ofLines_readsLast.2 "wlan0" text text' hlines).1, hreads.trans hconnection⟩

end Wlan.NetworkManager
