import Wlan.Proofs.Settings.Keeping
import Wlan.Proofs.Toml.Bounded

/-!
# Storing credentials

A file that can be loaded can be written again: it holds no number too large to be put in writing
(`Settings.isWritable_of_load`), and an entry more does not change its numbers. So of all that could
go wrong when credentials are stored, what is left is a file that cannot be loaded and a place where
none can be put, and in both cases nothing is written (`Call.outcomes`).

What is stored one after the other adds up: after any calls, the settings are those that were there
before with all the entries added (`load_storeAll`), or the spot is what it was
(`storeAll_of_error`, `storeAll_of_not_isOpen`).
-/

set_option autoImplicit false

namespace Wlan

namespace Settings

open Toml (Value)

/-! ## What was loaded can be written -/

theorem isBounded_of_mem_fields {names : List String} {v : Value} (hv : v.IsBounded)
    {found : List (Option Value)} (h : fields names v = some found) {u : Value}
    (hu : some u ∈ found) : u.IsBounded := by
  unfold fields at h
  split at h
  · cases h
    obtain ⟨name, -, hlookup⟩ := List.mem_map.mp hu
    exact (Toml.Entries.areBounded_of_isBounded hv).lookup hlookup
  · cases h
    obtain ⟨i, -, hlookup⟩ := List.mem_map.mp hu
    exact hv.of_mem (List.mem_of_getElem? hlookup)
  · cases h
    obtain ⟨name, -, hnone⟩ := List.mem_map.mp hu
    cases hnone
  · cases h

theorem le_greatest_of_fits {n : Int} (h : Toml.fits n = true) : n.toNat ≤ greatest := by
  simp only [Toml.fits, greatest, Bool.and_eq_true, decide_eq_true_eq] at *
  omega

theorem le_greatest_of_seconds? {default n : Nat} (hdefault : default ≤ greatest)
    {v : Option Value} (hv : ∀ u, v = some u → u.IsBounded) (h : seconds? default v = some n) :
    n ≤ greatest := by
  unfold seconds? at h
  split at h
  · cases h
    exact hdefault
  · next number =>
    split at h
    · cases h
      cases hv _ rfl with
      | integer hfits => exact le_greatest_of_fits hfits
    · cases h
  · cases h

theorem le_greatest_of_patience? {v : Option Value} (hv : ∀ u, v = some u → u.IsBounded)
    {p : Patience} (h : patience? v = some p) :
    p.connectSeconds ≤ greatest ∧ p.leaseSeconds ≤ greatest := by
  have hdefault : 30 ≤ greatest := by decide
  unfold patience? at h
  split at h
  · cases h
    exact ⟨hdefault, hdefault⟩
  · next group =>
    obtain ⟨found, hfound, h⟩ := Option.bind_eq_some_iff.mp h
    have hbounded (u : Value) (hu : some u ∈ found) : u.IsBounded :=
      isBounded_of_mem_fields (hv group rfl) hfound hu
    split at h
    · next connect lease =>
      obtain ⟨c, hc, h⟩ := Option.bind_eq_some_iff.mp h
      obtain ⟨l, hl, h⟩ := Option.bind_eq_some_iff.mp h
      cases h
      exact ⟨le_greatest_of_seconds? hdefault (fun u hu => hbounded u (by simp [hu])) hc,
        le_greatest_of_seconds? hdefault (fun u hu => hbounded u (by simp [hu])) hl⟩
    · cases h

theorem isWritable_of_parse? {text : String} {s : Settings} (h : parse? text = some s) :
    s.isWritable = true := by
  obtain ⟨es, hes, h⟩ := Option.bind_eq_some_iff.mp h
  have hbounded := Toml.areBounded_of_parse? hes
  obtain ⟨networks, -, h⟩ := Option.bind_eq_some_iff.mp h
  obtain ⟨interface, -, h⟩ := Option.bind_eq_some_iff.mp h
  obtain ⟨patience, hpatience, h⟩ := Option.bind_eq_some_iff.mp h
  cases h
  exact (isWritable_iff _).mpr
    (le_greatest_of_patience? (fun _ hu => hbounded.lookup hu) hpatience)

theorem isWritable_of_read {place : Place} {bytes : ByteArray} {s : Settings}
    (h : read place bytes = .ok s) : s.isWritable = true := by
  unfold read at h
  split at h
  · cases h
  · split at h
    · cases h
    · next hparse =>
      cases h
      exact isWritable_of_parse? hparse

theorem isWritable_of_load {place : Place} {spot : Spot} {s : Settings}
    (h : load place spot = .ok s) : s.isWritable = true := by
  cases spot with
  | vacant =>
    cases h
    rfl
  | file bytes => exact isWritable_of_read h
  | sealed bytes => exact isWritable_of_read h
  | directory => cases h
  | blocked =>
    cases h
    rfl

/-- One network more is no obstacle to writing. -/
@[simp] theorem isWritable_add (s : Settings) (n : SavedNetwork) :
    (s.add n).isWritable = s.isWritable := rfl

theorem render?_add_of_load {place : Place} {spot : Spot} {s : Settings}
    (h : load place spot = .ok s) (n : SavedNetwork) :
    (s.add n).render? = some (s.add n).render := by
  rw [render?, isWritable_add, if_pos (isWritable_of_load h)]

/-! ## What one network more leaves alone -/

/-- The settings differ at most in what they know about one network. -/
structure AgreeBut (ssid : String) (s s' : Settings) : Prop where
  others : s'.networks.filter (·.ssid != ssid) = s.networks.filter (·.ssid != ssid)
  defaultInterface : s'.defaultInterface = s.defaultInterface
  patience : s'.patience = s.patience

theorem agreeBut_add (s : Settings) (n : SavedNetwork) : AgreeBut n.ssid s (s.add n) where
  others := by simp [add, List.filter_append]
  defaultInterface := rfl
  patience := rfl

end Settings

/-! ## One call -/

namespace Keeper

/-- The credentials of an attempt, handed over to be stored. -/
structure Call where
  interface : Option String
  credentials : Credentials

namespace Call

def entry (c : Call) : SavedNetwork := Keeper.entry c.interface c.credentials

/-- What is at the place after the call, and what is logged. -/
def store (c : Call) (place : Place) (spot : Spot) : Spot × List LogLine :=
  (filing place c.interface).keep c.credentials spot

/-- The call did what it was for: its entry is added to the settings that were there before. -/
structure IsSaved (c : Call) (place : Place) (spot : Spot) (s : Settings) : Prop where
  log : (c.store place spot).2
    = [.info ("Saved credentials for '" ++ c.credentials.ssid ++ "' to " ++ place.path)]
  before : Settings.load place spot = .ok s
  after : Settings.load place (c.store place spot).1 = .ok (s.add c.entry)
  others : Settings.AgreeBut c.credentials.ssid s (s.add c.entry)

/-- The call did nothing but complain. -/
structure IsTurnedDown (c : Call) (place : Place) (spot : Spot) (why : Failure) : Prop where
  log : (c.store place spot).2 = [.error
    ("Failed to save credentials for '" ++ c.credentials.ssid ++ "': " ++ why.message)]
  spot : (c.store place spot).1 = spot

variable {c : Call} {place : Place} {spot : Spot}

theorem isTurnedDown_of_file {f : Failure}
    (h : file place c.interface c.credentials spot = .error f) : c.IsTurnedDown place spot f where
  log := by simp only [store, keep, h]
  spot := by simp only [store, keep, h]

theorem isSaved {s : Settings} (hload : Settings.load place spot = .ok s)
    (hopen : spot.isOpen = true) : c.IsSaved place spot s := by
  have hwritable : (s.add c.entry).isWritable = true :=
    (Settings.isWritable_add s c.entry).trans (Settings.isWritable_of_load hload)
  have hfile : file place c.interface c.credentials spot
      = .ok (.file (s.add c.entry).render.toUTF8) := by
    simp only [file, hload, bind, Except.bind]
    exact Settings.save_of_isOpen place hopen hwritable
  refine ⟨?_, hload, ?_, Settings.agreeBut_add s c.entry⟩
  · simp only [store, keep, hfile]
  · simp only [store, keep, hfile]
    exact Settings.load_render hwritable

theorem isTurnedDown_of_error {f : Failure} (hload : Settings.load place spot = .error f) :
    c.IsTurnedDown place spot f := by
  refine isTurnedDown_of_file ?_
  simp only [file, hload, bind, Except.bind]

theorem isTurnedDown_of_sealed {bytes : ByteArray} {s : Settings}
    (hload : Settings.load place (.sealed bytes) = .ok s) :
    c.IsTurnedDown place (.sealed bytes)
      ⟨["Failed to write config file: " ++ place.path], .system .permissionDenied⟩ := by
  refine isTurnedDown_of_file ?_
  simp only [file, hload, bind, Except.bind, Settings.save]
  have hblocked : Spot.sealed bytes ≠ .blocked := by
    intro h
    cases h
  rw [if_neg hblocked, Settings.render?_add_of_load hload]
  rfl

/-- Where no file can be put, all calls are turned down for one reason. -/
theorem exists_isTurnedDown (place : Place) (hclosed : spot.isOpen = false) :
    ∃ why, ∀ c : Call, c.IsTurnedDown place spot why := by
  cases spot with
  | vacant => cases hclosed
  | file bytes => cases hclosed
  | sealed bytes =>
    cases hload : Settings.load place (.sealed bytes) with
    | ok s => exact ⟨_, fun _ => isTurnedDown_of_sealed hload⟩
    | error f => exact ⟨f, fun _ => isTurnedDown_of_error hload⟩
  | directory => exact ⟨_, fun _ => isTurnedDown_of_error rfl⟩
  | blocked => exact ⟨_, fun _ => isTurnedDown_of_file rfl⟩

/-- A call stores its entry where there are settings to add it to and a file can be put. Otherwise
it leaves everything as it is. -/
theorem outcomes (c : Call) (place : Place) (spot : Spot) :
    (∃ s, c.IsSaved place spot s) ∨ ∃ why, c.IsTurnedDown place spot why := by
  cases hopen : spot.isOpen with
  | false =>
    obtain ⟨why, hdown⟩ := exists_isTurnedDown place hopen
    exact Or.inr ⟨why, hdown c⟩
  | true =>
    cases hload : Settings.load place spot with
    | ok s => exact Or.inl ⟨s, isSaved hload hopen⟩
    | error f => exact Or.inr ⟨f, isTurnedDown_of_error hload⟩

end Call

/-! ## Many calls -/

/-- What is at the place after all the calls. -/
def storeAll (place : Place) (spot : Spot) (calls : List Call) : Spot :=
  calls.foldl (fun spot c => (c.store place spot).1) spot

theorem storeAll_cons (place : Place) (spot : Spot) (c : Call) (calls : List Call) :
    storeAll place spot (c :: calls) = storeAll place (c.store place spot).1 calls := rfl

/-- A call does not stand in the way of the next one. -/
theorem Call.isOpen_store (c : Call) (place : Place) {spot : Spot} (hopen : spot.isOpen = true) :
    (c.store place spot).1.isOpen = true := by
  unfold store keep
  dsimp only
  cases hfile : file place c.interface c.credentials spot with
  | error f => exact hopen
  | ok after =>
    obtain ⟨s, -, -, rfl⟩ := file_eq_ok hfile
    rfl

/-- The settings after any calls are those that were there, with all the entries added. -/
theorem load_storeAll {place : Place} {spot : Spot} {s : Settings}
    (hload : Settings.load place spot = .ok s) (hopen : spot.isOpen = true) (calls : List Call) :
    Settings.load place (storeAll place spot calls)
      = .ok ((calls.map Call.entry).foldl Settings.add s) := by
  induction calls generalizing spot s with
  | nil => exact hload
  | cons c calls ih =>
    have hsaved : c.IsSaved place spot s := Call.isSaved hload hopen
    rw [storeAll_cons]
    exact ih hsaved.after (c.isOpen_store place hopen)

/-- What turns every call down is never touched. -/
theorem storeAll_of_isTurnedDown {place : Place} {spot : Spot} {why : Failure}
    (hdown : ∀ c : Call, c.IsTurnedDown place spot why) (calls : List Call) :
    storeAll place spot calls = spot := by
  induction calls with
  | nil => rfl
  | cons c calls ih => rw [storeAll_cons, (hdown c).spot, ih]

theorem storeAll_of_error {place : Place} {spot : Spot} {f : Failure}
    (hload : Settings.load place spot = .error f) (calls : List Call) :
    storeAll place spot calls = spot :=
  storeAll_of_isTurnedDown (fun _ => Call.isTurnedDown_of_error hload) calls

theorem storeAll_of_not_isOpen {place : Place} {spot : Spot} (hclosed : spot.isOpen = false)
    (calls : List Call) : storeAll place spot calls = spot := by
  obtain ⟨_, hdown⟩ := Call.exists_isTurnedDown place hclosed
  exact storeAll_of_isTurnedDown hdown calls

end Keeper

end Wlan
