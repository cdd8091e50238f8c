import Wlan.Proofs.Settings.RoundTrip

/-!
# Keeping credentials

Credentials are kept by adding an entry to the settings that are in the file and writing them all
anew. What is logged says whether that went well (`LogLine.isReceipt`). If it did, the file holds
the settings with the entry (`Keeper.keep_of_receipt`), so that loading it finds the entry under
its name, and to keep the same credentials once more changes nothing (`Keeper.keep_again`).
-/

set_option autoImplicit false

namespace Wlan

/-- The line says that credentials were saved. -/
def LogLine.isReceipt (line : LogLine) : Bool :=
  line.level == .info && "Saved credentials".toList.isPrefixOf line.text.toList

namespace Settings

theorem find?_add (s : Settings) (n : SavedNetwork) : (s.add n).find? n.ssid = some n := by
  have hothers : (s.networks.filter (·.ssid != n.ssid)).find? (·.ssid == n.ssid) = none := by
    rw [List.find?_eq_none]
    intro m hm
    simpa using (List.mem_filter.mp hm).2
  rw [add, find?, List.find?_append, hothers]
  simp

theorem add_add (s : Settings) (n : SavedNetwork) : (s.add n).add n = s.add n := by
  simp [add, List.filter_append]

theorem save_eq_ok {place : Place} {s : Settings} {spot after : Spot}
    (h : s.save place spot = .ok after) :
    s.isWritable = true ∧ after = .file s.render.toUTF8 := by
  unfold save render? at h
  split at h
  · cases h
  · by_cases hwritable : s.isWritable = true
    · simp only [if_pos hwritable] at h
      split at h
      · cases h
      · cases h
        exact ⟨hwritable, rfl⟩
    · simp only [if_neg hwritable] at h
      cases h

end Settings

namespace Keeper

variable {place : Place} {interface : Option String} {c : Credentials}

theorem file_eq_ok {spot after : Spot} (h : file place interface c spot = .ok after) :
    ∃ s, Settings.load place spot = .ok s ∧ (s.add (entry interface c)).isWritable = true ∧
      after = .file (s.add (entry interface c)).render.toUTF8 := by
  unfold file at h
  cases hload : Settings.load place spot with
  | error f =>
    rw [hload] at h
    cases h
  | ok s =>
    rw [hload] at h
    exact ⟨s, rfl, Settings.save_eq_ok h⟩

/-- Credentials that are said to have been saved are in the file. -/
theorem keep_of_receipt {spot : Spot}
    (h : ((filing place interface).keep c spot).2.any LogLine.isReceipt = true) :
    ∃ s, Settings.load place spot = .ok s ∧ (s.add (entry interface c)).isWritable = true ∧
      ((filing place interface).keep c spot).1
        = .file (s.add (entry interface c)).render.toUTF8 := by
  unfold keep at h ⊢
  dsimp only at h ⊢
  cases hfile : file place interface c spot with
  | error f =>
    rw [hfile] at h
    cases h
  | ok after => exact file_eq_ok hfile

/-- Credentials that are in the file are left there as they are. -/
theorem keep_again {s : Settings} (h : (s.add (entry interface c)).isWritable = true) :
    ((filing place interface).keep c (.file (s.add (entry interface c)).render.toUTF8)).1
      = .file (s.add (entry interface c)).render.toUTF8 := by
  have hfile : file place interface c (.file (s.add (entry interface c)).render.toUTF8)
      = .ok (.file (s.add (entry interface c)).render.toUTF8) := by
    simp only [file, Settings.load_render h, bind, Except.bind, Settings.add_add]
    exact Settings.save_of_isOpen place rfl h
  simp only [keep, hfile]

end Keeper

end Wlan
