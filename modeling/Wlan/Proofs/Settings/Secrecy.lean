import Wlan.Proofs.Settings.Storing

/-!
# Keys in the settings file

To keep one key or another for a network goes the same way: whether it can be done, and what is
logged, does not depend on the key. What is in the file afterwards differs in the one entry and in
nothing else, though the text of the file may differ in more than that, as a key decides on the
quotes around it.
-/

set_option autoImplicit false

namespace Wlan

/-- The credentials with this key. -/
def Credentials.withKey (c : Credentials) (key : String) : Credentials := { c with key := some key }

namespace Settings

/-- The settings without the password of this network. -/
def concealing (ssid : String) (s : Settings) : Settings :=
  { s with networks := s.networks.map fun n => if n.ssid = ssid then { n with password := none } else n }

/-- The settings at the two spots are the same but for the password of this network, or neither can
be loaded, and that for the same reason. -/
def DifferInPassword (place : Place) (ssid : String) (spot spot' : Spot) : Prop :=
  (load place spot').map (concealing ssid) = (load place spot).map (concealing ssid)

theorem concealing_add (s : Settings) (n : SavedNetwork) (password : Option String) :
    (s.add { n with password }).concealing n.ssid = (s.add n).concealing n.ssid := by
  simp [concealing, add]

end Settings

namespace Keeper

/-- **Whoever keeps a key makes no more of it than an entry in the file.** -/
theorem keep_withKey (place : Place) (interface : Option String) (c : Credentials)
    (k k' : String) (spot : Spot) :
    let kept := (filing place interface).keep (c.withKey k) spot
    let kept' := (filing place interface).keep (c.withKey k') spot
    kept'.2 = kept.2 ∧ Settings.DifferInPassword place c.ssid kept.1 kept'.1 := by
  intro kept kept'
  -- Both calls are saved, or both are turned down for the reason that there was before any key.
  have hturned (why : Failure)
      (hdown : ∀ key, Call.IsTurnedDown ⟨interface, c.withKey key⟩ place spot why) :
      kept'.2 = kept.2 ∧ Settings.DifferInPassword place c.ssid kept.1 kept'.1 := by
    have hspot : kept'.1 = kept.1 := (hdown k').spot.trans (hdown k).spot.symm
    refine ⟨(hdown k').log.trans (hdown k).log.symm, ?_⟩
    rw [Settings.DifferInPassword, hspot]
  cases hopen : spot.isOpen with
  | false =>
    obtain ⟨why, hdown⟩ := Call.exists_isTurnedDown place hopen
    exact hturned why fun key => hdown _
  | true =>
    cases hload : Settings.load place spot with
    | error f => exact hturned f fun key => Call.isTurnedDown_of_error hload
    | ok s =>
      have hsaved (key : String) : Call.IsSaved ⟨interface, c.withKey key⟩ place spot s :=
        Call.isSaved hload hopen
      refine ⟨(hsaved k').log.trans (hsaved k).log.symm, ?_⟩
      have hafter : Settings.load place kept.1 = _ := (hsaved k).after
      have hafter' : Settings.load place kept'.1 = _ := (hsaved k').after
      rw [Settings.DifferInPassword, hafter, hafter']
      exact congrArg Except.ok (s.concealing_add (Call.entry ⟨interface, c.withKey k⟩) (some k'))

end Keeper

end Wlan
