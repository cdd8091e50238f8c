import Wlan.Proofs.NetworkManager.DeviceStatus
import Wlan.Proofs.NetworkManager.Lease
import Wlan.Proofs.Text.Address

/-!
# The first lease

How long a search for a lease goes on, whatever the tool replies. A reply shows an address or it
does not (`ShowsAddress`), and of all that it may be instead, a failure, a placeholder, something
that is no address, nothing makes a difference: the next look is taken half a second later. The
clock moves with these pauses only, and thirty seconds are over after sixty of them. So the search
has an end, and what it ends with is the first address among the first sixty looks
(`pollFrom_firstLease`).
-/

set_option autoImplicit false

namespace Wlan.NetworkManager

/-! ## Replies -/

/-- A look shows this address: the tool was run and reported success, and the last of the values
given for the first address, placeholders apart, is this one in writing, with or without the length
of a mask behind it. -/
def ShowsAddress (reply : Option Reply) (ip : Ipv4) : Prop :=
  ∃ r value, reply = some r ∧ r.ending = .exited 0 ∧
    lastUsable (valuesOf "IP4.ADDRESS[1]" r.text) = some value ∧
    value.toList.takeWhile (· ≠ '/') = ip.text.toList

theorem DeviceStatus.ipv4_eq_some_iff {s : DeviceStatus} {ip : Ipv4} :
    s.ipv4 = .ok (some ip) ↔
      ∃ value, s.address = some value ∧ value.toList.takeWhile (· ≠ '/') = ip.text.toList := by
  unfold ipv4
  cases s.address with
  | none => simp
  | some value =>
    have hparse (found : Ipv4) :
        Ipv4.parse? (String.ofList (value.toList.takeWhile (· ≠ '/'))) = some found ↔
          value.toList.takeWhile (· ≠ '/') = found.text.toList := by
      rw [Ipv4.parse?_eq_some_iff, ← String.toList_inj, String.toList_ofList]
    simp only [Option.some.injEq, exists_eq_left', ← hparse]
    cases Ipv4.parse? (String.ofList (value.toList.takeWhile (· ≠ '/'))) <;> simp

/-- What a look shows is read from the address lines of its output alone. -/
theorem shownAddress_eq_some_iff (interface : String) {reply : Option Reply} {ip : Ipv4} :
    shownAddress interface reply = some ip ↔ ShowsAddress reply ip := by
  cases reply with
  | none => simp [shownAddress, ShowsAddress]
  | some r =>
    have hread : shownAddress interface (some r) = some ip ↔
        r.ending = .exited 0 ∧ (DeviceStatus.ofLines interface r.text).ipv4 = .ok (some ip) := by
      simp only [shownAddress, Reply.succeeded]
      cases (DeviceStatus.ofLines interface r.text).ipv4 <;> simp
    rw [hread, DeviceStatus.ipv4_eq_some_iff, ofLines_eq]
    simp [ShowsAddress]

theorem Host.address?_eq_none_iff {h : Host} (interface : String) {n : Nat} :
    h.address? interface n = none ↔ ∀ ip, ¬ ShowsAddress (h.reply? .showDevice n) ip := by
  rw [Option.eq_none_iff_forall_ne_some]
  exact forall_congr' fun ip => not_congr (shownAddress_eq_some_iff interface)

theorem Host.isFirstLease_iff {h : Host} {interface : String} {n : Nat} {ip : Ipv4} :
    h.IsFirstLease interface n ip ↔ ShowsAddress (h.reply? .showDevice n) ip ∧
      ∀ k < n, ∀ other, ¬ ShowsAddress (h.reply? .showDevice k) other := by
  rw [← shownAddress_eq_some_iff interface]
  simp only [← address?_eq_none_iff interface]
  exact ⟨fun hfirst => ⟨hfirst.shown, hfirst.unseen⟩, fun ⟨hshown, hunseen⟩ => ⟨hshown, hunseen⟩⟩

/-- A look shows one address at most. -/
theorem ShowsAddress.unique {reply : Option Reply} {ip other : Ipv4} (hip : ShowsAddress reply ip)
    (hother : ShowsAddress reply other) : ip = other := by
  rw [← shownAddress_eq_some_iff ""] at hip hother
  exact Option.some.inj (hip.symm.trans hother)

/-! ## The search -/

/-- **A search for a lease ends with the first one, or after sixty looks.** Whatever the coming looks
are told, no more than sixty are taken. An address is found exactly if the last of them shows it, and
none before has shown any; none is found exactly if none of the sixty shows any, and then they are all
taken. A look that shows none is followed by another one unless it is the sixtieth, and each costs a
pause of half a second, which is all the time that passes. -/
theorem pollFrom_firstLease (interface : String) (h : Host) :
    let reply (n : Nat) := h.reply? .showDevice n
    let polled := pollFrom interface 0 h
    ∃ looks ≤ 60, Makes (pollFrom interface 0) h (h.looks interface looks) ∧
      (∀ ip, polled.1.1 = some ip ↔ ∃ n, looks = n + 1 ∧ ShowsAddress (reply n) ip ∧
        ∀ k < n, ∀ other, ¬ ShowsAddress (reply k) other) ∧
      (polled.1.1 = none ↔ ∀ k < 60, ∀ ip, ¬ ShowsAddress (reply k) ip) ∧
      (polled.1.1 = none → looks = 60) ∧
      (∀ k < looks, (∀ ip, ¬ ShowsAddress (reply k) ip) → k + 1 < looks ∨ k + 1 = 60) ∧
      pausesOf polled.1.2 = List.replicate (if polled.1.1 = none then looks else looks - 1) 500 := by
  intro reply polled
  rcases h.exists_isFirstLease interface 60 with ⟨n, hn, ip, hlease⟩ | hnone
  · obtain ⟨acts, -, hpauses, hpoll⟩ := poll_of_isFirstLease hn hlease
    have hpolled : polled = ((some ip, acts), h.asked (h.looks interface (n + 1))) := hpoll
    have hfirst := Host.isFirstLease_iff.mp hlease
    refine ⟨n + 1, hn, congrArg Prod.snd hpoll, ?_, ?_, ?_, ?_, ?_⟩
    · intro other
      rw [hpolled]
      constructor
      · intro hother
        cases hother
        exact ⟨n, rfl, hfirst⟩
      · rintro ⟨m, hm, hother, -⟩
        cases hm
        exact congrArg some (hfirst.1.unique hother)
    · rw [hpolled]
      exact ⟨nofun, fun hall => absurd hfirst.1 (hall n hn ip)⟩
    · rw [hpolled]
      exact nofun
    · intro k hk hshows
      -- The last look is the one that shows the address.
      have hne : k ≠ n := by
        rintro rfl
        exact hshows ip hfirst.1
      omega
    · rw [hpolled]
      exact hpauses
  · obtain ⟨acts, -, hpauses, hpoll⟩ := poll_of_none hnone
    have hpolled : polled = ((none, acts), h.asked (h.looks interface 60)) := hpoll
    have hall : ∀ k < 60, ∀ ip, ¬ ShowsAddress (reply k) ip :=
      fun k hk => (Host.address?_eq_none_iff interface).mp (hnone k hk)
    refine ⟨60, Nat.le_refl _, congrArg Prod.snd hpoll, ?_, ?_, ?_, ?_, ?_⟩
    · intro ip
      rw [hpolled]
      refine ⟨nofun, ?_⟩
      rintro ⟨n, hn, hshows, -⟩
      exact absurd hshows (hall n (by omega) ip)
    · rw [hpolled]
      exact ⟨fun _ => hall, fun _ => rfl⟩
    · exact fun _ => rfl
    · intro k hk _
      omega
    · rw [hpolled]
      exact hpauses

end Wlan.NetworkManager
