import Mathlib.Data.List.DropRight
import Wlan.Proofs.Manager.Disconnect
import Wlan.Proofs.Manager.Outstanding

/-!
# What the history says of the link

Every part of a link has its own business: the scan, the connect and the disconnect that may be
outstanding, the connection, the lease. What a part is, after any history, can be told from the
changes that concern its business, and no other change has any influence on it. `IsToldBy` says
for each part how; `Part.view_replay` says that nothing else matters.

Only the connection needs the business of another part. A disconnect result ends the connection if
it meets the mark of a disconnect, and whether that mark was there is told by the history up to the
result.

What holds of a history holds of it whatever the events came between: the halves of a command, two
commands, or the commands of two threads. The runs of a session are among these histories.
-/

set_option autoImplicit false

namespace Wlan

/-! ## Telling the parts of a link -/

/-- The address that a change binds. -/
def Change.lease? : Change → Option Ipv4
  | deliver (.leaseBound address) => some address
  | _ => none

/-- The part of a history after the last end of a scan, or all of it. -/
def sinceScan (h : List Change) : List Change := h.rtakeWhile fun c => !c.reports .scanDone

/-- There has been a successful connect result, and no disconnect result since it while a disconnect
was outstanding. -/
def IsUp (h : List Change) : Prop :=
  ∃ before c after, h = before ++ c :: after ∧ c.connects = true ∧
    ∀ mid d rest, after = mid ++ d :: rest → d.reports .disconnectResult = true →
      ¬ IsFresh .disconnect (before ++ c :: mid)

/-- What a history says of the link, part by part. -/
structure Link.IsToldBy (link : Link) (h : List Change) : Prop where
  address : link.address = (h.filterMap Change.lease?).getLast?
  leased : link.leased = true ↔ ∃ c ∈ h, c.reports .leaseBound = true
  found : link.found = (sinceScan h).countP (Change.reports .scanResult)
  scanning : link.scanning = true ↔ ∃ c ∈ sinceScan h, c.raises .scan = true
  connecting : link.connecting = true ↔ IsFresh .connect h
  disconnecting : link.disconnecting = true ↔ IsFresh .disconnect h
  connected : link.connected = true ↔ IsUp h

/-! ## One change more -/

theorem replay_concat (link : Link) (h : List Change) (c : Change) :
    link.replay (h ++ [c]) = (link.replay h).undergo c := by
  rw [Link.replay_append]
  rfl

theorem sinceScan_concat (h : List Change) (c : Change) :
    sinceScan (h ++ [c]) = if c.reports .scanDone = true then [] else sinceScan h ++ [c] := by
  rw [sinceScan, List.rtakeWhile_concat]
  cases c.reports .scanDone <;> rfl

theorem isUp_concat (h : List Change) (c : Change) :
    IsUp (h ++ [c]) ↔ c.connects = true ∨
      ¬ (c.reports .disconnectResult = true ∧ IsFresh .disconnect h) ∧ IsUp h := by
  constructor
  · rintro ⟨before, d, after, hsplit, hd, hafter⟩
    rcases List.eq_nil_or_concat after with rfl | ⟨init, last, rfl⟩
    · have hlast := (List.append_inj' hsplit rfl).2
      rw [(List.cons.inj hlast).1]
      exact Or.inl hd
    · rw [List.concat_eq_append, ← List.cons_append, ← List.append_assoc] at hsplit
      obtain ⟨rfl, hlast⟩ := List.append_inj' hsplit rfl
      obtain rfl := (List.cons.inj hlast).1
      refine Or.inr ⟨fun ⟨hresult, hfresh⟩ => hafter init c [] (by simp) hresult hfresh,
        before, d, init, rfl, hd,
        fun mid e rest hinit => hafter mid e (rest ++ [c]) (by simp [hinit])⟩
  · rintro (hc | ⟨hmet, before, d, after, rfl, hd, hafter⟩)
    · exact ⟨h, c, [], rfl, hc, fun mid d rest hnil => absurd hnil (by simp)⟩
    · refine ⟨before, d, after ++ [c], by simp, hd, fun mid e rest hsplit he => ?_⟩
      rcases List.eq_nil_or_concat rest with rfl | ⟨init, last, rfl⟩
      · obtain ⟨rfl, hlast⟩ := List.append_inj' hsplit rfl
        obtain rfl := (List.cons.inj hlast).1
        exact fun hfresh => hmet ⟨he, hfresh⟩
      · rw [List.concat_eq_append, ← List.cons_append, ← List.append_assoc] at hsplit
        exact hafter mid e init (List.append_inj' hsplit rfl).1 he

namespace Link

theorem lease_undergo (link : Link) (c : Change) :
    (link.undergo c).address = (c.lease? <|> link.address) ∧
      (link.undergo c).leased = (c.reports .leaseBound || link.leased) := by
  cases c with
  | submit c => cases c <;> exact ⟨rfl, rfl⟩
  | settle c v => cases v <;> cases c <;> exact ⟨rfl, rfl⟩
  | deliver e =>
    rw [undergo, deliver_eq]
    cases e with
    | disconnectResult status =>
      rw [hearRadio]
      split <;> exact ⟨rfl, rfl⟩
    | _ => exact ⟨rfl, rfl⟩

theorem found_undergo (link : Link) (c : Change) :
    (link.undergo c).found = if c.reports .scanDone = true then 0
      else link.found + if c.reports .scanResult = true then 1 else 0 := by
  cases c with
  | submit c => cases c <;> rfl
  | settle c v => cases v <;> cases c <;> rfl
  | deliver e =>
    rw [undergo, deliver_eq]
    cases e with
    | disconnectResult status =>
      rw [hearRadio]
      split <;> rfl
    | _ => rfl

theorem scanning_undergo (link : Link) (c : Change) :
    (link.undergo c).scanning = (c.raises .scan || (!c.reports .scanDone && link.scanning)) := by
  have hmark := isMarked_undergo link c .scan
  rw [show c.lowers .scan = c.reports .scanDone by simp [Change.lowers, Errand.ender]] at hmark
  exact hmark

/-- **Every history tells what its link is.** -/
theorem isToldBy_replay (h : List Change) : (({} : Link).replay h).IsToldBy h where
  address := by
    induction h using List.reverseRecOn with
    | nil => rfl
    | append_singleton h c ih =>
      rw [replay_concat, (lease_undergo _ c).1, ih, List.filterMap_append]
      cases hc : c.lease? <;> simp [hc]
  leased := by
    induction h using List.reverseRecOn with
    | nil => simp
    | append_singleton h c ih =>
      rw [replay_concat, (lease_undergo _ c).2, Bool.or_eq_true, ih]
      simp [or_comm]
  found := by
    induction h using List.reverseRecOn with
    | nil => rfl
    | append_singleton h c ih =>
      rw [replay_concat, found_undergo, ih, sinceScan_concat]
      split
      · rfl
      · rw [List.countP_append, List.countP_singleton]
  scanning := by
    induction h using List.reverseRecOn with
    | nil => simp [sinceScan]
    | append_singleton h c ih =>
      rw [replay_concat, scanning_undergo, sinceScan_concat, Bool.or_eq_true, Bool.and_eq_true, ih]
      cases hdone : c.reports .scanDone with
      | false => simp [or_comm]
      | true =>
        have hraises : c.raises .scan = false := by
          cases c with
          | deliver e => rfl
          | _ => cases hdone
        simp [hraises]
  connecting := isMarked_iff_isFresh (e := .connect) (by decide) h
  disconnecting := isMarked_iff_isFresh (e := .disconnect) (by decide) h
  connected := by
    induction h using List.reverseRecOn with
    | nil => simp [IsUp]
    | append_singleton h c ih =>
      have hmark : (({} : Link).replay h).disconnecting = true ↔ IsFresh .disconnect h :=
        isMarked_iff_isFresh (e := .disconnect) (by decide) h
      rw [replay_concat, connected_undergo, isUp_concat, ← ih, ← hmark]
      simp only [Bool.or_eq_true, Bool.and_eq_true, Bool.not_eq_true', ← Bool.not_eq_true]

end Link

/-! ## Parts that mind their own business -/

/-- The parts of a link. -/
inductive Part
  | scan
  | connect
  | disconnect
  /-- The connection, together with the mark that decides what a disconnect result does to it. -/
  | connection
  | lease

/-- A link of which only this part is left. -/
def Part.view : Part → Link → Link
  | scan, link => { scanning := link.scanning, found := link.found }
  | connect, link => { connecting := link.connecting }
  | disconnect, link => { disconnecting := link.disconnecting }
  | connection, link => { connected := link.connected, disconnecting := link.disconnecting }
  | lease, link => { leased := link.leased, address := link.address }

/-- Whether a change is the business of a part. -/
def Change.concerns (c : Change) : Part → Bool
  | .scan => c.raises .scan || c.reports .scanResult || c.reports .scanDone
  | .connect => c.raises .connect || c.lowers .connect
  | .disconnect => c.raises .disconnect || c.lowers .disconnect
  | .connection => c.reports .connectResult || c.raises .disconnect || c.lowers .disconnect
  | .lease => c.reports .leaseBound

theorem connecting_undergo (link : Link) (c : Change) : (link.undergo c).connecting
    = (c.raises .connect || (!c.lowers .connect && link.connecting)) :=
  Link.isMarked_undergo link c .connect

theorem disconnecting_undergo (link : Link) (c : Change) : (link.undergo c).disconnecting
    = (c.raises .disconnect || (!c.lowers .disconnect && link.disconnecting)) :=
  Link.isMarked_undergo link c .disconnect

namespace Part

/-- A part that a change does not concern is left alone. -/
theorem view_undergo_of_not_concerns {p : Part} {c : Change} (h : c.concerns p = false)
    (link : Link) : p.view (link.undergo c) = p.view link := by
  cases p with
  | scan =>
    simp only [Change.concerns, Bool.or_eq_false_iff] at h
    simp [view, Link.scanning_undergo, Link.found_undergo, h]
  | connect =>
    simp only [Change.concerns, Bool.or_eq_false_iff] at h
    simp [view, connecting_undergo, h]
  | disconnect =>
    simp only [Change.concerns, Bool.or_eq_false_iff] at h
    simp [view, disconnecting_undergo, h]
  | connection =>
    simp only [Change.concerns, Bool.or_eq_false_iff] at h
    obtain ⟨⟨hconnect, hraises⟩, hlowers⟩ := h
    have hresult : c.reports .disconnectResult = false := by
      simpa [Change.lowers, Errand.ender] using (Bool.or_eq_false_iff.mp hlowers).1
    simp [view, Link.connected_undergo, disconnecting_undergo, Link.connects_eq_false hconnect,
      hraises, hlowers, hresult]
  | lease =>
    have hlease : c.lease? = none := by
      cases c with
      | deliver e =>
        cases e with
        | leaseBound address => cases h
        | _ => rfl
      | _ => rfl
    have hreports : c.reports .leaseBound = false := h
    simp [view, Link.lease_undergo, hlease, hreports]

/-- What a change makes of a part depends on this part alone. -/
theorem view_undergo_congr {p : Part} {k l : Link} (h : p.view k = p.view l) (c : Change) :
    p.view (k.undergo c) = p.view (l.undergo c) := by
  cases p with
  | scan =>
    simp only [view, Link.mk.injEq, true_and, and_true] at h
    simp [view, Link.scanning_undergo, Link.found_undergo, h]
  | connect =>
    simp only [view, Link.mk.injEq, and_true] at h
    simp [view, connecting_undergo, h]
  | disconnect =>
    simp only [view, Link.mk.injEq, true_and, and_true] at h
    simp [view, disconnecting_undergo, h]
  | connection =>
    simp only [view, Link.mk.injEq, true_and, and_true] at h
    simp [view, Link.connected_undergo, disconnecting_undergo, h]
  | lease =>
    simp only [view, Link.mk.injEq, true_and] at h
    simp [view, Link.lease_undergo, h]

/-- **Only the changes that concern a part have a say in it.** -/
theorem view_replay {p : Part} {k l : Link} (h : p.view k = p.view l) (g : List Change) :
    p.view (k.replay g) = p.view (l.replay (g.filter (·.concerns p))) := by
  induction g generalizing k l with
  | nil => exact h
  | cons c g ih =>
    rw [List.filter_cons]
    cases hc : c.concerns p with
    | false => exact ih ((view_undergo_of_not_concerns hc k).trans h)
    | true => exact ih (view_undergo_congr h c)

end Part

/-! ## Sessions -/

/-- A session submits nothing that no request can be made of. -/
theorem ssid_ne_of_mem_changes {ts : List Step} {c : Credentials}
    (h : .submit (.connect c) ∈ ts.flatMap Step.changes) : c.ssid ≠ "" := by
  obtain ⟨t, -, ht⟩ := List.mem_flatMap.mp h
  cases t with
  | command d answer =>
    rw [Step.changes, Command.changes] at ht
    cases hr : d.request with
    | error e => simp [hr] at ht
    | ok r =>
      have hd : Command.connect c = d := by simpa [hr] using ht
      subst hd
      rintro hssid
      simp [Command.request, hssid] at hr
  | event e => simp [Step.changes] at ht
  | _ => cases ht

/-- **The link of a session is told by the history of each part's business**, from the beginning and
whatever the commands, the stack's answers and the events. The address is that of the last lease;
the findings are counted from the last end of a scan; a mark stands if its command was begun and
since then nothing has taken it away; the connection stands if it was made and since then no
disconnect result met a disconnect that was outstanding. Two runs that agree on the business of a
part agree on the part. -/
theorem run_isToldBy (ts : List Step) :
    let h := ts.flatMap Step.changes
    let link := (({} : Session).run ts).1.link
    link.IsToldBy h ∧
    (∀ c : Credentials, .submit (.connect c) ∈ h → c.ssid ≠ "") ∧
    ∀ (us : List Step) (p : Part),
      (us.flatMap Step.changes).filter (·.concerns p) = h.filter (·.concerns p) →
        p.view (({} : Session).run us).1.link = p.view link := by
  intro h link
  have hlink (us : List Step) :
      (({} : Session).run us).1.link = ({} : Link).replay (us.flatMap Step.changes) :=
    Session.run_link {} us
  refine ⟨?_, fun c => ssid_ne_of_mem_changes, fun us p hsame => ?_⟩
  · simp only [link, hlink]
    exact Link.isToldBy_replay h
  · simp only [link, hlink]
    rw [Part.view_replay (l := {}) rfl, hsame, ← Part.view_replay (k := {}) rfl]

end Wlan
