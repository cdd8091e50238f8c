import Wlan.NetworkManager.Station
import Wlan.Proofs.NetworkManager.Job

/-!
# Nothing is left pending

A station used by any number of callers at once. A scene of it holds the calls that have not
returned and the jobs that have not ended; a step is one half of a call, the answer of the stack
between them, or one act of a job. A job may act as soon as the request is answered, before the
call has returned, and any number of jobs and calls may be under way at a time.

Each request is answered on a host of its own. That leaves open what the tool replies at any time,
as it must: the runs of a job stand between those of other jobs and other calls, so the replies
that it gets are scattered over the script of the real host. There is a host that gives just these
replies one after the other.

The invariant is that every mark has somebody who will take it away, a call that the stack has not
taken or a job that owes the end of the errand; and findings that have been counted have a job that
will reset the count. When nobody is left, nothing is marked.
-/

set_option autoImplicit false

namespace Wlan.NetworkManager

open Session

/-! ## Scenes -/

/-- A call that has not returned. -/
structure Call where
  command : Command
  /-- The stack's word, if it has answered. -/
  verdict : Option Verdict := none

/-- A station, the calls that have not returned, and what is left of the jobs. -/
structure Scene where
  station : Station
  calls : List Call := []
  jobs : List (List Act) := []

/-- What can happen in a scene. -/
inductive Scene.Step : Scene → Scene → Prop
  | submit (station : Station) (calls : List Call) (jobs : List (List Act)) (c : Command)
      (r : Request) (hr : c.request = .ok r) :
      Step ⟨station, calls, jobs⟩
        ⟨{ station with link := station.link.submit c }, ⟨c, none⟩ :: calls, jobs⟩
  | answer (station : Station) (before after : List Call) (jobs : List (List Act)) (c : Command)
      (r : Request) (hr : c.request = .ok r) (host : Host) :
      Step ⟨station, before ++ ⟨c, none⟩ :: after, jobs⟩
        ⟨station, before ++ ⟨c, some (request station.interface r host).1.1⟩ :: after,
          (request station.interface r host).1.2 :: jobs⟩
  | settle (station : Station) (before after : List Call) (jobs : List (List Act)) (c : Command)
      (v : Verdict) :
      Step ⟨station, before ++ ⟨c, some v⟩ :: after, jobs⟩
        ⟨{ station with link := station.link.settle c v }, before ++ after, jobs⟩
  | act (station : Station) (calls : List Call) (before after : List (List Act)) (a : Act)
      (rest : List Act) :
      Step ⟨station, calls, before ++ (a :: rest) :: after⟩
        ⟨(station.apply a).1, calls, before ++ rest :: after⟩

/-- The scenes that the use of an interface can lead to. -/
inductive Reachable (interface : String) : Scene → Prop
  | start : Reachable interface ⟨{ interface }, [], []⟩
  | step {s t : Scene} : Reachable interface s → s.Step t → Reachable interface t

/-! ## Who takes a mark away -/

/-- Somebody is there who will end the errand: a call not taken so far, or a job. -/
def Scene.IsAwaited (s : Scene) (e : Errand) : Prop :=
  (∃ call ∈ s.calls, call.command.errand = e ∧ call.verdict ≠ some .accepted) ∨
    ∃ job ∈ s.jobs, Owes job e.ender

/-- Whatever is pending will be over when the calls have returned and the jobs have ended. -/
structure Scene.IsSound (s : Scene) : Prop where
  marks : ∀ e, s.station.link.isMarked e = true → s.IsAwaited e
  found : 0 < s.station.link.found → ∃ job ∈ s.jobs, Owes job .scanDone
  closes : ∀ job ∈ s.jobs, ClosesScans job
  takes : ∀ call ∈ s.calls, call.command.errand = .scan → ∀ why, call.verdict ≠ some (.refused why)

theorem ClosesScans.tail {a : Act} {rest : List Act} (h : ClosesScans (a :: rest)) :
    ClosesScans rest :=
  fun found more hsuffix => h found more (hsuffix.trans (List.suffix_cons a rest))

/-- An act that is no such report leaves the report owed. -/
theorem Owes.tail {a : Act} {rest : List Act} {k : Kind} (h : Owes (a :: rest) k)
    (ha : ∀ e, a = .report e → e.kind ≠ k) : Owes rest k := by
  obtain ⟨e, he, hk⟩ := h
  rw [mem_reports] at he
  rcases List.mem_cons.mp he with hhead | htail
  · exact absurd hk (ha e hhead.symm)
  · exact ⟨e, mem_reports.mpr htail, hk⟩

theorem isSound_start (interface : String) : Scene.IsSound ⟨{ interface }, [], []⟩ where
  marks := by
    intro e he
    cases e <;> cases he
  found := fun h => absurd h (Nat.lt_irrefl 0)
  closes := nofun
  takes := nofun

/-! ## What a step keeps -/

theorem mem_middle {α : Type} {before after : List α} {x y : α} :
    x ∈ before ++ y :: after ↔ x = y ∨ x ∈ before ++ after := by
  rw [List.perm_middle.mem_iff, List.mem_cons]

theorem found_submit (link : Link) (c : Command) : (link.submit c).found = link.found := by
  cases c <;> rfl

theorem found_settle (link : Link) (c : Command) (v : Verdict) :
    (link.settle c v).found = link.found := by
  cases v <;> cases c <;> rfl

/-- What is counted after an event was counted before, or is the event. -/
theorem found_deliver (link : Link) {e : Event} (h : 0 < (link.deliver e).found) :
    e.kind ≠ .scanDone ∧ (0 < link.found ∨ ∃ found, e = .scanResult found) := by
  cases e with
  | leaseBound address =>
    rw [Link.deliver_leaseBound] at h
    exact ⟨by simp [Event.kind], Or.inl h⟩
  | scanResult found => exact ⟨by simp [Event.kind], Or.inr ⟨found, rfl⟩⟩
  | scanDone status =>
    rw [Link.deliver_of_kind_ne link (by simp [Event.kind])] at h
    exact absurd h (Nat.lt_irrefl 0)
  | disconnectResult status =>
    rw [Link.deliver_of_kind_ne link (by simp [Event.kind]), Link.hearRadio] at h
    refine ⟨by simp [Event.kind], Or.inl ?_⟩
    split at h <;> exact h
  | _ =>
    rw [Link.deliver_of_kind_ne link (by simp [Event.kind])] at h
    exact ⟨by simp [Event.kind], Or.inl h⟩

/-- The new call will end what it has marked. -/
theorem isSound_submit {station : Station} {calls : List Call} {jobs : List (List Act)}
    (h : Scene.IsSound ⟨station, calls, jobs⟩) (c : Command) :
    Scene.IsSound ⟨{ station with link := station.link.submit c }, ⟨c, none⟩ :: calls, jobs⟩ where
  marks := by
    intro e he
    have hmark : (c.errand == e || station.link.isMarked e) = true :=
      (Link.isMarked_undergo station.link (.submit c) e).symm.trans he
    rcases Bool.or_eq_true_iff.mp hmark with hnew | hold
    · exact Or.inl ⟨⟨c, none⟩, List.mem_cons_self, eq_of_beq hnew, nofun⟩
    · rcases h.marks e hold with ⟨call, hcall, hawaited⟩ | hjob
      · exact Or.inl ⟨call, List.mem_cons_of_mem _ hcall, hawaited⟩
      · exact Or.inr hjob
  found := by
    intro hpos
    rw [show (station.link.submit c).found = station.link.found from found_submit _ _] at hpos
    exact h.found hpos
  closes := h.closes
  takes := List.forall_mem_cons.mpr ⟨fun _ _ => nofun, h.takes⟩

/-- The answer either leaves the call to take the mark back or hands the errand to a job. -/
theorem isSound_answer {station : Station} {before after : List Call} {jobs : List (List Act)}
    {c : Command} (h : Scene.IsSound ⟨station, before ++ ⟨c, none⟩ :: after, jobs⟩)
    {answer : Verdict × List Act} {r : Request} (hr : c.request = .ok r) (hanswer : IsFitting r answer) :
    Scene.IsSound ⟨station, before ++ ⟨c, some answer.1⟩ :: after, answer.2 :: jobs⟩ where
  marks := by
    intro e he
    rcases h.marks e he with ⟨call, hcall, herrand, hverdict⟩ | ⟨job, hjob, howes⟩
    · rcases mem_middle.mp hcall with rfl | hother
      · by_cases hv : answer.1 = .accepted
        · have howes := hanswer.owes hv
          rw [Command.errand_request hr, herrand] at howes
          exact Or.inr ⟨answer.2, List.mem_cons_self, howes⟩
        · have hrefused : some answer.1 ≠ some .accepted := fun heq => hv (Option.some.inj heq)
          exact Or.inl ⟨⟨c, some answer.1⟩, mem_middle.mpr (Or.inl rfl), herrand, hrefused⟩
      · exact Or.inl ⟨call, mem_middle.mpr (Or.inr hother), herrand, hverdict⟩
    · exact Or.inr ⟨job, List.mem_cons_of_mem _ hjob, howes⟩
  found := by
    intro hpos
    obtain ⟨job, hjob, howes⟩ := h.found hpos
    exact ⟨job, List.mem_cons_of_mem _ hjob, howes⟩
  closes := List.forall_mem_cons.mpr ⟨hanswer.closes, h.closes⟩
  takes := by
    have hcalls := h.takes
    simp only [List.forall_mem_append, List.forall_mem_cons] at hcalls ⊢
    refine ⟨hcalls.1, fun hscan why heq => ?_, hcalls.2.2⟩
    have haccepted := hanswer.takes ((Command.errand_request hr).trans hscan)
    rw [haccepted] at heq
    cases heq

/-- A refused call takes its mark with it, and a taken one was waited for no more. -/
theorem isSound_settle {station : Station} {before after : List Call} {jobs : List (List Act)}
    {c : Command} {v : Verdict} (h : Scene.IsSound ⟨station, before ++ ⟨c, some v⟩ :: after, jobs⟩) :
    Scene.IsSound ⟨{ station with link := station.link.settle c v }, before ++ after, jobs⟩ where
  marks := by
    intro e he
    have hmark : (!Change.lowers e (.settle c v) && station.link.isMarked e) = true :=
      (Link.isMarked_undergo station.link (.settle c v) e).symm.trans he
    rw [Bool.and_eq_true, Bool.not_eq_true'] at hmark
    obtain ⟨hlowers, hold⟩ := hmark
    rcases h.marks e hold with ⟨call, hcall, herrand, hverdict⟩ | hjob
    · rcases mem_middle.mp hcall with rfl | hother
      · cases v with
        | accepted => exact absurd rfl hverdict
        | refused why =>
          -- Its refusal would have lowered the mark, unless it is a scan, and no scan is refused.
          have hscan : e = .scan := by
            simpa [Change.lowers, Change.reports, Change.refuses, herrand] using hlowers
          exact absurd rfl (h.takes _ hcall (herrand.trans hscan) why)
      · exact Or.inl ⟨call, hother, herrand, hverdict⟩
    · exact Or.inr hjob
  found := by
    intro hpos
    rw [show (station.link.settle c v).found = station.link.found from found_settle _ _ _] at hpos
    exact h.found hpos
  closes := h.closes
  takes := by
    have hcalls := h.takes
    simp only [List.forall_mem_append, List.forall_mem_cons] at hcalls ⊢
    exact ⟨hcalls.1, hcalls.2.2⟩

/-- A report is owed no longer only if it was made. -/
theorem owes_act {before after : List (List Act)} {a : Act} {rest : List Act} {k : Kind}
    (h : ∃ job ∈ before ++ (a :: rest) :: after, Owes job k)
    (ha : ∀ e, a = .report e → e.kind ≠ k) : ∃ job ∈ before ++ rest :: after, Owes job k := by
  obtain ⟨job, hjob, howes⟩ := h
  rcases mem_middle.mp hjob with rfl | hother
  · exact ⟨rest, mem_middle.mpr (Or.inl rfl), howes.tail ha⟩
  · exact ⟨job, mem_middle.mpr (Or.inr hother), howes⟩

/-- What is still marked after an act was marked before, and the act did not end it. -/
theorem isMarked_apply {station : Station} {a : Act} {e : Errand}
    (h : (station.apply a).1.link.isMarked e = true) :
    station.link.isMarked e = true ∧ ∀ event, a = .report event → event.kind ≠ e.ender := by
  cases a with
  | report event =>
    have hmark : (station.link.deliver event).isMarked e = true := h
    rw [Link.isMarked_deliver, Bool.and_eq_true, Bool.not_eq_true'] at hmark
    refine ⟨hmark.2, fun event' heq => ?_⟩
    cases heq
    exact ne_of_beq_false hmark.1
  | publish found => exact ⟨h, nofun⟩
  | remark line => exact ⟨h, nofun⟩
  | pause millis => exact ⟨h, nofun⟩

theorem isSound_act {station : Station} {calls : List Call} {before after : List (List Act)}
    {a : Act} {rest : List Act}
    (h : Scene.IsSound ⟨station, calls, before ++ (a :: rest) :: after⟩) :
    Scene.IsSound ⟨(station.apply a).1, calls, before ++ rest :: after⟩ where
  marks := by
    intro e he
    obtain ⟨hold, hother⟩ := isMarked_apply he
    rcases h.marks e hold with hcall | hjob
    · exact Or.inl hcall
    · exact Or.inr (owes_act hjob hother)
  found := by
    intro hpos
    cases a with
    | report event =>
      obtain ⟨hother, hold | ⟨found, rfl⟩⟩ := found_deliver station.link hpos
      · refine owes_act (h.found hold) fun event' heq => ?_
        cases heq
        exact hother
      · have hcloses := h.closes _ (mem_middle.mpr (Or.inl rfl))
        exact ⟨rest, mem_middle.mpr (Or.inl rfl), hcloses found rest List.suffix_rfl⟩
    | publish found => exact owes_act (h.found hpos) nofun
    | remark line => exact owes_act (h.found hpos) nofun
    | pause millis => exact owes_act (h.found hpos) nofun
  closes := by
    have hjobs := h.closes
    simp only [List.forall_mem_append, List.forall_mem_cons] at hjobs ⊢
    exact ⟨hjobs.1, hjobs.2.1.tail, hjobs.2.2⟩
  takes := h.takes

theorem Scene.Step.isSound {s t : Scene} (hstep : s.Step t) (h : s.IsSound) : t.IsSound := by
  cases hstep with
  | submit station calls jobs c r hr => exact isSound_submit h c
  | answer station before after jobs c r hr host =>
    exact isSound_answer h hr (isFitting_request station.interface r host)
  | settle station before after jobs c v => exact isSound_settle h
  | act station calls before after a rest => exact isSound_act h

theorem Reachable.isSound {interface : String} {s : Scene} (h : Reachable interface s) :
    s.IsSound := by
  induction h with
  | start => exact isSound_start interface
  | step _ hstep ih => exact hstep.isSound ih

/-! ## One after the other -/

/-- A command that is given while nothing else happens is one of the ways through the scenes. -/
theorem Reachable.command {interface : String} {s : Station} {calls : List Call}
    {jobs : List (List Act)} (h : Reachable interface ⟨s, calls, jobs⟩) {c : Command} {r : Request}
    (hr : c.request = .ok r) (host : Host) :
    let commanded := (s.command c host).1
    Reachable interface ⟨commanded.station, calls, commanded.job :: jobs⟩ := by
  have hsubmit := h.step (.submit s calls jobs c r hr)
  have hanswer := hsubmit.step (.answer _ [] calls jobs c r hr host)
  have hsettle := hanswer.step (.settle _ [] calls _ c _)
  have hlink (v : Verdict) :
      (c.perform s.link ⟨[], v⟩).link = (s.link.submit c).settle c v := by
    unfold Command.perform
    rw [hr]
    rfl
  unfold Station.command
  simp only [bind, StateT.bind, hr, hlink]
  exact hsettle

/-- So is a job that goes through all its acts while nothing else happens. -/
theorem Reachable.applyAll {interface : String} {s : Station} {calls : List Call}
    (before after : List (List Act)) {acts : List Act}
    (h : Reachable interface ⟨s, calls, before ++ acts :: after⟩) :
    Reachable interface ⟨(s.applyAll acts).1, calls, before ++ [] :: after⟩ := by
  induction acts generalizing s with
  | nil => exact h
  | cons a rest ih => exact ih (h.step (.act s calls before after a rest))

/-! ## Quiescence -/

/-- **When the calls have returned and the jobs have reported, nothing is pending**, and a wait
for anything but a lease that looks at the link comes to its end. -/
theorem quiescent (interface : String) (s : Scene) (h : Reachable interface s)
    (hcalls : s.calls = []) (hjobs : ∀ job ∈ s.jobs, reports job = []) :
    let link := s.station.link
    (link.connecting = false ∧ link.disconnecting = false ∧ link.scanning = false ∧
      link.found = 0) ∧
    ∀ w : Wait, (∀ limit, w ≠ .lease limit) →
      (∀ deadline now, verdictOn w deadline link now = some .done) ∧
      ∀ (session : Session) (deadline : Option Moment) (opened : List LogLine),
        session.link = link → session.blocked = some ⟨w, deadline⟩ →
          (session.recheck opened).1.blocked = none := by
  intro link
  have hsound := h.isSound
  have hnothing (k : Kind) : ¬ ∃ job ∈ s.jobs, Owes job k := by
    rintro ⟨job, hjob, e, he, -⟩
    rw [hjobs job hjob] at he
    exact absurd he List.not_mem_nil
  have hmark (e : Errand) : link.isMarked e = false := by
    rw [Bool.eq_false_iff]
    intro he
    rcases hsound.marks e he with ⟨call, hcall, -⟩ | hjob
    · rw [hcalls] at hcall
      exact absurd hcall List.not_mem_nil
    · exact hnothing _ hjob
  have hfound : link.found = 0 := by
    rcases Nat.eq_zero_or_pos link.found with hzero | hpos
    · exact hzero
    · exact absurd (hsound.found hpos) (hnothing _)
  refine ⟨⟨hmark .connect, hmark .disconnect, hmark .scan, hfound⟩, fun w hw => ?_⟩
  have hpending : w.pending link = false := by
    cases w with
    | scanDone => exact hmark .scan
    | connecting limit => exact hmark .connect
    | disconnecting limit => exact hmark .disconnect
    | lease limit => exact absurd rfl (hw limit)
  have hdone (deadline : Option Moment) (now : Moment) :
      verdictOn w deadline link now = some .done := by
    rw [verdictOn, hpending]
    rfl
  refine ⟨hdone, fun session deadline opened hlink hblocked => ?_⟩
  rw [recheck, hblocked]
  simp only [hlink, hdone]

/-- A scan on a machine that lacks the tool. -/
theorem quiescent_scan :
    let commanded := (({ interface := "wlan0" } : Station).command .scan ⟨none, []⟩).1
    commanded.station.link.scanning = true ∧
      (commanded.station.applyAll commanded.job).1.link.scanning = false := by
  intro commanded
  have hstart : Reachable "wlan0" ⟨{ interface := "wlan0" }, [], []⟩ := .start
  have hcommand := hstart.command (c := .scan) rfl ⟨none, []⟩
  have hjob := hcommand.applyAll [] []
  exact ⟨rfl, (quiescent "wlan0" _ hjob rfl (by simp [reports])).1.2.2.1⟩

end Wlan.NetworkManager
