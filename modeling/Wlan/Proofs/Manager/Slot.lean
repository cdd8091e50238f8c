import Mathlib.Data.List.Induction
import Wlan.Proofs.Manager.History

/-!
# The wait slot

Who may wait, and how a wait ends, over whole runs of a manager. A wait that goes on in the
background is known to whoever watches the run by its reports alone: one step started it, and no
report since has told of its end. `IsBlockedAfter` says just that, without a look into the session.
The main statement, `wait_outcomes`, is about such waits and about those called next.

The session has to keep up with this. Its slot is filled by the step that starts a wait and emptied
by the report of its end, which is `run_blocked_eq_some_iff`. Every step ends with a look at the
link, so that a wait found in the slot between two steps is one that the link and the clock do not
end (`IsSettled`). This is why a second wait can be turned away without the first one noticing.
-/

set_option autoImplicit false

namespace Wlan

open Session

/-! ## Looks at the link -/

/-- A wait has no deadline if its limit, where it has one, reaches past the end of the clock. -/
theorem Wait.deadline?_eq_none_iff (w : Wait) (start : Moment) :
    w.deadline? start = none ↔ ∀ limit, w.limit? = some limit → clockEnd ≤ start + limit.nanos := by
  unfold Wait.deadline? Wlan.deadline?
  cases w.limit? with
  | none => simp
  | some limit => simp

theorem hasPassed_iff {deadline : Option Moment} {now : Moment} :
    hasPassed deadline now = true ↔ ∃ moment, deadline = some moment ∧ moment ≤ now := by
  cases deadline <;> simp [hasPassed]

/-- What a wait that began at `start` makes of the link when it looks: its outcome, if it ends. -/
structure Wait.EndsBy (w : Wait) (start : Moment) (link : Link) (now : Moment)
    (o : Option Outcome) : Prop where
  done : o = some .done ↔ w.pending link = false
  timedOut : ∀ limit, o = some (.timedOut limit) ↔ w.limit? = some limit ∧
    w.pending link = true ∧ ∃ moment, w.deadline? start = some moment ∧ moment ≤ now
  goesOn : o = none ↔
    w.pending link = true ∧ ¬ ∃ moment, w.deadline? start = some moment ∧ moment ≤ now

/-- A wait with a deadline has a limit, and it is this limit that it times out with. -/
theorem Wait.expiry_eq_timedOut {w : Wait} {start : Moment} (h : w.deadline? start ≠ none) :
    ∃ limit, w.limit? = some limit ∧ w.expiry = .timedOut limit := by
  cases hlimit : w.limit? with
  | none => exact absurd (by rw [Wait.deadline?, hlimit, Wlan.deadline?]) h
  | some limit => exact ⟨limit, rfl, by rw [Wait.expiry, hlimit]⟩

theorem endsBy_verdictOn (w : Wait) (start : Moment) (link : Link) (now : Moment) :
    w.EndsBy start link now (verdictOn w (w.deadline? start) link now) := by
  cases hpending : w.pending link with
  | false =>
    have hverdict : verdictOn w (w.deadline? start) link now = some .done := by
      simp [verdictOn, hpending]
    exact ⟨by simp [hverdict, hpending], by simp [hverdict, hpending], by simp [hverdict, hpending]⟩
  | true =>
    by_cases hpassed : hasPassed (w.deadline? start) now = true
    · have hmoment := hasPassed_iff.mp hpassed
      have hdeadline : w.deadline? start ≠ none := by
        obtain ⟨moment, heq, -⟩ := hmoment
        simp [heq]
      obtain ⟨limit, hlimit, hexpiry⟩ := Wait.expiry_eq_timedOut hdeadline
      have hverdict : verdictOn w (w.deadline? start) link now = some (.timedOut limit) := by
        simp [verdictOn, hpending, hpassed, hexpiry]
      exact ⟨by simp [hverdict, hpending], by simp [hverdict, hpending, hmoment, hlimit],
        by simp [hverdict, hmoment]⟩
    · have hverdict : verdictOn w (w.deadline? start) link now = none := by
        simp [verdictOn, hpending, hpassed]
      rw [hasPassed_iff] at hpassed
      exact ⟨by simp [hverdict, hpending], fun limit => by simp only [hverdict, hpassed]; simp,
        by simp only [hverdict, hpending, hpassed]; simp⟩

/-- The answer to a wait in the foreground that is not turned away. -/
structure Wait.AnswersWith (w : Wait) (link : Link) (now : Moment) (o : Outcome) : Prop where
  done : o = .done ↔ w.pending link = false
  timedOut : ∀ limit, o = .timedOut limit ↔
    w.limit? = some limit ∧ w.pending link = true ∧ w.deadline? now ≠ none
  endless : o = .endless ↔ w.pending link = true ∧ w.deadline? now = none
  answered : o ≠ .turnedAway

/-! ## Single steps -/

/-- The wait that a step calls, be it in the foreground or in the background. -/
def Step.call? : Step → Option Wait
  | .wait w => some w
  | .background w => some w
  | _ => none

/-- There is a background wait, and the step has not ended it. -/
def Report.SaysBlocked (r : Report) : Prop := ∃ log, r.background = some ⟨none, log⟩

namespace Session

theorem waitNow_blocked (s : Session) (w : Wait) : (s.waitNow w).1.blocked = s.blocked := by
  unfold waitNow
  split
  · rfl
  · dsimp only
    split
    · rfl
    · split <;> rfl

/-- What a step leaves in the slot before the wait there looks: what was there, or, if nothing was,
the wait that the step starts. -/
theorem act_blocked_eq_some_iff {s : Session} {t : Step} {b : Blocked} :
    (s.act t).1.blocked = some b ↔
      s.blocked = some b ∨
        s.blocked = none ∧ t = .background b.wait ∧ b.deadline = b.wait.deadline? s.now := by
  cases t with
  | command c answer => simp [act]
  | event e => simp [act]
  | elapse span => simp [act]
  | wait w =>
    have hblocked : (s.act (.wait w)).1.blocked = s.blocked := waitNow_blocked s w
    simp [hblocked]
  | background w =>
    rw [act]
    cases hs : s.blocked with
    | some c => simp [hs]
    | none =>
      obtain ⟨wait, deadline⟩ := b
      simp only [start, Option.isSome_none, Bool.false_eq_true, if_false, Option.some.injEq,
        Blocked.mk.injEq, reduceCtorEq, false_or, true_and, Step.background.injEq]
      constructor
      · rintro ⟨rfl, rfl⟩
        exact ⟨rfl, rfl⟩
      · rintro ⟨rfl, rfl⟩
        exact ⟨rfl, rfl⟩

/-- Without a wait in the slot nobody looks. -/
theorem step_of_blocked_eq_none {s : Session} {t : Step} (h : (s.act t).1.blocked = none) :
    (s.step t).1 = (s.act t).1 ∧ (s.step t).2.background = none := by
  have hrecheck : (s.act t).1.recheck (s.act t).2.1 = ((s.act t).1, none) := by
    rw [recheck, h]
  exact ⟨congrArg Prod.fst hrecheck, congrArg Prod.snd hrecheck⟩

/-- The wait in the slot looks last, and its look empties the slot exactly if it ends the wait. -/
theorem step_of_blocked_eq_some {s : Session} {t : Step} {b : Blocked}
    (h : (s.act t).1.blocked = some b) :
    let o := verdictOn b.wait b.deadline (s.act t).1.link (s.act t).1.now
    (s.step t).1 = { (s.act t).1 with blocked := if o = none then some b else none } ∧
      (s.step t).2.background
        = some ⟨o, (s.act t).2.1 ++ (o.map b.wait.closing).getD []⟩ := by
  intro o
  have hstep : (s.step t).1 = ((s.act t).1.recheck (s.act t).2.1).1 := rfl
  have hreport : (s.step t).2.background = ((s.act t).1.recheck (s.act t).2.1).2 := rfl
  rw [hstep, hreport, recheck, h]
  dsimp only
  cases ho : verdictOn b.wait b.deadline (s.act t).1.link (s.act t).1.now with
  | none => exact ⟨by simp [o, ho, ← h], by simp [o, ho]⟩
  | some outcome => exact ⟨by simp [o, ho], by simp [o, ho]⟩

theorem step_blocked_eq_some_iff {s : Session} {t : Step} {b : Blocked} :
    (s.step t).1.blocked = some b ↔
      (s.step t).2.SaysBlocked ∧ (s.act t).1.blocked = some b := by
  cases hact : (s.act t).1.blocked with
  | none =>
    obtain ⟨hstep, hreport⟩ := step_of_blocked_eq_none hact
    simp [hstep, hact]
  | some c =>
    obtain ⟨hstep, hreport⟩ := step_of_blocked_eq_some hact
    simp only [hstep, hreport, Report.SaysBlocked, Option.some.injEq, BackgroundReport.mk.injEq,
      exists_and_left, exists_eq', and_true]
    split <;> simp_all

/-! ## Settled sessions -/

/-- Neither the link nor the clock ends the wait in the slot. -/
def IsSettled (s : Session) : Prop :=
  ∀ b, s.blocked = some b → verdictOn b.wait b.deadline s.link s.now = none

theorem isSettled_step (s : Session) (t : Step) : (s.step t).1.IsSettled := by
  intro b hb
  obtain ⟨hstill, hact⟩ := step_blocked_eq_some_iff.mp hb
  obtain ⟨hstep, hreport⟩ := step_of_blocked_eq_some hact
  obtain ⟨log, hlog⟩ := hstill
  rw [hreport] at hlog
  rw [hstep]
  exact congrArg BackgroundReport.outcome (Option.some.inj hlog)

theorem isSettled_run (ts : List Step) : (({} : Session).run ts).1.IsSettled := by
  induction ts using List.reverseRecOn with
  | nil => exact nofun
  | append_singleton ts t _ =>
    rw [run_append]
    exact isSettled_step _ t

/-- A wait that is called while another one has the slot changes nothing. -/
theorem step_of_turnedAway {s : Session} (hs : s.IsSettled) {t : Step} {w : Wait}
    (ht : t.call? = some w) {b : Blocked} (hb : s.blocked = some b) :
    (s.step t).1 = s ∧ (s.step t).2.result = .waited .turnedAway ∧
      (s.step t).2.background = some ⟨none, []⟩ := by
  have hact : (s.act t).1 = s ∧ (s.act t).2.1 = [] ∧
      (s.act t).2.2.result = .waited .turnedAway := by
    cases t with
    | wait v => simp [act, waitNow, hb]
    | background v => simp [act, hb]
    | _ => cases ht
  obtain ⟨hsame, hopened, hresult⟩ := hact
  have hblocked : (s.act t).1.blocked = some b := by rw [hsame, hb]
  obtain ⟨hstep, hreport⟩ := step_of_blocked_eq_some hblocked
  rw [hsame, hs b hb] at hstep hreport
  exact ⟨by simpa [← hb] using hstep, hresult, by simpa [hopened] using hreport⟩

theorem waitNow_of_not_pending {s : Session} (hs : s.blocked = none) {w : Wait}
    (hw : w.pending s.link = false) : s.waitNow w = (s, .done) := by
  simp [waitNow, hs, verdictOn, hw]

/-- A wait in the foreground with nobody else active takes until its deadline, if it has one. -/
theorem waitNow_of_pending {s : Session} (hs : s.blocked = none) {w : Wait}
    (hw : w.pending s.link = true) :
    (s.waitNow w).2 = if w.deadline? s.now = none then .endless else w.expiry := by
  simp only [waitNow, hs, Option.isSome_none, Bool.false_eq_true, if_false, verdictOn, hw,
    Bool.not_true]
  cases hdeadline : w.deadline? s.now with
  | none => simp [hasPassed]
  | some moment => cases hasPassed (some moment) s.now <;> simp

theorem answersWith_waitNow {s : Session} (hs : s.blocked = none) (w : Wait) :
    w.AnswersWith s.link s.now (s.waitNow w).2 := by
  cases hpending : w.pending s.link with
  | false =>
    rw [waitNow_of_not_pending hs hpending]
    exact ⟨by simp [hpending], by simp [hpending], by simp [hpending], by simp⟩
  | true =>
    rw [waitNow_of_pending hs hpending]
    by_cases hdeadline : w.deadline? s.now = none
    · rw [if_pos hdeadline]
      exact ⟨by simp [hpending], by simp [hdeadline], by simp [hpending, hdeadline], by simp⟩
    · obtain ⟨limit, hlimit, hexpiry⟩ := Wait.expiry_eq_timedOut hdeadline
      rw [if_neg hdeadline, hexpiry]
      exact ⟨by simp [hpending], by simp [hpending, hdeadline, hlimit], by simp [hdeadline],
        by simp⟩

theorem not_turnedAway {s : Session} (hs : s.blocked = none) {t : Step} {w : Wait}
    (ht : t.call? = some w) : (s.step t).2.result ≠ .waited .turnedAway := by
  have hresult : (s.step t).2.result = (s.act t).2.2.result := rfl
  rw [hresult]
  cases t with
  | wait v => exact fun h => (answersWith_waitNow hs v).answered (StepResult.waited.inj h)
  | background v => simp [act, hs]
  | _ => cases ht

/-- A wait in the foreground that finds the slot free leaves it free. -/
theorem step_wait {s : Session} (hs : s.blocked = none) (w : Wait) :
    (∃ o, (s.step (.wait w)).2.result = .waited o ∧ w.AnswersWith s.link s.now o) ∧
      (w.pending s.link = false → (s.step (.wait w)).1 = s) ∧
      (s.step (.wait w)).1.blocked = none := by
  have hblocked : (s.act (.wait w)).1.blocked = none := (waitNow_blocked s w).trans hs
  obtain ⟨hstep, -⟩ := step_of_blocked_eq_none hblocked
  refine ⟨⟨(s.waitNow w).2, rfl, answersWith_waitNow hs w⟩, fun hpending => ?_, ?_⟩
  · exact hstep.trans (congrArg Prod.fst (waitNow_of_not_pending hs hpending))
  · rw [hstep, hblocked]

end Session

/-! ## Blocked waits -/

/-- A run from the beginning has left this wait blocked, as its reports tell: it was started at
this moment, and neither the report of that step nor a later one tells of its end. -/
def IsBlockedAfter (ts : List Step) (w : Wait) (start : Moment) : Prop :=
  ∃ before after, ts = before ++ .background w :: after ∧
    let called := (({} : Session).run before).1
    start = called.now ∧ (called.step (.background w)).2.result = .started ∧
      ∀ r ∈ (called.run (.background w :: after)).2, r.SaysBlocked

/-- One step more: the wait was blocked before or is started now, and the step does not end it. -/
theorem isBlockedAfter_concat {ts : List Step} {t : Step} {w : Wait} {start : Moment} :
    let s := (({} : Session).run ts).1
    IsBlockedAfter (ts ++ [t]) w start ↔
      (s.step t).2.SaysBlocked ∧ (IsBlockedAfter ts w start ∨
        t = .background w ∧ start = s.now ∧ (s.step t).2.result = .started) := by
  intro s
  -- The reports since the wait was called are those up to the last step and its own.
  have hreports (before init : List Step) (hts : ts = before ++ init) :
      let called := (({} : Session).run before).1
      (called.run (init ++ [t])).2 = (called.run init).2 ++ [(s.step t).2] := by
    intro called
    have hs : (called.run init).1 = s := by simp only [s, called, hts, run_append]
    rw [run_append, hs]
    rfl
  constructor
  · rintro ⟨before, after, hsplit, hstart, hstarted, hstill⟩
    rcases List.eq_nil_or_concat after with rfl | ⟨init, last, rfl⟩
    · obtain ⟨rfl, hlast⟩ := List.append_inj' hsplit rfl
      obtain rfl := (List.cons.inj hlast).1
      exact ⟨hstill _ List.mem_cons_self, Or.inr ⟨rfl, hstart, hstarted⟩⟩
    · rw [List.concat_eq_append] at hsplit hstill
      rw [← List.cons_append, ← List.append_assoc] at hsplit
      obtain ⟨hts, hlast⟩ := List.append_inj' hsplit rfl
      obtain rfl := (List.cons.inj hlast).1
      rw [← List.cons_append, hreports before _ hts, List.forall_mem_append] at hstill
      exact ⟨hstill.2 _ List.mem_cons_self, Or.inl ⟨before, init, hts, hstart, hstarted, hstill.1⟩⟩
  · rintro ⟨hlast, ⟨before, after, hts, hstart, hstarted, hstill⟩ | ⟨rfl, hstart, hstarted⟩⟩
    · refine ⟨before, after ++ [t], by rw [hts, List.append_assoc, List.cons_append], hstart,
        hstarted, ?_⟩
      rw [← List.cons_append, hreports before _ hts, List.forall_mem_append]
      exact ⟨hstill, List.forall_mem_singleton.mpr hlast⟩
    · exact ⟨ts, [], rfl, hstart, hstarted, List.forall_mem_singleton.mpr hlast⟩

/-- A step starts a wait in the background exactly if it finds the slot free. -/
theorem started_iff {s : Session} {w : Wait} :
    (s.step (.background w)).2.result = .started ↔ s.blocked = none := by
  have hresult : (s.step (.background w)).2.result = (s.act (.background w)).2.2.result := rfl
  rw [hresult, act]
  cases s.blocked <;> simp

/-- The slot holds the wait that the run has left blocked. -/
theorem run_blocked_eq_some_iff {ts : List Step} {b : Blocked} :
    (({} : Session).run ts).1.blocked = some b ↔
      ∃ start, b.deadline = b.wait.deadline? start ∧ IsBlockedAfter ts b.wait start := by
  induction ts using List.reverseRecOn with
  | nil =>
    constructor
    · nofun
    · rintro ⟨start, -, before, after, hsplit, -⟩
      exact absurd hsplit (by simp)
  | append_singleton ts t ih =>
    have hrun : (({} : Session).run (ts ++ [t])).1 = ((({} : Session).run ts).1.step t).1 := by
      rw [run_append]
      rfl
    rw [hrun, step_blocked_eq_some_iff, act_blocked_eq_some_iff, ih]
    constructor
    · rintro ⟨hstill, ⟨start, hdeadline, hbefore⟩ | ⟨hfree, rfl, hdeadline⟩⟩
      · exact ⟨start, hdeadline, isBlockedAfter_concat.mpr ⟨hstill, Or.inl hbefore⟩⟩
      · exact ⟨_, hdeadline,
          isBlockedAfter_concat.mpr ⟨hstill, Or.inr ⟨rfl, rfl, started_iff.mpr hfree⟩⟩⟩
    · rintro ⟨start, hdeadline, hafter⟩
      obtain ⟨hstill, hbefore | ⟨rfl, rfl, hstarted⟩⟩ := isBlockedAfter_concat.mp hafter
      · exact ⟨hstill, Or.inl ⟨start, hdeadline, hbefore⟩⟩
      · exact ⟨hstill, Or.inr ⟨started_iff.mp hstarted, rfl, hdeadline⟩⟩

/-- No wait is blocked if and only if the slot is free. -/
theorem run_blocked_eq_none_iff {ts : List Step} :
    (({} : Session).run ts).1.blocked = none ↔ ¬ ∃ w start, IsBlockedAfter ts w start := by
  rw [Option.eq_none_iff_forall_ne_some]
  constructor
  · rintro hfree ⟨w, start, hafter⟩
    exact hfree ⟨w, w.deadline? start⟩ (run_blocked_eq_some_iff.mpr ⟨start, rfl, hafter⟩)
  · rintro hnone b hb
    obtain ⟨start, -, hafter⟩ := run_blocked_eq_some_iff.mp hb
    exact hnone ⟨b.wait, start, hafter⟩

/-- At most one wait is blocked at a time. -/
theorem IsBlockedAfter.unique {ts : List Step} {v w : Wait} {start begun : Moment}
    (hv : IsBlockedAfter ts v start) (hw : IsBlockedAfter ts w begun) : v = w ∧ start = begun := by
  induction ts using List.reverseRecOn with
  | nil =>
    obtain ⟨before, after, hsplit, -⟩ := hv
    exact absurd hsplit (by simp)
  | append_singleton ts t ih =>
    obtain ⟨-, hold | ⟨htv, hstart, hstarted⟩⟩ := isBlockedAfter_concat.mp hv
    · obtain ⟨-, hold' | ⟨rfl, -, hstarted⟩⟩ := isBlockedAfter_concat.mp hw
      · exact ih hold hold'
      · exact absurd ⟨v, start, hold⟩ (run_blocked_eq_none_iff.mp (started_iff.mp hstarted))
    · obtain ⟨-, hold | ⟨htw, hbegun, -⟩⟩ := isBlockedAfter_concat.mp hw
      · subst htv
        exact absurd ⟨w, begun, hold⟩ (run_blocked_eq_none_iff.mp (started_iff.mp hstarted))
      · exact ⟨Step.background.inj (htv.symm.trans htw), hstart.trans hbegun.symm⟩

/-! ## Whole runs -/

/-- **How waits end**, after any run and in the step that comes next.

A wait that is called is turned away exactly if one is blocked, of which there is never more than
one, and then nothing changes but the answer. A wait in the foreground that is not turned away finds
its condition met and comes back at once, or takes until its deadline, or has none and never ends;
the slot is free when it is over. A wait in the background ends with the first step after which its
condition holds, or else its deadline has passed; it is blocked further or the slot is free. No wait
changes the link. -/
theorem wait_outcomes (ts : List Step) (t : Step) :
    let s := (({} : Session).run ts).1
    let s' := (s.step t).1
    let r := (s.step t).2
    let isTaken := ∃ v start, IsBlockedAfter ts v start
    let isTakenAfter := ∃ v start, IsBlockedAfter (ts ++ [t]) v start
    (∀ v w start begun, IsBlockedAfter ts v start → IsBlockedAfter ts w begun →
      v = w ∧ start = begun) ∧
    (∀ w, t.call? = some w →
      (r.result = .waited .turnedAway ↔ isTaken) ∧
        (isTaken → s' = s ∧ r.background = some ⟨none, []⟩)) ∧
    (∀ w, t = .wait w → ¬ isTaken →
      (∃ o, r.result = .waited o ∧ w.AnswersWith s.link s.now o) ∧
        (w.pending s.link = false → s' = s) ∧ ¬ isTakenAfter) ∧
    (∀ w start, (IsBlockedAfter ts w start ∨ t = .background w ∧ start = s.now ∧ ¬ isTaken) →
      ∃ o log, r.background = some ⟨o, log⟩ ∧ w.EndsBy start s'.link s'.now o ∧
        (o = none → IsBlockedAfter (ts ++ [t]) w start) ∧ (o ≠ none → ¬ isTakenAfter)) ∧
    (∀ (w : Wait) (start : Moment), w.deadline? start = none ↔
      ∀ limit, w.limit? = some limit → clockEnd ≤ start + limit.nanos) ∧
    s'.link = s.link.replay t.changes ∧ (t.call? ≠ none → s'.link = s.link) := by
  intro s s' r isTaken isTakenAfter
  have hfree : s.blocked = none ↔ ¬ isTaken := run_blocked_eq_none_iff
  have hafter : s'.blocked = none ↔ ¬ isTakenAfter := by
    rw [← run_blocked_eq_none_iff, run_append]
    rfl
  have hlink : s'.link = s.link.replay t.changes := step_link s t
  refine ⟨fun v w start begun => IsBlockedAfter.unique, fun w hw => ?_, ?_, ?_,
    Wait.deadline?_eq_none_iff, hlink, fun hcall => ?_⟩
  · have hturnedAway : isTaken → s' = s ∧ r.result = .waited .turnedAway ∧
        r.background = some ⟨none, []⟩ := by
      rintro ⟨v, start, hblocked⟩
      exact step_of_turnedAway (isSettled_run ts) hw
        (run_blocked_eq_some_iff.mpr ⟨start, rfl, hblocked⟩ :
          s.blocked = some ⟨v, v.deadline? start⟩)
    refine ⟨⟨fun hresult => ?_, fun htaken => (hturnedAway htaken).2.1⟩,
      fun htaken => ⟨(hturnedAway htaken).1, (hturnedAway htaken).2.2⟩⟩
    by_contra hnot
    exact not_turnedAway (hfree.mpr hnot) hw hresult
  · rintro w rfl hnot
    obtain ⟨hanswer, hsame, hstill⟩ := step_wait (hfree.mpr hnot) w
    exact ⟨hanswer, hsame, hafter.mp hstill⟩
  · intro w start hw
    -- Either way the wait is in the slot when the look is taken.
    have hact : (s.act t).1.blocked = some ⟨w, w.deadline? start⟩ := by
      rw [act_blocked_eq_some_iff]
      rcases hw with hblocked | ⟨rfl, rfl, hnot⟩
      · exact Or.inl (run_blocked_eq_some_iff.mpr ⟨start, rfl, hblocked⟩)
      · exact Or.inr ⟨hfree.mpr hnot, rfl, rfl⟩
    obtain ⟨hstep, hreport⟩ := step_of_blocked_eq_some hact
    refine ⟨_, _, hreport, ?_, fun hnone => ?_, fun hended => ?_⟩
    · have hsame : s'.link = (s.act t).1.link ∧ s'.now = (s.act t).1.now := by
        simp only [s', hstep, and_self]
      rw [hsame.1, hsame.2]
      exact endsBy_verdictOn w start _ _
    · refine isBlockedAfter_concat.mpr ⟨⟨_, by rw [hreport, hnone]⟩, ?_⟩
      exact hw.imp_right fun ⟨ht, hstart, hnot⟩ => ⟨ht, hstart, by
        subst ht
        exact started_iff.mpr (hfree.mpr hnot)⟩
    · rw [← hafter]
      simp only [s', hstep, if_neg hended]
  · have hchanges : t.changes = [] := by
      cases t with
      | wait w => rfl
      | background w => rfl
      | _ => exact absurd rfl hcall
    rw [hlink, hchanges]
    rfl

/-- A wait whose condition holds is turned away by one that has just been started. -/
theorem wait_outcomes_turnedAway :
    let ts : List Step := [.command .scan ⟨[], .accepted⟩, .background .scanDone]
    let s := (({} : Session).run ts).1
    let late : Wait := .connecting (.ofSeconds 5)
    late.pending s.link = false ∧ (s.step (.wait late)).2.result = .waited .turnedAway ∧
      (s.step (.wait late)).1 = s := by
  intro ts s late
  obtain ⟨-, hcall, -⟩ := wait_outcomes ts (.wait late)
  obtain ⟨hresult, hsame⟩ := hcall late rfl
  have htaken : ∃ v start, IsBlockedAfter ts v start :=
    ⟨.scanDone, 0, [.command .scan ⟨[], .accepted⟩], [], rfl, rfl, rfl,
      List.forall_mem_singleton.mpr ⟨_, rfl⟩⟩
  exact ⟨rfl, hresult.mpr htaken, (hsame htaken).1⟩

end Wlan
