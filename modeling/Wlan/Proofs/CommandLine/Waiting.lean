import Wlan.CommandLine.Timeline
import Wlan.Proofs.Manager.Early
import Wlan.Proofs.NetworkManager.Lease

/-!
# Waiting for a job

The acts of a job happen one after the other, and the pauses before an act decide when it happens
(`delay`). As long as they touch nothing, a caller who waits goes on to wait. So what decides about
a wait is the report that it is for: if that comes before the deadline, the wait ends with it and
leaves the rest of the job to come (`awaitFrom_report`), and else it runs out
(`awaitFrom_report_late`), as it does where no such report is to come (`awaitFrom_idle`). A wait
whose deadline would be past the end of the clock has none, and so does not run out at all. What the
job logs is none of the caller's business, and is the same however long that waits
(`log_awaitFrom`).
-/

set_option autoImplicit false

namespace Wlan.CommandLine

open NetworkManager
open Session (verdictOn)

/-! ## When acts happen -/

/-- What the pauses among the acts cost a caller. -/
def delay (pace : Pace) : List Act → Nat
  | [] => 0
  | .pause millis :: acts => pace millis + delay pace acts
  | _ :: acts => delay pace acts

theorem delay_remark (pace : Pace) (line : LogLine) (acts : List Act) :
    delay pace (.remark line :: acts) = delay pace acts := rfl

theorem delay_of_pausesOf {pace : Pace} {acts : List Act} {n millis : Nat}
    (h : pausesOf acts = List.replicate n millis) : delay pace acts = n * pace millis := by
  induction acts generalizing n with
  | nil =>
    cases n with
    | zero => exact (Nat.zero_mul _).symm
    | succ n => cases h
  | cons a acts ih =>
    cases a with
    | pause first =>
      cases n with
      | zero => cases h
      | succ n =>
        obtain ⟨rfl, hrest⟩ := List.cons.inj h
        rw [delay, ih hrest, Nat.succ_mul, Nat.add_comm]
    | report e => exact ih h
    | publish found => exact ih h
    | remark line => exact ih h

/-! ## Deadlines -/

/-- After so long a wait has run out if its deadline is one that the clock can show. -/
theorem hasPassed_deadline? {w : Wait} {limit : Span} (hlimit : w.limit? = some limit)
    (start : Moment) (span : Nat) :
    hasPassed (w.deadline? start) (start + span) = true ↔
      start + limit.nanos < clockEnd ∧ limit.nanos ≤ span := by
  rw [Wait.deadline?, hlimit, Wlan.deadline?]
  split
  · next hrange =>
    rw [and_iff_right hrange]
    exact decide_eq_true_iff.trans Nat.add_le_add_iff_left
  · next hrange => exact iff_of_false Bool.false_ne_true fun h => hrange h.1

/-! ## Waits -/

namespace Timeline

variable {w : Wait} {deadline : Option Moment} {station : Station} {pace : Pace}

/-- A wait for what is there already ends at once. -/
theorem awaitFrom_of_not_pending (h : w.pending station.link = false) (now : Moment)
    (due : List Due) :
    awaitFrom w deadline station now due = ⟨.done, ⟨station, now, due⟩, []⟩ := by
  have hverdict : verdictOn w deadline station.link now = some .done := by
    rw [verdictOn, h]
    rfl
  cases due with
  | nil => simp only [awaitFrom, hverdict]
  | cons d due => simp only [awaitFrom, hverdict]

/-- A wait whose deadline has passed already ends at once, too. -/
theorem outcome_awaitFrom_of_expired (hpending : w.pending station.link = true) {now : Moment}
    (hpassed : hasPassed deadline now = true) (due : List Due) :
    (awaitFrom w deadline station now due).outcome = w.expiry := by
  have hverdict : verdictOn w deadline station.link now = some w.expiry := by
    rw [verdictOn, hpending, hpassed]
    rfl
  cases due with
  | nil => simp only [awaitFrom, hverdict]
  | cons d due => simp only [awaitFrom, hverdict]

/-- What is waited for does not come in time if the deadline passes before the next act. -/
theorem outcome_awaitFrom_of_hasPassed (hpending : w.pending station.link = true)
    {now moment : Moment} (hpassed : hasPassed deadline moment = true) (act : Act)
    (rest : List Due) :
    (awaitFrom w deadline station now ((moment, act) :: rest)).outcome = w.expiry := by
  cases hnow : hasPassed deadline now with
  | true => exact outcome_awaitFrom_of_expired hpending hnow _
  | false =>
    have hverdict : verdictOn w deadline station.link now = none :=
      verdictOn_eq_none_iff.mpr ⟨hpending, hnow⟩
    simp only [awaitFrom, hverdict, hpassed, reduceIte]

/-- An act that comes in time happens, and the wait goes on. -/
theorem awaitFrom_of_not_hasPassed (hpending : w.pending station.link = true) {now moment : Moment}
    (hle : now ≤ moment) (hpassed : hasPassed deadline moment = false) (act : Act)
    (rest : List Due) :
    let waited := awaitFrom w deadline station now ((moment, act) :: rest)
    let later := awaitFrom w deadline (station.apply act).1 moment rest
    waited.outcome = later.outcome ∧ waited.timeline = later.timeline := by
  have hnow : hasPassed deadline now = false := by
    obtain ⟨span, rfl⟩ := Nat.exists_eq_add_of_le hle
    exact hasPassed_eq_false_of_later hpassed
  have hverdict : verdictOn w deadline station.link now = none :=
    verdictOn_eq_none_iff.mpr ⟨hpending, hnow⟩
  simp [awaitFrom, hverdict, hpassed, Nat.max_eq_right hle]

section

variable {acts : List Act} {now start : Moment}

/-- A report that comes in time ends the wait for it; acts that touch nothing do not. -/
theorem awaitFrom_report (hpending : w.pending station.link = true) {e : Event}
    (hmet : w.pending (station.link.deliver e) = false) (hidle : ∀ a ∈ acts, a.IsIdle)
    (hle : now ≤ start) (rest : List Act)
    (htime : hasPassed deadline (start + delay pace acts) = false) :
    let waited := awaitFrom w deadline station now (schedule pace start (acts ++ .report e :: rest))
    waited.outcome = .done ∧ waited.timeline = ⟨{ station with link := station.link.deliver e },
      start + delay pace acts, schedule pace (start + delay pace acts) rest⟩ := by
  induction acts generalizing now start with
  | nil =>
    obtain ⟨houtcome, htimeline⟩ := awaitFrom_of_not_hasPassed hpending hle htime (.report e)
      (schedule pace start rest)
    have happlied : w.pending (station.apply (.report e)).1.link = false := hmet
    rw [awaitFrom_of_not_pending happlied] at houtcome htimeline
    exact ⟨houtcome, htimeline⟩
  | cons a acts ih =>
    obtain ⟨hfirst, hrest⟩ := List.forall_mem_cons.mp hidle
    cases a with
    | report e => exact hfirst.elim
    | publish found => exact hfirst.elim
    | pause millis =>
      rw [delay, ← Nat.add_assoc] at htime ⊢
      exact ih hrest (Nat.le_add_right_of_le hle) htime
    | remark line =>
      rw [delay_remark] at htime ⊢
      obtain ⟨houtcome, htimeline⟩ := awaitFrom_of_not_hasPassed hpending hle
        (hasPassed_eq_false_of_later htime) (.remark line)
        (schedule pace start (acts ++ .report e :: rest))
      obtain ⟨hdone, hafter⟩ := ih hrest (Nat.le_refl start) htime
      exact ⟨houtcome.trans hdone, htimeline.trans hafter⟩

/-- A report that comes too late is not waited for. -/
theorem awaitFrom_report_late (hpending : w.pending station.link = true)
    (hidle : ∀ a ∈ acts, a.IsIdle) (hle : now ≤ start) (e : Event) (rest : List Act)
    (hlate : hasPassed deadline (start + delay pace acts) = true) :
    (awaitFrom w deadline station now (schedule pace start (acts ++ .report e :: rest))).outcome
      = w.expiry := by
  induction acts generalizing now start with
  | nil => exact outcome_awaitFrom_of_hasPassed hpending hlate _ _
  | cons a acts ih =>
    obtain ⟨hfirst, hrest⟩ := List.forall_mem_cons.mp hidle
    cases a with
    | report e => exact hfirst.elim
    | publish found => exact hfirst.elim
    | pause millis =>
      rw [delay, ← Nat.add_assoc] at hlate
      exact ih hrest (Nat.le_add_right_of_le hle) hlate
    | remark line =>
      cases hstart : hasPassed deadline start with
      | true => exact outcome_awaitFrom_of_hasPassed hpending hstart _ _
      | false =>
        obtain ⟨houtcome, -⟩ := awaitFrom_of_not_hasPassed hpending hle hstart (.remark line)
          (schedule pace start (acts ++ .report e :: rest))
        exact houtcome.trans (ih hrest (Nat.le_refl start) hlate)

/-- Where nothing is to come, a wait runs out, or never ends if it has no deadline. -/
theorem awaitFrom_idle (hpending : w.pending station.link = true) (hidle : ∀ a ∈ acts, a.IsIdle)
    (hle : now ≤ start) :
    (awaitFrom w deadline station now (schedule pace start acts)).outcome
      = if deadline = none then .endless else w.expiry := by
  induction acts generalizing now start with
  | nil =>
    cases hnow : hasPassed deadline now with
    | true =>
      have hdeadline : deadline ≠ none := by
        rintro rfl
        cases hnow
      exact (outcome_awaitFrom_of_expired hpending hnow _).trans (if_neg hdeadline).symm
    | false =>
      have hverdict : verdictOn w deadline station.link now = none :=
        verdictOn_eq_none_iff.mpr ⟨hpending, hnow⟩
      cases deadline <;> simp [schedule, awaitFrom, hverdict]
  | cons a acts ih =>
    obtain ⟨hfirst, hrest⟩ := List.forall_mem_cons.mp hidle
    cases a with
    | report e => exact hfirst.elim
    | publish found => exact hfirst.elim
    | pause millis => exact ih hrest (Nat.le_add_right_of_le hle)
    | remark line =>
      cases hstart : hasPassed deadline start with
      | true =>
        have hdeadline : deadline ≠ none := by
          rintro rfl
          cases hstart
        exact (outcome_awaitFrom_of_hasPassed hpending hstart _ _).trans (if_neg hdeadline).symm
      | false =>
        obtain ⟨houtcome, -⟩ := awaitFrom_of_not_hasPassed hpending hle hstart (.remark line)
          (schedule pace start acts)
        exact houtcome.trans (ih hrest (Nat.le_refl start))

end

/-! ## What a job logs -/

/-- What the job logs while somebody waits and what it logs afterwards are all that it logs, however
the wait ends. -/
theorem log_awaitFrom (w : Wait) (deadline : Option Moment) (station : Station) (now : Moment)
    (due : List Due) :
    let waited := awaitFrom w deadline station now due
    waited.log ++ waited.timeline.finish.2 = (station.applyAll (due.map Prod.snd)).2 := by
  induction due generalizing station now with
  | nil =>
    unfold awaitFrom
    cases verdictOn w deadline station.link now <;> cases deadline <;> rfl
  | cons d due ih =>
    obtain ⟨moment, act⟩ := d
    rw [awaitFrom]
    cases verdictOn w deadline station.link now with
    | some outcome => rfl
    | none =>
      dsimp only
      split
      · rfl
      · rw [List.append_assoc, ih]
        rfl

end Timeline

theorem remarks_schedule (pace : Pace) (now : Moment) (acts : List Act) :
    remarks ((schedule pace now acts).map Prod.snd) = remarks acts := by
  induction acts generalizing now with
  | nil => rfl
  | cons a acts ih =>
    cases a with
    | remark line => exact congrArg (line :: ·) (ih now)
    | pause millis => exact ih _
    | report e => exact ih now
    | publish found => exact ih now

/-- A station that lets a job happen logs all of its remarks. -/
theorem mem_applyAll_of_mem_remarks {acts : List Act} {line : LogLine} (hline : line ∈ remarks acts)
    (station : Station) : line ∈ (station.applyAll acts).2 := by
  induction acts generalizing station with
  | nil => exact hline
  | cons a acts ih =>
    refine List.mem_append.mpr ?_
    cases a with
    | remark first =>
      rcases List.mem_cons.mp hline with rfl | hrest
      · exact Or.inl (List.mem_singleton.mpr rfl)
      · exact Or.inr (ih hrest _)
    | report e => exact Or.inr (ih hline _)
    | publish found => exact Or.inr (ih hline _)
    | pause millis => exact Or.inr (ih hline _)

end Wlan.CommandLine
