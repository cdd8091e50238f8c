import Wlan.Proofs.Manager.Account
import Wlan.Proofs.Manager.Slot

/-!
# Events before the answer

A stack may deliver what a request leads to before it has answered the request. Nothing is lost by
that: the mark was made beforehand, and an answer that takes the request leaves the link alone. So
it makes no difference to the link how many of the events come before the answer, and the same is
true of the whole session.

A caller who waits for the outcome may begin to wait at any point among the events, and the events
after that point are delivered while the wait goes on. No event takes back what another one brought
about (`pending_deliverAll`), so that a condition once met stays met, and the wait finds out the
same wherever it began. Only the clock could tell the difference: a wait that runs out before the
last event may miss it.
-/

set_option autoImplicit false

namespace Wlan

open Session

/-! ## Conditions that stay met -/

theorem pending_deliver {w : Wait} {link : Link} {e : Event}
    (h : w.pending (link.deliver e) = true) : w.pending link = true := by
  have hmark (errand : Errand) (he : (link.deliver e).isMarked errand = true) :
      link.isMarked errand = true := by
    rw [Link.isMarked_deliver, Bool.and_eq_true] at he
    exact he.2
  cases w with
  | scanDone => exact hmark .scan h
  | connecting limit => exact hmark .connect h
  | disconnecting limit => exact hmark .disconnect h
  | lease limit =>
    have hleased := (Link.lease_undergo link (.deliver e)).2
    rw [Link.undergo] at hleased
    rw [Wait.pending, hleased, Bool.not_or, Bool.and_eq_true] at h
    exact h.2

theorem pending_deliverAll {w : Wait} {link : Link} {es : List Event}
    (h : w.pending (link.deliverAll es) = true) : w.pending link = true := by
  induction es generalizing link with
  | nil => exact h
  | cons e es ih => exact pending_deliver (ih h)

/-- A condition that is met stays met. -/
theorem pending_deliverAll_eq_false {w : Wait} {link : Link} (h : w.pending link = false)
    (es : List Event) : w.pending (link.deliverAll es) = false := by
  rw [Bool.eq_false_iff] at h ⊢
  exact fun hes => h (pending_deliverAll hes)

/-- A deadline that is still to come was so before. -/
theorem hasPassed_eq_false_of_later {deadline : Option Moment} {now : Moment} {span : Nat}
    (h : hasPassed deadline (now + span) = false) : hasPassed deadline now = false := by
  rw [Bool.eq_false_iff, ne_eq, hasPassed_iff] at h ⊢
  rintro ⟨moment, hdeadline, hle⟩
  exact h ⟨moment, hdeadline, Nat.le_add_right_of_le hle⟩

theorem verdictOn_eq_none_iff {w : Wait} {deadline : Option Moment} {link : Link} {now : Moment} :
    verdictOn w deadline link now = none ↔
      w.pending link = true ∧ hasPassed deadline now = false := by
  unfold verdictOn
  cases w.pending link <;> cases hasPassed deadline now <;> simp

/-- Neither events nor the clock make a wait go on that has come to its end. -/
theorem verdictOn_eq_none_of_later {w : Wait} {deadline : Option Moment} {link : Link}
    {now : Moment} {es : List Event} {span : Nat}
    (h : verdictOn w deadline (link.deliverAll es) (now + span) = none) :
    verdictOn w deadline link now = none := by
  obtain ⟨hpending, hpassed⟩ := verdictOn_eq_none_iff.mp h
  exact verdictOn_eq_none_iff.mpr
    ⟨pending_deliverAll hpending, hasPassed_eq_false_of_later hpassed⟩

/-! ## Deliveries -/

/-- Whether a step is a delivery or lets time pass, and nothing else. -/
def Step.isQuiet : Step → Bool
  | .event _ => true
  | .elapse _ => true
  | _ => false

def Step.delivered : Step → List Event
  | .event e => [e]
  | _ => []

/-- The time that a step lets pass, in nanoseconds. -/
def Step.passed : Step → Nat
  | .elapse span => span.nanos
  | _ => 0

def deliveries (ts : List Step) : List Event := ts.flatMap Step.delivered

def duration : List Step → Nat
  | [] => 0
  | t :: ts => t.passed + duration ts

/-- What is left of the steps without the deliveries. -/
def pauses (ts : List Step) : List Step := ts.filter fun t => t.delivered.isEmpty

@[simp] theorem deliveries_pauses (ts : List Step) : deliveries (pauses ts) = [] := by
  simp [deliveries, pauses]

@[simp] theorem duration_pauses (ts : List Step) : duration (pauses ts) = duration ts := by
  induction ts with
  | nil => rfl
  | cons t ts ih =>
    cases t with
    | event e => exact ih.trans (Nat.zero_add _).symm
    | _ => exact congrArg (_ + ·) ih

theorem isQuiet_pauses {ts : List Step} (hts : ∀ t ∈ ts, t.isQuiet = true) :
    ∀ t ∈ pauses ts, t.isQuiet = true :=
  fun t ht => hts t (List.mem_of_mem_filter ht)

namespace Session

/-- The session once its blocked wait has looked at this link at this moment. -/
def look (s : Session) (link : Link) (now : Moment) : Session where
  link := link
  now := now
  blocked := s.blocked.filter fun b => (verdictOn b.wait b.deadline link now).isNone

/-- A look that is followed by a later one need not have been taken. -/
theorem look_look (s : Session) (link : Link) (now : Moment) (es : List Event) (span : Nat) :
    (s.look link now).look (link.deliverAll es) (now + span)
      = s.look (link.deliverAll es) (now + span) := by
  have hlater (b : Blocked) :
      ((verdictOn b.wait b.deadline link now).isNone &&
        (verdictOn b.wait b.deadline (link.deliverAll es) (now + span)).isNone)
        = (verdictOn b.wait b.deadline (link.deliverAll es) (now + span)).isNone := by
    cases hb : verdictOn b.wait b.deadline (link.deliverAll es) (now + span) with
    | none => simp [verdictOn_eq_none_of_later hb]
    | some outcome => simp
  simp only [look, Option.filter_filter, hlater]

/-- A step ends with a look. -/
theorem step_look (s : Session) (t : Step) :
    (s.step t).1 = (s.act t).1.look (s.act t).1.link (s.act t).1.now := by
  cases hs : (s.act t).1.blocked with
  | none =>
    rw [(step_of_blocked_eq_none hs).1, look, hs]
    exact congrArg (Session.mk _ _) hs
  | some b =>
    rw [(step_of_blocked_eq_some hs).1, look, hs]
    cases hv : verdictOn b.wait b.deadline (s.act t).1.link (s.act t).1.now <;>
      simp [Option.filter, hv]

/-- A command that is taken marks the link, and then there are only the events. -/
theorem step_accepted (s : Session) {c : Command} {r : Request} (hr : c.request = .ok r)
    (es : List Event) :
    (s.step (.command c ⟨es, .accepted⟩)).1 = s.look ((s.link.submit c).deliverAll es) s.now := by
  have hlink : (c.perform s.link ⟨es, .accepted⟩).link = (s.link.submit c).deliverAll es := by
    rw [Command.perform, hr]
    exact Link.settle_accepted _ c
  rw [step_look]
  exact congrArg (s.look · s.now) hlink

theorem act_quiet (s : Session) {t : Step} (ht : t.isQuiet = true) :
    (s.act t).1 = { s with link := s.link.deliverAll t.delivered, now := s.now + t.passed } := by
  cases t with
  | event e => rfl
  | elapse span => rfl
  | _ => cases ht

/-- Deliveries after a look come to one look after all of them. -/
theorem run_quiet (s : Session) {ts : List Step} (hts : ∀ t ∈ ts, t.isQuiet = true) (link : Link)
    (now : Moment) :
    ((s.look link now).run ts).1
      = s.look (link.deliverAll (deliveries ts)) (now + duration ts) := by
  induction ts generalizing link now with
  | nil => rfl
  | cons t ts ih =>
    obtain ⟨ht, hrest⟩ := List.forall_mem_cons.mp hts
    have hstep : ((s.look link now).step t).1
        = s.look (link.deliverAll t.delivered) (now + t.passed) := by
      rw [step_look, act_quiet _ ht]
      exact look_look s link now _ _
    rw [run_cons]
    dsimp only
    rw [hstep, ih hrest]
    simp [deliveries, duration, Link.deliverAll_append, Nat.add_assoc]

theorem run_command (s : Session) {c : Command} {r : Request} (hr : c.request = .ok r)
    (es : List Event) {ts : List Step} (hts : ∀ t ∈ ts, t.isQuiet = true) :
    (s.run (.command c ⟨es, .accepted⟩ :: ts)).1
      = s.look ((s.link.submit c).deliverAll (es ++ deliveries ts)) (s.now + duration ts) := by
  rw [run_cons]
  dsimp only
  rw [step_accepted s hr, run_quiet s hts, ← Link.deliverAll_append]

theorem act_background {s : Session} (hs : s.blocked = none) (w : Wait) :
    (s.act (.background w)).1 = s.start w := by
  simp [act, hs]

theorem run_background {s : Session} (hs : s.blocked = none) (w : Wait) {ts : List Step}
    (hts : ∀ t ∈ ts, t.isQuiet = true) :
    (s.run (.background w :: ts)).1
      = (s.start w).look (s.link.deliverAll (deliveries ts)) (s.now + duration ts) := by
  rw [run_cons]
  dsimp only
  rw [step_look, act_background hs]
  exact run_quiet (s.start w) hts _ _

/-! ## Waits among the deliveries -/

/-- The outcome of the background wait, as the reports of a run tell it: absent while it goes on. -/
def outcomeIn (reports : List Report) : Option Outcome :=
  reports.findSome? fun r => r.background.bind BackgroundReport.outcome

theorem outcomeIn_append (s : Session) (ts us : List Step) :
    outcomeIn (s.run (ts ++ us)).2
      = (outcomeIn (s.run ts).2).or (outcomeIn ((s.run ts).1.run us).2) := by
  rw [run_append]
  exact List.findSome?_append

/-- Where nobody waits and nobody calls a wait, there is no outcome. -/
theorem outcomeIn_of_free {s : Session} (hs : s.blocked = none) {ts : List Step}
    (hts : ∀ t ∈ ts, t.call? = none) :
    (s.run ts).1.blocked = none ∧ outcomeIn (s.run ts).2 = none := by
  induction ts generalizing s with
  | nil => exact ⟨hs, rfl⟩
  | cons t ts ih =>
    obtain ⟨ht, hrest⟩ := List.forall_mem_cons.mp hts
    have hact : (s.act t).1.blocked = none := by
      rw [Option.eq_none_iff_forall_ne_some]
      intro b hb
      rcases act_blocked_eq_some_iff.mp hb with hold | ⟨-, rfl, -⟩
      · exact absurd (hs.symm.trans hold) (by simp)
      · cases ht
    obtain ⟨hstep, hreport⟩ := step_of_blocked_eq_none hact
    obtain ⟨hfree, hnone⟩ := ih (hstep ▸ hact) hrest
    refine ⟨hfree, ?_⟩
    rw [run_cons, outcomeIn, List.findSome?_cons, hreport]
    exact hnone

/-- A wait in time ends with the step after which its condition holds, and else goes on. -/
theorem outcomeIn_cons_of_blocked {s : Session} {t : Step} {b : Blocked}
    (hb : (s.act t).1.blocked = some b)
    (hintime : hasPassed b.deadline (s.act t).1.now = false) (ts : List Step) :
    outcomeIn (s.run (t :: ts)).2
      = if b.wait.pending (s.act t).1.link = true then outcomeIn ((s.act t).1.run ts).2
        else some .done := by
  obtain ⟨hstep, hreport⟩ := step_of_blocked_eq_some hb
  rw [run_cons, outcomeIn, List.findSome?_cons, hreport]
  cases hpending : b.wait.pending (s.act t).1.link with
  | false => simp [verdictOn, hpending]
  | true =>
    have hgoesOn := verdictOn_eq_none_iff.mpr ⟨hpending, hintime⟩
    rw [hgoesOn, if_pos rfl, ← hb] at hstep
    rw [hgoesOn, hstep]
    rfl

/-- A wait in the slot comes to its end among deliveries exactly if its condition holds after them,
as long as its deadline has not passed. -/
theorem outcomeIn_of_blocked {s : Session} {b : Blocked} (hs : s.blocked = some b)
    (hpending : b.wait.pending s.link = true) {ts : List Step}
    (hts : ∀ t ∈ ts, t.isQuiet = true)
    (hintime : hasPassed b.deadline (s.now + duration ts) = false) :
    outcomeIn (s.run ts).2
      = if b.wait.pending (s.link.deliverAll (deliveries ts)) = true then none else some .done := by
  induction ts generalizing s with
  | nil => simp [outcomeIn, deliveries, hpending]
  | cons t ts ih =>
    obtain ⟨ht, hrest⟩ := List.forall_mem_cons.mp hts
    have hact := act_quiet s ht
    have hsplit : s.link.deliverAll (deliveries (t :: ts))
        = (s.act t).1.link.deliverAll (deliveries ts) := by
      rw [hact, ← Link.deliverAll_append]
      rfl
    have hlast : hasPassed b.deadline ((s.act t).1.now + duration ts) = false := by
      rw [hact, Nat.add_assoc]
      exact hintime
    have hb : (s.act t).1.blocked = some b := by rw [hact, hs]
    rw [outcomeIn_cons_of_blocked hb (hasPassed_eq_false_of_later hlast), hsplit]
    cases hnow : b.wait.pending (s.act t).1.link with
    | false => simp [pending_deliverAll_eq_false hnow]
    | true => exact (if_pos rfl).trans (ih hb hnow hrest hlast)

/-- The same of a wait that is started first, which ends at once if there is nothing to wait for. -/
theorem outcomeIn_background {s : Session} (hs : s.blocked = none) (w : Wait) {ts : List Step}
    (hts : ∀ t ∈ ts, t.isQuiet = true)
    (hintime : hasPassed (w.deadline? s.now) (s.now + duration ts) = false) :
    outcomeIn (s.run (.background w :: ts)).2
      = if w.pending (s.link.deliverAll (deliveries ts)) = true then none else some .done := by
  have hact := act_background hs w
  have hb : (s.act (.background w)).1.blocked = some ⟨w, w.deadline? s.now⟩ := by rw [hact, start]
  have hnow : hasPassed (w.deadline? s.now) (s.act (.background w)).1.now = false := by
    rw [hact]
    exact hasPassed_eq_false_of_later hintime
  rw [outcomeIn_cons_of_blocked hb hnow, hact]
  cases hpending : w.pending s.link with
  | false => simp [start, hpending, pending_deliverAll_eq_false hpending]
  | true =>
    exact (if_pos hpending).trans (outcomeIn_of_blocked (s := s.start w) rfl hpending hts hintime)

/-- A wait finds out the same among the deliveries as with all of them made in advance. -/
theorem run_background_ahead {s : Session} (hs : s.blocked = none) (w : Wait) {ts : List Step}
    (hts : ∀ t ∈ ts, t.isQuiet = true)
    (hintime : ts ≠ [] → hasPassed (w.deadline? s.now) (s.now + duration ts) = false) :
    let ahead := { s with link := s.link.deliverAll (deliveries ts) }
    (s.run (.background w :: ts)).1 = (ahead.run (.background w :: pauses ts)).1 ∧
      outcomeIn (s.run (.background w :: ts)).2
        = outcomeIn (ahead.run (.background w :: pauses ts)).2 := by
  intro ahead
  have hahead : ahead.blocked = none := hs
  have hpauses := isQuiet_pauses hts
  constructor
  · rw [run_background hs w hts, run_background hahead w hpauses, deliveries_pauses,
      duration_pauses]
    rfl
  · cases ts with
    | nil => rfl
    | cons t ts =>
      have hpassed := hintime (List.cons_ne_nil t ts)
      rw [outcomeIn_background hs w hts hpassed, outcomeIn_background hahead w hpauses
        (by rwa [duration_pauses]), deliveries_pauses]
      rfl

end Session

/-! ## Early and late -/

theorem call?_eq_none_of_isQuiet {t : Step} (h : t.isQuiet = true) : t.call? = none := by
  cases t with
  | event e => rfl
  | elapse span => rfl
  | _ => cases h

/-- Up to the end of the deliveries a command that is taken calls no wait. -/
theorem call?_eq_none_of_accepted (c : Command) (es : List Event) {ts : List Step}
    (hts : ∀ t ∈ ts, t.isQuiet = true) :
    ∀ t ∈ Step.command c ⟨es, .accepted⟩ :: ts, t.call? = none :=
  List.forall_mem_cons.mpr ⟨rfl, fun t ht => call?_eq_none_of_isQuiet (hts t ht)⟩

/-- **No early event is lost.** A command is taken, and of the events that this leads to some are
delivered before it returns and the others afterwards, at any times. The session is then what it
would be had all of them been delivered before the command returned and nothing but time passed
since. A wait may be called at any point after the command, even with deliveries still to come, and
unless its deadline passes before the last of them, it has the answer that it would have had with
all of them delivered in advance, whatever happens later. -/
theorem run_accepted (s : Session) (c : Command) (r : Request) (hr : c.request = .ok r)
    (inside : List Event) (after : List Step) (hafter : ∀ t ∈ after, t.isQuiet = true) :
    let late := s.run (.command c ⟨inside, .accepted⟩ :: after)
    let early := s.run (.command c ⟨inside ++ deliveries after, .accepted⟩ :: pauses after)
    late.1.link = (s.link.submit c).deliverAll (inside ++ deliveries after) ∧ late.1 = early.1 ∧
    ∀ (w : Wait) (during later : List Step), s.blocked = none → (∀ t ∈ during, t.isQuiet = true) →
      (during ≠ [] → hasPassed (w.deadline? late.1.now) (late.1.now + duration during) = false) →
        let late' := s.run (.command c ⟨inside, .accepted⟩ :: after ++
          (.background w :: during ++ later))
        let early' := s.run (.command c ⟨inside ++ deliveries (after ++ during), .accepted⟩ ::
          pauses after ++ (.background w :: pauses during ++ later))
        outcomeIn late'.2 = outcomeIn early'.2 ∧ late'.1 = early'.1 := by
  intro late early
  have hlate := run_command s hr inside hafter
  have hearly := run_command s hr (inside ++ deliveries after) (isQuiet_pauses hafter)
  rw [deliveries_pauses, duration_pauses, List.append_nil] at hearly
  refine ⟨congrArg Session.link hlate, hlate.trans hearly.symm, ?_⟩
  intro w during later hs hduring hintime late' early'
  -- With everything delivered in advance the wait begins with the link that the others end with.
  have hahead := run_command s hr (inside ++ deliveries (after ++ during)) (isQuiet_pauses hafter)
  rw [deliveries_pauses, duration_pauses, List.append_nil] at hahead
  have hsession : (s.run (.command c ⟨inside ++ deliveries (after ++ during), .accepted⟩ ::
      pauses after)).1 = { late.1 with link := late.1.link.deliverAll (deliveries during) } := by
    rw [hahead, hlate]
    simp [look, hs, deliveries, ← Link.deliverAll_append]
  obtain ⟨hfree, hnothing⟩ := outcomeIn_of_free hs (call?_eq_none_of_accepted c inside hafter)
  obtain ⟨-, hnothing'⟩ := outcomeIn_of_free hs
    (call?_eq_none_of_accepted c (inside ++ deliveries (after ++ during)) (isQuiet_pauses hafter))
  obtain ⟨hlast, houtcome⟩ := run_background_ahead hfree w hduring hintime
  constructor
  · rw [outcomeIn_append, outcomeIn_append, outcomeIn_append, outcomeIn_append, hnothing, hnothing',
      hsession, hlast, houtcome]
  · simp only [late', early', run_append, hsession]
    rw [hlast]

/-- A wait for the lease begins when the connection is there but the lease is not, and it has the
answer that it would have had with the lease delivered in advance. -/
theorem run_accepted_lease :
    let c : Command := .connect ⟨"home", none, .unsecured⟩
    let w : Wait := .lease (.ofSeconds 5)
    let lease : Event := .leaseBound ⟨192, 168, 1, 7⟩
    let reports := (({} : Session).run [.command c ⟨[], .accepted⟩,
      .event (.connectResult statusOk), .background w, .elapse (.ofSeconds 1), .event lease]).2
    let reports' := (({} : Session).run [.command c ⟨[.connectResult statusOk, lease], .accepted⟩,
      .background w, .elapse (.ofSeconds 1)]).2
    outcomeIn reports = outcomeIn reports' ∧ outcomeIn reports' = some .done := by
  intro c w lease reports reports'
  let r : Request := .associate (Credentials.association ⟨"home", none, .unsecured⟩)
  obtain ⟨-, -, hwait⟩ := run_accepted {} c r rfl [] [.event (.connectResult statusOk)]
    (List.forall_mem_singleton.mpr rfl)
  have hduring : ∀ t ∈ [Step.elapse (.ofSeconds 1), .event lease], t.isQuiet = true := by
    simp [Step.isQuiet]
  exact ⟨(hwait w _ [] rfl hduring fun _ => by decide).1, by decide⟩

end Wlan
