import Wlan.Manager.Session

/-!
# The history of a link

A manager may be used from several threads at once. What is atomic is then not a command but a
change of the link: one half of a command, or the delivery of one event. Between the halves of a
command anything may happen, other commands and their halves included. So the runs of a manager,
over whatever stack, are lists of changes, and what is proved of all lists of changes holds however
the threads interleave.

A list may hold changes in an order that no run has, a command settled that was never submitted.
Nothing below depends on their absence, and that is why the lists are not restricted: what has to
be assumed of a run is assumed where it is used. That a session, which takes one command after the
other, only makes such changes is `run_link`.

Three of the flags are marks: they say of an errand, a scan, a connect or a disconnect, that it is
under way. Which errand it is changes nothing but the names, so a mark is treated once for all
three.
-/

set_option autoImplicit false

namespace Wlan

/-! ## Changes -/

/-- A change that a link undergoes as a whole. -/
inductive Change
  | submit (c : Command)
  | deliver (e : Event)
  | settle (c : Command) (v : Verdict)
  deriving DecidableEq

namespace Link

def undergo (link : Link) : Change → Link
  | .submit c => link.submit c
  | .deliver e => link.deliver e
  | .settle c v => link.settle c v

def replay (link : Link) (h : List Change) : Link := h.foldl undergo link

@[simp] theorem replay_nil (link : Link) : link.replay [] = link := rfl

@[simp] theorem replay_cons (link : Link) (c : Change) (h : List Change) :
    link.replay (c :: h) = (link.undergo c).replay h := rfl

theorem replay_append (link : Link) (g h : List Change) :
    link.replay (g ++ h) = (link.replay g).replay h :=
  List.foldl_append

theorem replay_deliver (link : Link) (es : List Event) :
    link.replay (es.map .deliver) = link.deliverAll es := by
  induction es generalizing link with
  | nil => rfl
  | cons e es ih => exact ih (link.deliver e)

end Link

/-! ## Sessions -/

/-- The changes that a command makes with the events before its answer. -/
def Command.changes (c : Command) (answer : Answer) : List Change :=
  match c.request with
  | .error _ => []
  | .ok _ => .submit c :: answer.events.map .deliver ++ [.settle c answer.verdict]

def Step.changes : Step → List Change
  | .command c answer => c.changes answer
  | .event e => [.deliver e]
  | .wait _ => []
  | .background _ => []
  | .elapse _ => []

namespace Session

theorem perform_link (link : Link) (c : Command) (answer : Answer) :
    (c.perform link answer).link = link.replay (c.changes answer) := by
  unfold Command.perform Command.changes
  cases c.request with
  | error e => rfl
  | ok r =>
    rw [List.cons_append, Link.replay_cons, Link.replay_append, Link.replay_deliver]
    rfl

theorem waitNow_link (s : Session) (w : Wait) : (s.waitNow w).1.link = s.link := by
  unfold waitNow
  split
  · rfl
  · dsimp only
    split
    · rfl
    · split <;> rfl

theorem act_background_link (s : Session) (w : Wait) : (s.act (.background w)).1.link = s.link := by
  rw [act]
  split <;> rfl

theorem recheck_link (s : Session) (opened : List LogLine) : (s.recheck opened).1.link = s.link := by
  unfold recheck
  split
  · rfl
  · split <;> rfl

theorem step_link (s : Session) (t : Step) : (s.step t).1.link = s.link.replay t.changes := by
  have hrecheck : (s.step t).1.link = (s.act t).1.link := recheck_link _ _
  rw [hrecheck]
  cases t with
  | command c answer => exact perform_link s.link c answer
  | event e => rfl
  | wait w => exact waitNow_link s w
  | background w => exact act_background_link s w
  | elapse span => rfl

@[simp] theorem run_nil (s : Session) : s.run [] = (s, []) := rfl

@[simp] theorem run_cons (s : Session) (t : Step) (ts : List Step) :
    s.run (t :: ts) = (((s.step t).1.run ts).1, (s.step t).2 :: ((s.step t).1.run ts).2) := rfl

theorem run_append (s : Session) (ts us : List Step) :
    s.run (ts ++ us)
      = (((s.run ts).1.run us).1, (s.run ts).2 ++ ((s.run ts).1.run us).2) := by
  induction ts generalizing s with
  | nil => rfl
  | cons t ts ih => rw [List.cons_append, run_cons, ih, run_cons, List.cons_append]

/-- The run of a session is one of the histories of its link. -/
theorem run_link (s : Session) (ts : List Step) :
    (s.run ts).1.link = s.link.replay (ts.flatMap Step.changes) := by
  induction ts generalizing s with
  | nil => rfl
  | cons t ts ih =>
    rw [List.flatMap_cons, Link.replay_append, ← step_link]
    exact ih (s.step t).1

/-- A wait that comes to an end as it should has found its condition met. -/
theorem pending_of_verdictOn {w : Wait} {deadline : Option Moment} {link : Link} {now : Moment}
    (h : verdictOn w deadline link now = some .done) : w.pending link = false := by
  unfold verdictOn at h
  split at h
  · next hp => simpa using hp
  · split at h
    · cases w <;> cases h
    · cases h

end Session

/-! ## Marks -/

/-- What a command is about. -/
inductive Errand
  | scan
  | connect
  | disconnect
  deriving DecidableEq, Repr

def Command.errand : Command → Errand
  | scan => .scan
  | connect _ => .connect
  | disconnect => .disconnect

/-- The kind of event by which an errand ends. -/
def Errand.ender : Errand → Kind
  | scan => .scanDone
  | connect => .connectResult
  | disconnect => .disconnectResult

/-- Whether the link is marked as busy with an errand. -/
def Link.isMarked (link : Link) : Errand → Bool
  | .scan => link.scanning
  | .connect => link.connecting
  | .disconnect => link.disconnecting

namespace Change

/-- Whether the change is the delivery of an event of this kind. -/
def reports (k : Kind) : Change → Bool
  | deliver e => e.kind == k
  | _ => false

/-- Whether the change is the delivery of a connect result that tells of success. -/
def connects : Change → Bool
  | deliver (.connectResult status) => status == statusOk
  | _ => false

/-- Whether the change is the end of a command that was taken. -/
def accepts (e : Errand) : Change → Bool
  | settle c .accepted => c.errand == e
  | _ => false

/-- Whether the change is the end of a command that was refused. -/
def refuses (e : Errand) : Change → Bool
  | settle c (.refused _) => c.errand == e
  | _ => false

/-- Whether the change makes the mark. -/
def raises (e : Errand) : Change → Bool
  | submit c => c.errand == e
  | _ => false

/-- Whether the change takes the mark away. The mark of a scan outlasts a refusal. -/
def lowers (e : Errand) (c : Change) : Bool :=
  c.reports e.ender || (c.refuses e && e != .scan)

end Change

/-- The radio takes a disconnect that nobody asked for as no end of anything, but then there is no
mark either. -/
theorem Link.isMarked_hearRadio (link : Link) (event : Event) (e : Errand) :
    (link.hearRadio event).isMarked e = (!(event.kind == e.ender) && link.isMarked e) := by
  cases event with
  | disconnectResult status =>
    unfold hearRadio
    cases e <;> cases hd : link.disconnecting <;>
      simp [isMarked, Event.kind, Errand.ender, hd]
  | _ => cases e <;> rfl

theorem Link.isMarked_deliver (link : Link) (event : Event) (e : Errand) :
    (link.deliver event).isMarked e = (!(event.kind == e.ender) && link.isMarked e) := by
  by_cases hk : event.kind = .leaseBound
  · cases event with
    | leaseBound address =>
      rw [deliver_leaseBound]
      cases e <;> rfl
    | _ => cases hk
  · rw [deliver_of_kind_ne link hk]
    exact isMarked_hearRadio link event e

/-- What one change does to a mark. -/
theorem Link.isMarked_undergo (link : Link) (c : Change) (e : Errand) :
    (link.undergo c).isMarked e = (c.raises e || (!c.lowers e && link.isMarked e)) := by
  cases c with
  | submit c => cases c <;> cases e <;> rfl
  | deliver event =>
    rw [undergo, isMarked_deliver]
    simp [Change.raises, Change.lowers, Change.reports, Change.refuses]
  | settle c v => cases v <;> cases c <;> cases e <;> rfl

/-- **A mark stands if it was made and not taken away since**, or if it stood before and was never
taken away. -/
theorem Link.isMarked_replay (link : Link) (h : List Change) (e : Errand) :
    (link.replay h).isMarked e = true ↔
      (∃ before c after, h = before ++ c :: after ∧ c.raises e = true ∧
        ∀ d ∈ after, d.lowers e = false) ∨
      (link.isMarked e = true ∧ ∀ d ∈ h, d.lowers e = false) := by
  induction h generalizing link with
  | nil => simp
  | cons c h ih =>
    rw [replay_cons, ih, isMarked_undergo]
    constructor
    · rintro (⟨before, d, after, rfl, hd, hafter⟩ | ⟨hmark, hrest⟩)
      · exact Or.inl ⟨c :: before, d, after, rfl, hd, hafter⟩
      · rw [Bool.or_eq_true, Bool.and_eq_true, Bool.not_eq_true'] at hmark
        rcases hmark with hraises | ⟨hlowers, hmark⟩
        · exact Or.inl ⟨[], c, h, rfl, hraises, hrest⟩
        · exact Or.inr ⟨hmark, List.forall_mem_cons.mpr ⟨hlowers, hrest⟩⟩
    · rintro (⟨before, d, after, hsplit, hd, hafter⟩ | ⟨hmark, hrest⟩)
      · cases before with
        | nil =>
          obtain ⟨rfl, rfl⟩ := List.cons.inj hsplit
          exact Or.inr ⟨by rw [hd, Bool.true_or], hafter⟩
        | cons b before =>
          obtain ⟨rfl, rfl⟩ := List.cons.inj hsplit
          exact Or.inl ⟨before, d, after, rfl, hd, hafter⟩
      · obtain ⟨hlowers, hrest⟩ := List.forall_mem_cons.mp hrest
        exact Or.inr ⟨by simp [hlowers, hmark], hrest⟩

end Wlan
