import Mathlib.Data.List.Infix
import Wlan.Proofs.Manager.History

/-!
# What is outstanding

The mark of an errand is one bit, and there may be any number of requests whose results are still
to come. So a mark cannot say of all histories whether there is one. This file says of which it
can: `isMarked_iff_owed`.

The stack is trusted with one result for a request that it takes and none for one that it refuses,
which a history shows by never having more results than requests that were begun and not refused.
Between commands every request has been answered, and what is owed is the number of those taken
less the number of results.
-/

set_option autoImplicit false

namespace Wlan

/-- How many results are still to come: taken requests without one. -/
def owed (e : Errand) (h : List Change) : Nat :=
  h.countP (Change.accepts e) - h.countP (Change.reports e.ender)

/-- At no time had there been more results than requests not refused. -/
def IsHonest (e : Errand) (h : List Change) : Prop :=
  ∀ p, p <+: h →
    p.countP (Change.reports e.ender) + p.countP (Change.refuses e) ≤ p.countP (Change.raises e)

/-- Every command of the errand that was begun is over. -/
def IsBetween (e : Errand) (h : List Change) : Prop :=
  h.countP (Change.raises e) = h.countP (Change.accepts e) + h.countP (Change.refuses e)

instance (e : Errand) (h : List Change) : Decidable (IsHonest e h) :=
  decidable_of_iff (∀ p ∈ h.inits, p.countP (Change.reports e.ender) + p.countP (Change.refuses e)
    ≤ p.countP (Change.raises e)) (by simp only [IsHonest, List.mem_inits])

instance (e : Errand) (h : List Change) : Decidable (IsBetween e h) :=
  inferInstanceAs (Decidable (_ = _))

/-- There has been neither a result nor a refusal since the latest command of the errand began. -/
def IsFresh (e : Errand) (h : List Change) : Prop :=
  ∃ before c after, h = before ++ c :: after ∧ c.raises e = true ∧
    ∀ d ∈ after, d.reports e.ender = false ∧ d.refuses e = false

theorem lowers_eq_false_iff {e : Errand} (he : e ≠ .scan) (c : Change) :
    c.lowers e = false ↔ c.reports e.ender = false ∧ c.refuses e = false := by
  simp [Change.lowers, he]

/-- A link that was not marked at first is marked just after a fresh command. -/
theorem isMarked_iff_isFresh {e : Errand} (he : e ≠ .scan) (h : List Change) :
    (({} : Link).replay h).isMarked e = true ↔ IsFresh e h := by
  have hfirst : ({} : Link).isMarked e = false := by cases e <;> rfl
  rw [Link.isMarked_replay, hfirst, IsFresh]
  simp [lowers_eq_false_iff he]

/-- What is fresh is owed: all results so far belong to requests begun before. -/
theorem IsFresh.owed_pos {e : Errand} {h : List Change} (hfresh : IsFresh e h)
    (hhonest : IsHonest e h) (hbetween : IsBetween e h) : 0 < owed e h := by
  -- Before the command there were no more results than requests; the command is one request more,
  -- and since then there has been no result.
  obtain ⟨before, c, after, rfl, hc, hafter⟩ := hfresh
  have hbefore := hhonest before (List.prefix_append _ _)
  have hreports : after.countP (Change.reports e.ender) = 0 := by
    rw [List.countP_eq_zero]
    exact fun d hd => by simp [(hafter d hd).1]
  have hrefuses : after.countP (Change.refuses e) = 0 := by
    rw [List.countP_eq_zero]
    exact fun d hd => by simp [(hafter d hd).2]
  have hcommand : c.reports e.ender = false ∧ c.refuses e = false ∧ c.accepts e = false := by
    cases c with
    | submit c => exact ⟨rfl, rfl, rfl⟩
    | _ => cases hc
  simp only [IsBetween, owed, List.countP_append, List.countP_cons, hc, hcommand, hreports,
    hrefuses, if_true, Bool.false_eq_true, if_false] at hbetween ⊢
  omega

/-! ## Refusals -/

/-- Neither a connect nor a disconnect ends by such events. -/
def EndNothing (es : List Event) : Prop :=
  ∀ event ∈ es, event.kind ≠ .connectResult ∧ event.kind ≠ .disconnectResult

theorem isMarked_deliverAll {e : Errand} (he : e ≠ .scan) {es : List Event} (hes : EndNothing es)
    (link : Link) : (link.deliverAll es).isMarked e = link.isMarked e := by
  induction es generalizing link with
  | nil => rfl
  | cons event es ih =>
    obtain ⟨hfirst, hrest⟩ := List.forall_mem_cons.mp hes
    have hender : (event.kind == e.ender) = false := by
      cases e with
      | scan => exact absurd rfl he
      | connect => exact beq_false_of_ne hfirst.1
      | disconnect => exact beq_false_of_ne hfirst.2
    rw [Link.deliverAll_cons, ih hrest, Link.isMarked_deliver, hender]
    rfl

/-- A refused command leaves no mark of its own errand, and that of the other one as it was. -/
theorem isMarked_perform_refused {e : Errand} (he : e ≠ .scan) {link : Link} {c : Command}
    {r : Request} (hr : c.request = .ok r) (why : Refusal) {es : List Event}
    (hes : EndNothing es) :
    (c.perform link ⟨es, .refused why⟩).link.isMarked e
      = (!(c.errand == e) && link.isMarked e) := by
  have hlink : (c.perform link ⟨es, .refused why⟩).link
      = (((link.undergo (.submit c)).deliverAll es).undergo (.settle c (.refused why))) := by
    unfold Command.perform
    rw [hr]
    rfl
  rw [hlink, Link.isMarked_undergo, isMarked_deliverAll he hes, Link.isMarked_undergo]
  cases hce : c.errand == e <;>
    simp [Change.raises, Change.lowers, Change.reports, Change.refuses, hce, he]

/-- A refused command leaves both marks as they were, unless its own was there. -/
theorem marks_perform_refused {link : Link} {c : Command} (hc : c.errand ≠ .scan) {r : Request}
    (hr : c.request = .ok r) (why : Refusal) {es : List Event} (hes : EndNothing es) :
    let after := (c.perform link ⟨es, .refused why⟩).link
    (after.connecting = link.connecting ∧ after.disconnecting = link.disconnecting) ↔
      link.isMarked c.errand = false := by
  intro after
  have hconnect : after.connecting = (!(c.errand == .connect) && link.connecting) :=
    isMarked_perform_refused (e := .connect) (by decide) hr why hes
  have hdisconnect : after.disconnecting = (!(c.errand == .disconnect) && link.disconnecting) :=
    isMarked_perform_refused (e := .disconnect) (by decide) hr why hes
  rw [hconnect, hdisconnect]
  cases he : c.errand with
  | scan => exact absurd he hc
  | connect => cases hmark : link.connecting <;> simp [Link.isMarked, hmark]
  | disconnect => cases hmark : link.disconnecting <;> simp [Link.isMarked, hmark]

/-! ## What the marks mean -/

/-- **When a mark says what is owed.** Between commands a mark that stands says the truth, and a
mark that does not stand says it at exactly these times: when nothing is owed, and when there has
been neither a result nor a refusal since the latest command of the errand began. In the second
case, and only then, a refused command of that errand changes a mark. -/
theorem isMarked_iff_owed (e : Errand) (he : e ≠ .scan) (h : List Change)
    (hhonest : IsHonest e h) (hbetween : IsBetween e h) :
    let link := ({} : Link).replay h
    (link.isMarked e = true → 0 < owed e h) ∧
    ((link.isMarked e = true ↔ 0 < owed e h) ↔ owed e h = 0 ∨ IsFresh e h) ∧
    ∀ (c : Command) (r : Request) (why : Refusal) (es : List Event), c.errand = e →
      c.request = .ok r → EndNothing es →
      let after := (c.perform link ⟨es, .refused why⟩).link
      (after.connecting = link.connecting ∧ after.disconnecting = link.disconnecting ↔
        ¬ IsFresh e h) := by
  intro link
  have hmark : link.isMarked e = true ↔ IsFresh e h := isMarked_iff_isFresh he h
  have htruth : IsFresh e h → 0 < owed e h := fun hfresh => hfresh.owed_pos hhonest hbetween
  rw [hmark]
  refine ⟨htruth, ⟨fun hiff => ?_, ?_⟩, fun c r why es hc hr hes => ?_⟩
  · rcases Nat.eq_zero_or_pos (owed e h) with hzero | hpos
    · exact Or.inl hzero
    · exact Or.inr (hiff.mpr hpos)
  · rintro (hzero | hfresh)
    · exact ⟨htruth, fun hpos => absurd hzero (Nat.ne_of_gt hpos)⟩
    · exact ⟨htruth, fun _ => hfresh⟩
  · subst hc
    rw [← hmark, Bool.not_eq_true]
    exact marks_perform_refused he hr why hes

/-- The one connect that there was has been taken, and its result is owed. -/
theorem isMarked_iff_owed_taken :
    let join : Command := .connect ⟨"home", none, .unsecured⟩
    let h : List Change := [.submit join, .settle join .accepted]
    (({} : Link).replay h).isMarked .connect = true ↔ 0 < owed .connect h := by
  intro join h
  refine (isMarked_iff_owed .connect (by decide) h (by decide) (by decide)).2.1.mpr (Or.inr ?_)
  exact ⟨[], .submit join, [.settle join .accepted], rfl, by decide, by decide⟩

/-- A connect that is refused takes the mark of an earlier one whose result is owed. -/
theorem isMarked_iff_owed_refused :
    let join : Command := .connect ⟨"home", none, .unsecured⟩
    let steps : List Step :=
      [.command join ⟨[], .accepted⟩, .command join ⟨[], .refused (.rejected "busy")⟩]
    let h := steps.flatMap Step.changes
    (IsHonest .connect h ∧ IsBetween .connect h ∧ owed .connect h = 1) ∧
      (({} : Session).run (steps.take 1)).1.link.connecting = true ∧
      (({} : Session).run steps).1.link.connecting = false :=
  ⟨by decide, by decide, by decide⟩

end Wlan
