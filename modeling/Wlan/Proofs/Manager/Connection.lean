import Wlan.Proofs.Manager.Account

/-!
# What being connected means

A manager is documented to be connected if its most recent connect result told of success and no
disconnect that was asked for has come to its end since. That is not quite what the connection says.
A connect result that tells of failure ends a connect and changes nothing else, and so it leaves a
connection that was there before. `connected_iff_isJoined` has the exact difference: the connection
says more than is documented just where the most recent connect result failed on a link that was up
(`IsStale`), and never less.

Both sides are about the most recent connect result and what has happened since. What they have in
common is `HeldSince`, and what one change more makes of it is said once (`heldSince_concat`).
-/

set_option autoImplicit false

namespace Wlan

/-! ## Since the most recent connect result -/

/-- The change is the delivery of a disconnect result, after this history, while a disconnect was
outstanding. -/
def Change.Severs (c : Change) (h : List Change) : Prop :=
  c.reports .disconnectResult = true ∧ IsFresh .disconnect h

/-- The most recent connect result is such a one, and no disconnect result has been delivered since
it while a disconnect was outstanding. -/
def HeldSince (P : List Change → Change → Prop) (h : List Change) : Prop :=
  ∃ before c after, h = before ++ c :: after ∧ c.reports .connectResult = true ∧ P before c ∧
    (∀ d ∈ after, d.reports .connectResult = false) ∧
    ∀ mid d rest, after = mid ++ d :: rest → ¬ d.Severs (before ++ c :: mid)

/-- What is documented of a manager that is connected. -/
def IsJoined : List Change → Prop :=
  HeldSince fun _ c => c.connects = true

/-- The most recent connect result told of failure, on a link that was up, and the link has not been
left since. -/
def IsStale : List Change → Prop :=
  HeldSince fun before c => c.connects = false ∧ IsUp before

theorem not_heldSince_nil (P : List Change → Change → Prop) : ¬ HeldSince P [] := by
  intro h
  obtain ⟨before, c, after, hsplit, -⟩ := h
  exact absurd hsplit (by simp)

/-- One change more: a connect result takes the place of the one before, and a disconnect that was
asked for ends what was held. -/
theorem heldSince_concat (P : List Change → Change → Prop) (h : List Change) (c : Change) :
    HeldSince P (h ++ [c]) ↔
      c.reports .connectResult = true ∧ P h c ∨
        c.reports .connectResult = false ∧ ¬ c.Severs h ∧ HeldSince P h := by
  constructor
  · intro hheld
    obtain ⟨before, d, after, hsplit, hd, hP, hlast, hafter⟩ := hheld
    rcases List.eq_nil_or_concat after with rfl | ⟨init, last, rfl⟩
    · -- The connect result is the change itself.
      obtain ⟨rfl, hsame⟩ := List.append_inj' hsplit rfl
      obtain rfl := (List.cons.inj hsame).1
      exact Or.inl ⟨hd, hP⟩
    · rw [List.concat_eq_append] at hlast hafter hsplit
      rw [← List.cons_append, ← List.append_assoc] at hsplit
      obtain ⟨rfl, hsame⟩ := List.append_inj' hsplit rfl
      obtain rfl := (List.cons.inj hsame).1
      obtain ⟨hinit, hc⟩ := List.forall_mem_append.mp hlast
      refine Or.inr ⟨hc c List.mem_cons_self, hafter init c [] rfl, before, d, init, rfl, hd, hP,
        hinit, ?_⟩
      intro mid e rest hrest
      exact hafter mid e (rest ++ [c]) (by rw [hrest, List.append_assoc, List.cons_append])
  · intro hcase
    rcases hcase with ⟨hc, hP⟩ | ⟨hc, hsevers, before, d, after, rfl, hd, hP, hlast, hafter⟩
    · exact ⟨h, c, [], rfl, hc, hP, nofun, fun mid d rest hnil => absurd hnil (by simp)⟩
    · refine ⟨before, d, after ++ [c], by rw [List.append_assoc, List.cons_append], hd, hP,
        List.forall_mem_append.mpr ⟨hlast, List.forall_mem_singleton.mpr hc⟩, ?_⟩
      intro mid e rest hsplit
      rcases List.eq_nil_or_concat rest with rfl | ⟨init, last, rfl⟩
      · obtain ⟨rfl, hsame⟩ := List.append_inj' hsplit rfl
        obtain rfl := (List.cons.inj hsame).1
        exact hsevers
      · rw [List.concat_eq_append, ← List.cons_append, ← List.append_assoc] at hsplit
        exact hafter mid e init (List.append_inj' hsplit rfl).1

theorem reports_of_connects {c : Change} (h : c.connects = true) :
    c.reports .connectResult = true := by
  cases hc : c.reports .connectResult with
  | true => rfl
  | false =>
    rw [Link.connects_eq_false hc] at h
    exact h

/-- No event is a connect result and a disconnect result. -/
theorem not_severs_of_reports {c : Change} (hc : c.reports .connectResult = true)
    (h : List Change) : ¬ c.Severs h := by
  intro hsevers
  cases c with
  | deliver e =>
    have hconnect : e.kind = .connectResult := eq_of_beq hc
    have hdisconnect : e.kind = .disconnectResult := eq_of_beq hsevers.1
    rw [hconnect] at hdisconnect
    cases hdisconnect
  | _ => cases hc

/-! ## The two ways to be up -/

theorem isJoined_concat (h : List Change) (c : Change) :
    IsJoined (h ++ [c]) ↔ c.connects = true ∨
      c.reports .connectResult = false ∧ ¬ c.Severs h ∧ IsJoined h := by
  rw [IsJoined, heldSince_concat]
  constructor
  · intro hcase
    exact hcase.imp_left And.right
  · intro hcase
    exact hcase.imp_left fun hc => ⟨reports_of_connects hc, hc⟩

/-- A link that is up was joined by its most recent connect result or is stale, and not both. -/
theorem isUp_iff (h : List Change) :
    (IsUp h ↔ IsJoined h ∨ IsStale h) ∧ ¬ (IsJoined h ∧ IsStale h) := by
  induction h using List.reverseRecOn with
  | nil =>
    have hup : ¬ IsUp [] := by simp [IsUp]
    have hjoined : ¬ IsJoined [] := not_heldSince_nil _
    have hstale : ¬ IsStale [] := not_heldSince_nil _
    simp only [hup, hjoined, hstale, or_self, and_self, not_false_eq_true]
  | append_singleton h c ih =>
    obtain ⟨hiff, hnot⟩ := ih
    have hup : IsUp (h ++ [c]) ↔ c.connects = true ∨ ¬ c.Severs h ∧ IsUp h := isUp_concat h c
    rw [hup, isJoined_concat, IsStale, heldSince_concat]
    cases hconnects : c.connects with
    | true =>
      -- A success is a connect result that is no failure.
      have hreports := reports_of_connects hconnects
      simp [hreports]
    | false =>
      cases hreports : c.reports .connectResult with
      | true =>
        have hsevers := not_severs_of_reports hreports h
        simp [hsevers]
      | false =>
        have hstale : HeldSince (fun before c => c.connects = false ∧ IsUp before) h = IsStale h :=
          rfl
        simp only [hstale, hiff, Bool.false_eq_true, false_or, false_and, true_and]
        constructor
        · exact and_or_left
        · intro hboth
          exact hnot ⟨hboth.1.2, hboth.2.2⟩

/-! ## What is documented and what is so -/

/-- **The connection says what is documented unless it is stale.** After any history a link is
connected if it was joined by its most recent connect result or is stale. So it is connected whenever
it should be, and says something else than is documented exactly while it is stale. The run of a
session is such a history. -/
theorem connected_iff_isJoined (h : List Change) :
    let link := ({} : Link).replay h
    (link.connected = true ↔ IsJoined h ∨ IsStale h) ∧
    ((link.connected = true ↔ IsJoined h) ↔ ¬ IsStale h) ∧
    ∀ ts : List Step, ts.flatMap Step.changes = h → (({} : Session).run ts).1.link = link := by
  intro link
  obtain ⟨hiff, hnot⟩ := isUp_iff h
  have hconnected : link.connected = true ↔ IsUp h := (Link.isToldBy_replay h).connected
  rw [hconnected, hiff]
  refine ⟨Iff.rfl, ?_, ?_⟩
  · constructor
    · intro hsame hstale
      exact hnot ⟨hsame.mp (Or.inr hstale), hstale⟩
    · intro hstale
      rw [or_iff_left hstale]
  · intro ts hts
    subst hts
    exact Session.run_link {} ts

/-- A network is joined, and a second attempt to join it fails: the manager says that it is
connected, though its most recent connect result told of failure. -/
theorem connected_iff_isJoined_failed :
    let join : Command := .connect ⟨"home", none, .unsecured⟩
    let steps : List Step :=
      [.command join ⟨[], .accepted⟩, .event (.connectResult statusOk),
        .command join ⟨[], .accepted⟩, .event (.connectResult 1)]
    (({} : Session).run steps).1.link.connected = true ∧
      ¬ IsJoined (steps.flatMap Step.changes) := by
  intro join steps
  refine ⟨rfl, ?_⟩
  have hlast : steps.flatMap Step.changes
      = (steps.take 3).flatMap Step.changes ++ [.deliver (.connectResult 1)] := rfl
  rw [hlast, isJoined_concat]
  intro hcase
  rcases hcase with hconnects | ⟨hreports, -⟩
  · cases hconnects
  · cases hreports

end Wlan
