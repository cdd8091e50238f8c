import Wlan.Proofs.Manager.History

/-!
# After a disconnect

What a caller may conclude about the connection when a disconnect has been asked for and waited
for. The wait only watches the mark of the disconnect, and the connection is given up only by a
result that meets that mark. So the argument is about the two flags together: from the moment the
mark is made, the link is connected only as long as the mark stands. This outlasts everything but
a connect result and a disconnect that is refused, be it another one.

A disconnect that the stack finds done already makes no result, and the connection stays what it
was taken for. That is no contradiction to the stack: a link that was dropped without having been
asked still counts as connected.
-/

set_option autoImplicit false

namespace Wlan

open Session

namespace Link

/-! ## The connection -/

theorem connects_eq_false {c : Change} (h : c.reports .connectResult = false) :
    c.connects = false := by
  cases c with
  | deliver e =>
    cases e with
    | connectResult status => cases h
    | _ => rfl
  | _ => rfl

/-- What one change does to the connection: success makes it, and a disconnect result that was asked
for ends it. -/
theorem connected_undergo (link : Link) (c : Change) :
    (link.undergo c).connected = (c.connects ||
      (!(c.reports .disconnectResult && link.disconnecting) && link.connected)) := by
  cases c with
  | submit c => cases c <;> rfl
  | settle c v => cases v <;> cases c <;> rfl
  | deliver e =>
    rw [undergo, deliver_eq]
    cases e with
    | disconnectResult status =>
      rw [hearRadio]
      cases hd : link.disconnecting <;>
        simp [hearAddressing, Change.connects, Change.reports, Event.kind]
    | _ => rfl

/-- Only a connect result connects. -/
theorem connected_of_replay {link : Link} {h : List Change}
    (hconnect : ∀ c ∈ h, c.reports .connectResult = false) (hc : (link.replay h).connected = true) :
    link.connected = true := by
  induction h generalizing link with
  | nil => exact hc
  | cons c h ih =>
    obtain ⟨hfirst, hrest⟩ := List.forall_mem_cons.mp hconnect
    have hnext := ih hrest hc
    rw [connected_undergo, connects_eq_false hfirst, Bool.false_or, Bool.and_eq_true] at hnext
    exact hnext.2

/-- Without results of either kind the connection stays what it is. -/
theorem connected_replay {link : Link} {h : List Change}
    (hconnect : ∀ c ∈ h, c.reports .connectResult = false)
    (hdisconnect : ∀ c ∈ h, c.reports .disconnectResult = false) :
    (link.replay h).connected = link.connected := by
  induction h generalizing link with
  | nil => rfl
  | cons c h ih =>
    obtain ⟨hfirst, hrest⟩ := List.forall_mem_cons.mp hconnect
    obtain ⟨hfirst', hrest'⟩ := List.forall_mem_cons.mp hdisconnect
    rw [replay_cons, ih hrest hrest', connected_undergo, connects_eq_false hfirst, hfirst']
    rfl

/-! ## Leaving -/

/-- The link is connected no longer than a disconnect is under way. -/
def IsLeaving (link : Link) : Prop := link.connected = true → link.disconnecting = true

theorem isLeaving_submit (link : Link) : (link.submit .disconnect).IsLeaving := fun _ => rfl

/-- A disconnect result that takes the mark away takes the connection with it. -/
theorem IsLeaving.undergo {link : Link} (h : link.IsLeaving) {c : Change}
    (hconnect : c.reports .connectResult = false)
    (hrefused : ∀ why, c ≠ .settle .disconnect (.refused why)) : (link.undergo c).IsLeaving := by
  intro hc
  rw [connected_undergo, connects_eq_false hconnect, Bool.false_or, Bool.and_eq_true,
    Bool.not_eq_true'] at hc
  obtain ⟨hresult, hconnected⟩ := hc
  have hmark : link.disconnecting = true := h hconnected
  rw [hmark, Bool.and_true] at hresult
  have hrefuses : c.refuses .disconnect = false := by
    cases c with
    | settle c v =>
      cases v with
      | accepted => rfl
      | refused why =>
        cases c with
        | disconnect => exact absurd rfl (hrefused why)
        | _ => rfl
    | _ => rfl
  have hlowers : c.lowers .disconnect = false := by
    simp [Change.lowers, Errand.ender, hresult, hrefuses]
  have hafter := isMarked_undergo link c .disconnect
  rw [hlowers] at hafter
  exact hafter.trans (by simp [isMarked, hmark])

theorem IsLeaving.replay {link : Link} (h : link.IsLeaving) {cs : List Change}
    (hconnect : ∀ c ∈ cs, c.reports .connectResult = false)
    (hrefused : ∀ why, .settle .disconnect (.refused why) ∉ cs) : (link.replay cs).IsLeaving := by
  induction cs generalizing link with
  | nil => exact h
  | cons c cs ih =>
    obtain ⟨hfirst, hrest⟩ := List.forall_mem_cons.mp hconnect
    have hc : ∀ why, c ≠ .settle .disconnect (.refused why) := by
      rintro why rfl
      exact hrefused why List.mem_cons_self
    exact ih (h.undergo hfirst hc) hrest fun why hmem => hrefused why (List.mem_cons_of_mem _ hmem)

end Link

/-! ## Waiting for a disconnect -/

/-- **After a disconnect that was taken and waited for, the link is not connected.** The history
is that before the call, during it, from its return to the end of a wait, and later; other calls
may overlap with all four. Without a connect result since the call, a taken disconnect leaves the
link unconnected unless one was refused before the wait ended. One that was done already connects
nothing, and disconnects nothing unless there is a disconnect result. -/
theorem connected_after_disconnect (before during since later : List Change) (v : Verdict)
    (hconnect : ∀ c ∈ during ++ since ++ later, c.reports .connectResult = false) :
    let called := ({} : Link).replay before
    let waited := called.replay (.submit .disconnect :: during ++ .settle .disconnect v :: since)
    let last := waited.replay later
    (v = .accepted → (∀ why, .settle .disconnect (.refused why) ∉ during ++ since) →
      (∃ limit deadline now,
        verdictOn (.disconnecting limit) deadline waited now = some .done) →
      last.connected = false) ∧
    (v = .refused .already →
      (last.connected = true → called.connected = true) ∧
      ((∀ c ∈ during ++ since ++ later, c.reports .disconnectResult = false) →
        last.connected = called.connected)) := by
  intro called waited last
  simp only [List.forall_mem_append] at hconnect
  obtain ⟨⟨hduring, hsince⟩, hlater⟩ := hconnect
  have hcall : ∀ c ∈ .submit .disconnect :: during ++ .settle .disconnect v :: since,
      c.reports .connectResult = false := by
    simp only [List.forall_mem_append, List.forall_mem_cons]
    exact ⟨⟨rfl, hduring⟩, rfl, hsince⟩
  refine ⟨?_, fun hv => ⟨?_, fun hdisconnect => ?_⟩⟩
  · rintro rfl hrefused ⟨limit, deadline, now, hdone⟩
    -- The call made the mark and the wait found it gone, so what took it took the connection.
    have hmark : waited.disconnecting = false := pending_of_verdictOn hdone
    have hleaving : waited.IsLeaving := by
      have hrest := (List.forall_mem_cons.mp hcall).2
      refine (Link.isLeaving_submit called).replay hrest fun why hmem => hrefused why ?_
      simpa using hmem
    rw [Bool.eq_false_iff]
    intro hlast
    have hconnected : waited.connected = true := Link.connected_of_replay hlater hlast
    exact absurd (hleaving hconnected) (by simp [hmark])
  · intro hlast
    exact Link.connected_of_replay hcall (Link.connected_of_replay hlater hlast)
  · simp only [List.forall_mem_append] at hdisconnect
    obtain ⟨⟨hduring', hsince'⟩, hlater'⟩ := hdisconnect
    have hcall' : ∀ c ∈ .submit .disconnect :: during ++ .settle .disconnect v :: since,
        c.reports .disconnectResult = false := by
      simp only [List.forall_mem_append, List.forall_mem_cons]
      exact ⟨⟨rfl, hduring'⟩, rfl, hsince'⟩
    exact (Link.connected_replay hlater hlater').trans (Link.connected_replay hcall hcall')

theorem connected_after_disconnect_taken :
    let join : Command := .connect ⟨"home", none, .unsecured⟩
    let called := ({} : Link).replay
      [.submit join, .settle join .accepted, .deliver (.connectResult statusOk)]
    called.connected = true ∧
      (called.replay [.submit .disconnect, .settle .disconnect .accepted,
        .deliver (.disconnectResult statusOk)]).connected = false := by
  refine ⟨by decide, ?_⟩
  refine (connected_after_disconnect
    [.submit (.connect ⟨"home", none, .unsecured⟩), .settle (.connect ⟨"home", none, .unsecured⟩) .accepted,
      .deliver (.connectResult statusOk)]
    [] [.deliver (.disconnectResult statusOk)] [] .accepted (by decide)).1 rfl ?_ ?_
  · intro why
    simp
  · exact ⟨.ofSeconds 1, none, 0, by decide⟩

/-- A link that was dropped, and is connected still when it has been disconnected and waited for. -/
theorem connected_after_disconnect_already :
    let steps : List Step :=
      [.command (.connect ⟨"home", none, .unsecured⟩) ⟨[], .accepted⟩,
        .event (.connectResult statusOk), .event (.disconnectResult statusOk),
        .command .disconnect ⟨[], .refused .already⟩, .wait (.disconnecting (.ofSeconds 1))]
    let (last, reports) := ({} : Session).run steps
    (reports.drop 3).map Report.result = [.performed (.ok ()), .waited .done] ∧
      last.link.connected = true :=
  ⟨rfl, rfl⟩

end Wlan
