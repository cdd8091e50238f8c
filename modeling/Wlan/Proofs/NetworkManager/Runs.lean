import Wlan.NetworkManager.Device
import Wlan.NetworkManager.Station

/-!
# Which runs are made

Work on a host changes it in one way only: it makes runs, which are remembered after those made
before. So all that there is to say about the effect of work on a host is which runs it makes
(`Makes`), and the runs of two pieces of work in a row are those of the one and then those of the
other. Where there is no tool, none is made.

What the work comes to depends on the replies, and they are the host's affair: `Exchanges` says
which runs were made together with what was replied to each, and obeys the same rules.
-/

set_option autoImplicit false

namespace Wlan.NetworkManager

/-- Work on this host makes these runs, and nothing else happens to the host. -/
def Makes {α : Type} (work : OnHost α) (h : Host) (rs : List Run) : Prop :=
  (work h).2 = { h with runs := h.runs ++ rs }

/-- The runs that an attempt at this one comes to. -/
def Host.made (h : Host) (r : Run) : List Run :=
  match h.script with
  | none => []
  | some _ => [r]

theorem Host.made_eq (h : Host) (r : Run) : h.made r = if h.script = none then [] else [r] := by
  unfold made
  cases h.script <;> rfl

namespace Makes

variable {α β : Type} {work : OnHost α} {next : α → OnHost β} {h : Host} {rs qs : List Run}

theorem pure (a : α) (h : Host) : Makes (Pure.pure a) h [] := by
  rw [Makes, List.append_nil]
  rfl

theorem run (r : Run) (h : Host) : Makes (Host.run r) h (h.made r) := by
  obtain ⟨script, runs⟩ := h
  cases script with
  | none => simp [Makes, Host.run, Host.made]
  | some script => rfl

theorem script (hwork : Makes work h rs) : (work h).2.script = h.script := by
  rw [hwork]

theorem bind (hwork : Makes work h rs) (hnext : Makes (next (work h).1) (work h).2 qs) :
    Makes (work >>= next) h (rs ++ qs) := by
  have hlast : ((work >>= next) h).2 = (next (work h).1 (work h).2).2 := rfl
  rw [Makes, hlast, hnext, hwork, List.append_assoc]

/-- What is made of a result is no work on the host. -/
theorem map (hwork : Makes work h rs) (f : α → β) : Makes (do return f (← work)) h rs := by
  have hdone : Makes (do return f (← work)) h (rs ++ []) := hwork.bind (Makes.pure _ _)
  rwa [List.append_nil] at hdone

end Makes

/-! ## Replies -/

/-- A run and the reply to it. -/
structure Exchange where
  run : Run
  reply : Reply
  deriving DecidableEq

namespace Host

/-- The host after these exchanges. -/
def after (h : Host) (xs : List Exchange) : Host :=
  { h with runs := h.runs ++ xs.map Exchange.run }

@[simp] theorem after_nil (h : Host) : h.after [] = h := by
  simp [after]

@[simp] theorem after_after (h : Host) (xs ys : List Exchange) :
    (h.after xs).after ys = h.after (xs ++ ys) := by
  simp [after]

@[simp] theorem script_after (h : Host) (xs : List Exchange) : (h.after xs).script = h.script := rfl

/-- Asked these things one after the other, the host gives these replies. -/
def Gives : Host → List Exchange → Prop
  | _, [] => True
  | h, x :: xs => (Host.run x.run h).1 = some x.reply ∧ (h.after [x]).Gives xs

@[simp] theorem gives_nil (h : Host) : h.Gives [] := trivial

theorem gives_append {h : Host} {xs ys : List Exchange} :
    h.Gives (xs ++ ys) ↔ h.Gives xs ∧ (h.after xs).Gives ys := by
  induction xs generalizing h with
  | nil => simp
  | cons x xs ih => simp [Gives, ih, and_assoc]

end Host

/-- Work on this host makes runs and is given replies to them like this. -/
structure Exchanges {α : Type} (work : OnHost α) (h : Host) (xs : List Exchange) : Prop where
  makes : Makes work h (xs.map Exchange.run)
  gives : h.Gives xs

/-- The exchanges that an attempt at this one comes to. -/
def Host.exchanged (h : Host) (r : Run) : List Exchange :=
  (Host.run r h).1.toList.map (Exchange.mk r)

theorem Host.mem_exchanged {h : Host} {r : Run} {x : Exchange} :
    x ∈ h.exchanged r ↔ x.run = r ∧ (Host.run r h).1 = some x.reply := by
  unfold exchanged
  rw [List.mem_map]
  constructor
  · rintro ⟨reply, hreply, rfl⟩
    exact ⟨rfl, Option.mem_toList.mp hreply⟩
  · rintro ⟨rfl, hreply⟩
    exact ⟨x.reply, Option.mem_toList.mpr hreply, rfl⟩

theorem Host.run_of_mem_exchanged {h : Host} {r : Run} {x : Exchange} (hx : x ∈ h.exchanged r) :
    x.run = r :=
  (Host.mem_exchanged.mp hx).1

@[simp] theorem Host.map_run_exchanged (h : Host) (r : Run) :
    (h.exchanged r).map Exchange.run = h.made r := by
  unfold exchanged made run
  cases h.script <;> rfl

namespace Exchanges

variable {α β : Type} {work : OnHost α} {next : α → OnHost β} {h : Host} {xs ys : List Exchange}

theorem host_after (hwork : Exchanges work h xs) : (work h).2 = h.after xs := hwork.makes

theorem pure (a : α) (h : Host) : Exchanges (Pure.pure a) h [] :=
  ⟨Makes.pure a h, h.gives_nil⟩

theorem run (r : Run) (h : Host) : Exchanges (Host.run r) h (h.exchanged r) := by
  refine ⟨?_, ?_⟩
  · rw [Host.map_run_exchanged]
    exact Makes.run r h
  · unfold Host.exchanged
    cases hreply : (Host.run r h).1 with
    | none => exact h.gives_nil
    | some reply => exact ⟨hreply, Host.gives_nil _⟩

theorem bind (hwork : Exchanges work h xs) (hnext : Exchanges (next (work h).1) (h.after xs) ys) :
    Exchanges (work >>= next) h (xs ++ ys) := by
  refine ⟨?_, Host.gives_append.mpr ⟨hwork.gives, hnext.gives⟩⟩
  rw [List.map_append]
  refine hwork.makes.bind ?_
  rw [hwork.host_after]
  exact hnext.makes

theorem map (hwork : Exchanges work h xs) (f : α → β) : Exchanges (do return f (← work)) h xs :=
  ⟨hwork.makes.map f, hwork.gives⟩

end Exchanges

theorem exchanges_listDevices (h : Host) : Exchanges listDevices h (h.exchanged .listDevices) :=
  (Exchanges.run .listDevices h).map readDevices

theorem exchanges_resolve (name : Option String) (h : Host) :
    Exchanges (resolve name) h (h.exchanged .listDevices) :=
  (exchanges_listDevices h).map _

theorem Host.run_bind {α : Type} (r : Run) (next : Option Reply → OnHost α) (h : Host) :
    (Host.run r >>= next) h = next (Host.run r h).1 (h.after (h.exchanged r)) := by
  rw [← (Exchanges.run r h).host_after]
  rfl

/-- The run was made and succeeded. -/
def succeeded (r : Run) (xs : List Exchange) : Bool :=
  xs.any fun x => x.run = r && x.reply.succeeded

@[simp] theorem succeeded_nil (r : Run) : succeeded r [] = false := rfl

@[simp] theorem succeeded_cons (r : Run) (x : Exchange) (xs : List Exchange) :
    succeeded r (x :: xs) = ((x.run = r && x.reply.succeeded) || succeeded r xs) := rfl

@[simp] theorem succeeded_append (r : Run) (xs ys : List Exchange) :
    succeeded r (xs ++ ys) = (succeeded r xs || succeeded r ys) := by
  simp [succeeded]

theorem succeeded_eq_false {r : Run} {xs : List Exchange} (h : ∀ x ∈ xs, x.run ≠ r) :
    succeeded r xs = false := by
  rw [succeeded, List.any_eq_false]
  intro x hx
  simp [h x hx]

theorem succeeded_exchanged_of_ne {r q : Run} (h : q ≠ r) (host : Host) :
    succeeded r (host.exchanged q) = false :=
  succeeded_eq_false fun _ hx => Host.run_of_mem_exchanged hx ▸ h

/-! ## Readings -/

theorem Reply.succeeded_iff {reply : Reply} : reply.succeeded = true ↔ reply.ending = .exited 0 :=
  beq_iff_eq

theorem started_of_exited (context : String) {reply : Reply} {code : Int}
    (h : reply.ending = .exited code) : started context (some reply) = .ok reply := by
  simp only [started, h]

theorem started_of_unstarted (context : String) {reply : Reply} {fault : SystemFault}
    (h : reply.ending = .unstarted fault) :
    started context (some reply) = .error ⟨[context], .system fault⟩ := by
  simp only [started, h]

/-- What makes a result of exactly the replies that report success makes one of no run that was not
started. -/
theorem isOk_started_bind_some {α : Type} {context : String} {reading : Reply → Except Failure α}
    (hreading : ∀ reply, (reading reply).isOk = reply.succeeded) (reply : Reply) :
    (started context (some reply) >>= reading).isOk = reply.succeeded := by
  cases hending : reply.ending with
  | exited code =>
    rw [started_of_exited context hending]
    exact hreading reply
  | unstarted fault =>
    have hfailed : reply.succeeded = false := by
      rw [Reply.succeeded, hending]
      rfl
    rw [started_of_unstarted context hending, hfailed]
    rfl

theorem isOk_started_bind {α : Type} {context : String} {reading : Reply → Except Failure α}
    (hreading : ∀ reply, (reading reply).isOk = reply.succeeded) (r : Run) (h : Host) :
    (started context (Host.run r h).1 >>= reading).isOk = succeeded r (h.exchanged r) := by
  unfold Host.exchanged
  cases (Host.run r h).1 with
  | none => rfl
  | some reply => exact (isOk_started_bind_some hreading reply).trans (by simp)

theorem isOk_answered (context : String) (r : Run) (h : Host) :
    (answered context (Host.run r h).1).isOk = succeeded r (h.exchanged r) := by
  refine isOk_started_bind (fun reply => ?_) r h
  cases hreply : reply.succeeded <;> rfl

theorem isOk_listing (context : String) (r : Run) (h : Host) :
    (listing context (Host.run r h).1).isOk = succeeded r (h.exchanged r) := by
  refine isOk_started_bind (fun reply => ?_) r h
  cases hreply : reply.succeeded <;> rfl

theorem answered_of_succeeded (context : String) {reply : Reply} (h : reply.succeeded = true) :
    answered context (some reply) = .ok reply.text := by
  rw [answered, started_of_exited context (Reply.succeeded_iff.mp h)]
  exact if_pos h

theorem listing_of_succeeded (context : String) {reply : Reply} (h : reply.succeeded = true) :
    listing context (some reply) = .ok reply.text := by
  rw [listing, started_of_exited context (Reply.succeeded_iff.mp h)]
  exact if_pos h

theorem isOk_map {α β : Type} (f : α → β) (result : Except Failure α) :
    (result.map f).isOk = result.isOk := by
  cases result <;> rfl

/-- A look that succeeded found what its reply shows. -/
theorem readStatus_eq_ok_iff {interface : String} {reply : Reply} {s : DeviceStatus} :
    readStatus interface (some reply) = .ok s ↔
      reply.succeeded = true ∧ s = DeviceStatus.ofLines interface reply.text := by
  cases hsucceeded : reply.succeeded with
  | true =>
    rw [readStatus, answered_of_succeeded _ hsucceeded]
    exact ⟨fun h => ⟨rfl, (Except.ok.inj h).symm⟩, fun ⟨_, h⟩ => congrArg Except.ok h.symm⟩
  | false =>
    have hfailed : (readStatus interface (some reply)).isOk = reply.succeeded := by
      rw [readStatus, isOk_map]
      refine isOk_started_bind_some (fun other => ?_) reply
      cases hother : other.succeeded <;> rfl
    rw [hsucceeded] at hfailed
    refine iff_of_false (fun h => ?_) nofun
    rw [h] at hfailed
    cases hfailed

/-! ## Additions -/

/-- The argument lists of these runs that add a profile. -/
def additions (rs : List Run) : List (List String) :=
  (rs.map Run.arguments).filter (["connection", "add"].isPrefixOf ·)

@[simp] theorem additions_nil : additions [] = [] := rfl

@[simp] theorem additions_append (rs qs : List Run) :
    additions (rs ++ qs) = additions rs ++ additions qs := by
  simp [additions]

/-- Profiles are added by the one run that is there for it. -/
theorem additions_eq_nil {rs : List Run} (h : ∀ r ∈ rs, r.verb ≠ .addProfile) :
    additions rs = [] := by
  rw [additions, List.filter_eq_nil_iff]
  intro args hargs
  obtain ⟨r, hr, rfl⟩ := List.mem_map.mp hargs
  cases r with
  | addProfile p => exact absurd rfl (h _ hr)
  | _ => simp [Run.arguments, List.isPrefixOf]

/-- The argument lists with which an attempt to add a profile comes to be made. -/
def Host.addition (h : Host) (p : Profile) : List (List String) :=
  additions (h.made (.addProfile p))

theorem Host.addition_eq (h : Host) (p : Profile) :
    h.addition p = if h.script = none then [] else [p.arguments] := by
  unfold Host.addition Host.made
  cases h.script with
  | none => rfl
  | some script => simp [additions, Run.arguments, Profile.arguments, List.isPrefixOf]

theorem Host.addition_congr {h h' : Host} (hscript : h'.script = h.script) (p : Profile) :
    h'.addition p = h.addition p := by
  rw [Host.addition_eq, Host.addition_eq, hscript]

/-- Attempts at anything else add nothing. -/
theorem additions_made {r : Run} (hr : r.verb ≠ .addProfile) (h : Host) :
    additions (h.made r) = [] := by
  refine additions_eq_nil fun q hq => ?_
  unfold Host.made at hq
  cases hscript : h.script with
  | none => simp [hscript] at hq
  | some script =>
    rw [hscript, List.mem_singleton] at hq
    exact hq ▸ hr

end Wlan.NetworkManager
