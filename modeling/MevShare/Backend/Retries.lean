import MevShare.Backend.Handle
import MevShare.Backend.Conservation

/-!
# Retry accounting

The retry count travels with a request, through queues and futures.  What it is
meant to count can be read off the outside: how often the simulator was called
for the request, and how many of these simulations ended in `Reschedule`.  The
invariant (`Ledger.Accounted`) relates the three numbers in every place a request
can be in.

* Queued or cleared: it was called as often as it was rescheduled, and that is
  the count.
* In flight: it was called once more.
* Reported with a response or an error: the same, and the report has the count.
* Reported to have exceeded its retries: it was called and rescheduled
  `max_retries + 1` times.

A move changes the numbers of one request only.  That this does not disturb the
equations of another request with the same ticket is conservation: there is no
other (`alone_queued`, `alone_inFlight`).
-/

namespace MevShare
namespace Backend

open Rpc Rust Machine Relation

variable {B : Type} {cfg : BundleSimulatorServiceConfig}

/-- The request waits: it was called for as often as it was rescheduled. -/
def Resting (cfg : BundleSimulatorServiceConfig) (called rescheduled : ℕ)
    (r : SimulationRequest B) : Prop :=
  r.retries = rescheduled ∧ called = rescheduled ∧ rescheduled ≤ cfg.maxRetries

/-- The request is being simulated. -/
def Running (cfg : BundleSimulatorServiceConfig) (called rescheduled : ℕ)
    (r : SimulationRequest B) : Prop :=
  r.retries = rescheduled ∧ called = rescheduled + 1 ∧ rescheduled ≤ cfg.maxRetries

/-- What the numbers are when a request has left with an event. -/
def Settled (cfg : BundleSimulatorServiceConfig) (called rescheduled : ℕ) :
    SimulationEvent B → Prop
  | .simulatedBundle (.ok bundle) =>
      bundle.retries = rescheduled ∧ called = rescheduled + 1 ∧ rescheduled ≤ cfg.maxRetries
  | .simulatedBundle (.error err) =>
      err.sim.retries = rescheduled ∧ called = rescheduled + 1 ∧ rescheduled ≤ cfg.maxRetries
  | .outdatedRequest _ _ _ => called = rescheduled ∧ rescheduled ≤ cfg.maxRetries
  | .exceededMaxRetries _ _ => called = cfg.maxRetries + 1 ∧ rescheduled = cfg.maxRetries + 1
  | .blockNumberUpdated _ _ => True

namespace Ledger

/-! ## The two counters -/

/-- How often the simulator was called for a bundle that passes the test. -/
def calledFor (P : B → Bool) (l : Ledger B) : ℕ := l.calls.countP fun job => P job.1

/-- The completion was a `Reschedule` of a simulation of such a bundle. -/
def isRescheduleOf (P : B → Bool) (l : Ledger B) (c : ℕ × BundleSimulationOutcome) : Bool :=
  c.2.isReschedule && (l.calls[c.1]?).any fun job => P job.1

/-- How many of these simulations have ended in `Reschedule`. -/
def rescheduledFor (P : B → Bool) (l : Ledger B) : ℕ := l.completed.countP (l.isRescheduleOf P)

/-- A new call does not change what the completed simulations were given. -/
theorem rescheduledFor_start (P : B → Bool) {l l' : Ledger B} (hn : l.Numbered)
    {job : B × SimBundleOverrides} (hcalls : l'.calls = l.calls ++ [job])
    (hcompleted : l'.completed = l.completed) : l'.rescheduledFor P = l.rescheduledFor P := by
  unfold rescheduledFor
  rw [hcompleted]
  refine List.countP_congr fun c hc => ?_
  unfold isRescheduleOf
  rw [hcalls, List.getElem?_append_left (hn.completed c hc)]

theorem rescheduledFor_complete (P : B → Bool) {l l' : Ledger B} {r : SimulationRequest B}
    {id : ℕ} {out : BundleSimulationOutcome} (hcall : l.calls[id]? = some r.job)
    (hcalls : l'.calls = l.calls) (hcompleted : l'.completed = l.completed ++ [(id, out)]) :
    l'.rescheduledFor P =
      l.rescheduledFor P + if (out.isReschedule && r.about P) = true then 1 else 0 := by
  have hsame : l'.isRescheduleOf P = l.isRescheduleOf P := by
    funext c
    unfold isRescheduleOf
    rw [hcalls]
  have hlast : l.isRescheduleOf P (id, out) = (out.isReschedule && r.about P) := by
    unfold isRescheduleOf
    rw [hcall]
    rfl
  rw [rescheduledFor, rescheduledFor, hsame, hcompleted, List.countP_append, List.countP_singleton,
    hlast]

/-! ## A request that moves is alone -/

variable {P : B → Bool}

/-- Nothing that the ledger queues is about `P`. -/
theorem not_about_of_queuedCount {l : Ledger B} (h : l.queuedCount P = 0) (p : SimulationPriority) :
    ∀ r ∈ l.queue p, r.about P ≠ true := by
  unfold queuedCount at h
  cases p
  · exact List.countP_eq_zero.mp (by omega)
  · exact List.countP_eq_zero.mp (by omega)

/-- Where a queued request is the only one about `P`. -/
theorem alone_queued {l : Ledger B} (hbal : l.Balanced)
    (hone : l.accepted.countP (SimulationRequest.about P) ≤ 1) {p : SimulationPriority}
    {pre post : List (SimulationRequest B)} {r : SimulationRequest B}
    (hq : l.queue p = pre ++ r :: post) (hr : r.about P = true) :
    (∀ p', ∀ x ∈ (l.setQueue p (pre ++ post)).queue p', x.about P ≠ true) ∧
      (∀ f ∈ l.inFlight, f.1.about P ≠ true) ∧ (∀ x ∈ l.cleared, x.about P ≠ true) ∧
      ∀ e ∈ l.left, e.about P ≠ true := by
  have htally := hbal P
  have hset := queuedCount_setQueue P l p (pre ++ post)
  rw [hq, List.countP_append, List.countP_append, List.countP_cons, if_pos hr] at hset
  unfold tally at htally
  refine ⟨not_about_of_queuedCount (by omega), ?_, ?_, ?_⟩
  · exact List.countP_eq_zero.mp (by omega)
  · exact List.countP_eq_zero.mp (by omega)
  · exact List.countP_eq_zero.mp (by omega)

/-- Where a request in flight is the only one about `P`. -/
theorem alone_inFlight {l : Ledger B} (hbal : l.Balanced)
    (hone : l.accepted.countP (SimulationRequest.about P) ≤ 1)
    {pre post : List (SimulationRequest B × ℕ)} {r : SimulationRequest B} {id : ℕ}
    (hf : l.inFlight = pre ++ (r, id) :: post) (hr : r.about P = true) :
    (∀ p, ∀ x ∈ l.queue p, x.about P ≠ true) ∧ (∀ f ∈ pre ++ post, f.1.about P ≠ true) ∧
      (∀ x ∈ l.cleared, x.about P ≠ true) ∧ ∀ e ∈ l.left, e.about P ≠ true := by
  have htally := hbal P
  unfold tally at htally
  rw [hf] at htally
  simp only [List.countP_append, List.countP_cons, hr, if_true] at htally
  refine ⟨not_about_of_queuedCount (by omega), ?_, ?_, ?_⟩
  · have hrest : (pre ++ post).countP (fun f => f.1.about P) = 0 := by
      rw [List.countP_append]
      omega
    exact List.countP_eq_zero.mp hrest
  · exact List.countP_eq_zero.mp (by omega)
  · exact List.countP_eq_zero.mp (by omega)

/-! ## The invariant -/

/-- The retry counts of the requests about `P` are what they are meant to be. -/
structure Accounted (cfg : BundleSimulatorServiceConfig) (P : B → Bool) (l : Ledger B) : Prop where
  queued : ∀ p, ∀ r ∈ l.queue p, r.about P = true →
    Resting cfg (l.calledFor P) (l.rescheduledFor P) r
  inFlight : ∀ f ∈ l.inFlight, f.1.about P = true →
    Running cfg (l.calledFor P) (l.rescheduledFor P) f.1
  cleared : ∀ r ∈ l.cleared, r.about P = true →
    Resting cfg (l.calledFor P) (l.rescheduledFor P) r
  left : ∀ e ∈ l.left, e.about P = true → Settled cfg (l.calledFor P) (l.rescheduledFor P) e
  fresh : l.accepted.countP (SimulationRequest.about P) = 0 →
    l.calledFor P = 0 ∧ l.rescheduledFor P = 0

theorem Accounted.empty : (Ledger.empty : Ledger B).Accounted cfg P where
  queued := fun p r hr => by cases hr
  inFlight := fun f hf => by cases hf
  cleared := fun r hr => by cases hr
  left := fun e he => by cases he
  fresh := fun _ => ⟨rfl, rfl⟩

/-- The invariant where neither counter has changed and everything in its place is
an old entry or one shown to be right. -/
theorem Accounted.of_eq {l l' : Ledger B} (h : l.Accounted cfg P)
    (hcalled : l'.calledFor P = l.calledFor P)
    (hrescheduled : l'.rescheduledFor P = l.rescheduledFor P)
    (hqueued : ∀ p, ∀ r ∈ l'.queue p, r ∈ l.queue p ∨
      (r.about P = true → Resting cfg (l.calledFor P) (l.rescheduledFor P) r))
    (hflight : ∀ f ∈ l'.inFlight, f ∈ l.inFlight ∨
      (f.1.about P = true → Running cfg (l.calledFor P) (l.rescheduledFor P) f.1))
    (hcleared : ∀ r ∈ l'.cleared, r ∈ l.cleared ∨
      (r.about P = true → Resting cfg (l.calledFor P) (l.rescheduledFor P) r))
    (hleft : ∀ e ∈ l'.left, e ∈ l.left ∨
      (e.about P = true → Settled cfg (l.calledFor P) (l.rescheduledFor P) e))
    (hfresh : l'.accepted.countP (SimulationRequest.about P) = 0 →
      l.accepted.countP (SimulationRequest.about P) = 0) : l'.Accounted cfg P := by
  refine ⟨fun p r hr hP => ?_, fun f hf hP => ?_, fun r hr hP => ?_, fun e he hP => ?_,
    fun hzero => ?_⟩
  · rw [hcalled, hrescheduled]
    exact (hqueued p r hr).elim (fun hold => h.queued p r hold hP) fun hnew => hnew hP
  · rw [hcalled, hrescheduled]
    exact (hflight f hf).elim (fun hold => h.inFlight f hold hP) fun hnew => hnew hP
  · rw [hcalled, hrescheduled]
    exact (hcleared r hr).elim (fun hold => h.cleared r hold hP) fun hnew => hnew hP
  · rw [hcalled, hrescheduled]
    exact (hleft e he).elim (fun hold => h.left e hold hP) fun hnew => hnew hP
  · rw [hcalled, hrescheduled]
    exact h.fresh (hfresh hzero)

/-- A started request was called for once more. -/
theorem Accounted.start {l l' : Ledger B} (h : l.Accounted cfg P) (hbal : l.Balanced)
    (hn : l.Numbered) (hone : l.accepted.countP (SimulationRequest.about P) ≤ 1)
    {p : SimulationPriority} {pre post : List (SimulationRequest B)} {r : SimulationRequest B}
    (hq : l.queue p = pre ++ r :: post)
    (hl' : l' = { l.setQueue p (pre ++ post) with
      inFlight := l.inFlight ++ [(r, l.calls.length)]
      calls := l.calls ++ [r.job] }) : l'.Accounted cfg P := by
  have hmem : r ∈ l.queue p := by simp [hq]
  have hsub : ∀ x ∈ pre ++ post, x ∈ l.queue p := fun x hx => Search.mem_of_mem_cut hq hx
  have hcalls : l'.calls = l.calls ++ [r.job] := by rw [hl']
  have hcompleted : l'.completed = l.completed := by rw [hl']; rfl
  have hrescheduled : l'.rescheduledFor P = l.rescheduledFor P :=
    rescheduledFor_start P hn hcalls hcompleted
  have hcalled : l'.calledFor P = l.calledFor P + if r.about P = true then 1 else 0 := by
    rw [calledFor, hl', List.countP_append, List.countP_singleton]
    rfl
  by_cases hr : r.about P = true
  · obtain ⟨hqueue, hflight, hcleared, hleft⟩ := alone_queued hbal hone hq hr
    obtain ⟨hretries, hresting, hle⟩ := h.queued p r hmem hr
    rw [if_pos hr] at hcalled
    subst hl'
    refine ⟨fun p' x hx hP => absurd hP (hqueue p' x hx), fun f hf hP => ?_,
      fun x hx hP => absurd hP (hcleared x hx), fun e he hP => absurd hP (hleft e he),
      fun hzero => ?_⟩
    · rcases List.mem_append.mp hf with hf | hf
      · exact absurd hP (hflight f hf)
      · rw [List.mem_singleton.mp hf, hcalled, hrescheduled]
        exact ⟨hretries, by omega, hle⟩
    · have htally := hbal P
      have hpos : 0 < (l.queue p).countP (SimulationRequest.about P) :=
        List.countP_pos_iff.mpr ⟨r, hmem, hr⟩
      have hnone : l.accepted.countP (SimulationRequest.about P) = 0 := hzero
      unfold tally queuedCount at htally
      cases p <;> omega
  · rw [if_neg hr, Nat.add_zero] at hcalled
    refine h.of_eq hcalled hrescheduled ?_ ?_ ?_ ?_ ?_
    · rw [hl']
      exact forall_setQueue (I := fun p' x => x ∈ l.queue p' ∨ _) (fun p' x hx => Or.inl hx)
        fun x hx => Or.inl (hsub x hx)
    · intro f hf
      rw [hl'] at hf
      rcases List.mem_append.mp hf with hf | hf
      · exact Or.inl hf
      · rw [List.mem_singleton.mp hf]
        exact Or.inr fun hP => absurd hP hr
    · intro x hx
      rw [hl'] at hx
      exact Or.inl hx
    · intro e he
      rw [hl'] at he
      exact Or.inl he
    · intro hzero
      rw [hl'] at hzero
      exact hzero

/-- An accepted request about `P` is somewhere, so something was accepted. -/
theorem accepted_ne_zero {l : Ledger B} (hbal : l.Balanced) {f : SimulationRequest B × ℕ}
    (hf : f ∈ l.inFlight) (hr : f.1.about P = true) :
    l.accepted.countP (SimulationRequest.about P) ≠ 0 := by
  have htally := hbal P
  have hpos : 0 < l.inFlight.countP fun f => f.1.about P :=
    List.countP_pos_iff.mpr ⟨f, hf, hr⟩
  unfold tally at htally
  omega

/-- The report on an outcome settles the numbers of a running request. -/
theorem settled_report {called rescheduled : ℕ} {r : SimulationRequest B}
    (h : Running cfg called rescheduled r) {out : BundleSimulationOutcome} {e : SimulationEvent B}
    (he : report cfg.maxRetries out r = some e) :
    Settled cfg called (rescheduled + if out.isReschedule = true then 1 else 0) e := by
  obtain ⟨hretries, hcalled, hle⟩ := h
  unfold report at he
  cases out with
  | success resp =>
    cases he
    exact ⟨hretries, hcalled, hle⟩
  | fatal error =>
    cases he
    exact ⟨hretries, hcalled, hle⟩
  | reschedule error =>
    by_cases hlt : cfg.maxRetries < r.retries + 1
    · rw [if_pos hlt] at he
      cases he
      -- the count has reached the limit
      have hmax : rescheduled = cfg.maxRetries := by omega
      refine ⟨by omega, ?_⟩
      show rescheduled + 1 = cfg.maxRetries + 1
      omega
    · rw [if_neg hlt] at he
      cases he

/-- A request that leaves with a report. -/
theorem Accounted.finish {l l' : Ledger B} (h : l.Accounted cfg P) (hbal : l.Balanced)
    (hn : l.Numbered) (hone : l.accepted.countP (SimulationRequest.about P) ≤ 1)
    {pre post : List (SimulationRequest B × ℕ)} {r : SimulationRequest B} {id : ℕ}
    {out : BundleSimulationOutcome} {e : SimulationEvent B}
    (hf : l.inFlight = pre ++ (r, id) :: post) (he : report cfg.maxRetries out r = some e)
    (hl' : l' = { l with
      inFlight := pre ++ post
      completed := l.completed ++ [(id, out)]
      left := l.left ++ [e] }) : l'.Accounted cfg P := by
  have hmem : (r, id) ∈ l.inFlight := by simp [hf]
  have hsub : ∀ x ∈ pre ++ post, x ∈ l.inFlight := fun x hx => Search.mem_of_mem_cut hf hx
  have habout : e.about P = r.about P := SimulationEvent.about_of_subject (report_subject he)
  have hcalled : l'.calledFor P = l.calledFor P := by rw [hl']; rfl
  have hrescheduled : l'.rescheduledFor P =
      l.rescheduledFor P + if (out.isReschedule && r.about P) = true then 1 else 0 :=
    rescheduledFor_complete P (hn.inFlight _ hmem) (by rw [hl']) (by rw [hl'])
  by_cases hr : r.about P = true
  · obtain ⟨hqueue, hflight, hcleared, hleft⟩ := alone_inFlight hbal hone hf hr
    have hsettled := settled_report (h.inFlight _ hmem hr) he
    rw [hr, Bool.and_true] at hrescheduled
    subst hl'
    refine ⟨fun p x hx hP => absurd hP (hqueue p x hx), fun f hf' hP => absurd hP (hflight f hf'),
      fun x hx hP => absurd hP (hcleared x hx), fun e' he' hP => ?_,
      fun hzero => ?_⟩
    · rcases List.mem_append.mp he' with he' | he'
      · exact absurd hP (hleft e' he')
      · rw [List.mem_singleton.mp he', hcalled, hrescheduled]
        exact hsettled
    · have hnone : l.accepted.countP (SimulationRequest.about P) = 0 := hzero
      exact absurd hnone (accepted_ne_zero hbal hmem hr)
  · rw [Bool.not_eq_true] at hr
    rw [hr, Bool.and_false, if_neg (by decide), Nat.add_zero] at hrescheduled
    refine h.of_eq hcalled hrescheduled ?_ ?_ ?_ ?_ ?_
    · intro p x hx
      rw [hl'] at hx
      exact Or.inl hx
    · intro f hf'
      rw [hl'] at hf'
      exact Or.inl (hsub f hf')
    · intro x hx
      rw [hl'] at hx
      exact Or.inl hx
    · intro e' he'
      rw [hl'] at he'
      rcases List.mem_append.mp he' with he' | he'
      · exact Or.inl he'
      · rw [List.mem_singleton.mp he', habout, hr]
        exact Or.inr fun hP => absurd hP (by decide)
    · intro hzero
      rw [hl'] at hzero
      exact hzero

/-- A request that is queued again. -/
theorem Accounted.requeue {l l' : Ledger B} (h : l.Accounted cfg P) (hbal : l.Balanced)
    (hn : l.Numbered) (hone : l.accepted.countP (SimulationRequest.about P) ≤ 1)
    {pre post : List (SimulationRequest B × ℕ)} {r : SimulationRequest B} {id : ℕ}
    {error : BoxError} (hf : l.inFlight = pre ++ (r, id) :: post)
    (hretry : r.retries + 1 ≤ cfg.maxRetries)
    (hl' : l' = { l.setQueue r.priority
        (l.queue r.priority ++ [BundleSimulatorService.rescheduled r]) with
      inFlight := pre ++ post
      completed := l.completed ++ [(id, .reschedule error)] }) : l'.Accounted cfg P := by
  have hmem : (r, id) ∈ l.inFlight := by simp [hf]
  have hsub : ∀ x ∈ pre ++ post, x ∈ l.inFlight := fun x hx => Search.mem_of_mem_cut hf hx
  have hcalled : l'.calledFor P = l.calledFor P := by rw [hl']; rfl
  have hcalls : l'.calls = l.calls := by rw [hl']; rfl
  have hcompleted : l'.completed = l.completed ++ [(id, .reschedule error)] := by rw [hl']
  have hrescheduled : l'.rescheduledFor P =
      l.rescheduledFor P + if (true && r.about P) = true then 1 else 0 :=
    rescheduledFor_complete P (hn.inFlight _ hmem) hcalls hcompleted
  have hqueue' : ∀ p, ∀ x ∈ l'.queue p,
      x ∈ l.queue p ∨ x = BundleSimulatorService.rescheduled r := by
    rw [hl']
    refine forall_setQueue (I := fun p x => x ∈ l.queue p ∨ _) (fun p x hx => Or.inl hx) ?_
    intro x hx
    exact (List.mem_append.mp hx).imp_right List.mem_singleton.mp
  by_cases hr : r.about P = true
  · obtain ⟨hqueue, hflight, hcleared, hleft⟩ := alone_inFlight hbal hone hf hr
    obtain ⟨hretries, hcalls', hle⟩ := h.inFlight _ hmem hr
    rw [hr, Bool.and_true, if_pos rfl] at hrescheduled
    have hrest : Resting cfg (l'.calledFor P) (l'.rescheduledFor P)
        (BundleSimulatorService.rescheduled r) := by
      have hnew : (BundleSimulatorService.rescheduled r).retries = r.retries + 1 := rfl
      have hold : r.retries = l.rescheduledFor P := hretries
      refine ⟨by omega, by omega, by omega⟩
    refine ⟨fun p x hx hP => ?_, fun f hf' hP => ?_, fun x hx hP => ?_, fun e he hP => ?_,
      fun hzero => ?_⟩
    · rcases hqueue' p x hx with hold | rfl
      · exact absurd hP (hqueue p x hold)
      · exact hrest
    · rw [hl'] at hf'
      exact absurd hP (hflight f hf')
    · rw [hl'] at hx
      exact absurd hP (hcleared x hx)
    · rw [hl'] at he
      exact absurd hP (hleft e he)
    · have haccepted : l'.accepted = l.accepted := by rw [hl']; rfl
      rw [haccepted] at hzero
      exact absurd hzero (accepted_ne_zero hbal hmem hr)
  · have hfalse : r.about P = false := Bool.not_eq_true _ ▸ hr
    rw [hfalse, Bool.and_false, if_neg (by decide), Nat.add_zero] at hrescheduled
    refine h.of_eq hcalled hrescheduled (fun p x hx => ?_) ?_ ?_ ?_ ?_
    · refine (hqueue' p x hx).imp_right ?_
      rintro rfl hP
      exact absurd hP hr
    · intro f hf'
      rw [hl'] at hf'
      exact Or.inl (hsub f hf')
    · intro x hx
      rw [hl'] at hx
      exact Or.inl hx
    · intro e he
      rw [hl'] at he
      exact Or.inl he
    · intro hzero
      rw [hl'] at hzero
      exact hzero

/-- **Every move keeps the accounts**, as long as at most one request about `P` is
accepted, and it comes with no retries. -/
theorem Accounted.move {l l' : Ledger B} (h : l.Accounted cfg P) (hbal : l.Balanced)
    (hn : l.Numbered) (hone : l'.accepted.countP (SimulationRequest.about P) ≤ 1)
    (hzero : ∀ a ∈ l'.accepted, a.about P = true → a.retries = 0) (hm : Move cfg l l') :
    l'.Accounted cfg P := by
  have hone' : l.accepted.countP (SimulationRequest.about P) ≤ 1 :=
    Nat.le_trans ((Grows.of_move hm).accepted.sublist.countP_le) hone
  cases hm with
  | @accept r hroom =>
    refine h.of_eq rfl rfl ?_ (fun f hf => Or.inl hf) (fun x hx => Or.inl hx)
      (fun e he => Or.inl he) ?_
    · refine forall_setQueue (I := fun p x => x ∈ l.queue p ∨ _) (fun p x hx => Or.inl hx) ?_
      intro x hx
      rcases List.mem_append.mp hx with hx | hx
      · exact Or.inl hx
      · refine Or.inr fun hP => ?_
        obtain rfl := List.mem_singleton.mp hx
        have hnone : l.accepted.countP (SimulationRequest.about P) = 0 := by
          have hcount : (l.accepted ++ [x]).countP (SimulationRequest.about P) ≤ 1 := hone
          rw [List.countP_append, List.countP_singleton, if_pos hP] at hcount
          omega
        obtain ⟨hcalled, hrescheduled⟩ := h.fresh hnone
        rw [hcalled, hrescheduled]
        exact ⟨hzero x (List.mem_append_right _ List.mem_cons_self) hP, rfl, Nat.zero_le _⟩
    · intro hnone
      have hcount : (l.accepted ++ [r]).countP (SimulationRequest.about P) = 0 := hnone
      rw [List.countP_append] at hcount
      omega
  | clear =>
    refine h.of_eq rfl rfl ?_ (fun f hf => Or.inl hf) (fun x hx => ?_)
      (fun e he => Or.inl he) (fun hnone => hnone)
    · intro p x hx
      cases hx
    · rcases List.mem_append.mp hx with hx | hx
      · exact Or.inl hx
      · rcases List.mem_append.mp hx with hx | hx
        · exact Or.inr (h.queued .high x hx)
        · exact Or.inr (h.queued .normal x hx)
  | @expire p pre post r nextBlock hq =>
    have hsub : ∀ x ∈ pre ++ post, x ∈ l.queue p := fun x hx => Search.mem_of_mem_cut hq hx
    refine h.of_eq rfl rfl ?_ (fun f hf => Or.inl hf) (fun x hx => Or.inl hx) (fun e he => ?_)
      (fun hnone => hnone)
    · exact forall_setQueue (I := fun p x => x ∈ l.queue p ∨ _) (fun p x hx => Or.inl hx)
        fun x hx => Or.inl (hsub x hx)
    · rcases List.mem_append.mp he with he | he
      · exact Or.inl he
      · refine Or.inr fun hP => ?_
        rw [List.mem_singleton.mp he] at hP ⊢
        obtain ⟨-, hcalled, hle⟩ := h.queued p r (by simp [hq]) hP
        exact ⟨hcalled, hle⟩
  | start hq hcap => exact h.start hbal hn hone' hq rfl
  | finish hf he => exact h.finish hbal hn hone' hf he rfl
  | requeue hf hr => exact h.requeue hbal hn hone' hf hr rfl

/-! ## What the invariant says about the numbers -/

/-- A report says that the retries were used up, or the numbers are within them. -/
theorem numbers_of_settled {called rescheduled : ℕ} {e : SimulationEvent B}
    (h : Settled cfg called rescheduled e) (hP : e.about P = true) :
    (rescheduled ≤ cfg.maxRetries ∧ called ≤ rescheduled + 1) ∨
      ∃ request overrides, e = .exceededMaxRetries request overrides ∧ P request = true ∧
        called = cfg.maxRetries + 1 ∧ rescheduled = cfg.maxRetries + 1 := by
  rcases e with (err | bundle) | ⟨request, overrides, nextBlock⟩ | ⟨request, overrides⟩ |
    ⟨old, current⟩
  · obtain ⟨-, hcalled, hle⟩ := h
    exact Or.inl ⟨hle, Nat.le_of_eq hcalled⟩
  · obtain ⟨-, hcalled, hle⟩ := h
    exact Or.inl ⟨hle, Nat.le_of_eq hcalled⟩
  · obtain ⟨hcalled, hle⟩ := h
    exact Or.inl ⟨hle, Nat.le_succ_of_le (Nat.le_of_eq hcalled)⟩
  · obtain ⟨hcalled, hrescheduled⟩ := h
    exact Or.inr ⟨request, overrides, rfl, hP, hcalled, hrescheduled⟩
  · cases hP

/-- **The numbers of an accepted request.**  It is reported to have exceeded its
retries, after `max_retries + 1` calls that were all rescheduled; or it was not
rescheduled more than `max_retries` times, nor called more than once more. -/
theorem Accounted.numbers {l : Ledger B} (h : l.Accounted cfg P) (hbal : l.Balanced)
    (hpos : 0 < l.accepted.countP (SimulationRequest.about P)) :
    (l.rescheduledFor P ≤ cfg.maxRetries ∧ l.calledFor P ≤ l.rescheduledFor P + 1) ∨
      ∃ request overrides, SimulationEvent.exceededMaxRetries request overrides ∈ l.left ∧
        P request = true ∧ l.calledFor P = cfg.maxRetries + 1 ∧
        l.rescheduledFor P = cfg.maxRetries + 1 := by
  rcases hbal.placed hpos with ⟨p, r, hr, hP⟩ | ⟨f, hf, hP⟩ | ⟨r, hr, hP⟩ | ⟨e, he, hP⟩
  · obtain ⟨-, hcalled, hle⟩ := h.queued p r hr hP
    exact Or.inl ⟨hle, Nat.le_succ_of_le (Nat.le_of_eq hcalled)⟩
  · obtain ⟨-, hcalled, hle⟩ := h.inFlight f hf hP
    exact Or.inl ⟨hle, Nat.le_of_eq hcalled⟩
  · obtain ⟨-, hcalled, hle⟩ := h.cleared r hr hP
    exact Or.inl ⟨hle, Nat.le_succ_of_le (Nat.le_of_eq hcalled)⟩
  · refine (numbers_of_settled (h.left e he hP) hP).imp_right ?_
    rintro ⟨request, overrides, rfl, hrequest, hcalled, hrescheduled⟩
    exact ⟨request, overrides, he, hrequest, hcalled, hrescheduled⟩

end Ledger

/-! ## The service -/

/-- The action, if it is a submission, was built by one of the submission paths of
the handle. -/
def Action.FromHandle (a : Action B) : Prop :=
  ∀ r tx, a = .message (.addSimulation r tx) →
    ∃ request overrides priority, r = SimulationRequest.submitted request overrides priority

theorem Action.FromHandle.map {a : Action B} (h : a.FromHandle) {C : Type} (f : B → C) :
    (a.map f).FromHandle := by
  intro r tx hmsg
  rcases a with (_ | num | ⟨r', tx'⟩ | tx') | _ | _ | _ <;> cases hmsg
  obtain ⟨request, overrides, priority, rfl⟩ := h r' tx rfl
  exact ⟨f request, overrides, priority, rfl⟩

theorem ticketed_fromHandle {run : List (Action B)} (hrun : ∀ a ∈ run, a.FromHandle) (k : ℕ) :
    ∀ a ∈ ticketed k run, a.FromHandle := by
  induction run generalizing k with
  | nil => exact fun a ha => absurd ha List.not_mem_nil
  | cons b run ih =>
    intro a ha
    rcases List.mem_cons.mp ha with rfl | ha
    · exact (hrun b List.mem_cons_self).map _
    · exact ih (fun c hc => hrun c (List.mem_cons_of_mem b hc)) (k + 1) a ha

/-- What the handle submits has no retries. -/
theorem BundleSimulatorService.retries_of_accepted [Bundle B] {profile : BuildProfile} {n : U64}
    {run : List (Action B)} {s : BundleSimulatorService B}
    (h : exec (step profile) (.new n cfg) run = .ok s) (hrun : ∀ a ∈ run, a.FromHandle) :
    ∀ r ∈ s.ledger.accepted, r.retries = 0 := by
  intro r hr
  obtain ⟨ans, hans, -, rfl⟩ := mem_accepted.mp hr
  have hmem : (ans.request, ans.tx) ∈ run.filterMap Action.submission := by
    rw [← exec_answeredSubmissions h]
    exact List.mem_map.mpr ⟨ans, hans, rfl⟩
  obtain ⟨a, ha, hsub⟩ := List.mem_filterMap.mp hmem
  have hmsg : a = .message (.addSimulation ans.request ans.tx) := by
    rcases a with (_ | num | ⟨request, tx⟩ | tx) | _ | _ | _ <;> cases hsub
    rfl
  obtain ⟨request, overrides, priority, hbuilt⟩ := hrun a ha _ _ hmsg
  rw [hbuilt]
  rfl

namespace BundleSimulatorService

/-- How often the simulator was called for the ticket `k`. -/
def simulationsOf (s : BundleSimulatorService (Ticketed B)) (k : ℕ) : ℕ :=
  s.world.simulateCalls.countP fun job => hasTicket k job.1

/-- How many `Reschedule` outcomes the request with the ticket `k` has received:
the completed futures with this outcome that were started for it. -/
def reschedulesOf (s : BundleSimulatorService (Ticketed B)) (k : ℕ) : ℕ :=
  s.world.completed.countP fun c =>
    c.2.isReschedule && (s.world.simulateCalls[c.1]?).any fun job => hasTicket k job.1

/-- The retry count of the ticket `k` is right wherever it shows. -/
structure RetriesAccounted (cfg : BundleSimulatorServiceConfig)
    (s : BundleSimulatorService (Ticketed B)) (k : ℕ) : Prop where
  queued : ∀ p, ∀ r ∈ s.queue p, r.request.ticket = k →
    r.retries = s.reschedulesOf k ∧ r.retries ≤ cfg.maxRetries
  inFlight : ∀ sim ∈ s.simulations, ∀ r, sim.inner = some r → r.request.ticket = k →
    r.retries = s.reschedulesOf k ∧ r.retries ≤ cfg.maxRetries
  calls : s.simulationsOf k ≤ cfg.maxRetries + 1
  exceeded : (∃ request overrides,
      SimulationEvent.exceededMaxRetries request overrides ∈ s.world.emitted ∧
        request.ticket = k) ↔
    s.simulationsOf k = cfg.maxRetries + 1 ∧ s.reschedulesOf k = cfg.maxRetries + 1
  success : ∀ bundle, SimulationEvent.simulatedBundle (.ok bundle) ∈ s.world.emitted →
    bundle.request.ticket = k → bundle.retries = s.reschedulesOf k
  error : ∀ err, SimulationEvent.simulatedBundle (.error err) ∈ s.world.emitted →
    err.sim.request.ticket = k → err.sim.retries = s.reschedulesOf k

section Runs

variable [Bundle B] {profile : BuildProfile} {n : U64} {run : List (Action B)}
  {s : BundleSimulatorService (Ticketed B)}

theorem exec_accounted (h : exec (step profile) (new n cfg) (ticketed 0 run) = .ok s) (k : ℕ)
    (hzero : ∀ a ∈ s.ledger.accepted, a.about (hasTicket k) = true → a.retries = 0) :
    s.ledger.Accounted cfg (hasTicket k) := by
  have hinv : Audited cfg s.ledger ∧
      (s.ledger.accepted.countP (SimulationRequest.about (hasTicket k)) ≤ 1 →
        (∀ a ∈ s.ledger.accepted, a.about (hasTicket k) = true → a.retries = 0) →
          s.ledger.Accounted cfg (hasTicket k)) := by
    refine exec_ledger_invariant (I := fun l : Ledger (Ticketed B) => Audited cfg l ∧
      (l.accepted.countP (SimulationRequest.about (hasTicket k)) ≤ 1 →
        (∀ a ∈ l.accepted, a.about (hasTicket k) = true → a.retries = 0) →
          l.Accounted cfg (hasTicket k))) ?_ ?_ h
    · exact ⟨⟨.empty, .empty, .empty, .empty⟩, fun _ _ => .empty⟩
    · rintro l l' ⟨haudit, hl⟩ hm
      have hgrows := (Ledger.Grows.of_move hm).accepted
      refine ⟨⟨haudit.bounded.move hm, haudit.balanced.move hm, haudit.numbered.move hm,
        haudit.genuine.move haudit.numbered hm⟩, fun hone hz => ?_⟩
      have hold := hl (Nat.le_trans hgrows.sublist.countP_le hone)
        fun a ha => hz a (hgrows.subset ha)
      exact hold.move haudit.balanced haudit.numbered hone hz hm
  exact hinv.2 (countP_accepted_le_one h k) hzero

omit [Bundle B] in
theorem retriesAccounted_of_accounted {k : ℕ} (hacc : s.ledger.Accounted cfg (hasTicket k))
    (hbal : s.ledger.Balanced)
    (hpos : 0 < s.ledger.accepted.countP (SimulationRequest.about (hasTicket k))) :
    s.RetriesAccounted cfg k := by
  have hticket : ∀ r : SimulationRequest (Ticketed B),
      r.request.ticket = k → r.about (hasTicket k) = true := by
    intro r hr
    simpa [SimulationRequest.about, hasTicket] using hr
  have hleft : ∀ e ∈ s.world.emitted, ∀ x, e.subject = some x → x.1.ticket = k →
      Settled cfg (s.simulationsOf k) (s.reschedulesOf k) e := by
    intro e he x hx hk
    refine hacc.left e (List.mem_filter.mpr ⟨he, ?_⟩) ?_
    · rw [SimulationEvent.isTerminal, hx]
      rfl
    · rw [SimulationEvent.about, hx]
      simpa [hasTicket] using hk
  have hnumbers := hacc.numbers hbal hpos
  refine ⟨fun p r hr hk => ?_, fun sim hsim r hr hk => ?_, ?_, ⟨?_, ?_⟩, fun bundle hb hk => ?_,
    fun err he hk => ?_⟩
  · obtain ⟨hretries, -, hle⟩ := hacc.queued p r hr (hticket r hk)
    exact ⟨hretries, hretries ▸ hle⟩
  · have hmem : (r, sim.sim) ∈ s.ledger.inFlight := by
      refine List.mem_filterMap.mpr ⟨sim, hsim, ?_⟩
      rw [Simulation.entry, hr]
      rfl
    obtain ⟨hretries, -, hle⟩ := hacc.inFlight _ hmem (hticket r hk)
    exact ⟨hretries, Nat.le_trans (Nat.le_of_eq hretries) hle⟩
  · show s.ledger.calledFor (hasTicket k) ≤ cfg.maxRetries + 1
    rcases hnumbers with ⟨hrescheduled, hcalled⟩ | ⟨-, -, -, -, hcalled, -⟩
    · omega
    · exact Nat.le_of_eq hcalled
  · rintro ⟨request, overrides, he, hk⟩
    exact hleft _ he _ rfl hk
  · rintro ⟨-, hmax⟩
    have hmax' : s.ledger.rescheduledFor (hasTicket k) = cfg.maxRetries + 1 := hmax
    rcases hnumbers with ⟨hrescheduled, -⟩ | ⟨request, overrides, he, hP, -, -⟩
    · omega
    · exact ⟨request, overrides, (List.mem_filter.mp he).1, by simpa [hasTicket] using hP⟩
  · exact (hleft _ hb _ rfl hk).1
  · exact (hleft _ he _ rfl hk).1

end Runs

/-- **Retry accounting.**  In every run whose submissions come from handles, the
retry count of every accepted request is right wherever it shows, and once the
request is reported to have exceeded its retries the simulator is never called for
it again. -/
theorem retry_accounting [Bundle B] {profile : BuildProfile} {n : U64} {run : List (Action B)}
    {s : BundleSimulatorService B} (h : exec (step profile) (new n cfg) run = .ok s)
    (hrun : ∀ a ∈ run, a.FromHandle) :
    ∃ s' : BundleSimulatorService (Ticketed B),
      exec (step profile) (new n cfg) (ticketed 0 run) = .ok s' ∧
      s'.map Ticketed.bundle = s ∧
      ∀ ans ∈ s'.world.answers, ans.result = .ok () →
        s'.RetriesAccounted cfg ans.request.request.ticket ∧
          ∀ (more : List (Action B)) (t : BundleSimulatorService (Ticketed B)),
            exec (step profile) s' (ticketed run.length more) = .ok t →
            (∃ request overrides,
              SimulationEvent.exceededMaxRetries request overrides ∈ s'.world.emitted ∧
                request.ticket = ans.request.request.ticket) →
            t.simulationsOf ans.request.request.ticket =
              s'.simulationsOf ans.request.request.ticket := by
  obtain ⟨s', hs', hmap⟩ := exec_ticketed h
  have hretries := retries_of_accepted hs' (ticketed_fromHandle hrun 0)
  refine ⟨s', hs', hmap, fun ans hans hok => ?_⟩
  have haccepted : ans.request ∈ s'.ledger.accepted := mem_accepted.mpr ⟨ans, hans, hok, rfl⟩
  have hticket : ans.request.about (hasTicket ans.request.request.ticket) = true := by
    simp [SimulationRequest.about, hasTicket]
  have hacc := exec_accounted hs' ans.request.request.ticket fun a ha _ => hretries a ha
  refine ⟨retriesAccounted_of_accounted hacc (exec_audited hs').balanced
    (Search.countP_pos_of_mem haccepted hticket), ?_⟩
  rintro more t ht ⟨request, overrides, he, hk⟩
  have hfull : exec (step profile) (new n cfg) (ticketed 0 (run ++ more)) = .ok t := by
    rw [ticketed_append, Nat.zero_add]
    exact exec_append.mpr ⟨s', hs', ht⟩
  have hgrows := Ledger.exec_grows ht
  have hacc' : t.ledger.Accounted cfg (hasTicket ans.request.request.ticket) := by
    refine exec_accounted hfull _ fun a ha hP => ?_
    have hak : a.request.ticket = ans.request.request.ticket := by
      simpa [SimulationRequest.about, hasTicket] using hP
    rw [eq_of_ticket hfull (hgrows.accepted.subset haccepted) ha hak]
    exact hretries _ haccepted
  -- the report is still there, so the number of calls is still the one it stands for
  have hleft : SimulationEvent.exceededMaxRetries request overrides ∈ s'.ledger.left :=
    List.mem_filter.mpr ⟨he, rfl⟩
  have habout : (SimulationEvent.exceededMaxRetries request overrides).about
      (hasTicket ans.request.request.ticket) = true := by
    simpa [SimulationEvent.about, SimulationEvent.subject, hasTicket] using hk
  have hnow := (hacc.left _ hleft habout).1
  have hlater := (hacc'.left _ (hgrows.left.subset hleft) habout).1
  exact hlater.trans hnow.symm

theorem overshootRun_fromHandle : ∀ a ∈ overshootRun, a.FromHandle := by
  intro a ha r tx hmsg
  subst hmsg
  simp only [overshootRun, List.mem_cons, Action.message.injEq,
    BundleSimulatorMessage.addSimulation.injEq, reduceCtorEq, false_or, or_false,
    List.not_mem_nil] at ha
  rcases ha with ⟨rfl, -⟩ | ⟨rfl, -⟩
  · exact ⟨_, _, _, rfl⟩
  · exact ⟨_, _, _, rfl⟩

theorem retry_accounting_overshootRun :
    ∃ s, exec (step ⟨true⟩) (new 7 tightConfig) overshootRun = .ok s ∧
      ∃ s' : BundleSimulatorService (Ticketed SendBundleRequest),
        s'.map Ticketed.bundle = s ∧
          ∀ ans ∈ s'.world.answers, ans.result = .ok () →
            s'.RetriesAccounted tightConfig ans.request.request.ticket := by
  obtain ⟨s, hs⟩ := overshootRun_ok
  obtain ⟨s', -, hmap, hall⟩ := retry_accounting hs overshootRun_fromHandle
  exact ⟨s, hs, s', hmap, fun ans hans hok => (hall ans hans hok).1⟩

end BundleSimulatorService
end Backend
end MevShare
