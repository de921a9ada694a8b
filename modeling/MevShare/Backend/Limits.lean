import MevShare.Backend.Ledger

/-!
# How much work the service holds

Two bounds are configured, on the queues and on the simulations in flight.

The bound on the simulations holds always.  The bound on the queues does not: a
rescheduled request is pushed without a look at the capacity, and the slot that
its start had freed may have been taken meanwhile.  What holds always is a bound
on the sum: a request that is pushed again was in flight before, so a queue
together with the requests of its priority in flight never exceeds the limit by
more than the number of concurrent simulations (`Ledger.Bounded`).

The queue limits themselves hold in all states of a run exactly if every
reschedule of the run finds capacity (`withinLimits_along_iff`).
-/

namespace MevShare
namespace Backend

open Rpc Rust Draw Machine Relation

variable {B : Type} {cfg : BundleSimulatorServiceConfig}

/-! ## The bound on the sum -/

namespace Ledger

/-- The number of requests of a priority in flight. -/
def inFlightOf (l : Ledger B) (p : SimulationPriority) : ℕ :=
  l.inFlight.countP fun f => decide (f.1.priority = p)

theorem inFlightOf_le (l : Ledger B) (p : SimulationPriority) :
    l.inFlightOf p ≤ l.inFlight.length := List.countP_le_length

/-- The numbers in flight when a simulation completes. -/
theorem inFlightOf_cut {l : Ledger B} {pre post : List (SimulationRequest B × ℕ)}
    {r : SimulationRequest B} {id : ℕ} (hf : l.inFlight = pre ++ (r, id) :: post)
    (p : SimulationPriority) :
    (pre ++ post).countP (fun f => decide (f.1.priority = p)) +
      (if r.priority = p then 1 else 0) = l.inFlightOf p := by
  unfold inFlightOf
  rw [hf, List.countP_append, List.countP_append, List.countP_cons, Nat.add_assoc]
  simp only [decide_eq_true_eq]

/-- Queued requests are where they belong, and there is not too much work. -/
structure Bounded (cfg : BundleSimulatorServiceConfig) (l : Ledger B) : Prop where
  home : ∀ p, ∀ r ∈ l.queue p, r.priority = p
  concurrency : l.inFlight.length ≤ cfg.maxConcurrentSimulations
  room : ∀ p, (l.queue p).length + l.inFlightOf p ≤
    cfg.maxQueueLen p + cfg.maxConcurrentSimulations

theorem Bounded.empty : (Ledger.empty : Ledger B).Bounded cfg where
  home := by
    intro p r hr
    cases hr
  concurrency := Nat.zero_le _
  room := fun p => Nat.zero_le _

/-- Every move keeps the bounds. -/
theorem Bounded.move {l l' : Ledger B} (h : l.Bounded cfg) (hm : Move cfg l l') :
    l'.Bounded cfg := by
  have hflight := h.concurrency
  cases hm with
  | @accept r hroom =>
    refine ⟨forall_setQueue h.home (Search.forall_mem_concat (h.home _) rfl), hflight,
      fun p => ?_⟩
    · show ((l.setQueue r.priority _).queue p).length + l.inFlightOf p ≤ _
      rw [length_queue_push]
      by_cases hp : r.priority = p
      · have hle := l.inFlightOf_le p
        rw [hp] at hroom
        rw [if_pos hp]
        omega
      · rw [if_neg hp, Nat.add_zero]
        exact h.room p
  | clear =>
    refine ⟨fun p r hr => ?_, hflight, fun p => ?_⟩
    · cases hr
    · show 0 + l.inFlightOf p ≤ _
      have hle := l.inFlightOf_le p
      omega
  | @expire p pre post r nextBlock hq =>
    refine ⟨forall_setQueue h.home ?_, hflight, fun p' => ?_⟩
    · exact fun x hx => h.home p x (Search.mem_of_mem_cut hq hx)
    · have hlen := length_queue_cut hq p'
      exact Nat.le_trans (Nat.add_le_add_right (Nat.le.intro hlen) _) (h.room p')
  | @start p pre post r hq hcap =>
    have hrp : r.priority = p := h.home p r (by simp [hq])
    refine ⟨forall_setQueue h.home ?_, ?_, fun p' => ?_⟩
    · exact fun x hx => h.home p x (Search.mem_of_mem_cut hq hx)
    · show (l.inFlight ++ [(r, l.calls.length)]).length ≤ _
      rw [List.length_append, List.length_singleton]
      exact hcap
    · -- the request leaves the queue of its priority and is counted in flight instead
      show ((l.setQueue p _).queue p').length +
        (l.inFlight ++ [(r, l.calls.length)]).countP (fun f => decide (f.1.priority = p')) ≤ _
      have hroom := h.room p'
      have hlen := length_queue_cut hq p'
      unfold inFlightOf at hroom
      rw [List.countP_append, List.countP_singleton]
      simp only [decide_eq_true_eq, hrp]
      omega
  | @finish pre post r id out e hf he =>
    refine ⟨h.home, ?_, fun p => ?_⟩
    · show (pre ++ post).length ≤ _
      rw [hf, List.length_append, List.length_cons] at hflight
      rw [List.length_append]
      omega
    · show (l.queue p).length + (pre ++ post).countP (fun f => decide (f.1.priority = p)) ≤ _
      have hcount := inFlightOf_cut hf p
      exact Nat.le_trans (Nat.add_le_add_left (Nat.le.intro hcount) _) (h.room p)
  | @requeue pre post r id error hf hr =>
    refine ⟨forall_setQueue h.home (Search.forall_mem_concat (h.home _) rfl), ?_, fun p => ?_⟩
    · show (pre ++ post).length ≤ _
      rw [hf, List.length_append, List.length_cons] at hflight
      rw [List.length_append]
      omega
    · -- the reverse of a start: no capacity is asked for, and none is needed
      show ((l.setQueue r.priority _).queue p).length +
        (pre ++ post).countP (fun f => decide (f.1.priority = p)) ≤ _
      have hroom := h.room p
      have hcount := inFlightOf_cut hf p
      rw [length_queue_push]
      omega

end Ledger

namespace BundleSimulatorService

/-! ## Simulations have requests -/

/-- Every simulation in flight still has its request: it is taken out of the
simulation only when the simulation completes and is dropped. -/
def Paired (s : BundleSimulatorService B) : Prop :=
  ∀ sim ∈ s.simulations, sim.inner.isSome = true

theorem paired_simulationsFrom (n : ℕ) (rs : List (SimulationRequest B)) :
    ∀ sim ∈ simulationsFrom n rs, sim.inner.isSome = true := by
  induction rs generalizing n with
  | nil =>
    intro sim hsim
    cases hsim
  | cons r rs ih =>
    intro sim hsim
    rcases List.mem_cons.mp hsim with rfl | hsim
    · rfl
    · exact ih (n + 1) sim hsim

theorem step_paired [Bundle B] {profile : BuildProfile} {s t : BundleSimulatorService B}
    {a : Action B} (hs : s.Paired) (h : step profile s a = .ok t) : t.Paired := by
  cases step_effect h with
  | accept tx hcap =>
    unfold Paired answer
    rw [push_simulations]
    exact hs
  | report hsims hpending hrep =>
    exact fun sim hsim => hs sim (Search.mem_of_mem_cut hsims hsim)
  | requeue error hsims hpending hretries =>
    unfold Paired
    rw [push_simulations]
    exact fun sim hsim => hs sim (Search.mem_of_mem_cut hsims hsim)
  | batch hcap hadd hb =>
    unfold Paired
    rw [afterBatch_simulations]
    intro sim hsim
    rcases List.mem_append.mp hsim with hsim | hsim
    · exact hs sim hsim
    · exact paired_simulationsFrom _ _ sim hsim
  | _ => exact hs

theorem exec_paired [Bundle B] {profile : BuildProfile} {n : U64} {run : List (Action B)}
    {s : BundleSimulatorService B} (h : exec (step profile) (new n cfg) run = .ok s) :
    s.Paired := by
  refine exec_invariant (fun s a t hs hstep => step_paired hs hstep) ?_ h
  intro sim hsim
  cases hsim

/-- The number of simulations in flight that were started for a request of a
priority. -/
def inFlightOf (s : BundleSimulatorService B) (p : SimulationPriority) : ℕ :=
  s.simulations.countP fun sim => decide (sim.inner.map SimulationRequest.priority = some p)

theorem inFlightOf_ledger (s : BundleSimulatorService B) (p : SimulationPriority) :
    s.ledger.inFlightOf p = s.inFlightOf p := by
  show (s.simulations.filterMap Simulation.entry).countP _ = _
  rw [List.countP_filterMap]
  refine List.countP_congr fun sim _ => ?_
  obtain ⟨id, inner⟩ := sim
  cases inner <;> simp [Simulation.entry]

theorem Paired.length_inFlight {s : BundleSimulatorService B} (h : s.Paired) :
    s.ledger.inFlight.length = s.simulations.length := by
  refine List.filterMap_length_eq_length.mpr fun sim hsim => ?_
  have hsome := h sim hsim
  obtain ⟨id, inner⟩ := sim
  cases inner with
  | none => cases hsome
  | some r => rfl

/-- **Bounded total work.**  In every reachable state the simulations in flight
stay within their limit, and for each priority the queued requests and those in
flight together exceed the limit of the queue by no more than that. -/
theorem bounded_work [Bundle B] {profile : BuildProfile} {n : U64} {run : List (Action B)}
    {s : BundleSimulatorService B} (h : exec (step profile) (new n cfg) run = .ok s) :
    s.simulations.length ≤ cfg.maxConcurrentSimulations ∧
      ∀ p, (s.queue p).length + s.inFlightOf p ≤
        cfg.maxQueueLen p + cfg.maxConcurrentSimulations := by
  have hbounded : s.ledger.Bounded cfg :=
    exec_ledger_invariant Ledger.Bounded.empty (fun l l' hl hm => hl.move hm) h
  refine ⟨?_, fun p => ?_⟩
  · rw [← (exec_paired h).length_inFlight]
    exact hbounded.concurrency
  · rw [← inFlightOf_ledger]
    exact hbounded.room p

/-- One entry in each queue, one simulation at a time. -/
def tightConfig : BundleSimulatorServiceConfig where
  maxRetries := 3
  maxNormalPrioQueueLen := 1
  maxHighPrioQueueLen := 1
  maxConcurrentSimulations := 1

/-- A request of normal priority, as the handle builds it. -/
def normalRequest (block : U64) (maxBlock : Option U64) : SimulationRequest SendBundleRequest where
  retries := 0
  request := SendBundleRequest.new block maxBlock .v01 []
  overrides := SimBundleOverrides.default
  priority := .normal
  backedOffUntil := none

/-- The first request is started; its slot in the queue is given to the second;
the first comes back. -/
def overshootRun : List (Action SendBundleRequest) :=
  [.message (.addSimulation (normalRequest 5 none) 0),
    .schedule 0,
    .message (.addSimulation (normalRequest 9 none) 1),
    .complete 0 (.reschedule ⟨"timeout"⟩)]

theorem overshootRun_ok : ∃ s, exec (step ⟨true⟩) (new 7 tightConfig) overshootRun = .ok s :=
  ⟨_, rfl⟩

theorem bounded_work_overshootRun :
    ∃ s, exec (step ⟨true⟩) (new 7 tightConfig) overshootRun = .ok s ∧
      s.simulations.length ≤ tightConfig.maxConcurrentSimulations ∧
      ∀ p, (s.queue p).length + s.inFlightOf p ≤
        tightConfig.maxQueueLen p + tightConfig.maxConcurrentSimulations := by
  obtain ⟨s, hs⟩ := overshootRun_ok
  exact ⟨s, hs, bounded_work hs⟩

/-! ## The queue limits -/

/-- Both queues are within their configured limits. -/
def WithinLimits (s : BundleSimulatorService B) : Prop :=
  s.highPriorityQueue.length ≤ s.config.maxHighPrioQueueLen ∧
    s.normalPriorityQueue.length ≤ s.config.maxNormalPrioQueueLen

instance (s : BundleSimulatorService B) : Decidable s.WithinLimits :=
  inferInstanceAs (Decidable (_ ∧ _))

theorem withinLimits_iff_forall (s : BundleSimulatorService B) :
    s.WithinLimits ↔ ∀ p, (s.queue p).length ≤ s.config.maxQueueLen p := by
  constructor
  · rintro ⟨hhigh, hnormal⟩ p
    cases p
    · exact hnormal
    · exact hhigh
  · intro h
    exact ⟨h .high, h .normal⟩

/-- Where the step is the reschedule of a request that has a retry left, the queue
of its priority has capacity. -/
def ReschedulesIntoCapacity (s : BundleSimulatorService B) (a : Action B) : Prop :=
  ∀ id error r, a = .complete id (.reschedule error) → s.pending id = some r →
    r.retries + 1 ≤ s.config.maxRetries → s.HasCapacity r.priority

/-- Pushing keeps the limits exactly where there is capacity. -/
theorem withinLimits_push {s : BundleSimulatorService B} (hs : s.WithinLimits)
    (r : SimulationRequest B) : (s.push r).WithinLimits ↔ s.HasCapacity r.priority := by
  rw [withinLimits_iff_forall] at hs
  rw [withinLimits_iff_forall, push_config]
  constructor
  · intro h
    have hlen := h r.priority
    rw [queue_push_self, List.length_append, List.length_singleton] at hlen
    exact hlen
  · intro hcap p
    by_cases hp : p = r.priority
    · subst hp
      rw [queue_push_self, List.length_append, List.length_singleton]
      exact hcap
    · rw [queue_push_of_ne s hp]
      exact hs p

/-- **Exactness of one step.**  A step out of a state within the limits stays
within them exactly if it does not push a rescheduled request to a full queue. -/
theorem withinLimits_step [Bundle B] {profile : BuildProfile} {s t : BundleSimulatorService B}
    {a : Action B} (hs : s.WithinLimits) (h : step profile s a = .ok t) :
    t.WithinLimits ↔ s.ReschedulesIntoCapacity a := by
  have hother : (∀ id error, a ≠ .complete id (.reschedule error)) → t.WithinLimits →
      (t.WithinLimits ↔ s.ReschedulesIntoCapacity a) := fun hne ht =>
    ⟨fun _ id error r ha => absurd ha (hne id error), fun _ => ht⟩
  cases step_effect h with
  | clearQueue => exact hother (by simp) ⟨Nat.zero_le _, Nat.zero_le _⟩
  | addEventListener tx => exact hother (by simp) hs
  | sameBlockNumber => exact hother (by simp) hs
  | newBlockNumber hnum => exact hother (by simp) hs
  | accept tx hcap => exact hother (by simp) ((withinLimits_push hs _).mpr hcap)
  | refuse tx hcap => exact hother (by simp) hs
  | @report id out pre post r e hsims hpending hrep =>
    -- a request with a retry left is not reported on a reschedule
    refine ⟨fun _ id' error r' ha hp hr => ?_, fun _ => hs⟩
    cases ha
    rw [hpending, Option.some.injEq] at hp
    subst hp
    rw [report, if_neg (Nat.not_lt.mpr hr)] at hrep
    cases hrep
  | @requeue id error pre post r hsims hpending hretries =>
    have hcut : (s.cutSimulation pre post id (.reschedule error)).WithinLimits := hs
    rw [withinLimits_push hcut]
    constructor
    · intro hcap id' error' r' ha hp _
      cases ha
      rw [hpending, Option.some.injEq] at hp
      subst hp
      exact hcap
    · intro h
      exact h id error r rfl hpending hretries
  | full now hcap => exact hother (by simp) hs
  | batch hcap hadd hb =>
    refine hother (by simp) ?_
    unfold WithinLimits
    rw [afterBatch_highPriorityQueue, afterBatch_normalPriorityQueue, afterBatch_config]
    exact ⟨Nat.le_trans hb.first_sublist.length_le hs.1,
      Nat.le_trans hb.second_sublist.length_le hs.2⟩
  | dropListener tx => exact hother (by simp) hs

/-- **The queue limits, exactly.**  The configured limits hold in every state of a
run if and only if every reschedule of the run finds capacity in the queue of its
request. -/
theorem withinLimits_along_iff [Bundle B] {profile : BuildProfile} {n : U64}
    {run : List (Action B)} {s : BundleSimulatorService B}
    (h : exec (step profile) (new n cfg) run = .ok s) :
    Along (step profile) (new n cfg) run WithinLimits ↔
      StepsMeet (step profile) (new n cfg) run ReschedulesIntoCapacity :=
  along_iff_stepsMeet (fun _ _ _ hs hstep => withinLimits_step hs hstep)
    ⟨Nat.zero_le _, Nat.zero_le _⟩ h

theorem withinLimits_along_iff_overshootRun :
    ∃ s, exec (step ⟨true⟩) (new 7 tightConfig) overshootRun = .ok s ∧
      (Along (step ⟨true⟩) (new 7 tightConfig) overshootRun WithinLimits ↔
        StepsMeet (step ⟨true⟩) (new 7 tightConfig) overshootRun ReschedulesIntoCapacity) := by
  obtain ⟨s, hs⟩ := overshootRun_ok
  exact ⟨s, hs, withinLimits_along_iff hs⟩

/-- The run above leaves two requests in a queue of one. -/
theorem overshootRun_not_withinLimits :
    ∃ s, exec (step ⟨true⟩) (new 7 tightConfig) overshootRun = .ok s ∧ ¬ s.WithinLimits :=
  ⟨_, rfl, by decide⟩

end BundleSimulatorService
end Backend
end MevShare
