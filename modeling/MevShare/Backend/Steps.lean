import MevShare.Backend.Scheduling
import MevShare.Library.Machine

/-!
# What one step of the service does

The normal forms that the later files use in place of the definitions: the two
queues are addressed by priority, admission and rescheduling push to the queue of
the request, a completed simulation is cut out of the list of simulations, and a
batch is given by its fields.  `Effect` collects them: it is the one case analysis
of a step from which the invariants are derived (`step_effect`).

A run of the service is an `exec` of `step` (`Library.Machine`), started in
`BundleSimulatorService.new`.
-/

namespace MevShare
namespace Backend

open Rpc Rust Draw

variable {B : Type}

/-- The configured limit of the queue of a priority. -/
def BundleSimulatorServiceConfig.maxQueueLen (c : BundleSimulatorServiceConfig) :
    SimulationPriority → ℕ
  | .high => c.maxHighPrioQueueLen
  | .normal => c.maxNormalPrioQueueLen

namespace BundleSimulatorService

/-! ## Queues by priority -/

/-- The queue of a priority. -/
def queue (s : BundleSimulatorService B) : SimulationPriority → List (SimulationRequest B)
  | .high => s.highPriorityQueue
  | .normal => s.normalPriorityQueue

/-- The queue of a priority has capacity. -/
def HasCapacity (s : BundleSimulatorService B) (p : SimulationPriority) : Prop :=
  (s.queue p).length < s.config.maxQueueLen p

instance (s : BundleSimulatorService B) (p : SimulationPriority) : Decidable (s.HasCapacity p) :=
  inferInstanceAs (Decidable (_ < _))

/-- Pushing a request to the queue of its priority. -/
def push (s : BundleSimulatorService B) (r : SimulationRequest B) : BundleSimulatorService B :=
  match r.priority with
  | .high => { s with highPriorityQueue := s.highPriorityQueue ++ [r] }
  | .normal => { s with normalPriorityQueue := s.normalPriorityQueue ++ [r] }

theorem queue_push_self (s : BundleSimulatorService B) (r : SimulationRequest B) :
    (s.push r).queue r.priority = s.queue r.priority ++ [r] := by
  unfold push
  cases hp : r.priority <;> rfl

theorem queue_push_of_ne (s : BundleSimulatorService B) {r : SimulationRequest B}
    {p : SimulationPriority} (h : p ≠ r.priority) : (s.push r).queue p = s.queue p := by
  unfold push
  cases hp : r.priority <;> rw [hp] at h <;> cases p <;> first | rfl | exact absurd rfl h

@[simp] theorem push_simulations (s : BundleSimulatorService B) (r : SimulationRequest B) :
    (s.push r).simulations = s.simulations := by
  unfold push
  cases r.priority <;> rfl

@[simp] theorem push_inner (s : BundleSimulatorService B) (r : SimulationRequest B) :
    (s.push r).inner = s.inner := by
  unfold push
  cases r.priority <;> rfl

@[simp] theorem push_config (s : BundleSimulatorService B) (r : SimulationRequest B) :
    (s.push r).config = s.config := by
  unfold push
  cases r.priority <;> rfl

@[simp] theorem push_world (s : BundleSimulatorService B) (r : SimulationRequest B) :
    (s.push r).world = s.world := by
  unfold push
  cases r.priority <;> rfl

/-! ## Events -/

@[simp] theorem queue_notifyListeners (s : BundleSimulatorService B) (e : SimulationEvent B)
    (p : SimulationPriority) : (s.notifyListeners e).queue p = s.queue p := by
  cases p <;> rfl

@[simp] theorem notifyAll_simulations (s : BundleSimulatorService B)
    (es : List (SimulationEvent B)) : (s.notifyAll es).simulations = s.simulations := by
  induction es generalizing s with
  | nil => rfl
  | cons e es ih => rw [notifyAll_cons, ih, notifyListeners]

@[simp] theorem notifyAll_inner (s : BundleSimulatorService B) (es : List (SimulationEvent B)) :
    (s.notifyAll es).inner = s.inner := by
  induction es generalizing s with
  | nil => rfl
  | cons e es ih => rw [notifyAll_cons, ih, notifyListeners]

@[simp] theorem notifyAll_config (s : BundleSimulatorService B) (es : List (SimulationEvent B)) :
    (s.notifyAll es).config = s.config := by
  induction es generalizing s with
  | nil => rfl
  | cons e es ih => rw [notifyAll_cons, ih, notifyListeners]

/-- Reporting touches the listeners and two of the records of the world. -/
theorem notifyAll_world (s : BundleSimulatorService B) (es : List (SimulationEvent B)) :
    ∃ delivered, (s.notifyAll es).world =
      { s.world with delivered := delivered, emitted := s.world.emitted ++ es } := by
  induction es generalizing s with
  | nil => exact ⟨s.world.delivered, by rw [notifyAll_nil, List.append_nil]⟩
  | cons e es ih =>
    obtain ⟨delivered, h⟩ := ih (s.notifyListeners e)
    refine ⟨delivered, ?_⟩
    rw [notifyAll_cons, h, notifyListeners]
    simp only [List.append_assoc, List.singleton_append]

/-! ## Starting -/

/-- New simulations for a list of requests; the first gets the future number
`n`. -/
def simulationsFrom (n : ℕ) : List (SimulationRequest B) → List (Simulation B)
  | [] => []
  | r :: rs => Simulation.new n r :: simulationsFrom (n + 1) rs

theorem foldl_startSimulation (s : BundleSimulatorService B) (rs : List (SimulationRequest B)) :
    rs.foldl startSimulation s =
      { s with
        simulations := s.simulations ++ simulationsFrom s.world.simulateCalls.length rs
        world := { s.world with
          simulateCalls := s.world.simulateCalls ++
            rs.map fun r => (r.request, r.overrides) } } := by
  induction rs generalizing s with
  | nil =>
    simp only [List.foldl_nil, simulationsFrom, List.map_nil, List.append_nil]
  | cons r rs ih =>
    rw [List.foldl_cons, ih, startSimulation]
    simp only [simulationsFrom, List.map_cons, List.append_assoc, List.singleton_append,
      List.length_append, List.length_singleton]

/-! ## Batches -/

variable (s : BundleSimulatorService B) (nextBlock : U64)
  (started dropped : List (SimulationRequest B)) (q' : Queues (SimulationRequest B))

@[simp] theorem afterBatch_queues :
    (s.afterBatch nextBlock started dropped q').queues = q' := by
  rw [afterBatch, foldl_startSimulation]
  exact queues_notifyAll _ _

theorem afterBatch_highPriorityQueue :
    (s.afterBatch nextBlock started dropped q').highPriorityQueue = q'.first :=
  congrArg Queues.first (afterBatch_queues s nextBlock started dropped q')

theorem afterBatch_normalPriorityQueue :
    (s.afterBatch nextBlock started dropped q').normalPriorityQueue = q'.second :=
  congrArg Queues.second (afterBatch_queues s nextBlock started dropped q')

@[simp] theorem afterBatch_config :
    (s.afterBatch nextBlock started dropped q').config = s.config := by
  rw [afterBatch, foldl_startSimulation]
  exact notifyAll_config _ _

@[simp] theorem afterBatch_inner :
    (s.afterBatch nextBlock started dropped q').inner = s.inner := by
  rw [afterBatch, foldl_startSimulation]
  exact notifyAll_inner _ _

theorem afterBatch_simulations :
    (s.afterBatch nextBlock started dropped q').simulations =
      s.simulations ++ simulationsFrom s.world.simulateCalls.length started := by
  obtain ⟨delivered, hworld⟩ :=
    (s.withQueues q').notifyAll_world (dropped.map (outdatedEvent nextBlock))
  rw [afterBatch, foldl_startSimulation, hworld]
  simp only [notifyAll_simulations]
  rfl

/-- A batch reports what it dropped and calls the simulator for what it
started. -/
theorem afterBatch_world :
    ∃ delivered, (s.afterBatch nextBlock started dropped q').world =
      { s.world with
        delivered := delivered
        emitted := s.world.emitted ++ dropped.map (outdatedEvent nextBlock)
        simulateCalls := s.world.simulateCalls ++
          started.map fun r => (r.request, r.overrides) } := by
  obtain ⟨delivered, hworld⟩ :=
    (s.withQueues q').notifyAll_world (dropped.map (outdatedEvent nextBlock))
  refine ⟨delivered, ?_⟩
  rw [afterBatch, foldl_startSimulation, hworld]
  rfl

end BundleSimulatorService

/-! ## Messages and outcomes -/

namespace BundleSimulatorService

/-- Admission, by priority. -/
theorem onMessage_addSimulation (s : BundleSimulatorService B) (r : SimulationRequest B)
    (tx : ℕ) :
    s.onMessage (.addSimulation r tx) =
      if s.HasCapacity r.priority then (s.push r).answer tx r (.ok ())
      else s.answer tx r (.error .queueFull) := by
  unfold onMessage HasCapacity push hasHighPriorityCapacity hasNormalPriorityCapacity
  cases hp : r.priority with
  | high =>
    simp only [hp, SimulationPriority.isHigh_high, if_true, decide_eq_true_eq]
    rfl
  | normal =>
    simp only [hp, SimulationPriority.isHigh_normal, Bool.false_eq_true, if_false,
      decide_eq_true_eq]
    rfl

/-- The request of a simulation that is to be rescheduled. -/
def rescheduled (r : SimulationRequest B) : SimulationRequest B :=
  { r with retries := r.retries + 1 }

/-- Rescheduling, by priority. -/
theorem onSimulationOutcome_reschedule (s : BundleSimulatorService B) (error : BoxError)
    (r : SimulationRequest B) :
    s.onSimulationOutcome (.reschedule error) r =
      if s.config.maxRetries < r.retries + 1 then
        s.notifyListeners (.exceededMaxRetries r.request r.overrides)
      else s.push (rescheduled r) := by
  unfold onSimulationOutcome push rescheduled
  by_cases h : s.config.maxRetries < r.retries + 1
  · simp only [gt_iff_lt, h, if_true]
  · cases hp : r.priority with
    | high => simp only [gt_iff_lt, h, if_false, SimulationPriority.isHigh_high, if_true]
    | normal =>
      simp only [gt_iff_lt, h, if_false, SimulationPriority.isHigh_normal, Bool.false_eq_true]

/-- The state in which an outcome is processed: the completed simulation has been
cut out. -/
def cutSimulation (s : BundleSimulatorService B) (pre post : List (Simulation B)) (id : ℕ)
    (out : BundleSimulationOutcome) : BundleSimulatorService B :=
  { s with
    simulations := pre ++ post
    world := { s.world with completed := s.world.completed ++ [(id, out)] } }

/-- The request of the simulation `id` in flight. -/
def pending (s : BundleSimulatorService B) (id : ℕ) : Option (SimulationRequest B) :=
  (s.simulations.find? fun sim => sim.sim == id).bind Simulation.inner

/-- **What a completion can do.**  The completed simulation is one of those in
flight, it still has its request, and its outcome is processed without it. -/
theorem complete_cases {s t : BundleSimulatorService B} {id : ℕ} {out : BundleSimulationOutcome}
    (h : s.complete id out = .ok t) :
    ∃ pre post r, s.simulations = pre ++ ⟨id, some r⟩ :: post ∧ s.pending id = some r ∧
      t = (s.cutSimulation pre post id out).onSimulationOutcome out r := by
  unfold complete pollNextSimulation at h
  cases hfind : s.simulations.find? (fun sim => sim.sim == id) with
  | none =>
    rw [hfind] at h
    cases h
  | some sim =>
    obtain ⟨hsim, pre, post, hsims, hpre⟩ := List.find?_eq_some_iff_append.mp hfind
    obtain ⟨sim, inner⟩ := sim
    obtain rfl : sim = id := by simpa using hsim
    have herase : s.simulations.eraseP (fun x => x.sim == sim) = pre ++ post := by
      have hnot : ∀ x ∈ pre, ¬ (x.sim == sim) = true := fun x hx => by simpa using hpre x hx
      rw [hsims, List.eraseP_append_right _ hnot, List.eraseP_cons_of_pos (by simp)]
    cases inner with
    | none =>
      rw [hfind] at h
      cases h
    | some r =>
      rw [hfind] at h
      simp only [Simulation.poll, Except.ok.injEq, herase] at h
      exact ⟨pre, post, r, hsims, by rw [pending, hfind, Option.bind_some], h.symm⟩

end BundleSimulatorService

/-! ## Reports -/

/-- The bundle and the overrides that an event reports on, if its request leaves
the service with it. -/
def SimulationEvent.subject : SimulationEvent B → Option (B × SimBundleOverrides)
  | .simulatedBundle (.ok bundle) => some (bundle.request, bundle.overrides)
  | .simulatedBundle (.error err) => some (err.sim.request, err.sim.overrides)
  | .outdatedRequest request overrides _ => some (request, overrides)
  | .exceededMaxRetries request overrides => some (request, overrides)
  | .blockNumberUpdated _ _ => none

def SimulationEvent.isTerminal (e : SimulationEvent B) : Bool := e.subject.isSome

theorem SimulationEvent.isTerminal_of_subject {e : SimulationEvent B} {x : B × SimBundleOverrides}
    (h : e.subject = some x) : e.isTerminal = true := by
  rw [isTerminal, h]
  rfl

/-- What the simulator is given of a request. -/
def SimulationRequest.job (r : SimulationRequest B) : B × SimBundleOverrides :=
  (r.request, r.overrides)

/-- The event with which a request leaves the service on an outcome, or `none`
where it is queued again. -/
def report (maxRetries : ℕ) (out : BundleSimulationOutcome) (r : SimulationRequest B) :
    Option (SimulationEvent B) :=
  match out with
  | .success resp => some (.simulatedBundle (.ok
      { request := r.request, overrides := r.overrides, response := resp, retries := r.retries }))
  | .fatal error => some (.simulatedBundle (.error { error := error, sim := r }))
  | .reschedule _ =>
      if maxRetries < r.retries + 1 then some (.exceededMaxRetries r.request r.overrides) else none

theorem report_subject {maxRetries : ℕ} {out : BundleSimulationOutcome} {r : SimulationRequest B}
    {e : SimulationEvent B} (h : report maxRetries out r = some e) : e.subject = some r.job := by
  unfold report at h
  cases out with
  | success resp =>
    cases h
    rfl
  | fatal error =>
    cases h
    rfl
  | reschedule error =>
    by_cases hlt : maxRetries < r.retries + 1
    · rw [if_pos hlt] at h
      cases h
      rfl
    · rw [if_neg hlt] at h
      cases h

theorem report_eq_none {maxRetries : ℕ} {out : BundleSimulationOutcome} {r : SimulationRequest B}
    (h : report maxRetries out r = none) :
    (∃ error, out = .reschedule error) ∧ r.retries + 1 ≤ maxRetries := by
  unfold report at h
  cases out with
  | success resp => cases h
  | fatal error => cases h
  | reschedule error =>
    by_cases hlt : maxRetries < r.retries + 1
    · rw [if_pos hlt] at h
      cases h
    · exact ⟨⟨error, rfl⟩, Nat.not_lt.mp hlt⟩

/-- An outcome is reported, or its request is pushed again. -/
theorem BundleSimulatorService.onSimulationOutcome_eq (s : BundleSimulatorService B)
    (out : BundleSimulationOutcome) (r : SimulationRequest B) :
    s.onSimulationOutcome out r =
      match report s.config.maxRetries out r with
      | some e => s.notifyListeners e
      | none => s.push (rescheduled r) := by
  cases out with
  | success resp => rfl
  | fatal error => rfl
  | reschedule error =>
    rw [onSimulationOutcome_reschedule, report]
    by_cases hlt : s.config.maxRetries < r.retries + 1
    · rw [if_pos hlt, if_pos hlt]
    · rw [if_neg hlt, if_neg hlt]

/-! ## Steps -/

namespace BundleSimulatorService

/-- **The effects of a step.**  Everything that a step of the service can do, in
normal form; what the later files say about steps is a case analysis on this. -/
inductive Effect [Bundle B] (profile : BuildProfile) (s : BundleSimulatorService B) :
    Action B → BundleSimulatorService B → Prop
  | clearQueue : Effect profile s (.message .clearQueue) (s.onMessage .clearQueue)
  | addEventListener (tx : ℕ) :
      Effect profile s (.message (.addEventListener tx)) { s with listeners := s.listeners ++ [tx] }
  | sameBlockNumber : Effect profile s (.message (.updateBlockNumber s.currentBlockNumber)) s
  | newBlockNumber {num : U64} (hnum : num ≠ s.currentBlockNumber) :
      Effect profile s (.message (.updateBlockNumber num))
        ({ s with inner := { s.inner with currentBlockNumber := num } }.notifyListeners
          (.blockNumberUpdated s.currentBlockNumber s.currentBlockNumber))
  | accept {r : SimulationRequest B} (tx : ℕ) (hcap : s.HasCapacity r.priority) :
      Effect profile s (.message (.addSimulation r tx)) ((s.push r).answer tx r (.ok ()))
  | refuse {r : SimulationRequest B} (tx : ℕ) (hcap : ¬ s.HasCapacity r.priority) :
      Effect profile s (.message (.addSimulation r tx)) (s.answer tx r (.error .queueFull))
  | report {id : ℕ} {out : BundleSimulationOutcome} {pre post : List (Simulation B)}
      {r : SimulationRequest B} {e : SimulationEvent B}
      (hsims : s.simulations = pre ++ ⟨id, some r⟩ :: post) (hpending : s.pending id = some r)
      (hrep : Backend.report s.config.maxRetries out r = some e) :
      Effect profile s (.complete id out) ((s.cutSimulation pre post id out).notifyListeners e)
  | requeue {id : ℕ} (error : BoxError) {pre post : List (Simulation B)} {r : SimulationRequest B}
      (hsims : s.simulations = pre ++ ⟨id, some r⟩ :: post) (hpending : s.pending id = some r)
      (hretries : r.retries + 1 ≤ s.config.maxRetries) :
      Effect profile s (.complete id (.reschedule error))
        ((s.cutSimulation pre post id (.reschedule error)).push (rescheduled r))
  | full (now : Instant) (hcap : s.capacity = 0) : Effect profile s (.schedule now) s
  | batch {now : Instant} {nextBlock : U64} {started dropped : List (SimulationRequest B)}
      {q' : Queues (SimulationRequest B)} (hcap : s.capacity ≠ 0)
      (hadd : profile.addU64 s.currentBlockNumber 1 = .ok nextBlock)
      (hb : Batch (SimulationRequest.verdict nextBlock now) s.capacity s.queues started dropped q') :
      Effect profile s (.schedule now) (s.afterBatch nextBlock started dropped q')
  | dropListener (tx : ℕ) : Effect profile s (.dropListener tx) (s.dropListener tx)

theorem step_effect [Bundle B] {profile : BuildProfile} {s t : BundleSimulatorService B}
    {a : Action B} (h : step profile s a = .ok t) : Effect profile s a t := by
  rcases a with (_ | num | ⟨r, tx⟩ | tx) | ⟨id, out⟩ | now | tx
  · cases h
    exact Effect.clearQueue
  · cases h
    by_cases hnum : num = s.currentBlockNumber
    · subst hnum
      rw [onMessage, if_neg (not_not.mpr rfl)]
      exact Effect.sameBlockNumber
    · rw [onMessage, if_pos hnum]
      exact Effect.newBlockNumber hnum
  · cases h
    rw [onMessage_addSimulation]
    by_cases hcap : s.HasCapacity r.priority
    · rw [if_pos hcap]
      exact Effect.accept tx hcap
    · rw [if_neg hcap]
      exact Effect.refuse tx hcap
  · cases h
    exact Effect.addEventListener tx
  · obtain ⟨pre, post, r, hsims, hpending, rfl⟩ := complete_cases h
    have hconfig : (s.cutSimulation pre post id out).config = s.config := rfl
    rw [onSimulationOutcome_eq, hconfig]
    rcases hrep : Backend.report s.config.maxRetries out r with _ | e
    · obtain ⟨⟨error, rfl⟩, hretries⟩ := report_eq_none hrep
      exact Effect.requeue error hsims hpending hretries
    · exact Effect.report hsims hpending hrep
  · rcases schedule_cases h with ⟨hcap, rfl⟩ |
      ⟨nextBlock, started, dropped, q', hcap, hadd, hb, -, rfl⟩
    · exact Effect.full now hcap
    · exact Effect.batch hcap hadd hb
  · cases h
    exact Effect.dropListener tx

/-- The configuration is never written. -/
theorem step_config [Bundle B] {profile : BuildProfile} {s t : BundleSimulatorService B}
    {a : Action B} (h : step profile s a = .ok t) : t.config = s.config := by
  cases step_effect h with
  | accept tx hcap => exact push_config s _
  | requeue error hsims hpending hretries => exact push_config _ _
  | batch hcap hadd hb => exact afterBatch_config _ _ _ _ _
  | _ => rfl

end BundleSimulatorService
end Backend
end MevShare
