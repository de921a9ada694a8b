import MevShare.Backend.Limits

/-!
# The handle

`BundleSimulatorHandle` of `mev-share-backend/src/service.rs`: a sending end of
the message channel, and the shared internals.

Two of its promises are not kept.

* There are two ways to submit a request, both documented to return an error when
  the service failed to queue it.  `add_bundle_simulation_with_prio` awaits the
  answer of the service.  `send_bundle_simulation_with_prio` throws the receiver
  of the answer away and reports only whether the message could be sent.  So the
  two agree exactly where the queue has capacity (`submissionPathsAgree_iff`).
* `queued_jobs` is documented to return the number of queued jobs.  No function
  writes the counter, and it is right only as long as nothing is queued
  (`tracksQueues_along_iff`).

## The channels

The channel to the service keeps its messages in order and is closed when the
service is dropped.  A oneshot channel is known by its number; what its receiver
gets is the answer the service has sent on it, or nothing, where the sending end
was dropped without one.
-/

namespace MevShare
namespace Backend

open Rpc Rust Machine

variable {B : Type}

/-- The unbounded channel from the handles to the service. -/
structure ServiceChannel (B : Type) where
  /-- The receiving end, in the service, has not been dropped. -/
  isOpen : Bool
  /-- The messages that have been sent and not yet received, oldest first. -/
  messages : List (BundleSimulatorMessage B)

/-- `UnboundedSender::send`; on failure the caller gets its message back. -/
def ServiceChannel.send (c : ServiceChannel B) (msg : BundleSimulatorMessage B) :
    Except (BundleSimulatorMessage B) (ServiceChannel B) :=
  if c.isOpen then .ok { c with messages := c.messages ++ [msg] } else .error msg

/-- `BundleSimulatorHandle`. -/
structure BundleSimulatorHandle (B : Type) where
  toService : ServiceChannel B
  /-- Shared with the service and with all other handles. -/
  inner : BundleSimulatorInner

/-- `BundleSimulatorService::handle`, for a service that reads from `c`. -/
def BundleSimulatorService.handle (s : BundleSimulatorService B) (c : ServiceChannel B) :
    BundleSimulatorHandle B :=
  ⟨c, s.inner⟩

/-- The request that both submission paths build. -/
def SimulationRequest.submitted (request : B) (overrides : SimBundleOverrides)
    (priority : SimulationPriority) : SimulationRequest B where
  retries := 0
  request := request
  overrides := overrides
  priority := priority
  backedOffUntil := none

namespace BundleSimulatorHandle

/-- Returns the number of queued jobs. -/
def queuedJobs (h : BundleSimulatorHandle B) : U64 := h.inner.queuedJobs

/-! ## Submission -/

/-- The send that both submission paths begin with; `?` turns a closed channel
into `ServiceUnavailable`. -/
def submit (h : BundleSimulatorHandle B) (tx : ℕ) (request : B) (overrides : SimBundleOverrides)
    (priority : SimulationPriority) : Except AddSimulationErr (BundleSimulatorHandle B) :=
  match h.toService.send
      (.addSimulation (SimulationRequest.submitted request overrides priority) tx) with
  | .ok c => .ok { h with toService := c }
  | .error _ => .error .serviceUnavailable

/-- `send_bundle_simulation_with_prio`: the receiver of `tx` is dropped at once. -/
def sendBundleSimulationWithPrio (h : BundleSimulatorHandle B) (tx : ℕ) (request : B)
    (overrides : SimBundleOverrides) (priority : SimulationPriority) :
    Except AddSimulationErr Unit × BundleSimulatorHandle B :=
  match h.submit tx request overrides priority with
  | .ok h => (.ok (), h)
  | .error e => (.error e, h)

def sendBundleSimulationHighPrio (h : BundleSimulatorHandle B) (tx : ℕ) (request : B)
    (overrides : SimBundleOverrides) : Except AddSimulationErr Unit × BundleSimulatorHandle B :=
  h.sendBundleSimulationWithPrio tx request overrides .high

def sendBundleSimulation (h : BundleSimulatorHandle B) (tx : ℕ) (request : B)
    (overrides : SimBundleOverrides) : Except AddSimulationErr Unit × BundleSimulatorHandle B :=
  h.sendBundleSimulationWithPrio tx request overrides .normal

/-- `add_bundle_simulation_with_prio`.  `rx` is what the receiver of the oneshot
channel yields once the message has been sent: the answer of the service, or
`none` where the sending end was dropped. -/
def addBundleSimulationWithPrio (h : BundleSimulatorHandle B) (tx : ℕ) (request : B)
    (overrides : SimBundleOverrides) (priority : SimulationPriority)
    (rx : BundleSimulatorHandle B → Option (Except AddSimulationErr Unit)) :
    Except AddSimulationErr Unit × BundleSimulatorHandle B :=
  match h.submit tx request overrides priority with
  | .error e => (.error e, h)
  | .ok h =>
      match rx h with
      | some result => (result, h)
      | none => (.error .serviceUnavailable, h)

def addBundleSimulationHighPrio (h : BundleSimulatorHandle B) (tx : ℕ) (request : B)
    (overrides : SimBundleOverrides)
    (rx : BundleSimulatorHandle B → Option (Except AddSimulationErr Unit)) :
    Except AddSimulationErr Unit × BundleSimulatorHandle B :=
  h.addBundleSimulationWithPrio tx request overrides .high rx

def addBundleSimulation (h : BundleSimulatorHandle B) (tx : ℕ) (request : B)
    (overrides : SimBundleOverrides)
    (rx : BundleSimulatorHandle B → Option (Except AddSimulationErr Unit)) :
    Except AddSimulationErr Unit × BundleSimulatorHandle B :=
  h.addBundleSimulationWithPrio tx request overrides .normal rx

end BundleSimulatorHandle

namespace BundleSimulatorService

/-- The service in the state `s` processes the message that was sent last through
`h`. -/
def receiveLast (s : BundleSimulatorService B) (h : BundleSimulatorHandle B) :
    BundleSimulatorService B :=
  match h.toService.messages.getLast? with
  | some msg => s.onMessage msg
  | none => s

/-- What has been sent on the oneshot channel `tx`. -/
def answered (s : BundleSimulatorService B) (tx : ℕ) : Option (Except AddSimulationErr Unit) :=
  ((s.world.answers.filter fun a => a.tx == tx).getLast?).map Answer.result

/-- What an error of a submission must not touch. -/
structure Untouched (s t : BundleSimulatorService B) : Prop where
  highPriorityQueue : t.highPriorityQueue = s.highPriorityQueue
  normalPriorityQueue : t.normalPriorityQueue = s.normalPriorityQueue
  simulations : t.simulations = s.simulations
  currentBlockNumber : t.currentBlockNumber = s.currentBlockNumber
  listeners : t.listeners = s.listeners

/-- **The promise of the two submission paths.**  The service processes the
message of either call in the state `s`.  Then `send` returns `Ok` exactly if
`add` does, which is exactly if the request was appended to the queue of its
priority; and where one of them returns an error, nothing was touched. -/
def SubmissionPathsAgree (s : BundleSimulatorService B) (h : BundleSimulatorHandle B) (tx : ℕ)
    (request : B) (overrides : SimBundleOverrides) (priority : SimulationPriority) : Prop :=
  let sent := h.sendBundleSimulationWithPrio tx request overrides priority
  let added := h.addBundleSimulationWithPrio tx request overrides priority
    fun h => (s.receiveLast h).answered tx
  (sent.1 = .ok () ↔ added.1 = .ok ()) ∧
    (added.1 = .ok () ↔ (s.receiveLast added.2).queue priority =
      s.queue priority ++ [SimulationRequest.submitted request overrides priority]) ∧
    (sent.1 ≠ .ok () → s.Untouched (s.receiveLast sent.2)) ∧
    (added.1 ≠ .ok () → s.Untouched (s.receiveLast added.2))

/-! ## The two paths -/

section Submission

variable (s : BundleSimulatorService B) {h : BundleSimulatorHandle B} (tx : ℕ) (request : B)
  (overrides : SimBundleOverrides) (priority : SimulationPriority)

/-- Through an open channel a submission succeeds, and the message of the request
is the last one in it. -/
theorem submit_of_isOpen (hopen : h.toService.isOpen = true) :
    ∃ h', h.submit tx request overrides priority = .ok h' ∧
      h'.toService.messages.getLast? =
        some (.addSimulation (SimulationRequest.submitted request overrides priority) tx) := by
  refine ⟨{ h with toService := { h.toService with
    messages := h.toService.messages ++
      [.addSimulation (SimulationRequest.submitted request overrides priority) tx] } }, ?_, ?_⟩
  · rw [BundleSimulatorHandle.submit, ServiceChannel.send, if_pos hopen]
  · exact List.getLast?_concat

/-- The service answers every request. -/
theorem answered_answer (r : SimulationRequest B) (result : Except AddSimulationErr Unit) :
    (s.answer tx r result).answered tx = some result := by
  unfold answered answer
  rw [List.filter_append, List.filter_cons_of_pos (by simp), List.filter_nil,
    List.getLast?_concat]
  rfl

/-- Processing the message of a submission. -/
theorem receiveLast_submit {h' : BundleSimulatorHandle B}
    (hlast : h'.toService.messages.getLast? =
      some (.addSimulation (SimulationRequest.submitted request overrides priority) tx)) :
    s.receiveLast h' =
      if s.HasCapacity priority then
        (s.push (SimulationRequest.submitted request overrides priority)).answer tx
          (SimulationRequest.submitted request overrides priority) (.ok ())
      else
        s.answer tx (SimulationRequest.submitted request overrides priority)
          (.error .queueFull) := by
  rw [receiveLast, hlast]
  exact onMessage_addSimulation s _ tx

/-- The answer on the oneshot channel says whether there was capacity. -/
theorem add_eq (hopen : h.toService.isOpen = true) :
    (h.addBundleSimulationWithPrio tx request overrides priority
      fun h => (s.receiveLast h).answered tx).1 =
        if s.HasCapacity priority then .ok () else .error .queueFull := by
  obtain ⟨h', hsubmit, hlast⟩ := submit_of_isOpen tx request overrides priority hopen
  rw [BundleSimulatorHandle.addBundleSimulationWithPrio, hsubmit]
  by_cases hcap : s.HasCapacity priority
  · simp only [receiveLast_submit s tx request overrides priority hlast, if_pos hcap,
      answered_answer]
  · simp only [receiveLast_submit s tx request overrides priority hlast, if_neg hcap,
      answered_answer]

/-- **Where the paths agree.**  As long as the service is alive, the promise of
the two submission paths is kept exactly if the queue of the priority has
capacity when the message is processed. -/
theorem submissionPathsAgree_iff (hopen : h.toService.isOpen = true) :
    s.SubmissionPathsAgree h tx request overrides priority ↔ s.HasCapacity priority := by
  obtain ⟨h', hsubmit, hlast⟩ := submit_of_isOpen tx request overrides priority hopen
  have hreceive := receiveLast_submit s tx request overrides priority hlast
  have hadd := add_eq s tx request overrides priority hopen
  have hsent : h.sendBundleSimulationWithPrio tx request overrides priority = (.ok (), h') := by
    rw [BundleSimulatorHandle.sendBundleSimulationWithPrio, hsubmit]
  have hafter : (h.addBundleSimulationWithPrio tx request overrides priority
      fun h => (s.receiveLast h).answered tx).2 = h' := by
    rw [BundleSimulatorHandle.addBundleSimulationWithPrio, hsubmit]
    cases h_rx : (s.receiveLast h').answered tx <;> simp only [h_rx]
  constructor
  · -- `send` returns `Ok` in any case, so `add` has to
    rintro ⟨hiff, -⟩
    rw [hsent, hadd] at hiff
    by_contra hcap
    have hok := hiff.mp rfl
    rw [if_neg hcap] at hok
    cases hok
  · intro hcap
    rw [if_pos hcap] at hadd hreceive
    refine ⟨?_, ?_, fun hne => ?_, fun hne => ?_⟩
    · rw [hsent, hadd]
    · refine ⟨fun _ => ?_, fun _ => hadd⟩
      have hqueue := queue_push_self s (SimulationRequest.submitted request overrides priority)
      rw [hafter, hreceive]
      cases priority <;> exact hqueue
    · rw [hsent] at hne
      exact absurd rfl hne
    · exact absurd hadd hne

/-- A request that is not accepted leaves the service as it was. -/
theorem untouched_of_not_hasCapacity {h' : BundleSimulatorHandle B}
    (hlast : h'.toService.messages.getLast? =
      some (.addSimulation (SimulationRequest.submitted request overrides priority) tx))
    (hcap : ¬ s.HasCapacity priority) : s.Untouched (s.receiveLast h') := by
  rw [receiveLast_submit s tx request overrides priority hlast, if_neg hcap]
  exact ⟨rfl, rfl, rfl, rfl, rfl⟩

end Submission

theorem submissionPathsAgree_iff_new :
    (new 7 tightConfig).SubmissionPathsAgree ((new 7 tightConfig).handle ⟨true, []⟩) 0
        (SendBundleRequest.new 5 none .v01 []) SimBundleOverrides.default .normal ↔
      (new 7 tightConfig : BundleSimulatorService SendBundleRequest).HasCapacity .normal :=
  submissionPathsAgree_iff _ 0 _ _ .normal rfl

/-- The queue of one entry is full. -/
def fillRun : List (Action SendBundleRequest) :=
  [.message (.addSimulation (normalRequest 5 none) 0)]

/-- A second request is refused, and its sender is told that it was queued. -/
theorem fillRun_not_submissionPathsAgree :
    ∃ s, exec (step ⟨true⟩) (new 7 tightConfig) fillRun = .ok s ∧
      ¬ s.SubmissionPathsAgree (s.handle ⟨true, []⟩) 1
        (SendBundleRequest.new 6 none .v01 []) SimBundleOverrides.default .normal := by
  refine ⟨_, rfl, ?_⟩
  rintro ⟨hiff, -⟩
  have hadded := hiff.mp rfl
  cases hadded

/-! ## The job counter -/

/-- What `queued_jobs` returns, on every handle, is the number of queued
requests. -/
def TracksQueues (s : BundleSimulatorService B) : Prop :=
  ∀ c, (s.handle c).queuedJobs.toNat = s.highPriorityQueue.length + s.normalPriorityQueue.length

/-- No step writes the counter. -/
theorem step_queuedJobs [Bundle B] {profile : BuildProfile} {s t : BundleSimulatorService B}
    {a : Action B} (h : step profile s a = .ok t) : t.inner.queuedJobs = s.inner.queuedJobs := by
  cases step_effect h with
  | accept tx hcap => rw [answer, push_inner]
  | requeue error hsims hpending hretries =>
    rw [push_inner]
    rfl
  | batch hcap hadd hb => rw [afterBatch_inner]
  | _ => rfl

variable {cfg : BundleSimulatorServiceConfig}

theorem exec_queuedJobs [Bundle B] {profile : BuildProfile} {n : U64} {run : List (Action B)}
    {s : BundleSimulatorService B} (h : exec (step profile) (new n cfg) run = .ok s) :
    s.inner.queuedJobs = 0 :=
  exec_invariant (fun _ _ _ hs hstep => (step_queuedJobs hstep).trans hs) rfl h

/-- The counter of a reachable state is right where nothing is queued. -/
theorem tracksQueues_iff [Bundle B] {profile : BuildProfile} {n : U64} {run : List (Action B)}
    {s : BundleSimulatorService B} (h : exec (step profile) (new n cfg) run = .ok s) :
    s.TracksQueues ↔ ∀ p, s.queue p = [] := by
  have hzero : ∀ c, (s.handle c).queuedJobs.toNat = 0 := by
    intro c
    show s.inner.queuedJobs.toNat = 0
    rw [exec_queuedJobs h]
    rfl
  constructor
  · intro htracks p
    have hlen := htracks ⟨true, []⟩
    rw [hzero] at hlen
    refine List.eq_nil_of_length_eq_zero ?_
    cases p
    · show s.normalPriorityQueue.length = 0
      omega
    · show s.highPriorityQueue.length = 0
      omega
  · intro hempty c
    have hhigh : s.highPriorityQueue = [] := hempty .high
    have hnormal : s.normalPriorityQueue = [] := hempty .normal
    rw [hzero, hhigh, hnormal]
    rfl

/-- Nothing is queued and nothing is in flight. -/
structure Idle (cfg : BundleSimulatorServiceConfig) (s : BundleSimulatorService B) : Prop where
  queue : ∀ p, s.queue p = []
  simulations : s.simulations = []
  config : s.config = cfg

/-- The step is no submission to a queue that could hold an entry. -/
def AddsNothing (cfg : BundleSimulatorServiceConfig) (_ : BundleSimulatorService B)
    (a : Action B) : Prop :=
  ∀ r tx, a = .message (.addSimulation r tx) → cfg.maxQueueLen r.priority = 0

/-- Without a submission an idle service stays idle. -/
theorem Idle.step [Bundle B] {profile : BuildProfile} {s t : BundleSimulatorService B}
    {a : Action B} (hs : s.Idle cfg) (ha : AddsNothing cfg s a)
    (h : Backend.step profile s a = .ok t) : t.Idle cfg := by
  have hnone : ∀ {pre post id} {r : SimulationRequest B},
      s.simulations ≠ pre ++ ⟨id, some r⟩ :: post := by
    intro pre post id r hsims
    rw [hs.simulations] at hsims
    simp at hsims
  cases step_effect h with
  | clearQueue =>
    refine ⟨fun p => ?_, hs.simulations, hs.config⟩
    cases p <;> rfl
  | addEventListener tx => exact ⟨fun p => hs.queue p, hs.simulations, hs.config⟩
  | sameBlockNumber => exact hs
  | newBlockNumber hnum =>
    refine ⟨fun p => ?_, hs.simulations, hs.config⟩
    rw [queue_notifyListeners]
    exact hs.queue p
  | @accept r tx hcap =>
    unfold HasCapacity at hcap
    rw [hs.config, ha r tx rfl] at hcap
    exact absurd hcap (Nat.not_lt_zero _)
  | refuse tx hcap => exact ⟨fun p => hs.queue p, hs.simulations, hs.config⟩
  | report hsims hpending hrep => exact absurd hsims hnone
  | requeue error hsims hpending hretries => exact absurd hsims hnone
  | full now hcap => exact hs
  | @batch now nextBlock started dropped q' hcap hadd hb =>
    have hhigh : s.highPriorityQueue = [] := hs.queue .high
    have hnormal : s.normalPriorityQueue = [] := hs.queue .normal
    have hfirst : q'.first = [] := by
      have hsub : q'.first.Sublist s.highPriorityQueue := hb.first_sublist
      rw [hhigh] at hsub
      exact List.sublist_nil.mp hsub
    have hsecond : q'.second = [] := by
      have hsub : q'.second.Sublist s.normalPriorityQueue := hb.second_sublist
      rw [hnormal] at hsub
      exact List.sublist_nil.mp hsub
    have hstarted : started = [] := by
      refine List.eq_nil_iff_forall_not_mem.mpr fun r hr => ?_
      have hmem : r ∈ s.highPriorityQueue ∨ r ∈ s.normalPriorityQueue := hb.mem_of_started r hr
      rw [hhigh, hnormal] at hmem
      simp at hmem
    refine ⟨fun p => ?_, ?_, (step_config h).trans hs.config⟩
    · rw [← queueOf_queues, afterBatch_queues]
      cases p
      · exact hsecond
      · exact hfirst
    · rw [afterBatch_simulations, hstarted, hs.simulations]
      rfl
  | dropListener tx => exact ⟨fun p => hs.queue p, hs.simulations, hs.config⟩

/-- **The job counter, exactly.**  The counter is right in all states of a run if
and only if the run never offers a request to a queue that can hold one. -/
theorem tracksQueues_along_iff [Bundle B] {profile : BuildProfile} {n : U64}
    {run : List (Action B)} {s : BundleSimulatorService B}
    (h : exec (step profile) (new n cfg) run = .ok s) :
    Along (step profile) (new n cfg) run TracksQueues ↔
      ∀ r tx, Action.message (.addSimulation r tx) ∈ run → cfg.maxQueueLen r.priority = 0 := by
  constructor
  · intro halong r tx hmem
    obtain ⟨before, after, rfl⟩ := List.append_of_mem hmem
    have hpre : before ++ [Action.message (.addSimulation r tx)] <+:
        before ++ Action.message (.addSimulation r tx) :: after := ⟨after, by simp⟩
    obtain ⟨v, hv⟩ := exec_of_prefix h hpre
    obtain ⟨t, ht, hstep⟩ := exec_concat.mp hv
    have hqueue := (tracksQueues_iff ht).mp
      (halong before t ((List.prefix_append before _).trans hpre) ht)
    have hqueue' := (tracksQueues_iff hv).mp (halong _ v hpre hv)
    by_contra hlimit
    have hcap : t.HasCapacity r.priority := by
      unfold HasCapacity
      rw [hqueue, (exec_ledger ht).1]
      exact Nat.pos_of_ne_zero hlimit
    -- the request is pushed, and the queue is not empty any more
    have hpush : v = (t.push r).answer tx r (.ok ()) := by
      have heq : (.ok (t.onMessage (.addSimulation r tx)) : Except Halt _) = .ok v := hstep
      rw [onMessage_addSimulation, if_pos hcap] at heq
      exact (Except.ok.inj heq).symm
    have hlast : v.queue r.priority = t.queue r.priority ++ [r] := by
      rw [hpush, ← queue_push_self]
      cases r.priority <;> rfl
    rw [hqueue'] at hlast
    simp at hlast
  · intro hnone pre t hpre ht
    have hidle : (new n cfg : BundleSimulatorService B).Idle cfg := by
      refine ⟨fun p => ?_, rfl, rfl⟩
      cases p <;> rfl
    have hmeet : StepsMeet (step profile) (new n cfg) run (AddsNothing cfg) := by
      rintro pre a t hpre - r tx rfl
      exact hnone r tx (hpre.subset (by simp))
    have hlast := along_of_stepsMeet (fun s a t hs ha hstep => Idle.step hs ha hstep) hidle hmeet
      pre t hpre ht
    exact (tracksQueues_iff ht).mpr hlast.queue

theorem tracksQueues_along_iff_fillRun :
    ∃ s, exec (step ⟨true⟩) (new 7 tightConfig) fillRun = .ok s ∧
      (Along (step ⟨true⟩) (new 7 tightConfig) fillRun TracksQueues ↔
        ∀ r tx, Action.message (.addSimulation r tx) ∈ fillRun →
          tightConfig.maxQueueLen r.priority = 0) := by
  have hrun : ∃ s, exec (step ⟨true⟩) (new 7 tightConfig) fillRun = .ok s := ⟨_, rfl⟩
  obtain ⟨s, hs⟩ := hrun
  exact ⟨s, hs, tracksQueues_along_iff hs⟩

/-- One request is queued, and the counter says zero. -/
theorem fillRun_not_tracksQueues :
    ∃ s, exec (step ⟨true⟩) (new 7 tightConfig) fillRun = .ok s ∧ ¬ s.TracksQueues := by
  refine ⟨_, rfl, fun h => ?_⟩
  exact absurd (h ⟨true, []⟩) (by decide)

end BundleSimulatorService
end Backend
end MevShare
