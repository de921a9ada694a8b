import Mathlib.Logic.Relation
import MevShare.Backend.Steps

/-!
# The ledger of accepted requests

What the service is for, said without vectors, futures and search loops: it is a
ledger that knows for every accepted request where it is, and six moves.  A
request is accepted into the queue of its priority; the queues are cleared; a
queued request is reported as outdated and leaves; a queued request is started
and is then in flight; a request in flight leaves with a report, or it is queued
again.

The ledger says nothing about which request a move picks.  That is the business
of the scheduler, and of `Backend.Order`.  It says everything about what can be
lost, duplicated or miscounted, and these questions are settled in the files
above this one for the moves only.

The connection to the service is `exec_moves`: along every run, the ledger that
is read off the state of the service changes by moves.
-/

namespace MevShare
namespace Backend

open Rpc Rust Draw Machine Relation

variable {B : Type}

/-! ## The ledger -/

/-- Where the accepted requests are, and what has been asked of the simulator and
heard from it. -/
structure Ledger (B : Type) where
  queue : SimulationPriority → List (SimulationRequest B)
  /-- The requests in flight, each with the number of its simulation. -/
  inFlight : List (SimulationRequest B × ℕ)
  cleared : List (SimulationRequest B)
  accepted : List (SimulationRequest B)
  /-- The reports with which requests have left. -/
  left : List (SimulationEvent B)
  /-- What each simulation was given, by its number. -/
  calls : List (B × SimBundleOverrides)
  completed : List (ℕ × BundleSimulationOutcome)

namespace Ledger

def empty : Ledger B := ⟨fun _ => [], [], [], [], [], [], []⟩

/-- Replacing the queue of a priority. -/
def setQueue (l : Ledger B) (p : SimulationPriority) (q : List (SimulationRequest B)) : Ledger B :=
  { l with queue := Function.update l.queue p q }

@[simp] theorem setQueue_queue_self (l : Ledger B) (p : SimulationPriority)
    (q : List (SimulationRequest B)) : (l.setQueue p q).queue p = q := by
  show Function.update l.queue p q p = q
  rw [Function.update_self]

theorem setQueue_queue_of_ne (l : Ledger B) {p p' : SimulationPriority}
    (q : List (SimulationRequest B)) (h : p' ≠ p) :
    (l.setQueue p q).queue p' = l.queue p' := by
  show Function.update l.queue p q p' = l.queue p'
  rw [Function.update_of_ne h]

/-- The lengths of the queues when a request is cut out of one of them. -/
theorem length_queue_cut {l : Ledger B} {p : SimulationPriority}
    {pre post : List (SimulationRequest B)} {r : SimulationRequest B}
    (hq : l.queue p = pre ++ r :: post) (p' : SimulationPriority) :
    ((l.setQueue p (pre ++ post)).queue p').length + (if p = p' then 1 else 0) =
      (l.queue p').length := by
  by_cases hp : p = p'
  · subst hp
    rw [setQueue_queue_self, if_pos rfl, hq, List.length_append, List.length_append,
      List.length_cons, Nat.add_assoc]
  · rw [setQueue_queue_of_ne l _ (Ne.symm hp), if_neg hp, Nat.add_zero]

/-- The lengths of the queues when a request is pushed to one of them. -/
theorem length_queue_push (l : Ledger B) (p : SimulationPriority) (r : SimulationRequest B)
    (p' : SimulationPriority) :
    ((l.setQueue p (l.queue p ++ [r])).queue p').length =
      (l.queue p').length + if p = p' then 1 else 0 := by
  by_cases hp : p = p'
  · subst hp
    rw [setQueue_queue_self, if_pos rfl, List.length_append, List.length_singleton]
  · rw [setQueue_queue_of_ne l _ (Ne.symm hp), if_neg hp, Nat.add_zero]

/-- A property of the queued requests survives the replacement of one queue. -/
theorem forall_setQueue {l : Ledger B} {p : SimulationPriority} {q : List (SimulationRequest B)}
    {I : SimulationPriority → SimulationRequest B → Prop} (hl : ∀ p', ∀ r ∈ l.queue p', I p' r)
    (hq : ∀ r ∈ q, I p r) : ∀ p', ∀ r ∈ (l.setQueue p q).queue p', I p' r := by
  intro p' r hr
  by_cases hp : p' = p
  · subst hp
    rw [setQueue_queue_self] at hr
    exact hq r hr
  · rw [setQueue_queue_of_ne l q hp] at hr
    exact hl p' r hr

end Ledger

/-- **The moves of the ledger**, under a configuration. -/
inductive Move (cfg : BundleSimulatorServiceConfig) : Ledger B → Ledger B → Prop
  | accept {l : Ledger B} {r : SimulationRequest B}
      (hroom : (l.queue r.priority).length < cfg.maxQueueLen r.priority) :
      Move cfg l
        { l.setQueue r.priority (l.queue r.priority ++ [r]) with accepted := l.accepted ++ [r] }
  | clear {l : Ledger B} :
      Move cfg l
        { l with
          queue := fun _ => []
          cleared := l.cleared ++ (l.queue .high ++ l.queue .normal) }
  | expire {l : Ledger B} {p : SimulationPriority} {pre post : List (SimulationRequest B)}
      {r : SimulationRequest B} {nextBlock : U64} (hq : l.queue p = pre ++ r :: post) :
      Move cfg l
        { l.setQueue p (pre ++ post) with
          left := l.left ++ [BundleSimulatorService.outdatedEvent nextBlock r] }
  | start {l : Ledger B} {p : SimulationPriority} {pre post : List (SimulationRequest B)}
      {r : SimulationRequest B} (hq : l.queue p = pre ++ r :: post)
      (hcap : l.inFlight.length < cfg.maxConcurrentSimulations) :
      Move cfg l
        { l.setQueue p (pre ++ post) with
          inFlight := l.inFlight ++ [(r, l.calls.length)]
          calls := l.calls ++ [r.job] }
  | finish {l : Ledger B} {pre post : List (SimulationRequest B × ℕ)} {r : SimulationRequest B}
      {id : ℕ} {out : BundleSimulationOutcome} {e : SimulationEvent B}
      (hf : l.inFlight = pre ++ (r, id) :: post) (he : report cfg.maxRetries out r = some e) :
      Move cfg l
        { l with
          inFlight := pre ++ post
          completed := l.completed ++ [(id, out)]
          left := l.left ++ [e] }
  | requeue {l : Ledger B} {pre post : List (SimulationRequest B × ℕ)} {r : SimulationRequest B}
      {id : ℕ} {error : BoxError} (hf : l.inFlight = pre ++ (r, id) :: post)
      (hr : r.retries + 1 ≤ cfg.maxRetries) :
      Move cfg l
        { l.setQueue r.priority
            (l.queue r.priority ++ [BundleSimulatorService.rescheduled r]) with
          inFlight := pre ++ post
          completed := l.completed ++ [(id, .reschedule error)] }

/-! ## The ledger of a service -/

/-- The request of an answer, where it was accepted. -/
def Answer.accepted (a : Answer B) : Option (SimulationRequest B) :=
  match a.result with
  | .ok () => some a.request
  | .error _ => none

/-- The request of a simulation in flight, with the number of the simulation. -/
def Simulation.entry (sim : Simulation B) : Option (SimulationRequest B × ℕ) :=
  sim.inner.map fun r => (r, sim.sim)

namespace BundleSimulatorService

/-- What a state of the service says about the accepted requests. -/
def ledger (s : BundleSimulatorService B) : Ledger B where
  queue := s.queue
  inFlight := s.simulations.filterMap Simulation.entry
  cleared := s.world.cleared
  accepted := s.world.answers.filterMap Answer.accepted
  left := s.world.emitted.filter SimulationEvent.isTerminal
  calls := s.world.simulateCalls
  completed := s.world.completed

/-- The accepted requests are those that were answered with `Ok`. -/
theorem mem_accepted {s : BundleSimulatorService B} {r : SimulationRequest B} :
    r ∈ s.ledger.accepted ↔ ∃ ans ∈ s.world.answers, ans.result = .ok () ∧ ans.request = r := by
  constructor
  · intro hr
    obtain ⟨ans, hans, hacc⟩ := List.mem_filterMap.mp hr
    refine ⟨ans, hans, ?_⟩
    unfold Answer.accepted at hacc
    rcases hres : ans.result with e | u
    · rw [hres] at hacc
      cases hacc
    · rw [hres] at hacc
      exact ⟨rfl, Option.some.inj hacc⟩
  · rintro ⟨ans, hans, hok, rfl⟩
    refine List.mem_filterMap.mpr ⟨ans, hans, ?_⟩
    rw [Answer.accepted, hok]

theorem ledger_new (n : U64) (cfg : BundleSimulatorServiceConfig) :
    (new n cfg : BundleSimulatorService B).ledger = Ledger.empty := by
  unfold ledger new Ledger.empty
  congr 1
  funext p
  cases p <;> rfl

theorem length_inFlight_le (s : BundleSimulatorService B) :
    s.ledger.inFlight.length ≤ s.simulations.length :=
  List.length_filterMap_le _ _

/-! ## Events and pushes -/

theorem ledger_notifyListeners (s : BundleSimulatorService B) {e : SimulationEvent B}
    (he : e.isTerminal = true) :
    (s.notifyListeners e).ledger = { s.ledger with left := s.ledger.left ++ [e] } := by
  have hleft : (s.world.emitted ++ [e]).filter SimulationEvent.isTerminal =
      s.world.emitted.filter SimulationEvent.isTerminal ++ [e] := by
    rw [List.filter_append, List.filter_cons_of_pos he, List.filter_nil]
  show Ledger.mk _ _ _ _ _ _ _ = Ledger.mk _ _ _ _ _ _ _
  congr 1

/-- An event that reports on no request is not seen in the ledger. -/
theorem ledger_notifyListeners_of_not (s : BundleSimulatorService B) {e : SimulationEvent B}
    (he : e.isTerminal = false) : (s.notifyListeners e).ledger = s.ledger := by
  have hleft : (s.world.emitted ++ [e]).filter SimulationEvent.isTerminal =
      s.world.emitted.filter SimulationEvent.isTerminal := by
    rw [List.filter_append, List.filter_cons_of_neg (by simp [he]), List.filter_nil,
      List.append_nil]
  show Ledger.mk _ _ _ _ _ _ _ = Ledger.mk _ _ _ _ _ _ _
  congr 1

theorem ledger_push (s : BundleSimulatorService B) (r : SimulationRequest B) :
    (s.push r).ledger = s.ledger.setQueue r.priority (s.ledger.queue r.priority ++ [r]) := by
  have hqueue : (s.push r).queue =
      Function.update s.queue r.priority (s.queue r.priority ++ [r]) := by
    funext p
    by_cases hp : p = r.priority
    · rw [hp, queue_push_self, Function.update_self]
    · rw [queue_push_of_ne s hp, Function.update_of_ne hp]
  unfold ledger Ledger.setQueue
  rw [hqueue, push_simulations, push_world]

theorem ledger_cutSimulation (s : BundleSimulatorService B) {pre post : List (Simulation B)}
    (id : ℕ) (out : BundleSimulationOutcome) :
    (s.cutSimulation pre post id out).ledger =
      { s.ledger with
        inFlight := pre.filterMap Simulation.entry ++ post.filterMap Simulation.entry
        completed := s.ledger.completed ++ [(id, out)] } := by
  show Ledger.mk _ _ _ _ _ _ _ = Ledger.mk _ _ _ _ _ _ _
  rw [cutSimulation, List.filterMap_append]
  congr 1

/-! ## Messages -/

theorem ledger_clearQueue (s : BundleSimulatorService B) :
    (s.onMessage .clearQueue).ledger =
      { s.ledger with
        queue := fun _ => []
        cleared := s.ledger.cleared ++ (s.ledger.queue .high ++ s.ledger.queue .normal) } := by
  show Ledger.mk _ _ _ _ _ _ _ = Ledger.mk _ _ _ _ _ _ _
  congr 1
  funext p
  cases p <;> rfl

theorem ledger_accept (s : BundleSimulatorService B) (r : SimulationRequest B) (tx : ℕ) :
    ((s.push r).answer tx r (.ok ())).ledger =
      { s.ledger.setQueue r.priority (s.ledger.queue r.priority ++ [r]) with
        accepted := s.ledger.accepted ++ [r] } := by
  rw [← ledger_push]
  unfold answer ledger
  rw [List.filterMap_append, push_world]
  congr 1

theorem ledger_refuse (s : BundleSimulatorService B) (r : SimulationRequest B) (tx : ℕ)
    (error : AddSimulationErr) : (s.answer tx r (.error error)).ledger = s.ledger := by
  unfold answer ledger
  rw [List.filterMap_append]
  show Ledger.mk _ _ _ (_ ++ []) _ _ _ = _
  rw [List.append_nil]
  congr 1

/-- A simulation in flight, as the ledger sees it. -/
theorem inFlight_ledger {s : BundleSimulatorService B} {pre post : List (Simulation B)} {id : ℕ}
    {r : SimulationRequest B} (hsims : s.simulations = pre ++ ⟨id, some r⟩ :: post) :
    s.ledger.inFlight =
      pre.filterMap Simulation.entry ++ (r, id) :: post.filterMap Simulation.entry := by
  show s.simulations.filterMap Simulation.entry = _
  rw [hsims, List.filterMap_append]
  rfl

end BundleSimulatorService

/-! ## Batches -/

/-- The queues of a batch, by priority. -/
def queueOf (q : Queues (SimulationRequest B)) : SimulationPriority → List (SimulationRequest B)
  | .high => q.first
  | .normal => q.second

theorem queueOf_queues (s : BundleSimulatorService B) : queueOf s.queues = s.queue := by
  funext p
  cases p <;> rfl

/-- A removal is from the queue of one priority. -/
theorem take_queueOf {v : SimulationRequest B → Verdict} {q q' : Queues (SimulationRequest B)}
    {r : SimulationRequest B} (h : Take v q r q') :
    ∃ p pre post, queueOf q p = pre ++ r :: post ∧
      queueOf q' = Function.update (queueOf q) p (pre ++ post) := by
  cases h with
  | @first pre post second _ hpre hx =>
    refine ⟨.high, pre, post, rfl, ?_⟩
    funext p
    cases p <;> rfl
  | @second first pre post _ hfirst hpre hx =>
    refine ⟨.normal, pre, post, rfl, ?_⟩
    funext p
    cases p <;> rfl

/-- The ledger after a batch. -/
def Ledger.afterBatch (l : Ledger B) (nextBlock : U64)
    (started dropped : List (SimulationRequest B)) (q' : Queues (SimulationRequest B)) :
    Ledger B :=
  { l with
    queue := queueOf q'
    inFlight := l.inFlight ++ started.zipIdx l.calls.length
    left := l.left ++ dropped.map (BundleSimulatorService.outdatedEvent nextBlock)
    calls := l.calls ++ started.map SimulationRequest.job }

/-- **A batch is a sequence of moves**, as long as it starts no more than there is
room for. -/
theorem batch_moves {cfg : BundleSimulatorServiceConfig} {nextBlock : U64}
    {v : SimulationRequest B → Verdict} {n : ℕ} {q q' : Queues (SimulationRequest B)}
    {started dropped : List (SimulationRequest B)} (hb : Batch v n q started dropped q')
    {l : Ledger B} (hq : l.queue = queueOf q)
    (hcap : l.inFlight.length + n ≤ cfg.maxConcurrentSimulations) :
    ReflTransGen (Move cfg) l (l.afterBatch nextBlock started dropped q') := by
  have hidle : ∀ (l : Ledger B) q, l.queue = queueOf q → l.afterBatch nextBlock [] [] q = l := by
    intro l q hq
    unfold Ledger.afterBatch
    rw [← hq]
    simp
  induction hb generalizing l with
  | full => rw [hidle l _ hq]
  | idle hall => rw [hidle l _ hq]
  | @start n q q₁ q' r started dropped ht hr hb ih =>
    obtain ⟨p, pre, post, hp, hq₁⟩ := take_queueOf ht
    rw [← hq] at hp hq₁
    have hmove : Move cfg l _ := Move.start hp (by omega)
    refine ReflTransGen.head hmove ?_
    have hcap₁ : (l.inFlight ++ [(r, l.calls.length)]).length + n ≤
        cfg.maxConcurrentSimulations := by
      rw [List.length_append, List.length_singleton]
      omega
    have hsame : l.afterBatch nextBlock (r :: started) dropped q' =
        Ledger.afterBatch { l.setQueue p (pre ++ post) with
          inFlight := l.inFlight ++ [(r, l.calls.length)]
          calls := l.calls ++ [r.job] } nextBlock started dropped q' := by
      unfold Ledger.afterBatch Ledger.setQueue
      simp only [List.zipIdx_cons, List.map_cons, List.append_assoc, List.singleton_append,
        List.length_append, List.length_singleton]
    rw [hsame]
    exact ih hq₁.symm hcap₁
  | @drop n q q₁ q' r started dropped ht hr hb ih =>
    obtain ⟨p, pre, post, hp, hq₁⟩ := take_queueOf ht
    rw [← hq] at hp hq₁
    have hmove : Move cfg l _ := @Move.expire _ _ _ _ _ _ _ nextBlock hp
    refine ReflTransGen.head hmove ?_
    have hsame : l.afterBatch nextBlock started (r :: dropped) q' =
        Ledger.afterBatch { l.setQueue p (pre ++ post) with
          left := l.left ++ [BundleSimulatorService.outdatedEvent nextBlock r] }
          nextBlock started dropped q' := by
      unfold Ledger.afterBatch Ledger.setQueue
      simp only [List.map_cons, List.append_assoc, List.singleton_append]
    rw [hsame]
    exact ih hq₁.symm hcap

namespace BundleSimulatorService

theorem filterMap_simulationsFrom (n : ℕ) (rs : List (SimulationRequest B)) :
    (simulationsFrom n rs).filterMap Simulation.entry = rs.zipIdx n := by
  induction rs generalizing n with
  | nil => rfl
  | cons r rs ih =>
    rw [simulationsFrom, List.zipIdx_cons, ← ih]
    rfl

theorem ledger_afterBatch (s : BundleSimulatorService B) (nextBlock : U64)
    (started dropped : List (SimulationRequest B)) (q' : Queues (SimulationRequest B)) :
    (s.afterBatch nextBlock started dropped q').ledger =
      s.ledger.afterBatch nextBlock started dropped q' := by
  obtain ⟨delivered, hworld⟩ := afterBatch_world s nextBlock started dropped q'
  have hqueue : (s.afterBatch nextBlock started dropped q').queue = queueOf q' := by
    rw [← queueOf_queues, afterBatch_queues]
  have hdropped : (dropped.map (outdatedEvent nextBlock)).filter SimulationEvent.isTerminal =
      dropped.map (outdatedEvent nextBlock) := by
    rw [List.filter_eq_self]
    intro e he
    obtain ⟨r, -, rfl⟩ := List.mem_map.mp he
    rfl
  unfold ledger Ledger.afterBatch
  rw [hqueue, hworld, afterBatch_simulations, List.filterMap_append, filterMap_simulationsFrom,
    List.filter_append, hdropped]
  rfl

variable {cfg : BundleSimulatorServiceConfig} {s t : BundleSimulatorService B}

/-! ## The refinement -/

/-- **Each step is a sequence of moves.** -/
theorem step_moves [Bundle B] {profile : BuildProfile} {a : Action B} (hcfg : s.config = cfg)
    (h : step profile s a = .ok t) : ReflTransGen (Move cfg) s.ledger t.ledger := by
  cases step_effect h with
  | clearQueue =>
    rw [ledger_clearQueue]
    exact ReflTransGen.single Move.clear
  | addEventListener tx => exact ReflTransGen.refl
  | sameBlockNumber => exact ReflTransGen.refl
  | newBlockNumber hnum =>
    rw [ledger_notifyListeners_of_not _ rfl]
    exact ReflTransGen.refl
  | accept tx hcap =>
    rw [ledger_accept]
    refine ReflTransGen.single (Move.accept ?_)
    rw [← hcfg]
    exact hcap
  | refuse tx hcap =>
    rw [ledger_refuse]
  | report hsims hpending hrep =>
    have hterm := SimulationEvent.isTerminal_of_subject (report_subject hrep)
    rw [hcfg] at hrep
    rw [ledger_notifyListeners _ hterm, ledger_cutSimulation]
    exact ReflTransGen.single (Move.finish (inFlight_ledger hsims) hrep)
  | requeue error hsims hpending hretries =>
    rw [hcfg] at hretries
    rw [ledger_push, ledger_cutSimulation]
    exact ReflTransGen.single (Move.requeue (inFlight_ledger hsims) hretries)
  | full now hcap => exact ReflTransGen.refl
  | batch hcap hadd hb =>
    rw [ledger_afterBatch]
    refine batch_moves hb (queueOf_queues s).symm ?_
    have hlen := s.length_inFlight_le
    rw [capacity, hcfg] at hcap ⊢
    omega
  | dropListener tx => exact ReflTransGen.refl

/-- **Refinement.**  Along every run of the service, its ledger changes by moves
of the configuration it was created with. -/
theorem exec_moves [Bundle B] {profile : BuildProfile} {run : List (Action B)}
    (hcfg : s.config = cfg) (h : exec (step profile) s run = .ok t) :
    t.config = cfg ∧ ReflTransGen (Move cfg) s.ledger t.ledger := by
  refine exec_invariant (I := fun t : BundleSimulatorService B =>
    t.config = cfg ∧ ReflTransGen (Move cfg) s.ledger t.ledger) ?_ ⟨hcfg, ReflTransGen.refl⟩ h
  rintro u a v ⟨hu, hmoves⟩ hstep
  exact ⟨(step_config hstep).trans hu, hmoves.trans (step_moves hu hstep)⟩

theorem exec_ledger [Bundle B] {profile : BuildProfile} {n : U64} {run : List (Action B)}
    (h : exec (step profile) (new n cfg) run = .ok s) :
    s.config = cfg ∧ ReflTransGen (Move cfg) Ledger.empty s.ledger := by
  have hmoves := exec_moves rfl h
  rwa [ledger_new] at hmoves

/-- **The ledger rule.**  What holds of the empty ledger and is kept by every
move holds of the ledger in every reachable state. -/
theorem exec_ledger_invariant [Bundle B] {I : Ledger B → Prop} (hempty : I Ledger.empty)
    (hmove : ∀ l l', I l → Move cfg l l' → I l') {profile : BuildProfile} {n : U64}
    {run : List (Action B)} (h : exec (step profile) (new n cfg) run = .ok s) : I s.ledger := by
  obtain ⟨-, hmoves⟩ := exec_ledger h
  generalize s.ledger = l at hmoves
  induction hmoves with
  | refl => exact hempty
  | tail _ hlast ih => exact hmove _ _ ih hlast

end BundleSimulatorService
end Backend
end MevShare
