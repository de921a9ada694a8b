import MevShare.Backend.Handle
import MevShare.Backend.Order

/-!
# `poll`

`BundleSimulatorService::poll` as an executor runs it.  `Backend.Service` has the
bodies of its three loops; here they are put together into the control flow of the
source, with the two wait objects that a call reads: the channel from the handles
and the set of simulations in flight.

## Interleaving

A call of `poll` does not run alone.  While it goes through its loops the handles
send messages, the simulator wakes futures, clients drop listeners.  So a call is
not one step but a program counter (`Phase`) that moves, and every action of the
outside is possible in every phase.  A future that is polled says whatever it
likes: the answer is in the label of the step, and a future that is ready as soon
as it is started is one of the cases.

## What is assumed of the wait objects

A channel returns `Pending` only where it holds no message, and it keeps the waker
of the task; the next message wakes the task.  `FuturesUnordered` polls the
futures that were pushed or woken since they were polled last, and it returns
`Pending`, or `None` where it is empty, only when there are no more of these; it
keeps the waker, and the next future that is woken wakes the task.  A future that
is polled and not ready keeps the waker of its place in the set.

## Quiescence

`quiescent`: a call that returns has left nothing undone.  What the calls before
have left is described by `Attended`, the invariant behind it.
-/

namespace MevShare
namespace Backend

open Rpc Rust Draw Machine

variable {B : Type}

/-- Where the task stands: outside of `poll`, or in one of the three parts of its
loop. -/
inductive Phase where
  | idle
  /-- `while let Poll::Ready(Some(msg)) = this.from_handle.poll_recv(cx)` -/
  | messages
  /-- `while let Poll::Ready(Some(..)) = this.simulations.poll_next_unpin(cx)` -/
  | simulations
  /-- From `pop_best_requests` to the end of the loop. -/
  | schedule
  deriving DecidableEq, Repr

/-- The service as a task of an executor. -/
structure Task (B : Type) where
  service : BundleSimulatorService B
  fromHandle : ServiceChannel B
  /-- The channel keeps the waker of a `poll_recv` that returned `Pending`. -/
  channelWaker : Bool
  /-- The simulations that were pushed or woken since they were polled last. -/
  readyToRun : List ℕ
  /-- The simulations whose last poll returned `Pending` and that have not been
  woken since: they keep a waker. -/
  parked : List ℕ
  /-- The set keeps the waker of a `poll_next` that returned `Pending`. -/
  simulationsWaker : Bool
  phase : Phase
  /-- The executor has been asked to poll the task. -/
  woken : Bool
  /-- What each poll of a simulation has returned, oldest first; `none` is
  `Pending`. -/
  polls : List (ℕ × Option BundleSimulationOutcome)

/-- What can happen to the task. -/
inductive TaskAction (B : Type) where
  /-- A handle sends a message. -/
  | send (msg : BundleSimulatorMessage B)
  /-- The simulator wakes the future `id`. -/
  | wake (id : ℕ)
  /-- A client drops a listener. -/
  | dropListener (tx : ℕ)
  /-- The executor calls `poll`. -/
  | poll
  /-- `from_handle.poll_recv(cx)`, and `on_message` if there is a message. -/
  | recv
  /-- `simulations.poll_next_unpin(cx)` polls the future `id`, and it returns
  `res`. -/
  | pollNext (id : ℕ) (res : Option BundleSimulationOutcome)
  /-- `simulations.poll_next_unpin(cx)` finds no future left to poll. -/
  | pollNextPending
  /-- The last part of the loop, at the instant `now`. -/
  | schedule (now : Instant)

namespace Task

/-- A service that has been spawned and not been polled yet. -/
def new (currentBlockNumber : U64) (config : BundleSimulatorServiceConfig) : Task B where
  service := BundleSimulatorService.new currentBlockNumber config
  fromHandle := ⟨true, []⟩
  channelWaker := false
  readyToRun := []
  parked := []
  simulationsWaker := false
  phase := .idle
  woken := true
  polls := []

/-- The simulation `id` is polled: it returns `Pending` and keeps the waker, or its
outcome is processed. -/
def pollSimulation (t : Task B) (id : ℕ) : Option BundleSimulationOutcome → Except Halt (Task B)
  | none => .ok
      { t with
        readyToRun := t.readyToRun.erase id
        parked := t.parked ++ [id]
        polls := t.polls ++ [(id, none)] }
  | some out =>
      match t.service.complete id out with
      | .error e => .error e
      | .ok service => .ok
          { t with
            service := service
            readyToRun := t.readyToRun.erase id
            polls := t.polls ++ [(id, some out)] }

/-- Starting a simulation puts it into the set, to be polled. -/
def start (t : Task B) (req : SimulationRequest B) : Task B :=
  { t with
    service := t.service.startSimulation req
    readyToRun := t.readyToRun ++ [t.service.world.simulateCalls.length] }

/-- Try to queue in new simulation requests, and leave the loop if there is no more
work. -/
def schedule [Bundle B] (profile : BuildProfile) (t : Task B) (now : Instant) :
    Except Halt (Task B) :=
  match t.service.popBestRequests profile now with
  | .error e => .error e
  | .ok (service, ready) =>
      let noMoreWork := ready.isEmpty
      let t := ready.foldl start { t with service := service }
      .ok { t with phase := if noMoreWork then .idle else .messages }

/-- One step of the task, or of the outside. -/
def step [Bundle B] (profile : BuildProfile) (t : Task B) : TaskAction B → Except Halt (Task B)
  | .send msg =>
      match t.fromHandle.send msg with
      | .error _ => .ok t
      | .ok channel => .ok
          { t with
            fromHandle := channel
            channelWaker := false
            woken := t.woken || t.channelWaker }
  | .wake id =>
      if id ∈ t.parked then .ok
          { t with
            parked := t.parked.erase id
            readyToRun := t.readyToRun ++ [id]
            simulationsWaker := false
            woken := t.woken || t.simulationsWaker }
      -- the future has completed, or it is going to be polled anyway
      else .ok t
  | .dropListener tx => .ok { t with service := t.service.dropListener tx }
  | .poll =>
      if t.phase = .idle then .ok { t with phase := .messages, woken := false }
      else .error .disabled
  | .recv =>
      if t.phase = .messages then
        match t.fromHandle.messages with
        | msg :: rest => .ok
            { t with
              service := t.service.onMessage msg
              fromHandle := { t.fromHandle with messages := rest } }
        | [] => .ok { t with channelWaker := true, phase := .simulations }
      else .error .disabled
  | .pollNext id res =>
      if t.phase = .simulations ∧ id ∈ t.readyToRun then t.pollSimulation id res
      else .error .disabled
  | .pollNextPending =>
      if t.phase = .simulations ∧ t.readyToRun = [] then
        .ok { t with simulationsWaker := true, phase := .schedule }
      else .error .disabled
  | .schedule now =>
      if t.phase = .schedule then t.schedule profile now else .error .disabled

/-! ## What one step can do -/

theorem foldl_start (t : Task B) (ready : List (SimulationRequest B)) :
    ready.foldl start t =
      { t with
        service := ready.foldl BundleSimulatorService.startSimulation t.service
        readyToRun := t.readyToRun ++
          List.range' t.service.world.simulateCalls.length ready.length } := by
  induction ready generalizing t with
  | nil => simp
  | cons req ready ih =>
    have hlen : (t.service.startSimulation req).world.simulateCalls.length =
        t.service.world.simulateCalls.length + 1 := List.length_append
    rw [List.foldl_cons, ih, start, hlen, List.length_cons, List.range'_succ, List.append_assoc,
      List.singleton_append, List.foldl_cons]

/-- **The effects of a step of the task**, in normal form. -/
inductive Effect [Bundle B] (profile : BuildProfile) (t : Task B) : TaskAction B → Task B → Prop
  | sendClosed (msg : BundleSimulatorMessage B) (hopen : t.fromHandle.isOpen = false) :
      Effect profile t (.send msg) t
  | send (msg : BundleSimulatorMessage B) (hopen : t.fromHandle.isOpen = true) :
      Effect profile t (.send msg)
        { t with
          fromHandle := { t.fromHandle with messages := t.fromHandle.messages ++ [msg] }
          channelWaker := false
          woken := t.woken || t.channelWaker }
  | wakeIgnored (id : ℕ) (hid : id ∉ t.parked) : Effect profile t (.wake id) t
  | wake (id : ℕ) (hid : id ∈ t.parked) :
      Effect profile t (.wake id)
        { t with
          parked := t.parked.erase id
          readyToRun := t.readyToRun ++ [id]
          simulationsWaker := false
          woken := t.woken || t.simulationsWaker }
  | dropListener (tx : ℕ) :
      Effect profile t (.dropListener tx) { t with service := t.service.dropListener tx }
  | poll (hphase : t.phase = .idle) :
      Effect profile t .poll { t with phase := .messages, woken := false }
  | recv {msg : BundleSimulatorMessage B} {rest : List (BundleSimulatorMessage B)}
      (hphase : t.phase = .messages) (hmessages : t.fromHandle.messages = msg :: rest) :
      Effect profile t .recv
        { t with
          service := t.service.onMessage msg
          fromHandle := { t.fromHandle with messages := rest } }
  | drained (hphase : t.phase = .messages) (hmessages : t.fromHandle.messages = []) :
      Effect profile t .recv { t with channelWaker := true, phase := .simulations }
  | parks {id : ℕ} (hphase : t.phase = .simulations) (hid : id ∈ t.readyToRun) :
      Effect profile t (.pollNext id none)
        { t with
          readyToRun := t.readyToRun.erase id
          parked := t.parked ++ [id]
          polls := t.polls ++ [(id, none)] }
  | completes {id : ℕ} {out : BundleSimulationOutcome} {service : BundleSimulatorService B}
      (hphase : t.phase = .simulations) (hid : id ∈ t.readyToRun)
      (hstep : Backend.step profile t.service (.complete id out) = .ok service) :
      Effect profile t (.pollNext id (some out))
        { t with
          service := service
          readyToRun := t.readyToRun.erase id
          polls := t.polls ++ [(id, some out)] }
  | noneReady (hphase : t.phase = .simulations) (hready : t.readyToRun = []) :
      Effect profile t .pollNextPending { t with simulationsWaker := true, phase := .schedule }
  | returns {now : Instant} {service : BundleSimulatorService B} (hphase : t.phase = .schedule)
      (hpop : t.service.popBestRequests profile now = .ok (service, []))
      (hstep : Backend.step profile t.service (.schedule now) = .ok service) :
      Effect profile t (.schedule now) { t with service := service, phase := .idle }
  | starts {now : Instant} {service : BundleSimulatorService B} {req : SimulationRequest B}
      {ready : List (SimulationRequest B)} (hphase : t.phase = .schedule)
      (hsims : service.simulations = t.service.simulations ++
        BundleSimulatorService.simulationsFrom t.service.world.simulateCalls.length (req :: ready))
      (hstep : Backend.step profile t.service (.schedule now) = .ok service) :
      Effect profile t (.schedule now)
        { t with
          service := service
          readyToRun := t.readyToRun ++
            List.range' t.service.world.simulateCalls.length (req :: ready).length
          phase := .messages }

/-- What a scheduling step returns to the loop of `poll`. -/
theorem popBestRequests_cases [Bundle B] {profile : BuildProfile}
    {s service : BundleSimulatorService B} {now : Instant} {ready : List (SimulationRequest B)}
    (h : s.popBestRequests profile now = .ok (service, ready)) :
    service.world.simulateCalls = s.world.simulateCalls ∧ service.simulations = s.simulations := by
  have hstep : s.schedule profile now =
      .ok (ready.foldl BundleSimulatorService.startSimulation service) := by
    rw [BundleSimulatorService.schedule, h]
  rcases BundleSimulatorService.schedule_cases hstep with ⟨hcap, -⟩ |
    ⟨nextBlock, started, dropped, q', -, -, -, hpop, -⟩
  · rw [BundleSimulatorService.popBestRequests, if_pos hcap] at h
    cases h
    exact ⟨rfl, rfl⟩
  · rw [h, Except.ok.injEq, Prod.mk.injEq] at hpop
    obtain ⟨delivered, hworld⟩ := (s.withQueues q').notifyAll_world
      (dropped.map (BundleSimulatorService.outdatedEvent nextBlock))
    rw [hpop.1, hworld, BundleSimulatorService.notifyAll_simulations]
    exact ⟨rfl, rfl⟩

theorem step_effect [Bundle B] {profile : BuildProfile} {t u : Task B} {a : TaskAction B}
    (h : step profile t a = .ok u) : Effect profile t a u := by
  rcases a with msg | id | tx | _ | _ | ⟨id, res⟩ | _ | now
  · rw [step, ServiceChannel.send] at h
    by_cases hopen : t.fromHandle.isOpen = true
    · rw [if_pos hopen] at h
      cases h
      exact Effect.send msg hopen
    · rw [if_neg hopen] at h
      cases h
      exact Effect.sendClosed msg (Bool.eq_false_iff.mpr hopen)
  · rw [step] at h
    by_cases hid : id ∈ t.parked
    · rw [if_pos hid] at h
      cases h
      exact Effect.wake id hid
    · rw [if_neg hid] at h
      cases h
      exact Effect.wakeIgnored id hid
  · cases h
    exact Effect.dropListener tx
  · rw [step] at h
    split at h
    case isTrue hphase =>
      cases h
      exact Effect.poll hphase
    case isFalse => cases h
  · rw [step] at h
    split at h
    case isTrue hphase =>
      rcases hmessages : t.fromHandle.messages with _ | ⟨msg, rest⟩ <;> rw [hmessages] at h <;>
        cases h
      · exact Effect.drained hphase hmessages
      · exact Effect.recv hphase hmessages
    case isFalse => cases h
  · rw [step] at h
    split at h
    case isTrue hcond =>
      rcases res with _ | out
      · cases h
        exact Effect.parks hcond.1 hcond.2
      · rw [pollSimulation] at h
        rcases hstep : t.service.complete id out with e | service <;> rw [hstep] at h <;> cases h
        exact Effect.completes hcond.1 hcond.2 hstep
    case isFalse => cases h
  · rw [step] at h
    split at h
    case isTrue hcond =>
      cases h
      exact Effect.noneReady hcond.1 hcond.2
    case isFalse => cases h
  · rw [step] at h
    split at h
    case isTrue hphase =>
      rw [schedule] at h
      rcases hpop : t.service.popBestRequests profile now with e | ⟨service, ready⟩
      · rw [hpop] at h
        cases h
      · obtain ⟨hcalls, hsims⟩ := popBestRequests_cases hpop
        have hstep : Backend.step profile t.service (.schedule now) =
            .ok (ready.foldl BundleSimulatorService.startSimulation service) := by
          rw [Backend.step, BundleSimulatorService.schedule, hpop]
        rw [hpop] at h
        rcases ready with _ | ⟨req, ready⟩
        · cases h
          exact Effect.returns hphase hpop hstep
        · simp only [foldl_start, Except.ok.injEq] at h
          rw [← h, hcalls]
          refine Effect.starts hphase ?_ hstep
          rw [BundleSimulatorService.foldl_startSimulation, hsims, hcalls]
    case isFalse => cases h

end Task

/-! ## What the service's own steps mean for the set of simulations -/

/-- The message of an action that processes one. -/
def Action.message? : Action B → Option (BundleSimulatorMessage B)
  | .message msg => some msg
  | _ => none

/-- The simulation that an action finds completed, with its outcome. -/
def Action.completion? : Action B → Option (ℕ × BundleSimulationOutcome)
  | .complete id out => some (id, out)
  | _ => none

namespace BundleSimulatorService

theorem step_completed [Bundle B] {profile : BuildProfile} {s t : BundleSimulatorService B}
    {a : Action B} (h : step profile s a = .ok t) :
    t.world.completed = s.world.completed ++ a.completion?.toList := by
  cases step_effect h with
  | accept tx hcap =>
    rw [answer, push_world]
    exact (List.append_nil _).symm
  | report hsims hpending hrep => rfl
  | requeue error hsims hpending hretries =>
    rw [push_world]
    rfl
  | batch hcap hadd hb =>
    obtain ⟨delivered, hworld⟩ := s.afterBatch_world _ _ _ _
    rw [hworld]
    exact (List.append_nil _).symm
  | _ => exact (List.append_nil _).symm

theorem onMessage_simulations [Bundle B] (s : BundleSimulatorService B)
    (msg : BundleSimulatorMessage B) : (s.onMessage msg).simulations = s.simulations := by
  have hstep : step ⟨true⟩ s (.message msg) = .ok (s.onMessage msg) := rfl
  generalize s.onMessage msg = t at hstep
  cases step_effect hstep with
  | accept tx hcap => exact push_simulations s _
  | _ => rfl

/-- A completed simulation leaves the set. -/
theorem complete_simulations [Bundle B] {profile : BuildProfile} {s t : BundleSimulatorService B}
    {id : ℕ} {out : BundleSimulationOutcome} (h : step profile s (.complete id out) = .ok t) :
    (s.simulations.map Simulation.sim).Perm (id :: t.simulations.map Simulation.sim) := by
  have hcut : ∀ pre post : List (Simulation B), ∀ r : SimulationRequest B,
      ((pre ++ ⟨id, some r⟩ :: post).map Simulation.sim).Perm
        (id :: (pre ++ post).map Simulation.sim) := by
    intro pre post r
    exact List.perm_middle.map Simulation.sim
  cases step_effect h with
  | report hsims hpending hrep =>
    rw [hsims]
    exact hcut _ _ _
  | requeue error hsims hpending hretries =>
    rw [push_simulations, hsims]
    exact hcut _ _ _

/-- A simulation in flight can be found completed with any outcome. -/
theorem Paired.complete_ok {s : BundleSimulatorService B} (h : s.Paired) {id : ℕ}
    (hid : id ∈ s.simulations.map Simulation.sim) (out : BundleSimulationOutcome) :
    ∃ t, s.complete id out = .ok t := by
  rcases hfind : s.simulations.find? (fun sim => sim.sim == id) with _ | sim
  · obtain ⟨sim, hsim, hsimid⟩ := List.mem_map.mp hid
    exact absurd (beq_iff_eq.mpr hsimid) (List.find?_eq_none.mp hfind sim hsim)
  · obtain ⟨r, hr⟩ := Option.isSome_iff_exists.mp (h sim (List.mem_of_find?_eq_some hfind))
    simp only [complete, pollNextSimulation, hfind, Simulation.poll, hr]
    exact ⟨_, rfl⟩

theorem map_sim_simulationsFrom (n : ℕ) (rs : List (SimulationRequest B)) :
    (simulationsFrom n rs).map Simulation.sim = List.range' n rs.length := by
  induction rs generalizing n with
  | nil => rfl
  | cons r rs ih =>
    rw [simulationsFrom, List.map_cons, ih, List.length_cons, List.range'_succ]
    rfl

theorem Paired.numbers {s : BundleSimulatorService B} (h : s.Paired) :
    s.ledger.inFlight.map Prod.snd = s.simulations.map Simulation.sim := by
  show (s.simulations.filterMap Simulation.entry).map Prod.snd = _
  have hall : ∀ sim ∈ s.simulations, sim.inner.isSome = true := h
  generalize s.simulations = sims at hall
  induction sims with
  | nil => rfl
  | cons sim sims ih =>
    obtain ⟨r, hr⟩ := Option.isSome_iff_exists.mp (hall sim List.mem_cons_self)
    have hentry : sim.entry = some (r, sim.sim) := by
      rw [Simulation.entry, hr]
      rfl
    rw [List.filterMap_cons, hentry, List.map_cons, List.map_cons,
      ih fun x hx => hall x (List.mem_cons_of_mem _ hx)]

/-- No two simulations have the same number, and none that has completed is still in
flight. -/
theorem exec_numbers_nodup [Bundle B] {profile : BuildProfile} {n : U64}
    {cfg : BundleSimulatorServiceConfig} {run : List (Action B)} {s : BundleSimulatorService B}
    (h : exec (step profile) (new n cfg) run = .ok s) :
    (s.simulations.map Simulation.sim ++ s.world.completed.map Prod.fst).Nodup := by
  have hnodup := (exec_audited h).numbered.nodup
  rw [(exec_paired h).numbers] at hnodup
  exact hnodup

end BundleSimulatorService

namespace Task

/-! ## The invariant -/

/-- What a poll of a simulation has reported. -/
def reported (p : ℕ × Option BundleSimulationOutcome) : Option (ℕ × BundleSimulationOutcome) :=
  p.2.map fun out => (p.1, out)

/-- Nothing that the outside has done escapes the task: what has been sent or woken
behind the part of the loop that looks for it has woken the task, and the polls of
the simulations account for everything that is in flight or has completed. -/
structure Attended [Bundle B] (profile : BuildProfile) (t : Task B) : Prop where
  reached : ∃ n cfg run, exec (Backend.step profile) (.new n cfg) run = .ok t.service
  isOpen : t.fromHandle.isOpen = true
  channel : t.phase ≠ .messages →
    t.fromHandle.messages = [] ∧ t.channelWaker = true ∨ t.woken = true
  futures : t.phase = .schedule ∨ t.phase = .idle →
    t.readyToRun = [] ∧ t.simulationsWaker = true ∨ t.woken = true
  listed : (t.readyToRun ++ t.parked).Perm (t.service.simulations.map Simulation.sim)
  parked : ∀ id ∈ t.parked, (id, none) ∈ t.polls
  polled : t.phase = .schedule ∨ t.phase = .idle →
    ∀ sim ∈ t.service.simulations, (sim.sim, none) ∈ t.polls
  processed : t.polls.filterMap reported = t.service.world.completed

theorem attended_new [Bundle B] (profile : BuildProfile) (n : U64)
    (cfg : BundleSimulatorServiceConfig) : (new n cfg : Task B).Attended profile where
  reached := ⟨n, cfg, [], rfl⟩
  isOpen := rfl
  channel := fun _ => Or.inr rfl
  futures := fun _ => Or.inr rfl
  listed := List.Perm.refl _
  parked := fun id hid => by cases hid
  polled := fun _ sim hsim => by cases hsim
  processed := rfl

variable [Bundle B] {profile : BuildProfile}

/-- Where a waker is kept, whoever takes it wakes the task. -/
theorem woken_of_waker {P : Prop} {waker woken : Bool} (h : P ∧ waker = true ∨ woken = true) :
    (woken || waker) = true := by
  rcases h with ⟨-, hwaker⟩ | hwoken
  · rw [hwaker, Bool.or_true]
  · rw [hwoken, Bool.true_or]

/-- A task that is woken once more stays woken. -/
theorem still_woken {P : Prop} {waker woken : Bool} (other : Bool)
    (h : P ∧ waker = true ∨ woken = true) : P ∧ waker = true ∨ (woken || other) = true :=
  h.imp_right fun hwoken => by rw [hwoken, Bool.true_or]

section Numbers

variable {ready parked numbers : List ℕ} {id : ℕ}

/-- A simulation is woken: it moves to those that are to be polled. -/
theorem perm_wake (h : (ready ++ parked).Perm numbers) (hid : id ∈ parked) :
    ((ready ++ [id]) ++ parked.erase id).Perm numbers := by
  rw [List.append_assoc]
  exact ((List.perm_cons_erase hid).symm.append_left ready).trans h

/-- It is polled and not ready: it moves back. -/
theorem perm_park (h : (ready ++ parked).Perm numbers) (hid : id ∈ ready) :
    (ready.erase id ++ (parked ++ [id])).Perm numbers := by
  refine List.Perm.trans ?_ h
  rw [← List.append_assoc]
  refine (List.perm_append_singleton id _).trans ?_
  exact (List.perm_cons_erase hid).symm.append_right parked

/-- It completes: it leaves both. -/
theorem perm_complete {numbers' : List ℕ} (h : (ready ++ parked).Perm numbers) (hid : id ∈ ready)
    (hnumbers : numbers.Perm (id :: numbers')) : (ready.erase id ++ parked).Perm numbers' := by
  have hcons : (id :: (ready.erase id ++ parked)).Perm (id :: numbers') :=
    ((List.perm_cons_erase hid).symm.append_right parked).trans (h.trans hnumbers)
  exact hcons.cons_inv

/-- Simulations that start are to be polled. -/
theorem perm_start (h : (ready ++ parked).Perm numbers) (started : List ℕ) :
    (ready ++ started ++ parked).Perm (numbers ++ started) := by
  rw [List.append_assoc]
  refine (List.perm_append_comm.append_left ready).trans ?_
  rw [← List.append_assoc]
  exact h.append_right _

end Numbers

theorem Attended.reached_step {t : Task B} (h : t.Attended profile) {a : Action B}
    {service : BundleSimulatorService B}
    (hstep : Backend.step profile t.service a = .ok service) :
    ∃ n cfg run, exec (Backend.step profile) (.new n cfg) run = .ok service := by
  obtain ⟨n, cfg, run, hrun⟩ := h.reached
  exact ⟨n, cfg, run ++ [a], exec_concat.mpr ⟨t.service, hrun, hstep⟩⟩

theorem Attended.processed_step {t : Task B} (h : t.Attended profile) {a : Action B}
    {service : BundleSimulatorService B}
    (hstep : Backend.step profile t.service a = .ok service) (ha : a.completion? = none) :
    t.polls.filterMap reported = service.world.completed := by
  rw [BundleSimulatorService.step_completed hstep, ha, h.processed]
  exact (List.append_nil _).symm

/-- One turn of the outside or of the loop keeps the task attended. -/
theorem Attended.step {t u : Task B} {a : TaskAction B} (h : t.Attended profile)
    (hstep : Task.step profile t a = .ok u) : u.Attended profile := by
  cases step_effect hstep with
  | sendClosed msg hopen => exact h
  | send msg hopen =>
    exact { h with
      channel := fun hphase => Or.inr (woken_of_waker (h.channel hphase))
      futures := fun hphase => still_woken _ (h.futures hphase) }
  | wakeIgnored id hid => exact h
  | wake id hid =>
    exact { h with
      channel := fun hphase => still_woken _ (h.channel hphase)
      futures := fun hphase => Or.inr (woken_of_waker (h.futures hphase))
      listed := perm_wake h.listed hid
      parked := fun x hx => h.parked x (List.mem_of_mem_erase hx) }
  | dropListener tx => exact { h with reached := h.reached_step (a := .dropListener tx) rfl }
  | poll hphase =>
    have hphase' : ¬ (Phase.messages = .schedule ∨ Phase.messages = .idle) := by decide
    exact { h with
      channel := fun hne => absurd rfl hne
      futures := fun hp => absurd hp hphase'
      polled := fun hp => absurd hp hphase' }
  | @recv msg rest hphase hmessages =>
    have hserv : Backend.step profile t.service (.message msg) = .ok (t.service.onMessage msg) :=
      rfl
    have hphase' : ¬ (t.phase = .schedule ∨ t.phase = .idle) := by rw [hphase]; decide
    have hlisted : (t.readyToRun ++ t.parked).Perm
        ((t.service.onMessage msg).simulations.map Simulation.sim) := by
      rw [BundleSimulatorService.onMessage_simulations]
      exact h.listed
    exact { h with
      reached := h.reached_step hserv
      channel := fun hne => absurd hphase hne
      listed := hlisted
      polled := fun hp => absurd hp hphase'
      processed := h.processed_step hserv rfl }
  | drained hphase hmessages =>
    have hphase' : ¬ (Phase.simulations = .schedule ∨ Phase.simulations = .idle) := by decide
    exact { h with
      channel := fun _ => Or.inl ⟨hmessages, rfl⟩
      futures := fun hp => absurd hp hphase'
      polled := fun hp => absurd hp hphase' }
  | @parks id hphase hid =>
    have hphase' : ¬ (t.phase = .schedule ∨ t.phase = .idle) := by rw [hphase]; decide
    exact { h with
      futures := fun hp => absurd hp hphase'
      listed := perm_park h.listed hid
      parked := Search.forall_mem_concat (fun x hx => List.mem_append_left _ (h.parked x hx))
        (List.mem_append_right _ (List.mem_singleton_self _))
      polled := fun hp => absurd hp hphase'
      processed := by
        rw [List.filterMap_append, h.processed]
        exact List.append_nil _ }
  | @completes id out service hphase hid hserv =>
    have hphase' : ¬ (t.phase = .schedule ∨ t.phase = .idle) := by rw [hphase]; decide
    exact { h with
      reached := h.reached_step hserv
      futures := fun hp => absurd hp hphase'
      listed := perm_complete h.listed hid (BundleSimulatorService.complete_simulations hserv)
      parked := fun x hx => List.mem_append_left _ (h.parked x hx)
      polled := fun hp => absurd hp hphase'
      processed := by
        rw [List.filterMap_append, h.processed, BundleSimulatorService.step_completed hserv]
        rfl }
  | noneReady hphase hready =>
    have hne : t.phase ≠ .messages := by rw [hphase]; decide
    exact { h with
      channel := fun _ => h.channel hne
      futures := fun _ => Or.inl ⟨hready, rfl⟩
      polled := fun _ sim hsim => by
        -- nothing is left to be polled, so every simulation is parked
        have hmem : sim.sim ∈ t.readyToRun ++ t.parked :=
          h.listed.mem_iff.mpr (List.mem_map_of_mem hsim)
        rw [hready, List.nil_append] at hmem
        exact h.parked _ hmem }
  | @returns now service hphase hpop hserv =>
    obtain ⟨-, hsims⟩ := popBestRequests_cases hpop
    have hne : t.phase ≠ .messages := by rw [hphase]; decide
    have hlisted : (t.readyToRun ++ t.parked).Perm (service.simulations.map Simulation.sim) := by
      rw [hsims]
      exact h.listed
    exact { h with
      reached := h.reached_step hserv
      channel := fun _ => h.channel hne
      futures := fun _ => h.futures (Or.inl hphase)
      listed := hlisted
      polled := fun _ sim hsim => h.polled (Or.inl hphase) sim (hsims ▸ hsim)
      processed := h.processed_step hserv rfl }
  | @starts now service req ready hphase hsims hserv =>
    have hphase' : ¬ (Phase.messages = .schedule ∨ Phase.messages = .idle) := by decide
    have hlisted : (t.readyToRun ++
        List.range' t.service.world.simulateCalls.length (req :: ready).length ++ t.parked).Perm
          (service.simulations.map Simulation.sim) := by
      rw [hsims, List.map_append, BundleSimulatorService.map_sim_simulationsFrom]
      exact perm_start h.listed _
    exact { h with
      reached := h.reached_step hserv
      channel := fun hne => absurd rfl hne
      futures := fun hp => absurd hp hphase'
      listed := hlisted
      polled := fun hp => absurd hp hphase'
      processed := h.processed_step hserv rfl }

theorem exec_attended {n : U64} {cfg : BundleSimulatorServiceConfig} {run : List (TaskAction B)}
    {t : Task B} (h : exec (Task.step profile) (new n cfg) run = .ok t) : t.Attended profile :=
  exec_invariant (fun _ _ _ ht hstep => ht.step hstep) (attended_new profile n cfg) h

/-- **No answer of the simulator is left out.**  A simulation that is to be polled may
return `Pending`, or be ready with any outcome. -/
theorem Attended.pollNext_ok {t : Task B} (h : t.Attended profile) (hphase : t.phase = .simulations)
    {id : ℕ} (hid : id ∈ t.readyToRun) (res : Option BundleSimulationOutcome) :
    ∃ u, Task.step profile t (.pollNext id res) = .ok u := by
  rw [Task.step, if_pos ⟨hphase, hid⟩]
  rcases res with _ | out
  · exact ⟨_, rfl⟩
  · obtain ⟨n, cfg, run, hrun⟩ := h.reached
    have hmem : id ∈ t.service.simulations.map Simulation.sim :=
      h.listed.mem_iff.mp (List.mem_append_left _ hid)
    obtain ⟨service, hservice⟩ :=
      (BundleSimulatorService.exec_paired hrun).complete_ok hmem out
    rw [pollSimulation, hservice]
    exact ⟨_, rfl⟩

/-! ## What a call has done to the service -/

/-- The message that a handle sends. -/
def sent? : TaskAction B → Option (BundleSimulatorMessage B)
  | .send msg => some msg
  | _ => none

/-- The outcome that a poll of a simulation reports. -/
def ready? : TaskAction B → Option (ℕ × BundleSimulationOutcome)
  | .pollNext id (some out) => some (id, out)
  | _ => none

/-- What an action of the task does to the service. -/
def action? (t : Task B) : TaskAction B → Option (Action B)
  | .dropListener tx => some (.dropListener tx)
  | .recv => t.fromHandle.messages.head?.map .message
  | .pollNext id (some out) => some (.complete id out)
  | .schedule now => some (.schedule now)
  | _ => none

/-- A step of the task is at most one step of the service.  What it takes from the
channel is processed, and what is sent is put behind. -/
structure Projects (profile : BuildProfile) (t : Task B) (a : TaskAction B) (u : Task B) :
    Prop where
  exec : Machine.exec (Backend.step profile) t.service (t.action? a).toList = .ok u.service
  messages : t.fromHandle.messages ++ (sent? a).toList =
    (t.action? a).toList.filterMap Action.message? ++ u.fromHandle.messages
  completed : (t.action? a).toList.filterMap Action.completion? = (ready? a).toList

/-- The service has gone from `t` to `u` by steps of its own, in which the messages
taken from the channel were processed in order, and so were the outcomes `outs`;
`sent` are the messages that have come in between. -/
def Applies (profile : BuildProfile) (t u : Task B) (sent : List (BundleSimulatorMessage B))
    (outs : List (ℕ × BundleSimulationOutcome)) : Prop :=
  ∃ actions, exec (Backend.step profile) t.service actions = .ok u.service ∧
    t.fromHandle.messages ++ sent = actions.filterMap Action.message? ++ u.fromHandle.messages ∧
    actions.filterMap Action.completion? = outs

theorem Applies.refl (t : Task B) : Applies profile t t [] [] :=
  ⟨[], rfl, List.append_nil _, rfl⟩

theorem Applies.trans {t u v : Task B} {sent sent' : List (BundleSimulatorMessage B)}
    {outs outs' : List (ℕ × BundleSimulationOutcome)} (h : Applies profile t u sent outs)
    (h' : Applies profile u v sent' outs') :
    Applies profile t v (sent ++ sent') (outs ++ outs') := by
  obtain ⟨actions, hexec, hmessages, houts⟩ := h
  obtain ⟨actions', hexec', hmessages', houts'⟩ := h'
  refine ⟨actions ++ actions', exec_append.mpr ⟨u.service, hexec, hexec'⟩, ?_, ?_⟩
  · rw [← List.append_assoc, hmessages, List.append_assoc, hmessages', List.filterMap_append,
      List.append_assoc]
  · rw [List.filterMap_append, houts, houts']

theorem Attended.projects {t u : Task B} {a : TaskAction B} (h : t.Attended profile)
    (hstep : Task.step profile t a = .ok u) : Projects profile t a u := by
  have hnil : ∀ c : List (BundleSimulatorMessage B), c ++ [] = c := List.append_nil
  have hsingle : ∀ {s s' : BundleSimulatorService B} {b : Action B},
      Backend.step profile s b = .ok s' → Machine.exec (Backend.step profile) s [b] = .ok s' :=
    fun hb => exec_cons.mpr ⟨_, hb, rfl⟩
  cases step_effect hstep with
  | sendClosed msg hopen =>
    rw [h.isOpen] at hopen
    cases hopen
  | send msg hopen => exact ⟨rfl, rfl, rfl⟩
  | wakeIgnored id hid => exact ⟨rfl, hnil _, rfl⟩
  | wake id hid => exact ⟨rfl, hnil _, rfl⟩
  | dropListener tx => exact ⟨rfl, hnil _, rfl⟩
  | poll hphase => exact ⟨rfl, hnil _, rfl⟩
  | @recv msg rest hphase hmessages =>
    have haction : t.action? .recv = some (.message msg) := by
      rw [action?, hmessages]
      rfl
    refine ⟨?_, ?_, ?_⟩ <;> rw [haction]
    · rfl
    · exact (hnil _).trans hmessages
    · rfl
  | drained hphase hmessages =>
    have haction : t.action? .recv = none := by
      rw [action?, hmessages]
      rfl
    refine ⟨?_, ?_, ?_⟩ <;> rw [haction]
    · rfl
    · exact hnil _
    · rfl
  | parks hphase hid => exact ⟨rfl, hnil _, rfl⟩
  | completes hphase hid hserv => exact ⟨hsingle hserv, hnil _, rfl⟩
  | noneReady hphase hready => exact ⟨rfl, hnil _, rfl⟩
  | returns hphase hpop hserv => exact ⟨hsingle hserv, hnil _, rfl⟩
  | starts hphase hsims hserv => exact ⟨hsingle hserv, hnil _, rfl⟩

theorem Attended.applies {t u : Task B} {run : List (TaskAction B)} (h : t.Attended profile)
    (hexec : exec (Task.step profile) t run = .ok u) :
    Applies profile t u (run.filterMap sent?) (run.filterMap ready?) := by
  induction run generalizing t with
  | nil =>
    cases hexec
    exact Applies.refl _
  | cons a run ih =>
    obtain ⟨v, hv, hu⟩ := exec_cons.mp hexec
    have htoList : ∀ {γ : Type} (f : TaskAction B → Option γ),
        (a :: run).filterMap f = (f a).toList ++ run.filterMap f := by
      intro γ f
      rcases hf : f a with _ | c <;> simp [hf]
    rw [htoList, htoList]
    have hprojects := h.projects hv
    have happlies : Applies profile t v (sent? a).toList (ready? a).toList :=
      ⟨_, hprojects.exec, hprojects.messages, hprojects.completed⟩
    exact happlies.trans (ih (h.step hv) hu)

/-! ## Quiescence -/

/-- Nothing is left to be done: `t` is the state in which a call of `poll` returns
that began in `t₀` and scheduled for the last time at `now`; `sent` and `outs` are
the messages that were sent and the outcomes that were reported during the call. -/
structure Quiescent (profile : BuildProfile) (now : Instant) (t₀ t : Task B)
    (sent : List (BundleSimulatorMessage B)) (outs : List (ℕ × BundleSimulationOutcome)) :
    Prop where
  /-- What the drains have seen was applied, in order. -/
  applied : Applies profile t₀ t sent outs
  /-- What they have not seen has woken the task. -/
  channel : t.fromHandle.messages = [] ∧ t.channelWaker = true ∨ t.woken = true
  /-- What is in flight has been polled, and it was not ready. -/
  polled : ∀ sim ∈ t.service.simulations,
    (sim.sim, none) ∈ t.polls ∧ ∀ out, (sim.sim, some out) ∉ t.polls
  /-- It keeps its waker, or it has used it and the task has been woken. -/
  registered : ∀ sim ∈ t.service.simulations, sim.sim ∈ t.parked ∧ t.simulationsWaker = true ∨
    t.woken = true
  /-- What was ready has been processed. -/
  processed : ∀ id out, (id, some out) ∈ t.polls → (id, out) ∈ t.service.world.completed
  /-- With capacity left, every queued request has to wait. -/
  scheduled : t.service.simulations.length < t.service.config.maxConcurrentSimulations →
    ∃ nextBlock, profile.addU64 t.service.currentBlockNumber 1 = .ok nextBlock ∧
      ∀ p, ∀ r ∈ t.service.queue p, ¬ r.Startable nextBlock now ∧ ¬ r.Outdated nextBlock now

/-- A scheduling step that starts nothing leaves nothing to start or to drop, unless
there is no capacity. -/
theorem scheduled_of_idle {s service : BundleSimulatorService B} {now : Instant}
    (h : s.popBestRequests profile now = .ok (service, []))
    (hcap : service.simulations.length < service.config.maxConcurrentSimulations) :
    ∃ nextBlock, profile.addU64 service.currentBlockNumber 1 = .ok nextBlock ∧
      ∀ p, ∀ r ∈ service.queue p, ¬ r.Startable nextBlock now ∧ ¬ r.Outdated nextBlock now := by
  have hstep : s.schedule profile now = .ok service := by
    rw [BundleSimulatorService.schedule, h]
    rfl
  rcases BundleSimulatorService.schedule_cases hstep with ⟨hfull, rfl⟩ |
    ⟨nextBlock, started, dropped, q', hfull, hadd, hb, hpop, -⟩
  · rw [BundleSimulatorService.capacity] at hfull
    omega
  · rw [h, Except.ok.injEq, Prod.mk.injEq] at hpop
    obtain ⟨rfl, rfl⟩ := hpop
    have hwait := hb.wait_of_length_lt (Nat.pos_of_ne_zero hfull)
    refine ⟨nextBlock, ?_, fun p r hr => ?_⟩
    · rw [BundleSimulatorService.currentBlockNumber, BundleSimulatorService.notifyAll_inner]
      exact hadd
    · have hmem : r ∈ q'.all := by
        have hall := (BundleSimulatorService.queue_sublist_all _ p).subset hr
        rwa [BundleSimulatorService.queues_notifyAll, BundleSimulatorService.queues_withQueues]
          at hall
      have hverdict := hwait r hmem
      refine ⟨SimulationRequest.not_startable_of_wait hverdict, fun hout => ?_⟩
      rw [SimulationRequest.verdict_eq_drop_iff.mpr hout] at hverdict
      cases hverdict

/-- **A call of `poll` returns only when nothing is left to be done.**  Whatever the
task has been through, and whatever is sent, woken, dropped and answered by the
simulator during the call. -/
theorem quiescent {n : U64} {cfg : BundleSimulatorServiceConfig}
    {before during : List (TaskAction B)} {now : Instant} {t₀ t : Task B}
    (hbefore : exec (Task.step profile) (new n cfg) before = .ok t₀)
    (hcall : exec (Task.step profile) t₀ (.poll :: during ++ [.schedule now]) = .ok t)
    (hreturns : t.phase = .idle) :
    Quiescent profile now t₀ t (during.filterMap sent?) (during.filterMap ready?) := by
  have h₀ : t₀.Attended profile := exec_attended hbefore
  have h : t.Attended profile := exec_invariant (fun _ _ _ ht hstep => ht.step hstep) h₀ hcall
  have hidle : t.phase = .schedule ∨ t.phase = .idle := Or.inr hreturns
  have hnodup : (t.service.simulations.map Simulation.sim ++
      t.service.world.completed.map Prod.fst).Nodup := by
    obtain ⟨n, cfg, run, hrun⟩ := h.reached
    exact BundleSimulatorService.exec_numbers_nodup hrun
  have hprocessed : ∀ id out, (id, some out) ∈ t.polls → (id, out) ∈ t.service.world.completed := by
    intro id out hpoll
    rw [← h.processed]
    exact List.mem_filterMap.mpr ⟨(id, some out), hpoll, rfl⟩
  refine
    { applied := ?_
      channel := h.channel (by rw [hreturns]; decide)
      polled := fun sim hsim => ⟨h.polled hidle sim hsim, fun out hpoll => ?_⟩
      registered := fun sim hsim => ?_
      processed := hprocessed
      scheduled := fun hcap => ?_ }
  · have happlies := h₀.applies hcall
    simpa only [List.filterMap_append, List.filterMap_cons, List.filterMap_nil, List.cons_append,
      List.append_nil, sent?, ready?] using happlies
  · -- a completed simulation is not in flight
    have hcompleted : sim.sim ∈ t.service.world.completed.map Prod.fst :=
      List.mem_map_of_mem (hprocessed _ out hpoll)
    exact (List.nodup_append.mp hnodup).2.2 _ (List.mem_map_of_mem hsim) _ hcompleted rfl
  · rcases h.futures hidle with ⟨hready, hwaker⟩ | hwoken
    · have hmem : sim.sim ∈ t.readyToRun ++ t.parked :=
        h.listed.mem_iff.mpr (List.mem_map_of_mem hsim)
      rw [hready, List.nil_append] at hmem
      exact Or.inl ⟨hmem, hwaker⟩
    · exact Or.inr hwoken
  · obtain ⟨u, -, hlast⟩ := exec_concat.mp hcall
    cases step_effect hlast with
    | returns hphase hpop hserv => exact scheduled_of_idle hpop hcap
    | starts hphase hsims hserv => cases hreturns

/-- A request is queued before the first call of `poll`. -/
def queuedRun : List (TaskAction SendBundleRequest) :=
  [.send (.addSimulation (BundleSimulatorService.normalRequest 5 none) 0)]

/-- It is started, reported to be rescheduled as soon as it is polled, and started
again; the block number is updated in the meantime. -/
def retryingCall : List (TaskAction SendBundleRequest) :=
  [.recv, .recv, .pollNextPending, .schedule 0,
    .recv, .pollNext 0 (some (.reschedule ⟨"timeout"⟩)), .pollNextPending, .schedule 1,
    .send (.updateBlockNumber 8), .recv, .recv, .pollNext 1 none, .pollNextPending]

theorem quiescent_retryingCall :
    ∃ t₀ t : Task SendBundleRequest,
      exec (Task.step ⟨true⟩) (new 7 BundleSimulatorService.tightConfig) queuedRun = .ok t₀ ∧
      exec (Task.step ⟨true⟩) t₀ (.poll :: retryingCall ++ [.schedule 2]) = .ok t ∧
      t.phase = .idle ∧
      Quiescent ⟨true⟩ 2 t₀ t (retryingCall.filterMap sent?) (retryingCall.filterMap ready?) := by
  obtain ⟨t₀, h₀⟩ : ∃ t₀, exec (Task.step ⟨true⟩) (new 7 BundleSimulatorService.tightConfig)
      queuedRun = .ok t₀ := ⟨_, rfl⟩
  obtain ⟨t, ht, hidle⟩ : ∃ t, exec (Task.step ⟨true⟩) (new 7 BundleSimulatorService.tightConfig)
      (queuedRun ++ (.poll :: retryingCall ++ [.schedule 2])) = .ok t ∧ t.phase = .idle :=
    ⟨_, rfl, rfl⟩
  obtain ⟨t₀', h₀', hcall⟩ := exec_append.mp ht
  rw [h₀] at h₀'
  cases h₀'
  exact ⟨t₀, t, h₀, hcall, hidle, quiescent h₀ hcall hidle⟩

end Task
end Backend
end MevShare
