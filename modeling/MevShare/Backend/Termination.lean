import MevShare.Backend.Allowance
import MevShare.Backend.Poll
import MevShare.Backend.Retries

/-!
# A call of `poll` comes to an end

## The measure

Every call of the simulator is paid from the allowance of the requests
(`Backend.Allowance`).  One turn of the task need not start anything: it receives a
message, polls a simulation, or moves on to the next part of the loop.  `Task.work`
counts these too, and every turn makes it smaller (`Task.Within.step`).  What the
handles, the simulator and the clients do in the meantime adds to it a bounded amount
each time.

## The call

`Task.poll` runs the loops, for a given sequence of choices: which of the simulations
to be polled is polled next, what its future says, what the clock says, and what
happens outside before the turn.  The loops have fuel, and more of it than there is
work is enough.  So a call whose environment does finitely many things returns
(`poll_terminates`).
-/

namespace MevShare
namespace Backend

open Rpc Rust Draw Machine Relation

variable {B : Type} {cfg : BundleSimulatorServiceConfig}

namespace BundleSimulatorService

/-- The simulator is called only where requests are scheduled, and as often as there
are simulations more. -/
theorem schedule_calls [Bundle B] {profile : BuildProfile} {s t : BundleSimulatorService B}
    {now : Instant} {ready : List (SimulationRequest B)}
    (h : step profile s (.schedule now) = .ok t)
    (hsims : t.simulations =
      s.simulations ++ simulationsFrom s.world.simulateCalls.length ready) :
    t.ledger.calls.length = s.ledger.calls.length + ready.length := by
  have hlen := congrArg (fun sims => (sims.map Simulation.sim).length) hsims
  simp only [List.map_append, List.length_append, map_sim_simulationsFrom, List.length_map,
    List.length_range'] at hlen
  cases step_effect h with
  | full now hcap =>
    have hready : ready.length = 0 := by omega
    rw [hready, Nat.add_zero]
  | @batch _ nextBlock started dropped q' hcap hadd hb =>
    have hstarted := congrArg (fun sims => (sims.map Simulation.sim).length)
      (afterBatch_simulations s nextBlock started dropped q')
    simp only [List.map_append, List.length_append, map_sim_simulationsFrom, List.length_map,
      List.length_range'] at hstarted
    obtain ⟨delivered, hworld⟩ := afterBatch_world s nextBlock started dropped q'
    show (s.afterBatch nextBlock started dropped q').world.simulateCalls.length =
      s.world.simulateCalls.length + ready.length
    rw [hworld, List.length_append, List.length_map]
    omega

end BundleSimulatorService

/-! ## The work of a task -/

/-- What is left of an iteration of the loop of `poll`. -/
def Phase.weight : Phase → ℕ
  | .messages => 3
  | .simulations => 2
  | .schedule => 1
  | .idle => 0

namespace TaskAction

/-- A turn of the call of `poll` itself. -/
def isTurn : TaskAction B → Bool
  | .recv | .pollNext _ _ | .pollNextPending | .schedule _ => true
  | .send _ | .wake _ | .dropListener _ | .poll => false

/-- Something that a handle, the simulator or a client does. -/
def isOutside : TaskAction B → Bool
  | .send _ | .wake _ | .dropListener _ => true
  | .recv | .pollNext _ _ | .pollNextPending | .schedule _ | .poll => false

/-- The requests that an action sends to the service. -/
def submitted : TaskAction B → List (SimulationRequest B)
  | .send msg => (Action.message msg).submitted
  | _ => []

/-- How much an action adds to the work of the task. -/
def load (cfg : BundleSimulatorServiceConfig) : TaskAction B → ℕ
  | .send msg => 4 * cfg.budgets (Action.message msg).submitted + 1
  | .wake _ => 1
  | .poll => 3
  | _ => 0

end TaskAction

namespace Task

/-- The requests in the messages that have not been received. -/
def incoming (t : Task B) : List (SimulationRequest B) :=
  t.fromHandle.messages.flatMap fun msg => (Action.message msg).submitted

/-- How many turns the task can take.  A start is counted four times: it makes one
more simulation to poll, and it may take the loop back to its beginning. -/
def work (cfg : BundleSimulatorServiceConfig) (t : Task B) : ℕ :=
  4 * (t.service.ledger.allowance cfg + cfg.budgets t.incoming) +
    t.fromHandle.messages.length + t.readyToRun.length + t.phase.weight

/-- No retry count that the task knows of exceeds the maximum. -/
structure Within (cfg : BundleSimulatorServiceConfig) (t : Task B) : Prop where
  config : t.service.config = cfg
  ledger : t.service.ledger.WithinRetries cfg
  retries : ∀ r ∈ t.incoming, r.retries ≤ cfg.maxRetries

theorem within_new (n : U64) (cfg : BundleSimulatorServiceConfig) :
    (new n cfg : Task B).Within cfg where
  config := rfl
  ledger := by
    rw [new, BundleSimulatorService.ledger_new]
    exact Ledger.WithinRetries.empty
  retries := fun r hr => absurd hr List.not_mem_nil

variable [Bundle B] {profile : BuildProfile} {t u : Task B} {a : TaskAction B}

/-- A step of the service keeps the retry counts, and its allowance grows by no more
than what is submitted. -/
theorem Within.service_step (h : t.Within cfg) {b : Action B} {service : BundleSimulatorService B}
    (hb : ∀ r ∈ b.submitted, r.retries ≤ cfg.maxRetries)
    (hstep : Backend.step profile t.service b = .ok service) :
    service.config = cfg ∧ service.ledger.WithinRetries cfg ∧
      service.ledger.allowance cfg ≤
        t.service.ledger.allowance cfg + cfg.budgets b.submitted :=
  ⟨(BundleSimulatorService.step_config hstep).trans h.config,
    (BundleSimulatorService.step_calls_le h.config h.ledger hb hstep).1,
    BundleSimulatorService.step_allowance_le h.config h.ledger hb hstep⟩

/-- Where nothing is submitted, the calls are paid from the allowance alone. -/
theorem Within.quiet_step (h : t.Within cfg) {b : Action B} {service : BundleSimulatorService B}
    (hb : b.submitted = []) (hstep : Backend.step profile t.service b = .ok service) :
    service.config = cfg ∧ service.ledger.WithinRetries cfg ∧
      service.ledger.allowance cfg ≤ t.service.ledger.allowance cfg ∧
      service.ledger.calls.length + service.ledger.allowance cfg ≤
        t.service.ledger.calls.length + t.service.ledger.allowance cfg := by
  have hnone : ∀ r ∈ b.submitted, r.retries ≤ cfg.maxRetries := by
    rw [hb]
    exact fun r hr => absurd hr List.not_mem_nil
  obtain ⟨hconfig, hledger, hle⟩ := h.service_step hnone hstep
  have hcalls := (BundleSimulatorService.step_calls_le h.config h.ledger hnone hstep).2
  rw [hb, budgets_nil] at hle hcalls
  exact ⟨hconfig, hledger, hle, hcalls⟩

/-- **Every turn does some of the work**, and the outside adds no more than its
load. -/
theorem Within.step (h : t.Within cfg) (ha : ∀ r ∈ a.submitted, r.retries ≤ cfg.maxRetries)
    (hstep : Task.step profile t a = .ok u) :
    u.Within cfg ∧ u.work cfg + a.isTurn.toNat ≤ t.work cfg + a.load cfg := by
  cases step_effect hstep with
  | sendClosed msg hopen => exact ⟨h, Nat.le_add_right _ _⟩
  | send msg hopen =>
    refine ⟨⟨h.config, h.ledger, fun r hr => ?_⟩, ?_⟩
    · simp only [incoming, List.flatMap_append, List.flatMap_cons, List.flatMap_nil,
        List.append_nil] at hr
      exact (List.mem_append.mp hr).elim (h.retries r) (ha r)
    · simp only [work, incoming, List.flatMap_append, List.flatMap_cons, List.flatMap_nil,
        List.append_nil, budgets_append, List.length_append, List.length_singleton,
        TaskAction.isTurn, TaskAction.load, Bool.toNat_false]
      omega
  | wakeIgnored id hid => exact ⟨h, Nat.le_add_right _ _⟩
  | wake id hid =>
    refine ⟨⟨h.config, h.ledger, h.retries⟩, ?_⟩
    simp only [work, incoming, List.length_append, List.length_singleton, TaskAction.isTurn,
      TaskAction.load, Bool.toNat_false]
    omega
  | dropListener tx => exact ⟨⟨h.config, h.ledger, h.retries⟩, Nat.le_refl _⟩
  | poll hphase =>
    refine ⟨⟨h.config, h.ledger, h.retries⟩, ?_⟩
    simp only [work, incoming, hphase, Phase.weight, TaskAction.isTurn, TaskAction.load,
      Bool.toNat_false]
    omega
  | @recv msg rest hphase hmessages =>
    have hin : t.incoming = (Action.message msg).submitted ++
        rest.flatMap fun msg => (Action.message msg).submitted := by
      rw [incoming, hmessages, List.flatMap_cons]
    have hretries := h.retries
    rw [hin] at hretries
    have hserv : Backend.step profile t.service (.message msg) = .ok (t.service.onMessage msg) :=
      rfl
    obtain ⟨hconfig, hledger, hle⟩ := h.service_step
      (fun r hr => hretries r (List.mem_append_left _ hr)) hserv
    refine ⟨⟨hconfig, hledger, fun r hr => hretries r (List.mem_append_right _ hr)⟩, ?_⟩
    rw [work, work, hin, hmessages, budgets_append]
    simp only [incoming, List.length_cons, TaskAction.isTurn, TaskAction.load, Bool.toNat_true]
    omega
  | drained hphase hmessages =>
    refine ⟨⟨h.config, h.ledger, h.retries⟩, ?_⟩
    simp only [work, incoming, hphase, Phase.weight, TaskAction.isTurn, TaskAction.load,
      Bool.toNat_true]
    omega
  | @parks id hphase hid =>
    refine ⟨⟨h.config, h.ledger, h.retries⟩, ?_⟩
    have hlen := List.length_erase_of_mem hid
    have hpos := List.length_pos_of_mem hid
    simp only [work, incoming, hlen, TaskAction.isTurn, TaskAction.load, Bool.toNat_true]
    omega
  | @completes id out service hphase hid hserv =>
    obtain ⟨hconfig, hledger, hle, -⟩ := h.quiet_step rfl hserv
    refine ⟨⟨hconfig, hledger, h.retries⟩, ?_⟩
    have hlen := List.length_erase_of_mem hid
    have hpos := List.length_pos_of_mem hid
    simp only [work, incoming, hlen, TaskAction.isTurn, TaskAction.load, Bool.toNat_true]
    omega
  | noneReady hphase hready =>
    refine ⟨⟨h.config, h.ledger, h.retries⟩, ?_⟩
    simp only [work, incoming, hphase, Phase.weight, TaskAction.isTurn, TaskAction.load,
      Bool.toNat_true]
    omega
  | @returns now service hphase hpop hserv =>
    obtain ⟨hconfig, hledger, hle, -⟩ := h.quiet_step rfl hserv
    refine ⟨⟨hconfig, hledger, h.retries⟩, ?_⟩
    simp only [work, incoming, hphase, Phase.weight, TaskAction.isTurn, TaskAction.load,
      Bool.toNat_true]
    omega
  | @starts now service req ready hphase hsims hserv =>
    obtain ⟨hconfig, hledger, -, hle⟩ := h.quiet_step rfl hserv
    have hcalls := BundleSimulatorService.schedule_calls hserv hsims
    refine ⟨⟨hconfig, hledger, h.retries⟩, ?_⟩
    simp only [work, incoming, hphase, Phase.weight, List.length_append, List.length_range',
      List.length_cons, TaskAction.isTurn, TaskAction.load, Bool.toNat_true] at hcalls ⊢
    omega

/-! ## The calls of a stretch of a run -/

/-- From `t` to `u` the simulator was called no more often than the requests allow that
were queued or in flight in `t`, or have been admitted since. -/
def StartsWithin (cfg : BundleSimulatorServiceConfig) (t u : Task B) : Prop :=
  ∃ admitted, u.service.ledger.accepted = t.service.ledger.accepted ++ admitted ∧
    u.service.world.simulateCalls.length ≤ t.service.world.simulateCalls.length +
      cfg.budgets (t.service.ledger.queued ++ t.service.ledger.inFlight.map Prod.fst ++ admitted)

omit [Bundle B] in
theorem allowance_le (cfg : BundleSimulatorServiceConfig) (l : Ledger B) :
    l.allowance cfg ≤ cfg.budgets (l.queued ++ l.inFlight.map Prod.fst) := by
  have hspent : ∀ fs : List (SimulationRequest B × ℕ),
      (fs.map (Ledger.spent cfg)).sum ≤ cfg.budgets (fs.map Prod.fst) := by
    intro fs
    induction fs with
    | nil => exact Nat.le_refl _
    | cons f fs ih =>
      have hle : Ledger.spent cfg f ≤ cfg.budget f.1 := Nat.sub_le _ _
      rw [List.map_cons, List.map_cons, List.sum_cons, budgets_cons]
      omega
  have hflight := hspent l.inFlight
  rw [Ledger.allowance, budgets_append]
  omega

theorem startsWithin {run : List (TaskAction B)} (hatt : t.Attended profile) (h : t.Within cfg)
    (hu : u.Within cfg) (hexec : exec (Task.step profile) t run = .ok u) :
    StartsWithin cfg t u := by
  obtain ⟨actions, hactions, -, -⟩ := hatt.applies hexec
  obtain ⟨-, hmoves⟩ := BundleSimulatorService.exec_moves h.config hactions
  obtain ⟨-, hle⟩ := Ledger.calls_le_of_moves h.ledger hmoves hu.ledger.accepted
  obtain ⟨admitted, hadmitted⟩ := (Ledger.exec_grows hactions).accepted
  have hallowance := allowance_le cfg t.service.ledger
  refine ⟨admitted, hadmitted.symm, ?_⟩
  show u.service.ledger.calls.length ≤ t.service.ledger.calls.length + _
  rw [← hadmitted, budgets_append] at hle
  rw [budgets_append]
  omega

/-! ## The call of `poll` -/

end Task

/-- What is decided outside before and in one turn of a call of `poll`. -/
structure Choice (B : Type) where
  /-- What the handles, the simulator and the clients do before the turn. -/
  arrivals : List (TaskAction B)
  /-- Which of the simulations that are to be polled is polled. -/
  simulation : ℕ
  /-- What its future says. -/
  answer : Option BundleSimulationOutcome
  now : Instant

namespace Task

/-- The next turn of the call, or `none` where it has returned. -/
def turn (t : Task B) (c : Choice B) : Option (TaskAction B) :=
  match t.phase with
  | .messages => some .recv
  | .simulations =>
      match t.readyToRun[c.simulation % t.readyToRun.length]? with
      | some id => some (.pollNext id c.answer)
      | none => some .pollNextPending
  | .schedule => some (.schedule c.now)
  | .idle => none

/-- The loops of `poll`, with the number of the turn. -/
def pollLoop [Bundle B] (profile : BuildProfile) (choices : ℕ → Choice B) :
    ℕ → ℕ → Task B → Except Halt (Task B)
  | 0, _, _ => .error .outOfFuel
  | fuel + 1, k, t =>
      match exec (step profile) t (choices k).arrivals with
      | .error e => .error e
      | .ok t =>
          match t.turn (choices k) with
          | none => .ok t
          | some a =>
              match step profile t a with
              | .error e => .error e
              | .ok t => pollLoop profile choices fuel (k + 1) t

/-- A call of `poll`. -/
def poll [Bundle B] (profile : BuildProfile) (choices : ℕ → Choice B) (fuel : ℕ) (t : Task B) :
    Except Halt (Task B) :=
  match step profile t .poll with
  | .error e => .error e
  | .ok t => pollLoop profile choices fuel 0 t

variable [Bundle B] {profile : BuildProfile} {t u : Task B} {a : TaskAction B}

/-- **Every turn is possible**, whatever the choices, unless the next block number
overflows. -/
theorem turn_step (h : t.Attended profile) {c : Choice B} (ha : t.turn c = some a) :
    (∃ u, Task.step profile t a = .ok u) ∨ profile.overflowChecks = true ∧
      Task.step profile t a = .error (.panicked "attempt to add with overflow") := by
  rw [turn] at ha
  rcases hphase : t.phase with _ | _ | _ | _ <;> rw [hphase] at ha
  · cases ha
  · obtain rfl := Option.some.inj ha
    rw [Task.step, if_pos hphase]
    rcases t.fromHandle.messages with _ | ⟨msg, rest⟩
    · exact Or.inl ⟨_, rfl⟩
    · exact Or.inl ⟨_, rfl⟩
  · rcases hid : t.readyToRun[c.simulation % t.readyToRun.length]? with _ | id <;>
      simp only [hid] at ha
    · obtain rfl := Option.some.inj ha
      have hready : t.readyToRun = [] := by
        by_contra hne
        have hlt := Nat.mod_lt c.simulation (List.length_pos_iff.mpr hne)
        rw [List.getElem?_eq_getElem hlt] at hid
        cases hid
      rw [Task.step, if_pos ⟨hphase, hready⟩]
      exact Or.inl ⟨_, rfl⟩
    · obtain rfl := Option.some.inj ha
      exact Or.inl (h.pollNext_ok hphase (List.mem_of_getElem? hid) c.answer)
  · obtain rfl := Option.some.inj ha
    rw [Task.step, if_pos hphase, schedule]
    rcases t.service.popBestRequests_total profile c.now with ⟨service, ready, hpop⟩ |
      ⟨-, hchecks, -, hpop⟩
    · rw [hpop]
      exact Or.inl ⟨_, rfl⟩
    · rw [hpop]
      exact Or.inr ⟨hchecks, rfl⟩

omit [Bundle B] in
theorem isTurn_of_turn (cfg : BundleSimulatorServiceConfig) {c : Choice B}
    (ha : t.turn c = some a) : a.isTurn = true ∧ a.submitted = [] ∧ a.load cfg = 0 := by
  rw [turn] at ha
  rcases hphase : t.phase with _ | _ | _ | _ <;> rw [hphase] at ha
  · cases ha
  · obtain rfl := Option.some.inj ha
    exact ⟨rfl, rfl, rfl⟩
  · rcases hid : t.readyToRun[c.simulation % t.readyToRun.length]? with _ | id <;>
      simp only [hid] at ha <;> obtain rfl := Option.some.inj ha <;> exact ⟨rfl, rfl, rfl⟩
  · obtain rfl := Option.some.inj ha
    exact ⟨rfl, rfl, rfl⟩

omit [Bundle B] in
theorem idle_of_turn {c : Choice B} (ha : t.turn c = none) : t.phase = .idle := by
  rw [turn] at ha
  rcases hphase : t.phase with _ | _ | _ | _ <;> rw [hphase] at ha
  · cases ha
  · rcases hid : t.readyToRun[c.simulation % t.readyToRun.length]? with _ | id <;>
      simp only [hid] at ha <;> cases ha
  · cases ha

/-! ## The call returns -/

end Task

/-- The action, if it sends a message, sends one that a handle has built. -/
def TaskAction.FromHandle (a : TaskAction B) : Prop :=
  ∀ msg, a = .send msg → (Action.message msg).FromHandle

/-- What a handle submits has all its retries left. -/
theorem TaskAction.FromHandle.retries {a : TaskAction B} (h : a.FromHandle) :
    ∀ r ∈ a.submitted, r.retries ≤ cfg.maxRetries := by
  intro r hr
  rcases a with (_ | num | ⟨r', tx⟩ | tx) | _ | _ | _ | _ | _ | _ | _ <;>
    simp only [submitted, Action.submitted, Action.submission, Option.toList_none, List.map_nil,
      List.not_mem_nil, Option.toList_some, List.map_cons, List.mem_singleton] at hr
  obtain ⟨request, overrides, priority, hbuilt⟩ := h _ rfl r' tx rfl
  rw [hr, hbuilt]
  exact Nat.zero_le _

namespace Task

/-- What the outside adds to the work in `n` turns from the `k`-th on. -/
def arriving (cfg : BundleSimulatorServiceConfig) (choices : ℕ → Choice B) : ℕ → ℕ → ℕ
  | 0, _ => 0
  | n + 1, k =>
      ((choices k).arrivals.map (TaskAction.load cfg)).sum + arriving cfg choices n (k + 1)

variable [Bundle B] {profile : BuildProfile} {t u : Task B} {run : List (TaskAction B)}

/-- Work is done in the turns of a run and added by the rest of it. -/
theorem Within.exec (h : t.Within cfg) (hrun : ∀ a ∈ run, a.FromHandle)
    (hexec : Machine.exec (Task.step profile) t run = .ok u) :
    u.Within cfg ∧ u.work cfg + (run.map fun a => a.isTurn.toNat).sum ≤
      t.work cfg + (run.map (TaskAction.load cfg)).sum :=
  exec_amortized (fun _ _ _ hs ha hstep => hs.step ha.retries hstep) h hrun hexec

/-- What the outside does is possible in every state. -/
theorem arrivals_step (profile : BuildProfile) (t : Task B) (a : TaskAction B)
    (ha : a.isOutside = true) : ∃ u, Task.step profile t a = .ok u := by
  rcases a with msg | id | tx | _ | _ | _ | _ | _
  · rw [Task.step]
    rcases t.fromHandle.send msg with _ | channel
    · exact ⟨_, rfl⟩
    · exact ⟨_, rfl⟩
  · rw [Task.step]
    by_cases hid : id ∈ t.parked
    · rw [if_pos hid]
      exact ⟨_, rfl⟩
    · rw [if_neg hid]
      exact ⟨_, rfl⟩
  · exact ⟨_, rfl⟩
  all_goals cases ha

/-- The choices are fair: the outside does only what it can do, and it falls silent. -/
structure Fair (choices : ℕ → Choice B) (n k : ℕ) : Prop where
  outside : ∀ j, ∀ a ∈ (choices j).arrivals, a.isOutside = true
  fromHandle : ∀ j, ∀ a ∈ (choices j).arrivals, a.FromHandle
  silent : ∀ j, k + n ≤ j → (choices j).arrivals = []

omit [Bundle B] in
theorem Fair.next {choices : ℕ → Choice B} {n k : ℕ} (h : Fair choices n k)
    (cfg : BundleSimulatorServiceConfig) :
    ∃ m, Fair choices m (k + 1) ∧
      ((choices k).arrivals.map (TaskAction.load cfg)).sum + arriving cfg choices m (k + 1) =
        arriving cfg choices n k := by
  rcases n with _ | n
  · refine ⟨0, ⟨h.outside, h.fromHandle, fun j hj => h.silent j (by omega)⟩, ?_⟩
    rw [h.silent k (Nat.le_refl _)]
    rfl
  · exact ⟨n, ⟨h.outside, h.fromHandle, fun j hj => h.silent j (by omega)⟩, rfl⟩

/-- **The loops return.**  With more fuel than there is work, now or to arrive, they
do not run out of it. -/
theorem pollLoop_returns {choices : ℕ → Choice B} (fuel n k : ℕ) (hfair : Fair choices n k)
    (hatt : t.Attended profile) (h : t.Within cfg)
    (hfuel : t.work cfg + arriving cfg choices n k < fuel) :
    (∃ u run, pollLoop profile choices fuel k t = .ok u ∧ u.phase = .idle ∧ u.Within cfg ∧
        Machine.exec (Task.step profile) t run = .ok u) ∨
      profile.overflowChecks = true ∧ pollLoop profile choices fuel k t =
        .error (.panicked "attempt to add with overflow") := by
  induction fuel generalizing t n k with
  | zero => omega
  | succ fuel ih =>
    obtain ⟨v, hv⟩ := exec_total (arrivals_step profile) (hfair.outside k) t
    have hattv : v.Attended profile := exec_invariant (fun _ _ _ ht hstep => ht.step hstep) hatt hv
    obtain ⟨hwithin, hwork⟩ := h.exec (hfair.fromHandle k) hv
    rw [pollLoop, hv]
    rcases hturn : v.turn (choices k) with _ | a
    · simp only [hturn]
      exact Or.inl ⟨v, _, rfl, idle_of_turn hturn, hwithin, hv⟩
    · obtain ⟨hisTurn, hsubmitted, hload⟩ := isTurn_of_turn cfg hturn
      simp only [hturn]
      rcases turn_step hattv hturn with ⟨w, hw⟩ | ⟨hchecks, hpanic⟩
      · -- the turn has done some of the work, so the fuel is enough for what is left
        have hnone : ∀ r ∈ a.submitted, r.retries ≤ cfg.maxRetries := by
          rw [hsubmitted]
          exact fun r hr => absurd hr List.not_mem_nil
        obtain ⟨hwithin', hless⟩ := hwithin.step hnone hw
        rw [hisTurn, hload, Bool.toNat_true] at hless
        obtain ⟨m, hfair', harriving⟩ := hfair.next cfg
        have hfuel' : w.work cfg + arriving cfg choices m (k + 1) < fuel := by omega
        rw [hw]
        rcases ih m (k + 1) hfair' (hattv.step hw) hwithin' hfuel' with
          ⟨u, run, hloop, hidle, hu, hrun⟩ | hpanic
        · refine Or.inl ⟨u, (choices k).arrivals ++ a :: run, hloop, hidle, hu, ?_⟩
          exact exec_append.mpr ⟨v, hv, exec_cons.mpr ⟨w, hw, hrun⟩⟩
        · exact Or.inr hpanic
      · rw [hpanic]
        exact Or.inr ⟨hchecks, rfl⟩

/-- **`poll` terminates.**  In every reachable state, if the handles, the simulator and
the clients do finitely many things during the call, the call returns, whatever the
futures of the simulator answer: after some number of turns more fuel makes no
difference, and the only other end is the overflow of the block number.  At every
moment of the call, the simulator has been called no more often than the retries of the
requests allow that were queued or in flight when it began or have been admitted since.

The retry counter is a natural number, as the `usize` of the source is where
`max_retries < usize::MAX`. -/
theorem poll_terminates {n : U64} {cfg : BundleSimulatorServiceConfig}
    {before : List (TaskAction B)} {t₀ : Task B}
    (hbefore : Machine.exec (Task.step profile) (new n cfg) before = .ok t₀)
    (hhandle : ∀ a ∈ before, a.FromHandle) (hidle : t₀.phase = .idle)
    {choices : ℕ → Choice B} {turns : ℕ} (hfair : Fair choices turns 0) :
    (∃ bound, ∀ fuel, bound < fuel →
      (∃ t, t₀.poll profile choices fuel = .ok t ∧ t.phase = .idle ∧ StartsWithin cfg t₀ t) ∨
        profile.overflowChecks = true ∧ t₀.poll profile choices fuel =
          .error (.panicked "attempt to add with overflow")) ∧
      ∀ during t, (∀ a ∈ during, a.FromHandle) →
        Machine.exec (Task.step profile) t₀ (.poll :: during) = .ok t → StartsWithin cfg t₀ t := by
  have hatt : t₀.Attended profile := exec_attended hbefore
  have hwithin : t₀.Within cfg := ((within_new n cfg).exec hhandle hbefore).1
  have hpoll : ∀ a : TaskAction B, a = .poll → a.FromHandle := by
    rintro a rfl msg hmsg
    cases hmsg
  obtain ⟨t₁, ht₁⟩ : ∃ t₁, Task.step profile t₀ .poll = .ok t₁ := by
    rw [Task.step, if_pos hidle]
    exact ⟨_, rfl⟩
  have hwithin₁ : t₁.Within cfg := (hwithin.step (hpoll _ rfl).retries ht₁).1
  refine ⟨⟨t₁.work cfg + arriving cfg choices turns 0, fun fuel hfuel => ?_⟩,
    fun during t hduring hexec => ?_⟩
  · rw [poll, ht₁]
    rcases pollLoop_returns fuel turns 0 hfair (hatt.step ht₁) hwithin₁ hfuel with
      ⟨t, run, hloop, ht, hu, hrun⟩ | hpanic
    · exact Or.inl ⟨t, hloop, ht,
        startsWithin hatt hwithin hu (exec_cons.mpr ⟨t₁, ht₁, hrun⟩)⟩
    · exact Or.inr hpanic
  · refine startsWithin hatt hwithin (hwithin.exec ?_ hexec).1 hexec
    intro a ha
    rcases List.mem_cons.mp ha with ha | ha
    · exact hpoll a ha
    · exact hduring a ha

/-- Every simulation asks to be rescheduled as soon as it is polled. -/
def alwaysReschedule (k : ℕ) : Choice SendBundleRequest where
  arrivals := []
  simulation := 0
  answer := some (.reschedule ⟨"timeout"⟩)
  now := k

theorem poll_terminates_queuedRun :
    ∃ t₀ : Task SendBundleRequest,
      Machine.exec (Task.step ⟨true⟩) (new 7 BundleSimulatorService.tightConfig) queuedRun =
        .ok t₀ ∧
      ∃ bound, ∀ fuel, bound < fuel →
        (∃ t, t₀.poll ⟨true⟩ alwaysReschedule fuel = .ok t ∧ t.phase = .idle ∧
          StartsWithin BundleSimulatorService.tightConfig t₀ t) ∨
        t₀.poll ⟨true⟩ alwaysReschedule fuel =
          .error (.panicked "attempt to add with overflow") := by
  obtain ⟨t₀, h₀, hidle⟩ : ∃ t₀, Machine.exec (Task.step ⟨true⟩)
      (new 7 BundleSimulatorService.tightConfig) queuedRun = .ok t₀ ∧ t₀.phase = .idle :=
    ⟨_, rfl, rfl⟩
  have hhandle : ∀ a ∈ queuedRun, a.FromHandle := by
    intro a ha msg hmsg r tx hsub
    obtain rfl := List.mem_singleton.mp ha
    cases hmsg
    cases hsub
    exact ⟨_, _, _, rfl⟩
  have hfair : Fair alwaysReschedule 0 0 :=
    ⟨fun j a ha => absurd ha List.not_mem_nil, fun j a ha => absurd ha List.not_mem_nil,
      fun j _ => rfl⟩
  obtain ⟨⟨bound, hbound⟩, -⟩ := poll_terminates h₀ hhandle hidle hfair
  exact ⟨t₀, h₀, bound, fun fuel hfuel => (hbound fuel hfuel).imp_right fun h => h.2⟩

end Task
end Backend
end MevShare
