import MevShare.Backend.Allowance
import MevShare.Backend.Poll
import MevShare.Backend.Retries

/-!
# Panics of the scheduler

The service adds to the block number and to retry counts, subtracts from a position,
removes at a position, and takes the request out of a completed simulation.  Each of
these can panic.  `checkedStep` is the step of the service in which none of them is
left to a wrapping or a truncated operation.

* The removals are never out of range, the subtraction is guarded by the comparison it
  follows (`checkedRemoveQueued_eq`), and a simulation is polled once only.
* A retry count stays below the maximum (`Ledger.WithinRetries`), which is a `usize`.
  So adding one to it overflows only if the maximum is `usize::MAX`.
* The block number is whatever a handle has said.  With `u64::MAX` the next block
  number overflows as soon as there is capacity for a simulation.

`panicFree_iff` says of every run that the last two are all that can go wrong.
-/

namespace MevShare
namespace Backend

open Rpc Rust Machine

variable {B : Type} {cfg : BundleSimulatorServiceConfig}

namespace BundleSimulatorService

/-! ## The checked operations -/

/-- `removeQueued`, with `pos -= self.high_priority_queue.len()` checked. -/
def checkedRemoveQueued (s : BundleSimulatorService B) (pos : ℕ) :
    Except Halt (SimulationRequest B × BundleSimulatorService B) :=
  if pos < s.highPriorityQueue.length then
    match Search.removeAt s.highPriorityQueue pos with
    | some (item, rest) => .ok (item, { s with highPriorityQueue := rest })
    | none => .error (.panicked "removal index should be < len")
  else
    match checkedSub pos s.highPriorityQueue.length with
    | .error e => .error e
    | .ok pos =>
        match Search.removeAt s.normalPriorityQueue pos with
        | some (item, rest) => .ok (item, { s with normalPriorityQueue := rest })
        | none => .error (.panicked "removal index should be < len")

/-- The subtraction never overflows. -/
theorem checkedRemoveQueued_eq (s : BundleSimulatorService B) (pos : ℕ) :
    s.checkedRemoveQueued pos = s.removeQueued pos := by
  unfold checkedRemoveQueued removeQueued
  by_cases hpos : pos < s.highPriorityQueue.length
  · rcases Search.removeAt s.highPriorityQueue pos with _ | ⟨item, rest⟩ <;>
      simp only [if_pos hpos]
  · have hsub : checkedSub pos s.highPriorityQueue.length =
        .ok (pos - s.highPriorityQueue.length) := if_pos (Nat.not_lt.mp hpos)
    rcases hremove : Search.removeAt s.normalPriorityQueue (pos - s.highPriorityQueue.length) with
      _ | ⟨item, rest⟩ <;> simp only [if_neg hpos, hsub, hremove]

/-- `on_simulation_outcome`, with `sim.retries += 1` checked, for a `usize` with `size`
values. -/
def checkedOnSimulationOutcome (size : ℕ) (s : BundleSimulatorService B)
    (outcome : BundleSimulationOutcome) (sim : SimulationRequest B) :
    Except Halt (BundleSimulatorService B) :=
  match outcome with
  | .reschedule _ =>
      match checkedAdd size sim.retries 1 with
      | .error e => .error e
      | .ok retries =>
          let sim := { sim with retries := retries }
          if sim.retries > s.config.maxRetries then
            .ok (s.notifyListeners (.exceededMaxRetries sim.request sim.overrides))
          else if sim.priority.isHigh then
            .ok { s with highPriorityQueue := s.highPriorityQueue ++ [sim] }
          else
            .ok { s with normalPriorityQueue := s.normalPriorityQueue ++ [sim] }
  | outcome => .ok (s.onSimulationOutcome outcome sim)

theorem checkedOnSimulationOutcome_of_lt {size : ℕ} (s : BundleSimulatorService B)
    (out : BundleSimulationOutcome) {r : SimulationRequest B}
    (h : out.isReschedule = true → r.retries + 1 < size) :
    s.checkedOnSimulationOutcome size out r = .ok (s.onSimulationOutcome out r) := by
  rcases out with resp | error | error
  · rfl
  · rfl
  · rw [checkedOnSimulationOutcome, checkedAdd, if_pos (h rfl), onSimulationOutcome]
    by_cases hmax : r.retries + 1 > s.config.maxRetries
    · simp only [if_pos hmax]
    · by_cases hhigh : r.priority.isHigh = true
      · simp only [if_neg hmax, if_pos hhigh]
      · simp only [if_neg hmax, if_neg hhigh]

theorem checkedOnSimulationOutcome_of_le {size : ℕ} (s : BundleSimulatorService B)
    (error : BoxError) {r : SimulationRequest B} (h : size ≤ r.retries + 1) :
    s.checkedOnSimulationOutcome size (.reschedule error) r =
      .error (.panicked "attempt to add with overflow") := by
  rw [checkedOnSimulationOutcome, checkedAdd, if_neg (Nat.not_lt.mpr h)]

/-- `complete`, checked. -/
def checkedComplete (size : ℕ) (s : BundleSimulatorService B) (id : ℕ)
    (out : BundleSimulationOutcome) : Except Halt (BundleSimulatorService B) :=
  match s.pollNextSimulation id out with
  | .error e => .error e
  | .ok ((outcome, inner), s) => s.checkedOnSimulationOutcome size outcome inner

/-- One step of the service, checked. -/
def checkedStep [Bundle B] (size : ℕ) (s : BundleSimulatorService B) :
    Action B → Except Halt (BundleSimulatorService B)
  | .message msg => .ok (s.onMessage msg)
  | .complete id out => s.checkedComplete size id out
  | .schedule now => s.schedule ⟨true⟩ now
  | .dropListener tx => .ok (s.dropListener tx)

/-- The step panics. -/
def Panics [Bundle B] (size : ℕ) (s : BundleSimulatorService B) (a : Action B) : Prop :=
  ∃ message, s.checkedStep size a = .error (.panicked message)

/-! ## What can go wrong -/

/-- The step computes the number of the block after the last one there is. -/
def PassesLastBlock (s : BundleSimulatorService B) (a : Action B) : Prop :=
  (∃ now, a = .schedule now) ∧ s.simulations.length < s.config.maxConcurrentSimulations ∧
    s.currentBlockNumber.toNat + 1 = UInt64.size

/-- The step reschedules a request whose retry count is the last one there is. -/
def PassesLastRetry (size : ℕ) (s : BundleSimulatorService B) (a : Action B) : Prop :=
  ∃ id error r, a = .complete id (.reschedule error) ∧ s.pending id = some r ∧
    size ≤ r.retries + 1

section Steps

variable [Bundle B] {s t : BundleSimulatorService B}

theorem schedule_panics_iff (size : ℕ) (s : BundleSimulatorService B) (now : Instant) :
    s.Panics size (.schedule now) ↔ s.PassesLastBlock (.schedule now) := by
  have hone : (1 : UInt64).toNat = 1 := rfl
  constructor
  · rintro ⟨message, h⟩
    rw [checkedStep, schedule] at h
    rcases s.popBestRequests_total ⟨true⟩ now with ⟨t, ready, hpop⟩ | ⟨hcap, -, hsize, -⟩
    · rw [hpop] at h
      cases h
    · have hlt := s.currentBlockNumber.toNat_lt
      rw [capacity] at hcap
      exact ⟨⟨now, rfl⟩, by omega, Nat.le_antisymm hlt hsize⟩
  · rintro ⟨-, hcap, hlast⟩
    have hfree : s.capacity ≠ 0 := by
      rw [capacity]
      omega
    have hsize : UInt64.size ≤ s.currentBlockNumber.toNat + (1 : UInt64).toNat := by omega
    refine ⟨"attempt to add with overflow", ?_⟩
    rw [checkedStep, schedule, popBestRequests, if_neg hfree, BuildProfile.addU64_of_le rfl hsize]

theorem complete_panics_iff (size : ℕ) (hpaired : s.Paired) (id : ℕ)
    (out : BundleSimulationOutcome) :
    s.Panics size (.complete id out) ↔ s.PassesLastRetry size (.complete id out) := by
  rcases hfind : s.simulations.find? (fun sim => sim.sim == id) with _ | sim
  · -- no such simulation is in flight
    have hpending : s.pending id = none := by rw [pending, hfind]; rfl
    constructor
    · rintro ⟨message, h⟩
      rw [checkedStep, checkedComplete, pollNextSimulation, hfind] at h
      cases h
    · rintro ⟨id', error, r, ha, hr, -⟩
      obtain ⟨rfl, -⟩ := Action.complete.inj ha
      rw [hpending] at hr
      cases hr
  · -- its request is still there, so nothing but the retry count can overflow
    obtain ⟨r, hr⟩ := Option.isSome_iff_exists.mp (hpaired sim (List.mem_of_find?_eq_some hfind))
    have hpending : s.pending id = some r := by rw [pending, hfind, Option.bind_some, hr]
    have hstep : ∃ u : BundleSimulatorService B, s.checkedStep size (.complete id out) =
        u.checkedOnSimulationOutcome size out r := by
      rw [checkedStep, checkedComplete, pollNextSimulation, hfind]
      simp only [Simulation.poll, hr]
      exact ⟨_, rfl⟩
    obtain ⟨u, hu⟩ := hstep
    constructor
    · rintro ⟨message, h⟩
      rw [hu] at h
      by_cases hle : out.isReschedule = true ∧ size ≤ r.retries + 1
      · rcases out with resp | error | error
        · cases hle.1
        · cases hle.1
        · exact ⟨id, error, r, rfl, hpending, hle.2⟩
      · rw [u.checkedOnSimulationOutcome_of_lt out fun hout =>
          Nat.not_le.mp fun hsize => hle ⟨hout, hsize⟩] at h
        cases h
    · rintro ⟨id', error, r', ha, hr', hsize⟩
      obtain ⟨rfl, rfl⟩ := Action.complete.inj ha
      rw [hpending] at hr'
      obtain rfl := Option.some.inj hr'
      exact ⟨_, hu.trans (u.checkedOnSimulationOutcome_of_le error hsize)⟩

/-- **One step.**  In a state where every simulation has its request, a step panics
exactly if it passes the last block or the last retry. -/
theorem panics_iff (size : ℕ) (hpaired : s.Paired) (a : Action B) :
    s.Panics size a ↔ s.PassesLastBlock a ∨ s.PassesLastRetry size a := by
  rcases a with msg | ⟨id, out⟩ | now | tx
  · constructor
    · rintro ⟨message, h⟩
      cases h
    · rintro (⟨⟨now, h⟩, -⟩ | ⟨id, error, r, h, -⟩) <;> cases h
  · rw [complete_panics_iff size hpaired]
    refine ⟨Or.inr, ?_⟩
    rintro (⟨⟨now, h⟩, -⟩ | h)
    · cases h
    · exact h
  · rw [schedule_panics_iff]
    refine ⟨Or.inl, ?_⟩
    rintro (h | ⟨id, error, r, h, -⟩)
    · exact h
    · cases h
  · constructor
    · rintro ⟨message, h⟩
      cases h
    · rintro (⟨⟨now, h⟩, -⟩ | ⟨id, error, r, h, -⟩) <;> cases h

/-- A step that does not panic is the step of every build. -/
theorem step_of_checkedStep {size : ℕ} {a : Action B} (h : s.checkedStep size a = .ok t)
    (profile : BuildProfile) : step profile s a = .ok t := by
  rcases a with msg | ⟨id, out⟩ | now | tx
  · exact h
  · rw [checkedStep, checkedComplete] at h
    rw [step, complete]
    rcases hpoll : s.pollNextSimulation id out with e | ⟨⟨outcome, r⟩, u⟩
    · rw [hpoll] at h
      cases h
    · simp only [hpoll] at h ⊢
      by_cases hle : outcome.isReschedule = true ∧ size ≤ r.retries + 1
      · rcases outcome with resp | error | error
        · cases hle.1
        · cases hle.1
        · rw [u.checkedOnSimulationOutcome_of_le error hle.2] at h
          cases h
      · rw [u.checkedOnSimulationOutcome_of_lt outcome fun hout =>
          Nat.not_le.mp fun hsize => hle ⟨hout, hsize⟩] at h
        exact h
  · rw [checkedStep, schedule] at h
    rw [step, schedule]
    rcases s.popBestRequests_total ⟨true⟩ now with ⟨u, ready, hpop⟩ | ⟨-, -, -, hpop⟩
    · have hsame : s.popBestRequests profile now = s.popBestRequests ⟨true⟩ now := by
        by_cases hcap : s.capacity = 0
        · rw [popBestRequests, popBestRequests, if_pos hcap, if_pos hcap]
        · rw [popBestRequests, if_neg hcap] at hpop
          rw [popBestRequests, popBestRequests, if_neg hcap, if_neg hcap]
          rcases hadd : BuildProfile.addU64 ⟨true⟩ s.currentBlockNumber 1 with e | nextBlock
          · rw [hadd] at hpop
            cases hpop
          · rw [profile.addU64_of_checked hadd]
      rw [hsame]
      exact h
    · rw [hpop] at h
      cases h
  · exact h

end Steps

/-! ## Runs -/

section Runs

variable [Bundle B] {profile : BuildProfile} {n : U64} {run : List (Action B)}
  {s : BundleSimulatorService B}

/-- Where everything is submitted through handles, no retry count exceeds the
maximum. -/
theorem exec_withinRetries (h : exec (step profile) (new n cfg) run = .ok s)
    (hrun : ∀ a ∈ run, a.FromHandle) : s.ledger.WithinRetries cfg := by
  have hacc : ∀ r ∈ s.ledger.accepted, r.retries ≤ cfg.maxRetries := by
    intro r hr
    rw [retries_of_accepted h hrun r hr]
    exact Nat.zero_le _
  exact (Ledger.calls_le_of_moves .empty (exec_ledger h).2 hacc).1

omit [Bundle B] in
theorem retries_of_pending {id : ℕ} {r : SimulationRequest B} (hs : s.ledger.WithinRetries cfg)
    (hr : s.pending id = some r) : r.retries ≤ cfg.maxRetries := by
  obtain ⟨sim, hfind, hinner⟩ := Option.bind_eq_some_iff.mp hr
  refine hs.inFlight (r, sim.sim) (List.mem_filterMap.mpr
    ⟨sim, List.mem_of_find?_eq_some hfind, ?_⟩)
  rw [Simulation.entry, hinner]
  rfl

/-- **When the scheduler does not panic.**  For every configuration whose maximum is a
`usize`, every initial block number and every run with submissions through handles: no
step of the run panics exactly if none schedules with free capacity at the block
`u64::MAX`, and, where the maximum is `usize::MAX`, none reschedules a request that has
been retried that often.  The subtraction overflows in no state. -/
theorem panicFree_iff {size : ℕ} (hcfg : cfg.maxRetries < size)
    (hrun : ∀ a ∈ run, a.FromHandle) :
    (∀ (s : BundleSimulatorService B) pos, s.checkedRemoveQueued pos = s.removeQueued pos) ∧
      (StepsMeet (step profile) (new n cfg) run (fun s a => ¬ s.Panics size a) ↔
        StepsMeet (step profile) (new n cfg) run (fun s a => ¬ s.PassesLastBlock a ∧
          (cfg.maxRetries + 1 = size → ¬ s.PassesLastRetry size a))) := by
  refine ⟨checkedRemoveQueued_eq, stepsMeet_congr fun pre a s hpre hs => ?_⟩
  have hsub : ∀ b ∈ pre, b.FromHandle := fun b hb =>
    hrun b (hpre.subset (List.mem_append_left _ hb))
  have hwithin := exec_withinRetries hs hsub
  -- the last retry can be passed only where the maximum is the last retry
  have hmax : s.PassesLastRetry size a → cfg.maxRetries + 1 = size := by
    rintro ⟨id, error, r, -, hpending, hsize⟩
    have hle := retries_of_pending hwithin hpending
    omega
  rw [panics_iff size (exec_paired hs), not_or]
  exact and_congr_right fun _ => ⟨fun hnot _ => hnot, fun hnot hpass => hnot (hmax hpass) hpass⟩

theorem panicFree_iff_overshootRun :
    StepsMeet (step ⟨true⟩) (new 7 tightConfig) overshootRun
        (fun s a => ¬ s.Panics UInt64.size a) ↔
      StepsMeet (step ⟨true⟩) (new 7 tightConfig) overshootRun (fun s a =>
        ¬ s.PassesLastBlock a ∧
          (tightConfig.maxRetries + 1 = UInt64.size → ¬ s.PassesLastRetry UInt64.size a)) :=
  (panicFree_iff (by decide) overshootRun_fromHandle).2

/-- A handle reports the last block there is, and the service has nothing else to do. -/
def lastBlockRun : List (Action SendBundleRequest) :=
  [.message (.updateBlockNumber 0xffffffffffffffff), .schedule 0]

/-- `current_block + 1` overflows: the step to which the run comes panics. -/
theorem lastBlockRun_panics :
    exec (step ⟨true⟩) (new 7 tightConfig) lastBlockRun =
        .error (.panicked "attempt to add with overflow") ∧
      ¬ StepsMeet (step ⟨true⟩) (new 7 tightConfig) lastBlockRun
        (fun s a => ¬ s.Panics UInt64.size a) := by
  refine ⟨rfl, fun h => ?_⟩
  exact h [.message (.updateBlockNumber 0xffffffffffffffff)] (.schedule 0) _ (List.prefix_refl _)
    rfl ⟨"attempt to add with overflow", rfl⟩

end Runs

end BundleSimulatorService
end Backend
end MevShare
