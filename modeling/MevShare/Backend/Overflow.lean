import MevShare.Backend.Panics
import MevShare.Backend.Window

/-!
# The last block, with and without overflow checks

With the block number `u64::MAX` the number of the next block overflows.  A build that
checks for overflows panics there (`checkedStep`, of `Backend.Panics`), which is the end of
the service.  A build that does not wraps to the block `0`, and one would expect it to go
wrong in worse ways: to start requests far outside their windows, or to report all of them
as outdated.

It does neither.  No block lies before the block `0`, so every queued request has to
wait (`verdict_zero`), and scheduling does nothing until a handle reports another block
(`schedule_unchecked`).  In every other state the two builds do the same, as long as no
retry count wraps.  So a run without overflow checks is a run with them, in which the
actions that would have panicked are left out (`unchecked_run`).

A retry count that wraps is another matter: the request that was to be dropped starts
again from `0`.  `wrappingStep` has this, and the runs in which it happens are left out.
There are none of a new service unless its maximum is `usize::MAX` (`retries_never_wrap`).
-/

namespace MevShare
namespace Backend

open Rpc Rust Draw Machine

variable {B : Type}

def Action.isSchedule : Action B → Bool
  | .schedule _ => true
  | _ => false

namespace SimulationRequest

/-- Every request has to wait for the block after the block `0`. -/
theorem verdict_zero [Bundle B] (now : Instant) (r : SimulationRequest B) :
    r.verdict 0 now = .wait := by
  have hout : r.exceedsTargetBlock 0 = false := by
    refine Bool.eq_false_iff.mpr fun hpast => ?_
    obtain ⟨m, -, hm⟩ := (r.exceedsTargetBlock_iff 0).mp hpast
    exact absurd hm UInt64.not_lt_zero
  have hmin : r.isMinBlock 0 = false :=
    Bool.eq_false_iff.mpr fun hmin => absurd ((r.isMinBlock_iff 0).mp hmin) UInt64.not_lt_zero
  rw [verdict, hout, hmin]
  rcases r.isReadyAt now with _ | _ <;> rfl

end SimulationRequest

namespace BundleSimulatorService

variable {s t : BundleSimulatorService B}

theorem not_passesLastBlock {a : Action B} (h : ∀ now, a ≠ .schedule now) :
    ¬ s.PassesLastBlock a := by
  rintro ⟨⟨now, ha⟩, -⟩
  exact h now ha

instance (s : BundleSimulatorService B) : (a : Action B) → Decidable (s.PassesLastBlock a)
  | .schedule now =>
      decidable_of_iff (s.simulations.length < s.config.maxConcurrentSimulations ∧
          s.currentBlockNumber.toNat + 1 = UInt64.size)
        ⟨fun h => ⟨⟨now, rfl⟩, h⟩, fun h => h.2⟩
  | .message _ => isFalse (not_passesLastBlock fun _ h => by cases h)
  | .complete _ _ => isFalse (not_passesLastBlock fun _ h => by cases h)
  | .dropListener _ => isFalse (not_passesLastBlock fun _ h => by cases h)

/-! ## Without overflow checks -/

/-- `on_simulation_outcome`, with `sim.retries += 1` wrapping, for a `usize` with `size`
values. -/
def wrappingOnSimulationOutcome (size : ℕ) (s : BundleSimulatorService B)
    (outcome : BundleSimulationOutcome) (sim : SimulationRequest B) : BundleSimulatorService B :=
  match outcome with
  | .reschedule _ =>
      let sim := { sim with retries := (sim.retries + 1) % size }
      if sim.retries > s.config.maxRetries then
        s.notifyListeners (.exceededMaxRetries sim.request sim.overrides)
      else if sim.priority.isHigh then
        { s with highPriorityQueue := s.highPriorityQueue ++ [sim] }
      else
        { s with normalPriorityQueue := s.normalPriorityQueue ++ [sim] }
  | outcome => s.onSimulationOutcome outcome sim

theorem wrappingOnSimulationOutcome_of_lt {size : ℕ} (s : BundleSimulatorService B)
    (out : BundleSimulationOutcome) {r : SimulationRequest B}
    (h : out.isReschedule = true → r.retries + 1 < size) :
    s.wrappingOnSimulationOutcome size out r = s.onSimulationOutcome out r := by
  rcases out with resp | error | error
  · rfl
  · rfl
  · rw [wrappingOnSimulationOutcome, Nat.mod_eq_of_lt (h rfl), onSimulationOutcome]

/-- `complete`, wrapping. -/
def wrappingComplete (size : ℕ) (s : BundleSimulatorService B) (id : ℕ)
    (out : BundleSimulationOutcome) : Except Halt (BundleSimulatorService B) :=
  match s.pollNextSimulation id out with
  | .error e => .error e
  | .ok ((outcome, inner), s) => .ok (s.wrappingOnSimulationOutcome size outcome inner)

/-- One step of the service in a build without overflow checks. -/
def wrappingStep [Bundle B] (size : ℕ) (s : BundleSimulatorService B) :
    Action B → Except Halt (BundleSimulatorService B)
  | .message msg => .ok (s.onMessage msg)
  | .complete id out => s.wrappingComplete size id out
  | .schedule now => s.schedule ⟨false⟩ now
  | .dropListener tx => .ok (s.dropListener tx)

/-! ## One step -/

variable [Bundle B] {size : ℕ}

omit [Bundle B] in
theorem pending_of_pollNextSimulation {id : ℕ} {out outcome : BundleSimulationOutcome}
    {r : SimulationRequest B} (h : s.pollNextSimulation id out = .ok ((outcome, r), t)) :
    s.pending id = some r ∧ outcome = out := by
  rw [pollNextSimulation] at h
  rcases hfind : s.simulations.find? (fun sim => sim.sim == id) with _ | sim <;>
    simp only [hfind] at h
  · cases h
  · rcases hinner : sim.inner with _ | inner <;> simp only [Simulation.poll, hinner] at h
    · cases h
    · cases h
      exact ⟨by rw [pending, hfind, Option.bind_some, hinner], rfl⟩

/-- As long as no retry count wraps, the steps of both builds differ in the schedule only. -/
theorem step_eq_of_retries {a : Action B} (h : ¬ s.PassesLastRetry size a) :
    s.wrappingStep size a = step ⟨false⟩ s a ∧ s.checkedStep size a = step ⟨true⟩ s a := by
  rcases a with msg | ⟨id, out⟩ | now | tx
  · exact ⟨rfl, rfl⟩
  · rw [wrappingStep, wrappingComplete, checkedStep, checkedComplete, step, step, complete]
    rcases hpoll : s.pollNextSimulation id out with e | ⟨⟨outcome, r⟩, u⟩
    · exact ⟨rfl, rfl⟩
    · obtain ⟨hpending, rfl⟩ := pending_of_pollNextSimulation hpoll
      have hlt : outcome.isReschedule = true → r.retries + 1 < size := by
        intro hout
        by_contra hle
        rcases outcome with resp | error | error
        · cases hout
        · cases hout
        · exact h ⟨id, error, r, rfl, hpending, Nat.not_lt.mp hle⟩
      simp only [u.wrappingOnSimulationOutcome_of_lt outcome hlt,
        u.checkedOnSimulationOutcome_of_lt outcome hlt, and_self]
  · exact ⟨rfl, rfl⟩
  · exact ⟨rfl, rfl⟩

/-- Without overflow checks, scheduling at the last block does nothing. -/
theorem schedule_unchecked {a : Action B} (h : s.PassesLastBlock a) :
    s.wrappingStep size a = .ok s := by
  obtain ⟨⟨now, rfl⟩, -, hlast⟩ := h
  have hwrap : BuildProfile.addU64 ⟨false⟩ s.currentBlockNumber 1 = .ok 0 := by
    have hzero : s.currentBlockNumber + 1 = 0 := by
      refine UInt64.toNat_inj.mp ?_
      rw [UInt64.toNat_add]
      show (s.currentBlockNumber.toNat + 1) % UInt64.size = 0
      rw [hlast, Nat.mod_self]
    rw [BuildProfile.addU64, Bool.false_and, hzero]
    rfl
  rw [wrappingStep]
  rcases s.popBestRequests_total ⟨false⟩ now with ⟨u, ready, hpop⟩ | ⟨-, hchecks, -⟩
  · have hok : s.schedule ⟨false⟩ now = .ok (ready.foldl startSimulation u) := by
      rw [schedule, hpop]
    rcases schedule_cases hok with ⟨-, hsame⟩ |
      ⟨nextBlock, started, dropped, q', -, hadd, hb, -, hbatch⟩
    · rw [hok, hsame]
    · obtain rfl : (0 : U64) = nextBlock := Except.ok.inj (hwrap.symm.trans hadd)
      obtain ⟨rfl, rfl, rfl⟩ := hb.eq_of_wait (SimulationRequest.verdict_zero now)
      rw [hok, hbatch]
      rfl
  · cases hchecks

/-- With overflow checks, it panics. -/
theorem step_checked_ne_ok {a : Action B} (h : s.PassesLastBlock a) :
    s.checkedStep size a ≠ .ok t := by
  obtain ⟨message, hpanic⟩ : s.Panics size a := by
    obtain ⟨⟨now, rfl⟩, -⟩ := id h
    exact (s.schedule_panics_iff size now).mpr h
  rw [hpanic]
  exact nofun

/-- Everywhere else all builds take the same step. -/
theorem step_congr_profile {a : Action B} (h : ¬ s.PassesLastBlock a)
    (profile profile' : BuildProfile) : step profile s a = step profile' s a := by
  rcases a with msg | ⟨id, out⟩ | now | tx
  · rfl
  · rfl
  · have hpop : s.popBestRequests profile now = s.popBestRequests profile' now := by
      unfold popBestRequests
      by_cases hcap : s.capacity = 0
      · rw [if_pos hcap, if_pos hcap]
      · have hfit : s.currentBlockNumber.toNat + (1 : UInt64).toNat < UInt64.size := by
          have hone : (1 : UInt64).toNat = 1 := rfl
          have hlt := s.currentBlockNumber.toNat_lt
          have hsize : UInt64.size = 2 ^ 64 := rfl
          rw [capacity] at hcap
          have hne : s.currentBlockNumber.toNat + 1 ≠ UInt64.size := fun hlast =>
            h ⟨⟨now, rfl⟩, by omega, hlast⟩
          omega
        rw [if_neg hcap, if_neg hcap, profile.addU64_of_lt hfit, profile'.addU64_of_lt hfit]
    rw [step, step, schedule, schedule, hpop]
  · rfl

/-- The same of a step that does not wrap. -/
theorem checkedStep_eq_wrappingStep {a : Action B} (hretry : ¬ s.PassesLastRetry size a)
    (hblock : ¬ s.PassesLastBlock a) : s.checkedStep size a = s.wrappingStep size a := by
  obtain ⟨hwrapping, hchecked⟩ := step_eq_of_retries hretry
  rw [hwrapping, hchecked]
  exact step_congr_profile hblock ⟨true⟩ ⟨false⟩

/-! ## Runs -/

/-- The actions of a run that do not panic for the last block. -/
def withoutWrapping (size : ℕ) (s : BundleSimulatorService B) (run : List (Action B)) :
    List (Action B) :=
  without (wrappingStep size) PassesLastBlock s run

/-- **No retry count wraps** in a run of a new service, with submissions through handles, if
the maximum is not the last number there is. -/
theorem retries_never_wrap {n : U64} {cfg : BundleSimulatorServiceConfig}
    (hcfg : cfg.maxRetries + 1 < size) {run : List (Action B)} (hrun : ∀ a ∈ run, a.FromHandle) :
    StepsMeet (wrappingStep size) (new n cfg) run
      (fun s a => ¬ s.PassesLastRetry size a) := by
  have hbelow : ∀ {as : List (Action B)} {s : BundleSimulatorService B} (a : Action B),
      (∀ a ∈ as, a.FromHandle) → exec (step ⟨false⟩) (new n cfg) as = .ok s →
        ¬ s.PassesLastRetry size a := by
    rintro as s a has hs ⟨id, error, r, -, hpending, hsize⟩
    have hle := retries_of_pending (exec_withinRetries hs has) hpending
    omega
  have hsame : ∀ (as : List (Action B)) (s : BundleSimulatorService B),
      (∀ a ∈ as, a.FromHandle) →
        exec (wrappingStep size) (new n cfg) as = .ok s →
          exec (step ⟨false⟩) (new n cfg) as = .ok s := by
    intro as
    induction as using List.reverseRecOn with
    | nil => exact fun s _ h => h
    | append_singleton as a ih =>
      intro s has h
      obtain ⟨t, ht, hstep⟩ := exec_concat.mp h
      have hbefore : ∀ a ∈ as, a.FromHandle := fun b hb => has b (List.mem_append_left _ hb)
      have ht' := ih t hbefore ht
      refine exec_concat.mpr ⟨t, ht', ?_⟩
      rw [← (step_eq_of_retries (hbelow a hbefore ht')).1]
      exact hstep
  intro pre a s hpre hs
  have hbefore : ∀ b ∈ pre, b.FromHandle := fun b hb =>
    hrun b (hpre.subset (List.mem_append_left _ hb))
  exact hbelow a hbefore (hsame pre s hbefore hs)

/-- **Without overflow checks nothing goes wrong.**  From every state, a run of a build
without overflow checks in which no retry count wraps is a run of a build with them, to the
same end, in which some attempts to schedule are left out; and nothing else is.  The build
with checks makes the whole run exactly if the other one does and nothing is left out.  No
retry count wraps in a run of a new service whose maximum is not the last `usize`. -/
theorem unchecked_run (size : ℕ) :
    (∀ (s : BundleSimulatorService B) (run : List (Action B)),
      StepsMeet (wrappingStep size) s run (fun s a => ¬ s.PassesLastRetry size a) →
      exec (checkedStep size) s (s.withoutWrapping size run) =
          exec (wrappingStep size) s run ∧
        (s.withoutWrapping size run).Sublist run ∧
        (s.withoutWrapping size run).filter (fun a => !a.isSchedule) =
          run.filter (fun a => !a.isSchedule) ∧
        ∀ t, exec (checkedStep size) s run = .ok t ↔
          exec (wrappingStep size) s run = .ok t ∧
            s.withoutWrapping size run = run) ∧
      ∀ (n : U64) (cfg : BundleSimulatorServiceConfig) (run : List (Action B)),
        cfg.maxRetries + 1 < size → (∀ a ∈ run, a.FromHandle) →
        StepsMeet (wrappingStep size) (new n cfg) run
          (fun s a => ¬ s.PassesLastRetry size a) := by
  refine ⟨fun s run hretries => ?_, fun n cfg run hcfg hrun => retries_never_wrap hcfg hrun⟩
  have hexec : exec (checkedStep size) s (s.withoutWrapping size run) =
      exec (wrappingStep size) s run :=
    exec_without (fun u a _ h => u.schedule_unchecked h)
      (fun u a hretry hblock => checkedStep_eq_wrappingStep hretry hblock) hretries
  refine ⟨hexec, without_sublist s run, filter_without (fun u a h => ?_) s run, fun t => ?_⟩
  · obtain ⟨⟨now, rfl⟩, -⟩ := h
    rfl
  · constructor
    · intro h
      have hself : s.withoutWrapping size run = run :=
        without_eq_self (fun u a v _ hpass => step_checked_ne_ok hpass)
          (fun u a hretry hblock => checkedStep_eq_wrappingStep hretry hblock) hretries h
      rw [hself] at hexec
      exact ⟨hexec.symm.trans h, hself⟩
    · rintro ⟨h, hself⟩
      rw [hself] at hexec
      exact hexec.trans h

/-- A handle has reported the last block there is: the build without checks goes on, and what
is left out is what stops the other one. -/
theorem unchecked_run_lastBlockRun :
    exec (checkedStep UInt64.size) (new 7 tightConfig)
        ((new 7 tightConfig).withoutWrapping UInt64.size lastBlockRun) =
      exec (wrappingStep UInt64.size) (new 7 tightConfig) lastBlockRun ∧
    (new 7 tightConfig).withoutWrapping UInt64.size lastBlockRun ≠ lastBlockRun := by
  obtain ⟨hall, hnew⟩ := unchecked_run (B := SendBundleRequest) UInt64.size
  have hfrom : ∀ a ∈ lastBlockRun, a.FromHandle := by
    rintro a ha r tx rfl
    simp [lastBlockRun] at ha
  obtain ⟨hexec, -, -, hboth⟩ := hall (new 7 tightConfig) lastBlockRun
    (hnew 7 tightConfig lastBlockRun (by decide) hfrom)
  refine ⟨hexec, fun hself => ?_⟩
  obtain ⟨t, ht⟩ : ∃ t, exec (wrappingStep UInt64.size) (new 7 tightConfig) lastBlockRun =
      .ok t := ⟨_, rfl⟩
  have hchecked := (hboth t).mpr ⟨ht, hself⟩
  have hpanics : exec (checkedStep UInt64.size) (new 7 tightConfig) lastBlockRun =
      .error (.panicked "attempt to add with overflow") := rfl
  rw [hpanics] at hchecked
  cases hchecked

end BundleSimulatorService
end Backend
end MevShare
