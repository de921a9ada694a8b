import MevShare.Backend.Clock

/-!
# A simulator that answers at once

`poll` keeps starting simulations until nothing is left to start, so a simulator whose
futures are ready whenever they are polled makes one call of `poll` go through
everything: the messages, the simulations, their retries, the requests behind them.

`poll_drains`: such a call comes to an end, and when it returns no simulation is in
flight and the only requests that are still queued are those whose first block has not
come yet.  That the call comes to an end is `pollLoop_returns`; what holds when it
returns is an invariant of its turns (`Eager`), carried through the loops by
`pollLoop_invariant`.

`poll_settles` draws up the balance: the ledger loses no accepted request, and a drained
service has none of those whose time has come, so all of these were reported on or cleared.
-/

namespace MevShare
namespace Backend

open Rpc Rust Machine

variable {B : Type} {cfg : BundleSimulatorServiceConfig}

namespace Task

variable [Bundle B] {profile : BuildProfile} {t u : Task B} {a : TaskAction B}

/-! ## The rule for the loops -/

/-- **The loop rule.**  What every arrival and every turn preserves holds when the
loops return. -/
theorem pollLoop_invariant {I : Task B → Prop} {choices : ℕ → Choice B}
    (harrive : ∀ j, ∀ a ∈ (choices j).arrivals, ∀ t u, I t → Task.step profile t a = .ok u → I u)
    (hturn : ∀ j t a u, I t → t.turn (choices j) = some a → Task.step profile t a = .ok u → I u)
    {fuel k : ℕ} (ht : I t) (h : pollLoop profile choices fuel k t = .ok u) : I u := by
  induction fuel generalizing t k with
  | zero => cases h
  | succ fuel ih =>
    rw [pollLoop] at h
    rcases hv : exec (Task.step profile) t (choices k).arrivals with e | v
    · rw [hv] at h
      cases h
    · have hIv : I v := exec_invariant_of_forall
        (fun s a s' hs ha hstep => harrive k a ha s s' hs hstep) ht (fun a ha => ha) hv
      rw [hv] at h
      rcases hnext : v.turn (choices k) with _ | a
      · simp only [hnext] at h
        cases h
        exact hIv
      · simp only [hnext] at h
        rcases hw : Task.step profile v a with e | w
        · rw [hw] at h
          cases h
        · rw [hw] at h
          exact ih (hturn k v a w hIv hnext hw) h

omit [Bundle B] in
/-- What a turn does is decided by the choice. -/
theorem turn_cases {c : Choice B} (ha : t.turn c = some a) :
    a = .recv ∨ (∃ id, a = .pollNext id c.answer) ∨ a = .pollNextPending ∨
      a = .schedule c.now := by
  rw [turn] at ha
  rcases hphase : t.phase with _ | _ | _ | _ <;> rw [hphase] at ha
  · cases ha
  · obtain rfl := Option.some.inj ha
    exact Or.inl rfl
  · rcases hid : t.readyToRun[c.simulation % t.readyToRun.length]? with _ | id <;>
      simp only [hid] at ha <;> obtain rfl := Option.some.inj ha
    · exact Or.inr (Or.inr (Or.inl rfl))
    · exact Or.inr (Or.inl ⟨id, rfl⟩)
  · obtain rfl := Option.some.inj ha
    exact Or.inr (Or.inr (Or.inr rfl))

end Task

/-! ## The invariant -/

/-- The action does not begin a call, and no future that it polls is pending. -/
def TaskAction.IsPrompt (a : TaskAction B) : Prop :=
  a ≠ .poll ∧ ∀ id, a ≠ .pollNext id none

theorem TaskAction.isPrompt_of_outside {a : TaskAction B} (h : a.isOutside = true) :
    a.IsPrompt := by
  refine ⟨?_, fun id => ?_⟩
  · rintro rfl
    cases h
  · rintro rfl
    cases h

namespace Task

variable [Bundle B] {profile : BuildProfile} {n : U64} {t u : Task B} {a : TaskAction B}

omit [Bundle B] in
theorem isPrompt_of_turn {c : Choice B} (ha : t.turn c = some a) (hc : c.answer ≠ none) :
    a.IsPrompt := by
  rcases turn_cases ha with rfl | ⟨id, rfl⟩ | rfl | rfl
  · exact ⟨nofun, fun id => nofun⟩
  · refine ⟨nofun, fun id' heq => hc ?_⟩
    injection heq
  · exact ⟨nofun, fun id => nofun⟩
  · exact ⟨nofun, fun id => nofun⟩

/-- During a call in which no future is pending: none is parked, and where the call
leaves its loops nothing is left that could be done. -/
structure Eager (profile : BuildProfile) (cfg : BundleSimulatorServiceConfig) (t : Task B) :
    Prop where
  attended : t.Attended profile
  config : t.service.config = cfg
  parked : t.parked = []
  polled : t.phase = .schedule ∨ t.phase = .idle → t.readyToRun = []
  scheduled : t.phase = .idle →
    ∃ nextBlock now, profile.addU64 t.service.currentBlockNumber 1 = .ok nextBlock ∧
      ∀ p, ∀ r ∈ t.service.queue p, ¬ r.Startable nextBlock now ∧ ¬ r.Outdated nextBlock now

/-- What has been polled and is not parked is not in flight any more. -/
theorem Eager.simulations (h : t.Eager profile cfg)
    (hphase : t.phase = .schedule ∨ t.phase = .idle) : t.service.simulations = [] := by
  have hperm := h.attended.listed
  rw [h.polled hphase, h.parked, List.append_nil] at hperm
  exact List.map_eq_nil_iff.mp hperm.nil_eq.symm

/-- **Every turn keeps the call eager**, and so does what happens outside. -/
theorem Eager.step (h : t.Eager profile cfg) (hconc : 0 < cfg.maxConcurrentSimulations)
    (ha : a.IsPrompt) (hstep : Task.step profile t a = .ok u) : u.Eager profile cfg := by
  have hatt : u.Attended profile := h.attended.step hstep
  have hconfig : ∀ {b : Action B} {service : BundleSimulatorService B},
      Backend.step profile t.service b = .ok service → service.config = cfg :=
    fun hb => (BundleSimulatorService.step_config hb).trans h.config
  -- a phase in which the loops go on asks for nothing
  have hgoes : ∀ {p : Phase}, p = .messages ∨ p = .simulations →
      ¬ (p = .schedule ∨ p = .idle) ∧ p ≠ .idle := by
    rintro p (rfl | rfl) <;> decide
  cases step_effect hstep with
  | sendClosed msg hopen => exact h
  | send msg hopen => exact ⟨hatt, h.config, h.parked, h.polled, h.scheduled⟩
  | wakeIgnored id hid => exact h
  | wake id hid =>
    rw [h.parked] at hid
    exact absurd hid List.not_mem_nil
  | dropListener tx => exact ⟨hatt, h.config, h.parked, h.polled, h.scheduled⟩
  | poll hphase => exact absurd rfl ha.1
  | @recv msg rest hphase hmessages =>
    obtain ⟨hpolled, hidle⟩ := hgoes (Or.inl hphase)
    exact ⟨hatt, hconfig (b := .message msg) rfl, h.parked, fun hp => absurd hp hpolled,
      fun hp => absurd hp hidle⟩
  | drained hphase hmessages =>
    exact ⟨hatt, h.config, h.parked, nofun, nofun⟩
  | @parks id hphase hid => exact absurd rfl (ha.2 id)
  | completes hphase hid hserv =>
    obtain ⟨hpolled, hidle⟩ := hgoes (Or.inr hphase)
    exact ⟨hatt, hconfig hserv, h.parked, fun hp => absurd hp hpolled,
      fun hp => absurd hp hidle⟩
  | noneReady hphase hready => exact ⟨hatt, h.config, h.parked, fun _ => hready, nofun⟩
  | @returns now service hphase hpop hserv =>
    have hready : t.readyToRun = [] := h.polled (Or.inl hphase)
    obtain ⟨-, hsims⟩ := popBestRequests_cases hpop
    refine ⟨hatt, hconfig hserv, h.parked, fun _ => hready, fun _ => ?_⟩
    -- with no simulation in flight there is capacity
    have hcap : service.simulations.length < service.config.maxConcurrentSimulations := by
      rw [hsims, h.simulations (Or.inl hphase), hconfig hserv]
      exact hconc
    obtain ⟨nextBlock, hadd, hwait⟩ := scheduled_of_idle hpop hcap
    exact ⟨nextBlock, now, hadd, hwait⟩
  | starts hphase hsims hserv => exact ⟨hatt, hconfig hserv, h.parked, nofun, nofun⟩

/-! ## The call -/

/-- Nothing is in flight, and every queued request waits for its first block. -/
structure Drained (profile : BuildProfile) (t : Task B) : Prop where
  simulations : t.service.simulations = []
  waiting : ∃ nextBlock, profile.addU64 t.service.currentBlockNumber 1 = .ok nextBlock ∧
    ∀ p, ∀ r ∈ t.service.queue p, nextBlock ≤ (Bundle.inclusion r.request).blockNumber ∧
      r.exceedsTargetBlock nextBlock = false
  /-- What was sent after the messages were drained has woken the task. -/
  channel : t.fromHandle.messages = [] ∨ t.woken = true

/-- A request that is not backed off and can neither be started nor dropped waits for
its first block. -/
theorem le_blockNumber_of_stays {r : SimulationRequest B} (hbacked : r.backedOffUntil = none)
    {nextBlock : U64} {now : Instant} (hstart : ¬ r.Startable nextBlock now)
    (hdrop : ¬ r.Outdated nextBlock now) :
    nextBlock ≤ (Bundle.inclusion r.request).blockNumber ∧
      r.exceedsTargetBlock nextBlock = false := by
  have hready := r.isReadyAt_of_none hbacked now
  have hexceeds : r.exceedsTargetBlock nextBlock = false := by
    by_contra hne
    exact hdrop ⟨hready, Bool.not_eq_false _ ▸ hne⟩
  refine ⟨?_, hexceeds⟩
  by_contra hlt
  refine hstart ⟨hready, hexceeds, ?_⟩
  exact decide_eq_true (UInt64.not_le.mp hlt)

theorem Eager.drained (h : t.Eager profile cfg) (hidle : t.phase = .idle)
    (hbacked : t.service.Unbacked) : t.Drained profile := by
  obtain ⟨nextBlock, now, hadd, hwait⟩ := h.scheduled hidle
  refine ⟨h.simulations (Or.inr hidle), ⟨nextBlock, hadd, fun p r hr => ?_⟩, ?_⟩
  · obtain ⟨hstart, hdrop⟩ := hwait p r hr
    exact le_blockNumber_of_stays (hbacked p r hr) hstart hdrop
  · rcases h.attended.channel (by rw [hidle]; decide) with ⟨hempty, -⟩ | hwoken
    · exact Or.inl hempty
    · exact Or.inr hwoken

/-- A call in which no future is pending returns with the service drained, or the block
number overflows. -/
theorem poll_returns_drained {before : List (TaskAction B)} {t₀ : Task B}
    (hbefore : exec (Task.step profile) (new n cfg) before = .ok t₀)
    (hhandle : ∀ a ∈ before, a.FromHandle) (hidle : t₀.phase = .idle) (hparked : t₀.parked = [])
    (hconc : 0 < cfg.maxConcurrentSimulations) {choices : ℕ → Choice B} {turns : ℕ}
    (hfair : Fair choices turns 0) (hprompt : ∀ j, (choices j).answer ≠ none) :
    ∃ bound, ∀ fuel, bound < fuel →
      (∃ t, t₀.poll profile choices fuel = .ok t ∧ t.phase = .idle ∧ t.Drained profile ∧
          t.Attended profile) ∨
        profile.overflowChecks = true ∧ t₀.poll profile choices fuel =
          .error (.panicked "attempt to add with overflow") := by
  have hatt : t₀.Attended profile := exec_attended hbefore
  have hwithin : t₀.Within cfg := ((within_new n cfg).exec hhandle hbefore).1
  have hpoll : (TaskAction.poll : TaskAction B).FromHandle := fun msg hmsg => by cases hmsg
  obtain ⟨t₁, ht₁, hphase, hsame, hparked₁⟩ : ∃ t₁, Task.step profile t₀ .poll = .ok t₁ ∧
      t₁.phase = .messages ∧ t₁.service = t₀.service ∧ t₁.parked = t₀.parked := by
    rw [Task.step, if_pos hidle]
    exact ⟨_, rfl, rfl, rfl, rfl⟩
  have hwithin₁ : t₁.Within cfg := (hwithin.step hpoll.retries ht₁).1
  have heager₁ : t₁.Eager profile cfg := by
    refine ⟨hatt.step ht₁, ?_, hparked₁.trans hparked, ?_, ?_⟩
    · rw [hsame]
      exact hwithin.config
    · rintro (hlast | hlast) <;> rw [hphase] at hlast <;> cases hlast
    · intro hlast
      rw [hphase] at hlast
      cases hlast
  refine ⟨t₁.work cfg + arriving cfg choices turns 0, fun fuel hfuel => ?_⟩
  rw [poll, ht₁]
  rcases pollLoop_returns fuel turns 0 hfair (hatt.step ht₁) hwithin₁ hfuel with
    ⟨t, -, hloop, ht, -, -⟩ | hpanic
  · -- the state in which the loops return is eager, and it is reached with requests of handles
    have hinv : t.Eager profile cfg ∧ ∃ run : List (TaskAction B), (∀ a ∈ run, a.FromHandle) ∧
        exec (Task.step profile) (new n cfg) run = .ok t := by
      refine pollLoop_invariant (I := fun t : Task B => t.Eager profile cfg ∧
        ∃ run : List (TaskAction B), (∀ a ∈ run, a.FromHandle) ∧
          exec (Task.step profile) (new n cfg) run = .ok t) ?_ ?_ ?_ hloop
      · rintro j a ha t u ⟨ht, run, hrun, hexec⟩ hstep
        refine ⟨ht.step hconc (TaskAction.isPrompt_of_outside (hfair.outside j a ha)) hstep,
          run ++ [a], ?_, exec_concat.mpr ⟨t, hexec, hstep⟩⟩
        exact Search.forall_mem_concat hrun (hfair.fromHandle j a ha)
      · rintro j t a u ⟨ht, run, hrun, hexec⟩ hnext hstep
        refine ⟨ht.step hconc (isPrompt_of_turn hnext (hprompt j)) hstep, run ++ [a], ?_,
          exec_concat.mpr ⟨t, hexec, hstep⟩⟩
        refine Search.forall_mem_concat hrun fun msg hmsg => ?_
        rcases turn_cases hnext with rfl | ⟨id, rfl⟩ | rfl | rfl <;> cases hmsg
      · exact ⟨heager₁, before ++ [.poll], Search.forall_mem_concat hhandle hpoll,
          exec_concat.mpr ⟨t₀, hbefore, ht₁⟩⟩
    obtain ⟨heager, run, hrun, hexec⟩ := hinv
    exact Or.inl ⟨t, hloop, ht, heager.drained ht (exec_unbacked hexec hrun), heager.attended⟩
  · exact Or.inr hpanic

/-- **A call of `poll` drains the service.**  In every reachable state in which no future
is parked, if at least one simulation may be in flight, the simulator's futures are ready
whenever they are polled, with whatever outcomes, and the outside does finitely many
things, the call returns with no simulation in flight and no request queued but those
whose first block has not come.  The only other end is the overflow of the block number.

With `max_concurrent_simulations = 0` nothing is started and nothing drains.  The retry
counter is a natural number, as the `usize` of the source is where
`max_retries < usize::MAX`. -/
theorem poll_drains {before : List (TaskAction B)} {t₀ : Task B}
    (hbefore : exec (Task.step profile) (new n cfg) before = .ok t₀)
    (hhandle : ∀ a ∈ before, a.FromHandle) (hidle : t₀.phase = .idle) (hparked : t₀.parked = [])
    (hconc : 0 < cfg.maxConcurrentSimulations) {choices : ℕ → Choice B} {turns : ℕ}
    (hfair : Fair choices turns 0) (hprompt : ∀ j, (choices j).answer ≠ none) :
    ∃ bound, ∀ fuel, bound < fuel →
      (∃ t, t₀.poll profile choices fuel = .ok t ∧ t.phase = .idle ∧ t.Drained profile) ∨
        profile.overflowChecks = true ∧ t₀.poll profile choices fuel =
          .error (.panicked "attempt to add with overflow") := by
  obtain ⟨bound, hbound⟩ := poll_returns_drained hbefore hhandle hidle hparked hconc hfair hprompt
  refine ⟨bound, fun fuel hfuel => (hbound fuel hfuel).imp_left ?_⟩
  rintro ⟨t, hloop, ht, hdrained, -⟩
  exact ⟨t, hloop, ht, hdrained⟩

/-- What is asked of a run and of the outside holds of these. -/
theorem queuedRun_prompt : (∃ t₀ : Task SendBundleRequest,
    exec (Task.step ⟨true⟩) (new 7 BundleSimulatorService.tightConfig) queuedRun = .ok t₀ ∧
      t₀.phase = .idle ∧ t₀.parked = []) ∧
    (∀ a ∈ queuedRun, a.FromHandle) ∧ Fair alwaysReschedule 0 0 ∧
    ∀ j, (alwaysReschedule j).answer ≠ none := by
  refine ⟨⟨_, rfl, rfl, rfl⟩, fun a ha msg hmsg r tx hsub => ?_,
    ⟨fun j a ha => absurd ha List.not_mem_nil, fun j a ha => absurd ha List.not_mem_nil,
      fun j _ => rfl⟩, fun j h => by cases h⟩
  obtain rfl := List.mem_singleton.mp ha
  cases hmsg
  cases hsub
  exact ⟨_, _, _, rfl⟩

theorem poll_drains_queuedRun :
    ∃ t₀ : Task SendBundleRequest,
      exec (Task.step ⟨true⟩) (new 7 BundleSimulatorService.tightConfig) queuedRun = .ok t₀ ∧
      ∃ bound, ∀ fuel, bound < fuel →
        (∃ t, t₀.poll ⟨true⟩ alwaysReschedule fuel = .ok t ∧ t.phase = .idle ∧
          t.Drained ⟨true⟩) ∨
        t₀.poll ⟨true⟩ alwaysReschedule fuel =
          .error (.panicked "attempt to add with overflow") := by
  obtain ⟨⟨t₀, h₀, hidle, hparked⟩, hhandle, hfair, hprompt⟩ := queuedRun_prompt
  obtain ⟨bound, hbound⟩ := poll_drains h₀ hhandle hidle hparked (by decide) hfair hprompt
  exact ⟨t₀, h₀, bound, fun fuel hfuel => (hbound fuel hfuel).imp_right fun h => h.2⟩

/-! ## Every request is settled -/

/-- Of the accepted requests whose first block has come none is left: as many as were
accepted, of whatever kind, were cleared or reported on. -/
def Settled (profile : BuildProfile) (t : Task B) : Prop :=
  ∃ nextBlock, profile.addU64 t.service.currentBlockNumber 1 = .ok nextBlock ∧
    ∀ P : B → Bool, (∀ b, P b = true → (Bundle.inclusion b).blockNumber < nextBlock) →
      t.service.ledger.accepted.countP (SimulationRequest.about P) =
        t.service.ledger.cleared.countP (SimulationRequest.about P) +
          t.service.ledger.left.countP (SimulationEvent.about P)

/-- A drained service has settled everything: the ledger is balanced, and neither a queue
nor a simulation has anything of which the first block has come. -/
theorem Drained.settled (h : t.Drained profile) (hatt : t.Attended profile) :
    t.Settled profile := by
  obtain ⟨nextBlock, hadd, hwait⟩ := h.waiting
  refine ⟨nextBlock, hadd, fun P hP => ?_⟩
  obtain ⟨m, cfg', run, hrun⟩ := hatt.reached
  have hbalanced : t.service.ledger.Balanced :=
    (BundleSimulatorService.exec_audited hrun).balanced
  have hqueue : ∀ p, (t.service.ledger.queue p).countP (SimulationRequest.about P) = 0 := by
    intro p
    refine List.countP_eq_zero.mpr fun r hr hPr => ?_
    have hstays : nextBlock ≤ (Bundle.inclusion r.request).blockNumber := (hwait p r hr).1
    exact absurd (hP r.request hPr) (UInt64.not_lt.mpr hstays)
  have hflight : t.service.ledger.inFlight = [] := by
    show t.service.simulations.filterMap Simulation.entry = []
    rw [h.simulations]
    rfl
  have htally := hbalanced P
  rw [Ledger.tally, Ledger.queuedCount, hqueue, hqueue, hflight, List.countP_nil] at htally
  omega

/-- **A call of `poll` settles every request whose time has come.**  If at least one
simulation may be in flight, the simulator is always ready, whatever its outcomes are, and
the outside does finitely many things, one call of `poll` returns after every accepted
request whose first block has come has been reported on, once for each acceptance, or was
cleared.  The retry counter is a natural number, as in `poll_drains`. -/
theorem poll_settles {before : List (TaskAction B)} {t₀ : Task B}
    (hbefore : exec (Task.step profile) (new n cfg) before = .ok t₀)
    (hhandle : ∀ a ∈ before, a.FromHandle) (hidle : t₀.phase = .idle) (hparked : t₀.parked = [])
    (hconc : 0 < cfg.maxConcurrentSimulations) {choices : ℕ → Choice B} {turns : ℕ}
    (hfair : Fair choices turns 0) (hprompt : ∀ j, (choices j).answer ≠ none) :
    ∃ bound, ∀ fuel, bound < fuel →
      (∃ t, t₀.poll profile choices fuel = .ok t ∧ t.Settled profile) ∨
        profile.overflowChecks = true ∧ t₀.poll profile choices fuel =
          .error (.panicked "attempt to add with overflow") := by
  obtain ⟨bound, hbound⟩ := poll_returns_drained hbefore hhandle hidle hparked hconc hfair hprompt
  refine ⟨bound, fun fuel hfuel => (hbound fuel hfuel).imp_left ?_⟩
  rintro ⟨t, hloop, -, hdrained, hatt⟩
  exact ⟨t, hloop, hdrained.settled hatt⟩

theorem poll_settles_queuedRun :
    ∃ t₀ : Task SendBundleRequest,
      exec (Task.step ⟨true⟩) (new 7 BundleSimulatorService.tightConfig) queuedRun = .ok t₀ ∧
      ∃ bound, ∀ fuel, bound < fuel →
        (∃ t, t₀.poll ⟨true⟩ alwaysReschedule fuel = .ok t ∧ t.Settled ⟨true⟩) ∨
        t₀.poll ⟨true⟩ alwaysReschedule fuel =
          .error (.panicked "attempt to add with overflow") := by
  obtain ⟨⟨t₀, h₀, hidle, hparked⟩, hhandle, hfair, hprompt⟩ := queuedRun_prompt
  obtain ⟨bound, hbound⟩ := poll_settles h₀ hhandle hidle hparked (by decide) hfair hprompt
  exact ⟨t₀, h₀, bound, fun fuel hfuel => (hbound fuel hfuel).imp_right fun h => h.2⟩

end Task
end Backend
end MevShare
