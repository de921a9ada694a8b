import MevShare.Backend.Selection
import MevShare.Backend.Transcript
import MevShare.Backend.Window

/-!
# A report is the last word

Once a request has been reported on, with whatever event, it is gone: nothing is left
of it in the queues and in flight, the simulator is not called for it again, no outcome
of its simulations is processed and it is not reported on again.  This holds in every
continuation of the run, whatever is submitted, completed, scheduled or cleared
(`reported_final`).

The reports themselves are true.  `Backend.Transcript` says so of responses and errors.
A request that is reported as outdated has a last block, and it lies before the block
after the one that the service had reached (`outdated_truthful`).
-/

namespace MevShare
namespace Backend

open Rpc Rust Draw Machine Relation

variable {B : Type} {cfg : BundleSimulatorServiceConfig}

namespace Ledger

variable {P : B → Bool}

/-- Between two ledgers nothing was heard or said about `P`. -/
structure Silent (P : B → Bool) (l l' : Ledger B) : Prop where
  called : l'.calledFor P = l.calledFor P
  transcript : l'.transcript P = l.transcript P
  left : l'.left.filter (SimulationEvent.about P) = l.left.filter (SimulationEvent.about P)

theorem Silent.refl (P : B → Bool) (l : Ledger B) : Silent P l l := ⟨rfl, rfl, rfl⟩

theorem Silent.trans {l l' l'' : Ledger B} (h : Silent P l l') (h' : Silent P l' l'') :
    Silent P l l'' :=
  ⟨h'.called.trans h.called, h'.transcript.trans h.transcript, h'.left.trans h.left⟩

/-- An event about another bundle is filtered out. -/
theorem filter_concat_of_not_about {es : List (SimulationEvent B)} {e : SimulationEvent B}
    (h : e.about P ≠ true) :
    (es ++ [e]).filter (SimulationEvent.about P) = es.filter (SimulationEvent.about P) := by
  rw [List.filter_append, List.filter_cons_of_neg h, List.filter_nil, List.append_nil]

/-- **A move is silent** about what has been reported on, as long as it is accepted at
most once. -/
theorem Silent.of_move {l l' : Ledger B} (hm : Move cfg l l') (hbal : l.Balanced)
    (hn : l.Numbered) (hone : l.accepted.countP (SimulationRequest.about P) ≤ 1)
    (hleft : ∃ e ∈ l.left, e.about P = true) : Silent P l l' := by
  obtain ⟨e₀, he₀, hP⟩ := hleft
  -- a request that moves is not about `P`: it would be the only one
  have hqueued : ∀ {p pre post} {r : SimulationRequest B}, l.queue p = pre ++ r :: post →
      r.about P ≠ true := by
    intro p pre post r hq hr
    obtain ⟨-, -, -, hnone⟩ := alone_queued hbal hone hq hr
    exact hnone e₀ he₀ hP
  have hflying : ∀ {pre post id} {r : SimulationRequest B},
      l.inFlight = pre ++ (r, id) :: post → r.about P ≠ true := by
    intro pre post id r hf hr
    obtain ⟨-, -, -, hnone⟩ := alone_inFlight hbal hone hf hr
    exact hnone e₀ he₀ hP
  cases hm with
  | accept hroom => exact ⟨rfl, rfl, rfl⟩
  | clear => exact ⟨rfl, rfl, rfl⟩
  | @expire p pre post r nextBlock hq =>
    refine ⟨rfl, rfl, filter_concat_of_not_about ?_⟩
    rw [SimulationEvent.about_of_subject (r := r) rfl]
    exact hqueued hq
  | @start p pre post r hq hcap =>
    refine ⟨?_, transcript_start hn rfl rfl, rfl⟩
    have hr : ¬ P r.job.1 = true := hqueued hq
    show (l.calls ++ [r.job]).countP (fun job => P job.1) = l.calls.countP fun job => P job.1
    rw [List.countP_append, List.countP_singleton, if_neg hr]
    rfl
  | @finish pre post r id out e hf he =>
    have hheard : Ledger.transcript P { l with
          inFlight := pre ++ post
          completed := l.completed ++ [(id, out)]
          left := l.left ++ [e] } =
        l.transcript P ++ if r.about P = true then [out] else [] :=
      transcript_complete (hn.inFlight (r, id) (by simp [hf])) rfl rfl
    rw [if_neg (hflying hf), List.append_nil] at hheard
    refine ⟨rfl, hheard, filter_concat_of_not_about ?_⟩
    rw [SimulationEvent.about_of_subject (report_subject he)]
    exact hflying hf
  | @requeue pre post r id error hf hretry =>
    have hheard : Ledger.transcript P { l.setQueue r.priority
            (l.queue r.priority ++ [BundleSimulatorService.rescheduled r]) with
          inFlight := pre ++ post
          completed := l.completed ++ [(id, .reschedule error)] } =
        l.transcript P ++ if r.about P = true then [.reschedule error] else [] :=
      transcript_complete (hn.inFlight (r, id) (by simp [hf])) rfl rfl
    rw [if_neg (hflying hf), List.append_nil] at hheard
    exact ⟨rfl, hheard, rfl⟩

/-- So are many moves. -/
theorem Silent.of_moves {l l' : Ledger B} (hmoves : ReflTransGen (Move cfg) l l')
    (hbal : l.Balanced) (hn : l.Numbered)
    (hone : l'.accepted.countP (SimulationRequest.about P) ≤ 1)
    (hleft : ∃ e ∈ l.left, e.about P = true) : Silent P l l' := by
  have hall : l'.Balanced ∧ l'.Numbered ∧ l.Grows l' ∧ Silent P l l' := by
    induction hmoves with
    | refl => exact ⟨hbal, hn, Grows.refl l, Silent.refl P l⟩
    | tail _ hlast ih =>
      have hgrows := Grows.of_move hlast
      have hone' := Nat.le_trans hgrows.accepted.sublist.countP_le hone
      obtain ⟨hbal', hn', hgrown, hsilent⟩ := ih hone'
      obtain ⟨e, he, hP⟩ := hleft
      exact ⟨hbal'.move hlast, hn'.move hlast, hgrown.trans hgrows,
        hsilent.trans (.of_move hlast hbal' hn' hone' ⟨e, hgrown.left.subset he, hP⟩)⟩
  exact hall.2.2.2

/-- What has been reported on is in no other place. -/
theorem Balanced.gone {l : Ledger B} (hbal : l.Balanced)
    (hone : l.accepted.countP (SimulationRequest.about P) ≤ 1)
    (hleft : ∃ e ∈ l.left, e.about P = true) :
    (∀ p, ∀ r ∈ l.queue p, r.about P ≠ true) ∧ ∀ f ∈ l.inFlight, f.1.about P ≠ true := by
  obtain ⟨e, he, hP⟩ := hleft
  have hpos : 0 < l.left.countP (SimulationEvent.about P) := List.countP_pos_iff.mpr ⟨e, he, hP⟩
  have htally := hbal P
  unfold tally at htally
  exact ⟨not_about_of_queuedCount (by omega), List.countP_eq_zero.mp (by omega)⟩

end Ledger

namespace BundleSimulatorService

/-! ## The last word -/

/-- From `s` to `t` nothing has happened to the ticket `k`, and it is gone. -/
structure Done (s t : BundleSimulatorService (Ticketed B)) (k : ℕ) : Prop where
  queued : ∀ p, ∀ r ∈ t.queue p, r.request.ticket ≠ k
  inFlight : ∀ sim ∈ t.simulations, ∀ r, sim.inner = some r → r.request.ticket ≠ k
  calls : t.simulationsOf k = s.simulationsOf k
  outcomes : t.outcomesOf k = s.outcomesOf k
  reports : t.world.emitted.filter (SimulationEvent.about (hasTicket k)) =
    s.world.emitted.filter (SimulationEvent.about (hasTicket k))

/-- The reports on a ticket are the same in the log and in the ledger. -/
theorem filter_about_left (s : BundleSimulatorService (Ticketed B)) (k : ℕ) :
    s.ledger.left.filter (SimulationEvent.about (hasTicket k)) =
      s.world.emitted.filter (SimulationEvent.about (hasTicket k)) := by
  show (s.world.emitted.filter SimulationEvent.isTerminal).filter _ = _
  rw [List.filter_filter]
  refine List.filter_congr fun e _ => ?_
  rcases habout : e.about (hasTicket k) with _ | _
  · rfl
  · unfold SimulationEvent.about at habout
    rcases hsub : e.subject with _ | x
    · rw [hsub] at habout
      cases habout
    · rw [SimulationEvent.isTerminal_of_subject hsub]
      rfl

/-- **A report is the last word.**  In every run, once a ticket has been reported on, it
is neither queued nor in flight, and in every continuation of the run the simulator is
not called for it, no outcome is processed for it and nothing more is reported on it. -/
theorem reported_final [Bundle B] {profile : BuildProfile} {n : U64} {run more : List (Action B)}
    {s t : BundleSimulatorService (Ticketed B)} {k : ℕ}
    (h : exec (step profile) (new n cfg) (ticketed 0 run) = .ok s)
    (hmore : exec (step profile) s (ticketed run.length more) = .ok t)
    (hreported : ∃ e ∈ s.world.emitted, e.about (hasTicket k) = true) : s.Done t k := by
  have hfull : exec (step profile) (new n cfg) (ticketed 0 (run ++ more)) = .ok t := by
    rw [ticketed_append, Nat.zero_add]
    exact exec_append.mpr ⟨s, h, hmore⟩
  have haudit := exec_audited h
  have hone : t.ledger.accepted.countP (SimulationRequest.about (hasTicket k)) ≤ 1 :=
    countP_accepted_le_one hfull k
  obtain ⟨e, he, hP⟩ := hreported
  have hleft : e ∈ s.ledger.left := mem_left_of_emitted he hP
  obtain ⟨-, hmoves⟩ := exec_moves rfl hmore
  have hsilent := Ledger.Silent.of_moves hmoves haudit.balanced haudit.numbered hone ⟨e, hleft, hP⟩
  have hlater : e ∈ t.ledger.left := (Ledger.exec_grows hmore).left.subset hleft
  obtain ⟨hqueued, hflight⟩ := (exec_audited hfull).balanced.gone hone ⟨e, hlater, hP⟩
  refine ⟨fun p r hr hk => ?_, fun sim hsim r hr hk => ?_, hsilent.called, hsilent.transcript, ?_⟩
  · exact hqueued p r hr (about_hasTicket hk)
  · have hmem : (r, sim.sim) ∈ t.ledger.inFlight := by
      refine List.mem_filterMap.mpr ⟨sim, hsim, ?_⟩
      rw [Simulation.entry, hr]
      rfl
    exact hflight _ hmem (about_hasTicket hk)
  · rw [← filter_about_left, ← filter_about_left]
    exact hsilent.left

/-- The request with ticket 1 is outdated at once; the other one goes on. -/
def outdatedRun : List (Action SendBundleRequest) :=
  [.message (.addSimulation { normalRequest 5 none with priority := .high } 0),
    .message (.addSimulation (normalRequest 3 (some 5)) 1), .schedule 0]

theorem reported_final_outdatedRun :
    ∃ s t : BundleSimulatorService (Ticketed SendBundleRequest),
      exec (step ⟨true⟩) (new 7 pairConfig) (ticketed 0 outdatedRun) = .ok s ∧
      exec (step ⟨true⟩) s (ticketed 3 [.complete 0 (.reschedule ⟨"timeout"⟩), .schedule 1]) =
        .ok t ∧ s.Done t 1 := by
  have hrun : ∃ s t : BundleSimulatorService (Ticketed SendBundleRequest),
      exec (step ⟨true⟩) (new 7 pairConfig) (ticketed 0 outdatedRun) = .ok s ∧
      exec (step ⟨true⟩) s (ticketed 3 [.complete 0 (.reschedule ⟨"timeout"⟩), .schedule 1]) =
        .ok t ∧ ∃ e ∈ s.world.emitted, e.about (hasTicket 1) = true :=
    ⟨_, _, rfl, rfl, _, List.mem_cons_self, rfl⟩
  obtain ⟨s, t, hs, ht, hreported⟩ := hrun
  exact ⟨s, t, hs, ht, reported_final hs ht hreported⟩

/-! ## Outdated requests -/

/-- The service was in a state of the run in which the next block was `nextBlock`. -/
def Reached [Bundle B] (profile : BuildProfile) (n : U64) (cfg : BundleSimulatorServiceConfig)
    (run : List (Action B)) (nextBlock : U64) : Prop :=
  ∃ before u, before <+: run ∧ exec (step profile) (new n cfg) before = .ok u ∧
    profile.addU64 u.currentBlockNumber 1 = .ok nextBlock

theorem Reached.concat [Bundle B] {profile : BuildProfile} {n nextBlock : U64}
    {run : List (Action B)} (h : Reached profile n cfg run nextBlock) (a : Action B) :
    Reached profile n cfg (run ++ [a]) nextBlock := by
  obtain ⟨before, u, hbefore, hu, hadd⟩ := h
  exact ⟨before, u, hbefore.trans (List.prefix_append run [a]), hu, hadd⟩

/-- What a step reports as outdated was past its window at the next block. -/
theorem step_outdated [Bundle B] {profile : BuildProfile} {s t : BundleSimulatorService B}
    {a : Action B} (h : step profile s a = .ok t) {request : B} {overrides : SimBundleOverrides}
    {nextBlock : U64}
    (he : SimulationEvent.outdatedRequest request overrides nextBlock ∈ t.world.emitted) :
    SimulationEvent.outdatedRequest request overrides nextBlock ∈ s.world.emitted ∨
      profile.addU64 s.currentBlockNumber 1 = .ok nextBlock ∧
        ∃ m, (Bundle.inclusion request).maxBlockNumber = some m ∧ m < nextBlock := by
  have hlast : ∀ {e : SimulationEvent B},
      SimulationEvent.outdatedRequest request overrides nextBlock ∈ s.world.emitted ++ [e] →
        e ≠ .outdatedRequest request overrides nextBlock →
          SimulationEvent.outdatedRequest request overrides nextBlock ∈ s.world.emitted := by
    intro e hmem hne
    rcases List.mem_append.mp hmem with hold | hnew
    · exact hold
    · exact absurd (List.mem_singleton.mp hnew).symm hne
  cases step_effect h with
  | newBlockNumber hnum => exact Or.inl (hlast he nofun)
  | accept tx hcap =>
    rw [answer, push_world] at he
    exact Or.inl he
  | @report id out pre post r e hsims hpending hrep =>
    refine Or.inl (hlast he ?_)
    rintro rfl
    unfold Backend.report at hrep
    rcases out with resp | error | error
    · cases hrep
    · cases hrep
    · by_cases hmax : s.config.maxRetries < r.retries + 1
      · rw [if_pos hmax] at hrep
        cases hrep
      · rw [if_neg hmax] at hrep
        cases hrep
  | requeue error hsims hpending hretries =>
    rw [push_world] at he
    exact Or.inl he
  | @batch now block started dropped q' hcap hadd hb =>
    obtain ⟨delivered, hworld⟩ := afterBatch_world s block started dropped q'
    rw [hworld] at he
    rcases List.mem_append.mp he with hold | hnew
    · exact Or.inl hold
    · obtain ⟨r, hr, hevent⟩ := List.mem_map.mp hnew
      cases hevent
      have hout := SimulationRequest.verdict_eq_drop_iff.mp (hb.verdict_dropped r hr)
      exact Or.inr ⟨hadd, (r.exceedsTargetBlock_iff nextBlock).mp hout.2⟩
  | _ => exact Or.inl he

/-- **An outdated request is outdated.**  In every run, a request that is reported as
outdated has a last block, it lies before the block of the report, and that block was
the next one in some state of the run. -/
theorem outdated_truthful [Bundle B] {profile : BuildProfile} {n : U64} {run : List (Action B)}
    {s : BundleSimulatorService B} (h : exec (step profile) (new n cfg) run = .ok s) :
    ∀ request overrides nextBlock,
      SimulationEvent.outdatedRequest request overrides nextBlock ∈ s.world.emitted →
        Reached profile n cfg run nextBlock ∧
          ∃ m, (Bundle.inclusion request).maxBlockNumber = some m ∧ m < nextBlock := by
  refine exec_history (P := fun run (s : BundleSimulatorService B) =>
    ∀ request overrides nextBlock,
      SimulationEvent.outdatedRequest request overrides nextBlock ∈ s.world.emitted →
        Reached profile n cfg run nextBlock ∧
          ∃ m, (Bundle.inclusion request).maxBlockNumber = some m ∧ m < nextBlock) ?_ ?_ h
  · intro request overrides nextBlock he
    cases he
  · intro as t a u has ih hstep request overrides nextBlock he
    rcases step_outdated hstep he with hold | ⟨hadd, hpast⟩
    · obtain ⟨hreached, hpast⟩ := ih request overrides nextBlock hold
      exact ⟨hreached.concat a, hpast⟩
    · exact ⟨⟨as, t, List.prefix_append as [a], has, hadd⟩, hpast⟩

theorem outdated_truthful_outdatedRun :
    ∃ s, exec (step ⟨true⟩) (new 7 pairConfig) outdatedRun = .ok s ∧
      ∀ request overrides nextBlock,
        SimulationEvent.outdatedRequest request overrides nextBlock ∈ s.world.emitted →
          Reached ⟨true⟩ 7 pairConfig outdatedRun nextBlock ∧
            ∃ m, (Bundle.inclusion request).maxBlockNumber = some m ∧ m < nextBlock := by
  have hrun : ∃ s, exec (step ⟨true⟩) (new 7 pairConfig) outdatedRun = .ok s := ⟨_, rfl⟩
  obtain ⟨s, hs⟩ := hrun
  exact ⟨s, hs, outdated_truthful hs⟩

end BundleSimulatorService
end Backend
end MevShare
