import MevShare.Backend.Order

/-!
# `ClearQueue` as a barrier

`BundleSimulatorMessage::ClearQueue` is documented to clear all ongoing jobs.  The
code empties the two queues and leaves the simulations in flight alone; one of these
that ends in `Reschedule` afterwards puts its request back, and the request is
started again.  So a request from before a clear is passed to `simulate_bundle`
after it only by this way (`clearQueue_barrier`), and the queues hold requests from
before a clear exactly from the first time that it is taken
(`freshQueues_along_iff`).

The statements are about runs on tickets (`Backend.Ticket`): the ticket of a request
is the position of its submission in the run, so "from before a clear" is a
comparison of positions.
-/

namespace MevShare
namespace Backend

open Rpc Rust Draw Machine

variable {B : Type}

/-- In the run there is a clear behind the position `k`. -/
def ClearedAfter (run : List (Action B)) (k : ℕ) : Prop :=
  ∃ i, k < i ∧ run[i]? = some (.message .clearQueue)

theorem ClearedAfter.mono {run : List (Action B)} {k : ℕ} (h : ClearedAfter run k)
    (more : List (Action B)) : ClearedAfter (run ++ more) k := by
  obtain ⟨i, hki, hi⟩ := h
  have hlt : i < run.length := (List.getElem?_eq_some_iff.mp hi).1
  exact ⟨i, hki, by rw [List.getElem?_append_left hlt, hi]⟩

/-- A clear behind `k` is an earlier one, or the last action. -/
theorem ClearedAfter.concat {run : List (Action B)} {a : Action B} {k : ℕ}
    (h : ClearedAfter (run ++ [a]) k) :
    ClearedAfter run k ∨ (k < run.length ∧ a = .message .clearQueue) := by
  obtain ⟨i, hki, hi⟩ := h
  rcases Nat.lt_or_ge i run.length with hlt | hge
  · rw [List.getElem?_append_left hlt] at hi
    exact Or.inl ⟨i, hki, hi⟩
  · rw [List.getElem?_append_right hge] at hi
    have hzero : i - run.length = 0 := by
      have hlen := (List.getElem?_eq_some_iff.mp hi).1
      rw [List.length_singleton] at hlen
      omega
    rw [hzero, List.getElem?_cons_zero, Option.some.injEq] at hi
    exact Or.inr ⟨by omega, hi⟩

namespace BundleSimulatorService

/-! ## Into the queues and out of them -/

/-- **What a step does to the requests.**  It starts queued requests; and a request
that is queued after it was queued before, has just been submitted, or comes back from
a simulation. -/
structure Handles (s : BundleSimulatorService B) (a : Action B) (t : BundleSimulatorService B) :
    Prop where
  started : ∃ started : List (SimulationRequest B),
    t.world.simulateCalls = s.world.simulateCalls ++ started.map SimulationRequest.job ∧
      ∀ r ∈ started, ∃ p, r ∈ s.queue p
  queued : ∀ p, ∀ r ∈ t.queue p, (r ∈ s.queue p ∧ a ≠ .message .clearQueue) ∨
    (∃ tx, a = .message (.addSimulation r tx)) ∨
    ∃ id error r₀, a = .complete id (.reschedule error) ∧ s.pending id = some r₀ ∧
      r₀.retries + 1 ≤ s.config.maxRetries ∧ r = rescheduled r₀

/-- A step that starts nothing and lets nothing in. -/
theorem Handles.of_eq {s t : BundleSimulatorService B} {a : Action B}
    (ha : a ≠ .message .clearQueue) (hcalls : t.world.simulateCalls = s.world.simulateCalls)
    (hqueue : t.queue = s.queue) : Handles s a t where
  started := ⟨[], by rw [hcalls, List.map_nil, List.append_nil], fun r hr => by cases hr⟩
  queued := fun p r hr => Or.inl ⟨hqueue ▸ hr, ha⟩

theorem step_handles [Bundle B] {profile : BuildProfile} {s t : BundleSimulatorService B}
    {a : Action B} (h : step profile s a = .ok t) : Handles s a t := by
  have hnone : ∀ u : BundleSimulatorService B, u.world.simulateCalls = s.world.simulateCalls →
      ∃ started : List (SimulationRequest B),
        u.world.simulateCalls = s.world.simulateCalls ++ started.map SimulationRequest.job ∧
          ∀ r ∈ started, ∃ p, r ∈ s.queue p := fun u hu =>
    ⟨[], by rw [hu, List.map_nil, List.append_nil], fun r hr => by cases hr⟩
  have hpush : ∀ (u : BundleSimulatorService B) (r : SimulationRequest B), u.queue = s.queue →
      ∀ p, ∀ x ∈ (u.push r).queue p, x ∈ s.queue p ∨ x = r := by
    intro u r hu p x hx
    rcases push_queue u r p with hsame | happ
    · rw [hsame, hu] at hx
      exact Or.inl hx
    · rw [happ, hu] at hx
      exact (List.mem_append.mp hx).imp_right List.mem_singleton.mp
  cases step_effect h with
  | clearQueue =>
    refine ⟨hnone _ rfl, fun p r hr => ?_⟩
    cases p <;> cases hr
  | addEventListener tx => exact Handles.of_eq (by simp) rfl rfl
  | sameBlockNumber => exact Handles.of_eq (by simp) rfl rfl
  | newBlockNumber hnum =>
    exact Handles.of_eq (by simp) rfl (funext fun p => queue_notifyListeners _ _ p)
  | @accept r tx hcap =>
    refine ⟨hnone _ (by rw [answer, push_world]), fun p x hx => ?_⟩
    rcases hpush s r rfl p x hx with hold | rfl
    · exact Or.inl ⟨hold, by simp⟩
    · exact Or.inr (Or.inl ⟨tx, rfl⟩)
  | refuse tx hcap => exact Handles.of_eq (by simp) rfl rfl
  | report hsims hpending hrep =>
    exact Handles.of_eq (by simp) rfl (funext fun p => queue_notifyListeners _ _ p)
  | @requeue id error pre post r hsims hpending hretries =>
    refine ⟨hnone _ (by rw [push_world]; rfl), fun p x hx => ?_⟩
    rcases hpush (s.cutSimulation pre post id (.reschedule error)) (rescheduled r) rfl p x hx with
      hold | rfl
    · exact Or.inl ⟨hold, by simp⟩
    · exact Or.inr (Or.inr ⟨id, error, r, rfl, hpending, hretries, rfl⟩)
  | full now hcap => exact Handles.of_eq (by simp) rfl rfl
  | @batch now nextBlock started dropped q' hcap hadd hb =>
    refine ⟨⟨started, ?_, fun r hr => ?_⟩, fun p r hr => ?_⟩
    · obtain ⟨delivered, hworld⟩ := s.afterBatch_world nextBlock started dropped q'
      rw [hworld]
      rfl
    · rcases hb.mem_of_started r hr with hr | hr
      · exact ⟨.high, hr⟩
      · exact ⟨.normal, hr⟩
    · refine Or.inl ⟨?_, by simp⟩
      rw [← queueOf_queues, afterBatch_queues] at hr
      cases p
      · exact hb.second_sublist.subset hr
      · exact hb.first_sublist.subset hr
  | dropListener tx => exact Handles.of_eq (by simp) rfl rfl

end BundleSimulatorService

/-! ## Runs on tickets -/

theorem length_ticketed (k : ℕ) (run : List (Action B)) :
    (ticketed k run).length = run.length := by
  have hlen := congrArg List.length (map_bundle_ticketed k run)
  rwa [List.length_map] at hlen

theorem take_ticketed (m k : ℕ) (run : List (Action B)) :
    (ticketed k run).take m = ticketed k (run.take m) := by
  induction run generalizing m k with
  | nil => rw [ticketed, List.take_nil, List.take_nil, ticketed]
  | cons a run ih =>
    cases m with
    | zero => rfl
    | succ m => rw [ticketed, List.take_succ_cons, ih, List.take_succ_cons, ticketed]

theorem ticketed_concat (run : List (Action B)) (a : Action B) :
    ticketed 0 (run ++ [a]) = ticketed 0 run ++ [a.map (Ticketed.mk run.length)] := by
  rw [ticketed_append, Nat.zero_add]
  rfl

/-- What is submitted at a position has that position as its ticket. -/
theorem ticket_of_map_eq {k tx : ℕ} {a : Action B} {r : SimulationRequest (Ticketed B)}
    (h : a.map (Ticketed.mk k) = .message (.addSimulation r tx)) : r.request.ticket = k := by
  rcases a with (_ | _ | ⟨r', _⟩ | _) | _ | _ | _ <;> cases h
  rfl

namespace BundleSimulatorService

variable [Bundle B] {profile : BuildProfile} {n : U64} {cfg : BundleSimulatorServiceConfig}

/-- What was accepted before a position has a ticket below it. -/
theorem ticket_lt_of_accepted {run : List (Action B)} {s : BundleSimulatorService (Ticketed B)}
    (h : exec (step profile) (new n cfg) (ticketed 0 run) = .ok s)
    {a : SimulationRequest (Ticketed B)} (ha : a ∈ s.ledger.accepted) :
    a.request.ticket < run.length := by
  obtain ⟨ans, hans, -, rfl⟩ := mem_accepted.mp ha
  have hsubmitted : (ans.request, ans.tx) ∈ (ticketed 0 run).filterMap Action.submission := by
    rw [← exec_answeredSubmissions h]
    exact List.mem_map.mpr ⟨ans, hans, rfl⟩
  exact (List.getElem?_eq_some_iff.mp (submission_ticketed hsubmitted).2).1

/-! ## Fresh queues -/

/-- No queued request is from before a clear. -/
def FreshQueues (run : List (Action (Ticketed B))) (s : BundleSimulatorService (Ticketed B)) :
    Prop :=
  ∀ p, ∀ r ∈ s.queue p, ¬ ClearedAfter run r.request.ticket

/-- The action `a`, behind `run`, does not reschedule a request from before a clear: if
it is a `Reschedule` of a request that has a retry left, the request was submitted
after the last clear. -/
def ReschedulesFresh (run : List (Action (Ticketed B))) (s : BundleSimulatorService (Ticketed B))
    (a : Action (Ticketed B)) : Prop :=
  ∀ id error r, a = .complete id (.reschedule error) → s.pending id = some r →
    r.retries + 1 ≤ s.config.maxRetries → ¬ ClearedAfter run r.request.ticket

/-- No action of the run reschedules a request from before a clear. -/
def AlwaysReschedulesFresh (profile : BuildProfile) (n : U64) (cfg : BundleSimulatorServiceConfig)
    (run : List (Action (Ticketed B))) : Prop :=
  ∀ pre a s, pre ++ [a] <+: run → exec (step profile) (new n cfg) pre = .ok s →
    ReschedulesFresh pre s a

theorem AlwaysReschedulesFresh.of_prefix {run run' : List (Action (Ticketed B))}
    (h : AlwaysReschedulesFresh profile n cfg run) (hpre : run' <+: run) :
    AlwaysReschedulesFresh profile n cfg run' :=
  fun pre a s hprea hexec => h pre a s (hprea.trans hpre) hexec

/-- One step keeps the queues fresh, unless it reschedules a request from before a
clear. -/
theorem step_freshQueues {run : List (Action B)} {a : Action B}
    {s t : BundleSimulatorService (Ticketed B)} (hs : FreshQueues (ticketed 0 run) s)
    (hstep : step profile s (a.map (Ticketed.mk run.length)) = .ok t)
    (hfresh : ReschedulesFresh (ticketed 0 run) s (a.map (Ticketed.mk run.length))) :
    FreshQueues (ticketed 0 (run ++ [a])) t := by
  intro p r hr hcleared
  rw [ticketed_concat] at hcleared
  have hconcat := hcleared.concat
  rw [length_ticketed] at hconcat
  rcases (step_handles hstep).queued p r hr with
    ⟨hold, hnot⟩ | ⟨tx, hadd⟩ | ⟨id, error, r₀, ha, hpending, hretries, rfl⟩
  · rcases hconcat with hcleared | ⟨-, hclear⟩
    · exact hs p r hold hcleared
    · exact hnot hclear
  · -- it has just been submitted, and nothing has happened since
    have hticket := ticket_of_map_eq hadd
    rcases hconcat with ⟨i, hlt, hi⟩ | ⟨hlt, -⟩
    · have hlen := (List.getElem?_eq_some_iff.mp hi).1
      rw [length_ticketed] at hlen
      omega
    · omega
  · rcases hconcat with hcleared | ⟨-, hclear⟩
    · exact hfresh id error r₀ ha hpending hretries hcleared
    · rw [ha] at hclear
      cases hclear

theorem exec_freshQueues {run : List (Action B)} {s : BundleSimulatorService (Ticketed B)}
    (h : exec (step profile) (new n cfg) (ticketed 0 run) = .ok s)
    (hfresh : AlwaysReschedulesFresh profile n cfg (ticketed 0 run)) :
    FreshQueues (ticketed 0 run) s := by
  induction run using List.reverseRecOn generalizing s with
  | nil =>
    cases h
    intro p r hr
    cases p <;> cases hr
  | append_singleton run a ih =>
    rw [ticketed_concat] at h hfresh
    obtain ⟨u, hu, hlast⟩ := exec_concat.mp h
    have hpre : ticketed 0 run <+: ticketed 0 run ++ [a.map (Ticketed.mk run.length)] :=
      List.prefix_append _ _
    exact step_freshQueues (ih hu (hfresh.of_prefix hpre)) hlast
      (hfresh _ _ u (List.prefix_refl _) hu)

/-- **The queues hold a request from before a clear exactly if one is rescheduled.** -/
theorem freshQueues_along_iff {run : List (Action B)} {s : BundleSimulatorService (Ticketed B)}
    (h : exec (step profile) (new n cfg) (ticketed 0 run) = .ok s) :
    (∀ pre t, pre <+: ticketed 0 run → exec (step profile) (new n cfg) pre = .ok t →
      FreshQueues pre t) ↔ AlwaysReschedulesFresh profile n cfg (ticketed 0 run) := by
  constructor
  · rintro hall pre a u hpre hu id error r rfl hpending hretries hcleared
    obtain ⟨t, ht⟩ := exec_of_prefix h hpre
    obtain ⟨u', hu', hstep⟩ := exec_concat.mp ht
    rw [hu, Except.ok.injEq] at hu'
    subst hu'
    -- the request is in its queue after the step
    have hqueued : rescheduled r ∈ t.queue r.priority := by
      cases step_effect hstep with
      | @report _ _ pre' post' r' e hsims hpending' hrep =>
        rw [hpending, Option.some.injEq] at hpending'
        rw [report, ← hpending', if_neg (Nat.not_lt.mpr hretries)] at hrep
        cases hrep
      | @requeue _ _ pre' post' r' hsims hpending' hretries' =>
        rw [hpending, Option.some.injEq] at hpending'
        rw [← hpending']
        show rescheduled r ∈ (push _ (rescheduled r)).queue (rescheduled r).priority
        rw [queue_push_self]
        exact List.mem_append_right _ (List.mem_singleton_self _)
    exact hall _ t hpre ht _ _ hqueued (hcleared.mono _)
  · intro hfresh pre t hpre ht
    obtain ⟨m, rfl⟩ : ∃ m, pre = ticketed 0 (run.take m) :=
      ⟨pre.length, by rw [← take_ticketed]; exact List.prefix_iff_eq_take.mp hpre⟩
    exact exec_freshQueues ht (hfresh.of_prefix hpre)

/-! ## The barrier -/

/-- After each clear of the run nothing that was accepted before it is passed to
`simulate_bundle`. -/
def IsBarrier (profile : BuildProfile) (n : U64) (cfg : BundleSimulatorServiceConfig)
    (run : List (Action (Ticketed B))) (s : BundleSimulatorService (Ticketed B)) : Prop :=
  ∀ pre post s₀, run = pre ++ .message .clearQueue :: post →
    exec (step profile) (new n cfg) pre = .ok s₀ → ∀ a ∈ s₀.ledger.accepted,
      ∀ call ∈ s.world.simulateCalls.drop s₀.world.simulateCalls.length,
        call.1.ticket ≠ a.request.ticket

/-- What is passed to the simulator after a clear was submitted after it. -/
theorem le_ticket_of_call {run : List (Action B)} {s : BundleSimulatorService (Ticketed B)}
    (h : exec (step profile) (new n cfg) (ticketed 0 run) = .ok s)
    (hfresh : AlwaysReschedulesFresh profile n cfg (ticketed 0 run))
    {pre post : List (Action (Ticketed B))} {s₀ : BundleSimulatorService (Ticketed B)}
    (hrun : ticketed 0 run = pre ++ .message .clearQueue :: post)
    (hs₀ : exec (step profile) (new n cfg) pre = .ok s₀) :
    ∀ call ∈ s.world.simulateCalls.drop s₀.world.simulateCalls.length,
      pre.length ≤ call.1.ticket := by
  induction run using List.reverseRecOn generalizing s post with
  | nil => exact absurd hrun (by simp [ticketed])
  | append_singleton run a ih =>
    rw [ticketed_concat] at h hfresh hrun
    obtain ⟨u, hu, hlast⟩ := exec_concat.mp h
    rcases List.eq_nil_or_concat' post with rfl | ⟨post, b, rfl⟩
    · -- the clear is the last action
      obtain ⟨hpre, hclear⟩ := List.append_inj' hrun rfl
      rw [hpre, hs₀, Except.ok.injEq] at hu
      rw [List.cons.injEq] at hclear
      rw [hclear.1] at hlast
      cases hlast
      intro call hcall
      have hnil : u.world.simulateCalls.drop s₀.world.simulateCalls.length = [] := by
        rw [hu, List.drop_length]
      rw [onMessage, hnil] at hcall
      cases hcall
    · rw [← List.cons_append, ← List.append_assoc] at hrun
      obtain ⟨hpre, -⟩ := List.append_inj' hrun rfl
      have hprefix : ticketed 0 run <+: ticketed 0 run ++ [a.map (Ticketed.mk run.length)] :=
        List.prefix_append _ _
      have hfresh' := hfresh.of_prefix hprefix
      obtain ⟨started, hcalls, hstarted⟩ := (step_handles hlast).started
      have hlen : s₀.world.simulateCalls.length ≤ u.world.simulateCalls.length := by
        rw [hpre] at hu
        obtain ⟨v, hv, hrest⟩ := exec_append.mp hu
        rw [hs₀, Except.ok.injEq] at hv
        subst hv
        exact (Ledger.exec_grows hrest).calls.length_le
      intro call hcall
      rw [hcalls, List.drop_append_of_le_length hlen] at hcall
      rcases List.mem_append.mp hcall with hcall | hcall
      · exact ih hu hfresh' hpre call hcall
      · obtain ⟨r, hr, rfl⟩ := List.mem_map.mp hcall
        obtain ⟨p, hp⟩ := hstarted r hr
        by_contra hlt
        refine exec_freshQueues hu hfresh' p r hp ⟨pre.length, Nat.not_le.mp hlt, ?_⟩
        rw [hpre, List.getElem?_append_right (Nat.le_refl _), Nat.sub_self,
          List.getElem?_cons_zero]

/-- **`ClearQueue` is a barrier where nothing from before it is rescheduled.**  A run of
the service is a run on tickets, read without them.  If no action of it reschedules a
request that was submitted before a clear, then after each of its clears no request
that was accepted before is passed to `simulate_bundle`. -/
theorem clearQueue_barrier {run : List (Action B)} {s : BundleSimulatorService B}
    (h : exec (step profile) (new n cfg) run = .ok s) :
    ∃ s' : BundleSimulatorService (Ticketed B),
      exec (step profile) (new n cfg) (ticketed 0 run) = .ok s' ∧
      s'.map Ticketed.bundle = s ∧
      (AlwaysReschedulesFresh profile n cfg (ticketed 0 run) →
        IsBarrier profile n cfg (ticketed 0 run) s') := by
  obtain ⟨s', hs', hmap⟩ := exec_ticketed h
  refine ⟨s', hs', hmap, fun hfresh pre post s₀ hrun hs₀ a ha call hcall hticket => ?_⟩
  have hle := le_ticket_of_call hs' hfresh hrun hs₀ call hcall
  have hpre : pre = ticketed 0 (run.take pre.length) := by
    rw [← take_ticketed, hrun, List.take_left]
  have hlt : a.request.ticket < pre.length := by
    rw [hpre] at hs₀
    have hlt := ticket_lt_of_accepted hs₀ ha
    exact Nat.lt_of_lt_of_le hlt (List.length_take_le _ _)
  omega

/-- A request is in flight when the queues are cleared, and fails; another one is
submitted after that. -/
def failedRun : List (Action SendBundleRequest) :=
  [.message (.addSimulation (normalRequest 5 none) 0),
    .schedule 0,
    .message .clearQueue,
    .complete 0 (.fatal ⟨"reverted"⟩),
    .message (.addSimulation (normalRequest 5 none) 1),
    .schedule 1]

theorem clearQueue_barrier_failedRun :
    ∃ s' : BundleSimulatorService (Ticketed SendBundleRequest),
      exec (step ⟨true⟩) (new 7 tightConfig) (ticketed 0 failedRun) = .ok s' ∧
        IsBarrier ⟨true⟩ 7 tightConfig (ticketed 0 failedRun) s' := by
  obtain ⟨s, hs⟩ : ∃ s, exec (step ⟨true⟩) (new 7 tightConfig) failedRun = .ok s := ⟨_, rfl⟩
  obtain ⟨s', hs', -, hbarrier⟩ := clearQueue_barrier hs
  refine ⟨s', hs', hbarrier fun pre a u hpre _ id error r ha _ _ => ?_⟩
  -- no action of the run is a reschedule
  have hmem : a ∈ ticketed 0 failedRun :=
    hpre.subset (List.mem_append_right _ (List.mem_singleton_self a))
  rw [ha] at hmem
  simp [ticketed, failedRun, Action.map] at hmem

/-- The request in flight comes back instead. -/
def clearedRun : List (Action SendBundleRequest) :=
  [.message (.addSimulation (normalRequest 5 none) 0),
    .schedule 0,
    .message .clearQueue,
    .complete 0 (.reschedule ⟨"timeout"⟩),
    .schedule 1]

/-- It is passed to the simulator again after the clear. -/
theorem clearedRun_not_barrier :
    ∃ s' : BundleSimulatorService (Ticketed SendBundleRequest),
      exec (step ⟨true⟩) (new 7 tightConfig) (ticketed 0 clearedRun) = .ok s' ∧
        ¬ IsBarrier ⟨true⟩ 7 tightConfig (ticketed 0 clearedRun) s' := by
  refine ⟨_, rfl, fun h => ?_⟩
  have hsplit : ticketed 0 clearedRun =
      (ticketed 0 clearedRun).take 2 ++ .message .clearQueue :: (ticketed 0 clearedRun).drop 3 :=
    rfl
  exact h _ _ _ hsplit rfl _ List.mem_cons_self _ List.mem_cons_self rfl

end BundleSimulatorService
end Backend
end MevShare
