import Mathlib.Data.List.Nodup
import MevShare.Backend.Conservation

/-!
# Priority and first-come order

Three statements about who is served before whom, for every step of every run.

* A request of normal priority is picked only where no startable request is left
  in the high priority queue.
* A request that stays queued while one behind it is started was not startable.
* The number of requests ahead of a queued request never grows.

The first two are about a batch, and they are the order laws of `Library.Draw`:
`first_wait_of_last_notMem_first`, applied to the batch up to and including the
pick in question, and `no_overtaking`.  The second needs the entries of the queues
to be told apart, so all three are stated for runs on tickets.  The third is about
every kind of step: a step deletes entries of a queue or appends one entry to it
(`step_queue`), and neither moves an entry to the back.
-/

namespace MevShare
namespace Backend

open Rpc Rust Draw Machine

variable {B : Type} {cfg : BundleSimulatorServiceConfig}

namespace BundleSimulatorService

/-! ## Batches up to a pick -/

/-- A batch of a smaller capacity is a beginning of the batch. -/
theorem popBestRequestsLoop_take [Bundle B] {nextBlock : U64} {now : Instant} {capacity : ℕ}
    {s u : BundleSimulatorService B} {ready : List (SimulationRequest B)}
    (h : popBestRequestsLoop nextBlock now capacity s = .ok (u, ready)) {i : ℕ}
    (hi : i ≤ ready.length) :
    ∃ t, popBestRequestsLoop nextBlock now i s = .ok (t, ready.take i) := by
  induction capacity generalizing s u ready i with
  | zero =>
    cases h
    obtain rfl : i = 0 := Nat.le_zero.mp hi
    exact ⟨s, rfl⟩
  | succ capacity ih =>
    cases i with
    | zero => exact ⟨s, rfl⟩
    | succ i =>
      rw [popBestRequestsLoop] at h ⊢
      cases hpop : s.popNextReady nextBlock now with
      | error e =>
        rw [hpop] at h
        cases h
      | ok x =>
        obtain ⟨s₁, req⟩ := x
        rw [hpop] at h
        cases req with
        | none =>
          cases h
          exact absurd hi (Nat.not_succ_le_zero i)
        | some req =>
          simp only at h ⊢
          cases hloop : popBestRequestsLoop nextBlock now capacity s₁ with
          | error e =>
            rw [hloop] at h
            cases h
          | ok y =>
            obtain ⟨s₂, requests⟩ := y
            rw [hloop] at h
            cases h
            obtain ⟨t, ht⟩ := ih hloop (Nat.le_of_succ_le_succ hi)
            exact ⟨t, by rw [ht]; rfl⟩

/-- **High priority first**, for one batch: where the pick `i` is a request of
normal priority, no request left in the high priority queue by this pick is
startable. -/
def HighFirst [Bundle B] (s : BundleSimulatorService B) (nextBlock : U64) (now : Instant)
    (ready : List (SimulationRequest B)) : Prop :=
  ∀ i r, ready[i]? = some r → r.priority = .normal →
    ∃ u, popBestRequestsLoop nextBlock now (i + 1) s = .ok (u, ready.take (i + 1)) ∧
      ∀ x ∈ u.highPriorityQueue, ¬ x.Startable nextBlock now

theorem highFirst_of_loop [Bundle B] {s u : BundleSimulatorService B}
    (hhome : ∀ r ∈ s.highPriorityQueue, r.priority = .high) {nextBlock : U64} {now : Instant}
    {capacity : ℕ} {ready : List (SimulationRequest B)}
    (h : popBestRequestsLoop nextBlock now capacity s = .ok (u, ready)) :
    s.HighFirst nextBlock now ready := by
  intro i r hr hnormal
  obtain ⟨hlt, hget⟩ := List.getElem?_eq_some_iff.mp hr
  obtain ⟨t, ht⟩ := popBestRequestsLoop_take h hlt
  refine ⟨t, ht, ?_⟩
  obtain ⟨started, dropped, q', hb, hspec⟩ := popBestRequestsLoop_spec nextBlock now (i + 1) s
  rw [hspec] at ht
  obtain ⟨rfl, hstarted⟩ := Prod.mk.inj (Except.ok.inj ht)
  have htake : started = ready.take i ++ [r] := by
    rw [hstarted, List.take_succ_eq_append_getElem hlt, hget]
  have hlen : i + 1 = (ready.take i).length + 1 := by
    rw [List.length_take, Nat.min_eq_left (Nat.le_of_lt hlt)]
  have hnot : r ∉ s.queues.first := by
    intro hmem
    rw [hhome r hmem] at hnormal
    cases hnormal
  have hwait := hb.first_wait_of_last_notMem_first htake hlen hnot
  intro x hx
  refine SimulationRequest.not_startable_of_wait (hwait x ?_)
  have hfirst := congrArg Queues.first (queues_notifyAll (s.withQueues q')
    (dropped.map (outdatedEvent nextBlock)))
  exact hfirst ▸ hx

/-- **No overtaking**, for one batch that leads from `s` to `t`. -/
def NoOvertaking [Bundle B] (s t : BundleSimulatorService B) (nextBlock : U64) (now : Instant)
    (ready : List (SimulationRequest B)) : Prop :=
  ∀ p a b, [a, b].Sublist (s.queue p) → b ∈ ready → a ∈ t.queue p → ¬ a.Startable nextBlock now

/-- The requests ahead of a ticket are not more in `t` than in `s`. -/
def NeverBehind (s t : BundleSimulatorService (Ticketed B)) : Prop :=
  ∀ p k, (∃ r ∈ s.queue p, hasTicket k r.request = true) →
    (∃ r ∈ t.queue p, hasTicket k r.request = true) →
      (t.queue p).findIdx (fun r => hasTicket k r.request) ≤
        (s.queue p).findIdx (fun r => hasTicket k r.request)

/-! ## Tickets in the queues -/

section Tickets

variable [Bundle B] {profile : BuildProfile} {n : U64} {run : List (Action B)}
  {s : BundleSimulatorService (Ticketed B)}

theorem countP_queues_le_one
    (h : exec (step profile) (new n cfg) (ticketed 0 run) = .ok s) (k : ℕ) :
    s.highPriorityQueue.countP (fun r => hasTicket k r.request) +
      s.normalPriorityQueue.countP (fun r => hasTicket k r.request) ≤ 1 := by
  have hsum := census_sum (exec_audited h).balanced k .high
  have hle := countP_accepted_le_one h k
  have hown : (s.census k .high).ownQueue =
      s.highPriorityQueue.countP fun r => hasTicket k r.request := rfl
  have hother : (s.census k .high).otherQueue =
      s.normalPriorityQueue.countP fun r => hasTicket k r.request := rfl
  omega

theorem countP_queue_le_one (h : exec (step profile) (new n cfg) (ticketed 0 run) = .ok s)
    (k : ℕ) (p : SimulationPriority) :
    (s.queue p).countP (fun r => hasTicket k r.request) ≤ 1 := by
  have hle := countP_queues_le_one h k
  cases p
  · show s.normalPriorityQueue.countP _ ≤ 1
    omega
  · show s.highPriorityQueue.countP _ ≤ 1
    omega

/-- No request is queued twice. -/
theorem nodup_queues (h : exec (step profile) (new n cfg) (ticketed 0 run) = .ok s) :
    s.queues.all.Nodup := by
  refine List.Nodup.of_map (fun r => r.request.ticket) (List.nodup_iff_count.mpr fun k => ?_)
  have hle := countP_queues_le_one h k
  rw [List.count, List.countP_map]
  show (s.highPriorityQueue ++ s.normalPriorityQueue).countP _ ≤ 1
  rw [List.countP_append]
  exact hle

end Tickets

theorem queue_sublist_all (s : BundleSimulatorService B) (p : SimulationPriority) :
    (s.queue p).Sublist s.queues.all := by
  cases p
  · exact List.sublist_append_right _ _
  · exact List.sublist_append_left _ _

/-! ## Steps and queues -/

theorem push_queue (s : BundleSimulatorService B) (r : SimulationRequest B)
    (p : SimulationPriority) :
    (s.push r).queue p = s.queue p ∨ (s.push r).queue p = s.queue p ++ [r] := by
  by_cases hp : p = r.priority
  · rw [hp]
    exact Or.inr (queue_push_self s r)
  · exact Or.inl (queue_push_of_ne s hp)

/-- **What a step does to a queue**: it deletes entries, or it appends one. -/
theorem step_queue [Bundle B] {profile : BuildProfile} {s t : BundleSimulatorService B}
    {a : Action B} (h : step profile s a = .ok t) (p : SimulationPriority) :
    (t.queue p).Sublist (s.queue p) ∨ ∃ r, t.queue p = s.queue p ++ [r] := by
  have hpush : ∀ (u : BundleSimulatorService B) (r : SimulationRequest B),
      u.queue p = s.queue p → ((u.push r).queue p).Sublist (s.queue p) ∨
        ∃ r', (u.push r).queue p = s.queue p ++ [r'] := by
    intro u r hu
    rcases push_queue u r p with hsame | happ
    · rw [hsame, hu]
      exact Or.inl (List.Sublist.refl _)
    · rw [happ, hu]
      exact Or.inr ⟨r, rfl⟩
  have hsame : t.queue p = s.queue p → (t.queue p).Sublist (s.queue p) ∨
      ∃ r, t.queue p = s.queue p ++ [r] := fun heq => by
    rw [heq]
    exact Or.inl (List.Sublist.refl _)
  cases step_effect h with
  | clearQueue =>
    refine Or.inl ?_
    cases p <;> exact List.nil_sublist _
  | addEventListener tx => exact hsame rfl
  | sameBlockNumber => exact hsame rfl
  | newBlockNumber hnum => exact hsame (queue_notifyListeners _ _ p)
  | accept tx hcap => exact hpush s _ rfl
  | refuse tx hcap => exact hsame rfl
  | report hsims hpending hrep => exact hsame (queue_notifyListeners _ _ p)
  | requeue error hsims hpending hretries => exact hpush (s.cutSimulation _ _ _ _) _ rfl
  | full now hcap => exact hsame rfl
  | batch hcap hadd hb =>
    refine Or.inl ?_
    rw [← queueOf_queues, afterBatch_queues]
    cases p
    · exact hb.second_sublist
    · exact hb.first_sublist
  | dropListener tx => exact hsame rfl

/-- No step moves a queued request to the back. -/
theorem neverBehind_of_step [Bundle B] {profile : BuildProfile} {n : U64} {run : List (Action B)}
    {s t : BundleSimulatorService (Ticketed B)} {a : Action (Ticketed B)}
    (h : exec (step profile) (new n cfg) (ticketed 0 run) = .ok s)
    (hstep : step profile s a = .ok t) : s.NeverBehind t := by
  rintro p k ⟨r, hr, hk⟩ ht
  rcases step_queue hstep p with hsub | ⟨r', happ⟩
  · exact Search.findIdx_le_of_sublist hsub (countP_queue_le_one h k p) ht
  · have hlt : (s.queue p).findIdx (fun r => hasTicket k r.request) < (s.queue p).length :=
      List.findIdx_lt_length_of_exists ⟨r, hr, hk⟩
    have hsame : (t.queue p).findIdx (fun r => hasTicket k r.request) =
        (s.queue p).findIdx (fun r => hasTicket k r.request) := by
      rw [happ, List.findIdx_append, if_pos hlt]
    exact Nat.le_of_eq hsame

/-- **Order.**  Every step of a run is a step on tickets, read without them, and
in it: nobody gets behind.  If the step is a scheduling step at `nextBlock`, what
it starts is `ready`, requests of high priority first, and no startable request is
overtaken by one behind it. -/
theorem order [Bundle B] {profile : BuildProfile} {n : U64} {run : List (Action B)} {a : Action B}
    {u : BundleSimulatorService B}
    (h : exec (step profile) (new n cfg) (run ++ [a]) = .ok u) :
    ∃ s t : BundleSimulatorService (Ticketed B),
      exec (step profile) (new n cfg) (ticketed 0 run) = .ok s ∧
      step profile s (a.map (Ticketed.mk run.length)) = .ok t ∧
      t.map Ticketed.bundle = u ∧
      s.NeverBehind t ∧
      ∀ now nextBlock picked ready, a = .schedule now →
        profile.addU64 s.currentBlockNumber 1 = .ok nextBlock →
        s.popBestRequests profile now = .ok (picked, ready) →
          t = ready.foldl startSimulation picked ∧
          s.HighFirst nextBlock now ready ∧ s.NoOvertaking t nextBlock now ready := by
  obtain ⟨t, ht, hmap⟩ := exec_ticketed h
  rw [ticketed_append] at ht
  obtain ⟨s, hs, hlast⟩ := exec_append.mp ht
  obtain ⟨t', hstep, hnil⟩ := exec_cons.mp hlast
  cases hnil
  rw [Nat.zero_add] at hstep
  refine ⟨s, t, hs, hstep, hmap, neverBehind_of_step hs hstep, ?_⟩
  rintro now nextBlock picked ready rfl hadd hpop
  have ht' : t = ready.foldl startSimulation picked := by
    have hsched : s.schedule profile now = .ok t := hstep
    rw [schedule, hpop] at hsched
    exact (Except.ok.inj hsched).symm
  refine ⟨ht', ?_, ?_⟩
  · -- what is queued with high priority is of high priority
    have hhome : ∀ r ∈ s.highPriorityQueue, r.priority = .high :=
      fun r hr => (exec_audited hs).bounded.home .high r hr
    by_cases hcap : s.capacity = 0
    · rw [popBestRequests, if_pos hcap] at hpop
      cases hpop
      intro i r hr
      cases hr
    · rw [popBestRequests, if_neg hcap, hadd] at hpop
      exact highFirst_of_loop hhome hpop
  · intro p x y hxy hy hx
    have hsched : s.schedule profile now = .ok t := hstep
    rcases schedule_cases hsched with
      ⟨hcap, rfl⟩ | ⟨nextBlock', started, dropped, q', hcap, hadd', hb, hpop', rfl⟩
    · rw [popBestRequests, if_pos hcap] at hpop
      cases hpop
      cases hy
    · rw [hadd] at hadd'
      cases hadd'
      rw [hpop] at hpop'
      cases hpop'
      have hstays : x ∈ q'.all := by
        have hmem := (queue_sublist_all _ p).subset hx
        rw [afterBatch_queues] at hmem
        exact hmem
      have hwait := hb.no_overtaking (nodup_queues hs) (hxy.trans (queue_sublist_all s p)) hstays hy
      exact SimulationRequest.not_startable_of_wait hwait

/-- Room for two simulations, and for three requests in each queue. -/
def roomyConfig : BundleSimulatorServiceConfig where
  maxRetries := 3
  maxNormalPrioQueueLen := 3
  maxHighPrioQueueLen := 3
  maxConcurrentSimulations := 2

/-- A request of normal priority comes first; behind it are two of high priority, of which the
first has to wait. -/
def mixedRun : List (Action SendBundleRequest) :=
  [.message (.addSimulation (normalRequest 5 none) 0),
    .message (.addSimulation { normalRequest 9 none with priority := .high } 1),
    .message (.addSimulation { normalRequest 5 none with priority := .high } 2)]

/-- The block `8` is next: two of them are started. -/
theorem order_mixedRun :
    ∃ u, exec (step ⟨true⟩) (new 7 roomyConfig) (mixedRun ++ [.schedule 0]) = .ok u ∧
      ∃ (s t : BundleSimulatorService (Ticketed SendBundleRequest)) (ready : _),
        exec (step ⟨true⟩) (new 7 roomyConfig) (ticketed 0 mixedRun) = .ok s ∧
        t.map Ticketed.bundle = u ∧ s.NeverBehind t ∧
        ready.map (fun r => (r.priority, r.request.ticket)) = [(.high, 2), (.normal, 0)] ∧
        s.HighFirst 8 0 ready ∧ s.NoOvertaking t 8 0 ready := by
  obtain ⟨u, hu⟩ : ∃ u, exec (step ⟨true⟩) (new 7 roomyConfig) (mixedRun ++ [.schedule 0]) =
      .ok u := ⟨_, rfl⟩
  obtain ⟨s, t, hs, -, hmap, hnever, hschedule⟩ := order hu
  obtain ⟨s', hs', picked, ready, hpop, hready⟩ :
      ∃ s' : BundleSimulatorService (Ticketed SendBundleRequest),
        exec (step ⟨true⟩) (new 7 roomyConfig) (ticketed 0 mixedRun) = .ok s' ∧
        ∃ picked ready, s'.popBestRequests ⟨true⟩ 0 = .ok (picked, ready) ∧
          ready.map (fun r => (r.priority, r.request.ticket)) = [(.high, 2), (.normal, 0)] :=
    ⟨_, rfl, _, _, rfl, rfl⟩
  obtain rfl : s = s' := Except.ok.inj (hs.symm.trans hs')
  have hblock : BuildProfile.addU64 ⟨true⟩ s.currentBlockNumber 1 = .ok 8 := by
    cases hs
    rfl
  obtain ⟨-, hhigh, hovertaking⟩ := hschedule 0 8 picked ready rfl hblock hpop
  exact ⟨u, hu, s, t, ready, hs, hmap, hnever, hready, hhigh, hovertaking⟩

end BundleSimulatorService
end Backend
end MevShare
