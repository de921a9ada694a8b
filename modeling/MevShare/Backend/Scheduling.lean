import MevShare.Backend.Service
import MevShare.Library.Draw

/-!
# The scheduler draws a batch

`pop_next_ready` and `pop_best_requests` search two chained vectors again and
again, with an index that has to be split between the vectors and a flag set
inside the search closure.  This file shows that they compute the draws of
`Library.Draw`, for the judgement `SimulationRequest.verdict`: they return (no
panic, no lack of fuel) and their results are described by `Pop` and `Batch`.

Everything else about scheduling is derived from the two statements at the end:

* `popBestRequestsLoop_spec`: the loop returns, and what it returns is a batch;
* `schedule_cases`: a scheduling step does nothing, or it draws a batch at some
  `next_block`, reports what it dropped and starts the rest.
-/

namespace MevShare
namespace Backend

open Rpc Rust Draw

variable {B : Type}

section Verdicts

variable [Bundle B]

namespace SimulationRequest

/-- What the search closure decides about a request. -/
def verdict (nextBlock : U64) (now : Instant) (r : SimulationRequest B) : Verdict :=
  if r.isReadyAt now then
    if r.exceedsTargetBlock nextBlock then .drop
    else if r.isMinBlock nextBlock then .start
    else .wait
  else .wait

/-- The request would be started: its backoff has passed and both tests of the
window succeed. -/
def Startable (nextBlock : U64) (now : Instant) (r : SimulationRequest B) : Prop :=
  r.isReadyAt now = true ∧ r.exceedsTargetBlock nextBlock = false ∧ r.isMinBlock nextBlock = true

/-- The request would be dropped: its backoff has passed and so has its last
block. -/
def Outdated (nextBlock : U64) (now : Instant) (r : SimulationRequest B) : Prop :=
  r.isReadyAt now = true ∧ r.exceedsTargetBlock nextBlock = true

instance (nextBlock : U64) (now : Instant) (r : SimulationRequest B) :
    Decidable (r.Startable nextBlock now) :=
  inferInstanceAs (Decidable (_ ∧ _ ∧ _))

instance (nextBlock : U64) (now : Instant) (r : SimulationRequest B) :
    Decidable (r.Outdated nextBlock now) :=
  inferInstanceAs (Decidable (_ ∧ _))

theorem verdict_eq_start_iff {nextBlock : U64} {now : Instant} {r : SimulationRequest B} :
    r.verdict nextBlock now = .start ↔ r.Startable nextBlock now := by
  unfold verdict Startable
  cases r.isReadyAt now <;> cases r.exceedsTargetBlock nextBlock <;>
    cases r.isMinBlock nextBlock <;> simp

theorem verdict_eq_drop_iff {nextBlock : U64} {now : Instant} {r : SimulationRequest B} :
    r.verdict nextBlock now = .drop ↔ r.Outdated nextBlock now := by
  unfold verdict Outdated
  cases r.isReadyAt now <;> cases r.exceedsTargetBlock nextBlock <;>
    cases r.isMinBlock nextBlock <;> simp

theorem not_startable_of_wait {nextBlock : U64} {now : Instant} {r : SimulationRequest B}
    (h : r.verdict nextBlock now = .wait) : ¬ r.Startable nextBlock now := by
  rw [← verdict_eq_start_iff, h]
  decide

end SimulationRequest

namespace BundleSimulatorService

/-! ## The closure -/

theorem readyOrOutdated_fst (nextBlock : U64) (now : Instant) (r : SimulationRequest B)
    (flag : Bool) :
    (readyOrOutdated nextBlock now r flag).1 = false ↔ r.verdict nextBlock now = .wait := by
  unfold readyOrOutdated SimulationRequest.verdict
  cases r.isReadyAt now <;> cases r.exceedsTargetBlock nextBlock <;>
    cases r.isMinBlock nextBlock <;> simp

/-- The flag is written only where the search stops. -/
theorem readyOrOutdated_flag (nextBlock : U64) (now : Instant) (r : SimulationRequest B)
    (flag : Bool) (h : (readyOrOutdated nextBlock now r flag).1 = false) :
    (readyOrOutdated nextBlock now r flag).2 = flag := by
  unfold readyOrOutdated at h ⊢
  cases hready : r.isReadyAt now with
  | false => simp
  | true =>
    cases hexc : r.exceedsTargetBlock nextBlock with
    | false => simp
    | true =>
      rw [hready, hexc] at h
      simp at h

/-- The flag says whether the request found is to be dropped. -/
theorem readyOrOutdated_outdated {nextBlock : U64} {now : Instant} {r : SimulationRequest B}
    (h : (readyOrOutdated nextBlock now r false).1 = true) :
    r.verdict nextBlock now =
      if (readyOrOutdated nextBlock now r false).2 = true then .drop else .start := by
  unfold readyOrOutdated SimulationRequest.verdict at *
  cases hready : r.isReadyAt now <;> cases hexc : r.exceedsTargetBlock nextBlock <;>
    cases hmin : r.isMinBlock nextBlock <;> simp_all

end BundleSimulatorService

end Verdicts

/-! ## The queues of a state -/

namespace BundleSimulatorService

/-- The two queues, as the draws see them. -/
def queues (s : BundleSimulatorService B) : Queues (SimulationRequest B) :=
  ⟨s.highPriorityQueue, s.normalPriorityQueue⟩

def withQueues (s : BundleSimulatorService B) (q : Queues (SimulationRequest B)) :
    BundleSimulatorService B :=
  { s with highPriorityQueue := q.first, normalPriorityQueue := q.second }

@[simp] theorem queues_withQueues (s : BundleSimulatorService B)
    (q : Queues (SimulationRequest B)) : (s.withQueues q).queues = q := rfl

@[simp] theorem withQueues_withQueues (s : BundleSimulatorService B)
    (q q' : Queues (SimulationRequest B)) : (s.withQueues q).withQueues q' = s.withQueues q' := rfl

@[simp] theorem queues_notifyListeners (s : BundleSimulatorService B) (e : SimulationEvent B) :
    (s.notifyListeners e).queues = s.queues := rfl

theorem withQueues_notifyListeners (s : BundleSimulatorService B) (e : SimulationEvent B)
    (q : Queues (SimulationRequest B)) :
    (s.notifyListeners e).withQueues q = (s.withQueues q).notifyListeners e := rfl

/-- The events that report dropped requests. -/
def outdatedEvent (nextBlock : U64) (item : SimulationRequest B) : SimulationEvent B :=
  .outdatedRequest item.request item.overrides nextBlock

/-- Reporting a list of events one after the other. -/
def notifyAll (s : BundleSimulatorService B) (events : List (SimulationEvent B)) :
    BundleSimulatorService B :=
  events.foldl notifyListeners s

@[simp] theorem notifyAll_nil (s : BundleSimulatorService B) : s.notifyAll [] = s := rfl

theorem notifyAll_cons (s : BundleSimulatorService B) (e : SimulationEvent B)
    (es : List (SimulationEvent B)) : s.notifyAll (e :: es) = (s.notifyListeners e).notifyAll es :=
  rfl

theorem notifyAll_append (s : BundleSimulatorService B) (es fs : List (SimulationEvent B)) :
    s.notifyAll (es ++ fs) = (s.notifyAll es).notifyAll fs := List.foldl_append

theorem withQueues_notifyAll (s : BundleSimulatorService B) (es : List (SimulationEvent B))
    (q : Queues (SimulationRequest B)) :
    (s.notifyAll es).withQueues q = (s.withQueues q).notifyAll es := by
  induction es generalizing s with
  | nil => rfl
  | cons e es ih => rw [notifyAll_cons, notifyAll_cons, ih, withQueues_notifyListeners]

@[simp] theorem queues_notifyAll (s : BundleSimulatorService B)
    (es : List (SimulationEvent B)) : (s.notifyAll es).queues = s.queues := by
  induction es generalizing s with
  | nil => rfl
  | cons e es ih => rw [notifyAll_cons, ih, queues_notifyListeners]

/-! ## One draw -/

/-- **The index is split correctly.**  Removing at the position where the search
stopped takes the entry out of the queue it is in. -/
theorem removeQueued_spec (s : BundleSimulatorService B) {v : SimulationRequest B → Verdict}
    {pre post : List (SimulationRequest B)} {x : SimulationRequest B}
    (hq : s.highPriorityQueue ++ s.normalPriorityQueue = pre ++ x :: post)
    (hpre : ∀ y ∈ pre, v y = .wait) (hx : v x ≠ .wait) :
    ∃ q', Take v s.queues x q' ∧ s.removeQueued pre.length = .ok (x, s.withQueues q') := by
  rcases List.append_eq_append_iff.mp hq with ⟨pre', hpre', hnormal⟩ | ⟨post', hhigh, hpost⟩
  · -- the entry is in the normal queue, behind all of the high one
    subst hpre'
    refine ⟨⟨s.highPriorityQueue, pre' ++ post⟩, ?_, ?_⟩
    · rw [queues, hnormal]
      exact Take.second (fun y hy => hpre y (List.mem_append_left _ hy))
        (fun y hy => hpre y (List.mem_append_right _ hy)) hx
    · have hge : ¬ (s.highPriorityQueue ++ pre').length < s.highPriorityQueue.length := by
        rw [List.length_append]
        omega
      have hpos : (s.highPriorityQueue ++ pre').length - s.highPriorityQueue.length =
          pre'.length := by
        rw [List.length_append, Nat.add_sub_cancel_left]
      rw [removeQueued, if_neg hge, hpos, hnormal, Search.removeAt_append]
      rfl
  · rcases post' with _ | ⟨y, post'⟩
    · -- the boundary: the entry heads the normal queue
      rw [List.append_nil] at hhigh
      rw [List.nil_append] at hpost
      subst hhigh
      refine ⟨⟨s.highPriorityQueue, post⟩, ?_, ?_⟩
      · have hnone : ∀ y ∈ ([] : List (SimulationRequest B)), v y = .wait := by simp
        rw [queues, ← hpost]
        exact Take.second hpre hnone hx
      · rw [removeQueued, if_neg (Nat.lt_irrefl _), Nat.sub_self, ← hpost]
        rfl
    · rw [List.cons_append, List.cons.injEq] at hpost
      obtain ⟨rfl, rfl⟩ := hpost
      refine ⟨⟨pre ++ post', s.normalPriorityQueue⟩, ?_, ?_⟩
      · rw [queues, hhigh]
        exact Take.first hpre hx
      · have hlt : pre.length < s.highPriorityQueue.length := by
          rw [hhigh, List.length_append, List.length_cons]
          omega
        rw [removeQueued, if_pos hlt, hhigh, Search.removeAt_append]
        rfl

section Loops

variable [Bundle B]

/-- **The search loop returns a draw.**  Each turn removes an entry, so one more
turn than there are entries is enough. -/
theorem popNextReadyLoop_spec (nextBlock : U64) (now : Instant) (fuel : ℕ)
    (s : BundleSimulatorService B) (hfuel : s.queues.all.length < fuel) :
    ∃ dropped r q', Pop (SimulationRequest.verdict nextBlock now) s.queues dropped r q' ∧
      popNextReadyLoop nextBlock now fuel s =
        .ok ((s.withQueues q').notifyAll (dropped.map (outdatedEvent nextBlock)), r) := by
  induction fuel generalizing s with
  | zero => omega
  | succ fuel ih =>
    have hflag : ∀ r : SimulationRequest B, (readyOrOutdated nextBlock now r false).1 = false →
        (readyOrOutdated nextBlock now r false).2 = false :=
      fun r h => readyOrOutdated_flag nextBlock now r false h
    rcases Search.position_cases hflag (s.highPriorityQueue ++ s.normalPriorityQueue) with
      ⟨hall, hpos⟩ | ⟨pre, x, post, hq, hpre, hx, hpos⟩
    · refine ⟨[], none, s.queues, Pop.idle fun x hx => ?_, ?_⟩
      · exact (readyOrOutdated_fst nextBlock now x false).mp (hall x hx)
      · rw [popNextReadyLoop, hpos]
        rfl
    · have hwait : ∀ y ∈ pre, y.verdict nextBlock now = .wait := fun y hy =>
        (readyOrOutdated_fst nextBlock now y false).mp (hpre y hy)
      have hne : x.verdict nextBlock now ≠ .wait := by
        rw [ne_eq, ← readyOrOutdated_fst nextBlock now x false, hx]
        decide
      obtain ⟨q₁, ht, hrem⟩ := s.removeQueued_spec hq hwait hne
      have hv := readyOrOutdated_outdated hx
      cases hout : (readyOrOutdated nextBlock now x false).2 with
      | false =>
        rw [hout, if_neg (by decide)] at hv
        refine ⟨[], some x, q₁, Pop.start ht hv, ?_⟩
        rw [popNextReadyLoop, hpos, hout]
        simp only [hrem]
        rfl
      | true =>
        rw [hout, if_pos rfl] at hv
        have hlen : q₁.all.length < fuel := by
          have hlt := ht.length_lt
          omega
        obtain ⟨dropped, r, q', hp, hloop⟩ :=
          ih ((s.withQueues q₁).notifyListeners (outdatedEvent nextBlock x)) hlen
        refine ⟨x :: dropped, r, q', Pop.drop ht hv hp, ?_⟩
        rw [popNextReadyLoop, hpos, hout]
        simp only [hrem]
        exact hloop

theorem popNextReady_spec (nextBlock : U64) (now : Instant) (s : BundleSimulatorService B) :
    ∃ dropped r q', Pop (SimulationRequest.verdict nextBlock now) s.queues dropped r q' ∧
      s.popNextReady nextBlock now =
        .ok ((s.withQueues q').notifyAll (dropped.map (outdatedEvent nextBlock)), r) := by
  refine popNextReadyLoop_spec nextBlock now _ s ?_
  rw [queues, Queues.all, List.length_append]
  exact Nat.lt_succ_self _

/-! ## Batches -/

/-- **The batch loop returns a batch.** -/
theorem popBestRequestsLoop_spec (nextBlock : U64) (now : Instant) (capacity : ℕ)
    (s : BundleSimulatorService B) :
    ∃ started dropped q',
      Batch (SimulationRequest.verdict nextBlock now) capacity s.queues started dropped q' ∧
      popBestRequestsLoop nextBlock now capacity s =
        .ok ((s.withQueues q').notifyAll (dropped.map (outdatedEvent nextBlock)), started) := by
  induction capacity generalizing s with
  | zero => exact ⟨[], [], s.queues, Batch.full, rfl⟩
  | succ capacity ih =>
    obtain ⟨dropped, r, q₁, hp, hpop⟩ := popNextReady_spec nextBlock now s
    cases r with
    | none =>
      refine ⟨[], dropped, q₁, hp.batch_none rfl capacity, ?_⟩
      rw [popBestRequestsLoop, hpop]
    | some req =>
      obtain ⟨started, dropped', q', hb, hloop⟩ :=
        ih ((s.withQueues q₁).notifyAll (dropped.map (outdatedEvent nextBlock)))
      rw [queues_notifyAll, queues_withQueues] at hb
      refine ⟨req :: started, dropped ++ dropped', q', hp.batch_some rfl hb, ?_⟩
      rw [popBestRequestsLoop, hpop]
      simp only [hloop, withQueues_notifyAll, withQueues_withQueues, List.map_append,
        notifyAll_append]

/-- The state after a batch at `nextBlock` that started `started`, dropped
`dropped` and left `q'`. -/
def afterBatch (s : BundleSimulatorService B) (nextBlock : U64)
    (started dropped : List (SimulationRequest B)) (q' : Queues (SimulationRequest B)) :
    BundleSimulatorService B :=
  started.foldl startSimulation
    ((s.withQueues q').notifyAll (dropped.map (outdatedEvent nextBlock)))

/-- **Scheduling returns**, unless the next block number overflows. -/
theorem popBestRequests_total (profile : BuildProfile) (s : BundleSimulatorService B)
    (now : Instant) :
    (∃ t ready, s.popBestRequests profile now = .ok (t, ready)) ∨
      s.capacity ≠ 0 ∧ profile.overflowChecks = true ∧
        UInt64.size ≤ s.currentBlockNumber.toNat + 1 ∧
        s.popBestRequests profile now = .error (.panicked "attempt to add with overflow") := by
  by_cases hcap : s.capacity = 0
  · exact Or.inl ⟨s, [], by rw [popBestRequests, if_pos hcap]⟩
  · rw [popBestRequests, if_neg hcap]
    rcases profile.addU64_cases s.currentBlockNumber 1 with ⟨nextBlock, hadd⟩ |
      ⟨hchecks, hsize, hadd⟩
    · obtain ⟨started, dropped, q', -, hloop⟩ :=
        popBestRequestsLoop_spec nextBlock now s.capacity s
      rw [hadd]
      exact Or.inl ⟨_, _, hloop⟩
    · rw [hadd]
      exact Or.inr ⟨hcap, hchecks, hsize, rfl⟩

/-- **What a scheduling step can do.**  With no capacity it does nothing;
otherwise it draws a batch at the block after the current one. -/
theorem schedule_cases {profile : BuildProfile} {s t : BundleSimulatorService B} {now : Instant}
    (h : s.schedule profile now = .ok t) :
    (s.capacity = 0 ∧ t = s) ∨
      ∃ nextBlock started dropped q', s.capacity ≠ 0 ∧
        profile.addU64 s.currentBlockNumber 1 = .ok nextBlock ∧
        Batch (SimulationRequest.verdict nextBlock now) s.capacity s.queues started dropped q' ∧
        s.popBestRequests profile now =
          .ok ((s.withQueues q').notifyAll (dropped.map (outdatedEvent nextBlock)), started) ∧
        t = s.afterBatch nextBlock started dropped q' := by
  by_cases hcap : s.capacity = 0
  · rw [schedule, popBestRequests, if_pos hcap] at h
    cases h
    exact Or.inl ⟨hcap, rfl⟩
  · cases hadd : profile.addU64 s.currentBlockNumber 1 with
    | error e =>
      rw [schedule, popBestRequests, if_neg hcap, hadd] at h
      cases h
    | ok nextBlock =>
      obtain ⟨started, dropped, q', hb, hloop⟩ :=
        popBestRequestsLoop_spec nextBlock now s.capacity s
      have hpop : s.popBestRequests profile now =
          .ok ((s.withQueues q').notifyAll (dropped.map (outdatedEvent nextBlock)), started) := by
        rw [popBestRequests, if_neg hcap, hadd]
        exact hloop
      rw [schedule, hpop] at h
      cases h
      exact Or.inr ⟨nextBlock, started, dropped, q', hcap, rfl, hb, hpop, rfl⟩

end Loops

end BundleSimulatorService
end Backend
end MevShare
