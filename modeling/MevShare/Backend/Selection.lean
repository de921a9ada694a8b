import MevShare.Backend.Scheduling
import MevShare.Library.Sweep

/-!
# What a batch selects

`pop_best_requests` searches the two queues from the front again for every request that it
removes.  `Backend.Scheduling` has shown that it draws a batch, and `Library.Sweep` that a
batch can be had by reading the queues once.  Together they say what is selected, without
any of the searches: `popBestRequests_onePass`.
-/

namespace MevShare
namespace Backend

open Rpc Rust Draw

variable {B : Type} [Bundle B]

namespace SimulationRequest

/-- The request is neither started nor dropped. -/
def Stays (nextBlock : U64) (now : Instant) (r : SimulationRequest B) : Prop :=
  ¬ r.Startable nextBlock now ∧ ¬ r.Outdated nextBlock now

instance (nextBlock : U64) (now : Instant) (r : SimulationRequest B) :
    Decidable (r.Stays nextBlock now) :=
  inferInstanceAs (Decidable (_ ∧ _))

theorem starts_verdict (nextBlock : U64) (now : Instant) :
    starts (verdict (B := B) nextBlock now) = fun r => decide (r.Startable nextBlock now) := by
  funext r
  exact decide_eq_decide.mpr verdict_eq_start_iff

theorem drops_verdict (nextBlock : U64) (now : Instant) :
    drops (verdict (B := B) nextBlock now) = fun r => decide (r.Outdated nextBlock now) := by
  funext r
  exact decide_eq_decide.mpr verdict_eq_drop_iff

theorem waits_verdict (nextBlock : U64) (now : Instant) :
    waits (verdict (B := B) nextBlock now) = fun r => decide (r.Stays nextBlock now) := by
  funext r
  refine decide_eq_decide.mpr ?_
  rw [Stays, ← verdict_eq_start_iff, ← verdict_eq_drop_iff]
  cases r.verdict nextBlock now with
  | wait => simp
  | drop => simp
  | start => simp

end SimulationRequest

namespace BundleSimulatorService

/-- **The selection in one pass.**  Of the requests that may start, high priority first, the
first ones are taken, up to the capacity.  The queues are read as far as the last of these,
or to their end if there are too few; of the requests that are read, the outdated ones are
dropped and reported, in order, and all others stay where they are. -/
theorem popBestRequests_onePass (profile : BuildProfile) (s : BundleSimulatorService B)
    (now : Instant) (nextBlock : U64)
    (hnext : s.capacity ≠ 0 → profile.addU64 s.currentBlockNumber 1 = .ok nextBlock) :
    let all := s.highPriorityQueue ++ s.normalPriorityQueue
    let startable := fun r : SimulationRequest B => decide (r.Startable nextBlock now)
    let outdated := fun r : SimulationRequest B => decide (r.Outdated nextBlock now)
    let stays := fun r : SimulationRequest B => decide (r.Stays nextBlock now)
    ∃ k dropped high normal, Reaches startable s.capacity all k ∧
      dropped = (all.take k).filter outdated ∧
      high = (s.highPriorityQueue.take k).filter stays ++ s.highPriorityQueue.drop k ∧
      normal = (s.normalPriorityQueue.take (k - s.highPriorityQueue.length)).filter stays ++
        s.normalPriorityQueue.drop (k - s.highPriorityQueue.length) ∧
      s.popBestRequests profile now =
        .ok (({ s with highPriorityQueue := high, normalPriorityQueue := normal } :
            BundleSimulatorService B).notifyAll (dropped.map (outdatedEvent nextBlock)),
          (all.filter startable).take s.capacity) := by
  intro all startable outdated stays
  obtain ⟨started, dropped, q', hbatch, hloop⟩ :=
    popBestRequestsLoop_spec nextBlock now s.capacity s
  obtain ⟨hstarted, k, hreaches, hdropped, hhigh, hnormal⟩ := hbatch.one_pass
  rw [SimulationRequest.starts_verdict] at hstarted hreaches
  rw [SimulationRequest.drops_verdict] at hdropped
  rw [SimulationRequest.waits_verdict] at hhigh hnormal
  refine ⟨k, dropped, q'.first, q'.second, hreaches, hdropped, hhigh, hnormal, ?_⟩
  have hpop : s.popBestRequests profile now = popBestRequestsLoop nextBlock now s.capacity s := by
    by_cases hcapacity : s.capacity = 0
    · rw [popBestRequests, if_pos hcapacity, hcapacity]
      rfl
    · rw [popBestRequests, if_neg hcapacity, hnext hcapacity]
  rw [hpop, hloop, hstarted]
  rfl

/-! ### An example -/

/-- A request for one block, or for any from it on. -/
def windowRequest (block : U64) (maxBlock : Option U64) : SimulationRequest SendBundleRequest where
  retries := 0
  request := SendBundleRequest.new block maxBlock .v01 []
  overrides := ⟨none, none, none, none, none, none, none⟩
  priority := .normal
  backedOffUntil := none

def pairConfig : BundleSimulatorServiceConfig where
  maxRetries := 1
  maxNormalPrioQueueLen := 8
  maxHighPrioQueueLen := 8
  maxConcurrentSimulations := 2

/-- At block 7, with room for two: one request is outdated, one has to wait, and two of the
three others fit. -/
def crowdedService : BundleSimulatorService SendBundleRequest :=
  { new 7 pairConfig with
    highPriorityQueue := [windowRequest 3 (some 5), windowRequest 7 none]
    normalPriorityQueue := [windowRequest 9 none, windowRequest 6 none, windowRequest 5 none] }

theorem popBestRequests_onePass_crowdedService :
    ∃ t, crowdedService.popBestRequests ⟨true⟩ 0 =
      .ok (t, [windowRequest 7 none, windowRequest 6 none]) := by
  obtain ⟨k, dropped, high, normal, -, -, -, -, hpop⟩ :=
    popBestRequests_onePass ⟨true⟩ crowdedService 0 8 fun _ => rfl
  exact ⟨_, hpop⟩

end BundleSimulatorService
end Backend
end MevShare
