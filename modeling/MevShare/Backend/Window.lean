import MevShare.Backend.Limits

/-!
# The inclusion window

`Inclusion` documents `block` as the first and `max_block` as the last block a
bundle is valid for, both included.  The scheduler tests the two ends with two
predicates of different strictness: `exceeds_target_block` is `>` on the last
block, as documented, but `is_min_block` is `>` on the first block too, where the
window asks for `≥`.

So exactly one block is treated wrongly, the first one, and there the request is
neither started nor dropped but left waiting (`honoursWindow_iff`).  A window that
consists of its first block only is never served (`handedAt_iff`).  In the other
direction nothing goes wrong: what is handed to the simulator is in its window.
-/

namespace MevShare
namespace Backend

open Rpc Rust Draw Machine

variable {B : Type} [Bundle B]

namespace SimulationRequest

/-- `block` lies in the window of the request, both ends included. -/
def InWindow (r : SimulationRequest B) (block : U64) : Prop :=
  (Bundle.inclusion r.request).blockNumber ≤ block ∧
    ∀ m, (Bundle.inclusion r.request).maxBlockNumber = some m → block ≤ m

/-- The window of the request has a last block, and it lies before `block`. -/
def PastWindow (r : SimulationRequest B) (block : U64) : Prop :=
  ∃ m, (Bundle.inclusion r.request).maxBlockNumber = some m ∧ m < block

/-- The search treats a request at `nextBlock` as its window asks for: the request
is found to start exactly in its window, and found to drop exactly past it. -/
def HonoursWindow (r : SimulationRequest B) (now : Instant) (nextBlock : U64) : Prop :=
  (BundleSimulatorService.readyOrOutdated nextBlock now r false = (true, false) ↔
      r.InWindow nextBlock) ∧
    (BundleSimulatorService.readyOrOutdated nextBlock now r false = (true, true) ↔
      r.PastWindow nextBlock)

theorem exceedsTargetBlock_iff (r : SimulationRequest B) (block : U64) :
    r.exceedsTargetBlock block = true ↔ r.PastWindow block := by
  unfold exceedsTargetBlock PastWindow
  cases (Bundle.inclusion r.request).maxBlockNumber <;> simp

theorem isMinBlock_iff (r : SimulationRequest B) (block : U64) :
    r.isMinBlock block = true ↔ (Bundle.inclusion r.request).blockNumber < block := by
  unfold isMinBlock
  rw [decide_eq_true_eq]

/-- Either the last block has passed, or the upper end of the window holds. -/
theorem not_pastWindow_iff (r : SimulationRequest B) (block : U64) :
    ¬ r.PastWindow block ↔
      ∀ m, (Bundle.inclusion r.request).maxBlockNumber = some m → block ≤ m := by
  constructor
  · intro h m hm
    exact UInt64.not_lt.mp fun hlt => h ⟨m, hm, hlt⟩
  · rintro h ⟨m, hm, hlt⟩
    exact UInt64.not_lt.mpr (h m hm) hlt

/-- What the two tests add up to. -/
theorem startable_iff (r : SimulationRequest B) {now : Instant} (hready : r.isReadyAt now = true)
    (block : U64) :
    r.Startable block now ↔
      (Bundle.inclusion r.request).blockNumber < block ∧ ¬ r.PastWindow block := by
  unfold Startable
  rw [← Bool.not_eq_true, exceedsTargetBlock_iff, isMinBlock_iff]
  constructor
  · rintro ⟨-, hpast, hmin⟩
    exact ⟨hmin, hpast⟩
  · rintro ⟨hmin, hpast⟩
    exact ⟨hready, hpast, hmin⟩

/-- What is startable is in its window. -/
theorem Startable.inWindow {r : SimulationRequest B} {block : U64} {now : Instant}
    (h : r.Startable block now) : r.InWindow block := by
  obtain ⟨hmin, hpast⟩ := (startable_iff r h.1 block).mp h
  exact ⟨UInt64.le_of_lt hmin, (not_pastWindow_iff r block).mp hpast⟩

theorem readyOrOutdated_eq_start (r : SimulationRequest B) {now : Instant}
    (hready : r.isReadyAt now = true) (block : U64) :
    BundleSimulatorService.readyOrOutdated block now r false = (true, false) ↔
      (Bundle.inclusion r.request).blockNumber < block ∧ ¬ r.PastWindow block := by
  rw [← isMinBlock_iff, ← exceedsTargetBlock_iff, BundleSimulatorService.readyOrOutdated, hready]
  cases r.exceedsTargetBlock block <;> cases r.isMinBlock block <;> simp

theorem readyOrOutdated_eq_drop (r : SimulationRequest B) {now : Instant}
    (hready : r.isReadyAt now = true) (block : U64) :
    BundleSimulatorService.readyOrOutdated block now r false = (true, true) ↔
      r.PastWindow block := by
  rw [← exceedsTargetBlock_iff, BundleSimulatorService.readyOrOutdated, hready]
  cases r.exceedsTargetBlock block <;> cases r.isMinBlock block <;> simp

/-- **One block is treated wrongly.**  A request whose backoff has passed is
treated as its window asks for, except at the first block of a window that is not
empty. -/
theorem honoursWindow_iff (r : SimulationRequest B) {now : Instant}
    (hready : r.isReadyAt now = true) (nextBlock : U64) :
    r.HonoursWindow now nextBlock ↔
      nextBlock ≠ (Bundle.inclusion r.request).blockNumber ∨ r.PastWindow nextBlock := by
  unfold HonoursWindow InWindow
  rw [readyOrOutdated_eq_start r hready, readyOrOutdated_eq_drop r hready, ← not_pastWindow_iff]
  constructor
  · rintro ⟨h, -⟩
    by_contra hno
    rw [not_or, not_not] at hno
    obtain ⟨rfl, hpast⟩ := hno
    exact UInt64.lt_irrefl _ (h.mpr ⟨UInt64.le_refl _, hpast⟩).1
  · intro h
    refine ⟨⟨fun ⟨hlt, hpast⟩ => ⟨UInt64.le_of_lt hlt, hpast⟩, fun ⟨hle, hpast⟩ => ?_⟩, Iff.rfl⟩
    have hne := h.resolve_right hpast
    exact ⟨UInt64.lt_of_le_of_ne hle (Ne.symm hne), hpast⟩

end SimulationRequest

namespace BundleSimulatorService

/-- With free capacity for everything that is queued, `r` is handed to the
simulator at `nextBlock`, whatever is queued with it. -/
def HandedAt (r : SimulationRequest B) (now : Instant) (nextBlock : U64) : Prop :=
  ∀ (s : BundleSimulatorService B) (capacity : ℕ),
    r ∈ s.highPriorityQueue ++ s.normalPriorityQueue →
    (s.highPriorityQueue ++ s.normalPriorityQueue).length ≤ capacity →
    ∃ t ready, popBestRequestsLoop nextBlock now capacity s = .ok (t, ready) ∧ r ∈ ready

/-- A request is handed to the simulator where it is startable. -/
theorem handedAt_iff (r : SimulationRequest B) (now : Instant) (nextBlock : U64) :
    HandedAt r now nextBlock ↔ r.Startable nextBlock now := by
  constructor
  · intro h
    -- a service that holds nothing but `r`
    let s : BundleSimulatorService B :=
      { new 0 .default with highPriorityQueue := [r] }
    obtain ⟨t, ready, hpop, hr⟩ := h s 1 List.mem_cons_self (Nat.le_refl _)
    obtain ⟨started, dropped, q', hb, hspec⟩ := popBestRequestsLoop_spec nextBlock now 1 s
    rw [hspec] at hpop
    cases hpop
    exact SimulationRequest.verdict_eq_start_iff.mp (hb.verdict_started r hr)
  · intro h s capacity hr hcap
    obtain ⟨started, dropped, q', hb, hspec⟩ := popBestRequestsLoop_spec nextBlock now capacity s
    refine ⟨_, started, hspec, ?_⟩
    exact hb.mem_started_of_le hcap hr (SimulationRequest.verdict_eq_start_iff.mpr h)

/-- **Nothing is started outside its window.**  A scheduling step calls the
simulator for requests whose window contains the next block. -/
theorem schedule_inWindow {profile : BuildProfile} {s t : BundleSimulatorService B} {now : Instant}
    (h : s.schedule profile now = .ok t) :
    ∃ ready : List (SimulationRequest B),
      t.world.simulateCalls = s.world.simulateCalls ++
        ready.map (fun r => (r.request, r.overrides)) ∧
      ∀ r ∈ ready, r.InWindow (s.currentBlockNumber + 1) := by
  rcases schedule_cases h with ⟨-, rfl⟩ | ⟨nextBlock, started, dropped, q', -, hadd, hb, -, rfl⟩
  · exact ⟨[], by simp, by simp⟩
  · obtain ⟨delivered, hworld⟩ := afterBatch_world s nextBlock started dropped q'
    refine ⟨started, by rw [hworld], fun r hr => ?_⟩
    rw [← BuildProfile.eq_add_of_addU64 hadd]
    exact (SimulationRequest.verdict_eq_start_iff.mp (hb.verdict_started r hr)).inWindow

/-- **The inclusion window, exactly.**  For a request whose backoff has passed:
the search honours its window at `nextBlock` exactly if `nextBlock` is not its
first block, or the window is over by then; there is a block at which the request
is handed to the simulator exactly if its window has a block after the first; and
in no run is a request handed to the simulator outside its window. -/
theorem window_iff (r : SimulationRequest B) (now : Instant) (hready : r.isReadyAt now = true)
    (nextBlock : U64) :
    (r.HonoursWindow now nextBlock ↔
        nextBlock ≠ (Bundle.inclusion r.request).blockNumber ∨ r.PastWindow nextBlock) ∧
      ((∃ b, HandedAt r now b) ↔
        ∃ b, (Bundle.inclusion r.request).blockNumber < b ∧ r.InWindow b) ∧
      ∀ (profile : BuildProfile) (n : U64) (cfg : BundleSimulatorServiceConfig)
        (run : List (Action B)) (s t : BundleSimulatorService B) (later : Instant),
        exec (step profile) (new n cfg) run = .ok s → step profile s (.schedule later) = .ok t →
        ∃ ready : List (SimulationRequest B),
          t.world.simulateCalls = s.world.simulateCalls ++
            ready.map (fun r => (r.request, r.overrides)) ∧
          ∀ r ∈ ready, r.InWindow (s.currentBlockNumber + 1) := by
  refine ⟨r.honoursWindow_iff hready nextBlock, ?_, ?_⟩
  · constructor
    · rintro ⟨b, hb⟩
      have hstart := (handedAt_iff r now b).mp hb
      exact ⟨b, ((r.startable_iff hready b).mp hstart).1, hstart.inWindow⟩
    · rintro ⟨b, hlt, -, hmax⟩
      refine ⟨b, (handedAt_iff r now b).mpr ((r.startable_iff hready b).mpr ⟨hlt, ?_⟩)⟩
      exact (r.not_pastWindow_iff b).mpr hmax
  · intro profile n cfg run s t later _ hstep
    exact schedule_inWindow hstep

theorem window_iff_at_five :
    (normalRequest 5 (some 6)).isReadyAt 0 = true ∧
      ((normalRequest 5 (some 6)).HonoursWindow 0 6 ↔
        (6 : U64) ≠ 5 ∨ (normalRequest 5 (some 6)).PastWindow 6) :=
  ⟨rfl, (window_iff (normalRequest 5 (some 6)) 0 rfl 6).1⟩

/-- A bundle for block 5 only is not started at block 5, nor at any other. -/
theorem singleBlock_never_handed :
    (normalRequest 5 (some 5)).isReadyAt 0 = true ∧ (normalRequest 5 (some 5)).InWindow 5 ∧
      ¬ (normalRequest 5 (some 5)).HonoursWindow 0 5 ∧
      ∀ b, ¬ HandedAt (normalRequest 5 (some 5)) 0 b := by
  have hfive : ∀ m : U64, some (5 : U64) = some m → (5 : U64) ≤ m := by
    intro m hm
    rw [← Option.some.inj hm]
    exact UInt64.le_refl 5
  refine ⟨rfl, ⟨UInt64.le_refl 5, hfive⟩, fun h => ?_, fun b hb => ?_⟩
  · exact absurd (h.1.mpr ⟨UInt64.le_refl 5, hfive⟩) (by decide)
  · have hstart := (handedAt_iff _ 0 b).mp hb
    obtain ⟨hlt, hpast⟩ := (SimulationRequest.startable_iff _ rfl b).mp hstart
    have hle : b ≤ 5 := (SimulationRequest.not_pastWindow_iff _ b).mp hpast 5 rfl
    exact UInt64.not_lt.mpr hle hlt

end BundleSimulatorService
end Backend
end MevShare
