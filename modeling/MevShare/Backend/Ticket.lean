import MevShare.Backend.Ledger

/-!
# Telling equal requests apart

Two clients may submit the same bundle, so "the request is in exactly one place"
cannot be said by looking at bundles.  It can be said once every submission is
given a ticket that stays with its request.

No second model is needed for that.  The service is generic in the bundle and
reads nothing of it but the window, so it runs on bundles with tickets as it does
on bundles: a function on bundles that keeps the window maps states to states and
steps to steps (`step_map`), hence runs to runs.  Every run of the service is the
image of a run on tickets, in which the `k`-th action submits ticket `k`
(`exec_ticketed`), and there no two submissions carry the same ticket
(`nodup_tickets`).
-/

namespace MevShare
namespace Backend

open Rpc Rust Machine

variable {B C : Type}

/-! ## Maps of bundles -/

def SimulationRequest.map (f : B → C) (r : SimulationRequest B) : SimulationRequest C where
  retries := r.retries
  request := f r.request
  overrides := r.overrides
  priority := r.priority
  backedOffUntil := r.backedOffUntil

def SimulatedBundle.map (f : B → C) (b : SimulatedBundle B) : SimulatedBundle C where
  request := f b.request
  overrides := b.overrides
  response := b.response
  retries := b.retries

def SimulatedBundleError.map (f : B → C) (e : SimulatedBundleError B) : SimulatedBundleError C where
  error := e.error
  sim := e.sim.map f

def SimulationEvent.map (f : B → C) : SimulationEvent B → SimulationEvent C
  | .simulatedBundle (.ok bundle) => .simulatedBundle (.ok (bundle.map f))
  | .simulatedBundle (.error err) => .simulatedBundle (.error (err.map f))
  | .outdatedRequest request overrides nextBlock =>
      .outdatedRequest (f request) overrides nextBlock
  | .exceededMaxRetries request overrides => .exceededMaxRetries (f request) overrides
  | .blockNumberUpdated old current => .blockNumberUpdated old current

def BundleSimulatorMessage.map (f : B → C) : BundleSimulatorMessage B → BundleSimulatorMessage C
  | .clearQueue => .clearQueue
  | .updateBlockNumber num => .updateBlockNumber num
  | .addSimulation request tx => .addSimulation (request.map f) tx
  | .addEventListener tx => .addEventListener tx

def Action.map (f : B → C) : Action B → Action C
  | .message msg => .message (msg.map f)
  | .complete id out => .complete id out
  | .schedule now => .schedule now
  | .dropListener tx => .dropListener tx

def Simulation.map (f : B → C) (sim : Simulation B) : Simulation C where
  sim := sim.sim
  inner := sim.inner.map (SimulationRequest.map f)

def Answer.map (f : B → C) (a : Answer B) : Answer C where
  tx := a.tx
  request := a.request.map f
  result := a.result

def World.map (f : B → C) (w : World B) : World C where
  droppedListeners := w.droppedListeners
  delivered := w.delivered.map fun d => (d.1, d.2.map f)
  emitted := w.emitted.map (SimulationEvent.map f)
  simulateCalls := w.simulateCalls.map fun c => (f c.1, c.2)
  completed := w.completed
  answers := w.answers.map (Answer.map f)
  cleared := w.cleared.map (SimulationRequest.map f)

def BundleSimulatorService.map (f : B → C) (s : BundleSimulatorService B) :
    BundleSimulatorService C where
  simulations := s.simulations.map (Simulation.map f)
  highPriorityQueue := s.highPriorityQueue.map (SimulationRequest.map f)
  normalPriorityQueue := s.normalPriorityQueue.map (SimulationRequest.map f)
  inner := s.inner
  listeners := s.listeners
  config := s.config
  world := s.world.map f

namespace BundleSimulatorService

variable (f : B → C)

/-! ## Every operation commutes with a map of bundles -/

theorem notifyListeners_map (s : BundleSimulatorService B) (e : SimulationEvent B) :
    (s.map f).notifyListeners (e.map f) = (s.notifyListeners e).map f := by
  unfold notifyListeners map World.map
  simp only [List.map_append, List.map_map, List.map_cons, List.map_nil]
  rfl

theorem push_map (s : BundleSimulatorService B) (r : SimulationRequest B) :
    (s.map f).push (r.map f) = (s.push r).map f := by
  have hpriority : (r.map f).priority = r.priority := rfl
  rw [push, push, hpriority]
  cases r.priority <;> simp only [map, List.map_append, List.map_cons, List.map_nil]

theorem hasCapacity_map (s : BundleSimulatorService B) (p : SimulationPriority) :
    (s.map f).HasCapacity p ↔ s.HasCapacity p := by
  unfold HasCapacity
  cases p
  · show (s.normalPriorityQueue.map _).length < _ ↔ _
    rw [List.length_map]
    rfl
  · show (s.highPriorityQueue.map _).length < _ ↔ _
    rw [List.length_map]
    rfl

theorem answer_map (s : BundleSimulatorService B) (tx : ℕ) (r : SimulationRequest B)
    (result : Except AddSimulationErr Unit) :
    (s.map f).answer tx (r.map f) result = (s.answer tx r result).map f := by
  unfold answer map World.map
  simp only [List.map_append, List.map_cons, List.map_nil]
  rfl

theorem onMessage_map (s : BundleSimulatorService B) (msg : BundleSimulatorMessage B) :
    (s.map f).onMessage (msg.map f) = (s.onMessage msg).map f := by
  cases msg with
  | clearQueue =>
    unfold BundleSimulatorMessage.map onMessage map World.map
    simp only [List.map_append, List.map_nil]
  | addEventListener tx => rfl
  | updateBlockNumber num =>
    show (s.map f).onMessage (.updateBlockNumber num) = _
    by_cases hnum : num ≠ s.currentBlockNumber
    · have hnum' : num ≠ (s.map f).currentBlockNumber := hnum
      rw [onMessage, onMessage, if_pos hnum, if_pos hnum', ← notifyListeners_map]
      rfl
    · have hnum' : ¬ num ≠ (s.map f).currentBlockNumber := hnum
      rw [onMessage, onMessage, if_neg hnum, if_neg hnum']
  | addSimulation r tx =>
    have hpriority : (r.map f).priority = r.priority := rfl
    show (s.map f).onMessage (.addSimulation (r.map f) tx) = _
    rw [onMessage_addSimulation, onMessage_addSimulation, hpriority]
    by_cases hcap : s.HasCapacity r.priority
    · rw [if_pos hcap, if_pos ((hasCapacity_map f s _).mpr hcap), push_map, answer_map]
    · rw [if_neg hcap, if_neg (mt (hasCapacity_map f s _).mp hcap), answer_map]

theorem report_map (maxRetries : ℕ) (out : BundleSimulationOutcome) (r : SimulationRequest B) :
    report maxRetries out (r.map f) = (report maxRetries out r).map (SimulationEvent.map f) := by
  cases out with
  | success resp => rfl
  | fatal error => rfl
  | reschedule error =>
    have hretries : (r.map f).retries = r.retries := rfl
    rw [report, report, hretries]
    by_cases h : maxRetries < r.retries + 1
    · rw [if_pos h, if_pos h]
      rfl
    · rw [if_neg h, if_neg h]
      rfl

theorem onSimulationOutcome_map (s : BundleSimulatorService B) (out : BundleSimulationOutcome)
    (r : SimulationRequest B) :
    (s.map f).onSimulationOutcome out (r.map f) = (s.onSimulationOutcome out r).map f := by
  have hconfig : (s.map f).config = s.config := rfl
  rw [onSimulationOutcome_eq, onSimulationOutcome_eq, report_map, hconfig]
  cases report s.config.maxRetries out r with
  | some e => exact notifyListeners_map f s e
  | none => exact push_map f s (rescheduled r)

theorem complete_map (s : BundleSimulatorService B) (id : ℕ) (out : BundleSimulationOutcome) :
    (s.map f).complete id out = (s.complete id out).map (map f) := by
  have hfind : (s.map f).simulations.find? (fun sim => sim.sim == id) =
      (s.simulations.find? fun sim => sim.sim == id).map (Simulation.map f) := by
    show (s.simulations.map (Simulation.map f)).find? _ = _
    rw [List.find?_map]
    rfl
  have herase : (s.map f).simulations.eraseP (fun sim => sim.sim == id) =
      (s.simulations.eraseP fun sim => sim.sim == id).map (Simulation.map f) := by
    show (s.simulations.map (Simulation.map f)).eraseP _ = _
    rw [List.eraseP_map]
    rfl
  unfold complete pollNextSimulation
  rw [hfind, herase]
  cases s.simulations.find? (fun sim => sim.sim == id) with
  | none => rfl
  | some sim =>
    obtain ⟨n, inner⟩ := sim
    cases inner with
    | none => rfl
    | some r =>
      exact congrArg Except.ok (onSimulationOutcome_map f
        { s with
          simulations := s.simulations.eraseP fun sim => sim.sim == id
          world := { s.world with completed := s.world.completed ++ [(id, out)] } } out r)

theorem removeQueued_map (s : BundleSimulatorService B) (pos : ℕ) :
    (s.map f).removeQueued pos = (s.removeQueued pos).map fun x => (x.1.map f, x.2.map f) := by
  have hhigh : (s.map f).highPriorityQueue = s.highPriorityQueue.map (SimulationRequest.map f) :=
    rfl
  have hnormal : (s.map f).normalPriorityQueue =
      s.normalPriorityQueue.map (SimulationRequest.map f) := rfl
  rw [removeQueued, removeQueued, hhigh, hnormal, List.length_map, Search.removeAt_map,
    Search.removeAt_map]
  by_cases hpos : pos < s.highPriorityQueue.length
  · rw [if_pos hpos, if_pos hpos]
    cases Search.removeAt s.highPriorityQueue pos <;> rfl
  · rw [if_neg hpos, if_neg hpos]
    cases Search.removeAt s.normalPriorityQueue (pos - s.highPriorityQueue.length) <;> rfl

section Scheduling

variable [Bundle B] [Bundle C] {f} (hf : ∀ b, Bundle.inclusion (f b) = Bundle.inclusion b)
include hf

theorem readyOrOutdated_map (nextBlock : U64) (now : Instant) (r : SimulationRequest B)
    (flag : Bool) :
    readyOrOutdated nextBlock now (r.map f) flag = readyOrOutdated nextBlock now r flag := by
  unfold readyOrOutdated SimulationRequest.exceedsTargetBlock SimulationRequest.isMinBlock
  have hinclusion : Bundle.inclusion (r.map f).request = Bundle.inclusion r.request := hf r.request
  rw [hinclusion]
  rfl

theorem popNextReadyLoop_map (nextBlock : U64) (now : Instant) (fuel : ℕ)
    (s : BundleSimulatorService B) :
    popNextReadyLoop nextBlock now fuel (s.map f) =
      (popNextReadyLoop nextBlock now fuel s).map
        fun x => (x.1.map f, x.2.map (SimulationRequest.map f)) := by
  induction fuel generalizing s with
  | zero => rfl
  | succ fuel ih =>
    have hpos : Search.position (readyOrOutdated nextBlock now)
        ((s.map f).highPriorityQueue ++ (s.map f).normalPriorityQueue) false =
          Search.position (readyOrOutdated nextBlock now)
            (s.highPriorityQueue ++ s.normalPriorityQueue) false := by
      show Search.position _ (s.highPriorityQueue.map _ ++ s.normalPriorityQueue.map _) false = _
      rw [← List.map_append, Search.position_map]
      congr 1
      funext r flag
      exact readyOrOutdated_map hf nextBlock now r flag
    rw [popNextReadyLoop, popNextReadyLoop, hpos]
    rcases Search.position (readyOrOutdated nextBlock now)
      (s.highPriorityQueue ++ s.normalPriorityQueue) false with ⟨pos, outdated⟩
    cases pos with
    | none => rfl
    | some pos =>
      simp only [removeQueued_map]
      cases s.removeQueued pos with
      | error e => rfl
      | ok x =>
        obtain ⟨item, t⟩ := x
        cases outdated with
        | false => rfl
        | true =>
          have hnotify := notifyListeners_map f t
            (.outdatedRequest item.request item.overrides nextBlock)
          exact (congrArg (popNextReadyLoop nextBlock now fuel) hnotify).trans (ih _)

theorem popNextReady_map (nextBlock : U64) (now : Instant) (s : BundleSimulatorService B) :
    (s.map f).popNextReady nextBlock now =
      (s.popNextReady nextBlock now).map
        fun x => (x.1.map f, x.2.map (SimulationRequest.map f)) := by
  have hlen : (s.map f).highPriorityQueue.length + (s.map f).normalPriorityQueue.length + 1 =
      s.highPriorityQueue.length + s.normalPriorityQueue.length + 1 := by
    show (s.highPriorityQueue.map _).length + (s.normalPriorityQueue.map _).length + 1 = _
    rw [List.length_map, List.length_map]
  rw [popNextReady, popNextReady, hlen]
  exact popNextReadyLoop_map hf nextBlock now _ s

theorem popBestRequestsLoop_map (nextBlock : U64) (now : Instant) (capacity : ℕ)
    (s : BundleSimulatorService B) :
    popBestRequestsLoop nextBlock now capacity (s.map f) =
      (popBestRequestsLoop nextBlock now capacity s).map
        fun x => (x.1.map f, x.2.map (SimulationRequest.map f)) := by
  induction capacity generalizing s with
  | zero => rfl
  | succ capacity ih =>
    rw [popBestRequestsLoop, popBestRequestsLoop, popNextReady_map hf]
    rcases s.popNextReady nextBlock now with e | ⟨t, _ | req⟩
    · rfl
    · rfl
    · simp only [Except.map, Option.map_some, ih]
      rcases popBestRequestsLoop nextBlock now capacity t with e | ⟨u, requests⟩ <;> rfl

theorem popBestRequests_map (profile : BuildProfile) (s : BundleSimulatorService B)
    (now : Instant) :
    (s.map f).popBestRequests profile now =
      (s.popBestRequests profile now).map
        fun x => (x.1.map f, x.2.map (SimulationRequest.map f)) := by
  have hcap : (s.map f).capacity = s.capacity := by
    show _ - (s.simulations.map _).length = _
    rw [List.length_map]
    rfl
  have hblock : (s.map f).currentBlockNumber = s.currentBlockNumber := rfl
  rw [popBestRequests, popBestRequests, hcap, hblock]
  by_cases h : s.capacity = 0
  · rw [if_pos h, if_pos h]
    rfl
  · rw [if_neg h, if_neg h]
    cases profile.addU64 s.currentBlockNumber 1 with
    | error e => rfl
    | ok nextBlock => exact popBestRequestsLoop_map hf nextBlock now s.capacity s

omit hf [Bundle B] [Bundle C] in
theorem startSimulation_map (s : BundleSimulatorService B) (r : SimulationRequest B) :
    (s.map f).startSimulation (r.map f) = (s.startSimulation r).map f := by
  have hlen : (s.map f).world.simulateCalls.length = s.world.simulateCalls.length := by
    show (s.world.simulateCalls.map _).length = _
    rw [List.length_map]
  rw [startSimulation, startSimulation, hlen]
  unfold map World.map
  simp only [List.map_append, List.map_cons, List.map_nil]
  rfl

omit hf [Bundle B] [Bundle C] in
theorem foldl_startSimulation_map (s : BundleSimulatorService B)
    (rs : List (SimulationRequest B)) :
    (rs.map (SimulationRequest.map f)).foldl startSimulation (s.map f) =
      (rs.foldl startSimulation s).map f := by
  induction rs generalizing s with
  | nil => rfl
  | cons r rs ih => rw [List.map_cons, List.foldl_cons, List.foldl_cons, startSimulation_map, ih]

/-- **The service reads only the window of a bundle.** -/
theorem step_map (profile : BuildProfile) (s : BundleSimulatorService B) (a : Action B) :
    step profile (s.map f) (a.map f) = (step profile s a).map (map f) := by
  cases a with
  | message msg => exact congrArg Except.ok (onMessage_map f s msg)
  | complete id out => exact complete_map f s id out
  | schedule now =>
    show (s.map f).schedule profile now = (s.schedule profile now).map _
    rw [schedule, schedule, popBestRequests_map hf]
    rcases s.popBestRequests profile now with e | ⟨t, ready⟩
    · rfl
    · exact congrArg Except.ok (foldl_startSimulation_map t ready)
  | dropListener tx => rfl

end Scheduling

end BundleSimulatorService

/-! ## Tickets -/

/-- A bundle with the ticket of its submission. -/
structure Ticketed (B : Type) where
  ticket : ℕ
  bundle : B
  deriving DecidableEq

instance [Bundle B] : Bundle (Ticketed B) := ⟨fun t => Bundle.inclusion t.bundle⟩

/-- A run on tickets: the action at position `i` submits the ticket `k + i`. -/
def ticketed (k : ℕ) : List (Action B) → List (Action (Ticketed B))
  | [] => []
  | a :: run => a.map (Ticketed.mk k) :: ticketed (k + 1) run

theorem Action.map_bundle_mk (k : ℕ) (a : Action B) :
    (a.map (Ticketed.mk k)).map Ticketed.bundle = a := by
  cases a with
  | message msg => cases msg <;> rfl
  | complete id out => rfl
  | schedule now => rfl
  | dropListener tx => rfl

theorem map_bundle_ticketed (k : ℕ) (run : List (Action B)) :
    (ticketed k run).map (Action.map Ticketed.bundle) = run := by
  induction run generalizing k with
  | nil => rfl
  | cons a run ih => rw [ticketed, List.map_cons, ih, Action.map_bundle_mk]

theorem ticketed_append (k : ℕ) (run run' : List (Action B)) :
    ticketed k (run ++ run') = ticketed k run ++ ticketed (k + run.length) run' := by
  induction run generalizing k with
  | nil => rfl
  | cons a run ih =>
    rw [List.cons_append, ticketed, ih, ticketed, List.cons_append, List.length_cons,
      Nat.add_assoc, Nat.add_comm 1]

/-- **Every run is a run on tickets, read without them.** -/
theorem exec_ticketed [Bundle B] {profile : BuildProfile} {n : U64}
    {cfg : BundleSimulatorServiceConfig} {run : List (Action B)} {s : BundleSimulatorService B}
    (h : exec (step profile) (BundleSimulatorService.new n cfg) run = .ok s) :
    ∃ s' : BundleSimulatorService (Ticketed B),
      exec (step profile) (BundleSimulatorService.new n cfg) (ticketed 0 run) = .ok s' ∧
        s'.map Ticketed.bundle = s := by
  have hmap := exec_map (f := BundleSimulatorService.map Ticketed.bundle)
    (g := Action.map (Ticketed.bundle (B := B)))
    (fun s a => BundleSimulatorService.step_map (f := Ticketed.bundle (B := B)) (fun _ => rfl)
      profile s a)
    (BundleSimulatorService.new n cfg) (ticketed 0 run)
  rw [map_bundle_ticketed] at hmap
  have hnew : (BundleSimulatorService.new n cfg : BundleSimulatorService (Ticketed B)).map
      Ticketed.bundle = BundleSimulatorService.new n cfg := rfl
  rw [hnew, h] at hmap
  cases hrun : exec (step profile) (BundleSimulatorService.new n cfg) (ticketed 0 run) with
  | error e =>
    rw [hrun] at hmap
    cases hmap
  | ok s' =>
    rw [hrun] at hmap
    exact ⟨s', rfl, (Except.ok.inj hmap).symm⟩

/-! ## Submissions and their answers -/

/-- The request that an action submits, and the channel for the answer. -/
def Action.submission : Action B → Option (SimulationRequest B × ℕ)
  | .message (.addSimulation request tx) => some (request, tx)
  | _ => none

namespace BundleSimulatorService

/-- What has been answered, without the results. -/
def answeredSubmissions (s : BundleSimulatorService B) : List (SimulationRequest B × ℕ) :=
  s.world.answers.map fun a => (a.request, a.tx)

/-- A submission is answered in the step that receives it, and nothing else is. -/
theorem step_answeredSubmissions [Bundle B] {profile : BuildProfile}
    {s t : BundleSimulatorService B} {a : Action B} (h : step profile s a = .ok t) :
    t.answeredSubmissions = s.answeredSubmissions ++ a.submission.toList := by
  have hsame : t.world.answers = s.world.answers → a.submission = none →
      t.answeredSubmissions = s.answeredSubmissions ++ a.submission.toList := by
    intro hanswers hnone
    rw [answeredSubmissions, hanswers, hnone]
    exact (List.append_nil _).symm
  cases step_effect h with
  | accept tx hcap =>
    unfold answeredSubmissions answer
    rw [List.map_append, push_world]
    rfl
  | refuse tx hcap =>
    unfold answeredSubmissions answer
    rw [List.map_append]
    rfl
  | requeue error hsims hpending hretries =>
    refine hsame ?_ rfl
    rw [push_world]
    rfl
  | @batch now nextBlock started dropped q' hcap hadd hb =>
    obtain ⟨delivered, hworld⟩ := afterBatch_world s nextBlock started dropped q'
    exact hsame (by rw [hworld]) rfl
  | _ => exact hsame rfl rfl

/-- Every submission of a run is answered, once and in order. -/
theorem exec_answeredSubmissions [Bundle B] {profile : BuildProfile} {n : U64}
    {cfg : BundleSimulatorServiceConfig} {run : List (Action B)} {s : BundleSimulatorService B}
    (h : exec (step profile) (new n cfg) run = .ok s) :
    s.answeredSubmissions = run.filterMap Action.submission := by
  refine exec_history (P := fun run (s : BundleSimulatorService B) =>
    s.answeredSubmissions = run.filterMap Action.submission) rfl ?_ h
  intro as t a u _ ih hstep
  rw [step_answeredSubmissions hstep, ih, List.filterMap_append]
  cases ha : a.submission <;> simp [ha]

end BundleSimulatorService

/-! ## No ticket is submitted twice -/

/-- The ticket of a submission is the position of its action. -/
theorem submission_ticketed {k : ℕ} {run : List (Action B)}
    {x : SimulationRequest (Ticketed B) × ℕ}
    (hx : x ∈ (ticketed k run).filterMap Action.submission) :
    k ≤ x.1.request.ticket ∧
      run[x.1.request.ticket - k]? =
        some (.message (.addSimulation (x.1.map Ticketed.bundle) x.2)) := by
  induction run generalizing k with
  | nil => cases hx
  | cons a run ih =>
    rw [ticketed, List.filterMap_cons] at hx
    have htail : x ∈ (ticketed (k + 1) run).filterMap Action.submission →
        k ≤ x.1.request.ticket ∧ (a :: run)[x.1.request.ticket - k]? =
          some (.message (.addSimulation (x.1.map Ticketed.bundle) x.2)) := by
      intro hx
      obtain ⟨hle, hget⟩ := ih hx
      refine ⟨by omega, ?_⟩
      have hsub : x.1.request.ticket - k = x.1.request.ticket - (k + 1) + 1 := by omega
      rw [hsub, List.getElem?_cons_succ]
      exact hget
    cases hsub : (a.map (Ticketed.mk k)).submission with
    | none =>
      rw [hsub] at hx
      exact htail hx
    | some y =>
      rw [hsub] at hx
      rcases List.mem_cons.mp hx with rfl | hx
      · cases a with
        | message msg =>
          cases msg with
          | addSimulation r tx =>
            cases hsub
            refine ⟨Nat.le_refl _, ?_⟩
            show (_ :: run)[k - k]? = _
            rw [Nat.sub_self]
            rfl
          | clearQueue => cases hsub
          | updateBlockNumber num => cases hsub
          | addEventListener tx => cases hsub
        | complete id out => cases hsub
        | schedule now => cases hsub
        | dropListener tx => cases hsub
      · exact htail hx

theorem nodup_tickets (k : ℕ) (run : List (Action B)) :
    (((ticketed k run).filterMap Action.submission).map fun x => x.1.request.ticket).Nodup := by
  induction run generalizing k with
  | nil => exact List.nodup_nil
  | cons a run ih =>
    rw [ticketed, List.filterMap_cons]
    cases hsub : (a.map (Ticketed.mk k)).submission with
    | none => exact ih (k + 1)
    | some y =>
      have hy : y.1.request.ticket = k := by
        cases a with
        | message msg =>
          cases msg with
          | addSimulation r tx =>
            cases hsub
            rfl
          | clearQueue => cases hsub
          | updateBlockNumber num => cases hsub
          | addEventListener tx => cases hsub
        | complete id out => cases hsub
        | schedule now => cases hsub
        | dropListener tx => cases hsub
      rw [List.map_cons, List.nodup_cons]
      refine ⟨fun hmem => ?_, ih (k + 1)⟩
      obtain ⟨x, hx, hxy⟩ := List.mem_map.mp hmem
      have hle := (submission_ticketed hx).1
      omega

/-- Requests with the ticket `k`. -/
def hasTicket (k : ℕ) (b : Ticketed B) : Bool := b.ticket == k

/-- **A ticket is accepted at most once.** -/
theorem countP_accepted_le_one [Bundle B] {profile : BuildProfile} {n : U64}
    {cfg : BundleSimulatorServiceConfig} {run : List (Action B)}
    {s : BundleSimulatorService (Ticketed B)}
    (h : exec (step profile) (BundleSimulatorService.new n cfg) (ticketed 0 run) = .ok s) (k : ℕ) :
    s.ledger.accepted.countP (fun r => hasTicket k r.request) ≤ 1 := by
  have hnodup : (s.world.answers.map fun a => a.request.request.ticket).Nodup := by
    have hnd := nodup_tickets 0 run
    rw [← BundleSimulatorService.exec_answeredSubmissions h,
      BundleSimulatorService.answeredSubmissions, List.map_map] at hnd
    exact hnd
  have hcount : (s.world.answers.map fun a => a.request.request.ticket).count k ≤ 1 :=
    List.nodup_iff_count.mp hnodup k
  have hle : s.ledger.accepted.countP (fun r => hasTicket k r.request) ≤
      s.world.answers.countP fun a => hasTicket k a.request.request := by
    show (s.world.answers.filterMap Answer.accepted).countP _ ≤ _
    rw [List.countP_filterMap]
    refine List.countP_mono_left fun a _ ha => ?_
    unfold Answer.accepted at ha
    cases hres : a.result with
    | ok u =>
      rw [hres] at ha
      exact ha
    | error e =>
      rw [hres] at ha
      cases ha
  have heq : s.world.answers.countP (fun a => hasTicket k a.request.request) =
      (s.world.answers.map fun a => a.request.request.ticket).count k := by
    rw [List.count, List.countP_map]
    rfl
  omega

end Backend
end MevShare
