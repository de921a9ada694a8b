import MevShare.Backend.Request
import MevShare.Library.Rust
import MevShare.Library.Search

/-!
# The bundle simulation service

`BundleSimulatorService` of `mev-share-backend/src/service.rs`, function by
function.

## State

The record has the fields of the source, except the two ends of the message
channel: what a channel still holds is the business of the clients, and the
service is driven by the messages it receives.  `FuturesUnordered` is the list of
the simulations in flight; which of them is ready, and with what outcome, is
chosen outside, so nothing depends on the order of this list.

The simulator is a foreign object.  A call of `simulate_bundle` returns a future
that is known by the number of the call, and `simulateCalls` lists what each call
was given.

`world` is not a field of the source.  It keeps what the service has said to the
outside (events, answers, calls of the simulator) and has heard from it, and what
it has thrown away on request.  Only `droppedListeners` is ever read: it is the
state of the receiving ends, and sending fails exactly where the end is gone.

## Loops

The search loop of `pop_next_ready` has no bound in the source.  Here it has
fuel, one more than there are queued requests, and `Backend.Scheduling` shows
that it never runs out and that `Vec::remove` is never called out of range.
-/

namespace MevShare
namespace Backend

open Rpc Rust

variable {B : Type}

/-- A future of the simulator together with the request it was started for. -/
structure Simulation (B : Type) where
  sim : ℕ
  inner : Option (SimulationRequest B)

/-- `Simulation::new`. -/
def Simulation.new (sim : ℕ) (inner : SimulationRequest B) : Simulation B := ⟨sim, some inner⟩

/-- `Simulation::poll`, once the simulator's future is ready with `out`. -/
def Simulation.poll (s : Simulation B) (out : BundleSimulationOutcome) :
    Except Halt (BundleSimulationOutcome × SimulationRequest B) :=
  match s.inner with
  | some inner => .ok (out, inner)
  | none => .error (.panicked "Simulation polled after completion")

/-- The part of the state that the handles share. -/
structure BundleSimulatorInner where
  queuedJobs : U64
  currentBlockNumber : U64
  deriving DecidableEq, Repr

/-- What was sent on the oneshot channel of a processed `AddSimulation`. -/
structure Answer (B : Type) where
  tx : ℕ
  request : SimulationRequest B
  result : Except AddSimulationErr Unit

/-- What the service has exchanged with the outside, oldest first. -/
structure World (B : Type) where
  /-- The event channels whose receiver has been dropped. -/
  droppedListeners : List ℕ
  /-- Every event, with the channel it was sent on. -/
  delivered : List (ℕ × SimulationEvent B)
  /-- Every event that `notify_listeners` was called with. -/
  emitted : List (SimulationEvent B)
  /-- The arguments of each call of `simulate_bundle`. -/
  simulateCalls : List (B × SimBundleOverrides)
  /-- The futures that have completed, with their outcomes. -/
  completed : List (ℕ × BundleSimulationOutcome)
  answers : List (Answer B)
  /-- The requests that a `ClearQueue` has thrown away. -/
  cleared : List (SimulationRequest B)

def World.empty : World B := ⟨[], [], [], [], [], [], []⟩

/-- `BundleSimulatorService`. -/
structure BundleSimulatorService (B : Type) where
  /-- The current simulations. -/
  simulations : List (Simulation B)
  highPriorityQueue : List (SimulationRequest B)
  normalPriorityQueue : List (SimulationRequest B)
  inner : BundleSimulatorInner
  /-- The event channels of the listeners. -/
  listeners : List ℕ
  config : BundleSimulatorServiceConfig
  world : World B

namespace BundleSimulatorService

/-- `BundleSimulatorService::new`. -/
def new (currentBlockNumber : U64) (config : BundleSimulatorServiceConfig) :
    BundleSimulatorService B where
  simulations := []
  highPriorityQueue := []
  normalPriorityQueue := []
  inner := { queuedJobs := 0, currentBlockNumber := currentBlockNumber }
  listeners := []
  config := config
  world := World.empty

def currentBlockNumber (s : BundleSimulatorService B) : U64 := s.inner.currentBlockNumber

/-- `listeners.retain(|l| l.send(event.clone()).is_ok())`. -/
def notifyListeners (s : BundleSimulatorService B) (event : SimulationEvent B) :
    BundleSimulatorService B :=
  let alive := s.listeners.filter fun l => decide (l ∉ s.world.droppedListeners)
  { s with
    listeners := alive
    world := { s.world with
      delivered := s.world.delivered ++ alive.map fun l => (l, event)
      emitted := s.world.emitted ++ [event] } }

def hasHighPriorityCapacity (s : BundleSimulatorService B) : Bool :=
  decide (s.highPriorityQueue.length < s.config.maxHighPrioQueueLen)

def hasNormalPriorityCapacity (s : BundleSimulatorService B) : Bool :=
  decide (s.normalPriorityQueue.length < s.config.maxNormalPrioQueueLen)

/-! ## Scheduling -/

/-- The closure that `pop_next_ready` searches with, and the flag it captures. -/
def readyOrOutdated [Bundle B] (nextBlock : U64) (now : Instant) (req : SimulationRequest B)
    (outdated : Bool) : Bool × Bool :=
  -- skip requests not ready for inclusion
  if !req.isReadyAt now then
    (false, outdated)
  else if req.exceedsTargetBlock nextBlock then
    (true, true)
  else
    (req.isMinBlock nextBlock, outdated)

/-- Removing the request at a position of the two queues read one after the
other. -/
def removeQueued (s : BundleSimulatorService B) (pos : ℕ) :
    Except Halt (SimulationRequest B × BundleSimulatorService B) :=
  if pos < s.highPriorityQueue.length then
    match Search.removeAt s.highPriorityQueue pos with
    | some (item, rest) => .ok (item, { s with highPriorityQueue := rest })
    | none => .error (.panicked "removal index should be < len")
  else
    match Search.removeAt s.normalPriorityQueue (pos - s.highPriorityQueue.length) with
    | some (item, rest) => .ok (item, { s with normalPriorityQueue := rest })
    | none => .error (.panicked "removal index should be < len")

/-- The loop of `pop_next_ready`. -/
def popNextReadyLoop [Bundle B] (nextBlock : U64) (now : Instant) :
    ℕ → BundleSimulatorService B →
      Except Halt (BundleSimulatorService B × Option (SimulationRequest B))
  | 0, _ => .error .outOfFuel
  | fuel + 1, s =>
      match Search.position (readyOrOutdated nextBlock now)
          (s.highPriorityQueue ++ s.normalPriorityQueue) false with
      | (none, _) => .ok (s, none)
      | (some pos, outdated) =>
          match s.removeQueued pos with
          | .error e => .error e
          | .ok (item, s) =>
              if outdated then
                popNextReadyLoop nextBlock now fuel
                  (s.notifyListeners (.outdatedRequest item.request item.overrides nextBlock))
              else
                .ok (s, some item)

def popNextReady [Bundle B] (s : BundleSimulatorService B) (nextBlock : U64) (now : Instant) :
    Except Halt (BundleSimulatorService B × Option (SimulationRequest B)) :=
  popNextReadyLoop nextBlock now
    (s.highPriorityQueue.length + s.normalPriorityQueue.length + 1) s

/-- The loop of `pop_best_requests`, with the capacity that is left. -/
def popBestRequestsLoop [Bundle B] (nextBlock : U64) (now : Instant) :
    ℕ → BundleSimulatorService B →
      Except Halt (BundleSimulatorService B × List (SimulationRequest B))
  | 0, s => .ok (s, [])
  | capacity + 1, s =>
      match s.popNextReady nextBlock now with
      | .error e => .error e
      | .ok (s, none) => .ok (s, [])
      | .ok (s, some req) =>
          match popBestRequestsLoop nextBlock now capacity s with
          | .error e => .error e
          | .ok (s, requests) => .ok (s, req :: requests)

/-- `max_concurrent_simulations.saturating_sub(self.simulations.len())`. -/
def capacity (s : BundleSimulatorService B) : ℕ :=
  s.config.maxConcurrentSimulations - s.simulations.length

def popBestRequests [Bundle B] (profile : BuildProfile) (s : BundleSimulatorService B)
    (now : Instant) : Except Halt (BundleSimulatorService B × List (SimulationRequest B)) :=
  if s.capacity = 0 then
    .ok (s, [])
  else
    match profile.addU64 s.currentBlockNumber 1 with
    | .error e => .error e
    | .ok nextBlock => popBestRequestsLoop nextBlock now s.capacity s

/-- The body of the start loop of `poll`: the call of the simulator, and the push
of the new simulation. -/
def startSimulation (s : BundleSimulatorService B) (req : SimulationRequest B) :
    BundleSimulatorService B :=
  { s with
    simulations := s.simulations ++ [Simulation.new s.world.simulateCalls.length req]
    world := { s.world with
      simulateCalls := s.world.simulateCalls ++ [(req.request, req.overrides)] } }

/-- The last part of the loop of `poll`: try to queue in new simulations. -/
def schedule [Bundle B] (profile : BuildProfile) (s : BundleSimulatorService B) (now : Instant) :
    Except Halt (BundleSimulatorService B) :=
  match s.popBestRequests profile now with
  | .error e => .error e
  | .ok (s, ready) => .ok (ready.foldl startSimulation s)

/-! ## Messages -/

/-- Sending the answer to an `AddSimulation` on its oneshot channel. -/
def answer (s : BundleSimulatorService B) (tx : ℕ) (request : SimulationRequest B)
    (result : Except AddSimulationErr Unit) : BundleSimulatorService B :=
  { s with world := { s.world with answers := s.world.answers ++ [⟨tx, request, result⟩] } }

/-- Processes a new message from the handle. -/
def onMessage (s : BundleSimulatorService B) (msg : BundleSimulatorMessage B) :
    BundleSimulatorService B :=
  match msg with
  | .updateBlockNumber num =>
      let currentBlockNumber := s.currentBlockNumber
      if num ≠ currentBlockNumber then
        let old := currentBlockNumber
        { s with inner := { s.inner with currentBlockNumber := num } }.notifyListeners
          -- the source reports the number it has read, not the one it has stored
          (.blockNumberUpdated old currentBlockNumber)
      else
        s
  | .clearQueue =>
      { s with
        highPriorityQueue := []
        normalPriorityQueue := []
        world := { s.world with
          cleared := s.world.cleared ++ (s.highPriorityQueue ++ s.normalPriorityQueue) } }
  | .addEventListener tx => { s with listeners := s.listeners ++ [tx] }
  | .addSimulation request tx =>
      if request.priority.isHigh then
        if s.hasHighPriorityCapacity then
          { s with highPriorityQueue := s.highPriorityQueue ++ [request] }.answer tx request
            (.ok ())
        else
          s.answer tx request (.error .queueFull)
      else if s.hasNormalPriorityCapacity then
        { s with normalPriorityQueue := s.normalPriorityQueue ++ [request] }.answer tx request
          (.ok ())
      else
        s.answer tx request (.error .queueFull)

/-! ## Outcomes -/

/-- Processes a finished simulation. -/
def onSimulationOutcome (s : BundleSimulatorService B) (outcome : BundleSimulationOutcome)
    (sim : SimulationRequest B) : BundleSimulatorService B :=
  match outcome with
  | .success resp =>
      s.notifyListeners (.simulatedBundle (.ok
        { request := sim.request, overrides := sim.overrides, response := resp,
          retries := sim.retries }))
  | .fatal error => s.notifyListeners (.simulatedBundle (.error { error := error, sim := sim }))
  | .reschedule _ =>
      -- reschedule the simulation.
      let sim := { sim with retries := sim.retries + 1 }
      if sim.retries > s.config.maxRetries then
        s.notifyListeners (.exceededMaxRetries sim.request sim.overrides)
      else if sim.priority.isHigh then
        { s with highPriorityQueue := s.highPriorityQueue ++ [sim] }
      else
        { s with normalPriorityQueue := s.normalPriorityQueue ++ [sim] }

/-- `FuturesUnordered::poll_next_unpin` where the future `id` is the one found
ready, with outcome `out`: it is polled and taken out of the set. -/
def pollNextSimulation (s : BundleSimulatorService B) (id : ℕ) (out : BundleSimulationOutcome) :
    Except Halt ((BundleSimulationOutcome × SimulationRequest B) × BundleSimulatorService B) :=
  match s.simulations.find? fun sim => sim.sim == id with
  | none => .error .disabled
  | some sim =>
      match sim.poll out with
      | .error e => .error e
      | .ok res => .ok (res,
          { s with
            simulations := s.simulations.eraseP fun sim => sim.sim == id
            world := { s.world with completed := s.world.completed ++ [(id, out)] } })

/-- The body of the second loop of `poll`. -/
def complete (s : BundleSimulatorService B) (id : ℕ) (out : BundleSimulationOutcome) :
    Except Halt (BundleSimulatorService B) :=
  match s.pollNextSimulation id out with
  | .error e => .error e
  | .ok ((outcome, inner), s) => .ok (s.onSimulationOutcome outcome inner)

/-! ## Actions -/

/-- A client drops its end of an event channel. -/
def dropListener (s : BundleSimulatorService B) (tx : ℕ) : BundleSimulatorService B :=
  { s with world := { s.world with droppedListeners := s.world.droppedListeners ++ [tx] } }

end BundleSimulatorService

/-- What can happen to the service: the body of one of the three loops of `poll`
is executed, or a client drops a listener.  The simulator's choices and the clock
are in the labels. -/
inductive Action (B : Type) where
  /-- A message is received from the handles and processed. -/
  | message (msg : BundleSimulatorMessage B)
  /-- The simulation `id` is found completed and its outcome is processed. -/
  | complete (id : ℕ) (out : BundleSimulationOutcome)
  /-- Queued requests are started, at the instant `now`. -/
  | schedule (now : Instant)
  | dropListener (tx : ℕ)

/-- One step of the service. -/
def step [Bundle B] (profile : BuildProfile) (s : BundleSimulatorService B) :
    Action B → Except Halt (BundleSimulatorService B)
  | .message msg => .ok (s.onMessage msg)
  | .complete id out => s.complete id out
  | .schedule now => s.schedule profile now
  | .dropListener tx => .ok (s.dropListener tx)

end Backend
end MevShare
