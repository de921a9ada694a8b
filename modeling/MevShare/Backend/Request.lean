import MevShare.Rpc.Types

/-!
# Simulation requests, outcomes, events and messages

The data of `mev-share-backend/src/service.rs` and the outcome types of
`mev-share-backend/src/lib.rs`.

## The bundle is a parameter

The service clones a bundle, hands it to the simulator and puts it into events;
the one thing it reads of it is the inclusion window.  So the bundle is a type
parameter `B` with an `inclusion`, and the program is the instance at
`SendBundleRequest`.  Nothing is lost by this, and `Backend.Ticket` gains a
second instance from it, in which two equal bundles can be told apart.

An `Instant` is the number of ticks of the monotonic clock.  A boxed error is
known by what it displays.
-/

namespace MevShare
namespace Backend

open Rpc

/-- What the service reads of a bundle. -/
class Bundle (B : Type) where
  inclusion : B → Inclusion

instance : Bundle SendBundleRequest := ⟨SendBundleRequest.inclusion⟩

abbrev Instant := ℕ

/-- `Box<dyn Error + Send + Sync>`, read through its `Display`. -/
structure BoxError where
  display : String
  deriving DecidableEq, Repr

/-- How to queue in a simulation. -/
inductive SimulationPriority where
  /-- The simulation is not urgent. -/
  | normal
  /-- The simulation should be prioritized. -/
  | high
  deriving DecidableEq, Repr

def SimulationPriority.isHigh : SimulationPriority → Bool
  | .high => true
  | .normal => false

def SimulationPriority.isNormal : SimulationPriority → Bool
  | .high => false
  | .normal => true

@[simp] theorem SimulationPriority.isHigh_high : SimulationPriority.high.isHigh = true := rfl

@[simp] theorem SimulationPriority.isHigh_normal : SimulationPriority.normal.isHigh = false := rfl

/-- A request to simulate a bundle. -/
structure SimulationRequest (B : Type) where
  /-- How often this has been retried. -/
  retries : ℕ
  request : B
  overrides : SimBundleOverrides
  priority : SimulationPriority
  /-- The timestamp when the request can be resent again. -/
  backedOffUntil : Option Instant
  deriving DecidableEq

variable {B : Type}

namespace SimulationRequest

/-- `block > self.request.inclusion.block_number()`. -/
def isMinBlock [Bundle B] (r : SimulationRequest B) (block : U64) : Bool :=
  decide (block > (Bundle.inclusion r.request).blockNumber)

def isReadyAt (r : SimulationRequest B) (now : Instant) : Bool :=
  match r.backedOffUntil with
  | none => true
  | some backoff => decide (now > backoff)

def exceedsTargetBlock [Bundle B] (r : SimulationRequest B) (block : U64) : Bool :=
  ((Bundle.inclusion r.request).maxBlockNumber.map fun target => decide (block > target)).getD false

end SimulationRequest

/-- How a simulation ends. -/
inductive BundleSimulationOutcome where
  | success (response : SimBundleResponse)
  /-- The simulation failed and is not recoverable. -/
  | fatal (error : BoxError)
  /-- The simulation failed and should be rescheduled. -/
  | reschedule (error : BoxError)

def BundleSimulationOutcome.isReschedule : BundleSimulationOutcome → Bool
  | .reschedule _ => true
  | _ => false

/-- A simulated bundle. -/
structure SimulatedBundle (B : Type) where
  request : B
  overrides : SimBundleOverrides
  response : SimBundleResponse
  /-- The number of retries that were used for simulation. -/
  retries : ℕ

/-- `SimulatedBundleErrorInner`; the `Arc` around it is not seen. -/
structure SimulatedBundleError (B : Type) where
  error : BoxError
  sim : SimulationRequest B

/-- Events emitted by the simulation service. -/
inductive SimulationEvent (B : Type) where
  | simulatedBundle (result : Except (SimulatedBundleError B) (SimulatedBundle B))
  /-- A request was dropped because its last block has passed. -/
  | outdatedRequest (request : B) (overrides : SimBundleOverrides) (nextBlock : U64)
  /-- A request was dropped because it used up its retries. -/
  | exceededMaxRetries (request : B) (overrides : SimBundleOverrides)
  | blockNumberUpdated (old current : U64)

/-- Errors that can occur when adding a simulation job. -/
inductive AddSimulationErr where
  | queueFull
  | serviceUnavailable
  deriving DecidableEq, Repr

/-- Messages from the handles to the service.  The sending ends in them, of a
oneshot channel and of an event channel, are known by the channel's number. -/
inductive BundleSimulatorMessage (B : Type) where
  | clearQueue
  | updateBlockNumber (num : U64)
  | addSimulation (request : SimulationRequest B) (tx : ℕ)
  | addEventListener (tx : ℕ)

/-- Config values for the service. -/
structure BundleSimulatorServiceConfig where
  /-- Maximum number of retries for a simulation. -/
  maxRetries : ℕ
  /-- Maximum number of unprocessed jobs in the normal priority queue. -/
  maxNormalPrioQueueLen : ℕ
  /-- Maximum number of unprocessed jobs in the high priority queue. -/
  maxHighPrioQueueLen : ℕ
  /-- Maximum number of concurrently active simulations. -/
  maxConcurrentSimulations : ℕ
  deriving DecidableEq, Repr

/-- `BundleSimulatorServiceConfig::default`. -/
def BundleSimulatorServiceConfig.default : BundleSimulatorServiceConfig where
  maxRetries := 30
  maxNormalPrioQueueLen := 1024
  maxHighPrioQueueLen := 2048
  maxConcurrentSimulations := 32

end Backend
end MevShare
