import MevShare.Backend.Poll
import MevShare.Backend.Transcript

/-!
# Simulations over RPC

`RpcSimulator` of `mev-share-backend/src/rpc.rs`: a simulation is one call of
`sim_bundle` on an RPC client, and a failed call is worth another try if the
error is recoverable.

The client is a foreign object, so its replies are in the labels of a run
(`RpcAction`); the service on top of it is `BundleSimulatorService`, whose
simulations complete with what `simulate_bundle` makes of the reply.  What
`Backend.Transcript` says about outcomes is here said about replies: every call
for a request but the last failed with a recoverable error, and the last reply
is the one that is reported.
-/

namespace MevShare
namespace Backend

open Rpc Rust Machine

variable {B : Type} {cfg : BundleSimulatorServiceConfig}

/-- `jsonrpsee::core::Error`, read through its `Display`. -/
structure RpcError where
  display : String
  deriving DecidableEq, Repr

/-- What a call of `sim_bundle` returns. -/
abbrev SimReply := Except RpcError SimBundleResponse

/-- Whether the error message contains a nonce too low error. -/
def isNonceTooLow (err : RpcError) : Bool := strContains err.display "nonce too low"

theorem isNonceTooLow_iff {err : RpcError} :
    isNonceTooLow err = true ↔ "nonce too low".toList <:+: err.display.toList :=
  strContains_iff

/-- `RpcSimulator`, without the client. -/
structure RpcSimulator where
  isErrRecoverable : RpcError → Bool

namespace RpcSimulator

def withRecoverableFn (f : RpcError → Bool) : RpcSimulator where
  isErrRecoverable := f

def new : RpcSimulator := withRecoverableFn isNonceTooLow

/-- The future of `simulate_bundle`, once the client has replied. -/
def simulateBundle (sim : RpcSimulator) : SimReply → BundleSimulationOutcome
  | .ok res => .success res
  | .error err =>
      if sim.isErrRecoverable err then
        .reschedule ⟨err.display⟩
      else
        .fatal ⟨err.display⟩

variable {sim : RpcSimulator}

/-- A failed call is worth another try, or it is not. -/
theorem simulateBundle_error (err : RpcError) :
    (sim.isErrRecoverable err = true ∧
        sim.simulateBundle (.error err) = .reschedule ⟨err.display⟩) ∨
      (sim.isErrRecoverable err = false ∧
        sim.simulateBundle (.error err) = .fatal ⟨err.display⟩) := by
  by_cases hrec : sim.isErrRecoverable err = true
  · refine Or.inl ⟨hrec, ?_⟩
    rw [simulateBundle, if_pos hrec]
  · refine Or.inr ⟨Bool.not_eq_true _ ▸ hrec, ?_⟩
    rw [simulateBundle, if_neg hrec]

theorem eq_ok_of_success {reply : SimReply} {res : SimBundleResponse}
    (h : sim.simulateBundle reply = .success res) : reply = .ok res := by
  rcases reply with err | res'
  · rcases sim.simulateBundle_error err with ⟨-, hout⟩ | ⟨-, hout⟩
    · rw [hout] at h
      cases h
    · rw [hout] at h
      cases h
  · cases h
    rfl

theorem exists_error_of_reschedule {reply : SimReply} {error : BoxError}
    (h : sim.simulateBundle reply = .reschedule error) :
    ∃ err, reply = .error err ∧ sim.isErrRecoverable err = true := by
  rcases reply with err | res
  · rcases sim.simulateBundle_error err with ⟨hrec, -⟩ | ⟨-, hout⟩
    · exact ⟨err, rfl, hrec⟩
    · rw [hout] at h
      cases h
  · cases h

theorem exists_error_of_fatal {reply : SimReply} {error : BoxError}
    (h : sim.simulateBundle reply = .fatal error) :
    ∃ err, reply = .error err ∧ sim.isErrRecoverable err = false ∧
      error.display = err.display := by
  rcases reply with err | res
  · rcases sim.simulateBundle_error err with ⟨-, hout⟩ | ⟨hrec, hout⟩
    · rw [hout] at h
      cases h
    · rw [hout] at h
      cases h
      exact ⟨err, rfl, hrec, rfl⟩
  · cases h

/-- Replies that are all to be repeated are recoverable errors. -/
theorem exists_recoverable {replies : List SimReply} {errors : List BoxError}
    (h : replies.map sim.simulateBundle = errors.map .reschedule) :
    ∃ errs : List RpcError, replies = errs.map .error ∧ errs.length = errors.length ∧
      ∀ err ∈ errs, sim.isErrRecoverable err = true := by
  induction replies generalizing errors with
  | nil =>
    rcases errors with _ | ⟨error, errors⟩
    · exact ⟨[], rfl, rfl, fun err herr => absurd herr List.not_mem_nil⟩
    · cases h
  | cons reply replies ih =>
    rcases errors with _ | ⟨error, errors⟩
    · cases h
    · rw [List.map_cons, List.map_cons] at h
      obtain ⟨hhead, htail⟩ := List.cons.inj h
      obtain ⟨err, rfl, hrec⟩ := exists_error_of_reschedule hhead
      obtain ⟨errs, rfl, hlen, hall⟩ := ih htail
      refine ⟨err :: errs, rfl, congrArg (· + 1) hlen, fun x hx => ?_⟩
      rcases List.mem_cons.mp hx with rfl | hx
      · exact hrec
      · exact hall x hx

/-- Recoverable errors, and then a last reply. -/
theorem exists_recoverable_concat {replies : List SimReply} {errors : List BoxError}
    {out : BundleSimulationOutcome}
    (h : replies.map sim.simulateBundle = errors.map .reschedule ++ [out]) :
    ∃ (errs : List RpcError) (last : SimReply),
      replies = errs.map .error ++ [last] ∧ sim.simulateBundle last = out ∧
        errs.length = errors.length ∧ ∀ err ∈ errs, sim.isErrRecoverable err = true := by
  obtain ⟨before, after, rfl, hbefore, hafter⟩ := List.map_eq_append_iff.mp h
  obtain ⟨last, rfl, hlast⟩ := List.map_eq_singleton_iff.mp hafter
  obtain ⟨errs, rfl, hlen, hall⟩ := exists_recoverable hbefore
  exact ⟨errs, last, rfl, hlast, hlen, hall⟩

end RpcSimulator

/-! ## Runs over RPC -/

/-- What can happen to a service that simulates over RPC. -/
inductive RpcAction (B : Type) where
  | message (msg : BundleSimulatorMessage B)
  /-- The client replies to the call with the number `id`. -/
  | reply (id : ℕ) (res : SimReply)
  | schedule (now : Instant)
  | dropListener (tx : ℕ)

/-- The step of the service that the action is. -/
def RpcAction.action (sim : RpcSimulator) : RpcAction B → Action B
  | .message msg => .message msg
  | .reply id res => .complete id (sim.simulateBundle res)
  | .schedule now => .schedule now
  | .dropListener tx => .dropListener tx

def RpcAction.reply? : RpcAction B → Option (ℕ × SimReply)
  | .reply id res => some (id, res)
  | _ => none

/-- The completions of a run over RPC are what the simulator makes of the
replies. -/
theorem filterMap_completion (sim : RpcSimulator) (run : List (RpcAction B)) :
    (run.map (RpcAction.action sim)).filterMap Action.completion? =
      (run.filterMap RpcAction.reply?).map fun c => (c.1, sim.simulateBundle c.2) := by
  induction run with
  | nil => rfl
  | cons a run ih =>
    rw [List.map_cons, List.filterMap_cons, List.filterMap_cons, ih]
    rcases a with msg | ⟨id, res⟩ | now | tx <;> rfl

theorem completion_ticketed (k : ℕ) (run : List (Action B)) :
    (ticketed k run).filterMap Action.completion? = run.filterMap Action.completion? := by
  induction run generalizing k with
  | nil => rfl
  | cons a run ih =>
    rw [ticketed, List.filterMap_cons, List.filterMap_cons, ih]
    rcases a with msg | ⟨id, out⟩ | now | tx <;> rfl

namespace BundleSimulatorService

/-- The completed simulations are those of the run. -/
theorem exec_completed [Bundle B] {profile : BuildProfile} {n : U64} {run : List (Action B)}
    {s : BundleSimulatorService B} (h : exec (step profile) (new n cfg) run = .ok s) :
    s.world.completed = run.filterMap Action.completion? := by
  refine exec_history (P := fun run (s : BundleSimulatorService B) =>
    s.world.completed = run.filterMap Action.completion?) rfl ?_ h
  intro as t a u _ ih hstep
  rw [step_completed hstep, ih, List.filterMap_append]
  rcases ha : a.completion? with _ | c <;> simp [ha]

/-- The replies of the client to the calls for the ticket `k`, oldest first. -/
def repliesTo (s : BundleSimulatorService (Ticketed B)) (run : List (RpcAction B)) (k : ℕ) :
    List SimReply :=
  ((run.filterMap RpcAction.reply?).filter fun c =>
    (s.world.simulateCalls[c.1]?).any fun job => hasTicket k job.1).map Prod.snd

/-- The outcomes for a ticket are what the simulator makes of the replies to it. -/
theorem outcomesOf_eq [Bundle B] {sim : RpcSimulator} {profile : BuildProfile} {n : U64}
    {run : List (RpcAction B)} {s : BundleSimulatorService (Ticketed B)}
    (h : exec (step profile) (new n cfg) (ticketed 0 (run.map (RpcAction.action sim))) = .ok s)
    (k : ℕ) : s.outcomesOf k = (s.repliesTo run k).map sim.simulateBundle := by
  unfold outcomesOf repliesTo
  rw [exec_completed h, completion_ticketed, filterMap_completion, List.filter_map, List.map_map,
    List.map_map]
  rfl

/-- The replies to the calls for the ticket `k` and the reports on it say the
same. -/
structure RepliesDecide (sim : RpcSimulator) (cfg : BundleSimulatorServiceConfig)
    (s : BundleSimulatorService (Ticketed B)) (run : List (RpcAction B)) (k : ℕ) : Prop where
  waiting : (∀ e ∈ s.world.emitted, e.about (hasTicket k) ≠ true) →
    ∃ errs : List RpcError, s.repliesTo run k = errs.map .error ∧
      errs.length ≤ cfg.maxRetries ∧ ∀ err ∈ errs, sim.isErrRecoverable err = true
  success : ∀ bundle, SimulationEvent.simulatedBundle (.ok bundle) ∈ s.world.emitted →
    bundle.request.ticket = k →
      ∃ errs : List RpcError,
        s.repliesTo run k = errs.map .error ++ [.ok bundle.response] ∧
          errs.length = bundle.retries ∧ bundle.retries ≤ cfg.maxRetries ∧
            ∀ err ∈ errs, sim.isErrRecoverable err = true
  error : ∀ failure, SimulationEvent.simulatedBundle (.error failure) ∈ s.world.emitted →
    failure.sim.request.ticket = k →
      ∃ (errs : List RpcError) (last : RpcError),
        s.repliesTo run k = errs.map .error ++ [.error last] ∧
          sim.isErrRecoverable last = false ∧ failure.error.display = last.display ∧
            errs.length = failure.sim.retries ∧ failure.sim.retries ≤ cfg.maxRetries ∧
              ∀ err ∈ errs, sim.isErrRecoverable err = true
  exceeded : ∀ request overrides,
    SimulationEvent.exceededMaxRetries request overrides ∈ s.world.emitted →
      request.ticket = k →
        ∃ errs : List RpcError, s.repliesTo run k = errs.map .error ∧
          errs.length = cfg.maxRetries + 1 ∧ ∀ err ∈ errs, sim.isErrRecoverable err = true
  heardResponse : ∀ res, Except.ok res ∈ s.repliesTo run k →
    ∃ bundle, SimulationEvent.simulatedBundle (.ok bundle) ∈ s.world.emitted ∧
      bundle.request.ticket = k ∧ bundle.response = res
  heardError : ∀ err, Except.error err ∈ s.repliesTo run k → sim.isErrRecoverable err = false →
    ∃ failure, SimulationEvent.simulatedBundle (.error failure) ∈ s.world.emitted ∧
      failure.sim.request.ticket = k ∧ failure.error.display = err.display

theorem repliesDecide_of_outcomesDecide {sim : RpcSimulator}
    {s : BundleSimulatorService (Ticketed B)} {run : List (RpcAction B)} {k : ℕ}
    (h : s.OutcomesDecide cfg k)
    (houts : s.outcomesOf k = (s.repliesTo run k).map sim.simulateBundle) :
    s.RepliesDecide sim cfg run k := by
  refine ⟨fun hnone => ?_, fun bundle hb hk => ?_, fun failure he hk => ?_,
    fun request overrides he hk => ?_, fun res hres => ?_, fun err herr hrec => ?_⟩
  · obtain ⟨errors, herrors, hle⟩ := h.waiting hnone
    obtain ⟨errs, hreplies, hlen, hall⟩ :=
      RpcSimulator.exists_recoverable (houts.symm.trans herrors)
    exact ⟨errs, hreplies, by omega, hall⟩
  · obtain ⟨errors, herrors, hretries, hle⟩ := h.success bundle hb hk
    obtain ⟨errs, last, hreplies, hlast, hlen, hall⟩ :=
      RpcSimulator.exists_recoverable_concat (houts.symm.trans herrors)
    obtain rfl := RpcSimulator.eq_ok_of_success hlast
    exact ⟨errs, hreplies, by omega, hle, hall⟩
  · obtain ⟨errors, herrors, hretries, hle⟩ := h.error failure he hk
    obtain ⟨errs, last, hreplies, hlast, hlen, hall⟩ :=
      RpcSimulator.exists_recoverable_concat (houts.symm.trans herrors)
    obtain ⟨err, rfl, hrec, hdisplay⟩ := RpcSimulator.exists_error_of_fatal hlast
    exact ⟨errs, err, hreplies, hrec, hdisplay, by omega, hle, hall⟩
  · obtain ⟨errors, herrors, hmax⟩ := h.exceeded request overrides he hk
    obtain ⟨errs, hreplies, hlen, hall⟩ :=
      RpcSimulator.exists_recoverable (houts.symm.trans herrors)
    exact ⟨errs, hreplies, by omega, hall⟩
  · refine h.heardSuccess res ?_
    rw [houts]
    exact List.mem_map.mpr ⟨_, hres, rfl⟩
  · have hfatal : sim.simulateBundle (.error err) = .fatal ⟨err.display⟩ := by
      rcases sim.simulateBundle_error err with ⟨hrec', -⟩ | ⟨-, hout⟩
      · rw [hrec] at hrec'
        cases hrec'
      · exact hout
    obtain ⟨failure, he, hk, herror⟩ := h.heardFatal ⟨err.display⟩ (by
      rw [houts, ← hfatal]
      exact List.mem_map.mpr ⟨_, herr, rfl⟩)
    exact ⟨failure, he, hk, by rw [herror]⟩

/-- **The replies decide the report.**  Whatever function tells the recoverable
errors: in every run over RPC whose submissions come from handles, the client's
replies to the calls for an accepted request are recoverable errors, as many as
its retry count, and then at most one response or unrecoverable error, which is
reported.  The retry count is a natural number, as in `outcomes_decide`. -/
theorem replies_decide [Bundle B] {sim : RpcSimulator} {profile : BuildProfile} {n : U64}
    {run : List (RpcAction B)} {s : BundleSimulatorService B}
    (h : exec (step profile) (new n cfg) (run.map (RpcAction.action sim)) = .ok s)
    (hrun : ∀ a ∈ run, (a.action sim).FromHandle) :
    ∃ s' : BundleSimulatorService (Ticketed B),
      exec (step profile) (new n cfg) (ticketed 0 (run.map (RpcAction.action sim))) = .ok s' ∧
      s'.map Ticketed.bundle = s ∧
      ∀ ans ∈ s'.world.answers, ans.result = .ok () →
        s'.RepliesDecide sim cfg run ans.request.request.ticket := by
  obtain ⟨s', hs', hmap⟩ := exec_ticketed h
  have hhandle : ∀ a ∈ run.map (RpcAction.action sim), a.FromHandle := by
    intro a ha
    obtain ⟨b, hb, rfl⟩ := List.mem_map.mp ha
    exact hrun b hb
  refine ⟨s', hs', hmap, fun ans hans hok => ?_⟩
  exact repliesDecide_of_outcomesDecide (exec_outcomesDecide hs' hhandle hans hok)
    (outcomesOf_eq hs' _)

/-- The node is behind at the first try, and knows the signer at the second. -/
def nonceRun : List (RpcAction SendBundleRequest) :=
  [.message (.addSimulation (normalRequest 5 none) 0),
    .schedule 0,
    .reply 0 (.error ⟨"server error: nonce too low"⟩),
    .schedule 1,
    .reply 1 (.error ⟨"unknown signer"⟩)]

theorem replies_decide_nonceRun :
    ∃ s, exec (step ⟨true⟩) (new 7 tightConfig)
        (nonceRun.map (RpcAction.action RpcSimulator.new)) = .ok s ∧
      ∃ s' : BundleSimulatorService (Ticketed SendBundleRequest),
        s'.map Ticketed.bundle = s ∧
          ∀ ans ∈ s'.world.answers, ans.result = .ok () →
            s'.RepliesDecide RpcSimulator.new tightConfig nonceRun
              ans.request.request.ticket := by
  have hrun : ∃ s, exec (step ⟨true⟩) (new 7 tightConfig)
      (nonceRun.map (RpcAction.action RpcSimulator.new)) = .ok s := ⟨_, rfl⟩
  obtain ⟨s, hs⟩ := hrun
  have hhandle : ∀ a ∈ nonceRun, (a.action RpcSimulator.new).FromHandle := by
    intro a ha r tx hmsg
    simp only [nonceRun, List.mem_cons, List.not_mem_nil, or_false] at ha
    rcases ha with rfl | rfl | rfl | rfl | rfl <;> cases hmsg
    exact ⟨_, _, _, rfl⟩
  obtain ⟨s', -, hmap, hall⟩ := replies_decide hs hhandle
  exact ⟨s, hs, s', hmap, hall⟩

end BundleSimulatorService
end Backend
end MevShare
