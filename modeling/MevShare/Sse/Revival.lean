import MevShare.Sse.Endpoint
import MevShare.Sse.Trace

/-!
# When a stream may be polled

`EventStream` is not fused: polled once too often, it panics.  `Sse.Trace` says that one
who stops at the first `None` is safe.  But a stream can be retried by hand, before and
after its end, and then it goes on.

`Phase` is what the owner of a stream can know from what the calls have told him, without
a look at its state.  A stream is live until it says `None` or the error of a reconnect;
then it is finished, and the next poll says `None`; and then it is spent, and the next
poll panics.  A retry that succeeds makes it live again, whatever it was; one that fails, or
that is dropped, makes no difference.  `polledAfterCompletion_iff` is the exact statement,
for every sequence of polls, retries by hand and resets.
-/

namespace MevShare
namespace Sse

open Rpc Rust Machine

variable {T : Type} {profile : BuildProfile} {fromSlice : Bytes → Except JsonError T}

/-! ## Phases -/

/-- The error of a reconnect, as opposed to that of an item. -/
def SseError.isRetry : SseError → Bool
  | .retryError _ => true
  | .maxRetriesExceeded _ => true
  | _ => false

/-- What the owner of a stream is told: what a poll has returned, other than `Pending`, or
that a retry by hand has succeeded. -/
inductive Told (T : Type) where
  | polled (x : Option (Except SseError T))
  | reconnected

inductive Phase where
  | live
  /-- The next poll says `None`. -/
  | finished
  /-- The next poll panics. -/
  | spent
  deriving DecidableEq, Repr

namespace Phase

def next : Phase → Told T → Phase
  | _, .reconnected => live
  | live, .polled (some (.ok _)) => live
  | live, .polled (some (.error err)) => if err.isRetry then finished else live
  | live, .polled none => finished
  | finished, .polled _ => spent
  | spent, .polled _ => spent

/-- The phase of a stream whose owner has been told `told` since it was subscribed. -/
def after (p : Phase) (told : List (Told T)) : Phase := told.foldl next p

theorem after_append (p : Phase) (told told' : List (Told T)) :
    p.after (told ++ told') = (p.after told).after told' :=
  List.foldl_append

end Phase

/-- The phase that the state is in. -/
def EventStream.phase (s : EventStream T) : Phase :=
  match s.state with
  | none => .spent
  | some .ended => .finished
  | some _ => .live

/-! ## Polls -/

namespace EventStream

variable {s t : EventStream T}

/-- A pending retry fails with the error of a reconnect. -/
theorem isRetry_of_poll {fut fut' : RetryFuture} {obs : RetryPoll} {w w' : World T} {err : SseError}
    (h : fut.poll profile obs w = .ok (w', fut', .ready (.error err))) : err.isRetry = true := by
  have hconnect : ∀ {fut : RetryFuture} {w : World T},
      fut.pollConnect w obs.connect = (w', fut', .ready (.error err)) → err.isRetry = true := by
    intro fut w hpoll
    unfold RetryFuture.pollConnect at hpoll
    rcases hconn : obs.connect with _ | (e | script)
    · rw [hconn] at hpoll
      cases hpoll
    · rw [hconn] at hpoll
      cases hpoll
      rfl
    · rw [hconn] at hpoll
      cases hpoll
  obtain ⟨-, -, hres⟩ | ⟨duration, client, res, -, -, hbegin, hrest⟩ | ⟨-, hpoll⟩ :=
    RetryFuture.poll_cases h
  · cases hres
  · obtain ⟨err', rfl, -, -, hres⟩ | ⟨-, hpoll⟩ := hrest
    · cases hres
      obtain ⟨-, ⟨m, -, -, hr⟩ | ⟨-, hr⟩⟩ := EventStreamInner.beginRetry_spec hbegin
      · cases hr
        rfl
      · cases hr
    · exact hconnect hpoll
  · exact hconnect hpoll

/-- An item fails with another one. -/
theorem live_of_yielded {res : Except HttpError Event} {item : Except SseError T}
    (h : yielded fromSlice res = some item) : Phase.live.next (.polled (some item)) = .live := by
  rcases res with e | (data | duration)
  · cases h
    rfl
  · rcases hdec : fromSlice data with e | event <;> rw [yielded, hdec] at h <;> cases h <;> rfl
  · cases h

/-- **A turn** leads to the phase that what it gives back leads to, and one that gives back
nothing is a turn of a live stream. -/
theorem turn_phase {obs : RetryPoll} {ret : Option (Poll (Option (Except SseError T)))}
    (h : s.turn profile fromSlice obs = .ok (t, ret)) :
    t.phase = s.phase.after ((seen ret).map Told.polled) ∧ (ret = none → s.phase = .live) := by
  rcases hstate : s.state with _ | _ | fut | st
  · exact absurd h (turn_none hstate)
  · obtain ⟨rfl, rfl⟩ := turn_ended hstate h
    have hphase : s.phase = .finished := by rw [phase, hstate]
    rw [hphase]
    exact ⟨rfl, nofun⟩
  · have hphase : s.phase = .live := by rw [phase, hstate]
    rw [hphase]
    obtain ⟨w, fut', r, hpoll, ⟨st, -, rfl, rfl⟩ | ⟨err, rfl, rfl, rfl⟩ | ⟨-, rfl, rfl⟩⟩ :=
      turn_retry hstate h
    · exact ⟨rfl, fun _ => rfl⟩
    · have hfinished : Phase.live.next (.polled (some (.error err) : Option (Except SseError T))) =
          .finished := if_pos (isRetry_of_poll hpoll)
      exact ⟨hfinished.symm, nofun⟩
    · exact ⟨rfl, nofun⟩
  · have hphase : s.phase = .live := by rw [phase, hstate]
    rw [hphase]
    obtain ⟨-, rfl, rfl⟩ | ⟨rest, -, rfl, rfl⟩ | ⟨rest, duration, -, rfl, rfl⟩ |
      ⟨rest, res, item, -, hitem, rfl, rfl⟩ := turn_active hstate h
    · exact ⟨rfl, nofun⟩
    · exact ⟨rfl, nofun⟩
    · exact ⟨rfl, fun _ => rfl⟩
    · exact ⟨(live_of_yielded hitem).symm, nofun⟩

/-- So does a call. -/
theorem pollNext_phase {obs : List RetryPoll} {res : Poll (Option (Except SseError T))}
    (h : s.pollNext profile fromSlice obs = .ok (t, res)) :
    t.phase = s.phase.after ((seen (some res)).map Told.polled) := by
  induction obs generalizing s with
  | nil => cases h
  | cons o obs ih =>
    rw [pollNext] at h
    rcases hturn : s.turn profile fromSlice o with e | ⟨u, _ | r⟩
    · rw [hturn] at h
      cases h
    · rw [hturn] at h
      obtain ⟨hu, -⟩ := turn_phase hturn
      rw [ih h, hu]
      rfl
    · rw [hturn] at h
      cases h
      exact (turn_phase hturn).1

/-- **A poll panics for this reason** exactly if the stream is spent. -/
theorem pollNext_panics_iff {obs : List RetryPoll} (hobs : obs ≠ []) :
    s.pollNext profile fromSlice obs = .error (.panicked "EventStream polled after completion") ↔
      s.phase = .spent := by
  constructor
  · intro h
    clear hobs
    induction obs generalizing s with
    | nil => cases h
    | cons o obs ih =>
      rw [pollNext] at h
      rcases hturn : s.turn profile fromSlice o with e | ⟨u, _ | r⟩
      · rw [hturn] at h
        obtain rfl := Except.error.inj h
        obtain ⟨hnone, -⟩ | ⟨fut, duration, -, -, hbegin⟩ := turn_error hturn
        · rw [phase, hnone]
        · have hoverflow := BuildProfile.addU64_error (EventStreamInner.beginRetry_error hbegin)
          exact absurd hoverflow (by decide)
      · rw [hturn] at h
        obtain ⟨hu, hlive⟩ := turn_phase hturn
        rw [ih h, hlive rfl] at hu
        cases hu
      · rw [hturn] at h
        cases h
  · intro hspent
    obtain ⟨o, rest, rfl⟩ := List.exists_cons_of_ne_nil hobs
    rcases hstate : s.state with _ | _ | fut | st
    · rw [pollNext, turn, hstate]
    all_goals
      rw [phase, hstate] at hspent
      cases hspent

/-- A stream that is finished says so. -/
theorem pollNext_of_finished {obs : List RetryPoll} (hobs : obs ≠ [])
    (hfinished : s.phase = .finished) :
    ∃ t, s.pollNext profile fromSlice obs = .ok (t, .ready none) := by
  obtain ⟨o, rest, rfl⟩ := List.exists_cons_of_ne_nil hobs
  rcases hstate : s.state with _ | _ | fut | st
  · rw [phase, hstate] at hfinished
    cases hfinished
  · refine ⟨{ s with state := none, world := s.world.output none none }, ?_⟩
    simp only [pollNext, turn, hstate]
  · rw [phase, hstate] at hfinished
    cases hfinished
  · rw [phase, hstate] at hfinished
    cases hfinished

/-- **A retry by hand** that succeeds makes the stream live; no other makes a difference. -/
theorem retry_phase {connect : ConnectPoll} {ret : Option (Except SseError Unit)}
    (h : s.retry profile connect = .ok (t, ret)) :
    t.phase = if ret = some (.ok ()) then .live else s.phase := by
  obtain ⟨err, rfl, -, rfl⟩ | ⟨-, ⟨-, rfl, rfl⟩ | ⟨e, -, rfl, rfl⟩ | ⟨script, -, rfl, rfl⟩⟩ :=
    retry_cases h
  · exact (if_neg (by simp)).symm
  · exact (if_neg (by simp)).symm
  · exact (if_neg (by simp)).symm
  · rfl

end EventStream

/-! ## The owner of a stream -/

/-- A stream, with what its owner has been told. -/
structure Owner (T : Type) where
  stream : EventStream T
  told : List (Told T)

/-- What the owner does, and what the outside says to it. -/
inductive OwnerAction where
  | poll (obs : List RetryPoll)
  | retry (connect : ConnectPoll)
  | retryWith (endpoint : String) (connect : ConnectPoll)
  | resetRetries

namespace Owner

def start (client : EventClient) (endpoint : String) (query : Option String)
    (st : List DecoderPoll) : Owner T :=
  ⟨EventStream.subscribed client endpoint query st, []⟩

/-- After a retry by hand. -/
def retried (o : Owner T) (s : EventStream T) (ret : Option (Except SseError Unit)) : Owner T :=
  ⟨s, o.told ++ if ret = some (.ok ()) then [.reconnected] else []⟩

def step (profile : BuildProfile) (fromSlice : Bytes → Except JsonError T) (o : Owner T) :
    OwnerAction → Except Halt (Owner T)
  | .poll obs =>
      match o.stream.pollNext profile fromSlice obs with
      | .error e => .error e
      | .ok (s, res) => .ok ⟨s, o.told ++ (seen (some res)).map Told.polled⟩
  | .retry connect =>
      match o.stream.retry profile connect with
      | .error e => .error e
      | .ok (s, ret) => .ok (o.retried s ret)
  | .retryWith endpoint connect =>
      match o.stream.retryWith profile endpoint connect with
      | .error e => .error e
      | .ok (s, ret) => .ok (o.retried s ret)
  | .resetRetries => .ok { o with stream := o.stream.resetRetries }

/-- The owner knows the phase of the stream. -/
def Knows (o : Owner T) : Prop := o.stream.phase = Phase.live.after o.told

theorem Knows.retried {o : Owner T} (ho : o.Knows) {s s' : EventStream T}
    (hs : s.phase = o.stream.phase) {connect : ConnectPoll} {ret : Option (Except SseError Unit)}
    (h : s.retry profile connect = .ok (s', ret)) : (o.retried s' ret).Knows := by
  have hphase := EventStream.retry_phase h
  show s'.phase = Phase.live.after (o.told ++ _)
  rw [hphase, Phase.after_append, ← show o.stream.phase = _ from ho, hs]
  by_cases hret : ret = some (.ok ())
  · rw [if_pos hret, if_pos hret]
    rfl
  · rw [if_neg hret, if_neg hret]
    rfl

theorem Knows.step {o o' : Owner T} {a : OwnerAction} (ho : o.Knows)
    (h : o.step profile fromSlice a = .ok o') : o'.Knows := by
  rcases a with obs | connect | ⟨endpoint, connect⟩ | _
  · rw [Owner.step] at h
    rcases hpoll : o.stream.pollNext profile fromSlice obs with e | ⟨s, res⟩
    · rw [hpoll] at h
      cases h
    · rw [hpoll] at h
      cases h
      show s.phase = Phase.live.after (o.told ++ _)
      rw [EventStream.pollNext_phase hpoll, Phase.after_append, ← show o.stream.phase = _ from ho]
  · rw [Owner.step] at h
    rcases hretry : o.stream.retry profile connect with e | ⟨s, ret⟩
    · rw [hretry] at h
      cases h
    · rw [hretry] at h
      cases h
      exact ho.retried rfl hretry
  · rw [Owner.step] at h
    rcases hretry : o.stream.retryWith profile endpoint connect with e | ⟨s, ret⟩
    · rw [hretry] at h
      cases h
    · rw [hretry] at h
      cases h
      rw [EventStream.retryWith] at hretry
      exact ho.retried (by rfl) hretry
  · cases h
    exact ho

/-- **When a stream may be polled.**  In every sequence of polls, retries by hand and
resets, whatever the server does: the next poll panics for having come after the end
exactly if what the owner was told says so, and it says `None` where the stream is finished. -/
theorem polledAfterCompletion_iff {client : EventClient} {endpoint : String}
    {query : Option String} {script : List DecoderPoll} {calls : List OwnerAction} {o : Owner T}
    (h : exec (Owner.step profile fromSlice) (Owner.start client endpoint query script) calls =
      .ok o) {obs : List RetryPoll} (hobs : obs ≠ []) :
    (o.stream.pollNext profile fromSlice obs =
        .error (.panicked "EventStream polled after completion") ↔
          Phase.live.after o.told = .spent) ∧
      (Phase.live.after o.told = .finished →
        ∃ t, o.stream.pollNext profile fromSlice obs = .ok (t, .ready none)) := by
  have hknows : o.stream.phase = Phase.live.after o.told :=
    exec_invariant (I := Knows) (fun _ _ _ ho hstep => ho.step hstep)
      (show (start client endpoint query script).Knows from rfl) h
  rw [← hknows]
  exact ⟨EventStream.pollNext_panics_iff hobs, EventStream.pollNext_of_finished hobs⟩

/-- The connection ends, the end is seen twice, and a retry by hand gives another one. -/
def revivingCalls : List OwnerAction :=
  [.poll [⟨false, .pending⟩], .poll [⟨false, .pending⟩], .retry (.ready (.ok [.pending]))]

theorem polledAfterCompletion_iff_revivingCalls :
    ∃ o, exec (Owner.step ⟨true⟩ Except.ok) (Owner.start EventClient.new "/" none [])
        revivingCalls = .ok o ∧
      Phase.live.after o.told = .live ∧
      (o.stream.pollNext ⟨true⟩ Except.ok [⟨false, .pending⟩] =
        .error (.panicked "EventStream polled after completion") ↔
          Phase.live.after o.told = .spent) := by
  have hrun : ∃ o, exec (Owner.step ⟨true⟩ Except.ok) (Owner.start EventClient.new "/" none [])
      revivingCalls = .ok o ∧ Phase.live.after o.told = .live := ⟨_, rfl, rfl⟩
  obtain ⟨o, ho, hlive⟩ := hrun
  exact ⟨o, ho, hlive, (polledAfterCompletion_iff ho (List.cons_ne_nil _ _)).1⟩

end Owner
end Sse
end MevShare
