import MevShare.Library.Machine
import MevShare.Library.Rust
import MevShare.Rpc.Types

/-!
# The SSE client

`EventStream` of `mev-share-sse/src/client.rs`: a stream over one connection at a
time, which moves to a new connection when the server sends a retry directive or
when the user calls `retry` or `retry_with`.

## What is foreign

A connection is what its decoder will say, poll by poll: a list of `DecoderPoll`,
whose end is the end of the stream.  Establishing a connection is a request to
the server, and what comes of it (`ConnectPoll`) is an argument, as is whether a
sleep is over.  The deserializer of the item type is a parameter `fromSlice`.

## One turn of the loop

`poll_next` loops over the state of the stream, and only the two arms that
`continue` stay in the loop.  The body of the loop is `turn`; it gives back the
stream and the value that is returned, or `none` where the loop continues.
`pollNext` is the loop, with what the outside says at each turn.

`world` is not a field of the source.  It keeps which requests were made, what
the connections send, what was yielded and from which connection; nothing reads
it.
-/

namespace MevShare
namespace Sse

open Rpc Rust Machine

/-! ## Errors and events -/

/-- `serde_json::Error`, read through its `Display`. -/
structure JsonError where
  display : String
  deriving DecidableEq, Repr

/-- `http_types::Error`. -/
structure HttpError where
  display : String
  deriving DecidableEq, Repr

/-- `reqwest::Error`. -/
structure ReqwestError where
  display : String
  deriving DecidableEq, Repr

/-- Error variants that can occur while handling an SSE subscription. -/
inductive SseError where
  /-- Failed to deserialize the SSE event data. -/
  | serdeJsonError (error : JsonError)
  /-- Connection related error. -/
  | http (error : HttpError)
  /-- Request related error. -/
  | retryError (error : ReqwestError)
  | maxRetriesExceeded (maxRetries : U64)
  deriving DecidableEq, Repr

/-- The number that a retry directive gives, whatever its unit is. -/
abbrev Duration := ℕ

/-- `async_sse::Event`, of a message only the data. -/
inductive Event where
  | message (data : Bytes)
  | retry (duration : Duration)
  deriving DecidableEq, Repr

/-- What one poll of a decoder gives. -/
inductive DecoderPoll where
  | pending
  | item (res : Except HttpError Event)

inductive EventOrRetry (T : Type) where
  | retry (duration : Duration)
  | event (event : T)

/-- `std::task::Poll`. -/
inductive Poll (α : Type) where
  | pending
  | ready (a : α)

/-! ## Active streams -/

variable {T : Type}

/-- The closure of `new_stream` that is mapped over the events of the decoder. -/
def tryOk (fromSlice : Bytes → Except JsonError T) : Event → Except JsonError (EventOrRetry T)
  | .message data => (fromSlice data).map EventOrRetry.event
  | .retry duration => .ok (.retry duration)

/-- A connection and what its decoder has yet to say. -/
structure ActiveEventStream where
  connection : ℕ
  st : List DecoderPoll

/-- The item that a result of the decoder becomes. -/
def ActiveEventStream.convert (fromSlice : Bytes → Except JsonError T)
    (res : Except HttpError Event) : Except SseError (EventOrRetry T) :=
  match res with
  | .ok e =>
      match tryOk fromSlice e with
      | .ok e => .ok e
      | .error e => .error (.serdeJsonError e)
  | .error e => .error (.http e)

/-- `ActiveEventStream::poll_next`. -/
def ActiveEventStream.pollNext (fromSlice : Bytes → Except JsonError T) (s : ActiveEventStream) :
    ActiveEventStream × Poll (Option (Except SseError (EventOrRetry T))) :=
  match s.st with
  | [] => (s, .ready none)
  | .pending :: st => ({ s with st := st }, .pending)
  | .item res :: st => ({ s with st := st }, .ready (some (convert fromSlice res)))

/-! ## Streams -/

/-- The client for SSE. -/
structure EventClient where
  maxRetries : Option U64
  deriving DecidableEq, Repr

def EventClient.new : EventClient := ⟨none⟩

/-- Set the maximum number of retries. -/
def EventClient.setMaxRetries (_ : EventClient) (maxRetries : U64) : EventClient :=
  ⟨some maxRetries⟩

def EventClient.withMaxRetries (c : EventClient) (maxRetries : U64) : EventClient :=
  c.setMaxRetries maxRetries

/-- `EventStreamInner`; a `serde_json::Value` is known by its text. -/
structure EventStreamInner where
  numRetries : U64
  endpoint : String
  client : EventClient
  query : Option String
  deriving DecidableEq, Repr

/-- What `new_stream` is called with. -/
structure Request where
  endpoint : String
  query : Option String
  deriving DecidableEq, Repr

def EventStreamInner.request (i : EventStreamInner) : Request := ⟨i.endpoint, i.query⟩

/-- What comes of a call of `new_stream`: it is still pending, it has failed, or
there is a connection, on which the decoder will say this. -/
inductive ConnectPoll where
  | pending
  | ready (res : Except ReqwestError (List DecoderPoll))

/-- Where the future of an automatic retry is. -/
inductive RetryStage where
  | sleeping (duration : Duration)
  /-- In `new_stream`. -/
  | connecting
  deriving DecidableEq, Repr

/-- The future of an automatic retry, with the clone it has captured. -/
structure RetryFuture where
  stage : RetryStage
  client : EventStreamInner

inductive State where
  | ended
  | retry (fut : RetryFuture)
  | active (st : ActiveEventStream)

/-- A connection that was established, and what is sent on it. -/
structure Connection where
  request : Request
  st : List DecoderPoll

/-- What a stream has exchanged with the outside, oldest first. -/
structure World (T : Type) where
  /-- All calls of `new_stream`. -/
  requests : List Request
  /-- The calls of `new_stream` by a retry, since the stream was created or its
  retries were last reset. -/
  opened : ℕ
  connections : List Connection
  /-- What `poll_next` has returned, other than `Pending`, and the connection it
  was read from. -/
  outputs : List (Option ℕ × Option (Except SseError T))
  /-- The connections that `poll_next` has let go. -/
  left : List ℕ

/-- A stream of SSE items. -/
structure EventStream (T : Type) where
  inner : EventStreamInner
  /-- State the stream is in; `none` while it is taken out. -/
  state : Option State
  world : World T

namespace World

/-- A call of `new_stream` by a retry. -/
def newStream (w : World T) (r : Request) : World T :=
  { w with requests := w.requests ++ [r], opened := w.opened + 1 }

/-- A connection is established. -/
def connect (w : World T) (r : Request) (st : List DecoderPoll) : ActiveEventStream × World T :=
  (⟨w.connections.length, st⟩, { w with connections := w.connections ++ [⟨r, st⟩] })

def output (w : World T) (connection : Option ℕ) (item : Option (Except SseError T)) : World T :=
  { w with outputs := w.outputs ++ [(connection, item)] }

def leave (w : World T) (connection : ℕ) : World T :=
  { w with left := w.left ++ [connection] }

end World

/-- The first part of `EventStreamInner::retry`, up to the call of `new_stream`. -/
def EventStreamInner.beginRetry (profile : BuildProfile) (i : EventStreamInner) :
    Except Halt (EventStreamInner × Except SseError Unit) :=
  match profile.addU64 i.numRetries 1 with
  | .error e => .error e
  | .ok numRetries =>
      let i := { i with numRetries := numRetries }
      match i.client.maxRetries with
      | some maxRetries =>
          if i.numRetries > maxRetries then
            .ok (i, .error (.maxRetriesExceeded maxRetries))
          else
            .ok (i, .ok ())
      | none => .ok (i, .ok ())

/-! ## Automatic retries -/

/-- What the outside says to a poll of the future of an automatic retry: whether
the sleep is over, and what has come of the call of `new_stream`. -/
structure RetryPoll where
  awake : Bool
  connect : ConnectPoll

/-- The last part of the future: awaiting `new_stream`. -/
def RetryFuture.pollConnect (fut : RetryFuture) (w : World T) (connect : ConnectPoll) :
    World T × RetryFuture × Poll (Except SseError ActiveEventStream) :=
  match connect with
  | .pending => (w, fut, .pending)
  | .ready (.ok st) =>
      let (st, w) := w.connect fut.client.request st
      (w, fut, .ready (.ok st))
  | .ready (.error e) => (w, fut, .ready (.error (.retryError e)))

/-- Polling the future of an automatic retry: it sleeps, then it retries. -/
def RetryFuture.poll (profile : BuildProfile) (fut : RetryFuture) (obs : RetryPoll)
    (w : World T) :
    Except Halt (World T × RetryFuture × Poll (Except SseError ActiveEventStream)) :=
  match fut.stage with
  | .sleeping _ =>
      if obs.awake then
        match fut.client.beginRetry profile with
        | .error e => .error e
        | .ok (client, .error err) => .ok (w, { fut with client := client }, .ready (.error err))
        | .ok (client, .ok ()) =>
            .ok (RetryFuture.pollConnect ⟨.connecting, client⟩ (w.newStream client.request)
              obs.connect)
      else
        .ok (w, fut, .pending)
  | .connecting => .ok (fut.pollConnect w obs.connect)

namespace EventStream

/-! ## Polling -/

/-- One turn of the loop of `EventStream::poll_next`. -/
def turn (profile : BuildProfile) (fromSlice : Bytes → Except JsonError T) (s : EventStream T)
    (obs : RetryPoll) :
    Except Halt (EventStream T × Option (Poll (Option (Except SseError T)))) :=
  match s.state with
  | none => .error (.panicked "EventStream polled after completion")
  | some .ended =>
      .ok ({ s with state := none, world := s.world.output none none }, some (.ready none))
  | some (.retry fut) =>
      match fut.poll profile obs s.world with
      | .error e => .error e
      | .ok (w, _, .ready (.ok st)) => .ok ({ s with state := some (.active st), world := w }, none)
      | .ok (w, _, .ready (.error err)) =>
          .ok ({ s with state := some .ended, world := w.output none (some (.error err)) },
            some (.ready (some (.error err))))
      | .ok (w, fut, .pending) =>
          .ok ({ s with state := some (.retry fut), world := w }, some .pending)
  | some (.active st) =>
      match st.pollNext fromSlice with
      | (st, .ready none) =>
          .ok ({ s with
            state := some .ended
            world := (s.world.output (some st.connection) none).leave st.connection },
            some (.ready none))
      | (st, .ready (some (.ok (.event event)))) =>
          .ok ({ s with
            state := some (.active st)
            world := s.world.output (some st.connection) (some (.ok event)) },
            some (.ready (some (.ok event))))
      | (st, .ready (some (.ok (.retry duration)))) =>
          -- `st` is dropped here, and the future captures a clone of `inner`
          .ok ({ s with
            state := some (.retry ⟨.sleeping duration, s.inner⟩)
            world := s.world.leave st.connection }, none)
      | (st, .ready (some (.error err))) =>
          .ok ({ s with
            state := some (.active st)
            world := s.world.output (some st.connection) (some (.error err)) },
            some (.ready (some (.error err))))
      | (st, .pending) => .ok ({ s with state := some (.active st) }, some .pending)

/-- `EventStream::poll_next`: turns until one returns.  The list has what the
outside says at each turn. -/
def pollNext (profile : BuildProfile) (fromSlice : Bytes → Except JsonError T) :
    List RetryPoll → EventStream T → Except Halt (EventStream T × Poll (Option (Except SseError T)))
  | [], _ => .error .outOfFuel
  | obs :: rest, s =>
      match s.turn profile fromSlice obs with
      | .error e => .error e
      | .ok (s, some res) => .ok (s, res)
      | .ok (s, none) => pollNext profile fromSlice rest s

/-! ## Manual retries -/

/-- `EventStream::retry`: a new connection takes the place of the state.  `none`
is returned where the caller drops the future before `new_stream` is ready. -/
def retry (profile : BuildProfile) (s : EventStream T) (connect : ConnectPoll) :
    Except Halt (EventStream T × Option (Except SseError Unit)) :=
  match s.inner.beginRetry profile with
  | .error e => .error e
  | .ok (inner, .error err) => .ok ({ s with inner := inner }, some (.error err))
  | .ok (inner, .ok ()) =>
      let w := s.world.newStream inner.request
      match connect with
      | .pending => .ok ({ s with inner := inner, world := w }, none)
      | .ready (.ok st) =>
          let (st, w) := w.connect inner.request st
          .ok ({ inner := inner, state := some (.active st), world := w }, some (.ok ()))
      | .ready (.error e) =>
          .ok ({ s with inner := inner, world := w }, some (.error (.retryError e)))

/-- `EventStream::retry_with`. -/
def retryWith (profile : BuildProfile) (s : EventStream T) (endpoint : String)
    (connect : ConnectPoll) : Except Halt (EventStream T × Option (Except SseError Unit)) :=
  { s with inner := { s.inner with endpoint := endpoint } }.retry profile connect

/-- Resets all retry attempts. -/
def resetRetries (s : EventStream T) : EventStream T :=
  { s with
    inner := { s.inner with numRetries := 0 }
    world := { s.world with opened := 0 } }

def endpoint (s : EventStream T) : String := s.inner.endpoint

/-- The stream that `subscribe` and `subscribe_with_query` return once their call
of `new_stream` has given a connection. -/
def subscribed (client : EventClient) (endpoint : String) (query : Option String)
    (st : List DecoderPoll) : EventStream T where
  inner := { numRetries := 0, endpoint := endpoint, client := client, query := query }
  state := some (.active ⟨0, st⟩)
  world :=
    { requests := [⟨endpoint, query⟩]
      opened := 0
      connections := [⟨⟨endpoint, query⟩, st⟩]
      outputs := []
      left := [] }

end EventStream

/-! ## What a turn can do -/

/-- What is yielded for a result of the decoder, if it is no retry directive. -/
def yielded (fromSlice : Bytes → Except JsonError T) :
    Except HttpError Event → Option (Except SseError T)
  | .ok (.message data) =>
      match fromSlice data with
      | .ok event => some (.ok event)
      | .error e => some (.error (.serdeJsonError e))
  | .ok (.retry _) => none
  | .error e => some (.error (.http e))

/-- **What the first part of a retry does.**  It counts, and it is refused exactly where the
count is past the limit. -/
theorem EventStreamInner.beginRetry_spec {profile : BuildProfile} {i i' : EventStreamInner}
    {r : Except SseError Unit} (h : i.beginRetry profile = .ok (i', r)) :
    i' = { i with numRetries := i.numRetries + 1 } ∧
      ((∃ m, i.client.maxRetries = some m ∧ m < i.numRetries + 1 ∧
          r = .error (.maxRetriesExceeded m)) ∨
        (∀ m, i.client.maxRetries = some m → i.numRetries + 1 ≤ m) ∧ r = .ok ()) := by
  unfold beginRetry at h
  cases hadd : profile.addU64 i.numRetries 1 with
  | error e =>
    rw [hadd] at h
    cases h
  | ok numRetries =>
    have hsum : numRetries = i.numRetries + 1 := BuildProfile.eq_add_of_addU64 hadd
    subst hsum
    rw [hadd] at h
    cases hmax : i.client.maxRetries with
    | none =>
      simp only [hmax] at h
      cases h
      exact ⟨rfl, Or.inr ⟨fun m hm => (by cases hm), rfl⟩⟩
    | some m =>
      simp only [hmax] at h
      by_cases hlt : i.numRetries + 1 > m
      · rw [if_pos hlt] at h
        cases h
        exact ⟨rfl, Or.inl ⟨m, rfl, hlt, rfl⟩⟩
      · rw [if_neg hlt] at h
        cases h
        refine ⟨rfl, Or.inr ⟨fun m' hm' => ?_, rfl⟩⟩
        cases hm'
        exact UInt64.not_lt.mp hlt

/-- It stops only where the count overflows. -/
theorem EventStreamInner.beginRetry_error {profile : BuildProfile} {i : EventStreamInner} {e : Halt}
    (h : i.beginRetry profile = .error e) : profile.addU64 i.numRetries 1 = .error e := by
  unfold beginRetry at h
  cases hadd : profile.addU64 i.numRetries 1 with
  | error e' =>
    rw [hadd] at h
    cases h
    rfl
  | ok numRetries =>
    rw [hadd] at h
    cases hmax : i.client.maxRetries with
    | none =>
      simp only [hmax] at h
      cases h
    | some m =>
      simp only [hmax] at h
      by_cases hlt : numRetries > m
      · rw [if_pos hlt] at h
        cases h
      · rw [if_neg hlt] at h
        cases h

/-- A poll of the future of an automatic retry: it sleeps on, it wakes and retries,
which is refused or goes on to `new_stream`, or it is in `new_stream` already. -/
theorem RetryFuture.poll_cases {profile : BuildProfile} {fut fut' : RetryFuture}
    {obs : RetryPoll} {w w' : World T} {r : Poll (Except SseError ActiveEventStream)}
    (h : fut.poll profile obs w = .ok (w', fut', r)) :
    (w' = w ∧ fut' = fut ∧ r = .pending) ∨
      (∃ duration client res, fut.stage = .sleeping duration ∧ obs.awake = true ∧
        fut.client.beginRetry profile = .ok (client, res) ∧
        ((∃ err, res = .error err ∧ w' = w ∧ fut' = { fut with client := client } ∧
            r = .ready (.error err)) ∨
          (res = .ok () ∧ RetryFuture.pollConnect ⟨.connecting, client⟩
            (w.newStream client.request) obs.connect = (w', fut', r)))) ∨
      (fut.stage = .connecting ∧ fut.pollConnect w obs.connect = (w', fut', r)) := by
  unfold poll at h
  rcases hstage : fut.stage with duration | _
  · rw [hstage] at h
    by_cases hawake : obs.awake = true
    · simp only [hawake, if_true] at h
      rcases hbegin : fut.client.beginRetry profile with e | ⟨client, err | _⟩
      · rw [hbegin] at h
        cases h
      · rw [hbegin] at h
        cases h
        exact Or.inr (Or.inl ⟨duration, client, _, rfl, hawake, rfl,
          Or.inl ⟨err, rfl, rfl, rfl, rfl⟩⟩)
      · rw [hbegin] at h
        exact Or.inr (Or.inl ⟨duration, client, _, rfl, hawake, rfl,
          Or.inr ⟨rfl, Except.ok.inj h⟩⟩)
    · simp only [hawake, Bool.false_eq_true, if_false] at h
      cases h
      exact Or.inl ⟨rfl, rfl, rfl⟩
  · rw [hstage] at h
    exact Or.inr (Or.inr ⟨rfl, Except.ok.inj h⟩)

/-- A poll of the future stops only in the retry. -/
theorem RetryFuture.poll_error {profile : BuildProfile} {fut : RetryFuture} {obs : RetryPoll}
    {w : World T} {e : Halt} (h : fut.poll profile obs w = .error e) :
    ∃ duration, fut.stage = .sleeping duration ∧ fut.client.beginRetry profile = .error e := by
  unfold poll at h
  rcases hstage : fut.stage with duration | _
  · by_cases hawake : obs.awake = true
    · simp only [hstage, hawake, if_true] at h
      rcases hbegin : fut.client.beginRetry profile with e' | ⟨client, err | _⟩
      · rw [hbegin] at h
        cases h
        exact ⟨duration, rfl, rfl⟩
      · rw [hbegin] at h
        cases h
      · rw [hbegin] at h
        cases h
    · simp only [hstage, hawake, Bool.false_eq_true, if_false] at h
      cases h
  · simp only [hstage] at h
    cases h

namespace EventStream

variable {profile : BuildProfile} {fromSlice : Bytes → Except JsonError T} {s t : EventStream T}
  {obs : RetryPoll} {ret : Option (Poll (Option (Except SseError T)))}

/-- A turn on a connection: it has ended, it has nothing now, it says to retry, or
it has an item, which is yielded. -/
theorem turn_active {st : ActiveEventStream} (hstate : s.state = some (.active st))
    (h : s.turn profile fromSlice obs = .ok (t, ret)) :
    (st.st = [] ∧ ret = some (.ready none) ∧ t = { s with
        state := some .ended
        world := (s.world.output (some st.connection) none).leave st.connection }) ∨
      (∃ rest, st.st = .pending :: rest ∧ ret = some .pending ∧
        t = { s with state := some (.active { st with st := rest }) }) ∨
      (∃ rest duration, st.st = .item (.ok (.retry duration)) :: rest ∧ ret = none ∧ t = { s with
        state := some (.retry ⟨.sleeping duration, s.inner⟩)
        world := s.world.leave st.connection }) ∨
      ∃ rest res item, st.st = .item res :: rest ∧ yielded fromSlice res = some item ∧
        ret = some (.ready (some item)) ∧ t = { s with
          state := some (.active { st with st := rest })
          world := s.world.output (some st.connection) (some item) } := by
  unfold turn at h
  rw [hstate] at h
  simp only [ActiveEventStream.pollNext] at h
  rcases hst : st.st with _ | ⟨_ | res, rest⟩
  · rw [hst] at h
    cases h
    exact Or.inl ⟨rfl, rfl, rfl⟩
  · rw [hst] at h
    cases h
    exact Or.inr (Or.inl ⟨rest, rfl, rfl, rfl⟩)
  · rw [hst] at h
    rcases res with e | (data | duration)
    · cases h
      exact Or.inr (Or.inr (Or.inr ⟨rest, _, _, rfl, rfl, rfl, rfl⟩))
    · refine Or.inr (Or.inr (Or.inr ⟨rest, .ok (.message data), ?_⟩))
      cases hdec : fromSlice data with
      | ok event =>
        simp only [ActiveEventStream.convert, tryOk, hdec, Except.map] at h
        cases h
        exact ⟨.ok event, rfl, by rw [yielded, hdec], rfl, rfl⟩
      | error e =>
        simp only [ActiveEventStream.convert, tryOk, hdec, Except.map] at h
        cases h
        exact ⟨.error (.serdeJsonError e), rfl, by rw [yielded, hdec], rfl, rfl⟩
    · cases h
      exact Or.inr (Or.inr (Or.inl ⟨rest, duration, rfl, rfl, rfl⟩))

/-- A turn on the future of an automatic retry: it is ready with a connection or
with an error, or it is pending. -/
theorem turn_retry {fut : RetryFuture} (hstate : s.state = some (.retry fut))
    (h : s.turn profile fromSlice obs = .ok (t, ret)) :
    ∃ w fut' r, fut.poll profile obs s.world = .ok (w, fut', r) ∧
      ((∃ st, r = .ready (.ok st) ∧ ret = none ∧
          t = { s with state := some (.active st), world := w }) ∨
        (∃ err, r = .ready (.error err) ∧ ret = some (.ready (some (.error err))) ∧ t = { s with
          state := some .ended
          world := w.output none (some (.error err)) }) ∨
        (r = .pending ∧ ret = some .pending ∧
          t = { s with state := some (.retry fut'), world := w })) := by
  unfold turn at h
  rw [hstate] at h
  simp only at h
  cases hpoll : fut.poll profile obs s.world with
  | error e =>
    rw [hpoll] at h
    cases h
  | ok x =>
    obtain ⟨w, fut', r⟩ := x
    rw [hpoll] at h
    refine ⟨w, fut', r, rfl, ?_⟩
    rcases r with _ | (err | st)
    · cases h
      exact Or.inr (Or.inr ⟨rfl, rfl, rfl⟩)
    · cases h
      exact Or.inr (Or.inl ⟨err, rfl, rfl, rfl⟩)
    · cases h
      exact Or.inl ⟨st, rfl, rfl, rfl⟩

/-- A turn on a stream that has ended takes its state. -/
theorem turn_ended (hstate : s.state = some .ended)
    (h : s.turn profile fromSlice obs = .ok (t, ret)) :
    ret = some (.ready none) ∧
      t = { s with state := none, world := s.world.output none none } := by
  unfold turn at h
  rw [hstate] at h
  cases h
  exact ⟨rfl, rfl⟩

/-- No turn gets past a state that was taken. -/
theorem turn_none (hstate : s.state = none) : s.turn profile fromSlice obs ≠ .ok (t, ret) := by
  intro h
  unfold turn at h
  rw [hstate] at h
  cases h

/-- **A turn stops** on a state that was taken, or in the retry of a future that wakes. -/
theorem turn_error {e : Halt} (h : s.turn profile fromSlice obs = .error e) :
    s.state = none ∧ e = .panicked "EventStream polled after completion" ∨
      ∃ fut duration, s.state = some (.retry fut) ∧ fut.stage = .sleeping duration ∧
        fut.client.beginRetry profile = .error e := by
  unfold turn at h
  rcases hstate : s.state with _ | _ | fut | st
  · rw [hstate] at h
    cases h
    exact Or.inl ⟨rfl, rfl⟩
  · rw [hstate] at h
    cases h
  · rw [hstate] at h
    rcases hpoll : fut.poll profile obs s.world with e' | ⟨w, fut', _ | (err | st)⟩
    · simp only [hpoll] at h
      cases h
      obtain ⟨duration, hstage, hbegin⟩ := RetryFuture.poll_error hpoll
      exact Or.inr ⟨fut, duration, rfl, hstage, hbegin⟩
    · simp only [hpoll] at h
      cases h
    · simp only [hpoll] at h
      cases h
    · simp only [hpoll] at h
      cases h
  · rw [hstate] at h
    rcases hpoll : st.pollNext fromSlice with ⟨st', _ | (_ | (err | (duration | event)))⟩
    · simp only [hpoll] at h
      cases h
    · simp only [hpoll] at h
      cases h
    · simp only [hpoll] at h
      cases h
    · simp only [hpoll] at h
      cases h
    · simp only [hpoll] at h
      cases h

end EventStream

/-! ## Runs -/

/-- What the owner of a stream does with it, and what the outside says: one more
turn of a `poll_next`, or one of the other calls. -/
inductive Action where
  | turn (obs : RetryPoll)
  | retry (connect : ConnectPoll)
  | retryWith (endpoint : String) (connect : ConnectPoll)
  | resetRetries

/-- A stream between two turns or calls. -/
structure Session (T : Type) where
  stream : EventStream T
  /-- A `poll_next` has begun and not returned, so the stream is borrowed. -/
  polling : Bool

def Session.start (client : EventClient) (endpoint : String) (query : Option String)
    (st : List DecoderPoll) : Session T :=
  ⟨EventStream.subscribed client endpoint query st, false⟩

/-- One step of a session. -/
def step (profile : BuildProfile) (fromSlice : Bytes → Except JsonError T) (s : Session T) :
    Action → Except Halt (Session T)
  | .turn obs =>
      match s.stream.turn profile fromSlice obs with
      | .error e => .error e
      | .ok (t, res) => .ok ⟨t, res.isNone⟩
  | .retry connect =>
      if s.polling then .error .disabled
      else
        match s.stream.retry profile connect with
        | .error e => .error e
        | .ok (t, _) => .ok ⟨t, false⟩
  | .retryWith endpoint connect =>
      if s.polling then .error .disabled
      else
        match s.stream.retryWith profile endpoint connect with
        | .error e => .error e
        | .ok (t, _) => .ok ⟨t, false⟩
  | .resetRetries =>
      if s.polling then .error .disabled else .ok ⟨s.stream.resetRetries, false⟩

/-- **What a step can do.**  It is a turn, or a call on a stream that is not
borrowed. -/
theorem step_cases {profile : BuildProfile} {fromSlice : Bytes → Except JsonError T}
    {s t : Session T} {a : Action} (h : step profile fromSlice s a = .ok t) :
    (∃ obs ret, a = .turn obs ∧
        s.stream.turn profile fromSlice obs = .ok (t.stream, ret) ∧ t.polling = ret.isNone) ∨
      (∃ connect ret, a = .retry connect ∧ s.polling = false ∧
        s.stream.retry profile connect = .ok (t.stream, ret) ∧ t.polling = false) ∨
      (∃ endpoint connect ret, a = .retryWith endpoint connect ∧ s.polling = false ∧
        s.stream.retryWith profile endpoint connect = .ok (t.stream, ret) ∧ t.polling = false) ∨
      (a = .resetRetries ∧ s.polling = false ∧ t = ⟨s.stream.resetRetries, false⟩) := by
  obtain ⟨stream, polling⟩ := s
  cases a with
  | turn obs =>
    simp only [step] at h
    cases hturn : stream.turn profile fromSlice obs with
    | error e =>
      rw [hturn] at h
      cases h
    | ok x =>
      rw [hturn] at h
      cases h
      exact Or.inl ⟨obs, x.2, rfl, hturn, rfl⟩
  | retry connect =>
    cases polling with
    | true => cases h
    | false =>
      simp only [step, Bool.false_eq_true, if_false] at h
      cases hretry : stream.retry profile connect with
      | error e =>
        rw [hretry] at h
        cases h
      | ok x =>
        rw [hretry] at h
        cases h
        exact Or.inr (Or.inl ⟨connect, x.2, rfl, rfl, hretry, rfl⟩)
  | retryWith endpoint connect =>
    cases polling with
    | true => cases h
    | false =>
      simp only [step, Bool.false_eq_true, if_false] at h
      cases hretry : stream.retryWith profile endpoint connect with
      | error e =>
        rw [hretry] at h
        cases h
      | ok x =>
        rw [hretry] at h
        cases h
        exact Or.inr (Or.inr (Or.inl ⟨endpoint, connect, x.2, rfl, rfl, hretry, rfl⟩))
  | resetRetries =>
    cases polling with
    | true => cases h
    | false =>
      cases h
      exact Or.inr (Or.inr (Or.inr ⟨rfl, rfl, rfl⟩))

/-- A call of `poll_next` is a run of turns. -/
theorem exec_turns {profile : BuildProfile} {fromSlice : Bytes → Except JsonError T}
    {obs : List RetryPoll} {s t : EventStream T} {res : Poll (Option (Except SseError T))}
    (h : EventStream.pollNext profile fromSlice obs s = .ok (t, res)) (polling : Bool) :
    ∃ turns, turns <+: obs ∧
      exec (step profile fromSlice) ⟨s, polling⟩ (turns.map Action.turn) = .ok ⟨t, false⟩ := by
  induction obs generalizing s polling with
  | nil => cases h
  | cons o obs ih =>
    rw [EventStream.pollNext] at h
    cases hturn : s.turn profile fromSlice o with
    | error e =>
      rw [hturn] at h
      cases h
    | ok x =>
      obtain ⟨s₁, ret⟩ := x
      rw [hturn] at h
      cases ret with
      | some r =>
        cases h
        refine ⟨[o], ⟨obs, rfl⟩, exec_cons.mpr ⟨⟨t, false⟩, ?_, rfl⟩⟩
        rw [step, hturn]
        rfl
      | none =>
        obtain ⟨turns, hpre, hexec⟩ := ih h true
        refine ⟨o :: turns, List.cons_prefix_cons.mpr ⟨rfl, hpre⟩, exec_cons.mpr ⟨_, ?_, hexec⟩⟩
        rw [step, hturn]
        rfl

end Sse
end MevShare
