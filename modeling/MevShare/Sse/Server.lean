import MevShare.Library.Broadcast
import MevShare.Sse.Trace

/-!
# The SSE server

`mev-share-sse/src/server.rs`: a broadcaster, and a service that answers a request with
the stream of what is broadcast.  Every connection has a receiver of its own, a task that
forwards from it to the encoder of the response, and a client at the other end.

## What is foreign

The channel is `Broadcast.Channel`.  `serde_json::to_string` of the item type is a
parameter `toJson`, a text being known by its bytes.  The encoder, the body of the response
and the decoder of the client are one first-in-first-out `body`: a message that the encoder
has taken is what the decoder says next, and the decoder ends when the forwarding task
has.  When a message is taken and when it arrives is said by the outside.

## Steps

The loop of `SseBroadcastStream::poll_next` and the one of the forwarding task are cut at
every turn, so that a message can be broadcast between a receiver that lags and its next
try.  A client polls its `EventStream`, the one of `Sse.Client`.  The task is spawned when
the response is built, after the receiver was created; a task that is not scheduled yet is
no different.

`created`, `reads` and `lagged` of a connection and `values` of the service record the
past; nothing reads them.
-/

namespace MevShare
namespace Sse

open Rpc Rust Machine Broadcast

variable {T : Type} {profile : BuildProfile} {toJson : T → Except JsonError Bytes}
  {fromSlice : Bytes → Except JsonError T}

/-! ## The broadcaster -/

/-- The text of a broadcast message. -/
abbrev SSeBroadcastMessage := Bytes

inductive SseSendError where
  /-- Failed to serialize the message before sending. -/
  | json (error : JsonError)
  /-- Failed to send the message. -/
  | channelClosed (message : SSeBroadcastMessage)
  deriving DecidableEq, Repr

/-- `SseBroadcaster::send`: a message is sent if the channel has a receiver. -/
def SseBroadcaster.send (toJson : T → Except JsonError Bytes)
    (sender : Channel SSeBroadcastMessage) (receivers : ℕ) (msg : T) :
    Channel SSeBroadcastMessage × Except SseSendError ℕ :=
  match toJson msg with
  | .error e => (sender, .error (.json e))
  | .ok text =>
      if receivers = 0 then (sender, .error (.channelClosed text))
      else (sender.send text, .ok receivers)

/-- A stream that emits SSE messages. -/
structure SseBroadcastStream where
  st : Receiver

/-- `SseBroadcaster::stream`. -/
def SseBroadcaster.stream (sender : Channel SSeBroadcastMessage) : SseBroadcastStream :=
  ⟨sender.subscribe⟩

/-- One turn of the loop of `SseBroadcastStream::poll_next`; `none` where it continues. -/
def SseBroadcastStream.turn (s : SseBroadcastStream) (sender : Channel SSeBroadcastMessage) :
    SseBroadcastStream × Option (Poll (Option SSeBroadcastMessage)) :=
  match s.st.recv sender with
  | (st, .closed) => (⟨st⟩, some (.ready none))
  | (st, .value item) => (⟨st⟩, some (.ready (some item)))
  | (st, .lagged _) => (⟨st⟩, none)
  | (st, .empty) => (⟨st⟩, some .pending)

/-! ## Connections -/

/-- Where a forwarding task is. -/
inductive ForwardTask where
  /-- In `st.next()`. -/
  | next
  /-- In `sender.send(..)`. -/
  | sending (data : SSeBroadcastMessage)
  | ended
  deriving DecidableEq, Repr

/-- What the task has read and not sent yet. -/
def ForwardTask.inHand : ForwardTask → List SSeBroadcastMessage
  | .sending data => [data]
  | _ => []

/-- A request that was answered with a stream, and the client that made it. -/
structure ServedConnection (T : Type) where
  st : SseBroadcastStream
  task : ForwardTask
  /-- The client has not dropped the response. -/
  connected : Bool
  /-- What was sent and has not arrived. -/
  body : List SSeBroadcastMessage
  client : EventStream T
  /-- How many messages were broadcast before the receiver was created. -/
  created : ℕ
  /-- The positions of the messages that the receiver was given. -/
  reads : List ℕ
  /-- A lag error was skipped over. -/
  lagged : Bool

/-- `SseBroadcastService::call`, and the `EventStream` that the client makes of the
response. -/
def SseBroadcastService.call (sender : Channel SSeBroadcastMessage) (client : EventClient)
    (endpoint : String) (query : Option String) : ServedConnection T where
  st := SseBroadcaster.stream sender
  task := .next
  connected := true
  body := []
  client := EventStream.subscribed client endpoint query []
  created := sender.sent.length
  reads := []
  lagged := false

namespace ServedConnection

/-- One turn of the forwarding task.  Where it sends, the outside says whether the encoder
takes the message; the error of an encoder that was dropped is ignored. -/
def forward (sender : Channel SSeBroadcastMessage) (c : ServedConnection T) (taken : Bool) :
    ServedConnection T :=
  match c.task with
  | .next =>
      match c.st.turn sender with
      | (st, some (.ready (some data))) =>
          { c with st := st, task := .sending data, reads := c.reads ++ [c.st.st.next] }
      | (st, some (.ready none)) => { c with st := st, task := .ended }
      | (st, some .pending) => { c with st := st }
      | (st, none) => { c with st := st, lagged := true }
  | .sending data =>
      if c.connected then
        if taken then { c with task := .next, body := c.body ++ [data] } else c
      else { c with task := .next }
  | .ended => c

/-- What the decoder of the client will say to the next poll: a message that has arrived,
the end of the response, or nothing. -/
def arrive (c : ServedConnection T) (arrived : Bool) : ServedConnection T :=
  match c.client.state with
  | some (.active st) =>
      let (script, body) : List DecoderPoll × List SSeBroadcastMessage :=
        match arrived, c.body with
        | true, data :: body => ([.item (.ok (.message data))], body)
        | true, [] => if c.task = .ended then ([], []) else ([.pending], [])
        | false, body => ([.pending], body)
      { c with
        client := { c.client with state := some (.active { st with st := script }) }
        body := body }
  | _ => c

/-- The client polls its stream. -/
def poll (profile : BuildProfile) (fromSlice : Bytes → Except JsonError T)
    (c : ServedConnection T) (arrived : Bool) : Except Halt (ServedConnection T) :=
  match (c.arrive arrived).client.pollNext profile fromSlice [⟨false, .pending⟩] with
  | .error e => .error e
  | .ok (client, _) => .ok { c.arrive arrived with client := client }

/-- The `Ok` items that the client was given. -/
def items (c : ServedConnection T) : List T :=
  c.client.world.returned.filterMap fun
    | some (.ok item) => some item
    | _ => none

end ServedConnection

/-! ## The service -/

/-- A broadcaster and everything that hangs on it. -/
structure SseService (T : Type) where
  sender : Channel SSeBroadcastMessage
  /-- The receivers that belong to no connection. -/
  receivers : ℕ
  connections : List (ServedConnection T)
  /-- The values that were sent. -/
  values : List T

namespace SseService

def start (capacity : ℕ) : SseService T := ⟨⟨capacity, [], false⟩, 0, [], []⟩

/-- All receivers; a task that has ended has dropped its own. -/
def receiverCount (s : SseService T) : ℕ :=
  s.receivers + s.connections.countP fun c => c.task ≠ .ended

end SseService

/-- What can happen at a service. -/
inductive ServeAction (T : Type) where
  | send (msg : T)
  /-- `SseBroadcaster::subscribe`. -/
  | subscribe
  | dropReceiver
  /-- The last broadcaster is dropped. -/
  | close
  | call (client : EventClient) (endpoint : String) (query : Option String)
  | forward (connection : ℕ) (taken : Bool)
  | poll (connection : ℕ) (arrived : Bool)
  | disconnect (connection : ℕ)

/-- One step of a service. -/
def serve (profile : BuildProfile) (toJson : T → Except JsonError Bytes)
    (fromSlice : Bytes → Except JsonError T) (s : SseService T) :
    ServeAction T → Except Halt (SseService T)
  | .send msg =>
      if s.sender.closed then .error .disabled
      else
        match SseBroadcaster.send toJson s.sender s.receiverCount msg with
        | (sender, .ok _) => .ok { s with sender := sender, values := s.values ++ [msg] }
        | (sender, .error _) => .ok { s with sender := sender }
  | .subscribe =>
      if s.sender.closed then .error .disabled else .ok { s with receivers := s.receivers + 1 }
  | .dropReceiver =>
      if s.receivers = 0 then .error .disabled else .ok { s with receivers := s.receivers - 1 }
  | .close => .ok { s with sender := s.sender.close }
  | .call client endpoint query =>
      if s.sender.closed then .error .disabled
      else
        .ok { s with
          connections := s.connections ++ [SseBroadcastService.call s.sender client endpoint query] }
  | .forward k taken =>
      match s.connections[k]? with
      | none => .error .disabled
      | some c => .ok { s with connections := s.connections.set k (c.forward s.sender taken) }
  | .poll k arrived =>
      match s.connections[k]? with
      | none => .error .disabled
      | some c =>
          if c.connected then
            match c.poll profile fromSlice arrived with
            | .error e => .error e
            | .ok c => .ok { s with connections := s.connections.set k c }
          else .error .disabled
  | .disconnect k =>
      match s.connections[k]? with
      | none => .error .disabled
      | some c => .ok { s with connections := s.connections.set k { c with connected := false } }

/-- **The effects of a step**, in normal form. -/
inductive ServeEffect (profile : BuildProfile) (toJson : T → Except JsonError Bytes)
    (fromSlice : Bytes → Except JsonError T) (s : SseService T) :
    ServeAction T → SseService T → Prop
  | broadcast {msg : T} {text : SSeBroadcastMessage} (hjson : toJson msg = .ok text) :
      ServeEffect profile toJson fromSlice s (.send msg)
        { s with sender := s.sender.send text, values := s.values ++ [msg] }
  | refused (msg : T) : ServeEffect profile toJson fromSlice s (.send msg) s
  | subscribe :
      ServeEffect profile toJson fromSlice s .subscribe { s with receivers := s.receivers + 1 }
  | dropReceiver :
      ServeEffect profile toJson fromSlice s .dropReceiver { s with receivers := s.receivers - 1 }
  | close : ServeEffect profile toJson fromSlice s .close { s with sender := s.sender.close }
  | call (client : EventClient) (endpoint : String) (query : Option String) :
      ServeEffect profile toJson fromSlice s (.call client endpoint query)
        { s with connections :=
            s.connections ++ [SseBroadcastService.call s.sender client endpoint query] }
  | forward {k : ℕ} {c : ServedConnection T} (taken : Bool) (hk : s.connections[k]? = some c) :
      ServeEffect profile toJson fromSlice s (.forward k taken)
        { s with connections := s.connections.set k (c.forward s.sender taken) }
  | poll {k : ℕ} {c c' : ServedConnection T} {arrived : Bool} (hk : s.connections[k]? = some c)
      (hconnected : c.connected = true) (hpoll : c.poll profile fromSlice arrived = .ok c') :
      ServeEffect profile toJson fromSlice s (.poll k arrived)
        { s with connections := s.connections.set k c' }
  | disconnect {k : ℕ} {c : ServedConnection T} (hk : s.connections[k]? = some c) :
      ServeEffect profile toJson fromSlice s (.disconnect k)
        { s with connections := s.connections.set k { c with connected := false } }

theorem serve_effect {s t : SseService T} {a : ServeAction T}
    (h : serve profile toJson fromSlice s a = .ok t) :
    ServeEffect profile toJson fromSlice s a t := by
  rcases a with msg | _ | _ | _ | ⟨client, endpoint, query⟩ | ⟨k, taken⟩ | ⟨k, arrived⟩ | k
  · rw [serve, SseBroadcaster.send] at h
    by_cases hclosed : s.sender.closed = true
    · rw [if_pos hclosed] at h
      cases h
    · rw [if_neg hclosed] at h
      rcases hjson : toJson msg with e | text <;> simp only [hjson] at h
      · cases h
        exact ServeEffect.refused msg
      · by_cases hcount : s.receiverCount = 0
        · simp only [if_pos hcount] at h
          cases h
          exact ServeEffect.refused msg
        · simp only [if_neg hcount] at h
          cases h
          exact ServeEffect.broadcast hjson
  · rw [serve] at h
    split at h <;> cases h
    exact ServeEffect.subscribe
  · rw [serve] at h
    split at h <;> cases h
    exact ServeEffect.dropReceiver
  · cases h
    exact ServeEffect.close
  · rw [serve] at h
    split at h <;> cases h
    exact ServeEffect.call client endpoint query
  · rcases hk : s.connections[k]? with _ | c <;> simp only [serve, hk] at h <;> cases h
    exact ServeEffect.forward taken hk
  · rcases hk : s.connections[k]? with _ | c <;> simp only [serve, hk] at h
    · cases h
    · by_cases hconnected : c.connected = true
      · rw [if_pos hconnected] at h
        rcases hpoll : c.poll profile fromSlice arrived with e | c' <;> rw [hpoll] at h <;> cases h
        exact ServeEffect.poll hk hconnected hpoll
      · rw [if_neg hconnected] at h
        cases h
  · rcases hk : s.connections[k]? with _ | c <;> simp only [serve, hk] at h <;> cases h
    exact ServeEffect.disconnect hk

/-- **What a step can do.**  It broadcasts a value; or it leaves the channel but for its
closing, and takes one connection a step further or adds one. -/
theorem serve_cases {s t : SseService T} {a : ServeAction T}
    (h : serve profile toJson fromSlice s a = .ok t) :
    (∃ msg text, toJson msg = .ok text ∧ t.sender = s.sender.send text ∧
        t.values = s.values ++ [msg] ∧ t.connections = s.connections) ∨
      ((t.sender = s.sender ∨ t.sender = s.sender.close) ∧ t.values = s.values ∧
        (t.connections = s.connections ∨
          (∃ client endpoint query, t.sender = s.sender ∧ t.connections = s.connections ++
            [SseBroadcastService.call s.sender client endpoint query]) ∨
          ∃ k c c', t.sender = s.sender ∧ s.connections[k]? = some c ∧
            t.connections = s.connections.set k c' ∧
              ((∃ taken, c' = c.forward s.sender taken) ∨
                (∃ arrived, c.connected = true ∧ c.poll profile fromSlice arrived = .ok c') ∨
                c' = { c with connected := false }))) := by
  cases serve_effect h with
  | broadcast hjson => exact Or.inl ⟨_, _, hjson, rfl, rfl, rfl⟩
  | refused msg => exact Or.inr ⟨Or.inl rfl, rfl, Or.inl rfl⟩
  | subscribe => exact Or.inr ⟨Or.inl rfl, rfl, Or.inl rfl⟩
  | dropReceiver => exact Or.inr ⟨Or.inl rfl, rfl, Or.inl rfl⟩
  | close => exact Or.inr ⟨Or.inr rfl, rfl, Or.inl rfl⟩
  | call client endpoint query =>
    exact Or.inr ⟨Or.inl rfl, rfl, Or.inr (Or.inl ⟨client, endpoint, query, rfl, rfl⟩)⟩
  | forward taken hk =>
    exact Or.inr ⟨Or.inl rfl, rfl, Or.inr (Or.inr ⟨_, _, _, rfl, hk, rfl, Or.inl ⟨taken, rfl⟩⟩)⟩
  | poll hk hconnected hpoll =>
    exact Or.inr ⟨Or.inl rfl, rfl, Or.inr (Or.inr ⟨_, _, _, rfl, hk, rfl,
      Or.inr (Or.inl ⟨_, hconnected, hpoll⟩)⟩)⟩
  | disconnect hk =>
    exact Or.inr ⟨Or.inl rfl, rfl, Or.inr (Or.inr ⟨_, _, _, rfl, hk, rfl, Or.inr (Or.inr rfl)⟩)⟩

end Sse
end MevShare
