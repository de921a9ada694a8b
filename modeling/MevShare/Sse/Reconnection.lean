import MevShare.Sse.CatchUp
import MevShare.Sse.Endpoint

/-!
# Subscribers that reconnect

A message of the server has no id, and a request is answered with what is broadcast from then
on.  So nothing tells a subscriber that has called `retry` or `retry_with` where it was, and
nothing tells the server.

Client and server are put together here.  At any time, the owner of any stream may retry by
hand, and a retry that succeeds is a request to the service: it creates a receiver, and the
stream moves over from the connection it was on, which it drops.  Every endpoint leads to
the service; what comes of an attempt (`RetryAnswer`) is said by the outside.

`reconnects_in_order` is what is left of the order of the broadcast: over all of its
connections, whenever and however often it has retried, a subscriber is given values at
increasing positions, none of them twice; those of the connections before lie before the
request for the one it is on, and from there on it misses only what was overwritten.
`retry_loses_onTheWay` says what a retry costs: the messages that were on their way, and
only these, so a subscriber that has caught up can retry at no cost.

## The proof

What a stream has returned before it came to a connection makes no difference to what
happens there.  `since` leaves it out, and what remains is a connection like those of
`Sse.Forwarding`, whose account (`Forwards`) is kept for the same reasons.  `Subscribed` adds
where the part that was left out has come from.
-/

namespace MevShare
namespace Sse

open Rpc Rust Machine Broadcast

variable {T : Type} {profile : BuildProfile} {toJson : T → Except JsonError Bytes}
  {fromSlice : Bytes → Except JsonError T}

/-! ## Retries by hand -/

/-- What comes of the request that a retry makes. -/
inductive RetryAnswer where
  /-- The future is dropped before there is an answer. -/
  | dropped
  | failed (error : ReqwestError)
  /-- The service has answered with a stream. -/
  | answered

/-- For the client. -/
def RetryAnswer.connect : RetryAnswer → ConnectPoll
  | dropped => .pending
  | failed error => .ready (.error error)
  | answered => .ready (.ok [])

/-- `retry`, or `retry_with` if an endpoint is given. -/
def EventStream.retryOn (profile : BuildProfile) (s : EventStream T) (endpoint : Option String)
    (answer : RetryAnswer) : Except Halt (EventStream T × Option (Except SseError Unit)) :=
  match endpoint with
  | none => s.retry profile answer.connect
  | some endpoint => s.retryWith profile endpoint answer.connect

/-- A stream that has come to a new connection. -/
def ServedConnection.moved (sender : Channel SSeBroadcastMessage) (client : EventStream T) :
    ServedConnection T :=
  { (SseBroadcastService.call sender client.inner.client client.endpoint client.inner.query :
      ServedConnection T) with client := client }

inductive SubscriberAction (T : Type) where
  | serve (a : ServeAction T)
  /-- The owner of the stream on the connection retries by hand. -/
  | retry (connection : ℕ) (endpoint : Option String) (answer : RetryAnswer)
  | resetRetries (connection : ℕ)

/-- One step of a service and its subscribers. -/
def subscribe (profile : BuildProfile) (toJson : T → Except JsonError Bytes)
    (fromSlice : Bytes → Except JsonError T) (s : SseService T) :
    SubscriberAction T → Except Halt (SseService T)
  | .serve a => serve profile toJson fromSlice s a
  | .retry k endpoint answer =>
      match s.connections[k]? with
      | none => .error .disabled
      | some c =>
          if c.connected then
            match c.client.retryOn profile endpoint answer with
            | .error e => .error e
            | .ok (client, some (.ok ())) =>
                if s.sender.closed then .error .disabled
                else
                  .ok { s with
                    connections := s.connections.set k { c with connected := false } ++
                      [ServedConnection.moved s.sender client] }
            | .ok (client, _) =>
                .ok { s with connections := s.connections.set k { c with client := client } }
          else .error .disabled
  | .resetRetries k =>
      match s.connections[k]? with
      | none => .error .disabled
      | some c =>
          if c.connected then
            .ok { s with
              connections := s.connections.set k { c with client := c.client.resetRetries } }
          else .error .disabled

/-- **What a retry by hand does to the stream.**  If it succeeds, the stream is on a new
connection, and if not, on the one it was on; it has returned nothing. -/
theorem EventStream.retryOn_cases {s t : EventStream T} {endpoint : Option String}
    {answer : RetryAnswer} {ret : Option (Except SseError Unit)}
    (h : s.retryOn profile endpoint answer = .ok (t, ret)) :
    t.world.outputs = s.world.outputs ∧
      (ret = some (.ok ()) ∧ (∃ connection, t.state = some (.active ⟨connection, []⟩)) ∨
        ret ≠ some (.ok ()) ∧ t.state = s.state) := by
  have hretry : ∀ {s : EventStream T}, s.retry profile answer.connect = .ok (t, ret) →
      t.world.outputs = s.world.outputs ∧
        (ret = some (.ok ()) ∧ (∃ connection, t.state = some (.active ⟨connection, []⟩)) ∨
          ret ≠ some (.ok ()) ∧ t.state = s.state) := by
    intro s h
    rcases EventStream.retry_cases h with ⟨err, rfl, -, rfl⟩ |
      ⟨-, ⟨-, rfl, rfl⟩ | ⟨e, -, rfl, rfl⟩ | ⟨script, hanswer, rfl, rfl⟩⟩
    · exact ⟨rfl, Or.inr ⟨by simp, rfl⟩⟩
    · exact ⟨rfl, Or.inr ⟨by simp, rfl⟩⟩
    · exact ⟨rfl, Or.inr ⟨by simp, rfl⟩⟩
    · rcases answer with _ | error | _
      · cases hanswer
      · cases hanswer
      · cases hanswer
        exact ⟨rfl, Or.inl ⟨rfl, _, rfl⟩⟩
  rcases endpoint with _ | endpoint
  · exact hretry h
  · exact hretry (s := { s with inner := { s.inner with endpoint := endpoint } }) h

/-! ## What a stream has returned before -/

/-- A stream without the first `n` values that it has returned. -/
def EventStream.since (n : ℕ) (s : EventStream T) : EventStream T :=
  { s with world := { s.world with outputs := s.world.outputs.drop n } }

def ServedConnection.since (n : ℕ) (c : ServedConnection T) : ServedConnection T :=
  { c with client := c.client.since n }

/-- **A turn** does not look at what was returned before, and adds to it. -/
theorem EventStream.turn_since {s t : EventStream T} {n : ℕ} {obs : RetryPoll}
    {ret : Option (Poll (Option (Except SseError T)))} (hn : n ≤ s.world.outputs.length)
    (hnoRetry : ∀ fut, s.state ≠ some (.retry fut))
    (h : s.turn profile fromSlice obs = .ok (t, ret)) :
    (s.since n).turn profile fromSlice obs = .ok (t.since n, ret) ∧
      s.world.outputs <+: t.world.outputs := by
  obtain ⟨inner, state, w⟩ := s
  have hdrop : ∀ out, (w.outputs ++ [out]).drop n = w.outputs.drop n ++ [out] :=
    fun out => List.drop_append_of_le_length hn
  rcases state with _ | _ | fut | st
  · cases h
  · cases h
    refine ⟨?_, List.prefix_append _ _⟩
    simp only [since, turn, World.output, hdrop]
  · exact absurd rfl (hnoRetry fut)
  · simp only [turn] at h
    rcases hpoll : st.pollNext fromSlice with ⟨st', _ | (_ | (err | (duration | event)))⟩
    all_goals
      rw [hpoll] at h
      cases h
    · exact ⟨by simp only [since, turn, hpoll], List.prefix_refl _⟩
    · refine ⟨?_, List.prefix_append _ _⟩
      simp only [since, turn, hpoll, World.output, World.leave, hdrop]
    · refine ⟨?_, List.prefix_append _ _⟩
      simp only [since, turn, hpoll, World.output, hdrop]
    · exact ⟨by simp only [since, turn, hpoll, World.leave], List.prefix_refl _⟩
    · refine ⟨?_, List.prefix_append _ _⟩
      simp only [since, turn, hpoll, World.output, hdrop]

namespace ServedConnection

variable {sender : Channel SSeBroadcastMessage} {c c' : ServedConnection T}

theorem arrive_since (n : ℕ) (c : ServedConnection T) (arrived : Bool) :
    (c.since n).arrive arrived = (c.arrive arrived).since n := by
  obtain ⟨st, task, connected, body, ⟨inner, state, w⟩, created, reads, lagged⟩ := c
  rcases state with _ | _ | fut | active
  · rfl
  · rfl
  · rfl
  · rcases arrived with _ | _
    · rfl
    · rcases body with _ | ⟨data, body⟩
      · rcases task with _ | data | _ <;> rfl
      · rfl

/-- A poll of the client. -/
theorem poll_since {n : ℕ} {arrived : Bool} (hn : n ≤ c.client.world.outputs.length)
    (hnoRetry : ∀ fut, c.client.state ≠ some (.retry fut))
    (h : c.poll profile fromSlice arrived = .ok c') :
    (c.since n).poll profile fromSlice arrived = .ok (c'.since n) ∧
      c'.created = c.created ∧ c.client.world.outputs <+: c'.client.world.outputs := by
  have harrive : (c.arrive arrived).client.world = c.client.world ∧
      (c.arrive arrived).created = c.created ∧
        ∀ fut, (c.arrive arrived).client.state ≠ some (.retry fut) := by
    by_cases hactive : ∃ st, c.client.state = some (.active st)
    · obtain ⟨st, hstate⟩ := hactive
      obtain ⟨script, body, heq, -⟩ := c.arrive_cases arrived hstate
      rw [heq]
      exact ⟨rfl, rfl, fun fut hfut => by cases hfut⟩
    · rw [c.arrive_of_not_active arrived fun st hst => hactive ⟨st, hst⟩]
      exact ⟨rfl, rfl, hnoRetry⟩
  obtain ⟨hworld, hcreated, hstate⟩ := harrive
  unfold poll at h ⊢
  rcases hnext : (c.arrive arrived).client.pollNext profile fromSlice [⟨false, .pending⟩] with
    e | ⟨client, res⟩ <;> rw [hnext] at h <;> cases h
  rw [← hworld] at hn ⊢
  obtain ⟨hturn, hprefix⟩ := EventStream.turn_since hn hstate (turn_of_pollNext hnext)
  refine ⟨?_, hcreated, hprefix⟩
  rw [arrive_since]
  have hpoll : ((c.arrive arrived).since n).client.pollNext profile fromSlice
      [⟨false, .pending⟩] = .ok (client.since n, res) := by
    rw [EventStream.pollNext]
    simp only [since, hturn]
  rw [hpoll]
  rfl

/-- A turn of the task. -/
theorem forward_since (n : ℕ) (sender : Channel SSeBroadcastMessage) (c : ServedConnection T)
    (taken : Bool) :
    (c.since n).forward sender taken = (c.forward sender taken).since n := by
  obtain ⟨st, task, connected, body, client, created, reads, lagged⟩ := c
  rcases task with _ | data | _
  · simp only [forward, since]
    rcases st.turn sender with ⟨st', _ | (_ | (_ | data))⟩ <;> rfl
  · rcases connected with _ | _
    · rfl
    · rcases taken with _ | _ <;> rfl
  · rfl

/-- A task leaves the client alone. -/
theorem Forwarded.client_eq {taken : Bool} (h : Forwarded sender c taken c') :
    c'.client = c.client ∧ c'.created = c.created := by
  cases h <;> exact ⟨rfl, rfl⟩

/-- The account is not about the client but for what it has returned, and for its state
between two polls. -/
theorem Forwards.of_client (h : c.Forwards fromSlice sender) {client : EventStream T}
    (houtputs : client.world.outputs = c.client.world.outputs)
    (hstate : client.state = c.client.state ∨
      ∃ connection, client.state = some (.active ⟨connection, []⟩)) :
    ({ c with client := client } : ServedConnection T).Forwards fromSlice sender := by
  obtain ⟨got, rest, hread, hitems, hrest⟩ := h.account
  refine ⟨h.reads, h.contiguous, ⟨got, rest, hread, ?_, hrest⟩, fun st hst => ?_,
    fun fut hfut => ?_⟩
  · rw [← hitems, items, items, World.returned, World.returned, houtputs]
  · replace hst : client.state = some (.active st) := hst
    rcases hstate with hstate | ⟨connection, hstate⟩ <;> rw [hstate] at hst
    · exact h.drained st hst
    · cases hst
      rfl
  · replace hfut : client.state = some (.retry fut) := hfut
    rcases hstate with hstate | ⟨connection, hstate⟩ <;> rw [hstate] at hfut
    · exact h.noRetry fut hfut
    · cases hfut

end ServedConnection

/-! ## Subscribers -/

/-- The `Ok` items among what a stream has returned. -/
def okItems (outputs : List (Option ℕ × Option (Except SseError T))) : List T :=
  (outputs.map Prod.snd).filterMap okItem

theorem okItems_append (outputs outputs' : List (Option ℕ × Option (Except SseError T))) :
    okItems (outputs ++ outputs') = okItems outputs ++ okItems outputs' := by
  rw [okItems, List.map_append, List.filterMap_append]
  rfl

namespace SseService

variable {s t u : SseService T} {k n : ℕ} {c c' : ServedConnection T} {earlier : List ℕ}

/-- `t` comes after `s`: the values of `s` are still there, and who has left a connection
does not come back to it. -/
structure Extends (s t : SseService T) : Prop where
  values : s.values <+: t.values
  departed : ∀ (j : ℕ) (d : ServedConnection T), s.connections[j]? = some d →
    d.connected = false → ∃ d' : ServedConnection T, t.connections[j]? = some d' ∧
      d'.connected = false ∧ d'.client = d.client

/-- What the client of the connection `k` has returned are `n` values from connections before,
the `Ok` ones of which were sent at the positions `earlier`, and the rest from this one. -/
structure Subscribed (fromSlice : Bytes → Except JsonError T) (s : SseService T) (k : ℕ)
    (c : ServedConnection T) (n : ℕ) (earlier : List ℕ) : Prop where
  le : n ≤ c.client.world.outputs.length
  forwards : (c.since n).Forwards fromSlice s.sender
  sorted : earlier.Pairwise (· < ·)
  before : ∀ p ∈ earlier, p < c.created
  given : earlier.map (fun p => s.values[p]?) =
    (okItems (c.client.world.outputs.take n)).map some
  former : n = 0 ∨ ∃ j d, j < k ∧ s.connections[j]? = some d ∧ d.connected = false ∧
    d.client.world.outputs = c.client.world.outputs.take n

/-- **The account of a subscriber** is kept by everything that keeps the account of its
connection. -/
theorem Subscribed.extend (h : s.Subscribed fromSlice k c n earlier) (hst : s.Extends t)
    (hcreated : c'.created = c.created)
    (houtputs : c.client.world.outputs <+: c'.client.world.outputs)
    (hforwards : (c'.since n).Forwards fromSlice t.sender) :
    t.Subscribed fromSlice k c' n earlier := by
  obtain ⟨more, hmore⟩ := houtputs
  have htake : c'.client.world.outputs.take n = c.client.world.outputs.take n := by
    rw [← hmore]
    exact List.take_append_of_le_length h.le
  refine ⟨?_, hforwards, h.sorted, ?_, ?_, ?_⟩
  · rw [← hmore, List.length_append]
    exact Nat.le_add_right_of_le h.le
  · rw [hcreated]
    exact h.before
  · rw [htake, ← h.given]
    refine List.map_congr_left fun p hp => ?_
    have hsome : ∃ v, s.values[p]? = some v := by
      have hmem : s.values[p]? ∈ earlier.map fun p => s.values[p]? := List.mem_map_of_mem hp
      rw [h.given] at hmem
      obtain ⟨v, -, hv⟩ := List.mem_map.mp hmem
      exact ⟨v, hv.symm⟩
    obtain ⟨v, hv⟩ := hsome
    obtain ⟨later, hlater⟩ := hst.values
    rw [hv, ← hlater]
    exact (List.getElem?_append_left (List.getElem?_eq_some_iff.mp hv).1).trans hv
  · rcases h.former with hzero | ⟨j, d, hjk, hj, hgone, hd⟩
    · exact Or.inl hzero
    · obtain ⟨d', hj', hgone', hclient⟩ := hst.departed j d hj hgone
      refine Or.inr ⟨j, d', hjk, hj', hgone', ?_⟩
      rw [hclient, htake, hd]

/-- Who has just subscribed. -/
theorem Subscribed.call (client : EventClient) (endpoint : String) (query : Option String) :
    s.Subscribed fromSlice k (SseBroadcastService.call s.sender client endpoint query) 0 [] :=
  ⟨Nat.zero_le _, ServedConnection.Forwards.call s.sender client endpoint query,
    List.Pairwise.nil, fun _ hp => absurd hp List.not_mem_nil, rfl, Or.inl rfl⟩

/-- **The items of a subscriber**, by position. -/
theorem Subscribed.items (h : s.Subscribed fromSlice k c n earlier)
    (hvalues : ∀ (p : ℕ) (text : SSeBroadcastMessage), s.sender.sent[p]? = some text →
      ∃ v, s.values[p]? = some v ∧ (fromSlice text).toOption = some v) :
    ∃ current waiting, c.reads = current ++ waiting ∧ (earlier ++ current).Pairwise (· < ·) ∧
      (∀ p ∈ current, c.created ≤ p ∧ p < s.sender.sent.length) ∧
      (earlier ++ current).map (fun p => s.values[p]?) = c.items.map some ∧
      (c.connected = true → waiting.length = (c.body ++ c.task.inHand).length) := by
  obtain ⟨current, waiting, hreads, hsorted, hbounds, hmap, hwaiting⟩ :=
    h.forwards.positions hvalues
  have hitems : c.items =
      okItems (c.client.world.outputs.take n) ++ okItems (c.client.world.outputs.drop n) := by
    rw [← okItems_append, List.take_append_drop]
    rfl
  refine ⟨current, waiting, hreads, ?_, hbounds, ?_, hwaiting⟩
  · refine List.pairwise_append.mpr ⟨h.sorted, hsorted, fun p hp q hq => ?_⟩
    exact Nat.lt_of_lt_of_le (h.before p hp) (hbounds q hq).1
  · rw [List.map_append, h.given, hitems, List.map_append]
    exact congrArg _ hmap

/-! ### From one state to a later one -/

/-- What was said of a connection of `s` can be said of it in `t`. -/
def Carries (fromSlice : Bytes → Except JsonError T) (s t : SseService T) : Prop :=
  ∀ (k : ℕ) (c : ServedConnection T) (n : ℕ) (earlier : List ℕ), s.connections[k]? = some c →
    s.Subscribed fromSlice k c n earlier →
      ∃ c' : ServedConnection T, t.connections[k]? = some c' ∧ c'.created = c.created ∧
        c.client.world.outputs <+: c'.client.world.outputs ∧ t.Subscribed fromSlice k c' n earlier

theorem Carries.refl (s : SseService T) : s.Carries fromSlice s :=
  fun _ c _ _ hk h => ⟨c, hk, rfl, List.prefix_refl _, h⟩

theorem Carries.trans (hst : s.Carries fromSlice t) (htu : t.Carries fromSlice u) :
    s.Carries fromSlice u := by
  intro k c n earlier hk h
  obtain ⟨c₁, hk₁, hcreated₁, houtputs₁, h₁⟩ := hst k c n earlier hk h
  obtain ⟨c₂, hk₂, hcreated₂, houtputs₂, h₂⟩ := htu k c₁ n earlier hk₁ h₁
  exact ⟨c₂, hk₂, hcreated₂.trans hcreated₁, houtputs₁.trans houtputs₂, h₂⟩

/-- Nothing happens at the connections. -/
theorem Extends.carries (hst : s.Extends t) (hconnections : t.connections = s.connections)
    (hforwards : ∀ c : ServedConnection T, c.Forwards fromSlice s.sender →
      c.Forwards fromSlice t.sender) : s.Carries fromSlice t := by
  intro k c n earlier hk h
  refine ⟨c, ?_, rfl, List.prefix_refl _,
    h.extend hst rfl (List.prefix_refl _) (hforwards _ h.forwards)⟩
  rw [hconnections]
  exact hk

/-- Something happens at the connection `k`. -/
theorem carries_set (hk : s.connections[k]? = some c)
    (hgone : c.connected = false → c'.connected = false ∧ c'.client = c.client)
    (hc : ∀ n earlier, s.Subscribed fromSlice k c n earlier → c'.created = c.created ∧
      c.client.world.outputs <+: c'.client.world.outputs ∧
        (c'.since n).Forwards fromSlice s.sender) :
    s.Carries fromSlice { s with connections := s.connections.set k c' } := by
  have hlt : k < s.connections.length := (List.getElem?_eq_some_iff.mp hk).1
  have hextends : s.Extends { s with connections := s.connections.set k c' } := by
    refine ⟨List.prefix_refl _, fun j d hj hd => ?_⟩
    by_cases hjk : j = k
    · subst hjk
      obtain rfl : d = c := Option.some.inj (hj.symm.trans hk)
      exact ⟨c', List.getElem?_set_self hlt, hgone hd⟩
    · exact ⟨d, (List.getElem?_set_ne (Ne.symm hjk)).trans hj, hd, rfl⟩
  intro j d n earlier hj h
  by_cases hjk : j = k
  · subst hjk
    obtain rfl : d = c := Option.some.inj (hj.symm.trans hk)
    obtain ⟨hcreated, houtputs, hforwards⟩ := hc n earlier h
    exact ⟨c', List.getElem?_set_self hlt, hcreated, houtputs,
      h.extend hextends hcreated houtputs hforwards⟩
  · exact ⟨d, (List.getElem?_set_ne (Ne.symm hjk)).trans hj, rfl, List.prefix_refl _,
      h.extend hextends rfl (List.prefix_refl _) h.forwards⟩

/-- There is a new connection. -/
theorem extends_concat (c : ServedConnection T) :
    s.Extends { s with connections := s.connections ++ [c] } := by
  refine ⟨List.prefix_refl _, fun j d hj hd => ⟨d, ?_, hd, rfl⟩⟩
  exact (List.getElem?_append_left (List.getElem?_eq_some_iff.mp hj).1).trans hj

theorem carries_concat (c : ServedConnection T) :
    s.Carries fromSlice { s with connections := s.connections ++ [c] } := by
  intro j d n earlier hj h
  refine ⟨d, ?_, rfl, List.prefix_refl _,
    h.extend (extends_concat c) rfl (List.prefix_refl _) h.forwards⟩
  exact (List.getElem?_append_left (List.getElem?_eq_some_iff.mp hj).1).trans hj

/-- The client of every connection is one that has subscribed or retried. -/
structure Resubscribed (toJson : T → Except JsonError Bytes)
    (fromSlice : Bytes → Except JsonError T) (s : SseService T) : Prop where
  recorded : s.Recorded toJson
  subscribed : ∀ k c, s.connections[k]? = some c →
    ∃ n earlier, s.Subscribed fromSlice k c n earlier

/-- It is, where what is said of the old connections is carried over, and something can be
said of the new ones. -/
theorem Resubscribed.carry (hs : s.Resubscribed toJson fromSlice) (hst : s.Carries fromSlice t)
    (hrecorded : t.Recorded toJson)
    (hnew : ∀ k c, t.connections[k]? = some c → (∃ d, s.connections[k]? = some d) ∨
      ∃ n earlier, t.Subscribed fromSlice k c n earlier) : t.Resubscribed toJson fromSlice := by
  refine ⟨hrecorded, fun k c hk => ?_⟩
  rcases hnew k c hk with ⟨d, hd⟩ | h
  · obtain ⟨n, earlier, h⟩ := hs.subscribed k d hd
    obtain ⟨c', hk', -, -, h'⟩ := hst k d n earlier hd h
    obtain rfl : c' = c := Option.some.inj (hk'.symm.trans hk)
    exact ⟨n, earlier, h'⟩
  · exact h

theorem Resubscribed.set (hs : s.Resubscribed toJson fromSlice) (hk : s.connections[k]? = some c)
    (hst : s.Carries fromSlice { s with connections := s.connections.set k c' }) :
    ({ s with connections := s.connections.set k c' } : SseService T).Resubscribed toJson
      fromSlice := by
  refine hs.carry hst hs.recorded fun j d hj => Or.inl ?_
  rcases Search.getElem?_set_cases hj with ⟨rfl, -⟩ | ⟨-, hj'⟩
  · exact ⟨c, hk⟩
  · exact ⟨d, hj'⟩

theorem Resubscribed.concat (hs : s.Resubscribed toJson fromSlice)
    (hc : s.Subscribed fromSlice s.connections.length c n earlier) :
    ({ s with connections := s.connections ++ [c] } : SseService T).Resubscribed toJson
      fromSlice := by
  refine hs.carry (carries_concat c) hs.recorded fun j d hj => ?_
  rcases Search.getElem?_concat_cases hj with ⟨rfl, rfl⟩ | hj'
  · exact Or.inr ⟨n, earlier, hc.extend (extends_concat d) rfl (List.prefix_refl _) hc.forwards⟩
  · exact Or.inl ⟨d, hj'⟩

/-- **A stream that moves on** leaves behind a connection with all that it was given so far;
from now on it is given what comes after that. -/
theorem Subscribed.moved (h : s.Subscribed fromSlice k c n earlier)
    (hk : s.connections[k]? = some c)
    (hvalues : ∀ (p : ℕ) (text : SSeBroadcastMessage), s.sender.sent[p]? = some text →
      ∃ v, s.values[p]? = some v ∧ (fromSlice text).toOption = some v) {client : EventStream T}
    (houtputs : client.world.outputs = c.client.world.outputs)
    (hstate : ∃ connection, client.state = some (.active ⟨connection, []⟩)) :
    ∃ earlier', ({ s with connections := s.connections.set k { c with connected := false } } :
      SseService T).Subscribed fromSlice (s.connections.set k { c with connected := false }).length
        (ServedConnection.moved s.sender client) c.client.world.outputs.length earlier' := by
  obtain ⟨current, waiting, -, hsorted, hbounds, hmap, -⟩ := h.items hvalues
  have hlt : k < s.connections.length := (List.getElem?_eq_some_iff.mp hk).1
  have hdrop : client.world.outputs.drop c.client.world.outputs.length = [] := by
    rw [houtputs, List.drop_length]
  have htake : client.world.outputs.take c.client.world.outputs.length =
      c.client.world.outputs := by
    rw [houtputs, List.take_length]
  refine ⟨earlier ++ current, ?_, ?_, hsorted, fun p hp => ?_, ?_,
    Or.inr ⟨k, { c with connected := false }, ?_, ?_, rfl, htake.symm⟩⟩
  · exact Nat.le_of_eq (congrArg List.length houtputs.symm)
  · exact (ServedConnection.Forwards.call s.sender client.inner.client client.endpoint
      client.inner.query).of_client hdrop (Or.inr hstate)
  · rcases List.mem_append.mp hp with hp | hp
    · exact Nat.lt_of_lt_of_le (h.before p hp)
        (Nat.le_trans h.forwards.reads.start_le h.forwards.reads.next_le)
    · exact (hbounds p hp).2
  · show _ = (okItems (client.world.outputs.take _)).map some
    rw [htake]
    exact hmap
  · rw [List.length_set]
    exact hlt
  · exact List.getElem?_set_self hlt

end SseService

/-! ## Steps -/

/-- **What a step can do.**  It is one of the service; or it changes the stream of a
connection but for what it has returned, and leaves it there or takes it to a new one. -/
theorem subscribe_cases {s t : SseService T} {a : SubscriberAction T}
    (h : subscribe profile toJson fromSlice s a = .ok t) :
    (∃ b, a = .serve b ∧ serve profile toJson fromSlice s b = .ok t) ∨
      ∃ k c client, s.connections[k]? = some c ∧ c.connected = true ∧
        client.world.outputs = c.client.world.outputs ∧
        ((client.state = c.client.state ∧
            t = { s with connections := s.connections.set k { c with client := client } }) ∨
          (∃ endpoint answer, a = .retry k endpoint answer) ∧
            (∃ connection, client.state = some (.active ⟨connection, []⟩)) ∧
            t = { s with
              connections := s.connections.set k { c with connected := false } ++
                [ServedConnection.moved s.sender client] }) := by
  rcases a with b | ⟨k, endpoint, answer⟩ | k
  · exact Or.inl ⟨b, rfl, h⟩
  · rcases hk : s.connections[k]? with _ | c <;> simp only [subscribe, hk] at h
    · cases h
    · by_cases hconnected : c.connected = true
      · rw [if_pos hconnected] at h
        rcases hretry : c.client.retryOn profile endpoint answer with e | ⟨client, ret⟩
        · rw [hretry] at h
          cases h
        · rw [hretry] at h
          obtain ⟨houtputs, hcases⟩ := EventStream.retryOn_cases hretry
          refine Or.inr ⟨k, c, client, hk, hconnected, houtputs, ?_⟩
          rcases hcases with ⟨rfl, hactive⟩ | ⟨hret, hstate⟩
          · by_cases hclosed : s.sender.closed = true
            · simp only [if_pos hclosed] at h
              cases h
            · simp only [if_neg hclosed] at h
              cases h
              exact Or.inr ⟨⟨endpoint, answer, rfl⟩, hactive, rfl⟩
          · rcases ret with _ | (err | _)
            · cases h
              exact Or.inl ⟨hstate, rfl⟩
            · cases h
              exact Or.inl ⟨hstate, rfl⟩
            · exact absurd rfl hret
      · rw [if_neg hconnected] at h
        cases h
  · rcases hk : s.connections[k]? with _ | c <;> simp only [subscribe, hk] at h
    · cases h
    · by_cases hconnected : c.connected = true
      · rw [if_pos hconnected] at h
        cases h
        exact Or.inr ⟨k, c, c.client.resetRetries, hk, hconnected, rfl, Or.inl ⟨rfl, rfl⟩⟩
      · rw [if_neg hconnected] at h
        cases h

namespace SseService

variable {s t u : SseService T}

/-- **A step of the service.** -/
theorem Resubscribed.serve {a : ServeAction T} (hs : s.Resubscribed toJson fromSlice)
    (hstep : serve profile toJson fromSlice s a = .ok t) :
    s.Carries fromSlice t ∧ t.Resubscribed toJson fromSlice := by
  -- no connection is touched
  have hsame : ∀ {t : SseService T}, t.Recorded toJson → s.values <+: t.values →
      t.connections = s.connections →
      (∀ c : ServedConnection T, c.Forwards fromSlice s.sender → c.Forwards fromSlice t.sender) →
        s.Carries fromSlice t ∧ t.Resubscribed toJson fromSlice := by
    intro t hrecorded hvalues hconnections hforwards
    have hextends : s.Extends t := by
      refine ⟨hvalues, fun j d hj hd => ⟨d, ?_, hd, rfl⟩⟩
      rw [hconnections]
      exact hj
    have hcarries := hextends.carries hconnections hforwards
    refine ⟨hcarries, hs.carry hcarries hrecorded fun k c hk => Or.inl ⟨c, ?_⟩⟩
    rw [← hconnections]
    exact hk
  cases serve_effect hstep with
  | broadcast hjson =>
    refine hsame ?_ (List.prefix_append _ _) rfl fun c hc => hc.send _
    exact List.rel_append hs.recorded (List.Forall₂.cons hjson List.Forall₂.nil)
  | refused msg => exact ⟨Carries.refl s, hs⟩
  | subscribe => exact hsame hs.recorded (List.prefix_refl _) rfl fun _ hc => hc
  | dropReceiver => exact hsame hs.recorded (List.prefix_refl _) rfl fun _ hc => hc
  | close => exact hsame hs.recorded (List.prefix_refl _) rfl fun _ hc => hc.close
  | call client endpoint query =>
    exact ⟨carries_concat _, hs.concat (Subscribed.call client endpoint query)⟩
  | @forward k c taken hk =>
    have hforward := ServedConnection.forwarded s.sender c taken
    have hcarries : s.Carries fromSlice
        { s with connections := s.connections.set k (c.forward s.sender taken) } := by
      refine carries_set hk (fun hgone => ?_) fun n earlier h => ⟨hforward.client_eq.2, ?_, ?_⟩
      · exact ⟨hforward.connected_eq.trans hgone, hforward.client_eq.1⟩
      · exact ⟨[], by rw [List.append_nil, hforward.client_eq.1]⟩
      · rw [← ServedConnection.forward_since]
        exact h.forwards.forward taken
    exact ⟨hcarries, hs.set hk hcarries⟩
  | @poll k c c' arrived hk hconnected hpoll =>
    have hcarries : s.Carries fromSlice { s with connections := s.connections.set k c' } := by
      refine carries_set hk (fun hgone => ?_) fun n earlier h => ?_
      · rw [hconnected] at hgone
        cases hgone
      · obtain ⟨hsince, hcreated, houtputs⟩ :=
          ServedConnection.poll_since h.le h.forwards.noRetry hpoll
        exact ⟨hcreated, houtputs, h.forwards.poll hconnected hsince⟩
    exact ⟨hcarries, hs.set hk hcarries⟩
  | @disconnect k c hk =>
    have hcarries : s.Carries fromSlice
        { s with connections := s.connections.set k { c with connected := false } } :=
      carries_set hk (fun _ => ⟨rfl, rfl⟩) fun n earlier h =>
        ⟨rfl, List.prefix_refl _, h.forwards.disconnect⟩
    exact ⟨hcarries, hs.set hk hcarries⟩

/-- **The step lemma.** -/
theorem Resubscribed.step (hround : ∀ msg text, toJson msg = .ok text → fromSlice text = .ok msg)
    {a : SubscriberAction T} (hs : s.Resubscribed toJson fromSlice)
    (hstep : subscribe profile toJson fromSlice s a = .ok t) :
    s.Carries fromSlice t ∧ t.Resubscribed toJson fromSlice := by
  rcases subscribe_cases hstep with ⟨b, -, hb⟩ |
    ⟨k, c, client, hk, hconnected, houtputs, ⟨hstate, rfl⟩ | ⟨-, hstate, rfl⟩⟩
  · exact hs.serve hb
  · have hcarries : s.Carries fromSlice
        { s with connections := s.connections.set k { c with client := client } } := by
      refine carries_set hk (fun hgone => ?_) fun n earlier h => ⟨rfl, ?_, ?_⟩
      · rw [hconnected] at hgone
        cases hgone
      · exact ⟨[], by rw [List.append_nil, houtputs]⟩
      · exact h.forwards.of_client (congrArg (List.drop n) houtputs) (Or.inl hstate)
    exact ⟨hcarries, hs.set hk hcarries⟩
  · have hleft : s.Carries fromSlice
        { s with connections := s.connections.set k { c with connected := false } } :=
      carries_set hk (fun _ => ⟨rfl, rfl⟩) fun n earlier h =>
        ⟨rfl, List.prefix_refl _, h.forwards.disconnect⟩
    obtain ⟨n, earlier, h⟩ := hs.subscribed k c hk
    obtain ⟨earlier', hmoved⟩ :=
      h.moved hk (fun _ _ => hs.recorded.value hround) houtputs hstate
    exact ⟨hleft.trans (carries_concat _), (hs.set hk hleft).concat hmoved⟩

/-- **The run lemma.** -/
theorem Resubscribed.exec (hround : ∀ msg text, toJson msg = .ok text → fromSlice text = .ok msg)
    {run : List (SubscriberAction T)} (hs : s.Resubscribed toJson fromSlice)
    (h : exec (subscribe profile toJson fromSlice) s run = .ok t) :
    s.Carries fromSlice t ∧ t.Resubscribed toJson fromSlice := by
  refine exec_invariant (I := fun u => s.Carries fromSlice u ∧ u.Resubscribed toJson fromSlice)
    (fun u a v hu hstep => ?_) ⟨Carries.refl s, hs⟩ h
  obtain ⟨hcarries, hv⟩ := hu.2.step hround hstep
  exact ⟨hu.1.trans hcarries, hv⟩

theorem resubscribed_start (capacity : ℕ) :
    (start capacity : SseService T).Resubscribed toJson fromSlice where
  recorded := List.Forall₂.nil
  subscribed _ _ hk := by cases hk

end SseService

/-! ## In order, over all connections -/

/-- **A subscriber that reconnects is given the broadcast in order and without
duplication.**  In every run of a service, its clients and their retries by hand: the `Ok`
items that a stream has returned, on whatever connections, are values at increasing
positions.  Those of the connection `k` that it is on, or was on, lie after the request for
it, where they pass over nothing but what its receiver has never read and the channel has
overwritten, and nothing at all if it never lagged.  Those from before lie before that
request, and are all that the stream was given on the connection that it has left. -/
theorem reconnects_in_order
    (hround : ∀ msg text, toJson msg = .ok text → fromSlice text = .ok msg) {capacity : ℕ}
    {run : List (SubscriberAction T)} {s : SseService T}
    (h : exec (subscribe profile toJson fromSlice) (SseService.start capacity) run = .ok s) {k : ℕ}
    {c : ServedConnection T} (hk : s.connections[k]? = some c) :
    ∃ earlier current : List ℕ, (earlier ++ current).Pairwise (· < ·) ∧
      (∀ p ∈ earlier, p < c.created) ∧ (∀ p ∈ current, c.created ≤ p) ∧
      (earlier ++ current).map (fun p => s.values[p]?) = c.items.map some ∧
      (∀ p q, c.created ≤ p → q ∈ current → p < q → p ∉ current →
        p ∉ c.reads ∧ s.sender.Overwritten p) ∧
      (c.lagged = false → current = List.range' c.created current.length) ∧
      (c.connected = true →
        c.reads.length = current.length + (c.body ++ c.task.inHand).length) ∧
      (earlier = [] ∨ ∃ j d, j < k ∧ s.connections[j]? = some d ∧ d.connected = false ∧
        earlier.map (fun p => s.values[p]?) = d.items.map some) := by
  obtain ⟨-, hs⟩ := (SseService.resubscribed_start (T := T) capacity).exec hround h
  obtain ⟨n, earlier, hc⟩ := hs.subscribed k c hk
  obtain ⟨current, waiting, hreads, hsorted, hbounds, hmap, hwaiting⟩ :=
    hc.items fun _ _ => hs.recorded.value hround
  refine ⟨earlier, current, hsorted, hc.before, fun p hp => (hbounds p hp).1, hmap, ?_, ?_, ?_, ?_⟩
  · exact fun p q hp hq hlt hmem => hc.forwards.reads.passed_take hreads hp hq hlt hmem
  · exact fun hlag => (hc.forwards.contiguous hlag).take hreads
  · intro hconnected
    rw [hreads, List.length_append, hwaiting hconnected]
  · rcases hc.former with rfl | ⟨j, d, hjk, hj, hgone, hd⟩
    · have hnil := congrArg List.length hc.given
      rw [List.length_map, List.take_zero] at hnil
      exact Or.inl (List.length_eq_zero_iff.mp hnil)
    · refine Or.inr ⟨j, d, hjk, hj, hgone, ?_⟩
      rw [hc.given, ← hd]
      rfl

/-- A retry that fails, and one that succeeds while a message is on its way. -/
def reconnectingRun : List (SubscriberAction Bool) :=
  [.serve (.call EventClient.new "/" none), .serve (.send true), .serve (.forward 0 true),
    .serve (.forward 0 true), .serve (.poll 0 true), .serve (.send false),
    .serve (.forward 0 true), .retry 0 none (.failed ⟨"refused"⟩),
    .retry 0 (some "/again") .answered, .serve (.send true), .serve (.forward 1 true),
    .serve (.forward 1 true), .serve (.poll 1 true)]

theorem reconnects_in_order_reconnectingRun :
    ∃ s c, exec (subscribe ⟨true⟩ boolToJson boolFromSlice) (SseService.start 4)
        reconnectingRun = .ok s ∧
      s.connections[1]? = some c ∧ s.values = [true, false, true] ∧ c.items = [true, true] ∧
      ∃ earlier current : List ℕ, (earlier ++ current).Pairwise (· < ·) ∧
        (earlier ++ current).map (fun p => s.values[p]?) = c.items.map some := by
  have hrun : ∃ s, exec (subscribe ⟨true⟩ boolToJson boolFromSlice) (SseService.start 4)
      reconnectingRun = .ok s ∧ ∃ c, s.connections[1]? = some c ∧
        s.values = [true, false, true] ∧ c.items = [true, true] := ⟨_, rfl, _, rfl, rfl, rfl⟩
  obtain ⟨s, hs, c, hk, hvalues, hitems⟩ := hrun
  obtain ⟨earlier, current, hsorted, -, -, hmap, -⟩ :=
    reconnects_in_order boolFromSlice_boolToJson hs hk
  exact ⟨s, c, hs, hk, hvalues, hitems, earlier, current, hsorted, hmap⟩

/-! ## What a retry loses -/

/-- **A connection that has never lagged**: what was sent since the request is what the client
was given and the rest, and as long as the client is there the rest is on its way. -/
theorem ServedConnection.Forwards.unbroken {sender : Channel SSeBroadcastMessage}
    {c : ServedConnection T} (h : c.Forwards fromSlice sender) (hlag : c.lagged = false)
    {values : List T} (hlength : values.length = sender.sent.length)
    (hvalues : ∀ (p : ℕ) (text : SSeBroadcastMessage), sender.sent[p]? = some text →
      ∃ v, values[p]? = some v ∧ (fromSlice text).toOption = some v) :
    ∃ rest, values.drop c.created = c.items ++ rest ∧
      (c.connected = true → rest.length = c.onTheWay sender) := by
  obtain ⟨positions, waiting, hreads, -, -, hmap, hwaiting⟩ := h.positions hvalues
  have hpositions := (h.contiguous hlag).take hreads
  have hlen : positions.length + waiting.length = c.st.st.next - c.created := by
    have hreadsLen := congrArg List.length (h.contiguous hlag)
    rw [hreads, List.length_append, List.length_range'] at hreadsLen
    exact hreadsLen
  have hstart := h.reads.start_le
  have hnext := h.reads.next_le
  have hsplit : values.length - c.created =
      positions.length + (values.length - c.created - positions.length) := by omega
  have hdrop := map_getElem?_range' values c.created
  rw [hsplit, ← List.range'_append_1, List.map_append, ← hpositions, hmap] at hdrop
  obtain ⟨given, rest, hvaluesEq, hgiven, hrest⟩ := List.map_eq_append_iff.mp hdrop.symm
  have hitems : given = c.items :=
    List.map_injective_iff.mpr (fun _ _ => Option.some.inj) hgiven
  refine ⟨rest, by rw [hvaluesEq, hitems], fun hconnected => ?_⟩
  have hrestLen := congrArg List.length hrest
  rw [List.length_map, List.length_map, List.length_range'] at hrestLen
  have hway := hwaiting hconnected
  rw [List.length_append] at hway
  simp only [onTheWay, Receiver.behind]
  omega

/-- **A retry by hand loses what is on its way**, and nothing else.  Where it succeeds, in
every run and in whatever continuation of it: on the new connection the stream is given
values that were sent after the retry, all of them as far as it has come if the new receiver
never lags; and if the old one never lagged, the values that were sent to it are what the
stream was given at the end of its items, followed by those that were on their way. -/
theorem retry_loses_onTheWay
    (hround : ∀ msg text, toJson msg = .ok text → fromSlice text = .ok msg) {capacity : ℕ}
    {run later : List (SubscriberAction T)} {s t u : SseService T}
    (hs : exec (subscribe profile toJson fromSlice) (SseService.start capacity) run = .ok s)
    {k : ℕ} {c : ServedConnection T} (hk : s.connections[k]? = some c)
    {endpoint : Option String} {answer : RetryAnswer}
    (hretry : subscribe profile toJson fromSlice s (.retry k endpoint answer) = .ok t)
    (hmoved : t.connections.length ≠ s.connections.length)
    (hu : exec (subscribe profile toJson fromSlice) t later = .ok u) :
    ∃ c' now, u.connections[s.connections.length]? = some c' ∧ c'.items = c.items ++ now ∧
      now.Sublist (u.values.drop s.values.length) ∧
      (c'.lagged = false → now <+: u.values.drop s.values.length) ∧
      (c.lagged = false → ∃ here lost, here <:+ c.items ∧
        s.values.drop c.created = here ++ lost ∧ lost.length = c.onTheWay s.sender) := by
  obtain ⟨-, hserved⟩ := (SseService.resubscribed_start (T := T) capacity).exec hround hs
  obtain ⟨-, hnext⟩ := hserved.step hround hretry
  obtain ⟨n, earlier, h⟩ := hserved.subscribed k c hk
  rcases subscribe_cases hretry with ⟨b, hb, -⟩ |
    ⟨j, d, client, hj, hconnected, houtputs, ⟨-, rfl⟩ | ⟨⟨_, _, hjk⟩, hstate, rfl⟩⟩
  · cases hb
  · exact absurd List.length_set hmoved
  · cases hjk
    obtain rfl : c = d := Option.some.inj (hk.symm.trans hj)
    obtain ⟨earlier', hleft⟩ :=
      h.moved hk (fun _ _ => hserved.recorded.value hround) houtputs hstate
    obtain ⟨hcarries, hlast⟩ := hnext.exec hround hu
    obtain ⟨c', hc', hcreated, ⟨more, hmore⟩, h'⟩ := hcarries _ _ _ _
      List.getElem?_concat_length (hleft.extend (SseService.extends_concat _) rfl
        (List.prefix_refl _) hleft.forwards)
    have hlater : c'.client.world.outputs = c.client.world.outputs ++ more :=
      hmore.symm.trans (congrArg (· ++ more) houtputs)
    have hitems : c'.items = c.items ++ okItems more := by
      show okItems c'.client.world.outputs = _
      rw [hlater, okItems_append]
      rfl
    have hnow : (c'.since c.client.world.outputs.length).items = okItems more := by
      show okItems (c'.client.world.outputs.drop _) = _
      rw [hlater, List.drop_left]
    have hsent : c'.created = s.values.length :=
      hcreated.trans hserved.recorded.length_eq.symm
    obtain ⟨positions, waiting, -, hsorted, hbounds, hmap, -⟩ :=
      h'.forwards.positions fun _ _ => hlast.recorded.value hround
    rw [List.length_set] at hc'
    refine ⟨c', okItems more, hc', hitems, ?_, fun hlag => ?_, fun hlag => ?_⟩
    · rw [← hnow, ← hsent]
      exact sublist_of_positions hsorted (fun p hp => (hbounds p hp).1) hmap
    · obtain ⟨rest, hrest, -⟩ := h'.forwards.unbroken hlag hlast.recorded.length_eq
        fun _ _ => hlast.recorded.value hround
      rw [← hnow, ← hsent]
      exact ⟨rest, hrest.symm⟩
    · obtain ⟨lost, hlost, hway⟩ := h.forwards.unbroken hlag hserved.recorded.length_eq
        fun _ _ => hserved.recorded.value hround
      refine ⟨(c.since n).items, lost, ⟨okItems (c.client.world.outputs.take n), ?_⟩, hlost,
        hway hconnected⟩
      show _ ++ okItems (c.client.world.outputs.drop n) = _
      rw [← okItems_append, List.take_append_drop]
      rfl

/-- The first message has arrived, the second is in the hand of the task, and then there is
the retry. -/
theorem retry_loses_onTheWay_reconnectingRun :
    ∃ s t u c c' now, exec (subscribe ⟨true⟩ boolToJson boolFromSlice) (SseService.start 4)
        (reconnectingRun.take 8) = .ok s ∧
      subscribe ⟨true⟩ boolToJson boolFromSlice s (.retry 0 (some "/again") .answered) = .ok t ∧
      exec (subscribe ⟨true⟩ boolToJson boolFromSlice) t (reconnectingRun.drop 9) = .ok u ∧
      s.connections[0]? = some c ∧ c.lagged = false ∧ c.onTheWay s.sender = 1 ∧
      u.connections[1]? = some c' ∧ c'.items = c.items ++ now ∧
      ∃ here lost, here <:+ c.items ∧ s.values.drop c.created = here ++ lost ∧
        lost.length = c.onTheWay s.sender := by
  have hrun : ∃ s, exec (subscribe ⟨true⟩ boolToJson boolFromSlice) (SseService.start 4)
      (reconnectingRun.take 8) = .ok s ∧ s.connections.length = 1 ∧ ∃ c,
      s.connections[0]? = some c ∧ c.lagged = false ∧ c.onTheWay s.sender = 1 ∧ ∃ t,
      subscribe ⟨true⟩ boolToJson boolFromSlice s (.retry 0 (some "/again") .answered) = .ok t ∧
      t.connections.length = 2 ∧ ∃ u,
      exec (subscribe ⟨true⟩ boolToJson boolFromSlice) t (reconnectingRun.drop 9) = .ok u :=
    ⟨_, rfl, rfl, _, rfl, rfl, rfl, _, rfl, rfl, _, rfl⟩
  obtain ⟨s, hs, hone, c, hk, hlag, hway, t, ht, htwo, u, hu⟩ := hrun
  obtain ⟨c', now, hc', hitems, -, -, hlost⟩ :=
    retry_loses_onTheWay boolFromSlice_boolToJson hs hk ht (by rw [hone, htwo]; decide) hu
  rw [hone] at hc'
  exact ⟨s, t, u, c, c', now, hs, ht, hu, hk, hlag, hway, hc', hitems, hlost hlag⟩

end Sse
end MevShare
