import MevShare.Sse.Server

/-!
# What a client is given of the broadcast

A message goes through three stages: the receiver of its connection reads it from the
channel, the forwarding task hands it to the encoder, and the client polls it out of the
response.  Each stage runs on its own, and each is in order.

`Forwards` is the account of one connection.  Of the receiver it has what the library
says of any receiver (`Reads`).  The messages at the positions that were read are those
that the client was given, followed by the ones still on their way: in the body, and one
in the hand of the task.  A broadcast changes nothing of this for the connections there
are, and neither stage can lose, repeat or swap a message.

So what a client was given are the values at the first positions that its receiver has
read.  A value between them was overwritten; nothing else is skipped.
-/

namespace MevShare
namespace Sse

open Rpc Rust Machine Broadcast

variable {T : Type} {profile : BuildProfile} {toJson : T → Except JsonError Bytes}
  {fromSlice : Bytes → Except JsonError T}

/-! ## The account of a connection -/

/-- The account of a connection to a channel. -/
structure ServedConnection.Forwards (fromSlice : Bytes → Except JsonError T)
    (sender : Channel SSeBroadcastMessage) (c : ServedConnection T) : Prop where
  reads : Reads sender c.created c.st.st c.reads
  contiguous : c.lagged = false → Contiguous c.created c.st.st c.reads
  /-- What the client was given, and what not. -/
  account : ∃ got rest, c.reads.map (fun p => sender.sent[p]?) = (got ++ rest).map some ∧
    c.items = got.filterMap (fun data => (fromSlice data).toOption) ∧
    (c.connected = true → rest = c.body ++ c.task.inHand)
  /-- Between two polls the decoder has nothing to say. -/
  drained : ∀ st, c.client.state = some (.active st) → st.st = []
  noRetry : ∀ fut, c.client.state ≠ some (.retry fut)

namespace ServedConnection.Forwards

variable {sender : Channel SSeBroadcastMessage} {c : ServedConnection T}

theorem call (sender : Channel SSeBroadcastMessage) (client : EventClient) (endpoint : String)
    (query : Option String) :
    (SseBroadcastService.call sender client endpoint query : ServedConnection T).Forwards
      fromSlice sender where
  reads := Reads.subscribe sender
  contiguous _ := by
    show [] = List.range' sender.sent.length (sender.sent.length - sender.sent.length)
    rw [Nat.sub_self, List.range'_zero]
  account := ⟨[], [], rfl, rfl, fun _ => rfl⟩
  drained st hst := by
    cases hst
    rfl
  noRetry fut hfut := by cases hfut

/-- What was read before a broadcast is at its place after it. -/
theorem send (h : c.Forwards fromSlice sender) (text : SSeBroadcastMessage) :
    c.Forwards fromSlice (sender.send text) := by
  obtain ⟨got, rest, hread, hitems, hrest⟩ := h.account
  refine ⟨h.reads.send text, h.contiguous, ⟨got, rest, ?_, hitems, hrest⟩, h.drained, h.noRetry⟩
  rw [← hread]
  refine List.map_congr_left fun p hp => ?_
  have hlt : p < sender.sent.length := Nat.lt_of_lt_of_le (h.reads.bounds p hp).2 h.reads.next_le
  exact List.getElem?_append_left hlt

theorem close (h : c.Forwards fromSlice sender) : c.Forwards fromSlice sender.close :=
  ⟨h.reads.close, h.contiguous, h.account, h.drained, h.noRetry⟩

theorem disconnect (h : c.Forwards fromSlice sender) :
    ({ c with connected := false } : ServedConnection T).Forwards fromSlice sender := by
  obtain ⟨got, rest, hread, hitems, -⟩ := h.account
  exact ⟨h.reads, h.contiguous, ⟨got, rest, hread, hitems, fun hc => by cases hc⟩, h.drained,
    h.noRetry⟩

/-- **The task** reads the next message, or hands on the one it has. -/
theorem forward (h : c.Forwards fromSlice sender) (taken : Bool) :
    (c.forward sender taken).Forwards fromSlice sender := by
  obtain ⟨got, rest, hread, hitems, hrest⟩ := h.account
  unfold ServedConnection.forward
  cases htask : c.task with
  | next =>
    rw [htask] at hrest
    have hrest' : c.connected = true → rest = c.body := fun hc => by
      rw [hrest hc]
      exact List.append_nil _
    simp only [SseBroadcastStream.turn]
    rcases hrecv : c.st.st.recv sender with ⟨st, out⟩
    rcases Receiver.recv_cases hrecv with ⟨hover, rfl, skipped, rfl⟩ |
      ⟨-, ⟨data, hget, rfl, rfl⟩ | ⟨-, rfl, rfl | rfl⟩⟩
    · exact ⟨h.reads.lagged hover, (fun hlag => by cases hlag), ⟨got, rest, hread, hitems, hrest⟩,
        h.drained, h.noRetry⟩
    · refine ⟨h.reads.value hget, fun hlag => (h.contiguous hlag).value h.reads.start_le,
        ⟨got, rest ++ [data], ?_, hitems, fun hc => ?_⟩, h.drained, h.noRetry⟩
      · rw [List.map_append, hread, List.map_singleton, hget, ← List.append_assoc,
          List.map_append, List.map_append, List.map_append]
        rfl
      · rw [hrest' hc]
        rfl
    · refine ⟨h.reads, h.contiguous, ⟨got, rest, hread, hitems, fun hc => ?_⟩, h.drained, h.noRetry⟩
      rw [hrest' hc]
      exact (List.append_nil _).symm
    · refine ⟨h.reads, h.contiguous, ⟨got, rest, hread, hitems, fun hc => ?_⟩, h.drained, h.noRetry⟩
      rw [hrest' hc]
      exact (List.append_nil _).symm
  | sending data =>
    rw [htask] at hrest
    dsimp only
    by_cases hconnected : c.connected = true
    · rw [if_pos hconnected]
      cases taken with
      | true =>
        refine ⟨h.reads, h.contiguous, ⟨got, rest, hread, hitems, fun _ => ?_⟩, h.drained,
          h.noRetry⟩
        rw [hrest hconnected]
        exact (List.append_nil _).symm
      | false => exact h
    · -- the encoder was dropped, and the message is lost
      rw [if_neg hconnected]
      exact ⟨h.reads, h.contiguous, ⟨got, rest, hread, hitems, fun hc => absurd hc hconnected⟩,
        h.drained, h.noRetry⟩
  | ended => exact h

end ServedConnection.Forwards

/-! ## The client -/

/-- The item of a value that was returned, if it is `Ok`. -/
def okItem : Option (Except SseError T) → Option T
  | some (.ok item) => some item
  | _ => none

theorem items_eq (c : ServedConnection T) : c.items = c.client.world.returned.filterMap okItem :=
  rfl

theorem okItem_decoded (data : Bytes) :
    okItem (some (decoded fromSlice data)) = (fromSlice data).toOption := by
  unfold decoded
  cases fromSlice data with
  | ok event => rfl
  | error e => rfl

/-- Nothing arrives at a stream that is on no connection. -/
theorem ServedConnection.arrive_of_not_active {c : ServedConnection T} (arrived : Bool)
    (hstate : ∀ st, c.client.state ≠ some (.active st)) : c.arrive arrived = c := by
  unfold arrive
  rcases h : c.client.state with _ | _ | fut | st
  · rfl
  · rfl
  · rfl
  · exact absurd h (hstate st)

/-- What arrives on a connection: nothing, or the first message of the body. -/
theorem ServedConnection.arrive_cases {c : ServedConnection T} (arrived : Bool)
    {st : ActiveEventStream} (hstate : c.client.state = some (.active st)) :
    ∃ script body, c.arrive arrived = { c with
        client := { c.client with state := some (.active { st with st := script }) }
        body := body } ∧
      ((body = c.body ∧ (script = [] ∨ script = [.pending])) ∨
        ∃ data, c.body = data :: body ∧ script = [.item (.ok (.message data))]) := by
  unfold arrive
  rw [hstate]
  cases arrived with
  | false => exact ⟨_, _, rfl, Or.inl ⟨rfl, Or.inr rfl⟩⟩
  | true =>
    cases hbody : c.body with
    | cons data body => exact ⟨_, _, rfl, Or.inr ⟨data, rfl, rfl⟩⟩
    | nil =>
      by_cases hended : c.task = .ended
      · refine ⟨[], [], ?_, Or.inl ⟨rfl, Or.inl rfl⟩⟩
        simp only [if_pos hended]
      · refine ⟨[.pending], [], ?_, Or.inl ⟨rfl, Or.inr rfl⟩⟩
        simp only [if_neg hended]

/-- A call of `poll_next` that has only one turn. -/
theorem turn_of_pollNext {s t : EventStream T} {obs : RetryPoll}
    {res : Poll (Option (Except SseError T))}
    (h : s.pollNext profile fromSlice [obs] = .ok (t, res)) :
    s.turn profile fromSlice obs = .ok (t, some res) := by
  rw [EventStream.pollNext] at h
  rcases hturn : s.turn profile fromSlice obs with e | ⟨t', _ | res'⟩
  · rw [hturn] at h
    cases h
  · rw [hturn] at h
    cases h
  · rw [hturn] at h
    cases h
    rfl

/-- The messages `given` leave the body, and the client has what becomes of them. -/
theorem ServedConnection.Forwards.give {sender : Channel SSeBroadcastMessage}
    {c : ServedConnection T} (h : c.Forwards fromSlice sender) (hconnected : c.connected = true)
    {given body : List SSeBroadcastMessage} (hbody : c.body = given ++ body)
    {client : EventStream T} {returned : List (Option (Except SseError T))}
    (hreturned : client.world.returned = c.client.world.returned ++ returned)
    (hgiven : returned.filterMap okItem = given.filterMap fun data => (fromSlice data).toOption)
    (hstate : client.state = none ∨ client.state = some .ended ∨
      ∃ connection, client.state = some (.active ⟨connection, []⟩)) :
    ({ c with client := client, body := body } : ServedConnection T).Forwards fromSlice sender := by
  obtain ⟨got, rest, hread, hitems, hrest⟩ := h.account
  have hdrained : ∀ st, client.state = some (.active st) → st.st = [] := by
    intro st hst
    rcases hstate with hstate | hstate | ⟨connection, hstate⟩ <;> rw [hstate] at hst <;> cases hst
    rfl
  have hnoRetry : ∀ fut, client.state ≠ some (.retry fut) := by
    intro fut hfut
    rcases hstate with hstate | hstate | ⟨connection, hstate⟩ <;> rw [hstate] at hfut <;> cases hfut
  refine ⟨h.reads, h.contiguous, ⟨got ++ given, body ++ c.task.inHand, ?_, ?_, fun _ => rfl⟩,
    hdrained, hnoRetry⟩
  · rw [hread, hrest hconnected, hbody, List.append_assoc, List.append_assoc]
  · rw [items_eq, hreturned, List.filterMap_append, ← items_eq, hitems, hgiven,
      List.filterMap_append]

/-- **The client** is given the next message that has arrived, if one has. -/
theorem ServedConnection.Forwards.poll {sender : Channel SSeBroadcastMessage}
    {c c' : ServedConnection T} (h : c.Forwards fromSlice sender) (hconnected : c.connected = true)
    {arrived : Bool} (hpoll : c.poll profile fromSlice arrived = .ok c') :
    c'.Forwards fromSlice sender := by
  unfold ServedConnection.poll at hpoll
  cases hnext : (c.arrive arrived).client.pollNext profile fromSlice [⟨false, .pending⟩] with
  | error e =>
    rw [hnext] at hpoll
    cases hpoll
  | ok x =>
    obtain ⟨t, res⟩ := x
    rw [hnext] at hpoll
    cases hpoll
    have hturn := turn_of_pollNext hnext
    rcases hstate : c.client.state with _ | _ | fut | st
    · rw [c.arrive_of_not_active arrived fun st hst => by rw [hstate] at hst; cases hst] at hturn
      exact absurd hturn (EventStream.turn_none hstate)
    · have hsame := c.arrive_of_not_active arrived fun st hst => by rw [hstate] at hst; cases hst
      rw [hsame] at hturn ⊢
      rw [(EventStream.turn_ended hstate hturn).2]
      exact h.give hconnected (List.nil_append _).symm (World.returned_output _ _ _) rfl
        (Or.inl rfl)
    · exact absurd hstate (h.noRetry fut)
    · obtain ⟨script, body, harrive, hcases⟩ := c.arrive_cases arrived hstate
      rw [harrive] at hturn ⊢
      have hturns := EventStream.turn_active rfl hturn
      rcases hcases with ⟨rfl, rfl | rfl⟩ | ⟨data, hbody, rfl⟩
      · -- the response has ended
        rcases hturns with ⟨-, -, rfl⟩ | ⟨rest, hst, -⟩ | ⟨rest, duration, hst, -⟩ |
          ⟨rest, res', item, hst, -⟩
        · exact h.give hconnected (List.nil_append _).symm (World.returned_output _ _ _) rfl
            (Or.inr (Or.inl rfl))
        · cases hst
        · cases hst
        · cases hst
      · rcases hturns with ⟨hst, -⟩ | ⟨rest, hst, -, rfl⟩ | ⟨rest, duration, hst, -⟩ |
          ⟨rest, res', item, hst, -⟩
        · cases hst
        · cases hst
          exact h.give hconnected (List.nil_append _).symm (List.append_nil _).symm rfl
            (Or.inr (Or.inr ⟨st.connection, rfl⟩))
        · cases hst
        · cases hst
      · rcases hturns with ⟨hst, -⟩ | ⟨rest, hst, -⟩ | ⟨rest, duration, hst, -⟩ |
          ⟨rest, res', item, hst, hitem, -, rfl⟩
        · cases hst
        · cases hst
        · cases hst
        · cases hst
          rcases yielded_eq_some hitem with ⟨data', hdata, rfl⟩ | ⟨e, herr, -⟩
          · cases hdata
            refine h.give hconnected (hbody.trans List.singleton_append.symm)
              (World.returned_output _ _ _) ?_ (Or.inr (Or.inr ⟨st.connection, rfl⟩))
            rw [List.filterMap_cons, okItem_decoded, List.filterMap_cons]
            rfl
          · cases herr

/-! ## The service -/

/-- The messages in the channel are the texts of the values that were sent. -/
def SseService.Recorded (toJson : T → Except JsonError Bytes) (s : SseService T) : Prop :=
  List.Forall₂ (fun msg text => toJson msg = .ok text) s.values s.sender.sent

/-- The invariant of a service. -/
structure SseService.Serves (toJson : T → Except JsonError Bytes)
    (fromSlice : Bytes → Except JsonError T) (s : SseService T) : Prop where
  recorded : s.Recorded toJson
  forwards : ∀ c ∈ s.connections, c.Forwards fromSlice s.sender

theorem SseService.serves_start (capacity : ℕ) :
    (SseService.start capacity : SseService T).Serves toJson fromSlice where
  recorded := List.Forall₂.nil
  forwards _ hc := absurd hc List.not_mem_nil

/-- **The step lemma.** -/
theorem serve_serves {s t : SseService T} {a : ServeAction T} (hs : s.Serves toJson fromSlice)
    (h : serve profile toJson fromSlice s a = .ok t) : t.Serves toJson fromSlice := by
  rcases serve_cases h with ⟨msg, text, hjson, hsender, hvalues, hconnections⟩ |
    ⟨hsender, hvalues, hconnections⟩
  · refine ⟨?_, fun c hc => ?_⟩
    · unfold SseService.Recorded
      rw [hvalues, hsender]
      exact List.rel_append hs.recorded (List.Forall₂.cons hjson List.Forall₂.nil)
    · rw [hconnections] at hc
      rw [hsender]
      exact (hs.forwards c hc).send text
  · refine ⟨?_, fun c hc => ?_⟩
    · have hsent : t.sender.sent = s.sender.sent := by
        rcases hsender with heq | heq
        · rw [heq]
        · rw [heq]
          rfl
      unfold SseService.Recorded
      rw [hvalues, hsent]
      exact hs.recorded
    · rcases hconnections with hsame | ⟨client, endpoint, query, hopen, hnew⟩ |
        ⟨k, c₀, c', hopen, hk, hset, hstep⟩
      · rw [hsame] at hc
        rcases hsender with heq | heq
        · rw [heq]
          exact hs.forwards c hc
        · rw [heq]
          exact (hs.forwards c hc).close
      · rw [hopen]
        rw [hnew] at hc
        rcases List.mem_append.mp hc with hc | hc
        · exact hs.forwards c hc
        · rw [List.mem_singleton.mp hc]
          exact ServedConnection.Forwards.call s.sender client endpoint query
      · rw [hopen]
        rw [hset] at hc
        have hold : c₀.Forwards fromSlice s.sender := hs.forwards c₀ (List.mem_of_getElem? hk)
        rcases List.mem_or_eq_of_mem_set hc with hc | rfl
        · exact hs.forwards c hc
        · rcases hstep with ⟨taken, rfl⟩ | ⟨arrived, hconnected, hpoll⟩ | rfl
          · exact hold.forward taken
          · exact hold.poll hconnected hpoll
          · exact hold.disconnect

/-- **The run lemma.** -/
theorem exec_serves {capacity : ℕ} {run : List (ServeAction T)} {s : SseService T}
    (h : exec (serve profile toJson fromSlice) (SseService.start capacity) run = .ok s) :
    s.Serves toJson fromSlice :=
  exec_invariant (I := SseService.Serves toJson fromSlice)
    (fun _ _ _ hs hstep => serve_serves hs hstep) (SseService.serves_start capacity) h

/-! ## In order, without duplication -/

/-- Texts at positions are the texts of the values there. -/
theorem values_of_texts {texts : List Bytes} {values : List T} {f : Bytes → Option T}
    (hvalues : ∀ (p : ℕ) (text : Bytes), texts[p]? = some text →
      ∃ v, values[p]? = some v ∧ f text = some v)
    {positions : List ℕ} {got : List Bytes}
    (h : positions.map (fun p => texts[p]?) = got.map some) :
    positions.map (fun p => values[p]?) = (got.filterMap f).map some := by
  induction positions generalizing got with
  | nil =>
    rw [List.map_nil] at h
    rw [List.map_eq_nil_iff.mp h.symm]
    rfl
  | cons p positions ih =>
    cases got with
    | nil => cases h
    | cons text got =>
      rw [List.map_cons, List.map_cons, List.cons_eq_cons] at h
      obtain ⟨v, hv, hf⟩ := hvalues p text h.1
      rw [List.map_cons, hv, ih h.2, List.filterMap_cons, hf]
      rfl

/-- A message is the text of the value that was sent at its position. -/
theorem SseService.Recorded.value {s : SseService T} (h : s.Recorded toJson)
    (hround : ∀ msg text, toJson msg = .ok text → fromSlice text = .ok msg) {p : ℕ}
    {text : SSeBroadcastMessage} (hp : s.sender.sent[p]? = some text) :
    ∃ v, s.values[p]? = some v ∧ (fromSlice text).toOption = some v := by
  obtain ⟨hlt, rfl⟩ := List.getElem?_eq_some_iff.mp hp
  have hlt' : p < s.values.length := by
    rw [h.length_eq]
    exact hlt
  have hjson : toJson s.values[p] = .ok s.sender.sent[p] := h.get hlt' hlt
  refine ⟨s.values[p], List.getElem?_eq_getElem hlt', ?_⟩
  rw [hround _ _ hjson]
  rfl

/-- **A client is given the broadcast in order and without duplication.**  In every run,
the `Ok` items of a client are values that were sent after its receiver was created, at
increasing positions.  A position that they pass over was never read by the receiver, and
the channel has overwritten it; if the receiver never lagged, they pass over none.  And
as long as the client is there, what the receiver has read was given to it or is on its
way. -/
theorem broadcast_in_order
    (hround : ∀ msg text, toJson msg = .ok text → fromSlice text = .ok msg) {capacity : ℕ}
    {run : List (ServeAction T)} {s : SseService T}
    (h : exec (serve profile toJson fromSlice) (SseService.start capacity) run = .ok s) {k : ℕ}
    {c : ServedConnection T} (hc : s.connections[k]? = some c) :
    c.items.Sublist (s.values.drop c.created) ∧
      ∃ positions : List ℕ, positions.Pairwise (· < ·) ∧ (∀ p ∈ positions, c.created ≤ p) ∧
        positions.map (fun p => s.values[p]?) = c.items.map some ∧
        (∀ p q, c.created ≤ p → q ∈ positions → p < q → p ∉ positions →
          p ∉ c.reads ∧ s.sender.Overwritten p) ∧
        (c.lagged = false → positions = List.range' c.created positions.length) ∧
        (c.connected = true →
          c.reads.length = positions.length + (c.body ++ c.task.inHand).length) := by
  obtain ⟨hrecorded, hforwards⟩ := exec_serves h
  have hserved := hforwards c (List.mem_of_getElem? hc)
  obtain ⟨got, rest, hread, hitems, hrest⟩ := hserved.account
  -- the positions of what was given are the first that were read
  obtain ⟨positions, waiting, hreads, hgot, hwaiting⟩ :=
    List.map_eq_append_iff.mp (hread.trans List.map_append)
  have hmap : positions.map (fun p => s.values[p]?) = c.items.map some := by
    rw [hitems]
    exact values_of_texts (fun p text => hrecorded.value hround) hgot
  have hsorted : positions.Pairwise (· < ·) := by
    have hall := hserved.reads.sorted
    rw [hreads] at hall
    exact (List.pairwise_append.mp hall).1
  have hcreated : ∀ p ∈ positions, c.created ≤ p := by
    intro p hp
    refine (hserved.reads.bounds p ?_).1
    rw [hreads]
    exact List.mem_append_left _ hp
  refine ⟨sublist_of_positions hsorted hcreated hmap, positions, hsorted, hcreated, hmap,
    ?_, ?_, ?_⟩
  · exact fun p q hp hq hlt hmem => hserved.reads.passed_take hreads hp hq hlt hmem
  · exact fun hlag => (hserved.contiguous hlag).take hreads
  · intro hconnected
    have hlength : waiting.length = rest.length := by
      have := congrArg List.length hwaiting
      rwa [List.length_map, List.length_map] at this
    rw [hreads, List.length_append, hlength, hrest hconnected]

/-- `serde_json` on the booleans. -/
def boolToJson : Bool → Except JsonError Bytes
  | true => .ok [116, 114, 117, 101]
  | false => .ok [102, 97, 108, 115, 101]

def boolFromSlice (data : Bytes) : Except JsonError Bool :=
  if data = [116, 114, 117, 101] then .ok true
  else if data = [102, 97, 108, 115, 101] then .ok false
  else .error ⟨"expected a boolean"⟩

theorem boolFromSlice_boolToJson (msg : Bool) (text : Bytes) (h : boolToJson msg = .ok text) :
    boolFromSlice text = .ok msg := by
  cases msg <;> cases h <;> decide

/-- A ring of one message, in which the first is overwritten before it is read. -/
def laggingRun : List (ServeAction Bool) :=
  [.call EventClient.new "/" none, .send true, .send false, .forward 0 true, .forward 0 true,
    .forward 0 true, .poll 0 true]

theorem broadcast_in_order_laggingRun :
    ∃ s c, exec (serve ⟨true⟩ boolToJson boolFromSlice) (SseService.start 1) laggingRun = .ok s ∧
      s.connections[0]? = some c ∧ c.items.Sublist (s.values.drop c.created) ∧
      ∃ positions : List ℕ, positions.Pairwise (· < ·) ∧ (∀ p ∈ positions, c.created ≤ p) ∧
        positions.map (fun p => s.values[p]?) = c.items.map some ∧
        (∀ p q, c.created ≤ p → q ∈ positions → p < q → p ∉ positions →
          p ∉ c.reads ∧ s.sender.Overwritten p) ∧
        (c.lagged = false → positions = List.range' c.created positions.length) ∧
        (c.connected = true →
          c.reads.length = positions.length + (c.body ++ c.task.inHand).length) := by
  obtain ⟨s, hs, c, hc⟩ : ∃ s, exec (serve ⟨true⟩ boolToJson boolFromSlice) (SseService.start 1)
      laggingRun = .ok s ∧ ∃ c, s.connections[0]? = some c := ⟨_, rfl, _, rfl⟩
  exact ⟨s, c, hs, hc, broadcast_in_order boolFromSlice_boolToJson hs hc⟩

end Sse
end MevShare
