import MevShare.Sse.Client

/-!
# What is yielded of a connection

A connection says messages, errors and retry directives.  In the processing model
of server-sent events a directive only sets the delay of the next reconnection, and
the connection goes on.  `poll_next` takes the connection out of the state before it
polls it, and the branch of a directive does not put it back: what the connection
says after its first directive is never read.

`Reading` is what the stream knows of a connection: from what was said, what was
yielded and what is still to be read.  It is kept for every connection by every step
(`Tracks`), and a connection that `poll_next` has let go has either ended or come to
a directive.  So such a connection has delivered all its messages exactly if none
comes after its first directive (`delivered_iff`).
-/

namespace MevShare
namespace Sse

open Rpc Rust Machine

variable {T : Type} {profile : BuildProfile} {fromSlice : Bytes → Except JsonError T}

/-! ## Messages -/

/-- The message of a poll, if it has one. -/
def DecoderPoll.message? : DecoderPoll → Option Bytes
  | .item (.ok (.message data)) => some data
  | _ => none

/-- The messages that a connection says, in order. -/
def messages (st : List DecoderPoll) : List Bytes := st.filterMap DecoderPoll.message?

/-- What is yielded for a message: its value, or the error of its decoding. -/
def decoded (fromSlice : Bytes → Except JsonError T) (data : Bytes) : Except SseError T :=
  match fromSlice data with
  | .ok event => .ok event
  | .error e => .error (.serdeJsonError e)

/-- The item comes of a message, and not of an error of the connection. -/
def isOfMessage : Except SseError T → Bool
  | .ok _ => true
  | .error (.serdeJsonError _) => true
  | .error _ => false

/-- What a connection says after its first retry directive. -/
def afterDirective : List DecoderPoll → List DecoderPoll
  | [] => []
  | .item (.ok (.retry _)) :: st => st
  | _ :: st => afterDirective st

/-- What `poll_next` has yielded of a connection, in order. -/
def World.yieldedOf (w : World T) (connection : ℕ) : List (Except SseError T) :=
  w.outputs.filterMap fun out => if out.1 = some connection then out.2 else none

/-- What `poll_next` has yielded for the messages of a connection, in order. -/
def World.messagesOf (w : World T) (connection : ℕ) : List (Except SseError T) :=
  (w.yieldedOf connection).filter isOfMessage

theorem messages_append (st st' : List DecoderPoll) :
    messages (st ++ st') = messages st ++ messages st' :=
  List.filterMap_append

theorem isOfMessage_decoded (data : Bytes) : isOfMessage (decoded fromSlice data) = true := by
  unfold decoded
  cases fromSlice data <;> rfl

/-- What a result of the decoder yields: a message its decoding, an error itself. -/
theorem yielded_eq_some {res : Except HttpError Event} {item : Except SseError T}
    (h : yielded fromSlice res = some item) :
    (∃ data, res = .ok (.message data) ∧ item = decoded fromSlice data) ∨
      ∃ e, res = .error e ∧ item = .error (.http e) := by
  rcases res with e | (data | duration)
  · cases h
    exact Or.inr ⟨e, rfl, rfl⟩
  · refine Or.inl ⟨data, rfl, ?_⟩
    unfold yielded at h
    unfold decoded
    cases hdec : fromSlice data with
    | ok event =>
      simp only [hdec, Option.some.injEq] at h
      exact h.symm
    | error e =>
      simp only [hdec, Option.some.injEq] at h
      exact h.symm
  · cases h

/-! ## Reading a connection -/

/-- Reading a connection that says `st`: so far `ys` was yielded, and `rest` is still
to be read.  A directive is not read over. -/
inductive Reading (fromSlice : Bytes → Except JsonError T) (st : List DecoderPoll) :
    List (Except SseError T) → List DecoderPoll → Prop where
  | start : Reading fromSlice st [] st
  | pending {ys rest} (h : Reading fromSlice st ys (.pending :: rest)) :
      Reading fromSlice st ys rest
  | item {ys res rest item} (h : Reading fromSlice st ys (.item res :: rest))
      (hitem : yielded fromSlice res = some item) : Reading fromSlice st (ys ++ [item]) rest

namespace Reading

variable {st rest : List DecoderPoll} {ys : List (Except SseError T)}

/-- What was read are the messages before the rest, each once and in order. -/
theorem messages_eq (h : Reading fromSlice st ys rest) :
    ∃ read, st = read ++ rest ∧
      ys.filter isOfMessage = (messages read).map (decoded fromSlice) := by
  induction h with
  | start => exact ⟨[], rfl, rfl⟩
  | @pending ys rest _ ih =>
    obtain ⟨read, hst, hys⟩ := ih
    refine ⟨read ++ [.pending], by rw [hst, List.append_assoc, List.singleton_append], ?_⟩
    rw [hys, messages_append]
    exact congrArg (List.map (decoded fromSlice)) (List.append_nil (messages read)).symm
  | @item ys res rest item _ hitem ih =>
    obtain ⟨read, hst, hys⟩ := ih
    refine ⟨read ++ [.item res], by rw [hst, List.append_assoc, List.singleton_append], ?_⟩
    rw [List.filter_append, hys, messages_append, List.map_append]
    rcases yielded_eq_some hitem with ⟨data, rfl, rfl⟩ | ⟨e, rfl, rfl⟩
    · have hone : [decoded fromSlice data].filter isOfMessage = [decoded fromSlice data] := by
        rw [List.filter_cons_of_pos (isOfMessage_decoded data), List.filter_nil]
      rw [hone]
      rfl
    · rfl

/-- A directive that is still to be read is the first one. -/
theorem afterDirective_eq (h : Reading fromSlice st ys rest) :
    afterDirective st = afterDirective rest := by
  induction h with
  | start => rfl
  | pending _ ih => exact ih
  | item _ hitem ih =>
    rw [ih]
    rcases yielded_eq_some hitem with ⟨data, rfl, -⟩ | ⟨e, rfl, -⟩
    · rfl
    · rfl

end Reading

/-- There is nothing more that `poll_next` could read: the connection has ended, or a
directive comes next. -/
def Closed (rest : List DecoderPoll) : Prop :=
  rest = [] ∨ ∃ duration rest', rest = .item (.ok (.retry duration)) :: rest'

theorem Closed.messages_eq {rest : List DecoderPoll} (h : Closed rest) :
    messages rest = messages (afterDirective rest) := by
  rcases h with rfl | ⟨duration, rest', rfl⟩
  · rfl
  · rfl

/-! ## The invariant -/

/-- Every connection was read up to somewhere.  The one the stream is on is read up to
what its decoder has yet to say, and `poll_next` has let go only of connections on
which there is nothing more to read. -/
structure World.Tracks (fromSlice : Bytes → Except JsonError T) (w : World T)
    (current : Option ActiveEventStream) : Prop where
  reading : ∀ j c, w.connections[j]? = some c → ∃ rest,
    Reading fromSlice c.st (w.yieldedOf j) rest ∧ (j ∈ w.left → Closed rest) ∧
      ∀ st, current = some st → st.connection = j → st.st = rest
  current_lt : ∀ st, current = some st → st.connection < w.connections.length
  current_not_mem : ∀ st, current = some st → st.connection ∉ w.left
  left_lt : ∀ j ∈ w.left, j < w.connections.length
  output_lt : ∀ out ∈ w.outputs, ∀ j, out.1 = some j → j < w.connections.length

namespace World

theorem yieldedOf_output_some (w : World T) (j : ℕ) (item : Except SseError T) :
    (w.output (some j) (some item)).yieldedOf j = w.yieldedOf j ++ [item] := by
  unfold yieldedOf output
  rw [List.filterMap_append]
  simp

/-- An output without an item, or from elsewhere, is not yielded of `j`. -/
theorem yieldedOf_output_of_ne (w : World T) {j : ℕ} {connection : Option ℕ}
    {item : Option (Except SseError T)} (h : connection = some j → item = none) :
    (w.output connection item).yieldedOf j = w.yieldedOf j := by
  unfold yieldedOf output
  rw [List.filterMap_append]
  by_cases hj : connection = some j
  · simp [h hj]
  · simp [hj]

namespace Tracks

variable {w : World T} {current : Option ActiveEventStream} {st : ActiveEventStream}

/-- Nothing was yielded of a connection that is not established. -/
theorem yieldedOf_eq_nil (hw : w.Tracks fromSlice current) {j : ℕ}
    (hj : w.connections.length ≤ j) : w.yieldedOf j = [] := by
  refine List.filterMap_eq_nil_iff.mpr fun out hout => ?_
  by_cases h : out.1 = some j
  · exact absurd (hw.output_lt out hout j h) (Nat.not_lt.mpr hj)
  · rw [if_neg h]

/-- The stream gives up its connection, or gets none. -/
theorem idle (hw : w.Tracks fromSlice current) : w.Tracks fromSlice none where
  reading j c hc := by
    obtain ⟨rest, hrest, hleft, -⟩ := hw.reading j c hc
    exact ⟨rest, hrest, hleft, fun st hst => by cases hst⟩
  current_lt st hst := by cases hst
  current_not_mem st hst := by cases hst
  left_lt := hw.left_lt
  output_lt := hw.output_lt

/-- What a call of `new_stream` records is of no matter here. -/
theorem of_eq {w' : World T} (hw : w.Tracks fromSlice current)
    (hconnections : w'.connections = w.connections) (houtputs : w'.outputs = w.outputs)
    (hleft : w'.left = w.left) : w'.Tracks fromSlice current := by
  have hyielded : ∀ j, w'.yieldedOf j = w.yieldedOf j := fun j => by
    rw [yieldedOf, houtputs, yieldedOf]
  refine ⟨fun j c hc => ?_, ?_, ?_, ?_, ?_⟩
  · rw [hconnections] at hc
    rw [hyielded, hleft]
    exact hw.reading j c hc
  · rw [hconnections]
    exact hw.current_lt
  · rw [hleft]
    exact hw.current_not_mem
  · rw [hconnections, hleft]
    exact hw.left_lt
  · rw [hconnections, houtputs]
    exact hw.output_lt

/-- An output that is no item of a connection. -/
theorem output (hw : w.Tracks fromSlice current) {connection : Option ℕ}
    {item : Option (Except SseError T)} (hitem : connection ≠ none → item = none)
    (hlt : ∀ j, connection = some j → j < w.connections.length) :
    (w.output connection item).Tracks fromSlice current where
  reading j c hc := by
    rw [yieldedOf_output_of_ne w fun h => hitem (by rw [h]; exact Option.some_ne_none j)]
    exact hw.reading j c hc
  current_lt := hw.current_lt
  current_not_mem := hw.current_not_mem
  left_lt := hw.left_lt
  output_lt out hout j hj := by
    rcases List.mem_append.mp hout with hout | hout
    · exact hw.output_lt out hout j hj
    · rw [List.mem_singleton.mp hout] at hj
      exact hlt j hj

/-- **Reading on.**  A poll of the decoder is read, and it is pending or an item is
yielded for it. -/
theorem advance {w' : World T} {rest : List DecoderPoll} (hw : w.Tracks fromSlice (some st))
    (hconnections : w'.connections = w.connections) (hleft : w'.left = w.left)
    (houtput : ∀ out ∈ w'.outputs, out ∈ w.outputs ∨ out.1 = some st.connection)
    (hother : ∀ j, j ≠ st.connection → w'.yieldedOf j = w.yieldedOf j)
    (hread : ∀ script, Reading fromSlice script (w.yieldedOf st.connection) st.st →
      Reading fromSlice script (w'.yieldedOf st.connection) rest) :
    w'.Tracks fromSlice (some { st with st := rest }) := by
  refine ⟨fun j c hc => ?_, fun st' hst' => ?_, fun st' hst' => ?_, ?_, fun out hout j hj => ?_⟩
  · rw [hconnections] at hc
    obtain ⟨rest', hrest', hclosed, hcurrent⟩ := hw.reading j c hc
    rw [hleft]
    by_cases hj : j = st.connection
    · subst hj
      rw [← hcurrent st rfl rfl] at hrest'
      refine ⟨rest, hread c.st hrest', fun hmem => ?_, fun st' hst' _ => ?_⟩
      · exact absurd hmem (hw.current_not_mem st rfl)
      · cases hst'
        rfl
    · rw [hother j hj]
      refine ⟨rest', hrest', hclosed, fun st' hst' hst'j => ?_⟩
      cases hst'
      exact absurd hst'j.symm hj
  · cases hst'
    rw [hconnections]
    exact hw.current_lt st rfl
  · cases hst'
    rw [hleft]
    exact hw.current_not_mem st rfl
  · rw [hconnections, hleft]
    exact hw.left_lt
  · rw [hconnections]
    rcases houtput out hout with hout | hout
    · exact hw.output_lt out hout j hj
    · rw [hout, Option.some.injEq] at hj
      rw [← hj]
      exact hw.current_lt st rfl

/-- **Letting go** of a connection on which there is nothing more to read. -/
theorem leave (hw : w.Tracks fromSlice (some st)) (hst : Closed st.st) :
    (w.leave st.connection).Tracks fromSlice none where
  reading j c hc := by
    obtain ⟨rest, hrest, hclosed, hcurrent⟩ := hw.reading j c hc
    refine ⟨rest, hrest, fun hmem => ?_, fun st' hst' => by cases hst'⟩
    rcases List.mem_append.mp hmem with hmem | hmem
    · exact hclosed hmem
    · rw [← hcurrent st rfl (List.mem_singleton.mp hmem).symm]
      exact hst
  current_lt st' hst' := by cases hst'
  current_not_mem st' hst' := by cases hst'
  left_lt j hmem := by
    rcases List.mem_append.mp hmem with hmem | hmem
    · exact hw.left_lt j hmem
    · rw [List.mem_singleton.mp hmem]
      exact hw.current_lt st rfl
  output_lt := hw.output_lt

/-- **A new connection**, of which nothing was yielded and which was not left. -/
theorem connect (hw : w.Tracks fromSlice current) (r : Request) (script : List DecoderPoll) :
    (w.connect r script).2.Tracks fromSlice (some (w.connect r script).1) := by
  have hlength : (w.connect r script).2.connections.length = w.connections.length + 1 :=
    List.length_append
  refine ⟨fun j c hc => ?_, fun st hst => ?_, fun st hst hmem => ?_, fun j hmem => ?_,
    fun out hout j hj => ?_⟩
  · replace hc : (w.connections ++ [(⟨r, script⟩ : Connection)])[j]? = some c := hc
    rcases Nat.lt_trichotomy j w.connections.length with hj | rfl | hj
    · rw [List.getElem?_append_left hj] at hc
      obtain ⟨rest, hrest, hclosed, -⟩ := hw.reading j c hc
      refine ⟨rest, hrest, hclosed, fun st hst hstj => ?_⟩
      cases hst
      exact absurd hstj.symm (Nat.ne_of_lt hj)
    · rw [List.getElem?_concat_length, Option.some.injEq] at hc
      subst hc
      have hyielded : (w.connect r script).2.yieldedOf w.connections.length = [] :=
        hw.yieldedOf_eq_nil (Nat.le_refl _)
      rw [hyielded]
      refine ⟨script, Reading.start, fun hmem => ?_, fun st hst _ => ?_⟩
      · exact absurd (hw.left_lt _ hmem) (Nat.lt_irrefl _)
      · cases hst
        rfl
    · have hnone : (w.connections ++ [(⟨r, script⟩ : Connection)])[j]? = none :=
        List.getElem?_eq_none (Nat.le_trans (Nat.le_of_eq hlength) hj)
      rw [hnone] at hc
      cases hc
  · cases hst
    rw [hlength]
    exact Nat.lt_succ_self _
  · cases hst
    exact Nat.lt_irrefl _ (hw.left_lt _ hmem)
  · rw [hlength]
    exact Nat.lt_succ_of_lt (hw.left_lt j hmem)
  · rw [hlength]
    exact Nat.lt_succ_of_lt (hw.output_lt out hout j hj)

end Tracks

end World

/-! ## Steps -/

/-- The connection the stream is on. -/
def EventStream.current (s : EventStream T) : Option ActiveEventStream :=
  match s.state with
  | some (.active st) => some st
  | _ => none

/-- The invariant of a stream. -/
def EventStream.Tracks (fromSlice : Bytes → Except JsonError T) (s : EventStream T) : Prop :=
  s.world.Tracks fromSlice s.current

theorem current_of_active {s : EventStream T} {st : ActiveEventStream}
    (hstate : s.state = some (.active st)) : s.current = some st := by
  unfold EventStream.current
  rw [hstate]

/-- The connection that a future is ready with. -/
def Poll.connected : Poll (Except SseError ActiveEventStream) → Option ActiveEventStream
  | .ready (.ok st) => some st
  | _ => none

/-- Awaiting `new_stream`: a connection is established or not. -/
theorem pollConnect_tracks (fut : RetryFuture) {w : World T} (hw : w.Tracks fromSlice none)
    (connect : ConnectPoll) :
    (fut.pollConnect w connect).1.Tracks fromSlice (fut.pollConnect w connect).2.2.connected := by
  rcases connect with _ | (e | script)
  · exact hw
  · exact hw
  · exact hw.connect fut.client.request script

/-- The future of an automatic retry establishes a connection or none. -/
theorem poll_tracks {fut fut' : RetryFuture} {obs : RetryPoll} {w w' : World T}
    {r : Poll (Except SseError ActiveEventStream)} (hw : w.Tracks fromSlice none)
    (h : fut.poll profile obs w = .ok (w', fut', r)) :
    w'.Tracks fromSlice r.connected := by
  rcases RetryFuture.poll_cases h with ⟨rfl, -, rfl⟩ |
    ⟨duration, client, res, -, -, -, ⟨err, -, rfl, -, rfl⟩ | ⟨-, hconnect⟩⟩ | ⟨-, hconnect⟩
  · exact hw
  · exact hw
  · have hnew : (w.newStream client.request).Tracks fromSlice none := hw.of_eq rfl rfl rfl
    have hpoll := pollConnect_tracks ⟨.connecting, client⟩ hnew obs.connect
    rw [hconnect] at hpoll
    exact hpoll
  · have hpoll := pollConnect_tracks fut hw obs.connect
    rw [hconnect] at hpoll
    exact hpoll

namespace EventStream

/-- **A turn** keeps track. -/
theorem Tracks.turn {s t : EventStream T} {obs : RetryPoll}
    {ret : Option (Poll (Option (Except SseError T)))} (hs : s.Tracks fromSlice)
    (h : s.turn profile fromSlice obs = .ok (t, ret)) : t.Tracks fromSlice := by
  have hidle : s.world.Tracks fromSlice none := hs.idle
  cases hstate : s.state with
  | none => exact absurd h (turn_none hstate)
  | some state =>
    cases state with
    | ended =>
      rw [(turn_ended hstate h).2]
      exact hidle.output (fun hne => absurd rfl hne) (fun j hj => by cases hj)
    | retry fut =>
      obtain ⟨w, fut', r, hpoll, hcases⟩ := turn_retry hstate h
      have hw := poll_tracks hidle hpoll
      rcases hcases with ⟨st, rfl, -, rfl⟩ | ⟨err, rfl, -, rfl⟩ | ⟨rfl, -, rfl⟩
      · exact hw
      · exact hw.output (fun hne => absurd rfl hne) (fun j hj => by cases hj)
      · exact hw
    | active st =>
      have hw : s.world.Tracks fromSlice (some st) := by
        rw [← current_of_active hstate]
        exact hs
      have hlt := hw.current_lt st rfl
      rcases turn_active hstate h with ⟨hst, -, rfl⟩ | ⟨rest, hst, -, rfl⟩ |
        ⟨rest, duration, hst, -, rfl⟩ | ⟨rest, res, item, hst, hitem, -, rfl⟩
      · have hend : (s.world.output (some st.connection) none).Tracks fromSlice (some st) :=
          hw.output (fun _ => rfl) (fun j hj => by
            cases hj
            exact hlt)
        exact hend.leave (Or.inl hst)
      · refine hw.advance rfl rfl (fun out hout => Or.inl hout) (fun j _ => rfl) ?_
        intro script hread
        rw [hst] at hread
        exact hread.pending
      · exact hw.leave (Or.inr ⟨duration, rest, hst⟩)
      · refine hw.advance rfl rfl (fun out hout => ?_) (fun j hj => ?_) fun script hread => ?_
        · rcases List.mem_append.mp hout with hout | hout
          · exact Or.inl hout
          · rw [List.mem_singleton.mp hout]
            exact Or.inr rfl
        · refine World.yieldedOf_output_of_ne _ fun hj' => ?_
          exact absurd (Option.some.inj hj').symm hj
        · rw [hst] at hread
          rw [World.yieldedOf_output_some]
          exact hread.item hitem

/-- **A manual retry** keeps track. -/
theorem Tracks.retry {s t : EventStream T} {connect : ConnectPoll}
    {ret : Option (Except SseError Unit)} (hs : s.Tracks fromSlice)
    (h : s.retry profile connect = .ok (t, ret)) : t.Tracks fromSlice := by
  unfold EventStream.retry at h
  cases hbegin : s.inner.beginRetry profile with
  | error e =>
    rw [hbegin] at h
    cases h
  | ok x =>
    obtain ⟨inner, err | _⟩ := x
    · rw [hbegin] at h
      cases h
      exact hs
    · rw [hbegin] at h
      have hnew : (s.world.newStream inner.request).Tracks fromSlice s.current :=
        hs.of_eq rfl rfl rfl
      rcases connect with _ | (e | script)
      · cases h
        exact hnew
      · cases h
        exact hnew
      · cases h
        exact hnew.connect inner.request script

end EventStream

/-- **The step lemma.** -/
theorem step_tracks {s t : Session T} {a : Action} (hs : s.stream.Tracks fromSlice)
    (h : step profile fromSlice s a = .ok t) : t.stream.Tracks fromSlice := by
  rcases step_cases h with ⟨obs, ret, -, hturn, -⟩ | ⟨connect, ret, -, -, hretry, -⟩ |
    ⟨endpoint, connect, ret, -, -, hretry, -⟩ | ⟨-, -, rfl⟩
  · exact hs.turn hturn
  · exact hs.retry hretry
  · have hs' : EventStream.Tracks fromSlice
        { s.stream with inner := { s.stream.inner with endpoint := endpoint } } := hs
    exact hs'.retry hretry
  · exact hs.of_eq rfl rfl rfl

/-- A stream that was just created has read nothing. -/
theorem subscribed_tracks (client : EventClient) (endpoint : String) (query : Option String)
    (script : List DecoderPoll) :
    (EventStream.subscribed client endpoint query script : EventStream T).Tracks fromSlice := by
  have hempty : (⟨[⟨endpoint, query⟩], 0, [], [], []⟩ : World T).Tracks fromSlice none :=
    { reading := fun j c hc => by cases hc
      current_lt := fun st hst => by cases hst
      current_not_mem := fun st hst => by cases hst
      left_lt := fun j hj => by cases hj
      output_lt := fun out hout => by cases hout }
  exact hempty.connect ⟨endpoint, query⟩ script

/-- **The run lemma.** -/
theorem exec_tracks {client : EventClient} {endpoint : String} {query : Option String}
    {script : List DecoderPoll} {run : List Action} {s : Session T}
    (h : exec (step profile fromSlice) (Session.start client endpoint query script) run = .ok s) :
    s.stream.Tracks fromSlice :=
  exec_invariant (I := fun s : Session T => s.stream.Tracks fromSlice)
    (fun _ _ _ hs hstep => step_tracks hs hstep)
    (subscribed_tracks client endpoint query script) h

/-! ## Delivery -/

/-- **What is delivered, exactly.**  Of every connection the messages that were read
are yielded, each once and in order; of the one the stream is on, these are all but
those its decoder has yet to say.  A connection that `poll_next` has let go has
delivered all its messages if and only if it has none after its first directive. -/
theorem delivered_iff {client : EventClient} {endpoint : String} {query : Option String}
    {script : List DecoderPoll} {run : List Action} {s : Session T}
    (h : exec (step profile fromSlice) (Session.start client endpoint query script) run = .ok s)
    {j : ℕ} {c : Connection} (hc : s.stream.world.connections[j]? = some c) :
    (∃ read rest, c.st = read ++ rest ∧
        s.stream.world.messagesOf j = (messages read).map (decoded fromSlice) ∧
        ∀ st, s.stream.current = some st → st.connection = j → st.st = rest) ∧
      (j ∈ s.stream.world.left →
        (s.stream.world.messagesOf j = (messages c.st).map (decoded fromSlice) ↔
          messages (afterDirective c.st) = [])) := by
  obtain ⟨rest, hreading, hclosed, hcurrent⟩ := (exec_tracks h).reading j c hc
  obtain ⟨read, hst, hmessages⟩ := hreading.messages_eq
  refine ⟨⟨read, rest, hst, hmessages, hcurrent⟩, fun hleft => ?_⟩
  have hrest : messages rest = messages (afterDirective c.st) := by
    rw [hreading.afterDirective_eq]
    exact (hclosed hleft).messages_eq
  show (s.stream.world.yieldedOf j).filter isOfMessage = _ ↔ _
  rw [hmessages, ← hrest, hst, messages_append, List.map_append]
  constructor
  · intro heq
    exact List.map_eq_nil_iff.mp (List.self_eq_append_right.mp heq)
  · intro hnil
    rw [hnil, List.map_nil, List.append_nil]

/-- A connection that says a directive and then a message. -/
def directiveScript : List DecoderPoll :=
  [.item (.ok (.retry 5)), .item (.ok (.message [49]))]

/-- One turn of `poll_next`. -/
def directiveRun : List Action := [.turn ⟨false, .pending⟩]

theorem delivered_iff_directiveRun :
    ∃ s c, exec (step ⟨true⟩ Except.ok)
        (Session.start EventClient.new "/" none directiveScript) directiveRun = .ok s ∧
      s.stream.world.connections[0]? = some c ∧
      (∃ read rest, c.st = read ++ rest ∧
        s.stream.world.messagesOf 0 = (messages read).map (decoded Except.ok) ∧
        ∀ st, s.stream.current = some st → st.connection = 0 → st.st = rest) ∧
      (0 ∈ s.stream.world.left →
        (s.stream.world.messagesOf 0 = (messages c.st).map (decoded Except.ok) ↔
          messages (afterDirective c.st) = [])) := by
  obtain ⟨s, hs, c, hc⟩ : ∃ s, exec (step ⟨true⟩ Except.ok)
      (Session.start EventClient.new "/" none directiveScript) directiveRun = .ok s ∧
        ∃ c, s.stream.world.connections[0]? = some c := ⟨_, rfl, _, rfl⟩
  exact ⟨s, c, hs, hc, delivered_iff hs hc⟩

/-- The run above lets the connection go, and its message is not yielded. -/
theorem directiveRun_not_delivered :
    ∃ s c, exec (step ⟨true⟩ Except.ok)
        (Session.start EventClient.new "/" none directiveScript) directiveRun = .ok s ∧
      s.stream.world.connections[0]? = some c ∧ 0 ∈ s.stream.world.left ∧
      s.stream.world.messagesOf 0 ≠ (messages c.st).map (decoded Except.ok) :=
  ⟨_, _, rfl, rfl, by decide, by decide⟩

end Sse
end MevShare
