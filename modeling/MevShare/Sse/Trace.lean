import MevShare.Sse.Delivery
import MevShare.Sse.Budget

/-!
# What a reader of the stream sees

Whoever only polls a stream sees the values that `poll_next` returns.  `Reader` is a
stream with the values it has returned so far, other than `Pending`; one step of it
is one call of `poll_next`.

## The trace

The items of a connection are what it says before its first retry directive or its
end: a message its value or the error of its decoding, an I/O error itself.  `Trace`
gives for each state of the stream what its reader has seen.  On a connection these
are the items of the connections before it, each of which has said a directive, and
then the items of what was read of this one.  A stream ends because a connection has,
and then `None` is seen, or because a reconnect has failed, and then its error is
seen.  All that can follow is one more `None`.

## Pending

A trace alone would also be that of a stream which never gets on.  `SaidPending` is the
other half: a call returns `Pending` only where the decoder, or the future of the retry,
has said `Pending` to its last turn, and what the decoder has said is then read.  So an
item that is there, the end of a connection and the error of a reconnect are what the next
call returns.

## Panics

`poll_next` takes the state out of the stream at every turn of its loop.  A state that
was not put back makes the next turn panic; the trace shows that only a stream that
has ended is left without one, so that `None` was seen before.
-/

namespace MevShare
namespace Sse

open Rpc Rust Machine

variable {T : Type} {profile : BuildProfile} {fromSlice : Bytes → Except JsonError T}

/-! ## Items -/

/-- What is yielded of a connection: its items before the first directive, or all. -/
def items (fromSlice : Bytes → Except JsonError T) : List DecoderPoll → List (Except SseError T)
  | [] => []
  | .pending :: st => items fromSlice st
  | .item res :: st =>
      match yielded fromSlice res with
      | some item => item :: items fromSlice st
      | none => []

/-- The connection says a retry directive. -/
def Directed (st : List DecoderPoll) : Prop :=
  ∃ duration, DecoderPoll.item (.ok (.retry duration)) ∈ st

theorem Directed.append_left {st : List DecoderPoll} (h : Directed st)
    (read : List DecoderPoll) : Directed (read ++ st) := by
  obtain ⟨duration, hmem⟩ := h
  exact ⟨duration, List.mem_append_right read hmem⟩

theorem directed_cons_directive (duration : Duration) (st : List DecoderPoll) :
    Directed (.item (.ok (.retry duration)) :: st) :=
  ⟨duration, List.mem_cons_self⟩

/-- Only the result that yields no item is a directive. -/
theorem yielded_eq_none_iff {res : Except HttpError Event} :
    yielded fromSlice res = none ↔ ∃ duration, res = .ok (.retry duration) := by
  rcases res with e | (data | duration)
  · simp [yielded]
  · cases hdec : fromSlice data with
    | ok event => simp [yielded, hdec]
    | error e => simp [yielded, hdec]
  · simp [yielded]

theorem not_directed_concat {read : List DecoderPoll} {p : DecoderPoll}
    (hread : ¬ Directed read) (hp : ∀ duration, p ≠ .item (.ok (.retry duration))) :
    ¬ Directed (read ++ [p]) := by
  rintro ⟨duration, hmem⟩
  rcases List.mem_append.mp hmem with hmem | hmem
  · exact hread ⟨duration, hmem⟩
  · exact hp duration (List.mem_singleton.mp hmem).symm

/-- What comes before every directive is read in full. -/
theorem items_append {read : List DecoderPoll} (hread : ¬ Directed read)
    (st : List DecoderPoll) :
    items fromSlice (read ++ st) = items fromSlice read ++ items fromSlice st := by
  induction read with
  | nil => rfl
  | cons p read ih =>
    have hread' : ¬ Directed read := fun ⟨duration, hmem⟩ =>
      hread ⟨duration, List.mem_cons_of_mem p hmem⟩
    rw [List.cons_append]
    cases p with
    | pending => exact ih hread'
    | item res =>
      simp only [items]
      cases hitem : yielded fromSlice res with
      | some item =>
        simp only [ih hread', List.cons_append]
      | none =>
        obtain ⟨duration, rfl⟩ := yielded_eq_none_iff.mp hitem
        exact absurd (directed_cons_directive duration read) hread

/-- A directive is never read over. -/
theorem items_append_directive {read : List DecoderPoll} (hread : ¬ Directed read)
    (duration : Duration) (rest : List DecoderPoll) :
    items fromSlice (read ++ .item (.ok (.retry duration)) :: rest) = items fromSlice read := by
  rw [items_append hread]
  exact List.append_nil _

/-! ## The trace -/

/-- Every call of `new_stream` has given a connection. -/
def World.Answered (w : World T) : Prop :=
  w.requests = w.connections.map Connection.request

/-- Every call of `new_stream` but the last, which is `r`, has given a connection. -/
def World.Waiting (w : World T) (r : Request) : Prop :=
  w.requests = w.connections.map Connection.request ++ [r]

/-- The items of all connections, in order. -/
def World.items (fromSlice : Bytes → Except JsonError T) (w : World T) :
    List (Except SseError T) :=
  w.connections.flatMap fun c => Sse.items fromSlice c.st

/-- What the reader of a stream has seen, by the state that the stream is in. -/
inductive Trace (fromSlice : Bytes → Except JsonError T) (w : World T) :
    Option State → List (Option (Except SseError T)) → Prop where
  /-- On its last connection, of which `read` was read. -/
  | active (request : Request) {earlier : List Connection} {read : List DecoderPoll}
      {st : ActiveEventStream} (hconnections : w.connections = earlier ++ [⟨request, read ++ st.st⟩])
      (hearlier : ∀ c ∈ earlier, Directed c.st) (hread : ¬ Directed read) (hw : w.Answered) :
      Trace fromSlice w (some (.active st))
        (((earlier.flatMap fun c => items fromSlice c.st) ++ items fromSlice read).map some)
  /-- Between two connections. -/
  | retry {fut : RetryFuture} (hconnections : ∀ c ∈ w.connections, Directed c.st)
      (hsleeping : ∀ duration, fut.stage = .sleeping duration → w.Answered)
      (hconnecting : fut.stage = .connecting → w.Waiting fut.client.request) :
      Trace fromSlice w (some (.retry fut)) ((w.items fromSlice).map some)
  /-- The last connection has ended, and there was no reconnect. -/
  | closed {earlier : List Connection} {last : Connection}
      (hconnections : w.connections = earlier ++ [last])
      (hearlier : ∀ c ∈ earlier, Directed c.st) (hlast : ¬ Directed last.st) (hw : w.Answered) :
      Trace fromSlice w (some .ended) ((w.items fromSlice).map some ++ [none])
  /-- The budget did not allow the reconnect. -/
  | refused {maxRetries : U64} (hconnections : ∀ c ∈ w.connections, Directed c.st)
      (hw : w.Answered) :
      Trace fromSlice w (some .ended)
        ((w.items fromSlice).map some ++ [some (.error (.maxRetriesExceeded maxRetries))])
  /-- The reconnect has failed. -/
  | failed {request : Request} {error : ReqwestError}
      (hconnections : ∀ c ∈ w.connections, Directed c.st) (hw : w.Waiting request) :
      Trace fromSlice w (some .ended)
        ((w.items fromSlice).map some ++ [some (.error (.retryError error))])
  /-- A stream that has ended was polled. -/
  | taken {outs : List (Option (Except SseError T))} (h : Trace fromSlice w (some .ended) outs) :
      Trace fromSlice w none (outs ++ [none])

/-- The trace reads only the calls of `new_stream` and the connections. -/
theorem Trace.of_eq {w w' : World T} {state : Option State}
    {outs : List (Option (Except SseError T))} (h : Trace fromSlice w state outs)
    (hrequests : w'.requests = w.requests) (hconnections : w'.connections = w.connections) :
    Trace fromSlice w' state outs := by
  obtain ⟨requests, opened, connections, outputs, left⟩ := w
  obtain ⟨requests', opened', connections', outputs', left'⟩ := w'
  cases hrequests
  cases hconnections
  induction h with
  | active request hconnections hearlier hread hw =>
    exact .active request hconnections hearlier hread hw
  | retry hall hsleeping hconnecting => exact .retry hall hsleeping hconnecting
  | closed hconnections hearlier hlast hw => exact .closed hconnections hearlier hlast hw
  | refused hall hw => exact .refused hall hw
  | failed hall hw => exact .failed hall hw
  | taken _ ih => exact .taken ih

/-! ## A turn -/

/-- What the reader sees of what a turn gives back. -/
def seen : Option (Poll (Option (Except SseError T))) → List (Option (Except SseError T))
  | some (.ready x) => [x]
  | some .pending => []
  | none => []

/-- What `poll_next` has returned so far, other than `Pending`. -/
def World.returned (w : World T) : List (Option (Except SseError T)) := w.outputs.map Prod.snd

theorem World.returned_output (w : World T) (connection : Option ℕ)
    (item : Option (Except SseError T)) :
    (w.output connection item).returned = w.returned ++ [item] :=
  List.map_append

namespace EventStream

/-- A future of an automatic retry returns nothing itself. -/
theorem poll_returned {fut fut' : RetryFuture} {obs : RetryPoll} {w w' : World T}
    {r : Poll (Except SseError ActiveEventStream)}
    (h : fut.poll profile obs w = .ok (w', fut', r)) : w'.returned = w.returned := by
  have hconnect : ∀ (fut : RetryFuture) (w : World T) (connect : ConnectPoll),
      (fut.pollConnect w connect).1.returned = w.returned := by
    intro fut w connect
    rcases connect with _ | (e | st)
    · rfl
    · rfl
    · rfl
  rcases RetryFuture.poll_cases h with ⟨rfl, -, -⟩ |
    ⟨duration, client, res, -, -, -, ⟨err, -, rfl, -, -⟩ | ⟨-, hpoll⟩⟩ | ⟨-, hpoll⟩
  · rfl
  · rfl
  · have hw := hconnect ⟨.connecting, client⟩ (w.newStream client.request) obs.connect
    rw [hpoll] at hw
    exact hw
  · have hw := hconnect fut w obs.connect
    rw [hpoll] at hw
    exact hw

/-- The counter of a stream that is never retried by hand, and of what its automatic
retries have cloned, is at its start. -/
structure Uncounted (s : EventStream T) : Prop where
  inner : s.inner.numRetries = 0
  future : ∀ fut duration, s.state = some (.retry fut) → fut.stage = .sleeping duration →
    fut.client.numRetries = 0

/-- The invariant of a stream that is only polled. -/
structure Traced (fromSlice : Bytes → Except JsonError T) (s : EventStream T) : Prop where
  trace : Trace fromSlice s.world s.state s.world.returned
  uncounted : s.Uncounted

/-- What the reader has seen once a future of an automatic retry was polled. -/
def Afterwards (fromSlice : Bytes → Except JsonError T) (w : World T) (fut : RetryFuture)
    (outs : List (Option (Except SseError T))) : Poll (Except SseError ActiveEventStream) → Prop
  | .pending => Trace fromSlice w (some (.retry fut)) outs
  | .ready (.ok st) => Trace fromSlice w (some (.active st)) outs
  | .ready (.error err) => Trace fromSlice w (some .ended) (outs ++ [some (.error err)])

/-- Awaiting `new_stream`: it fails, or a connection comes after all the others. -/
theorem pollConnect_afterwards (fut : RetryFuture) {w : World T} (connect : ConnectPoll)
    (hall : ∀ c ∈ w.connections, Directed c.st) (hstage : fut.stage = .connecting)
    (hw : w.Waiting fut.client.request) :
    Afterwards fromSlice (fut.pollConnect w connect).1 (fut.pollConnect w connect).2.1
      ((w.items fromSlice).map some) (fut.pollConnect w connect).2.2 := by
  rcases connect with _ | (e | script)
  · refine Trace.retry hall (fun duration h => ?_) (fun _ => hw)
    have hsleep : fut.stage = .sleeping duration := h
    rw [hstage] at hsleep
    cases hsleep
  · exact Trace.failed hall hw
  · have hread : ¬ Directed ([] : List DecoderPoll) := fun ⟨duration, hmem⟩ =>
      List.not_mem_nil hmem
    have hanswered : (w.connect fut.client.request script).2.Answered := by
      show w.requests = (w.connections ++ [(⟨fut.client.request, script⟩ : Connection)]).map
        Connection.request
      rw [List.map_append, hw]
      rfl
    have htrace : Trace fromSlice (w.connect fut.client.request script).2
        (some (.active (w.connect fut.client.request script).1))
        ((w.items fromSlice ++ items fromSlice []).map some) :=
      Trace.active fut.client.request rfl hall hread hanswered
    rw [items, List.append_nil] at htrace
    exact htrace

/-- A future that still sleeps is the one that was there. -/
theorem poll_sleeping {fut fut' : RetryFuture} {obs : RetryPoll} {w w' : World T}
    {r : Poll (Except SseError ActiveEventStream)} {duration : Duration}
    (h : fut.poll profile obs w = .ok (w', fut', r)) (hr : r = .pending)
    (hstage : fut'.stage = .sleeping duration) : fut' = fut := by
  rcases RetryFuture.poll_cases h with ⟨-, rfl, -⟩ |
    ⟨duration, client, res, -, -, -, ⟨err, -, -, -, rfl⟩ | ⟨-, hpoll⟩⟩ | ⟨-, hpoll⟩
  · rfl
  · cases hr
  · have hfut := (pollConnect_opened ⟨.connecting, client⟩ (w.newStream client.request)
      obs.connect).2
    rw [hpoll] at hfut
    have hsame : fut' = ⟨.connecting, client⟩ := hfut
    rw [hsame] at hstage
    cases hstage
  · have hfut := (pollConnect_opened fut w obs.connect).2
    rw [hpoll] at hfut
    exact hfut

/-- The future of an automatic retry goes on from what was seen. -/
theorem poll_afterwards {fut fut' : RetryFuture} {obs : RetryPoll} {w w' : World T}
    {r : Poll (Except SseError ActiveEventStream)}
    (hall : ∀ c ∈ w.connections, Directed c.st)
    (hsleeping : ∀ duration, fut.stage = .sleeping duration → w.Answered)
    (hconnecting : fut.stage = .connecting → w.Waiting fut.client.request)
    (h : fut.poll profile obs w = .ok (w', fut', r)) :
    Afterwards fromSlice w' fut' ((w.items fromSlice).map some) r := by
  rcases RetryFuture.poll_cases h with ⟨rfl, rfl, rfl⟩ |
    ⟨duration, client, res, hstage, -, hbegin, ⟨err, rfl, rfl, -, rfl⟩ | ⟨rfl, hpoll⟩⟩ |
    ⟨hstage, hpoll⟩
  · exact Trace.retry hall hsleeping hconnecting
  · obtain ⟨-, ⟨m, -, -, hr⟩ | ⟨-, hr⟩⟩ := EventStreamInner.beginRetry_spec hbegin
    · cases hr
      exact Trace.refused hall (hsleeping duration hstage)
    · cases hr
  · have hw : (w.newStream client.request).Waiting client.request := by
      show w.requests ++ [client.request] = _
      rw [hsleeping duration hstage]
      rfl
    have hafter : Afterwards fromSlice _ _ (((w.newStream client.request).items fromSlice).map some)
        _ := pollConnect_afterwards ⟨.connecting, client⟩ obs.connect hall rfl hw
    rw [hpoll] at hafter
    exact hafter
  · have hafter : Afterwards fromSlice _ _ ((w.items fromSlice).map some) _ :=
      pollConnect_afterwards fut obs.connect hall hstage (hconnecting hstage)
    rw [hpoll] at hafter
    exact hafter

/-- **A turn on a connection** goes on from what was seen. -/
theorem turn_active_trace {s t : EventStream T} {obs : RetryPoll}
    {ret : Option (Poll (Option (Except SseError T)))} {st : ActiveEventStream}
    (hstate : s.state = some (.active st)) (hs : Trace fromSlice s.world s.state s.world.returned)
    (h : s.turn profile fromSlice obs = .ok (t, ret)) :
    Trace fromSlice t.world t.state t.world.returned := by
  rw [hstate] at hs
  generalize hreturned : s.world.returned = outs at hs
  cases hs with
  | @active request earlier read _ hconnections hearlier hread hw =>
    rcases turn_active hstate h with ⟨hst, -, rfl⟩ | ⟨rest, hst, -, rfl⟩ |
      ⟨rest, duration, hst, -, rfl⟩ | ⟨rest, res, item, hst, hitem, -, rfl⟩
    · show Trace fromSlice _ (some .ended) (World.returned (s.world.output _ none))
      rw [hst, List.append_nil] at hconnections
      have hall : s.world.items fromSlice =
          (earlier.flatMap fun c => items fromSlice c.st) ++ items fromSlice read := by
        rw [World.items, hconnections, List.flatMap_append, List.flatMap_singleton]
      rw [World.returned_output, hreturned, ← hall]
      exact (Trace.closed hconnections hearlier hread hw).of_eq rfl rfl
    · show Trace fromSlice s.world (some (.active { st with st := rest })) s.world.returned
      rw [hreturned]
      have hpending : items fromSlice (read ++ [.pending]) = items fromSlice read := by
        rw [items_append hread]
        exact List.append_nil _
      rw [← hpending]
      refine Trace.active request ?_ hearlier
        (not_directed_concat hread fun duration h => by cases h) hw
      rw [hconnections, hst, List.append_assoc, List.singleton_append]
    · show Trace fromSlice _ (some (.retry ⟨.sleeping duration, s.inner⟩)) s.world.returned
      rw [hst] at hconnections
      have hall : s.world.items fromSlice =
          (earlier.flatMap fun c => items fromSlice c.st) ++ items fromSlice read := by
        rw [World.items, hconnections, List.flatMap_append, List.flatMap_singleton,
          items_append_directive hread]
      rw [hreturned, ← hall]
      refine (Trace.retry (fun c hc => ?_) (fun _ _ => hw) fun hstage => by cases hstage).of_eq
        rfl rfl
      rw [hconnections] at hc
      rcases List.mem_append.mp hc with hc | hc
      · exact hearlier c hc
      · rw [List.mem_singleton.mp hc]
        exact (directed_cons_directive duration rest).append_left read
    · show Trace fromSlice _ (some (.active { st with st := rest }))
        (World.returned (s.world.output _ (some item)))
      have hread' : items fromSlice (read ++ [.item res]) = items fromSlice read ++ [item] := by
        rw [items_append hread]
        simp only [items, hitem]
      rw [World.returned_output, hreturned, ← List.map_singleton, ← List.map_append,
        List.append_assoc, ← hread']
      refine (Trace.active request ?_ hearlier
        (not_directed_concat hread fun duration h => ?_) hw).of_eq rfl rfl
      · rw [hconnections, hst, List.append_assoc, List.singleton_append]
      · cases h
        cases hitem

/-- **A turn** goes on from what was seen. -/
theorem Traced.turn {s t : EventStream T} {obs : RetryPoll}
    {ret : Option (Poll (Option (Except SseError T)))} (hs : s.Traced fromSlice)
    (h : s.turn profile fromSlice obs = .ok (t, ret)) : t.Traced fromSlice := by
  obtain ⟨htrace, hinner, hfuture⟩ := hs
  have hsame : t.inner = s.inner := (turn_cases h).1
  have hinner' : t.inner.numRetries = 0 := by rw [hsame, hinner]
  rcases hstate : s.state with _ | _ | fut | st
  · exact absurd h (turn_none hstate)
  · rw [hstate] at htrace
    rw [(turn_ended hstate h).2]
    refine ⟨?_, hinner, fun fut duration hfut => by cases hfut⟩
    rw [World.returned_output]
    exact (Trace.taken htrace).of_eq rfl rfl
  · rw [hstate] at htrace
    obtain ⟨w, fut', r, hpoll, hcases⟩ := turn_retry hstate h
    have hreturned := poll_returned hpoll
    generalize houts : s.world.returned = outs at htrace
    cases htrace with
    | retry hall hsleeping hconnecting =>
      have hafter : Afterwards fromSlice w fut' ((s.world.items fromSlice).map some) r :=
        poll_afterwards hall hsleeping hconnecting hpoll
      rw [← houts, ← hreturned] at hafter
      rcases hcases with ⟨st, rfl, -, rfl⟩ | ⟨err, rfl, -, rfl⟩ | ⟨rfl, -, rfl⟩
      · exact ⟨hafter, hinner, fun fut duration hfut => by cases hfut⟩
      · refine ⟨?_, hinner, fun fut duration hfut => by cases hfut⟩
        rw [World.returned_output]
        exact Trace.of_eq hafter rfl rfl
      · refine ⟨hafter, hinner, fun fut₁ duration hfut hstage => ?_⟩
        cases hfut
        have hfut : fut' = fut := poll_sleeping hpoll rfl hstage
        rw [hfut] at hstage ⊢
        exact hfuture fut duration hstate hstage
  · refine ⟨turn_active_trace hstate htrace h, hinner', ?_⟩
    rcases turn_active hstate h with ⟨-, -, rfl⟩ | ⟨rest, -, -, rfl⟩ |
      ⟨rest, duration, -, -, rfl⟩ | ⟨rest, res, item, -, -, -, rfl⟩
    · exact fun fut duration hfut => by cases hfut
    · exact fun fut duration hfut => by cases hfut
    · intro fut' duration' hfut _
      cases hfut
      exact hinner
    · exact fun fut duration hfut => by cases hfut

end EventStream

/-! ## A call -/

/-- A stream that is only polled, with what its polls have returned, other than
`Pending`. -/
structure Reader (T : Type) where
  stream : EventStream T
  returned : List (Option (Except SseError T))

def Reader.start (client : EventClient) (endpoint : String) (query : Option String)
    (st : List DecoderPoll) : Reader T :=
  ⟨EventStream.subscribed client endpoint query st, []⟩

/-- One call of `poll_next`, with what the outside says at its turns. -/
def Reader.read (profile : BuildProfile) (fromSlice : Bytes → Except JsonError T) (r : Reader T)
    (obs : List RetryPoll) : Except Halt (Reader T) :=
  match r.stream.pollNext profile fromSlice obs with
  | .error e => .error e
  | .ok (s, res) => .ok ⟨s, r.returned ++ seen (some res)⟩

/-- The invariant of a reader: it has seen what is recorded. -/
structure Reader.Traced (fromSlice : Bytes → Except JsonError T) (r : Reader T) : Prop where
  stream : r.stream.Traced fromSlice
  returned_eq : r.returned = r.stream.world.returned

/-- What a turn has polled has said `Pending`: the decoder, which has said it for this time;
the timer; or `new_stream`. -/
inductive SaidPending (s : EventStream T) (obs : RetryPoll) : EventStream T → Prop where
  | decoder {st : ActiveEventStream} {rest : List DecoderPoll}
      (hstate : s.state = some (.active st)) (hst : st.st = .pending :: rest) :
      SaidPending s obs { s with state := some (.active { st with st := rest }) }
  | timer {fut : RetryFuture} {duration : Duration} (hstate : s.state = some (.retry fut))
      (hstage : fut.stage = .sleeping duration) (hawake : obs.awake = false) :
      SaidPending s obs s
  | connect {fut fut' : RetryFuture} {w : World T} (hstate : s.state = some (.retry fut))
      (hstage : fut'.stage = .connecting) (hconnect : obs.connect = .pending) :
      SaidPending s obs { s with state := some (.retry fut'), world := w }

theorem RetryFuture.poll_pending {fut fut' : RetryFuture} {obs : RetryPoll} {w w' : World T}
    (h : fut.poll profile obs w = .ok (w', fut', .pending)) :
    (∃ duration, fut.stage = .sleeping duration ∧ obs.awake = false ∧ w' = w ∧ fut' = fut) ∨
      (fut'.stage = .connecting ∧ obs.connect = .pending) := by
  have hconnecting : ∀ {fut : RetryFuture} {w : World T}, fut.stage = .connecting →
      fut.pollConnect w obs.connect = (w', fut', .pending) →
        fut'.stage = .connecting ∧ obs.connect = .pending := by
    intro fut w hstage hpoll
    rcases hconnect : obs.connect with _ | (e | st) <;> rw [hconnect] at hpoll <;> cases hpoll
    exact ⟨hstage, rfl⟩
  rcases hstage : fut.stage with duration | _
  · rcases hawake : obs.awake with _ | _
    · rw [poll, hstage] at h
      simp only [hawake, Bool.false_eq_true, if_false] at h
      cases h
      exact Or.inl ⟨duration, rfl, rfl, rfl, rfl⟩
    · rw [poll, hstage] at h
      simp only [hawake, if_true] at h
      rcases hbegin : fut.client.beginRetry profile with e | ⟨client, err | _⟩ <;>
        rw [hbegin] at h
      · cases h
      · cases h
      · exact Or.inr (hconnecting rfl (Except.ok.inj h))
  · rw [poll, hstage] at h
    exact Or.inr (hconnecting hstage (Except.ok.inj h))

/-- **A turn returns `Pending`** only if it was said to it. -/
theorem turn_pending {s t : EventStream T} {obs : RetryPoll}
    (h : s.turn profile fromSlice obs = .ok (t, some .pending)) : SaidPending s obs t := by
  rcases hstate : s.state with _ | _ | fut | st
  · exact absurd h (EventStream.turn_none hstate)
  · cases (EventStream.turn_ended hstate h).1
  · obtain ⟨w, fut', r, hpoll, ⟨st, -, hret, -⟩ | ⟨err, -, hret, -⟩ | ⟨rfl, -, rfl⟩⟩ :=
      EventStream.turn_retry hstate h
    · cases hret
    · cases hret
    · rcases RetryFuture.poll_pending hpoll with ⟨duration, hstage, hawake, rfl, rfl⟩ |
        ⟨hstage, hconnect⟩
      · have hsame : ({ s with state := some (.retry fut'), world := s.world } : EventStream T) =
            s := by
          rw [← hstate]
        rw [hsame]
        exact .timer hstate hstage hawake
      · exact .connect hstate hstage hconnect
  · rcases EventStream.turn_active hstate h with ⟨-, hret, -⟩ | ⟨rest, hst, -, rfl⟩ |
      ⟨rest, duration, -, hret, -⟩ | ⟨rest, res, item, -, -, hret, -⟩
    · cases hret
    · exact .decoder hstate hst
    · cases hret
    · cases hret

end Sse
end MevShare
