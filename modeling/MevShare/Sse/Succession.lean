import MevShare.Library.Search
import MevShare.Sse.Trace

/-!
# One connection after the other

The owner of a stream may call `retry` and `retry_with` at any time, and a call may fail,
or be dropped before it is over, and then the stream stays on the connection it was on.  What
`poll_next` yields does not get mixed up by this: a connection that is established takes the
place of the one before at once, and nothing is read of that one any more.

`delivered_in_succession`: in every run, what was yielded are the items of the first
connection as far as it was read, then those of the second, and so on, in the order in which
the connections were established.  A connection that `poll_next` itself has let go, because
it had ended or had said a directive, was read to the end; only a retry by hand leaves
items of a connection unread.

`Trace` says more of a stream that is only polled; here the retries by hand are in.
-/

namespace MevShare
namespace Sse

open Rpc Rust Machine

variable {T : Type} {profile : BuildProfile} {fromSlice : Bytes → Except JsonError T}

/-- What `poll_next` has yielded of the connections, in order. -/
def World.delivered (w : World T) : List (Except SseError T) :=
  w.outputs.filterMap fun out => if out.1.isSome then out.2 else none

/-- A connection, and what was read of it. -/
abbrev Part := Connection × List DecoderPoll

/-- The connections in the order in which they were established, each with what was read of
it; the stream is on the last of them, if it is on any. -/
structure Succession (fromSlice : Bytes → Except JsonError T) (w : World T)
    (current : Option ActiveEventStream) (parts : List Part) : Prop where
  connections : w.connections = parts.map Prod.fst
  reads : ∀ p ∈ parts, p.2 <+: p.1.st ∧ ¬ Directed p.2
  delivered : w.delivered = parts.flatMap fun p => items fromSlice p.2
  left_lt : ∀ j ∈ w.left, j < parts.length
  left : ∀ j ∈ w.left, ∀ p, parts[j]? = some p → items fromSlice p.2 = items fromSlice p.1.st
  current : ∀ st, current = some st → ∃ earlier p, parts = earlier ++ [p] ∧
    p.1.st = p.2 ++ st.st ∧ st.connection = earlier.length ∧ earlier.length ∉ w.left

theorem World.delivered_output (w : World T) (connection : Option ℕ)
    (item : Option (Except SseError T)) :
    (w.output connection item).delivered =
      w.delivered ++ (if connection.isSome then item else none).toList := by
  unfold delivered output
  rw [List.filterMap_append]
  cases connection <;> cases item <;> rfl

namespace Succession

variable {w w' : World T} {current : Option ActiveEventStream} {st : ActiveEventStream}
  {parts : List Part}

theorem idle (h : Succession fromSlice w current parts) : Succession fromSlice w none parts :=
  ⟨h.connections, h.reads, h.delivered, h.left_lt, h.left, fun _ hst => by cases hst⟩

theorem of_eq (h : Succession fromSlice w current parts)
    (hconnections : w'.connections = w.connections) (hdelivered : w'.delivered = w.delivered)
    (hleft : w'.left = w.left) : Succession fromSlice w' current parts := by
  refine ⟨hconnections.trans h.connections, h.reads, hdelivered.trans h.delivered, ?_, ?_, ?_⟩
  · rw [hleft]
    exact h.left_lt
  · rw [hleft]
    exact h.left
  · rw [hleft]
    exact h.current

/-- What is yielded of no connection, and the end of a stream, are no items. -/
theorem output (h : Succession fromSlice w current parts) {connection : Option ℕ}
    {item : Option (Except SseError T)} (hitem : connection = none ∨ item = none) :
    Succession fromSlice (w.output connection item) current parts := by
  refine h.of_eq rfl ?_ rfl
  rw [w.delivered_output]
  rcases hitem with rfl | rfl
  · exact List.append_nil _
  · cases connection <;> exact List.append_nil _

/-- **Reading on.**  One more poll of the last connection, and the item it yields, if
any. -/
theorem advance (h : Succession fromSlice w (some st) parts) {p : DecoderPoll}
    {rest : List DecoderPoll} (hst : st.st = p :: rest)
    (hp : ∀ duration, p ≠ .item (.ok (.retry duration)))
    (hconnections : w'.connections = w.connections) (hleft : w'.left = w.left)
    (hdelivered : w'.delivered = w.delivered ++ items fromSlice [p]) :
    ∃ parts', Succession fromSlice w' (some { st with st := rest }) parts' := by
  obtain ⟨earlier, ⟨c, read⟩, rfl, hc, hconnection, hnot⟩ := h.current st rfl
  have hc' : c.st = (read ++ [p]) ++ rest := by
    rw [List.append_assoc, List.singleton_append, ← hst]
    exact hc
  obtain ⟨-, hread⟩ := h.reads (c, read) (List.mem_append_right _ List.mem_cons_self)
  refine ⟨earlier ++ [(c, read ++ [p])], ?_, ?_, ?_, fun j hj => ?_, fun j hj q hq => ?_,
    fun st' hst' => ?_⟩
  · rw [hconnections, h.connections, List.map_append, List.map_append]
    rfl
  · refine Search.forall_mem_concat (fun q hq => h.reads q (List.mem_append_left _ hq))
      ⟨⟨rest, hc'.symm⟩, not_directed_concat hread hp⟩
  · rw [hdelivered, h.delivered, List.flatMap_append, List.flatMap_append, List.append_assoc,
      List.flatMap_singleton, List.flatMap_singleton, items_append hread]
  · have hlt := h.left_lt j (hleft ▸ hj)
    rw [List.length_append] at hlt ⊢
    exact hlt
  · rw [hleft] at hj
    have hlt := h.left_lt j hj
    rw [List.length_append, List.length_singleton] at hlt
    have hne : j ≠ earlier.length := fun heq => hnot (heq ▸ hj)
    have hj' : j < earlier.length := by omega
    rw [List.getElem?_append_left hj'] at hq
    exact h.left j hj q ((List.getElem?_append_left hj').trans hq)
  · cases hst'
    rw [hleft]
    exact ⟨earlier, (c, read ++ [p]), rfl, hc', hconnection, hnot⟩

/-- **Letting go** of a connection of which nothing more would be yielded. -/
theorem leave (h : Succession fromSlice w (some st) parts) (hst : items fromSlice st.st = []) :
    Succession fromSlice (w.leave st.connection) none parts := by
  obtain ⟨earlier, ⟨c, read⟩, rfl, hc, hconnection, -⟩ := h.current st rfl
  obtain ⟨-, hread⟩ := h.reads (c, read) (List.mem_append_right _ List.mem_cons_self)
  refine ⟨h.connections, h.reads, h.delivered, fun j hj => ?_, fun j hj q hq => ?_,
    fun _ hst' => by cases hst'⟩
  · rcases List.mem_append.mp hj with hj | hj
    · exact h.left_lt j hj
    · rw [List.mem_singleton.mp hj, hconnection, List.length_append]
      exact Nat.lt_succ_self _
  · rcases List.mem_append.mp hj with hj | hj
    · exact h.left j hj q hq
    · rw [List.mem_singleton.mp hj, hconnection, List.getElem?_concat_length] at hq
      cases hq
      show items fromSlice read = items fromSlice c.st
      rw [show c.st = read ++ st.st from hc, items_append hread, hst, List.append_nil]

/-- **A new connection** comes after all the others. -/
theorem connect (h : Succession fromSlice w current parts) (r : Request)
    (script : List DecoderPoll) :
    ∃ parts', Succession fromSlice (w.connect r script).2 (some (w.connect r script).1)
      parts' := by
  have hlength : w.connections.length = parts.length := by
    rw [h.connections, List.length_map]
  refine ⟨parts ++ [(⟨r, script⟩, [])], ?_, ?_, ?_, fun j hj => ?_, fun j hj q hq => ?_,
    fun st hst => ?_⟩
  · show w.connections ++ [⟨r, script⟩] = _
    rw [h.connections, List.map_append]
    rfl
  · refine Search.forall_mem_concat h.reads ⟨List.nil_prefix, ?_⟩
    rintro ⟨duration, hmem⟩
    exact List.not_mem_nil hmem
  · show w.delivered = _
    rw [h.delivered, List.flatMap_append, List.flatMap_singleton]
    exact (List.append_nil _).symm
  · rw [List.length_append]
    exact Nat.lt_add_right 1 (h.left_lt j hj)
  · rw [List.getElem?_append_left (h.left_lt j hj)] at hq
    exact h.left j hj q hq
  · cases hst
    refine ⟨parts, (⟨r, script⟩, []), rfl, rfl, hlength, fun hmem => ?_⟩
    exact Nat.lt_irrefl _ (h.left_lt _ hmem)

end Succession

/-! ## Steps -/

/-- The invariant of a stream. -/
def EventStream.InSuccession (fromSlice : Bytes → Except JsonError T) (s : EventStream T) : Prop :=
  ∃ parts, Succession fromSlice s.world s.current parts

/-- Awaiting `new_stream`: a connection is established or not. -/
theorem pollConnect_inSuccession (fut : RetryFuture) {w : World T} {parts : List Part}
    (hw : Succession fromSlice w none parts) (connect : ConnectPoll) :
    ∃ parts', Succession fromSlice (fut.pollConnect w connect).1
      (fut.pollConnect w connect).2.2.connected parts' := by
  rcases connect with _ | (e | script)
  · exact ⟨parts, hw⟩
  · exact ⟨parts, hw⟩
  · exact hw.connect fut.client.request script

/-- The future of an automatic retry establishes a connection or none. -/
theorem poll_inSuccession {fut fut' : RetryFuture} {obs : RetryPoll} {w w' : World T}
    {r : Poll (Except SseError ActiveEventStream)} {parts : List Part}
    (hw : Succession fromSlice w none parts) (h : fut.poll profile obs w = .ok (w', fut', r)) :
    ∃ parts', Succession fromSlice w' r.connected parts' := by
  rcases RetryFuture.poll_cases h with ⟨rfl, -, rfl⟩ |
    ⟨duration, client, res, -, -, -, ⟨err, -, rfl, -, rfl⟩ | ⟨-, hconnect⟩⟩ | ⟨-, hconnect⟩
  · exact ⟨parts, hw⟩
  · exact ⟨parts, hw⟩
  · have hnew : Succession fromSlice (w.newStream client.request) none parts :=
      hw.of_eq rfl rfl rfl
    have hpoll := pollConnect_inSuccession ⟨.connecting, client⟩ hnew obs.connect
    rw [hconnect] at hpoll
    exact hpoll
  · have hpoll := pollConnect_inSuccession fut hw obs.connect
    rw [hconnect] at hpoll
    exact hpoll

namespace EventStream

/-- **A turn** of `poll_next`. -/
theorem InSuccession.turn {s t : EventStream T} {obs : RetryPoll}
    {ret : Option (Poll (Option (Except SseError T)))} (hs : s.InSuccession fromSlice)
    (h : s.turn profile fromSlice obs = .ok (t, ret)) : t.InSuccession fromSlice := by
  obtain ⟨parts, hs⟩ := hs
  rcases hstate : s.state with _ | _ | fut | st
  · exact absurd h (turn_none hstate)
  · rw [(turn_ended hstate h).2]
    exact ⟨parts, hs.idle.output (Or.inl rfl)⟩
  · obtain ⟨w, fut', r, hpoll, hcases⟩ := turn_retry hstate h
    obtain ⟨parts', hw⟩ := poll_inSuccession hs.idle hpoll
    rcases hcases with ⟨st, rfl, -, rfl⟩ | ⟨err, rfl, -, rfl⟩ | ⟨rfl, -, rfl⟩
    · exact ⟨parts', hw⟩
    · exact ⟨parts', hw.output (Or.inl rfl)⟩
    · exact ⟨parts', hw⟩
  · rw [current_of_active hstate] at hs
    rcases turn_active hstate h with ⟨hst, -, rfl⟩ | ⟨rest, hst, -, rfl⟩ |
      ⟨rest, duration, hst, -, rfl⟩ | ⟨rest, res, item, hst, hitem, -, rfl⟩
    · have hend : items fromSlice st.st = [] := by
        rw [hst]
        rfl
      have hnone : Succession fromSlice (s.world.output (some st.connection) none) (some st)
          parts := hs.output (Or.inr rfl)
      exact ⟨parts, hnone.leave hend⟩
    · refine hs.advance hst nofun rfl rfl ?_
      exact (List.append_nil _).symm
    · have hdirective : items fromSlice st.st = [] := by
        rw [hst]
        rfl
      exact ⟨parts, hs.leave hdirective⟩
    · have hitems : items fromSlice [.item res] = [item] := by
        simp only [items, hitem]
      refine hs.advance hst (fun duration hp => ?_) rfl rfl ?_
      · cases hp
        cases hitem
      · rw [World.delivered_output, hitems]
        rfl

/-- **A retry by hand** gives a new connection, or leaves the stream where it is. -/
theorem InSuccession.retry {s t : EventStream T} {connect : ConnectPoll}
    {ret : Option (Except SseError Unit)} (hs : s.InSuccession fromSlice)
    (h : s.retry profile connect = .ok (t, ret)) : t.InSuccession fromSlice := by
  obtain ⟨parts, hs⟩ := hs
  unfold EventStream.retry at h
  rcases hbegin : s.inner.beginRetry profile with e | ⟨inner, err | _⟩ <;> rw [hbegin] at h
  · cases h
  · cases h
    exact ⟨parts, hs⟩
  · have hnew : Succession fromSlice (s.world.newStream inner.request) s.current parts :=
      hs.of_eq rfl rfl rfl
    rcases connect with _ | (e | script)
    · cases h
      exact ⟨parts, hnew⟩
    · cases h
      exact ⟨parts, hnew⟩
    · cases h
      exact hnew.connect inner.request script

end EventStream

/-- **The step lemma.** -/
theorem step_inSuccession {s t : Session T} {a : Action} (hs : s.stream.InSuccession fromSlice)
    (h : step profile fromSlice s a = .ok t) : t.stream.InSuccession fromSlice := by
  rcases step_cases h with ⟨obs, ret, -, hturn, -⟩ | ⟨connect, ret, -, -, hretry, -⟩ |
    ⟨endpoint, connect, ret, -, -, hretry, -⟩ | ⟨-, -, rfl⟩
  · exact hs.turn hturn
  · exact hs.retry hretry
  · have hs' : EventStream.InSuccession fromSlice
        { s.stream with inner := { s.stream.inner with endpoint := endpoint } } := hs
    exact hs'.retry hretry
  · obtain ⟨parts, hs⟩ := hs
    exact ⟨parts, hs.of_eq rfl rfl rfl⟩

/-- A stream that was just created has read nothing. -/
theorem subscribed_inSuccession (client : EventClient) (endpoint : String) (query : Option String)
    (script : List DecoderPoll) :
    (EventStream.subscribed client endpoint query script : EventStream T).InSuccession
      fromSlice := by
  have hempty : Succession fromSlice (⟨[⟨endpoint, query⟩], 0, [], [], []⟩ : World T) none [] :=
    ⟨rfl, fun p hp => absurd hp List.not_mem_nil, rfl, fun j hj => absurd hj List.not_mem_nil,
      fun j hj => absurd hj List.not_mem_nil, fun st hst => by cases hst⟩
  exact hempty.connect ⟨endpoint, query⟩ script

/-- **One connection after the other.**  In every run of `poll_next` and retries by hand,
what was yielded of the connections are the items of a first part of each, in the order in
which they were established; of those that `poll_next` has let go, all of them. -/
theorem delivered_in_succession {client : EventClient} {endpoint : String} {query : Option String}
    {script : List DecoderPoll} {run : List Action} {s : Session T}
    (h : exec (step profile fromSlice) (Session.start client endpoint query script) run = .ok s) :
    ∃ parts : List Part, s.stream.world.connections = parts.map Prod.fst ∧
      (∀ p ∈ parts, p.2 <+: p.1.st) ∧
      s.stream.world.delivered = parts.flatMap (fun p => items fromSlice p.2) ∧
      ∀ j ∈ s.stream.world.left, ∀ p, parts[j]? = some p →
        items fromSlice p.2 = items fromSlice p.1.st := by
  obtain ⟨parts, hparts⟩ := exec_invariant
    (I := fun s : Session T => s.stream.InSuccession fromSlice)
    (fun _ _ _ hs hstep => step_inSuccession hs hstep)
    (subscribed_inSuccession client endpoint query script) h
  exact ⟨parts, hparts.connections, fun p hp => (hparts.reads p hp).1, hparts.delivered,
    hparts.left⟩

/-- A retry by hand while the first connection has more to say, one that fails, and a
directive. -/
def switchingRun : List Action :=
  [.turn ⟨false, .pending⟩, .retry (.ready (.error ⟨"refused"⟩)), .turn ⟨false, .pending⟩,
    .retryWith "/other" (.ready (.ok [.item (.ok (.message [51])), .item (.ok (.retry 0))])),
    .turn ⟨false, .pending⟩, .turn ⟨false, .pending⟩,
    .turn ⟨true, .ready (.ok [.item (.ok (.message [52]))])⟩, .turn ⟨false, .pending⟩]

theorem delivered_in_succession_switchingRun :
    ∃ s, exec (step ⟨true⟩ Except.ok) (Session.start EventClient.new "/" none
        [.item (.ok (.message [49])), .item (.ok (.message [50])),
          .item (.ok (.message [53]))]) switchingRun = .ok s ∧
      s.stream.world.delivered = [.ok [49], .ok [50], .ok [51], .ok [52]] ∧
      ∃ parts : List Part, s.stream.world.connections = parts.map Prod.fst ∧
        (∀ p ∈ parts, p.2 <+: p.1.st) ∧
        s.stream.world.delivered = parts.flatMap (fun p => items Except.ok p.2) ∧
        ∀ j ∈ s.stream.world.left, ∀ p, parts[j]? = some p →
          items Except.ok p.2 = items Except.ok p.1.st := by
  have hrun : ∃ s, exec (step ⟨true⟩ Except.ok) (Session.start EventClient.new "/" none
      [.item (.ok (.message [49])), .item (.ok (.message [50])),
        .item (.ok (.message [53]))]) switchingRun = .ok s ∧
      s.stream.world.delivered = [.ok [49], .ok [50], .ok [51], .ok [52]] := ⟨_, rfl, rfl⟩
  obtain ⟨s, hs, hdelivered⟩ := hrun
  exact ⟨s, hs, hdelivered, delivered_in_succession hs⟩

end Sse
end MevShare
