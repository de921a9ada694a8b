import MevShare.Sse.Client

/-!
# The endpoint of a stream

A stream has its endpoint in `inner`, beside its connection and not with it.
`endpoint()` reads the one, items come from the other.

`Consistent` says that they agree: the connection was opened to the endpoint, and a
pending retry will connect to it.  An automatic retry captures a clone of `inner`, and a
retry by hand that gives a connection opens it to the endpoint of `inner`, so that both
keep it.  `retry_with` does not: it sets the endpoint first and retries then, and where
no connection comes of that, the endpoint is not set back.  So a failed `retry_with` is
not atomic, unless it was given the endpoint that the stream had.

`endpoint_consistent_iff` has this for runs: the two agree in every state, and every call
that fails leaves both as they were, exactly if every `retry_with` is `Settled`.
-/

namespace MevShare
namespace Sse

open Rpc Rust Machine

variable {T : Type} {profile : BuildProfile} {fromSlice : Bytes → Except JsonError T}

/-! ## Consistency and atomicity -/

/-- The endpoint of the stream is the one of its connection, and of its pending retry; and
every call of `new_stream` has the query of the subscription. -/
structure EventStream.Consistent (query : Option String) (s : EventStream T) : Prop where
  active : ∀ st, s.state = some (.active st) →
    ∃ c, s.world.connections[st.connection]? = some c ∧ c.request = ⟨s.endpoint, query⟩
  retry : ∀ fut, s.state = some (.retry fut) → fut.client.request = ⟨s.endpoint, query⟩
  inner_query : s.inner.query = query
  requests : ∀ r ∈ s.world.requests, r.query = query

/-- A call of `retry` or `retry_with` that fails leaves the endpoint and the state of the
connection as they were. -/
def Session.Atomic (profile : BuildProfile) (s : Session T) : Action → Prop
  | .retry connect => ∀ t err, s.stream.retry profile connect = .ok (t, some (.error err)) →
      t.endpoint = s.stream.endpoint ∧ t.state = s.stream.state
  | .retryWith endpoint connect => ∀ t err,
      s.stream.retryWith profile endpoint connect = .ok (t, some (.error err)) →
        t.endpoint = s.stream.endpoint ∧ t.state = s.stream.state
  | _ => True

/-- The budget allows one more retry. -/
def EventStreamInner.MayRetry (i : EventStreamInner) : Prop :=
  ∀ m, i.client.maxRetries = some m → i.numRetries + 1 ≤ m

/-- The stream is on no connection and is not about to be. -/
def EventStream.Detached (s : EventStream T) : Prop :=
  s.state = none ∨ s.state = some .ended

/-- A `retry_with` that breaks nothing: it has the endpoint of the stream, or it gives a
connection, or the caller drops it while there is no connection to disagree with. -/
def Session.Settled (s : Session T) : Action → Prop
  | .retryWith endpoint connect => endpoint = s.stream.endpoint ∨
      s.stream.inner.MayRetry ∧ match connect with
        | .pending => s.stream.Detached
        | .ready (.ok _) => True
        | .ready (.error _) => False
  | _ => True

/-! ## Retries -/

/-- The first part of a retry: it counts, and it is refused where the budget does not
allow it. -/
theorem beginRetry_cases {i i' : EventStreamInner} {r : Except SseError Unit}
    (h : i.beginRetry profile = .ok (i', r)) :
    i' = { i with numRetries := i.numRetries + 1 } ∧
      ((∃ err, r = .error err ∧ ¬ i.MayRetry) ∨ r = .ok () ∧ i.MayRetry) := by
  obtain ⟨hi, ⟨m, hmax, hlt, hr⟩ | ⟨hmay, hr⟩⟩ := EventStreamInner.beginRetry_spec h
  · exact ⟨hi, Or.inl ⟨_, hr, fun hmay => UInt64.not_le.mpr hlt (hmay m hmax)⟩⟩
  · exact ⟨hi, Or.inr ⟨hr, hmay⟩⟩

/-- **What a retry by hand can do.**  It is refused, it is dropped, it fails, or it gives a
connection to the endpoint of the stream. -/
theorem EventStream.retry_cases {s t : EventStream T} {connect : ConnectPoll}
    {ret : Option (Except SseError Unit)} (h : s.retry profile connect = .ok (t, ret)) :
    (∃ err, ret = some (.error err) ∧ ¬ s.inner.MayRetry ∧
        t = { s with inner := { s.inner with numRetries := s.inner.numRetries + 1 } }) ∨
      s.inner.MayRetry ∧
        ((connect = .pending ∧ ret = none ∧ t = { s with
            inner := { s.inner with numRetries := s.inner.numRetries + 1 }
            world := s.world.newStream s.inner.request }) ∨
          (∃ e, connect = .ready (.error e) ∧ ret = some (.error (.retryError e)) ∧ t = { s with
            inner := { s.inner with numRetries := s.inner.numRetries + 1 }
            world := s.world.newStream s.inner.request }) ∨
          ∃ script, connect = .ready (.ok script) ∧ ret = some (.ok ()) ∧ t =
            { inner := { s.inner with numRetries := s.inner.numRetries + 1 }
              state := some (.active ⟨s.world.connections.length, script⟩)
              world := ((s.world.newStream s.inner.request).connect s.inner.request script).2 }) := by
  unfold EventStream.retry at h
  cases hbegin : s.inner.beginRetry profile with
  | error e =>
    rw [hbegin] at h
    cases h
  | ok x =>
    obtain ⟨inner, r⟩ := x
    obtain ⟨rfl, ⟨err, rfl, hmay⟩ | ⟨rfl, hmay⟩⟩ := beginRetry_cases hbegin
    · rw [hbegin] at h
      cases h
      exact Or.inl ⟨err, rfl, hmay, rfl⟩
    · rw [hbegin] at h
      rcases connect with _ | (e | script)
      · cases h
        exact Or.inr ⟨hmay, Or.inl ⟨rfl, rfl, rfl⟩⟩
      · cases h
        exact Or.inr ⟨hmay, Or.inr (Or.inl ⟨e, rfl, rfl, rfl⟩)⟩
      · cases h
        exact Or.inr ⟨hmay, Or.inr (Or.inr ⟨script, rfl, rfl, rfl⟩)⟩

namespace EventStream.Consistent

variable {query : Option String} {s t : EventStream T}

/-- The stream keeps its endpoint, state and connections; the calls of `new_stream` that
come to it have the query. -/
theorem of_eq (hs : s.Consistent query) (hendpoint : t.endpoint = s.endpoint)
    (hquery : t.inner.query = s.inner.query) (hstate : t.state = s.state)
    (hconnections : t.world.connections = s.world.connections)
    (hrequests : ∀ r ∈ t.world.requests, r ∈ s.world.requests ∨ r.query = query) :
    t.Consistent query where
  active st hst := by
    rw [hstate] at hst
    rw [hconnections, hendpoint]
    exact hs.active st hst
  retry fut hfut := by
    rw [hstate] at hfut
    rw [hendpoint]
    exact hs.retry fut hfut
  inner_query := by rw [hquery, hs.inner_query]
  requests r hr := by
    rcases hrequests r hr with hr | hr
    · exact hs.requests r hr
    · exact hr

theorem mem_newStream {w : World T} {r r' : Request} (h : r' ∈ (w.newStream r).requests) :
    r' ∈ w.requests ∨ r' = r :=
  (List.mem_append.mp h).imp_right List.mem_singleton.mp

/-- A connection is opened to the endpoint. -/
theorem connected {w : World T} {inner : EventStreamInner} {r : Request}
    {script : List DecoderPoll} (hr : r = ⟨inner.endpoint, query⟩) (hquery : inner.query = query)
    (hrequests : ∀ r' ∈ w.requests, r'.query = query) :
    ({ inner := inner, state := some (.active (w.connect r script).1),
       world := (w.connect r script).2 } : EventStream T).Consistent query where
  active st hst := by
    cases hst
    exact ⟨⟨r, script⟩, List.getElem?_concat_length, hr⟩
  retry fut hfut := by cases hfut
  inner_query := hquery
  requests := hrequests

/-- Without a connection there is nothing to disagree with. -/
theorem detached (ht : t.Detached) (hquery : t.inner.query = query)
    (hrequests : ∀ r ∈ t.world.requests, r.query = query) : t.Consistent query where
  active st hst := by
    rcases ht with ht | ht <;> rw [ht] at hst <;> cases hst
  retry fut hfut := by
    rcases ht with ht | ht <;> rw [ht] at hfut <;> cases hfut
  inner_query := hquery
  requests := hrequests

end EventStream.Consistent

/-! ## Turns -/

/-- The future of an automatic retry asks for what it has captured, and connects to it. -/
theorem RetryFuture.poll_request {fut fut' : RetryFuture} {obs : RetryPoll} {w w' : World T}
    {r : Poll (Except SseError ActiveEventStream)}
    (h : fut.poll profile obs w = .ok (w', fut', r)) :
    fut'.client.request = fut.client.request ∧
      (∀ r' ∈ w'.requests, r' ∈ w.requests ∨ r' = fut.client.request) ∧
      ∀ st, r = .ready (.ok st) → ∃ w₁ script, st = (World.connect w₁ fut.client.request script).1 ∧
        w' = (w₁.connect fut.client.request script).2 := by
  have hconnect : ∀ {fut₁ fut₂ : RetryFuture} {w₁ w₂ : World T} {connect : ConnectPoll},
      fut₁.pollConnect w₁ connect = (w₂, fut₂, r) → fut₂ = fut₁ ∧ w₂.requests = w₁.requests ∧
        ∀ st, r = .ready (.ok st) → ∃ script, st = (w₁.connect fut₁.client.request script).1 ∧
          w₂ = (w₁.connect fut₁.client.request script).2 := by
    intro fut₁ fut₂ w₁ w₂ connect hpoll
    rcases connect with _ | (e | script)
    · cases hpoll
      exact ⟨rfl, rfl, fun st hst => by cases hst⟩
    · cases hpoll
      exact ⟨rfl, rfl, fun st hst => by cases hst⟩
    · cases hpoll
      refine ⟨rfl, rfl, fun st hst => ⟨script, ?_, rfl⟩⟩
      cases hst
      rfl
  rcases poll_cases h with ⟨rfl, rfl, rfl⟩ |
    ⟨duration, client, res, -, -, hbegin, ⟨err, -, rfl, rfl, rfl⟩ | ⟨-, hpoll⟩⟩ | ⟨-, hpoll⟩
  · exact ⟨rfl, fun r' hr' => Or.inl hr', fun st hst => by cases hst⟩
  · obtain ⟨rfl, -⟩ := beginRetry_cases hbegin
    exact ⟨rfl, fun r' hr' => Or.inl hr', fun st hst => by cases hst⟩
  · obtain ⟨rfl, -⟩ := beginRetry_cases hbegin
    obtain ⟨rfl, hrequests, hready⟩ := hconnect hpoll
    refine ⟨rfl, fun r' hr' => ?_, fun st hst => ?_⟩
    · rw [hrequests] at hr'
      exact EventStream.Consistent.mem_newStream hr'
    · obtain ⟨script, hscript⟩ := hready st hst
      exact ⟨_, script, hscript⟩
  · obtain ⟨rfl, hrequests, hready⟩ := hconnect hpoll
    refine ⟨rfl, fun r' hr' => ?_, fun st hst => ?_⟩
    · rw [hrequests] at hr'
      exact Or.inl hr'
    · obtain ⟨script, hscript⟩ := hready st hst
      exact ⟨w, script, hscript⟩

/-- **A turn** keeps the endpoint with the connection. -/
theorem EventStream.Consistent.turn {query : Option String} {s t : EventStream T}
    {obs : RetryPoll} {ret : Option (Poll (Option (Except SseError T)))}
    (hs : s.Consistent query) (h : s.turn profile fromSlice obs = .ok (t, ret)) :
    t.Consistent query := by
  rcases hstate : s.state with _ | _ | fut | st
  · exact absurd h (turn_none hstate)
  · rw [(turn_ended hstate h).2]
    exact detached (Or.inl rfl) hs.inner_query hs.requests
  · obtain ⟨w, fut', r, hpoll, hcases⟩ := turn_retry hstate h
    obtain ⟨hclient, hrequests, hready⟩ := RetryFuture.poll_request hpoll
    have hfut := hs.retry fut hstate
    have hw : ∀ r' ∈ w.requests, r'.query = query := by
      intro r' hr'
      rcases hrequests r' hr' with hr' | rfl
      · exact hs.requests r' hr'
      · rw [hfut]
    rcases hcases with ⟨st, rfl, -, rfl⟩ | ⟨err, rfl, -, rfl⟩ | ⟨rfl, -, rfl⟩
    · obtain ⟨w₁, script, rfl, rfl⟩ := hready st rfl
      have hw₁ : ∀ r' ∈ w₁.requests, r'.query = query := hw
      exact connected hfut hs.inner_query hw₁
    · exact detached (Or.inr rfl) hs.inner_query hw
    · refine ⟨(fun st hst => by cases hst), fun fut₁ hfut₁ => ?_, hs.inner_query, hw⟩
      cases hfut₁
      exact hclient.trans hfut
  · obtain ⟨c, hc, hrequest⟩ := hs.active st hstate
    rcases turn_active hstate h with ⟨-, -, rfl⟩ | ⟨rest, -, -, rfl⟩ |
      ⟨rest, duration, -, -, rfl⟩ | ⟨rest, res, item, -, -, -, rfl⟩
    · exact detached (Or.inr rfl) hs.inner_query hs.requests
    · refine ⟨fun st' hst => ?_, (fun fut hfut => by cases hfut), hs.inner_query, hs.requests⟩
      cases hst
      exact ⟨c, hc, hrequest⟩
    · refine ⟨(fun st' hst => by cases hst), fun fut hfut => ?_, hs.inner_query, hs.requests⟩
      -- the clone of `inner` has its endpoint and its query
      cases hfut
      exact congrArg (Request.mk s.endpoint) hs.inner_query
    · refine ⟨fun st' hst => ?_, (fun fut hfut => by cases hfut), hs.inner_query, hs.requests⟩
      cases hst
      exact ⟨c, hc, hrequest⟩

/-! ## Retries by hand -/

theorem EventStream.Consistent.request_eq {query : Option String} {s : EventStream T}
    (hs : s.Consistent query) : s.inner.request = ⟨s.endpoint, query⟩ :=
  congrArg (Request.mk s.endpoint) hs.inner_query

/-- **A retry** keeps the endpoint with the connection, and if it fails it changes
neither. -/
theorem EventStream.Consistent.retry_call {query : Option String} {s t : EventStream T}
    {connect : ConnectPoll} {ret : Option (Except SseError Unit)} (hs : s.Consistent query)
    (h : s.retry profile connect = .ok (t, ret)) :
    t.Consistent query ∧ t.endpoint = s.endpoint ∧
      (∀ err, ret = some (.error err) → t.state = s.state) := by
  have hnew : ∀ r ∈ (s.world.newStream s.inner.request).requests,
      r ∈ s.world.requests ∨ r.query = query := by
    intro r hr
    rcases mem_newStream hr with hr | rfl
    · exact Or.inl hr
    · exact Or.inr hs.inner_query
  rcases EventStream.retry_cases h with ⟨err, rfl, -, rfl⟩ |
    ⟨-, ⟨-, rfl, rfl⟩ | ⟨e, -, rfl, rfl⟩ | ⟨script, -, rfl, rfl⟩⟩
  · exact ⟨hs.of_eq rfl rfl rfl rfl fun r hr => Or.inl hr, rfl, fun _ _ => rfl⟩
  · exact ⟨hs.of_eq rfl rfl rfl rfl hnew, rfl, fun _ _ => rfl⟩
  · exact ⟨hs.of_eq rfl rfl rfl rfl hnew, rfl, fun _ _ => rfl⟩
  · have hw : ∀ r ∈ (s.world.newStream s.inner.request).requests, r.query = query :=
      fun r hr => (hnew r hr).elim (hs.requests r) id
    refine ⟨connected ?_ ?_ hw, rfl, fun err herr => by cases herr⟩
    · exact hs.request_eq
    · exact hs.inner_query

/-- A future that is dropped leaves the new endpoint behind: the stream is consistent
only if it has no connection. -/
theorem EventStream.Consistent.dropped_iff {query : Option String} {s : EventStream T}
    (hs : s.Consistent query) {endpoint : String} (hne : endpoint ≠ s.endpoint) {n : U64}
    {w : World T} (hconnections : w.connections = s.world.connections)
    (hrequests : ∀ r ∈ w.requests, r.query = query) :
    ({ s with inner := { s.inner with endpoint := endpoint, numRetries := n }, world := w } :
      EventStream T).Consistent query ↔ s.Detached := by
  constructor
  · intro ht
    rcases hstate : s.state with _ | _ | fut | st
    · exact Or.inl hstate
    · exact Or.inr hstate
    · have hnew : fut.client.request = ⟨endpoint, query⟩ := ht.retry fut hstate
      rw [hs.retry fut hstate, Request.mk.injEq] at hnew
      exact absurd hnew.1.symm hne
    · obtain ⟨c, hc, hrequest⟩ := hs.active st hstate
      obtain ⟨c', hc', hrequest'⟩ := ht.active st hstate
      replace hc' : w.connections[st.connection]? = some c' := hc'
      rw [hconnections, hc] at hc'
      cases hc'
      rw [hrequest, Request.mk.injEq] at hrequest'
      exact absurd hrequest'.1.symm hne
  · intro hdetached
    exact detached hdetached hs.inner_query hrequests

/-- **A `retry_with`** to another endpoint. -/
theorem retryWith_iff {query : Option String} {s : Session T} {t : EventStream T}
    {endpoint : String} {connect : ConnectPoll} {ret : Option (Except SseError Unit)}
    (hs : s.stream.Consistent query) (hne : endpoint ≠ s.stream.endpoint)
    (h : s.stream.retryWith profile endpoint connect = .ok (t, ret)) :
    t.Consistent query ∧ s.Atomic profile (.retryWith endpoint connect) ↔
      s.Settled (.retryWith endpoint connect) := by
  have hrequests : ∀ r ∈ (s.stream.world.newStream ⟨endpoint, s.stream.inner.query⟩).requests,
      r.query = query := by
    intro r hr
    rcases EventStream.Consistent.mem_newStream hr with hr | rfl
    · exact hs.requests r hr
    · exact hs.inner_query
  -- a call that fails has set the endpoint, and is not atomic
  have hfails : ∀ {t : EventStream T} {err},
      s.stream.retryWith profile endpoint connect = .ok (t, some (.error err)) →
      t.endpoint = endpoint → ¬ s.Atomic profile (.retryWith endpoint connect) :=
    fun herr ht hatomic => hne (ht.symm.trans (hatomic _ _ herr).1)
  have hreturns : ∀ {r : Option (Except SseError Unit)},
      s.stream.retryWith profile endpoint connect = .ok (t, r) → (∀ err, r ≠ some (.error err)) →
      s.Atomic profile (.retryWith endpoint connect) := by
    intro r hret hr t' err herr
    rw [hret] at herr
    cases herr
    exact absurd rfl (hr err)
  have hcall := h
  rcases EventStream.retry_cases h with ⟨err, rfl, hmay, rfl⟩ |
    ⟨hmay, ⟨rfl, rfl, rfl⟩ | ⟨e, rfl, rfl, rfl⟩ | ⟨script, rfl, rfl, rfl⟩⟩
  · refine ⟨fun hboth => absurd hboth.2 (hfails hcall rfl), ?_⟩
    rintro (heq | ⟨hmay', -⟩)
    · exact absurd heq hne
    · exact absurd hmay' hmay
  · have hiff := hs.dropped_iff (n := s.stream.inner.numRetries + 1)
      (w := s.stream.world.newStream ⟨endpoint, s.stream.inner.query⟩) hne rfl hrequests
    have hatomic := hreturns hcall fun err herr => by cases herr
    refine ⟨fun hboth => Or.inr ⟨hmay, hiff.mp hboth.1⟩, ?_⟩
    rintro (heq | ⟨-, hdetached⟩)
    · exact absurd heq hne
    · exact ⟨hiff.mpr hdetached, hatomic⟩
  · refine ⟨fun hboth => absurd hboth.2 (hfails hcall rfl), ?_⟩
    rintro (heq | ⟨-, hfalse⟩)
    · exact absurd heq hne
    · exact hfalse.elim
  · have hatomic := hreturns hcall fun err herr => by cases herr
    have hrequest : (⟨endpoint, s.stream.inner.query⟩ : Request) = ⟨endpoint, query⟩ := by
      rw [hs.inner_query]
    refine ⟨fun _ => Or.inr ⟨hmay, trivial⟩, fun _ =>
      ⟨EventStream.Consistent.connected hrequest ?_ hrequests, hatomic⟩⟩
    exact hs.inner_query

/-! ## Runs -/

/-- **The step lemma.** -/
theorem step_consistent_iff {query : Option String} {s t : Session T} {a : Action}
    (hs : s.stream.Consistent query) (h : step profile fromSlice s a = .ok t) :
    t.stream.Consistent query ∧ s.Atomic profile a ↔ s.Settled a := by
  rcases step_cases h with ⟨obs, ret, rfl, hturn, -⟩ | ⟨connect, ret, rfl, -, hretry, -⟩ |
    ⟨endpoint, connect, ret, rfl, -, hretry, -⟩ | ⟨rfl, -, rfl⟩
  · exact ⟨fun _ => trivial, fun _ => ⟨hs.turn hturn, trivial⟩⟩
  · refine ⟨fun _ => trivial, fun _ => ⟨(hs.retry_call hretry).1, fun t' err herr => ?_⟩⟩
    obtain ⟨-, hendpoint, hstate⟩ := hs.retry_call herr
    exact ⟨hendpoint, hstate err rfl⟩
  · by_cases hne : endpoint = s.stream.endpoint
    · -- the endpoint that the stream has: the call is a `retry`
      subst hne
      refine ⟨fun _ => Or.inl rfl, fun _ => ⟨(hs.retry_call hretry).1, fun t' err herr => ?_⟩⟩
      obtain ⟨-, hendpoint, hstate⟩ := hs.retry_call herr
      exact ⟨hendpoint, hstate err rfl⟩
    · exact retryWith_iff hs hne hretry
  · exact ⟨fun _ => trivial, fun _ =>
      ⟨hs.of_eq rfl rfl rfl rfl fun r hr => Or.inl hr, trivial⟩⟩

theorem subscribed_consistent (client : EventClient) (endpoint : String) (query : Option String)
    (script : List DecoderPoll) :
    (EventStream.subscribed client endpoint query script : EventStream T).Consistent query where
  active st hst := by
    cases hst
    exact ⟨_, rfl, rfl⟩
  retry fut hfut := by cases hfut
  inner_query := rfl
  requests r hr := by
    rw [List.mem_singleton.mp hr]

/-- **The endpoint is that of the connection, exactly.**  In every run, the endpoint of the
stream agrees with its connection and its pending retry in every state, and every call of
`retry` or `retry_with` that fails leaves both as they were, if and only if every call of
`retry_with` is settled. -/
theorem endpoint_consistent_iff {client : EventClient} {endpoint : String}
    {query : Option String} {script : List DecoderPoll} {run : List Action} {s : Session T}
    (h : exec (step profile fromSlice) (Session.start client endpoint query script) run = .ok s) :
    Along (step profile fromSlice) (Session.start client endpoint query script) run
          (fun t => t.stream.Consistent query) ∧
        StepsMeet (step profile fromSlice) (Session.start client endpoint query script) run
          (Session.Atomic profile) ↔
      StepsMeet (step profile fromSlice) (Session.start client endpoint query script) run
        Session.Settled :=
  along_and_stepsMeet_iff (I := fun t : Session T => t.stream.Consistent query)
    (fun _ _ _ hs hstep => step_consistent_iff hs hstep)
    (subscribed_consistent client endpoint query script) h

/-- A retry with another endpoint, to which no connection can be established. -/
def strayRun : List Action := [.retryWith "/other" (.ready (.error ⟨"refused"⟩))]

theorem endpoint_consistent_iff_strayRun :
    Along (step ⟨true⟩ Except.ok) (Session.start EventClient.new "/" none []) strayRun
          (fun t => t.stream.Consistent none) ∧
        StepsMeet (step ⟨true⟩ Except.ok) (Session.start EventClient.new "/" none []) strayRun
          (Session.Atomic ⟨true⟩) ↔
      StepsMeet (step ⟨true⟩ Except.ok) (Session.start EventClient.new "/" none []) strayRun
        Session.Settled := by
  obtain ⟨s, hs⟩ : ∃ s, exec (step ⟨true⟩ Except.ok) (Session.start EventClient.new "/" none [])
      strayRun = .ok s := ⟨_, rfl⟩
  exact endpoint_consistent_iff hs

/-- After the run above, the stream is still on its first connection, and its endpoint is
the other one. -/
theorem strayRun_not_consistent :
    ∃ s, exec (step ⟨true⟩ Except.ok) (Session.start EventClient.new "/" none []) strayRun =
        .ok s ∧
      s.stream.endpoint = "/other" ∧ ¬ s.stream.Consistent none ∧
      ¬ (Session.start EventClient.new "/" none [] : Session Bytes).Atomic ⟨true⟩
        (.retryWith "/other" (.ready (.error ⟨"refused"⟩))) := by
  refine ⟨_, rfl, rfl, fun hconsistent => ?_, fun hatomic => ?_⟩
  · obtain ⟨c, hc, hrequest⟩ := hconsistent.active _ rfl
    cases hc
    exact absurd hrequest (by decide)
  · exact absurd (hatomic _ _ rfl).1 (by decide)

end Sse
end MevShare
