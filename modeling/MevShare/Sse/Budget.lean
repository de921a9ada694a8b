import MevShare.Sse.Client

/-!
# The reconnect budget

`max_retries` is meant to bound the reconnections of a stream.  The count is kept
in `EventStreamInner`, and there are two kinds of retries.

* `retry` and `retry_with` count on the `inner` of the stream.
* An automatic retry clones `inner` into its future and counts on the clone.  The
  clone is dropped with the future, and the count with it.

So an automatic retry that opens a connection is free, and a server that begins
every connection with a retry directive is reconnected to for ever
(`freeRun_over_budget`).  Where no automatic retry opens a connection, which is
where the clone has used up the budget already, the budget is kept
(`reconnects_within_budget`); and as soon as one could open a connection, the run
can go on past the budget (`Session.Counted.exceeds`).

The other way to leave the budget is a counter that wraps around.
-/

namespace MevShare
namespace Sse

open Rpc Rust Machine

variable {T : Type} {profile : BuildProfile} {fromSlice : Bytes → Except JsonError T}

/-! ## Attempts -/

/-- The counter has room for one more attempt. -/
def CanCount (c : U64) : Prop := c.toNat + 1 < UInt64.size

instance (c : U64) : Decidable (CanCount c) := inferInstanceAs (Decidable (_ < _))

/-- The counter that a step reads, if it attempts a retry. -/
def Session.attempt (s : Session T) : Action → Option U64
  | .turn obs =>
      match s.stream.state with
      | some (.retry fut) =>
          match fut.stage with
          | .sleeping _ => if obs.awake then some fut.client.numRetries else none
          | .connecting => none
      | _ => none
  | .retry _ => if s.polling then none else some s.stream.inner.numRetries
  | .retryWith _ _ => if s.polling then none else some s.stream.inner.numRetries
  | .resetRetries => none

def Action.isTurn : Action → Bool
  | .turn _ => true
  | _ => false

/-- What `retry` does before it calls `new_stream`. -/
theorem beginRetry_eq {i : EventStreamInner} {m : U64} (hmax : i.client.maxRetries = some m)
    (hcount : CanCount i.numRetries) :
    i.beginRetry profile = .ok ({ i with numRetries := i.numRetries + 1 },
      if m < i.numRetries + 1 then .error (.maxRetriesExceeded m) else .ok ()) := by
  have hadd : profile.addU64 i.numRetries 1 = .ok (i.numRetries + 1) :=
    profile.addU64_of_lt hcount
  unfold EventStreamInner.beginRetry
  rw [hadd]
  simp only [hmax, gt_iff_lt]
  by_cases h : m < i.numRetries + 1
  · rw [if_pos h, if_pos h]
  · rw [if_neg h, if_neg h]

theorem toNat_add_one {c : U64} (h : CanCount c) : (c + 1).toNat = c.toNat + 1 := by
  rw [UInt64.toNat_add]
  exact Nat.mod_eq_of_lt h

/-- The limit is tested after the count. -/
theorem lt_add_one_iff {m c : U64} (h : CanCount c) : m < c + 1 ↔ m ≤ c := by
  rw [UInt64.lt_iff_toNat_lt, UInt64.le_iff_toNat_le, toNat_add_one h]
  exact Nat.lt_succ_iff

/-- `retry` changes nothing of `inner` but the count. -/
theorem beginRetry_client {i i' : EventStreamInner} {r : Except SseError Unit}
    (h : i.beginRetry profile = .ok (i', r)) : i'.client = i.client := by
  rw [(EventStreamInner.beginRetry_spec h).1]

/-! ## Automatic retries -/

theorem pollConnect_opened (fut : RetryFuture) (w : World T) (connect : ConnectPoll) :
    (fut.pollConnect w connect).1.opened = w.opened ∧
      (fut.pollConnect w connect).2.1 = fut := by
  cases connect with
  | pending => exact ⟨rfl, rfl⟩
  | ready res => cases res <;> exact ⟨rfl, rfl⟩

/-- The future of an automatic retry opens a connection only when it wakes, and
it keeps its client. -/
theorem poll_opened {fut fut' : RetryFuture} {obs : RetryPoll} {w w' : World T}
    {r : Poll (Except SseError ActiveEventStream)}
    (h : fut.poll profile obs w = .ok (w', fut', r)) :
    fut'.client.client = fut.client.client ∧
      (w'.opened = w.opened ∨
        ∃ duration client, fut.stage = .sleeping duration ∧ obs.awake = true ∧
          fut.client.beginRetry profile = .ok (client, .ok ())) := by
  rcases RetryFuture.poll_cases h with ⟨rfl, rfl, -⟩ |
    ⟨duration, client, res, hstage, hawake, hbegin, ⟨err, -, rfl, rfl, -⟩ | ⟨rfl, hconnect⟩⟩ |
    ⟨-, hconnect⟩
  · exact ⟨rfl, Or.inl rfl⟩
  · exact ⟨beginRetry_client hbegin, Or.inl rfl⟩
  · obtain ⟨-, hfut⟩ := pollConnect_opened (⟨.connecting, client⟩ : RetryFuture)
      (w.newStream client.request) obs.connect
    rw [hconnect] at hfut
    have hsame : fut' = ⟨.connecting, client⟩ := hfut
    refine ⟨?_, Or.inr ⟨duration, client, hstage, hawake, hbegin⟩⟩
    rw [hsame]
    exact beginRetry_client hbegin
  · obtain ⟨hopened, hfut⟩ := pollConnect_opened fut w obs.connect
    rw [hconnect] at hopened hfut
    have hsame : fut' = fut := hfut
    exact ⟨by rw [hsame], Or.inl hopened⟩

/-- **What a turn does to the count.**  It leaves the counter of the stream; a
future that it leaves behind has a client that was there before; and it opens a
connection only in the future of an automatic retry. -/
theorem turn_cases {s t : EventStream T} {obs : RetryPoll}
    {res : Option (Poll (Option (Except SseError T)))}
    (h : s.turn profile fromSlice obs = .ok (t, res)) :
    t.inner = s.inner ∧
      (∀ fut', t.state = some (.retry fut') → fut'.client.client = s.inner.client ∨
        ∃ fut, s.state = some (.retry fut) ∧ fut'.client.client = fut.client.client) ∧
      (t.world.opened = s.world.opened ∨
        ∃ fut duration client, s.state = some (.retry fut) ∧ fut.stage = .sleeping duration ∧
          obs.awake = true ∧ fut.client.beginRetry profile = .ok (client, .ok ())) := by
  cases hstate : s.state with
  | none => exact absurd h (EventStream.turn_none hstate)
  | some st =>
    cases st with
    | ended =>
      rw [(EventStream.turn_ended hstate h).2]
      exact ⟨rfl, (fun fut' hfut => by cases hfut), Or.inl rfl⟩
    | retry fut =>
      obtain ⟨w, fut₁, r, hpoll, hcases⟩ := EventStream.turn_retry hstate h
      obtain ⟨hclient, hopened⟩ := poll_opened hpoll
      have hopened' : w.opened = s.world.opened ∨
          ∃ fut₀ duration client, some (State.retry fut) = some (.retry fut₀) ∧
            fut₀.stage = .sleeping duration ∧ obs.awake = true ∧
            fut₀.client.beginRetry profile = .ok (client, .ok ()) := by
        refine hopened.imp_right ?_
        rintro ⟨duration, client, hstage, hawake, hbegin⟩
        exact ⟨fut, duration, client, rfl, hstage, hawake, hbegin⟩
      rcases hcases with ⟨st, -, -, rfl⟩ | ⟨err, -, -, rfl⟩ | ⟨-, -, rfl⟩
      · exact ⟨rfl, (fun fut' hfut => by cases hfut), hopened'⟩
      · exact ⟨rfl, (fun fut' hfut => by cases hfut), hopened'⟩
      · refine ⟨rfl, fun fut' hfut => ?_, hopened'⟩
        cases hfut
        exact Or.inr ⟨fut, rfl, hclient⟩
    | active st =>
      rcases EventStream.turn_active hstate h with ⟨-, -, rfl⟩ | ⟨rest, -, -, rfl⟩ |
        ⟨rest, duration, -, -, rfl⟩ | ⟨rest, res, item, -, -, -, rfl⟩
      · exact ⟨rfl, (fun fut' hfut => by cases hfut), Or.inl rfl⟩
      · exact ⟨rfl, (fun fut' hfut => by cases hfut), Or.inl rfl⟩
      · refine ⟨rfl, fun fut' hfut => ?_, Or.inl rfl⟩
        cases hfut
        exact Or.inl rfl
      · exact ⟨rfl, (fun fut' hfut => by cases hfut), Or.inl rfl⟩

/-! ## The invariant -/

/-- The counter of the stream counts the connections that were opened, and goes on
counting where they stop. -/
structure Session.Counted (m : U64) (s : Session T) : Prop where
  limit : s.stream.inner.client.maxRetries = some m
  futureLimit : ∀ fut, s.stream.state = some (.retry fut) →
    fut.client.client.maxRetries = some m
  opened_eq : s.stream.world.opened = min s.stream.inner.numRetries.toNat m.toNat

/-- If the step attempts a retry, the counter it reads has room; and if the retry
is automatic, the counter it has cloned has used up the budget. -/
def Session.KeepsCount (m : U64) (s : Session T) (a : Action) : Prop :=
  ∀ c, s.attempt a = some c → CanCount c ∧ (a.isTurn = true → m ≤ c)

/-- What attempts a retry: a future that wakes, or one of the two calls. -/
theorem Session.attempt_cases {s : Session T} {a : Action} {c : U64}
    (h : s.attempt a = some c) :
    (∃ obs fut duration, a = .turn obs ∧ s.stream.state = some (.retry fut) ∧
        fut.stage = .sleeping duration ∧ obs.awake = true ∧ c = fut.client.numRetries) ∨
      (∃ connect, a = .retry connect ∧ c = s.stream.inner.numRetries) ∨
      ∃ endpoint connect, a = .retryWith endpoint connect ∧ c = s.stream.inner.numRetries := by
  unfold Session.attempt at h
  rcases a with obs | connect | ⟨endpoint, connect⟩ | _
  · rcases hstate : s.stream.state with _ | _ | fut | st
    · rw [hstate] at h
      cases h
    · rw [hstate] at h
      cases h
    · rcases hstage : fut.stage with duration | _
      · by_cases hawake : obs.awake = true
        · simp only [hstate, hstage, hawake, if_true, Option.some.injEq] at h
          exact Or.inl ⟨obs, fut, duration, rfl, rfl, hstage, hawake, h.symm⟩
        · simp only [hstate, hstage, hawake, Bool.false_eq_true, if_false] at h
          cases h
      · simp only [hstate, hstage] at h
        cases h
    · rw [hstate] at h
      cases h
  · by_cases hp : s.polling = true
    · simp only [hp, if_true] at h
      cases h
    · simp only [hp, Bool.false_eq_true, if_false, Option.some.injEq] at h
      exact Or.inr (Or.inl ⟨connect, rfl, h.symm⟩)
  · by_cases hp : s.polling = true
    · simp only [hp, if_true] at h
      cases h
    · simp only [hp, Bool.false_eq_true, if_false, Option.some.injEq] at h
      exact Or.inr (Or.inr ⟨endpoint, connect, rfl, h.symm⟩)
  · cases h

theorem Session.attempt_turn {s : Session T} {fut : RetryFuture} {obs : RetryPoll}
    {duration : Duration} (hstate : s.stream.state = some (.retry fut))
    (hstage : fut.stage = .sleeping duration) (hawake : obs.awake = true) :
    s.attempt (.turn obs) = some fut.client.numRetries := by
  unfold Session.attempt
  simp only [hstate, hstage, hawake, if_true]

/-- **A turn** that keeps the count opens no connection. -/
theorem Session.Counted.turn {m : U64} {s : Session T} (hs : s.Counted m) {obs : RetryPoll}
    (ha : s.KeepsCount m (.turn obs)) {t : EventStream T}
    {res : Option (Poll (Option (Except SseError T)))}
    (h : s.stream.turn profile fromSlice obs = .ok (t, res)) (polling : Bool) :
    (⟨t, polling⟩ : Session T).Counted m := by
  obtain ⟨hinner, hfut, hopened⟩ := turn_cases h
  have hsame : t.world.opened = s.stream.world.opened := by
    rcases hopened with hsame | ⟨fut, duration, client, hstate, hstage, hawake, hbegin⟩
    · exact hsame
    · -- the clone has used up the budget, so the future fails
      obtain ⟨hcount, hlimit⟩ := ha _ (Session.attempt_turn hstate hstage hawake)
      rw [beginRetry_eq (hs.futureLimit fut hstate) hcount,
        if_pos ((lt_add_one_iff hcount).mpr (hlimit rfl))] at hbegin
      cases hbegin
  refine ⟨?_, fun fut' hfut' => ?_, ?_⟩
  · show t.inner.client.maxRetries = some m
    rw [hinner]
    exact hs.limit
  · rcases hfut fut' hfut' with hclient | ⟨fut, hstate, hclient⟩
    · rw [hclient]
      exact hs.limit
    · rw [hclient]
      exact hs.futureLimit fut hstate
  · show t.world.opened = min t.inner.numRetries.toNat m.toNat
    rw [hsame, hinner]
    exact hs.opened_eq

/-- **A manual retry** counts what it opens. -/
theorem Session.Counted.retry {m : U64} {s : EventStream T}
    (hs : (⟨s, false⟩ : Session T).Counted m) (hcount : CanCount s.inner.numRetries)
    {connect : ConnectPoll} {t : EventStream T} {res : Option (Except SseError Unit)}
    (h : s.retry profile connect = .ok (t, res)) : (⟨t, false⟩ : Session T).Counted m := by
  obtain ⟨hlimit, hfuture, hopened⟩ := hs
  replace hopened : s.world.opened = min s.inner.numRetries.toNat m.toNat := hopened
  have hnext := toNat_add_one hcount
  have hiff : m < s.inner.numRetries + 1 ↔ m.toNat ≤ s.inner.numRetries.toNat :=
    (lt_add_one_iff hcount).trans UInt64.le_iff_toNat_le
  unfold EventStream.retry at h
  rw [beginRetry_eq hlimit hcount] at h
  by_cases hlt : m < s.inner.numRetries + 1
  · have hspent := hiff.mp hlt
    rw [if_pos hlt] at h
    cases h
    refine ⟨hlimit, hfuture, ?_⟩
    show s.world.opened = min (s.inner.numRetries + 1).toNat m.toNat
    rw [hnext]
    omega
  · have hroom := Nat.not_le.mp (hlt ∘ hiff.mpr)
    have hopened' : s.world.opened + 1 = min (s.inner.numRetries + 1).toNat m.toNat := by
      rw [hnext]
      omega
    rw [if_neg hlt] at h
    rcases connect with _ | (e | st)
    · cases h
      exact ⟨hlimit, hfuture, hopened'⟩
    · cases h
      exact ⟨hlimit, hfuture, hopened'⟩
    · cases h
      exact ⟨hlimit, (fun fut hfut => by cases hfut), hopened'⟩

theorem Session.Counted.step {m : U64} {s t : Session T} {a : Action} (hs : s.Counted m)
    (ha : s.KeepsCount m a) (h : Sse.step profile fromSlice s a = .ok t) : t.Counted m := by
  obtain ⟨stream, polling⟩ := s
  obtain ⟨stream', polling'⟩ := t
  rcases step_cases h with ⟨obs, ret, rfl, hturn, -⟩ | ⟨connect, ret, rfl, rfl, hretry, rfl⟩ |
    ⟨endpoint, connect, ret, rfl, rfl, hretry, rfl⟩ | ⟨rfl, -, hreset⟩
  · exact hs.turn ha hturn polling'
  · exact hs.retry (ha _ rfl).1 hretry
  · have hs' : (⟨{ stream with inner := { stream.inner with endpoint := endpoint } }, false⟩ :
        Session T).Counted m :=
      ⟨hs.limit, hs.futureLimit, hs.opened_eq⟩
    exact hs'.retry (ha _ rfl).1 hretry
  · rw [hreset]
    exact ⟨hs.limit, hs.futureLimit, (Nat.zero_min _).symm⟩

/-! ## The budget -/

/-- The attempt of this step fails with `MaxRetriesExceeded(m)`, and no connection
is opened. -/
def Session.Refused (profile : BuildProfile) (fromSlice : Bytes → Except JsonError T) (m : U64)
    (s : Session T) : Action → Prop
  | .turn obs => ∃ t, s.stream.turn profile fromSlice obs =
      .ok (t, some (.ready (some (.error (.maxRetriesExceeded m))))) ∧
        t.world.requests = s.stream.world.requests
  | .retry connect => ∃ t, s.stream.retry profile connect =
      .ok (t, some (.error (.maxRetriesExceeded m))) ∧
        t.world.requests = s.stream.world.requests
  | .retryWith endpoint connect => ∃ t, s.stream.retryWith profile endpoint connect =
      .ok (t, some (.error (.maxRetriesExceeded m))) ∧
        t.world.requests = s.stream.world.requests
  | .resetRetries => False

/-- A manual attempt on a counter that has reached the limit. -/
theorem retry_refused {m : U64} {s : EventStream T}
    (hlimit : s.inner.client.maxRetries = some m) (hcount : CanCount s.inner.numRetries)
    (hle : m ≤ s.inner.numRetries) (connect : ConnectPoll) :
    ∃ t, s.retry profile connect = .ok (t, some (.error (.maxRetriesExceeded m))) ∧
      t.world.requests = s.world.requests := by
  refine ⟨{ s with inner := { s.inner with numRetries := s.inner.numRetries + 1 } }, ?_, rfl⟩
  unfold EventStream.retry
  rw [beginRetry_eq hlimit hcount, if_pos ((lt_add_one_iff hcount).mpr hle)]

/-- A turn whose future fails yields the error. -/
theorem turn_of_poll_error {s : EventStream T} {fut fut' : RetryFuture} {obs : RetryPoll}
    {err : SseError} (hstate : s.state = some (.retry fut))
    (hpoll : fut.poll profile obs s.world = .ok (s.world, fut', .ready (.error err))) :
    ∃ t, s.turn profile fromSlice obs = .ok (t, some (.ready (some (.error err)))) ∧
      t.world.requests = s.world.requests := by
  refine ⟨{ s with
    state := some .ended
    world := s.world.output none (some (.error err)) }, ?_, rfl⟩
  unfold EventStream.turn
  rw [hstate]
  simp only [hpoll]

/-- Once `m` connections were opened, an attempt that keeps the count is refused. -/
theorem Session.Counted.refused {m : U64} {s : Session T} {a : Action} {c : U64}
    (hs : s.Counted m) (ha : s.KeepsCount m a) (hc : s.attempt a = some c)
    (hopened : s.stream.world.opened = m.toNat) : s.Refused profile fromSlice m a := by
  have hle : m ≤ s.stream.inner.numRetries := by
    rw [UInt64.le_iff_toNat_le, ← hopened, hs.opened_eq]
    exact Nat.min_le_left _ _
  obtain ⟨hcount, hauto⟩ := ha c hc
  rcases Session.attempt_cases hc with ⟨obs, fut, duration, rfl, hstate, hstage, hawake, rfl⟩ |
    ⟨connect, rfl, rfl⟩ | ⟨endpoint, connect, rfl, rfl⟩
  · have hpoll : fut.poll profile obs s.stream.world = .ok (s.stream.world,
        { fut with client := { fut.client with numRetries := fut.client.numRetries + 1 } },
        .ready (.error (.maxRetriesExceeded m))) := by
      unfold RetryFuture.poll
      rw [hstage, beginRetry_eq (hs.futureLimit fut hstate) hcount,
        if_pos ((lt_add_one_iff hcount).mpr (hauto rfl))]
      simp only [hawake, if_true]
    exact turn_of_poll_error hstate hpoll
  · exact retry_refused hs.limit hcount hle connect
  · exact retry_refused (s := { s.stream with
      inner := { s.stream.inner with endpoint := endpoint } }) hs.limit hcount hle connect

/-- **The budget is kept where the count is.**  In a run in which no automatic
retry finds its budget unspent and no counter is at its end, at most `m`
connections are opened between two resets, and the attempts after the `m`-th fail
with `MaxRetriesExceeded(m)` and open none. -/
theorem reconnects_within_budget {client : EventClient} {m : U64}
    (hclient : client.maxRetries = some m) {endpoint : String} {query : Option String}
    {st : List DecoderPoll} {run : List Action}
    (hrun : StepsMeet (step profile fromSlice) (Session.start client endpoint query st) run
      (Session.KeepsCount m)) :
    Along (step profile fromSlice) (Session.start client endpoint query st) run
        (fun s => s.stream.world.opened ≤ m.toNat) ∧
      StepsMeet (step profile fromSlice) (Session.start client endpoint query st) run
        (fun s a => s.attempt a ≠ none → s.stream.world.opened = m.toNat →
          s.Refused profile fromSlice m a) := by
  have hstart : (Session.start client endpoint query st : Session T).Counted m :=
    ⟨hclient, (fun fut hfut => by cases hfut), (Nat.zero_min _).symm⟩
  have halong := along_of_stepsMeet (fun s a t hs ha h => Session.Counted.step hs ha h) hstart hrun
  refine ⟨fun pre t hpre ht => ?_, ?_⟩
  · show t.stream.world.opened ≤ m.toNat
    rw [(halong pre t hpre ht).opened_eq]
    exact Nat.min_le_right _ _
  · intro pre a t hpre ht hattempt hopened
    obtain ⟨c, hc⟩ := Option.ne_none_iff_exists'.mp hattempt
    exact (halong pre t ((List.prefix_append pre [a]).trans hpre) ht).refused
      (hrun pre a t hpre ht) hc hopened

/-- The budget of one is spent by hand; the retry that the directive asks for and one
more by hand are refused. -/
def refusedRun : List Action :=
  [.retry (.ready (.ok [.item (.ok (.retry 0))])), .turn ⟨false, .pending⟩,
    .turn ⟨true, .pending⟩, .retry .pending]

theorem reconnects_within_budget_refusedRun :
    Along (step ⟨true⟩ Except.ok)
        (Session.start (EventClient.new.withMaxRetries 1) "/" none []) refusedRun
        (fun s => s.stream.world.opened ≤ (1 : U64).toNat) ∧
      StepsMeet (step ⟨true⟩ Except.ok)
        (Session.start (EventClient.new.withMaxRetries 1) "/" none []) refusedRun
        (fun s a => s.attempt a ≠ none → s.stream.world.opened = (1 : U64).toNat →
          s.Refused ⟨true⟩ Except.ok 1 a) := by
  refine reconnects_within_budget rfl ((stepsMeet_cons rfl).mpr ⟨fun c hc => ?_,
    (stepsMeet_cons rfl).mpr ⟨fun c hc => ?_, (stepsMeet_cons rfl).mpr ⟨fun c hc => ?_,
      (stepsMeet_cons rfl).mpr ⟨fun c hc => ?_, stepsMeet_nil _ _⟩⟩⟩⟩)
  · obtain rfl := Option.some.inj hc
    exact ⟨by decide, fun hturn => by cases hturn⟩
  · cases hc
  · -- the clone in the future has the counter of the stream, which the retry by hand
    -- has brought to the limit
    obtain rfl := Option.some.inj hc
    exact ⟨by decide, fun _ => by decide⟩
  · obtain rfl := Option.some.inj hc
    exact ⟨by decide, fun hturn => by cases hturn⟩

/-! ## Past the budget -/

/-- As many manual retries as there is room for all open a connection. -/
theorem exec_retries {m : U64} (k : ℕ) {s : EventStream T}
    (hlimit : s.inner.client.maxRetries = some m) (hroom : k ≤ m.toNat - s.inner.numRetries.toNat) :
    ∃ t, exec (step profile fromSlice) ⟨s, false⟩ (List.replicate k (.retry .pending)) = .ok t ∧
      t.stream.world.opened = s.world.opened + k := by
  induction k generalizing s with
  | zero => exact ⟨⟨s, false⟩, rfl, rfl⟩
  | succ k ih =>
    have hm := m.toNat_lt_size
    have hcount : CanCount s.inner.numRetries := by
      unfold CanCount
      omega
    have hnext := toNat_add_one hcount
    have hlt : ¬ m < s.inner.numRetries + 1 := by
      rw [lt_add_one_iff hcount, UInt64.le_iff_toNat_le]
      omega
    have hretry : s.retry profile .pending = .ok ({ s with
        inner := { s.inner with numRetries := s.inner.numRetries + 1 }
        world := s.world.newStream s.inner.request }, none) := by
      unfold EventStream.retry
      rw [beginRetry_eq hlimit hcount, if_neg hlt]
      rfl
    obtain ⟨t, ht, hopened⟩ := ih (s := { s with
      inner := { s.inner with numRetries := s.inner.numRetries + 1 }
      world := s.world.newStream s.inner.request }) hlimit (by
        show k ≤ m.toNat - (s.inner.numRetries + 1).toNat
        omega)
    refine ⟨t, ?_, ?_⟩
    · rw [List.replicate_succ]
      refine exec_cons.mpr ⟨_, ?_, ht⟩
      simp only [step, hretry, Bool.false_eq_true, if_false]
    · rw [hopened]
      show s.world.opened + 1 + k = s.world.opened + (k + 1)
      omega

/-- **A clone with budget left is past the budget.**  When an automatic retry has
cloned a counter below the limit, the run can go on to open more than `m`
connections: the automatic one and all that the counter of the stream still has
room for. -/
theorem Session.Counted.exceeds {m : U64} {s : Session T} (hs : s.Counted m) {fut : RetryFuture}
    {duration : Duration} (hstate : s.stream.state = some (.retry fut))
    (hstage : fut.stage = .sleeping duration) (hroom : fut.client.numRetries < m) :
    ∃ run t, exec (Sse.step profile fromSlice) s run = .ok t ∧
      m.toNat < t.stream.world.opened := by
  obtain ⟨stream, polling⟩ := s
  have hfut := hs.futureLimit fut hstate
  have hm := m.toNat_lt_size
  have hlt := UInt64.lt_iff_toNat_lt.mp hroom
  have hcount : CanCount fut.client.numRetries := by
    unfold CanCount
    omega
  have hgo : ¬ m < fut.client.numRetries + 1 := by
    rw [lt_add_one_iff hcount, UInt64.le_iff_toNat_le]
    omega
  -- the automatic retry opens a connection, and the stream does not count it
  obtain ⟨t₁, hturn, hinner, hopened₁⟩ : ∃ t₁,
      stream.turn profile fromSlice ⟨true, .pending⟩ = .ok (t₁, some .pending) ∧
        t₁.inner = stream.inner ∧ t₁.world.opened = stream.world.opened + 1 := by
    unfold EventStream.turn
    rw [hstate]
    unfold RetryFuture.poll
    simp only [hstage, beginRetry_eq hfut hcount, if_neg hgo]
    exact ⟨_, rfl, rfl, rfl⟩
  have hopened : stream.world.opened = min stream.inner.numRetries.toNat m.toNat := hs.opened_eq
  have hlimit : t₁.inner.client.maxRetries = some m := by
    rw [hinner]
    exact hs.limit
  obtain ⟨t, ht, htopened⟩ := exec_retries
    (m.toNat - t₁.inner.numRetries.toNat) hlimit (Nat.le_refl _)
  rw [hinner] at ht htopened
  have hstep : Sse.step profile fromSlice ⟨stream, polling⟩ (.turn ⟨true, .pending⟩) =
      .ok ⟨t₁, false⟩ := by
    rw [Sse.step, hturn]
    rfl
  exact ⟨_, t, exec_cons.mpr ⟨_, hstep, ht⟩, by omega⟩

/-- A server that begins every connection with a retry directive. -/
def freeRun : List Action :=
  [.turn ⟨false, .pending⟩, .turn ⟨true, .ready (.ok [.item (.ok (.retry 0))])⟩,
    .turn ⟨false, .pending⟩, .turn ⟨true, .ready (.ok [])⟩]

/-- The run above opens two connections with a budget of one. -/
theorem freeRun_over_budget :
    ∃ s, exec (step ⟨true⟩ Except.ok) (Session.start (EventClient.new.withMaxRetries 1) "/" none
        [.item (.ok (.retry 0))]) freeRun = .ok s ∧
      ¬ s.stream.world.opened ≤ (1 : U64).toNat :=
  ⟨_, rfl, by decide⟩

end Sse
end MevShare
