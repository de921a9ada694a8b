import MevShare.Library.Machine
import MevShare.Library.Search
import MevShare.Library.Tower
import MevShare.Rpc.Auth

/-!
# Readiness of the signing middleware

A service must not be called before it is ready, and a clone of it is not ready because it
is.  The middleware clones its inner service in every call: the future of the call has to
outlive it, and may run when others have been made.  What it puts into the future is the
instance that was polled, and what it keeps is the clone (`std::mem::replace`); the other
way round, every call would be a breach of the contract.

`System` has any number of middlewares, made by one layer or cloned from each other, and
the futures of their calls, which run in any order or are dropped.  Its inner services
panic where they are called without being ready.  `contract_kept` is the result: as long
as the middlewares are called when they are ready, so are the inner services, each at most
once, and they get what `FlashbotsSigner::call` makes of the requests whose futures have
run.
-/

namespace MevShare
namespace Rpc

open Http Rust Machine Search Tower

variable {U E X S I R : Type} {keccak256 : List UInt8 → H256}
  {self : FlashbotsSigner U E X S I R}

/-! ## One call -/

namespace FlashbotsSigner

/-- What the inner service is called with in the future of a call. -/
def forwards (keccak256 : List UInt8 → H256) (self : FlashbotsSigner U E X S I R)
    (request : Request U E X) : List (Request U E X) :=
  match self.call keccak256 request with
  | .ok answer => answer.calls
  | .error _ => []

/-- It is called at most once. -/
theorem length_forwards_le (request : Request U E X) :
    (self.forwards keccak256 request).length ≤ 1 := by
  unfold forwards
  by_cases hpost : request.parts.method = .post
  · by_cases hsigns : Signs request
    · unfold call
      rw [if_neg (not_not_intro hpost), if_neg fun hpasses => passes_iff.mp hpasses hsigns]
      rcases request.body.toBytes with err | bytes
      · exact Nat.zero_le 1
      · rcases hsign : self.signer.signMessage ("0x" ++ lowerHex (keccak256 bytes)) with
          err | signature
        · simp only [hsign]
          exact Nat.zero_le 1
        · rcases hvalue : HeaderValue.fromStr (self.signer.address ++ ":0x" ++ signature) with
            _ | value
          · simp only [hsign, hvalue]
            exact Nat.zero_le 1
          · simp only [hsign, hvalue]
            exact Nat.le_refl 1
    · rw [call_of_not_signs hpost hsigns]
      exact Nat.le_refl 1
  · rw [call_of_not_post hpost]
    exact Nat.zero_le 1

/-- With a signer that prints what can be sent, a call does not panic. -/
theorem call_total (keccak256 : List UInt8 → H256) (hprintable : self.signer.Printable)
    (request : Request U E X) :
    ∃ answer, self.call keccak256 request = .ok answer := by
  by_cases hpost : request.parts.method = .post
  · by_cases hsigns : Signs request
    · rcases hbody : request.body.toBytes with err | bytes
      · exact ⟨_, call_of_unread hpost hsigns hbody⟩
      · rcases hsign : self.signer.signMessage ("0x" ++ lowerHex (keccak256 bytes)) with
          err | signature
        · exact ⟨_, call_of_unsigned hpost hsigns hbody hsign⟩
        · exact ⟨_, call_of_signed hprintable hpost hsigns hbody hsign⟩
    · exact ⟨_, call_of_not_signs hpost hsigns⟩
  · exact ⟨_, call_of_not_post hpost⟩

end FlashbotsSigner

/-! ## Many middlewares -/

/-- A middleware: the instance of the inner service that it has. -/
structure Handle where
  inner : ℕ
  /-- Its owner has been told that it is ready, and has not called it since. -/
  ready : Bool

/-- The future of a call, with the instance that it has taken. -/
structure CallFuture (U E X : Type) where
  inner : ℕ
  request : Request U E X

/-- The middlewares with one signer, and the futures of their calls that have not run. -/
structure System (U E X : Type) where
  pool : Pool (Request U E X)
  handles : List Handle
  futures : List (CallFuture U E X)
  /-- The requests whose futures have run, oldest first. -/
  completed : List (Request U E X)

inductive SystemAction (U E X : Type) where
  /-- `FlashbotsSignerLayer::layer`, with an inner service that has not been polled. -/
  | layer
  /-- `FlashbotsSigner::clone`. -/
  | clone (k : ℕ)
  | pollReady (k : ℕ) (isReady : Bool)
  | call (k : ℕ) (request : Request U E X)
  /-- A future runs to its end. -/
  | run (f : ℕ)
  | dropFuture (f : ℕ)

namespace System

def start : System U E X := ⟨Pool.empty, [], [], []⟩

/-- One more middleware, on an instance that is not ready. -/
def addHandle (s : System U E X) : System U E X :=
  { s with pool := s.pool.create, handles := s.handles ++ [⟨s.pool.next, false⟩] }

def step (keccak256 : List UInt8 → H256) (self : FlashbotsSigner U E X S I R)
    (s : System U E X) : SystemAction U E X → Except Halt (System U E X)
  | .layer => .ok s.addHandle
  | .clone k =>
      match s.handles[k]? with
      | none => .error .disabled
      | some _ => .ok s.addHandle
  | .pollReady k isReady =>
      match s.handles[k]? with
      | none => .error .disabled
      | some h => .ok { s with
          pool := s.pool.pollReady h.inner isReady
          handles := s.handles.set k { h with ready := h.ready || isReady } }
  | .call k request =>
      match s.handles[k]? with
      | none => .error .disabled
      | some h =>
          -- the clone stays, and the future gets the instance that was polled
          .ok { s with
            pool := s.pool.create
            handles := s.handles.set k ⟨s.pool.next, false⟩
            futures := s.futures ++ [⟨h.inner, request⟩] }
  | .run f =>
      match s.futures[f]? with
      | none => .error .disabled
      | some fut =>
          match self.call keccak256 fut.request with
          | .error e => .error e
          | .ok answer =>
              match s.pool.callAll fut.inner answer.calls with
              | .error e => .error e
              | .ok pool => .ok { s with
                  pool := pool
                  futures := s.futures.eraseIdx f
                  completed := s.completed ++ [fut.request] }
  | .dropFuture f =>
      match s.futures[f]? with
      | none => .error .disabled
      | some _ => .ok { s with futures := s.futures.eraseIdx f }

/-- A middleware is called only when its owner has been told that it is ready. -/
def Honours (s : System U E X) : SystemAction U E X → Prop
  | .call k _ => ∀ h, s.handles[k]? = some h → h.ready = true
  | _ => True

/-! ## The invariant -/

/-- In how many places an instance is. -/
def tally (s : System U E X) (id : ℕ) : ℕ :=
  s.pool.callCount id + (s.handles.map Handle.inner).count id +
    (s.futures.map CallFuture.inner).count id

/-- Every instance is in one place at most, and those that may be called are ready. -/
structure Kept (keccak256 : List UInt8 → H256) (m : FlashbotsSigner U E X S I R)
    (s : System U E X) : Prop where
  once : ∀ id, s.tally id ≤ if id < s.pool.next then 1 else 0
  handles : ∀ h ∈ s.handles, h.ready = true → h.inner ∈ s.pool.ready
  futures : ∀ fut ∈ s.futures, fut.inner ∈ s.pool.ready
  forwarded : s.pool.calls.map Prod.snd = s.completed.flatMap (m.forwards keccak256)

variable {s t : System U E X}

theorem kept_start : (start : System U E X).Kept keccak256 self where
  once _ := Nat.zero_le _
  handles _ h := absurd h List.not_mem_nil
  futures _ h := absurd h List.not_mem_nil
  forwarded := rfl

/-- The instance with the next number is nowhere yet. -/
theorem Kept.tally_next (hs : s.Kept keccak256 self) : s.tally s.pool.next = 0 := by
  have h := hs.once s.pool.next
  rw [if_neg (Nat.lt_irrefl _)] at h
  exact Nat.le_zero.mp h

/-- An instance more, that was nowhere, and the others at most where they were. -/
theorem Kept.once_create (hs : s.Kept keccak256 self) {t : System U E X}
    (hnext : t.pool.next = s.pool.next + 1)
    (htally : ∀ id, t.tally id ≤ s.tally id + if id = s.pool.next then 1 else 0) (id : ℕ) :
    t.tally id ≤ if id < t.pool.next then 1 else 0 := by
  have hold := hs.once id
  have hzero := hs.tally_next
  have hnew := htally id
  rw [hnext]
  by_cases hid : id = s.pool.next
  · subst hid
    rw [if_pos rfl] at hnew
    rw [if_pos (Nat.lt_succ_self _)]
    omega
  · rw [if_neg hid] at hnew
    by_cases hlt : id < s.pool.next
    · rw [if_pos hlt] at hold
      rw [if_pos (Nat.lt_succ_of_lt hlt)]
      omega
    · rw [if_neg hlt] at hold
      omega

theorem Kept.addHandle (hs : s.Kept keccak256 self) : s.addHandle.Kept keccak256 self where
  once := hs.once_create rfl fun id => by
    show s.pool.callCount id +
      ((s.handles ++ [Handle.mk s.pool.next false]).map Handle.inner).count id +
        (s.futures.map CallFuture.inner).count id ≤ _
    rw [count_concat, tally]
    simp only
    omega
  handles h hmem hready := by
    rcases List.mem_append.mp hmem with hold | hnew
    · exact hs.handles h hold hready
    · obtain rfl := List.mem_singleton.mp hnew
      cases hready
  futures := hs.futures
  forwarded := hs.forwarded

theorem Kept.pollReady (hs : s.Kept keccak256 self) {k : ℕ} {h : Handle}
    (hk : s.handles[k]? = some h) (isReady : Bool) :
    Kept keccak256 self { s with
      pool := s.pool.pollReady h.inner isReady
      handles := s.handles.set k { h with ready := h.ready || isReady } } := by
  obtain ⟨pre, post, hsplit, -, hset⟩ := exists_split hk
  have hsame : (s.pool.pollReady h.inner isReady).next = s.pool.next ∧
      (s.pool.pollReady h.inner isReady).calls = s.pool.calls := by
    rcases isReady with _ | _ <;> exact ⟨rfl, rfl⟩
  rw [hset]
  refine ⟨fun id => ?_, fun h' hmem hready => ?_, fun fut hfut => ?_, ?_⟩
  · have hold := hs.once id
    rw [tally, hsplit] at hold
    rw [hsame.1, tally, Pool.callCount, hsame.2]
    simp only [List.map_append, List.map_cons] at hold ⊢
    exact hold
  · have hmem' : h' ∈ pre ++ { h with ready := h.ready || isReady } :: post := hmem
    rcases List.mem_append.mp hmem' with hold | hrest
    · exact Pool.mem_ready_pollReady (hs.handles h' (hsplit ▸ List.mem_append_left _ hold) hready)
    · rcases List.mem_cons.mp hrest with rfl | hold
      · rcases isReady with _ | _
        · rw [Bool.or_false] at hready
          exact Pool.mem_ready_pollReady (hs.handles h (hsplit ▸ by simp) hready)
        · exact List.mem_cons_self
      · exact Pool.mem_ready_pollReady (hs.handles h' (hsplit ▸ by simp [hold]) hready)
  · exact Pool.mem_ready_pollReady (hs.futures fut hfut)
  · rw [hsame.2]
    exact hs.forwarded

/-- **A call** gives the future an instance that is ready. -/
theorem Kept.call (hs : s.Kept keccak256 self) {k : ℕ} {h : Handle}
    (hk : s.handles[k]? = some h) (hready : h.ready = true) (request : Request U E X) :
    Kept keccak256 self { s with
      pool := s.pool.create
      handles := s.handles.set k ⟨s.pool.next, false⟩
      futures := s.futures ++ [⟨h.inner, request⟩] } := by
  obtain ⟨pre, post, hsplit, -, hset⟩ := exists_split hk
  rw [hset]
  refine ⟨hs.once_create rfl fun id => ?_, fun h' hmem hr => ?_, fun fut hfut => ?_,
    hs.forwarded⟩
  · show s.pool.callCount id + ((pre ++ ⟨s.pool.next, false⟩ :: post).map Handle.inner).count id +
      ((s.futures ++ [CallFuture.mk h.inner request]).map CallFuture.inner).count id ≤ _
    rw [count_concat, count_insert, tally, hsplit, count_insert]
    simp only
    omega
  · have hmem' : h' ∈ pre ++ ⟨s.pool.next, false⟩ :: post := hmem
    rcases List.mem_append.mp hmem' with hold | hrest
    · exact hs.handles h' (hsplit ▸ List.mem_append_left _ hold) hr
    · rcases List.mem_cons.mp hrest with rfl | hold
      · cases hr
      · exact hs.handles h' (hsplit ▸ by simp [hold]) hr
  · rcases List.mem_append.mp hfut with hold | hnew
    · exact hs.futures fut hold
    · obtain rfl := List.mem_singleton.mp hnew
      exact hs.handles h (List.mem_of_getElem? hk) hready

/-- A future that has gone leaves the others as they were. -/
theorem Kept.dropFuture (hs : s.Kept keccak256 self) (f : ℕ) :
    Kept keccak256 self { s with futures := s.futures.eraseIdx f } where
  once id := by
    have hold := hs.once id
    have hsub : ((s.futures.eraseIdx f).map CallFuture.inner).count id ≤
        (s.futures.map CallFuture.inner).count id :=
      ((List.eraseIdx_sublist s.futures f).map CallFuture.inner).count_le id
    rw [tally] at hold ⊢
    exact Nat.le_trans (Nat.add_le_add_left hsub _) hold
  handles := hs.handles
  futures fut hfut := hs.futures fut (List.mem_of_mem_eraseIdx hfut)
  forwarded := hs.forwarded

/-- **A future runs** without a breach of the contract: its instance is ready, and nobody
else has it. -/
theorem Kept.run (hs : s.Kept keccak256 self) {f : ℕ} {fut : CallFuture U E X}
    (hf : s.futures[f]? = some fut) {answer : Answer U E X S I R}
    (hcall : self.call keccak256 fut.request = .ok answer) :
    ∃ pool, s.pool.callAll fut.inner answer.calls = .ok pool ∧
      Kept keccak256 self { s with
        pool := pool
        futures := s.futures.eraseIdx f
        completed := s.completed ++ [fut.request] } := by
  obtain ⟨pre, post, hsplit, herase, -⟩ := exists_split hf
  have hforwards : self.forwards keccak256 fut.request = answer.calls := by
    rw [FlashbotsSigner.forwards, hcall]
  have hone : answer.calls.length ≤ 1 := by
    rw [← hforwards]
    exact self.length_forwards_le fut.request
  have hready := hs.futures fut (List.mem_of_getElem? hf)
  obtain ⟨pool, hpool, hnext, hcalls, hcount, hkeep⟩ := Pool.callAll_of_ready hready hone
  have htally : ∀ id, s.tally id = s.pool.callCount id + (s.handles.map Handle.inner).count id +
      (((pre ++ post).map CallFuture.inner).count id + if id = fut.inner then 1 else 0) := by
    intro id
    rw [tally, hsplit, count_insert]
  have hlimit : ∀ id, (if id < s.pool.next then 1 else 0) ≤ 1 := by
    intro id
    by_cases h : id < s.pool.next
    · rw [if_pos h]
    · rw [if_neg h]
      exact Nat.zero_le 1
  -- whoever else has an instance has another one
  have hother : ∀ id, 0 < (s.handles.map Handle.inner).count id +
      ((pre ++ post).map CallFuture.inner).count id → id ≠ fut.inner := by
    rintro id hpos rfl
    have hold := Nat.le_trans (hs.once fut.inner) (hlimit fut.inner)
    rw [htally, if_pos rfl] at hold
    omega
  refine ⟨pool, hpool, fun id => ?_, fun h hmem hr => ?_, fun fut' hfut' => ?_, ?_⟩
  · have hold := hs.once id
    have hcalled := hcount id
    rw [htally] at hold
    rw [tally, hnext, herase]
    simp only
    omega
  · refine hkeep h.inner (hs.handles h hmem hr) (hother h.inner ?_)
    have hpos : 0 < (s.handles.map Handle.inner).count h.inner :=
      List.count_pos_iff.mpr (List.mem_map_of_mem hmem)
    omega
  · have hmem : fut' ∈ pre ++ post := herase ▸ hfut'
    have hin : fut' ∈ s.futures := List.mem_of_mem_eraseIdx hfut'
    refine hkeep fut'.inner (hs.futures fut' hin) (hother fut'.inner ?_)
    have hpos : 0 < ((pre ++ post).map CallFuture.inner).count fut'.inner :=
      List.count_pos_iff.mpr (List.mem_map_of_mem hmem)
    omega
  · rw [hcalls, List.map_append, List.map_map, hs.forwarded, List.flatMap_append,
      List.flatMap_singleton, hforwards]
    congr 1
    exact List.map_id' _

theorem Kept.step (hs : s.Kept keccak256 self) {a : SystemAction U E X} (ha : s.Honours a)
    (h : s.step keccak256 self a = .ok t) : t.Kept keccak256 self := by
  rcases a with _ | k | ⟨k, isReady⟩ | ⟨k, request⟩ | f | f
  · cases h
    exact hs.addHandle
  · rw [System.step] at h
    rcases hk : s.handles[k]? with _ | handle <;> rw [hk] at h <;> cases h
    exact hs.addHandle
  · rw [System.step] at h
    rcases hk : s.handles[k]? with _ | handle <;> rw [hk] at h <;> cases h
    exact hs.pollReady hk isReady
  · rw [System.step] at h
    rcases hk : s.handles[k]? with _ | handle <;> rw [hk] at h <;> cases h
    exact hs.call hk (ha handle hk) request
  · rw [System.step] at h
    rcases hf : s.futures[f]? with _ | fut
    · rw [hf] at h
      cases h
    · rw [hf] at h
      rcases hcall : self.call keccak256 fut.request with e | answer
      · simp only [hcall] at h
        cases h
      · obtain ⟨pool, hpool, hkept⟩ := hs.run hf hcall
        simp only [hcall, hpool] at h
        cases h
        exact hkept
  · rw [System.step] at h
    rcases hf : s.futures[f]? with _ | fut <;> rw [hf] at h <;> cases h
    exact hs.dropFuture f

/-- No step is a breach of the contract, of a middleware that can print its signatures. -/
theorem Kept.not_panicked (hs : s.Kept keccak256 self) (hprintable : self.signer.Printable)
    (a : SystemAction U E X) (message : String) :
    s.step keccak256 self a ≠ .error (.panicked message) := by
  intro h
  rcases a with _ | k | ⟨k, isReady⟩ | ⟨k, request⟩ | f | f
  · cases h
  · rw [System.step] at h
    rcases hk : s.handles[k]? with _ | handle <;> rw [hk] at h <;> cases h
  · rw [System.step] at h
    rcases hk : s.handles[k]? with _ | handle <;> rw [hk] at h <;> cases h
  · rw [System.step] at h
    rcases hk : s.handles[k]? with _ | handle <;> rw [hk] at h <;> cases h
  · rw [System.step] at h
    rcases hf : s.futures[f]? with _ | fut
    · rw [hf] at h
      cases h
    · rw [hf] at h
      obtain ⟨answer, hcall⟩ := FlashbotsSigner.call_total keccak256 hprintable fut.request
      obtain ⟨pool, hpool, -⟩ := hs.run hf hcall
      simp only [hcall, hpool] at h
      cases h
  · rw [System.step] at h
    rcases hf : s.futures[f]? with _ | fut <;> rw [hf] at h <;> cases h

/-- **The contract is kept.**  Any number of middlewares with one signer, their clones, and
the futures of their calls in any order: as long as each is called only when its owner was
told that it is ready, no inner service is called without being ready, each is called at
most once, and they are called with what the middleware makes of the requests whose
futures have run. -/
theorem contract_kept (hprintable : self.signer.Printable) {run : List (SystemAction U E X)}
    {s : System U E X} (h : exec (step keccak256 self) start run = .ok s)
    (hrun : StepsMeet (step keccak256 self) start run Honours) :
    (∀ a message, s.step keccak256 self a ≠ .error (.panicked message)) ∧
      (∀ id, s.pool.callCount id ≤ 1) ∧
      s.pool.calls.map Prod.snd = s.completed.flatMap (self.forwards keccak256) := by
  have hkept : s.Kept keccak256 self :=
    along_of_stepsMeet (I := Kept keccak256 self) (fun _ _ _ hs ha hstep => hs.step ha hstep)
      kept_start hrun run s (List.prefix_refl run) h
  refine ⟨hkept.not_panicked hprintable, fun id => ?_, hkept.forwarded⟩
  have honce := hkept.once id
  rw [tally] at honce
  by_cases hid : id < s.pool.next
  · rw [if_pos hid] at honce
    omega
  · rw [if_neg hid] at honce
    omega

section Example

open FlashbotsSigner (exampleSigner exampleSigner_printable hashEmpty emptyPost)

/-- A middleware is cloned while a call of it has not run; the call runs afterwards. -/
def cloningRun : List (SystemAction String Unit Unit) :=
  [.layer, .pollReady 0 true, .call 0 (emptyPost (ascii "text/plain")), .clone 0, .run 0]

theorem contract_kept_cloningRun :
    ∃ s, exec (step hashEmpty exampleSigner) start cloningRun = .ok s ∧
      (∀ id, s.pool.callCount id ≤ 1) ∧
      s.pool.calls.map Prod.snd = s.completed.flatMap (exampleSigner.forwards hashEmpty) := by
  have hrun : ∃ s, exec (step hashEmpty exampleSigner) start cloningRun = .ok s := ⟨_, rfl⟩
  obtain ⟨s, hs⟩ := hrun
  have hmeets : StepsMeet (step hashEmpty exampleSigner) start cloningRun Honours := by
    refine (stepsMeet_cons rfl).mpr ⟨trivial, (stepsMeet_cons rfl).mpr ⟨trivial,
      (stepsMeet_cons rfl).mpr ⟨fun h hh => ?_, (stepsMeet_cons rfl).mpr ⟨trivial,
        (stepsMeet_cons rfl).mpr ⟨trivial, stepsMeet_nil _ _⟩⟩⟩⟩⟩
    obtain rfl := Option.some.inj hh
    rfl
  exact ⟨s, hs, (contract_kept exampleSigner_printable hs hmeets).2⟩

end Example

end System
end Rpc
end MevShare
