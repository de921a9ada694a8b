import MevShare.Library.JsonText
import MevShare.Library.Rust

/-!
# Typed calls over JSON-RPC

An `Interface` has methods, each with a name, a type of arguments and a type of results,
and with the JSON forms of the two.  A server implements it by functions on a state of its
own.  The code between a client and a server is generated from the interface, and runs on a
library; it is the parameter `Stubs`.  What is assumed of it is `Stubs.Lawful`.

* The client's part writes the arguments as positional parameters, and panics if it cannot.
* The server's part reads the parameters of a message that has got there, and calls the
  implementation with them.
* What the implementation has returned comes back: an error as it is, and a result as its JSON
  form, if it has one that is not too deep for the reader of the answer.

`Stubs.calls` is a client that makes one call after the other, up to the first that panics,
and `Interface.direct` makes the same calls on the implementation itself.  `Stubs.calls_eq`
says how they differ: a client ends with the first arguments that have no JSON form, and a
result is delivered as its JSON form is read.  Everything else is as if client and server
were one program: the implementation sees the same methods with the same arguments in the
same order, and goes through the same states.

`Stubs.jsonRpc` are stubs of this kind, with the names and numbers of JSON-RPC 2.0: a
request has the name of its method and the texts of its parameters, and the server finds the
method by the name.  Request numbers, which tell responses apart, notifications, batches and
parameters by name are left out of it.
-/

namespace MevShare
namespace JsonRpc

open Serde Rust

variable {α β σ M : Type}

/-! ## Messages -/

/-- The error that a response may hold. -/
structure ErrorObject where
  code : Int
  message : String
  deriving DecidableEq, Repr

namespace ErrorObject

def methodNotFound : ErrorObject := ⟨-32601, "Method not found"⟩

def invalidParams : ErrorObject := ⟨-32602, "Invalid params"⟩

def internalError : ErrorObject := ⟨-32603, "Internal error"⟩

end ErrorObject

/-- A result, or an error. -/
abbrev Response := Except ErrorObject Json

/-! ## Parameters and results -/

/-- The JSON form of arguments: a list of values. -/
structure Params (α : Type) where
  serialize : α → Except SerError (List Json)
  deserialize : List Json → Except DeError α

namespace Params

def RoundTripsAt (p : Params α) (a : α) : Prop :=
  ∃ js, p.serialize a = .ok js ∧ p.deserialize js = .ok a

/-- One parameter.  What follows it is not read. -/
def single (c : Codec α) : Params α where
  serialize a :=
    match c.serialize a with
    | .ok j => .ok [j]
    | .error err => .error err
  deserialize
    | [] => .error .invalidLength
    | j :: _ => c.deserialize j

/-- One more parameter, in front. -/
def cons (c : Codec α) (p : Params β) : Params (α × β) where
  serialize a :=
    match c.serialize a.1 with
    | .error err => .error err
    | .ok j =>
        match p.serialize a.2 with
        | .error err => .error err
        | .ok js => .ok (j :: js)
  deserialize
    | [] => .error .invalidLength
    | j :: js =>
        match c.deserialize j with
        | .error err => .error err
        | .ok a =>
            match p.deserialize js with
            | .error err => .error err
            | .ok b => .ok (a, b)

theorem single_roundTripsAt {c : Codec α} {a : α} (h : c.RoundTripsAt a) :
    (single c).RoundTripsAt a := by
  obtain ⟨j, hser, hde⟩ := h
  refine ⟨[j], ?_, hde⟩
  simp only [single, hser]

theorem single_serialize_error {c : Codec α} {a : α} {err : SerError}
    (h : c.serialize a = .error err) : (single c).serialize a = .error err := by
  simp only [single, h]

theorem cons_roundTripsAt {c : Codec α} {p : Params β} {a : α} {b : β} (ha : c.RoundTripsAt a)
    (hb : p.RoundTripsAt b) : (cons c p).RoundTripsAt (a, b) := by
  obtain ⟨j, hser, hde⟩ := ha
  obtain ⟨js, hsers, hdes⟩ := hb
  refine ⟨j :: js, ?_, ?_⟩
  · simp only [cons, hser, hsers]
  · simp only [cons, hde, hdes]

/-- No parameter has more than so many levels. -/
def Shallow (n : ℕ) (p : Params α) : Prop :=
  ∀ a js, p.serialize a = .ok js → ∀ j ∈ js, j.Shallow n

theorem single_shallow {n : ℕ} {c : Codec α} (h : c.Shallow n) : (single c).Shallow n := by
  intro a js hjs j hj
  rcases hser : c.serialize a with err | j'
  · simp only [single, hser] at hjs
    cases hjs
  · simp only [single, hser] at hjs
    cases hjs
    rw [List.mem_singleton.mp hj]
    exact h a j' hser

theorem cons_shallow {n : ℕ} {c : Codec α} {p : Params β} (hc : c.Shallow n) (hp : p.Shallow n) :
    (cons c p).Shallow n := by
  intro a js hjs j hj
  rcases hser : c.serialize a.1 with err | j'
  · simp only [cons, hser] at hjs
    cases hjs
  · rcases hsers : p.serialize a.2 with err | js'
    · simp only [cons, hser, hsers] at hjs
      cases hjs
    · simp only [cons, hser, hsers] at hjs
      cases hjs
      rcases List.mem_cons.mp hj with rfl | hj
      · exact hc a.1 j hser
      · exact hp a.2 js' hsers j hj

end Params

/-- The JSON form of a result.  Reading it may panic. -/
structure Reply (β : Type) where
  serialize : β → Except SerError Json
  deserialize : Json → Except Halt (Except DeError β)

namespace Reply

def of (c : Codec β) : Reply β := ⟨c.serialize, fun j => .ok (c.deserialize j)⟩

def RoundTripsAt (r : Reply β) (b : β) : Prop :=
  ∃ j, r.serialize b = .ok j ∧ r.deserialize j = .ok (.ok b)

/-- No result has more than so many levels. -/
def Shallow (n : ℕ) (r : Reply β) : Prop := ∀ b j, r.serialize b = .ok j → j.Shallow n

theorem of_shallow {n : ℕ} {c : Codec β} (h : c.Shallow n) : (of c).Shallow n := h

theorem of_roundTripsAt {c : Codec β} {b : β} : (of c).RoundTripsAt b ↔ c.RoundTripsAt b := by
  constructor
  · rintro ⟨j, hser, hde⟩
    exact ⟨j, hser, Except.ok.inj hde⟩
  · rintro ⟨j, hser, hde⟩
    exact ⟨j, hser, congrArg Except.ok hde⟩

end Reply

/-! ## Interfaces -/

/-- The methods of an interface.  No two have one name. -/
structure Interface (M : Type) where
  Args : M → Type
  Result : M → Type
  name : M → String
  params : (m : M) → Params (Args m)
  reply : (m : M) → Reply (Result m)
  methods : List M
  complete : ∀ m, m ∈ methods
  names_nodup : (methods.map name).Nodup

/-- Why a call has no result. -/
inductive ClientError where
  | call (error : ErrorObject)
  /-- The result cannot be read. -/
  | parse (error : DeError)
  | panicked (halt : Halt)

namespace Interface

variable (I : Interface M)

/-- An implementation of the methods, on states `σ`. -/
def Server (σ : Type) : Type := (m : M) → I.Args m → σ → Except ErrorObject (I.Result m) × σ

/-- A method and the arguments it is called with. -/
structure Call where
  method : M
  args : I.Args method

/-- What has come of a call for the client. -/
structure Outcome where
  method : M
  result : Except ClientError (I.Result method)

/-- What an implementation has returned. -/
structure Returned where
  method : M
  result : Except ErrorObject (I.Result method)

/-- What the client makes of a response. -/
def receive (m : M) : Response → Except ClientError (I.Result m)
  | .error error => .error (.call error)
  | .ok j =>
      match (I.reply m).deserialize j with
      | .error halt => .error (.panicked halt)
      | .ok (.error error) => .error (.parse error)
      | .ok (.ok b) => .ok b

/-- Calls on the implementation, one after the other. -/
def direct (server : I.Server σ) : List I.Call → σ → List I.Returned × σ
  | [], s => ([], s)
  | c :: cs, s =>
      let (result, s) := server c.method c.args s
      let (results, s) := direct server cs s
      (⟨c.method, result⟩ :: results, s)

/-- What the client gets if nothing goes wrong on the way. -/
def asOutcome (r : I.Returned) : I.Outcome :=
  ⟨r.method, match r.result with
    | .ok b => .ok b
    | .error error => .error (.call error)⟩

/-- What has come of the calls of a client. -/
structure Session (σ : Type) where
  outcomes : List I.Outcome
  /-- The client has ended in a panic. -/
  panicked : Bool
  server : σ

end Interface

/-! ## Stubs -/

/-- What is generated from an interface. -/
structure Stubs (I : Interface M) where
  Message : Type
  Answer : Type
  /-- The client's part, up to the sending. -/
  send : (m : M) → I.Args m → Except Halt Message
  /-- The server's part, for any implementation. -/
  serve : {σ : Type} → I.Server σ → Message → σ → Answer × σ
  /-- What the server makes of what the implementation has returned. -/
  answer : (m : M) → Except ErrorObject (I.Result m) → Answer
  /-- What the client makes of an answer. -/
  receive : (m : M) → Answer → Except ClientError (I.Result m)
  /-- The levels of a message that the reader of a parameter counts with those of the
  parameter. -/
  aroundParams : ℕ
  aroundResult : ℕ
  /-- The message of a call is not over any limit of size or time, and gets there. -/
  Carries : (m : M) → I.Args m → Prop
  /-- And so is the answer. -/
  CarriesBack : (m : M) → Except ErrorObject (I.Result m) → Prop

namespace Stubs

variable {I : Interface M}

/-- What is assumed of the stubs. -/
structure Lawful (r : Stubs I) : Prop where
  aroundParams : r.aroundParams ≤ 2
  aroundResult : r.aroundResult ≤ 2
  sends : ∀ m a js, (I.params m).serialize a = .ok js → ∃ message, r.send m a = .ok message
  sends_panics : ∀ m a err, (I.params m).serialize a = .error err →
    ∃ text, r.send m a = .error (.panicked text)
  /-- Parameters that are not too deep reach the implementation as they are read. -/
  serves : ∀ m a message js a', r.send m a = .ok message → r.Carries m a →
    (I.params m).serialize a = .ok js →
    (∀ j ∈ js, j.Shallow (JsonText.maxLevels - r.aroundParams)) →
    (I.params m).deserialize js = .ok a' → ∀ (σ : Type) (server : I.Server σ) (s : σ),
      r.serve server message s = (r.answer m (server m a' s).1, (server m a' s).2)
  receives_error : ∀ m error, r.CarriesBack m (.error error) →
    r.receive m (r.answer m (.error error)) = .error (.call error)
  receives_unserialized : ∀ m b err, (I.reply m).serialize b = .error err →
    r.CarriesBack m (.ok b) → ∃ error, r.receive m (r.answer m (.ok b)) = .error (.call error)
  receives : ∀ m b j, (I.reply m).serialize b = .ok j → r.CarriesBack m (.ok b) →
    j.Shallow (JsonText.maxLevels - r.aroundResult) →
    r.receive m (r.answer m (.ok b)) = I.receive m (.ok j)
  receives_deep : ∀ m b j, (I.reply m).serialize b = .ok j → r.CarriesBack m (.ok b) →
    j.whole = true → JsonText.maxLevels - r.aroundResult < j.levels →
    ∃ error, r.receive m (r.answer m (.ok b)) = .error (.parse error)

variable (r : Stubs I)

/-- A call of the client: it may panic, and it may fail. -/
def call (server : I.Server σ) (c : I.Call) (s : σ) :
    Except Halt (Except ClientError (I.Result c.method)) × σ :=
  match r.send c.method c.args with
  | .error halt => (.error halt, s)
  | .ok message =>
      match r.receive c.method (r.serve server message s).1 with
      | .error (.panicked halt) => (.error halt, (r.serve server message s).2)
      | result => (.ok result, (r.serve server message s).2)

/-- Calls, one after the other, up to the first that panics. -/
def calls (server : I.Server σ) : List I.Call → σ → I.Session σ
  | [], s => ⟨[], false, s⟩
  | c :: cs, s =>
      match r.call server c s with
      | (.error _, s) => ⟨[], true, s⟩
      | (.ok result, s) =>
          ⟨⟨c.method, result⟩ :: (calls server cs s).outcomes, (calls server cs s).panicked,
            (calls server cs s).server⟩

/-- What the client gets for what the implementation has returned. -/
def deliver (ret : I.Returned) : I.Outcome :=
  ⟨ret.method, r.receive ret.method (r.answer ret.method ret.result)⟩

/-! ### What the client gets -/

variable {r}

/-- Results have JSON forms with whole numbers, and reading these does not panic. -/
def Safe (I : Interface M) : Prop :=
  ∀ m b j, (I.reply m).serialize b = .ok j →
    j.whole = true ∧ ∃ result, (I.reply m).deserialize j = .ok result

/-- A result is written, not too deeply, and is what is read. -/
def DeliversAt (around : ℕ) (m : M) (b : I.Result m) : Prop :=
  ∃ j, (I.reply m).serialize b = .ok j ∧ j.levels + around ≤ JsonText.maxLevels ∧
    (I.reply m).deserialize j = .ok (.ok b)

/-- Where results have a few levels only, it is enough that they make the round trip. -/
theorem deliversAt_iff_of_shallow {n around : ℕ} {m : M} {b : I.Result m}
    (h : (I.reply m).Shallow n) (hn : n + around ≤ JsonText.maxLevels) :
    DeliversAt around m b ↔ (I.reply m).RoundTripsAt b := by
  constructor
  · rintro ⟨j, hser, -, hde⟩
    exact ⟨j, hser, hde⟩
  · rintro ⟨j, hser, hde⟩
    exact ⟨j, hser, Nat.le_trans (Nat.add_le_add_right (h b j hser).levels around) hn, hde⟩

/-- **A result is delivered** exactly if it can be; otherwise the call fails, and does not
panic. -/
theorem receive_answer (hr : r.Lawful) (hI : Safe I) {m : M} {b : I.Result m}
    (hb : r.CarriesBack m (.ok b)) :
    (r.receive m (r.answer m (.ok b)) = .ok b ↔ DeliversAt r.aroundResult m b) ∧
      ∀ halt, r.receive m (r.answer m (.ok b)) ≠ .error (.panicked halt) := by
  have haround := hr.aroundResult
  rcases hser : (I.reply m).serialize b with err | j
  · obtain ⟨error, herror⟩ := hr.receives_unserialized m b err hser hb
    rw [herror]
    refine ⟨iff_of_false (fun h => by cases h) ?_, fun halt h => by cases h⟩
    rintro ⟨j, hj, -, -⟩
    rw [hser] at hj
    cases hj
  · obtain ⟨hwhole, result, hde⟩ := hI m b j hser
    by_cases hlevels : j.levels + r.aroundResult ≤ JsonText.maxLevels
    · rw [hr.receives m b j hser hb ⟨hwhole, by omega⟩]
      constructor
      · constructor
        · intro h
          rcases result with err | b'
          · simp only [Interface.receive, hde] at h
            cases h
          · simp only [Interface.receive, hde] at h
            obtain rfl := Except.ok.inj h
            exact ⟨j, hser, hlevels, hde⟩
        · rintro ⟨j', hj', -, hback⟩
          obtain rfl := Except.ok.inj (hser.symm.trans hj')
          simp only [Interface.receive, hback]
      · intro halt h
        rcases result with err | b' <;> simp only [Interface.receive, hde] at h <;> cases h
    · have hmax : r.aroundResult ≤ JsonText.maxLevels := Nat.le_trans haround (by decide)
      obtain ⟨error, herror⟩ := hr.receives_deep m b j hser hb hwhole (by omega)
      rw [herror]
      refine ⟨iff_of_false (fun h => by cases h) ?_, fun halt h => by cases h⟩
      rintro ⟨j', hj', hfits, -⟩
      obtain rfl := Except.ok.inj (hser.symm.trans hj')
      exact hlevels hfits

/-- What the implementation has returned is delivered as it is exactly if it is an error, or a
result that can be delivered. -/
theorem deliver_eq_asOutcome_iff (hr : r.Lawful) (hI : Safe I) {ret : I.Returned}
    (hret : r.CarriesBack ret.method ret.result) :
    r.deliver ret = I.asOutcome ret ↔
      ∀ b, ret.result = .ok b → DeliversAt r.aroundResult ret.method b := by
  obtain ⟨m, error | b⟩ := ret
  · refine iff_of_true ?_ fun b hb => by cases hb
    rw [deliver, hr.receives_error m error hret]
    rfl
  · have hiff : r.deliver ⟨m, .ok b⟩ = I.asOutcome ⟨m, .ok b⟩ ↔
        r.receive m (r.answer m (.ok b)) = .ok b := by
      rw [deliver, Interface.asOutcome, Interface.Outcome.mk.injEq]
      exact ⟨fun h => eq_of_heq h.2, fun h => ⟨rfl, heq_of_eq h⟩⟩
    rw [hiff, (receive_answer hr hI hret).1]
    refine ⟨fun h b' hb' => ?_, fun h => h b rfl⟩
    obtain rfl := Except.ok.inj hb'
    exact h

/-- Nothing that is delivered makes the client panic. -/
theorem receive_ne_panicked (hr : r.Lawful) (hI : Safe I) {m : M}
    {result : Except ErrorObject (I.Result m)} (hback : r.CarriesBack m result) (halt : Halt) :
    r.receive m (r.answer m result) ≠ .error (.panicked halt) := by
  rcases result with error | b
  · rw [hr.receives_error m error hback]
    intro h
    cases h
  · exact (receive_answer hr hI hback).2 halt

/-! ### Sequences of calls -/

/-- The arguments are written, not too deeply, and are what is read. -/
def SendsAt (around : ℕ) (m : M) (a : I.Args m) : Prop :=
  ∃ js, (I.params m).serialize a = .ok js ∧
    (∀ j ∈ js, j.Shallow (JsonText.maxLevels - around)) ∧ (I.params m).deserialize js = .ok a

theorem sendsAt_of_shallow {n around : ℕ} {m : M} {a : I.Args m}
    (ha : (I.params m).RoundTripsAt a) (h : (I.params m).Shallow n)
    (hn : n + around ≤ JsonText.maxLevels) : SendsAt around m a := by
  obtain ⟨js, hser, hde⟩ := ha
  exact ⟨js, hser, fun j hj => (h a js hser j hj).mono (by omega), hde⟩

theorem call_of_sendsAt (hr : r.Lawful) (hI : Safe I) {c : I.Call}
    (hc : SendsAt r.aroundParams c.method c.args) (hcarries : r.Carries c.method c.args)
    (server : I.Server σ) (s : σ)
    (hback : r.CarriesBack c.method (server c.method c.args s).1) :
    r.call server c s =
      (.ok (r.receive c.method (r.answer c.method (server c.method c.args s).1)),
        (server c.method c.args s).2) := by
  obtain ⟨js, hser, hshallow, hde⟩ := hc
  obtain ⟨message, hsend⟩ := hr.sends c.method c.args js hser
  have hserve := hr.serves c.method c.args message js c.args hsend hcarries hser hshallow hde σ
    server s
  have hne := receive_ne_panicked hr hI hback
  simp only [call, hsend, hserve]

theorem call_of_serialize_error (hr : r.Lawful) {c : I.Call} {err : SerError}
    (h : (I.params c.method).serialize c.args = .error err) (server : I.Server σ) (s : σ) :
    ∃ halt, r.call server c s = (.error halt, s) := by
  obtain ⟨text, hsend⟩ := hr.sends_panics c.method c.args err h
  refine ⟨.panicked text, ?_⟩
  simp only [call, hsend]

/-- **Calls over stubs are calls.**  Where the arguments that are `sendable` arrive as they are
and the others have no JSON form: the implementation goes through the states of the direct
calls with the arguments up to the first that are not sendable, the outcomes are the results
of these calls, as they are delivered, and the client panics if arguments are left. -/
theorem calls_eq (hr : r.Lawful) (hI : Safe I) {sendable : I.Call → Bool}
    (hsend : ∀ c, sendable c = true → SendsAt r.aroundParams c.method c.args)
    (hnot : ∀ c, sendable c = false → ∃ err, (I.params c.method).serialize c.args = .error err)
    (server : I.Server σ) (cs : List I.Call) (s : σ)
    (hcarries : ∀ c ∈ cs, r.Carries c.method c.args)
    (hback : ∀ ret ∈ (I.direct server (cs.takeWhile sendable) s).1,
      r.CarriesBack ret.method ret.result) :
    (r.calls server cs s).server = (I.direct server (cs.takeWhile sendable) s).2 ∧
      (r.calls server cs s).outcomes =
        (I.direct server (cs.takeWhile sendable) s).1.map r.deliver ∧
      ((r.calls server cs s).panicked = true ↔ ∃ c ∈ cs, sendable c = false) := by
  induction cs generalizing s with
  | nil => exact ⟨rfl, rfl, iff_of_false Bool.false_ne_true (by simp)⟩
  | cons c cs ih =>
    rcases hc : sendable c with _ | _
    · obtain ⟨err, herr⟩ := hnot c hc
      obtain ⟨halt, hcall⟩ := call_of_serialize_error hr herr server s
      have hcons : r.calls server (c :: cs) s = ⟨[], true, s⟩ := by
        simp only [calls, hcall]
      rw [hcons, List.takeWhile_cons_of_neg (by rw [hc]; exact Bool.false_ne_true)]
      exact ⟨rfl, rfl, iff_of_true rfl ⟨c, List.mem_cons_self, hc⟩⟩
    · have htake : (c :: cs).takeWhile sendable = c :: cs.takeWhile sendable :=
        List.takeWhile_cons_of_pos hc
      rw [htake] at hback ⊢
      have hcall := call_of_sendsAt hr hI (hsend c hc) (hcarries c List.mem_cons_self) server s
        (hback ⟨c.method, (server c.method c.args s).1⟩ List.mem_cons_self)
      obtain ⟨hstate, houtcomes, hpanicked⟩ := ih (server c.method c.args s).2
        (fun c' hc' => hcarries c' (List.mem_cons_of_mem c hc'))
        (fun ret hret => hback ret (List.mem_cons_of_mem _ hret))
      have hcons : r.calls server (c :: cs) s =
          ⟨r.deliver ⟨c.method, (server c.method c.args s).1⟩ ::
              (r.calls server cs (server c.method c.args s).2).outcomes,
            (r.calls server cs (server c.method c.args s).2).panicked,
            (r.calls server cs (server c.method c.args s).2).server⟩ := by
        simp only [calls, hcall]
        rfl
      rw [hcons]
      refine ⟨hstate, ?_, ?_⟩
      · rw [houtcomes]
        rfl
      · rw [hpanicked, List.exists_mem_cons_iff, hc]
        simp

/-! ## JSON-RPC 2.0 -/

end Stubs

namespace Interface

variable (I : Interface M)

/-- The method that has a name. -/
def find (name : String) : Option M := I.methods.find? fun m => I.name m == name

variable {I}

/-- **The name of a method leads to it**, and to no other. -/
theorem find_name (m : M) : I.find (I.name m) = some m := by
  obtain ⟨pre, post, hsplit⟩ := List.append_of_mem (I.complete m)
  have hnodup := I.names_nodup
  rw [hsplit, List.map_append, List.map_cons] at hnodup
  have hpre : ∀ x ∈ pre, (I.name x == I.name m) = false := by
    intro x hx
    refine beq_eq_false_iff_ne.mpr fun hname => ?_
    exact (List.nodup_append.mp hnodup).2.2 (I.name x) (List.mem_map_of_mem hx) (I.name m)
      List.mem_cons_self hname
  have hnone : pre.find? (fun x => I.name x == I.name m) = none := by
    rw [List.find?_eq_none]
    intro x hx
    rw [hpre x hx]
    exact Bool.false_ne_true
  rw [find, hsplit, List.find?_append, hnone, Option.none_or]
  exact List.find?_cons_of_pos (beq_self_eq_true _)

end Interface

namespace Stubs

variable {I : Interface M} (t : JsonText)

/-- The name of a method, and the texts of its parameters. -/
structure Request where
  method : String
  params : List t.Text

/-- The result of a method as a response. -/
def respond (m : M) : Except ErrorObject (I.Result m) → Except ErrorObject t.Text
  | .error error => .error error
  | .ok b =>
      match (I.reply m).serialize b with
      | .ok j => .ok (t.write j)
      | .error _ => .error .internalError

def dispatch {σ : Type} (server : I.Server σ) (request : Request t) (s : σ) :
    Except ErrorObject t.Text × σ :=
  match I.find request.method with
  | none => (.error .methodNotFound, s)
  | some m =>
      match Serde.traverse t.read request.params with
      | .error _ => (.error .invalidParams, s)
      | .ok params =>
          match (I.params m).deserialize params with
          | .error _ => (.error .invalidParams, s)
          | .ok a => (respond t m (server m a s).1, (server m a s).2)

/-- Parameters and results are read on their own, each from its own text. -/
def jsonRpc (I : Interface M) : Stubs I where
  Message := Request t
  Answer := Except ErrorObject t.Text
  send m a :=
    match (I.params m).serialize a with
    | .error _ => .error (.panicked "Parameter cannot be serialized")
    | .ok js => .ok ⟨I.name m, js.map t.write⟩
  serve := dispatch t
  answer := respond t
  receive m
    | .error error => .error (.call error)
    | .ok text =>
        match t.read text with
        | .error error => .error (.parse error)
        | .ok j => I.receive m (.ok j)
  aroundParams := 0
  aroundResult := 0
  Carries _ _ := True
  CarriesBack _ _ := True

theorem traverse_read {t : JsonText} (ht : t.Lawful) {js : List Json}
    (h : ∀ j ∈ js, j.Shallow JsonText.maxLevels) :
    Serde.traverse t.read (js.map t.write) = .ok js := by
  induction js with
  | nil => rfl
  | cons j js ih =>
    rw [List.map_cons]
    obtain ⟨hj, hjs⟩ := List.forall_mem_cons.mp h
    exact traverse_cons_ok.mpr ⟨j, js, ht.reads j hj, ih hjs, rfl⟩

/-- **They are lawful.** -/
theorem jsonRpc_lawful {t : JsonText} (ht : t.Lawful) (I : Interface M) :
    (jsonRpc t I).Lawful where
  aroundParams := Nat.zero_le 2
  aroundResult := Nat.zero_le 2
  sends m a js hjs := ⟨⟨I.name m, js.map t.write⟩, by simp only [jsonRpc, hjs]⟩
  sends_panics m a err herr := ⟨"Parameter cannot be serialized", by simp only [jsonRpc, herr]⟩
  serves m a message js a' hsend _ hjs hshallow hde σ server s := by
    simp only [jsonRpc, hjs] at hsend
    obtain rfl := Except.ok.inj hsend
    simp only [jsonRpc, dispatch, Interface.find_name, traverse_read ht hshallow, hde]
  receives_error _ _ _ := rfl
  receives_unserialized m b err hser _ := by
    refine ⟨.internalError, ?_⟩
    simp only [jsonRpc, respond, hser]
  receives m b j hser _ hshallow := by
    simp only [jsonRpc, respond, hser, ht.reads j hshallow]
  receives_deep m b j hser _ hwhole hdeep := by
    obtain ⟨error, herror⟩ := ht.refuses j hwhole hdeep
    refine ⟨error, ?_⟩
    simp only [jsonRpc, respond, hser, herror]

end Stubs
end JsonRpc
end MevShare
