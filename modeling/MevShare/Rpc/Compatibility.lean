import MevShare.Library.Tolerance
import MevShare.Rpc.Api

/-!
# Answers of a later server

The response types of `mev-share-rpc-api/src/types.rs` are read by derived codecs without
`deny_unknown_fields`, and `BundleStats`, whose codec is written by hand, looks at two of its
members before it hands the object on.  So a server may say more than the clients know.

`later_answers` is the result: of two answers to a call that agree, at every depth, on the
members that the type of the result knows (`ApiMethod.resultNames`), the client makes the
same result; and if one of them makes it panic, as `BundleStats` may, so does the other.  The
logs of a simulated bundle are nested to any depth, and `Codec.fix_tolerant` is for them.

An answer is a JSON value here.  The text that it comes in, and the limit on nesting that there
is for the parser of the text, are left out.

The codecs of `ethers` are assumed to be tolerant of what is not in `K`, which therefore has
the names of the members of a log.  `Ethers.hex_tolerant` and `StringifiedNumeric.text_tolerant`
say so of the ones that stand for them here.
-/

namespace MevShare
namespace Rpc

open Serde Rust JsonRpc

variable {s : StringifiedNumeric} {e : Ethers} {K : String → Prop}

/-! ## Foreign codecs -/

/-- What is assumed of the `ethers` types. -/
structure Ethers.Tolerant (K : String → Prop) (e : Ethers) : Prop where
  u64 : e.u64.Tolerant K
  h256 : e.h256.Tolerant K
  address : e.address.Tolerant K
  bytes : e.bytes.Tolerant K
  log : e.log.Tolerant K

def StringifiedNumeric.Tolerant (K : String → Prop) (s : StringifiedNumeric) : Prop :=
  ∀ j j', j.Agree K j' → ∀ num, s.deserialize j = .ok num ↔ s.deserialize j' = .ok num

theorem StringifiedNumeric.text_tolerant : StringifiedNumeric.text.Tolerant K :=
  fun _ _ h => Codec.string_tolerant _ _ _ (Nat.lt_succ_self _) h

namespace Hex

/-- Text is all that is read. -/
theorem read_agree {j j' : Json} (h : j.Agree K j') : read j = read j' := by
  cases h <;> rfl

theorem u64_tolerant : u64.Tolerant K := by
  intro n j j' _ h a
  simp only [u64, readQuantity, read_agree h]

theorem u256_tolerant : u256.Tolerant K := by
  intro n j j' _ h a
  simp only [u256, readQuantity, read_agree h]

theorem data_tolerant (digits : ℕ) : (data digits).Tolerant K := by
  intro n j j' _ h a
  simp only [data, read_agree h]

theorem bytes_tolerant : bytes.Tolerant K := by
  intro n j j' _ h a
  simp only [bytes, read_agree h]

/-- The members of a log. -/
def logNames : List String :=
  ["address", "topics", "data", "blockHash", "blockNumber", "transactionHash",
    "transactionIndex", "logIndex", "transactionLogIndex", "logType", "removed"]

theorem log_tolerant (hK : ∀ name ∈ logNames, K name) : log.codec.Tolerant K := by
  refine Record.codec_tolerant fun n => ?_
  have hdata : ∀ name ∈ logNames, (Field.skipNone name h256).TolerantBelow K n :=
    fun name hname => Field.skipNone_tolerantBelow (hK name hname) (data_tolerant _ n)
  have hu64 : ∀ name ∈ logNames, (Field.skipNone name u64).TolerantBelow K n :=
    fun name hname => Field.skipNone_tolerantBelow (hK name hname) (u64_tolerant n)
  have hu256 : ∀ name ∈ logNames, (Field.skipNone name u256).TolerantBelow K n :=
    fun name hname => Field.skipNone_tolerantBelow (hK name hname) (u256_tolerant n)
  refine (Record.pure_tolerantBelow _).field ?_ |>.field ?_ |>.field ?_ |>.field ?_ |>.field ?_
    |>.field ?_ |>.field ?_ |>.field ?_ |>.field ?_ |>.field ?_ |>.field ?_
  · exact Field.required_tolerantBelow (hK _ (by decide)) (data_tolerant _ n)
  · exact Field.required_tolerantBelow (hK _ (by decide))
      (Codec.vec_tolerantBelow (data_tolerant _ n))
  · exact Field.required_tolerantBelow (hK _ (by decide)) (bytes_tolerant n)
  · exact hdata _ (by decide)
  · exact hu64 _ (by decide)
  · exact hdata _ (by decide)
  · exact hu64 _ (by decide)
  · exact hu256 _ (by decide)
  · exact hu256 _ (by decide)
  · exact Field.skipNone_tolerantBelow (hK _ (by decide)) (Codec.string_tolerant n)
  · exact Field.skipNone_tolerantBelow (hK _ (by decide)) (Codec.bool_tolerant n)

end Hex

theorem Ethers.hex_tolerant (hK : ∀ name ∈ Hex.logNames, K name) : Ethers.hex.Tolerant K where
  u64 := Hex.u64_tolerant
  h256 := Hex.data_tolerant _
  address := Hex.data_tolerant _
  bytes := Hex.bytes_tolerant
  log := Hex.log_tolerant hK

/-! ## Results -/

theorem u256NumericString_tolerant (hs : s.Tolerant K) : (u256NumericString s).Tolerant K := by
  intro n j j' _ h a
  have hread : ∀ j : Json, (u256NumericString s).deserialize j = .ok a ↔
      ∃ num, s.deserialize j = .ok num ∧ s.tryInto num = .ok a := by
    intro j
    simp only [u256NumericString]
    rcases s.deserialize j with err | num
    · simp
    · rcases hinto : s.tryInto num with message | n <;> simp [hinto]
  simp only [hread, hs j j' h _]

/-- The members that the result of a method has, and those of its parts. -/
def ApiMethod.resultNames : ApiMethod → List String
  | eth .sendBundle => ["bundleHash"]
  | eth .callBundle => ["coinbaseDiff", "ethSentToCoinbase", "fromAddress", "gasFees", "gasPrice",
      "gasUsed", "toAddress", "txHash", "value"]
  | flashbots .getUserStats => ["isHighPriority", "allTimeValidatorPayments",
      "allTimeGasSimulated", "last7dValidatorPayments", "last7dGasSimulated",
      "last1dValidatorPayments", "last1dGasSimulated"]
  | flashbots .getBundleStats => ["isHighPriority", "isSimulated", "receivedAt", "simulatedAt",
      "consideredByBuildersAt", "sealedByBuildersAt", "pubkey", "timestamp"]
  | mev .sendBundle => ["bundleHash"]
  | mev .simBundle => ["success", "error", "stateBlock", "mevGasPrice", "profit",
      "refundableValue", "gasUsed", "logs", "txLogs", "bundleLogs"]
  | _ => []

/-- A structure of one required field. -/
theorem tolerant_of_field {σ α : Type} {mk : α → σ} {part : σ → α} {name : String} {c : Codec α}
    (hname : K name) (hc : c.Tolerant K) :
    ((Record.pure σ mk).field (.required name c) part).codec.Tolerant K :=
  Record.codec_tolerant fun n => (Record.pure_tolerantBelow _).field
    (Field.required_tolerantBelow hname (hc n))

theorem EthCallBundleTransactionResult.tolerant (hs : s.Tolerant K) (he : e.Tolerant K)
    (hK : ∀ name ∈ (ApiMethod.eth .callBundle).resultNames, K name) :
    (record s e).codec.Tolerant K := by
  refine Record.codec_tolerant fun n => ?_
  have hamount : ∀ name ∈ (ApiMethod.eth .callBundle).resultNames,
      (Field.required name (u256NumericString s)).TolerantBelow K n := fun name hname =>
    Field.required_tolerantBelow (hK name hname) (u256NumericString_tolerant hs n)
  refine (Record.pure_tolerantBelow _).field ?_ |>.field ?_ |>.field ?_ |>.field ?_ |>.field ?_
    |>.field ?_ |>.field ?_ |>.field ?_ |>.field ?_
  · exact hamount _ (by decide)
  · exact hamount _ (by decide)
  · exact Field.required_tolerantBelow (hK _ (by decide)) (he.address n)
  · exact hamount _ (by decide)
  · exact hamount _ (by decide)
  · exact Field.required_tolerantBelow (hK _ (by decide)) (Codec.u64_tolerant n)
  · exact Field.required_tolerantBelow (hK _ (by decide)) (he.address n)
  · exact Field.required_tolerantBelow (hK _ (by decide)) (he.h256 n)
  · exact Field.required_tolerantBelow (hK _ (by decide)) (he.bytes n)

theorem UserStats.tolerant (hs : s.Tolerant K)
    (hK : ∀ name ∈ (ApiMethod.flashbots .getUserStats).resultNames, K name) :
    (record s).codec.Tolerant K := by
  refine Record.codec_tolerant fun n => ?_
  have hamount : ∀ name ∈ (ApiMethod.flashbots .getUserStats).resultNames,
      (Field.required name (u256NumericString s)).TolerantBelow K n := fun name hname =>
    Field.required_tolerantBelow (hK name hname) (u256NumericString_tolerant hs n)
  refine (Record.pure_tolerantBelow _).field ?_ |>.field (hamount _ (by decide))
    |>.field (hamount _ (by decide)) |>.field (hamount _ (by decide))
    |>.field (hamount _ (by decide)) |>.field (hamount _ (by decide))
    |>.field (hamount _ (by decide))
  exact Field.required_tolerantBelow (hK _ (by decide)) (Codec.bool_tolerant n)

/-- **Logs** are nested, to any depth. -/
theorem SimBundleLogs.tolerant (he : e.Tolerant K) (htxLogs : K "txLogs")
    (hbundleLogs : K "bundleLogs") : (codec e).Tolerant K := by
  refine Codec.fix_tolerant (guarded e) fun n c hc => Record.codec_tolerantBelow ?_
  refine (Record.pure_tolerantBelow _).field ?_ |>.field ?_
  · exact Field.skipNone_tolerantBelow htxLogs (Codec.vec_tolerantBelow (he.log n))
  · exact Field.skipNone_tolerantBelow hbundleLogs (Codec.vec_tolerantBelow hc)

theorem SimBundleResponse.tolerant (he : e.Tolerant K)
    (hK : ∀ name ∈ (ApiMethod.mev .simBundle).resultNames, K name) :
    (record e).codec.Tolerant K := by
  refine Record.codec_tolerant fun n => ?_
  have hu64 : ∀ name ∈ (ApiMethod.mev .simBundle).resultNames,
      (Field.required name e.u64).TolerantBelow K n := fun name hname =>
    Field.required_tolerantBelow (hK name hname) (he.u64 n)
  have hlogs := SimBundleLogs.tolerant he (hK _ (by decide)) (hK _ (by decide)) n
  refine (Record.pure_tolerantBelow _).field ?_ |>.field ?_ |>.field (hu64 _ (by decide))
    |>.field (hu64 _ (by decide)) |>.field (hu64 _ (by decide)) |>.field (hu64 _ (by decide))
    |>.field (hu64 _ (by decide)) |>.field ?_
  · exact Field.required_tolerantBelow (hK _ (by decide)) (Codec.bool_tolerant n)
  · exact Field.skipNone_tolerantBelow (hK _ (by decide)) (Codec.string_tolerant n)
  · exact Field.skipNone_tolerantBelow (hK _ (by decide)) (Codec.vec_tolerantBelow hlogs)

theorem StatsSeen.tolerant
    (hK : ∀ name ∈ (ApiMethod.flashbots .getBundleStats).resultNames, K name) :
    record.codec.Tolerant K := by
  refine Record.codec_tolerant fun n => ?_
  refine (Record.pure_tolerantBelow _).field ?_ |>.field ?_ |>.field ?_
  · exact Field.required_tolerantBelow (hK _ (by decide)) (Codec.bool_tolerant n)
  · exact Field.required_tolerantBelow (hK _ (by decide)) (Codec.bool_tolerant n)
  · exact Field.required_tolerantBelow (hK _ (by decide)) (Codec.string_tolerant n)

/-- A builder and a time. -/
theorem builderAt_tolerant {σ : Type} {mk : String → String → σ} {pubkey timestamp : σ → String}
    (hpubkey : K "pubkey") (htimestamp : K "timestamp") :
    (((Record.pure σ mk).field (.required "pubkey" Codec.string) pubkey).field
      (.required "timestamp" Codec.string) timestamp).codec.Tolerant K :=
  Record.codec_tolerant fun n => (Record.pure_tolerantBelow _)
    |>.field (Field.required_tolerantBelow hpubkey (Codec.string_tolerant n))
    |>.field (Field.required_tolerantBelow htimestamp (Codec.string_tolerant n))

theorem StatsSimulated.tolerant
    (hK : ∀ name ∈ (ApiMethod.flashbots .getBundleStats).resultNames, K name) :
    record.codec.Tolerant K := by
  refine Record.codec_tolerant fun n => ?_
  have hpubkey : K "pubkey" := hK _ (by decide)
  have htimestamp : K "timestamp" := hK _ (by decide)
  refine (Record.pure_tolerantBelow _).field ?_ |>.field ?_ |>.field ?_ |>.field ?_ |>.field ?_
    |>.field ?_
  · exact Field.required_tolerantBelow (hK _ (by decide)) (Codec.bool_tolerant n)
  · exact Field.required_tolerantBelow (hK _ (by decide)) (Codec.bool_tolerant n)
  · exact Field.required_tolerantBelow (hK _ (by decide)) (Codec.string_tolerant n)
  · exact Field.required_tolerantBelow (hK _ (by decide)) (Codec.string_tolerant n)
  · exact Field.default_tolerantBelow (Field.required_tolerantBelow (hK _ (by decide))
      (Codec.vec_tolerantBelow (builderAt_tolerant hpubkey htimestamp n)))
  · exact Field.default_tolerantBelow (Field.required_tolerantBelow (hK _ (by decide))
      (Codec.vec_tolerantBelow (builderAt_tolerant hpubkey htimestamp n)))

/-! ## Replies -/

/-- The values are read as the same, if at all, and what panics is the same. -/
def ReadsAlike {β : Type} (r : Reply β) (j j' : Json) : Prop :=
  (∀ b, r.deserialize j = .ok (.ok b) ↔ r.deserialize j' = .ok (.ok b)) ∧
    ∀ halt, r.deserialize j = .error halt ↔ r.deserialize j' = .error halt

theorem Reply.of_readsAlike {β : Type} {c : Codec β} (hc : c.Tolerant K) {j j' : Json}
    (h : j.Agree K j') : ReadsAlike (.of c) j j' := by
  have hread := hc _ j j' (Nat.lt_succ_self _) h
  refine ⟨fun b => ?_, fun halt => ?_⟩
  · simp only [Reply.of, Except.ok.injEq, hread b]
  · simp only [Reply.of, reduceCtorEq]

namespace BundleStats

theorem deserializeSeen_ok {map : List (String × Json)} {stats : BundleStats} :
    deserializeSeen map = .ok stats ↔
      ∃ seen, stats = .seen seen ∧ StatsSeen.record.codec.deserialize (.object map) = .ok seen := by
  unfold deserializeSeen
  rcases StatsSeen.record.codec.deserialize (.object map) with err | seen
  · simp
  · simp [eq_comm]

theorem deserializeSimulated_ok {map : List (String × Json)} {stats : BundleStats} :
    deserializeSimulated map = .ok stats ↔ ∃ simulated, stats = .simulated simulated ∧
      StatsSimulated.record.codec.deserialize (.object map) = .ok simulated := by
  unfold deserializeSimulated
  rcases StatsSimulated.record.codec.deserialize (.object map) with err | simulated
  · simp
  · simp [eq_comm]

/-- **Statistics** are read by hand, and yet nothing else in an object matters. -/
theorem readsAlike (hK : ∀ name ∈ (ApiMethod.flashbots .getBundleStats).resultNames, K name)
    {j j' : Json} (h : j.Agree K j') : ReadsAlike ⟨serialize, deserialize⟩ j j' := by
  have hseen := StatsSeen.tolerant hK _ j j' (Nat.lt_succ_self _) h
  have hsimulated := StatsSimulated.tolerant hK _ j j' (Nat.lt_succ_self _) h
  cases h with
  | @object o o' _ _ h =>
    have hreceived := h "receivedAt" (hK _ (by decide))
    have hflag := h "isSimulated" (hK _ (by decide))
    generalize hr : o.lookup "receivedAt" = received at hreceived
    generalize hr' : o'.lookup "receivedAt" = received' at hreceived
    generalize hf : o.lookup "isSimulated" = flag at hflag
    generalize hf' : o'.lookup "isSimulated" = flag' at hflag
    unfold ReadsAlike
    rcases hreceived with _ | _
    · rcases hflag with hflag | _
      · rename_i flag flag'
        by_cases hfalse : flag = .bool false
        · have hfalse' := hflag.bool_iff.mp hfalse
          subst hfalse hfalse'
          simp only [deserialize_of_flag hr hf, deserialize_of_flag hr' hf', Bool.false_eq_true,
            if_false, Except.ok.injEq, deserializeSeen_ok, hseen _, reduceCtorEq, implies_true,
            and_self]
        · have hfalse' := fun hf => hfalse (hflag.bool_iff.mpr hf)
          simp only [(deserialize_of_notFalse hr hf hfalse).1,
            (deserialize_of_notFalse hr' hf' hfalse').1, Except.ok.injEq, deserializeSimulated_ok,
            hsimulated _, reduceCtorEq, implies_true, and_self]
      · simp only [deserialize_of_noFlag hr hf, deserialize_of_noFlag hr' hf', implies_true,
          and_self]
    · simp only [deserialize, deserializeMap, hr, hr', implies_true, and_self]
  | _ => exact ⟨fun _ => Iff.rfl, fun _ => Iff.rfl⟩

end BundleStats

/-- **Results** of every method. -/
theorem reply_readsAlike (hs : s.Tolerant K) (he : e.Tolerant K) {m : ApiMethod}
    (hK : ∀ name ∈ m.resultNames, K name) {j j' : Json} (h : j.Agree K j') :
    ReadsAlike ((api s e).reply m) j j' := by
  rcases m with m | m | m
  · rcases m with _ | _ | _ | _ | _ | _
    · exact Reply.of_readsAlike (tolerant_of_field (hK _ (by decide)) he.h256) h
    · exact Reply.of_readsAlike (EthCallBundleTransactionResult.tolerant hs he hK) h
    · exact Reply.of_readsAlike Codec.unit_tolerant h
    · exact Reply.of_readsAlike he.h256 h
    · exact Reply.of_readsAlike he.h256 h
    · exact Reply.of_readsAlike Codec.bool_tolerant h
  · rcases m with _ | _
    · exact Reply.of_readsAlike (UserStats.tolerant hs hK) h
    · exact BundleStats.readsAlike hK h
  · rcases m with _ | _
    · exact Reply.of_readsAlike (tolerant_of_field (hK _ (by decide)) he.h256) h
    · exact Reply.of_readsAlike (SimBundleResponse.tolerant he hK) h

/-- What a client makes of an answer, and what the reader of the result does. -/
theorem receive_ok_iff {M : Type} {I : Interface M} {m : M} {j : Json} {b : I.Result m} :
    I.receive m (.ok j) = .ok b ↔ (I.reply m).deserialize j = .ok (.ok b) := by
  rw [Interface.receive]
  rcases (I.reply m).deserialize j with halt | (err | b')
  · simp only [reduceCtorEq]
  · simp only [reduceCtorEq, Except.ok.injEq]
  · simp only [Except.ok.injEq]

theorem receive_panicked_iff {M : Type} {I : Interface M} {m : M} {j : Json} {halt : Halt} :
    I.receive m (.ok j) = .error (.panicked halt) ↔
      (I.reply m).deserialize j = .error halt := by
  rw [Interface.receive]
  rcases (I.reply m).deserialize j with halt' | (err | b')
  · simp only [Except.error.injEq, ClientError.panicked.injEq]
  · simp only [Except.error.injEq, reduceCtorEq]
  · simp only [reduceCtorEq]

/-- **Answers of a later server.**  Of two answers that agree on the members which the result
of the method has, at every depth, the client makes the same result, if any of them has one,
and one makes it panic exactly if the other does. -/
theorem later_answers (hs : s.Tolerant K) (he : e.Tolerant K) {m : ApiMethod}
    (hK : ∀ name ∈ m.resultNames, K name) {j j' : Json} (h : j.Agree K j') :
    (∀ b, (api s e).receive m (.ok j) = .ok b ↔ (api s e).receive m (.ok j') = .ok b) ∧
      ∀ halt, (api s e).receive m (.ok j) = .error (.panicked halt) ↔
        (api s e).receive m (.ok j') = .error (.panicked halt) := by
  obtain ⟨hresult, hpanic⟩ := reply_readsAlike hs he hK h
  refine ⟨fun b => ?_, fun halt => ?_⟩
  · rw [receive_ok_iff, receive_ok_iff]
    exact hresult b
  · rw [receive_panicked_iff, receive_panicked_iff]
    exact hpanic halt

/-- The statistics of a bundle that was seen. -/
def seenAnswer : List (String × Json) :=
  [("isHighPriority", .bool true), ("isSimulated", .bool false),
    ("receivedAt", .string "476190476193")]

/-- A relay that names itself, in an object. -/
def relayMember : String × Json := ("relay", .object [("isSimulated", .bool true)])

theorem seenAnswer_agree :
    (Json.object seenAnswer).Agree (· ≠ "relay") (.object (relayMember :: seenAnswer)) := by
  refine .object (by decide) (by decide) fun name hname => ?_
  have hother : (name == "relay") = false := beq_false_of_ne hname
  simp only [seenAnswer, relayMember, List.lookup_cons, hother, List.lookup_nil]
  rcases name == "isHighPriority" with _ | _
  · rcases name == "isSimulated" with _ | _
    · rcases name == "receivedAt" with _ | _
      · exact .none
      · exact .some (.string _)
    · exact .some (.bool _)
  · exact .some (.bool _)

/-- The flag in the new member is not taken for that of the bundle. -/
theorem later_answers_seenAnswer :
    (api .text .hex).receive (.flashbots .getBundleStats)
        (.ok (.object (relayMember :: seenAnswer))) =
      .ok (.seen ⟨true, false, "476190476193"⟩) := by
  obtain ⟨hresult, -⟩ := later_answers (m := .flashbots .getBundleStats)
    StringifiedNumeric.text_tolerant (Ethers.hex_tolerant (by decide)) (by decide) seenAnswer_agree
  exact (hresult _).mp rfl

end Rpc
end MevShare
