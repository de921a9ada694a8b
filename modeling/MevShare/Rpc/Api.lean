import MevShare.Library.JsonRpc
import MevShare.Rpc.NumericString
import MevShare.Rpc.Stats
import MevShare.Rpc.Wire

/-!
# The interfaces

The three interfaces of `mev-share-rpc-api`: `eth.rs`, `flashbots.rs` and `mev.rs`.  Each
declares its methods once, and the client and the server are generated from the declaration.
A method is sent under the name of its interface and its own, with a line between them, and
its arguments are sent by position.

`api` is what a server that implements all three of them offers.  `calls_transparent` is the
result: a client that calls the methods in any order deals with the implementation as if it
were its own.  There are four exceptions, and they are exact.

* `eth_callBundle` takes what looks like a response, with amounts in it; where one does not
  fit into `u128`, the client panics before anything is sent.
* `eth_callBundle` and `flashbots_getUserStatsV2` answer with amounts,
* `flashbots_getBundleStatsV2` with statistics whose flag may contradict their variant
  (`BundleStats.FlagAgrees`), and
* `mev_simBundle` with logs that may be nested more deeply than is read.

What is generated is not in the repository.  It is the parameter `Stubs`, and so are the limits
on the size of messages and on time: the calls are those whose messages get through.

The client traits that users see pass their arguments on to the generated ones; those of
`flashbots.rs` put them into a request first.
-/

namespace MevShare
namespace Rpc

open Serde Rust JsonRpc

variable {s : StringifiedNumeric} {e : Ethers}

/-! ## Requests and responses of one field -/

/-- Response from the matchmaker after sending a bundle. -/
structure SendBundleResponse where
  bundleHash : H256
  deriving DecidableEq, Repr

/-- Request for `eth_cancelBundle`. -/
structure CancelBundleRequest where
  bundleHash : String
  deriving DecidableEq, Repr

/-- Request for `eth_cancelPrivateTransaction`. -/
structure CancelPrivateTransactionRequest where
  txHash : H256
  deriving DecidableEq, Repr

/-- Response from the matchmaker after sending a bundle. -/
structure EthBundleHash where
  bundleHash : H256
  deriving DecidableEq, Repr

structure GetUserStatsRequest where
  blockNumber : U64
  deriving DecidableEq, Repr

structure GetBundleStatsRequest where
  bundleHash : H256
  blockNumber : U64
  deriving DecidableEq, Repr

def SendBundleResponse.record (e : Ethers) : Record SendBundleResponse SendBundleResponse :=
  Record.pure SendBundleResponse SendBundleResponse.mk
    |>.field (.required "bundleHash" e.h256) (·.bundleHash)

def CancelBundleRequest.record : Record CancelBundleRequest CancelBundleRequest :=
  Record.pure CancelBundleRequest CancelBundleRequest.mk
    |>.field (.required "bundleHash" Codec.string) (·.bundleHash)

def CancelPrivateTransactionRequest.record (e : Ethers) :
    Record CancelPrivateTransactionRequest CancelPrivateTransactionRequest :=
  Record.pure CancelPrivateTransactionRequest CancelPrivateTransactionRequest.mk
    |>.field (.required "txHash" e.h256) (·.txHash)

def EthBundleHash.record (e : Ethers) : Record EthBundleHash EthBundleHash :=
  Record.pure EthBundleHash EthBundleHash.mk
    |>.field (.required "bundleHash" e.h256) (·.bundleHash)

def GetUserStatsRequest.record (e : Ethers) : Record GetUserStatsRequest GetUserStatsRequest :=
  Record.pure GetUserStatsRequest GetUserStatsRequest.mk
    |>.field (.required "blockNumber" e.u64) (·.blockNumber)

def GetBundleStatsRequest.record (e : Ethers) :
    Record GetBundleStatsRequest GetBundleStatsRequest :=
  Record.pure GetBundleStatsRequest GetBundleStatsRequest.mk
    |>.field (.required "bundleHash" e.h256) (·.bundleHash)
    |>.field (.required "blockNumber" e.u64) (·.blockNumber)

/-- A structure of one required field makes the round trip if the field does. -/
theorem roundTripsAt_of_field {σ α : Type} {mk : α → σ} {part : σ → α} {name : String}
    {c : Codec α} (hc : c.RoundTrips) {a : σ} (hmk : mk (part a) = a) :
    ((Record.pure σ mk).field (.required name c) part).codec.RoundTripsAt a := by
  refine Record.codec_roundTripsAt hmk (List.nodup_singleton name) ?_
  rw [Record.field_roundTripsAt]
  exact ⟨Record.pure_roundTripsAt, Field.required_roundTrips hc _⟩

theorem GetBundleStatsRequest.roundTrips (he : e.Lawful) :
    (GetBundleStatsRequest.record e).codec.RoundTrips := by
  intro r
  have hnames : ["bundleHash", "blockNumber"].Nodup := by decide
  refine Record.codec_roundTripsAt rfl hnames ?_
  simp only [record, Record.field_roundTripsAt]
  exact ⟨⟨Record.pure_roundTripsAt, Field.required_roundTrips he.h256 _⟩,
    Field.required_roundTrips he.u64 _⟩

/-! ## `EthBundleApi` -/

/-- The methods of the `eth` interface. -/
inductive EthBundleApi where
  | sendBundle
  | callBundle
  | cancelBundle
  | sendPrivateTransaction
  | sendPrivateRawTransaction
  | cancelPrivateTransaction
  deriving DecidableEq, Repr

namespace EthBundleApi

def name : EthBundleApi → String
  | sendBundle => "eth_sendBundle"
  | callBundle => "eth_callBundle"
  | cancelBundle => "eth_cancelBundle"
  | sendPrivateTransaction => "eth_sendPrivateTransaction"
  | sendPrivateRawTransaction => "eth_sendPrivateRawTransaction"
  | cancelPrivateTransaction => "eth_cancelPrivateTransaction"

def Args : EthBundleApi → Type
  | sendBundle => EthSendBundle
  -- a response, as the source has it
  | callBundle => EthCallBundleResponse
  | cancelBundle => CancelBundleRequest
  | sendPrivateTransaction => PrivateTransactionRequest
  | sendPrivateRawTransaction => Bytes
  | cancelPrivateTransaction => CancelPrivateTransactionRequest

def Result : EthBundleApi → Type
  | sendBundle => EthBundleHash
  -- that of one transaction
  | callBundle => EthCallBundleTransactionResult
  | cancelBundle => Unit
  | sendPrivateTransaction => H256
  | sendPrivateRawTransaction => H256
  | cancelPrivateTransaction => Bool

def params (s : StringifiedNumeric) (e : Ethers) : (m : EthBundleApi) → Params m.Args
  | sendBundle => .single (EthSendBundle.record e).codec
  | callBundle => .single (EthCallBundleResponse.record s e).codec
  | cancelBundle => .single CancelBundleRequest.record.codec
  | sendPrivateTransaction => .single (PrivateTransactionRequest.record e).codec
  | sendPrivateRawTransaction => .single e.bytes
  | cancelPrivateTransaction => .single (CancelPrivateTransactionRequest.record e).codec

def reply (s : StringifiedNumeric) (e : Ethers) : (m : EthBundleApi) → Reply m.Result
  | sendBundle => .of (EthBundleHash.record e).codec
  | callBundle => .of (EthCallBundleTransactionResult.record s e).codec
  | cancelBundle => .of Codec.unit
  | sendPrivateTransaction => .of e.h256
  | sendPrivateRawTransaction => .of e.h256
  | cancelPrivateTransaction => .of Codec.bool

end EthBundleApi

/-! ## `FlashbotsApi` -/

/-- The methods of the `flashbots` interface. -/
inductive FlashbotsApi where
  | getUserStats
  | getBundleStats
  deriving DecidableEq, Repr

namespace FlashbotsApi

def name : FlashbotsApi → String
  | getUserStats => "flashbots_getUserStatsV2"
  | getBundleStats => "flashbots_getBundleStatsV2"

def Args : FlashbotsApi → Type
  | getUserStats => GetUserStatsRequest
  | getBundleStats => GetBundleStatsRequest

def Result : FlashbotsApi → Type
  | getUserStats => UserStats
  | getBundleStats => BundleStats

def params (e : Ethers) : (m : FlashbotsApi) → Params m.Args
  | getUserStats => .single (GetUserStatsRequest.record e).codec
  | getBundleStats => .single (GetBundleStatsRequest.record e).codec

def reply (s : StringifiedNumeric) : (m : FlashbotsApi) → Reply m.Result
  | getUserStats => .of (UserStats.record s).codec
  | getBundleStats => ⟨BundleStats.serialize, BundleStats.deserialize⟩

end FlashbotsApi

/-! ## `MevApi` -/

/-- The methods of the `mev` interface. -/
inductive MevApi where
  | sendBundle
  | simBundle
  deriving DecidableEq, Repr

namespace MevApi

def name : MevApi → String
  | sendBundle => "mev_sendBundle"
  | simBundle => "mev_simBundle"

def Args : MevApi → Type
  | sendBundle => SendBundleRequest
  | simBundle => SendBundleRequest × SimBundleOverrides

def Result : MevApi → Type
  | sendBundle => SendBundleResponse
  | simBundle => SimBundleResponse

def params (e : Ethers) : (m : MevApi) → Params m.Args
  | sendBundle => .single (SendBundleRequest.record e).codec
  | simBundle =>
      .cons (SendBundleRequest.record e).codec (.single (SimBundleOverrides.record e).codec)

def reply (e : Ethers) : (m : MevApi) → Reply m.Result
  | sendBundle => .of (SendBundleResponse.record e).codec
  | simBundle => .of (SimBundleResponse.record e).codec

end MevApi

/-! ## All three of them -/

inductive ApiMethod where
  | eth (m : EthBundleApi)
  | flashbots (m : FlashbotsApi)
  | mev (m : MevApi)
  deriving DecidableEq, Repr

namespace ApiMethod

def name : ApiMethod → String
  | eth m => m.name
  | flashbots m => m.name
  | mev m => m.name

def Args : ApiMethod → Type
  | eth m => m.Args
  | flashbots m => m.Args
  | mev m => m.Args

def Result : ApiMethod → Type
  | eth m => m.Result
  | flashbots m => m.Result
  | mev m => m.Result

def all : List ApiMethod :=
  [eth .sendBundle, eth .callBundle, eth .cancelBundle, eth .sendPrivateTransaction,
    eth .sendPrivateRawTransaction, eth .cancelPrivateTransaction, flashbots .getUserStats,
    flashbots .getBundleStats, mev .sendBundle, mev .simBundle]

theorem mem_all (m : ApiMethod) : m ∈ all := by
  rcases m with m | m | m <;> cases m <;> decide

end ApiMethod

/-- What a server of all three interfaces offers. -/
def api (s : StringifiedNumeric) (e : Ethers) : Interface ApiMethod where
  Args := ApiMethod.Args
  Result := ApiMethod.Result
  name := ApiMethod.name
  params
    | .eth m => m.params s e
    | .flashbots m => m.params e
    | .mev m => m.params e
  reply
    | .eth m => m.reply s e
    | .flashbots m => m.reply s
    | .mev m => m.reply e
  methods := ApiMethod.all
  complete := ApiMethod.mem_all
  names_nodup := by decide

/-! ### The clients -/

namespace EthBundleApiClient

def sendBundle (bundle : EthSendBundle) : (api s e).Call := ⟨.eth .sendBundle, bundle⟩

def callBundle (request : EthCallBundleResponse) : (api s e).Call := ⟨.eth .callBundle, request⟩

def cancelBundle (request : CancelBundleRequest) : (api s e).Call := ⟨.eth .cancelBundle, request⟩

def sendPrivateTransaction (request : PrivateTransactionRequest) : (api s e).Call :=
  ⟨.eth .sendPrivateTransaction, request⟩

def sendPrivateRawTransaction (bytes : Bytes) : (api s e).Call :=
  ⟨.eth .sendPrivateRawTransaction, bytes⟩

def cancelPrivateTransaction (request : CancelPrivateTransactionRequest) : (api s e).Call :=
  ⟨.eth .cancelPrivateTransaction, request⟩

end EthBundleApiClient

namespace FlashbotsApiClient

def getUserStats (blockNumber : U64) : (api s e).Call :=
  ⟨.flashbots .getUserStats, (⟨blockNumber⟩ : GetUserStatsRequest)⟩

def getBundleStats (bundleHash : H256) (blockNumber : U64) : (api s e).Call :=
  ⟨.flashbots .getBundleStats, (⟨bundleHash, blockNumber⟩ : GetBundleStatsRequest)⟩

end FlashbotsApiClient

namespace MevApiClient

def sendBundle (request : SendBundleRequest) : (api s e).Call := ⟨.mev .sendBundle, request⟩

def simBundle (bundle : SendBundleRequest) (simOverrides : SimBundleOverrides) : (api s e).Call :=
  ⟨.mev .simBundle, (bundle, simOverrides)⟩

end MevApiClient

/-! ## What goes through -/

instance (amounts : List U256) : Decidable (FitU128 amounts) :=
  inferInstanceAs (Decidable (∀ n ∈ amounts, n.toNat < 2 ^ 128))

namespace ApiMethod

/-- The arguments have a JSON form. -/
def sendable : (m : ApiMethod) → m.Args → Bool
  | eth .callBundle, request => decide (FitU128 (EthCallBundleResponse.amounts request))
  | _, _ => true

/-- The result has a JSON form that is read as the result, below so many levels of a message. -/
def Deliverable (around : ℕ) : (m : ApiMethod) → m.Result → Prop
  | eth .callBundle, result => FitU128 (EthCallBundleTransactionResult.amounts result)
  | flashbots .getUserStats, stats => FitU128 (UserStats.amounts stats)
  | flashbots .getBundleStats, stats => BundleStats.FlagAgrees stats
  | mev .simBundle, response =>
      SimBundleResponse.levels response + around ≤ JsonText.maxLevels
  | _, _ => True

end ApiMethod

theorem EthCallBundleResponse.readsBackAt (hs : s.Lawful) (he : e.Lawful)
    (r : EthCallBundleResponse) : (record s e).codec.ReadsBackAt r := by
  have hamount := amount_readsBackAt hs
  have hresults : (EthCallBundleTransactionResult.record s e).codec.vec.ReadsBackAt r.results :=
    Codec.vec_readsBackAt fun result _ => Record.codec_readsBackAt rfl result.names_nodup
      (EthCallBundleTransactionResult.readsBackAt hs he result)
  have hnames : ["bundleGasPrice", "bundleHash", "coinbaseDiff", "ethSentToCoinbase", "gasFees",
      "results", "stateBlockNumber", "totalGasUsed"].Nodup := by decide
  refine Record.codec_readsBackAt rfl hnames ?_
  simp only [record, Record.field_readsBackAt]
  exact ⟨⟨⟨⟨⟨⟨⟨⟨Record.pure_readsBackAt, hamount _ _⟩,
      required_readsBackAt Codec.string_roundTrips _ _⟩, hamount _ _⟩, hamount _ _⟩,
      hamount _ _⟩, Field.required_readsBackAt hresults⟩,
      required_readsBackAt Codec.u64_roundTrips _ _⟩,
    required_readsBackAt Codec.u64_roundTrips _ _⟩

/-- Arguments whose amounts fit arrive as they are. -/
theorem params_roundTripsAt (hs : s.Lawful) (he : e.Lawful) {m : ApiMethod} {a : m.Args}
    (h : m.sendable a = true) : ((api s e).params m).RoundTripsAt a := by
  rcases m with m | m | m
  · rcases m with _ | _ | _ | _ | _ | _
    · exact Params.single_roundTripsAt (EthSendBundle.roundTrips he a)
    · have hfit : decide (FitU128 (EthCallBundleResponse.amounts a)) = true := h
      rw [decide_eq_true_eq] at hfit
      exact Params.single_roundTripsAt 
        ((EthCallBundleResponse.roundTripsAt hs he a).mpr hfit)
    · exact Params.single_roundTripsAt (roundTripsAt_of_field Codec.string_roundTrips rfl)
    · exact Params.single_roundTripsAt (PrivateTransactionRequest.roundTrips he a)
    · exact Params.single_roundTripsAt (he.bytes a)
    · exact Params.single_roundTripsAt (roundTripsAt_of_field he.h256 rfl)
  · rcases m with _ | _
    · exact Params.single_roundTripsAt (roundTripsAt_of_field he.u64 rfl)
    · exact Params.single_roundTripsAt (GetBundleStatsRequest.roundTrips he a)
  · rcases m with _ | _
    · exact Params.single_roundTripsAt (SendBundleRequest.roundTrips he a)
    · obtain ⟨bundle, overrides⟩ := a
      exact Params.cons_roundTripsAt (SendBundleRequest.roundTrips he bundle)
        (Params.single_roundTripsAt (SimBundleOverrides.roundTrips he overrides))

/-- The others are not written at all. -/
theorem params_serialize_error (hs : s.Lawful) (he : e.Lawful) {m : ApiMethod} {a : m.Args}
    (h : m.sendable a = false) : ∃ err, ((api s e).params m).serialize a = .error err := by
  have hcall : ∀ r : EthCallBundleResponse, ¬ FitU128 r.amounts →
      ∃ err, (Params.single (EthCallBundleResponse.record s e).codec).serialize r = .error err := by
    intro r hfit
    rcases hser : (EthCallBundleResponse.record s e).codec.serialize r with err | j
    · exact ⟨err, Params.single_serialize_error hser⟩
    · have hround := EthCallBundleResponse.readsBackAt hs he r j hser
      exact absurd ((EthCallBundleResponse.roundTripsAt hs he r).mp hround) hfit
  rcases m with m | m | m
  · rcases m with _ | _ | _ | _ | _ | _
    · cases h
    · have hfit : decide (FitU128 (EthCallBundleResponse.amounts a)) = false := h
      rw [decide_eq_false_iff_not] at hfit
      exact hcall a hfit
    · cases h
    · cases h
    · cases h
    · cases h
  · cases m <;> cases h
  · cases m <;> cases h

/-- Statistics with a flag that agrees are read back, and no others are; none makes the
client panic. -/
theorem BundleStats.reply_spec (stats : BundleStats) :
    ((FlashbotsApi.reply s .getBundleStats).RoundTripsAt stats ↔ stats.FlagAgrees) ∧
      ∀ j, stats.serialize = .ok j → ∃ result, deserialize j = .ok result := by
  rcases stats with _ | stats | stats
  · refine ⟨iff_of_true ⟨_, rfl, rfl⟩ trivial, fun j hj => ?_⟩
    cases hj
    exact ⟨_, rfl⟩
  · obtain ⟨map, hser, hde, hreceived, hflag⟩ := seen_serialized stats
    have hread := deserialize_of_flag hreceived hflag
    refine ⟨⟨?_, fun hagrees => ⟨_, hser, hread.trans ?_⟩⟩, fun j hj => ?_⟩
    · rintro ⟨j, hj, hback⟩
      obtain rfl := Except.ok.inj (hser.symm.trans hj)
      have hresult := Except.ok.inj (hread.symm.trans hback)
      rcases hsimulated : stats.isSimulated with _ | _
      · exact hsimulated
      · rw [hsimulated, if_pos rfl] at hresult
        exact absurd hresult (deserializeSimulated_ne_seen map stats)
    · rw [show stats.isSimulated = false from hagrees, if_neg Bool.false_ne_true, deserializeSeen,
        hde]
      rfl
    · obtain rfl := Except.ok.inj (hser.symm.trans hj)
      exact ⟨_, hread⟩
  · obtain ⟨map, hser, hde, hreceived, hflag⟩ := simulated_serialized stats
    have hread := deserialize_of_flag hreceived hflag
    refine ⟨⟨?_, fun hagrees => ⟨_, hser, hread.trans ?_⟩⟩, fun j hj => ?_⟩
    · rintro ⟨j, hj, hback⟩
      obtain rfl := Except.ok.inj (hser.symm.trans hj)
      have hresult := Except.ok.inj (hread.symm.trans hback)
      rcases hsimulated : stats.isSimulated with _ | _
      · rw [hsimulated, if_neg Bool.false_ne_true] at hresult
        exact absurd hresult (deserializeSeen_ne_simulated map stats)
      · exact hsimulated
    · rw [show stats.isSimulated = true from hagrees, if_pos rfl, deserializeSimulated, hde]
      rfl
    · obtain rfl := Except.ok.inj (hser.symm.trans hj)
      exact ⟨_, hread⟩

/-! ### How deep it is -/

/-- An amount is written as text, if at all. -/
theorem amount_shallowAt {n : ℕ} (name : String) (amount : U256) :
    (Field.required name (u256NumericString s)).ShallowAt n amount := by
  refine Field.required_shallowAt_iff.mpr fun j h => ?_
  by_cases hfit : amount.toNat < 2 ^ 128
  · obtain rfl := Except.ok.inj ((u256NumericString_serialize hfit).symm.trans h)
    exact ⟨rfl, Nat.zero_le n⟩
  · rw [u256NumericString_serialize_error hfit] at h
    cases h

/-- A structure of one required scalar. -/
theorem shallow_of_field {σ α : Type} {mk : α → σ} {part : σ → α} {name : String} {c : Codec α}
    (hc : c.Shallow 0) : ((Record.pure σ mk).field (.required name c) part).codec.Shallow 1 := by
  refine Record.codec_shallow fun a => ?_
  rw [Record.field_shallowAt]
  exact ⟨Record.pure_shallowAt, Field.required_shallowAt hc _⟩

theorem GetBundleStatsRequest.shallow (hw : e.Shallow) :
    (GetBundleStatsRequest.record e).codec.Shallow 1 := by
  refine Record.codec_shallow fun r => ?_
  simp only [record, Record.field_shallowAt]
  exact ⟨⟨Record.pure_shallowAt, Field.required_shallowAt hw.h256 _⟩,
    Field.required_shallowAt hw.u64 _⟩

theorem EthCallBundleTransactionResult.shallow (hw : e.Shallow) :
    (EthCallBundleTransactionResult.record s e).codec.Shallow 1 := by
  refine Record.codec_shallow fun r => ?_
  simp only [record, Record.field_shallowAt]
  exact ⟨⟨⟨⟨⟨⟨⟨⟨⟨Record.pure_shallowAt, amount_shallowAt _ _⟩, amount_shallowAt _ _⟩,
      Field.required_shallowAt hw.address _⟩, amount_shallowAt _ _⟩, amount_shallowAt _ _⟩,
      Field.required_shallowAt Codec.u64_shallow _⟩, Field.required_shallowAt hw.address _⟩,
      Field.required_shallowAt hw.h256 _⟩, Field.required_shallowAt hw.bytes _⟩

theorem EthCallBundleResponse.shallow (hw : e.Shallow) :
    (EthCallBundleResponse.record s e).codec.Shallow 3 := by
  refine Record.codec_shallow fun r => ?_
  simp only [record, Record.field_shallowAt]
  exact ⟨⟨⟨⟨⟨⟨⟨⟨Record.pure_shallowAt, amount_shallowAt _ _⟩,
      Field.required_shallowAt Codec.string_shallow _⟩, amount_shallowAt _ _⟩,
      amount_shallowAt _ _⟩, amount_shallowAt _ _⟩, Field.required_shallowAt
        (Codec.vec_shallow (EthCallBundleTransactionResult.shallow hw)) _⟩,
      Field.required_shallowAt Codec.u64_shallow _⟩, Field.required_shallowAt Codec.u64_shallow _⟩

theorem UserStats.shallow : (UserStats.record s).codec.Shallow 1 := by
  refine Record.codec_shallow fun u => ?_
  simp only [record, Record.field_shallowAt]
  exact ⟨⟨⟨⟨⟨⟨⟨Record.pure_shallowAt, Field.required_shallowAt Codec.bool_shallow _⟩,
      amount_shallowAt _ _⟩, amount_shallowAt _ _⟩, amount_shallowAt _ _⟩,
      amount_shallowAt _ _⟩, amount_shallowAt _ _⟩, amount_shallowAt _ _⟩

/-- A builder and a time. -/
theorem builderAt_shallow {σ : Type} {mk : String → String → σ} {pubkey timestamp : σ → String} :
    (((Record.pure σ mk).field (.required "pubkey" Codec.string) pubkey).field
      (.required "timestamp" Codec.string) timestamp).codec.Shallow 1 := by
  refine Record.codec_shallow fun x => ?_
  simp only [Record.field_shallowAt]
  exact ⟨⟨Record.pure_shallowAt, Field.required_shallowAt Codec.string_shallow _⟩,
    Field.required_shallowAt Codec.string_shallow _⟩

theorem BundleStats.shallow {stats : BundleStats} {j : Json} (h : stats.serialize = .ok j) :
    j.Shallow 3 := by
  rcases stats with _ | stats | stats
  · cases h
    exact ⟨rfl, by decide⟩
  · have hseen : StatsSeen.record.codec.Shallow 1 := by
      refine Record.codec_shallow fun stats => ?_
      simp only [StatsSeen.record, Record.field_shallowAt]
      exact ⟨⟨⟨Record.pure_shallowAt, Field.required_shallowAt Codec.bool_shallow _⟩,
        Field.required_shallowAt Codec.bool_shallow _⟩,
        Field.required_shallowAt Codec.string_shallow _⟩
    exact (hseen stats j h).mono (by omega)
  · have hsimulated : StatsSimulated.record.codec.Shallow 3 := by
      have hbuilders : ∀ {σ : Type} {c : Codec σ} {name : String} (l : List σ), c.Shallow 1 →
          ((Field.required name c.vec).default []).ShallowAt 2 l :=
        fun _ hc => Field.default_shallowAt (Field.required_shallowAt (Codec.vec_shallow hc) _)
      refine Record.codec_shallow fun stats => ?_
      simp only [StatsSimulated.record, Record.field_shallowAt]
      exact ⟨⟨⟨⟨⟨⟨Record.pure_shallowAt, Field.required_shallowAt Codec.bool_shallow _⟩,
        Field.required_shallowAt Codec.bool_shallow _⟩,
        Field.required_shallowAt Codec.string_shallow _⟩,
        Field.required_shallowAt Codec.string_shallow _⟩, hbuilders _ builderAt_shallow⟩,
        hbuilders _ builderAt_shallow⟩
    exact hsimulated stats j h

/-- **No arguments** have more than five levels. -/
theorem params_shallow (hw : e.Shallow) (m : ApiMethod) : ((api s e).params m).Shallow 5 := by
  rcases m with m | m | m
  · rcases m with _ | _ | _ | _ | _ | _
    · exact Params.single_shallow ((EthSendBundle.shallow hw).mono (by omega))
    · exact Params.single_shallow ((EthCallBundleResponse.shallow hw).mono (by omega))
    · exact Params.single_shallow ((shallow_of_field Codec.string_shallow).mono (by omega))
    · exact Params.single_shallow (PrivateTransactionRequest.shallow hw)
    · exact Params.single_shallow (hw.bytes.mono (by omega))
    · exact Params.single_shallow ((shallow_of_field hw.h256).mono (by omega))
  · rcases m with _ | _
    · exact Params.single_shallow ((shallow_of_field hw.u64).mono (by omega))
    · exact Params.single_shallow ((GetBundleStatsRequest.shallow hw).mono (by omega))
  · rcases m with _ | _
    · exact Params.single_shallow ((SendBundleRequest.shallow hw).mono (by omega))
    · exact Params.cons_shallow ((SendBundleRequest.shallow hw).mono (by omega))
        (Params.single_shallow ((SimBundleOverrides.shallow hw).mono (by omega)))

/-- **No result** has more than three levels, but that of a simulation. -/
theorem reply_shallow (hw : e.Shallow) {m : ApiMethod} (hm : m ≠ .mev .simBundle) :
    ((api s e).reply m).Shallow 3 := by
  rcases m with m | m | m
  · rcases m with _ | _ | _ | _ | _ | _
    · exact Reply.of_shallow ((shallow_of_field hw.h256).mono (by omega))
    · exact Reply.of_shallow ((EthCallBundleTransactionResult.shallow hw).mono (by omega))
    · exact Reply.of_shallow Codec.unit_shallow
    · exact Reply.of_shallow (hw.h256.mono (by omega))
    · exact Reply.of_shallow (hw.h256.mono (by omega))
    · exact Reply.of_shallow Codec.bool_shallow
  · rcases m with _ | _
    · exact Reply.of_shallow (UserStats.shallow.mono (by omega))
    · exact fun _ _ h => BundleStats.shallow h
  · rcases m with _ | _
    · exact Reply.of_shallow ((shallow_of_field hw.h256).mono (by omega))
    · exact absurd rfl hm

/-! ### What is delivered -/

/-- **Which results are delivered.** -/
theorem deliversAt_iff (hs : s.Lawful) (he : e.Lawful) (hw : e.Shallow) {around : ℕ}
    (haround : around ≤ 2) {m : ApiMethod} (b : m.Result) :
    Stubs.DeliversAt (I := api s e) around m b ↔ m.Deliverable around b := by
  have hshallow : ∀ {m : ApiMethod} {b : m.Result}, m ≠ .mev .simBundle →
      (Stubs.DeliversAt (I := api s e) around m b ↔ ((api s e).reply m).RoundTripsAt b) :=
    fun hm => Stubs.deliversAt_iff_of_shallow (reply_shallow hw hm)
      (Nat.le_trans (Nat.add_le_add_left haround 3) (by decide))
  have hof : ∀ {β : Type} {c : Codec β} {x : β}, c.RoundTripsAt x →
      ((Reply.of c).RoundTripsAt x ↔ True) := fun h => iff_true_intro (Reply.of_roundTripsAt.mpr h)
  rcases m with m | m | m
  · rcases m with _ | _ | _ | _ | _ | _
    · exact (hshallow (by decide)).trans (hof (roundTripsAt_of_field he.h256 rfl))
    · exact (hshallow (by decide)).trans
        (Reply.of_roundTripsAt.trans (EthCallBundleTransactionResult.roundTripsAt hs he b))
    · exact (hshallow (by decide)).trans (hof (Codec.unit_roundTrips b))
    · exact (hshallow (by decide)).trans (hof (he.h256 b))
    · exact (hshallow (by decide)).trans (hof (he.h256 b))
    · exact (hshallow (by decide)).trans (hof (Codec.bool_roundTrips b))
  · rcases m with _ | _
    · exact (hshallow (by decide)).trans
        (Reply.of_roundTripsAt.trans (UserStats.roundTripsAt hs b))
    · exact (hshallow (by decide)).trans (BundleStats.reply_spec (s := s) b).1
  · rcases m with _ | _
    · exact (hshallow (by decide)).trans (hof (roundTripsAt_of_field he.h256 rfl))
    · obtain ⟨j, hser, hde⟩ := SimBundleResponse.roundTrips he b
      obtain ⟨j', hj', -, hlevels⟩ := SimBundleResponse.serialize_levels he hw b
      obtain rfl := Except.ok.inj (hser.symm.trans hj')
      have heq : j.levels = SimBundleResponse.levels b := eq_of_forall_ge_iff hlevels
      constructor
      · rintro ⟨j', hj', hfits, -⟩
        obtain rfl := Except.ok.inj (hser.symm.trans hj')
        rw [heq] at hfits
        exact hfits
      · intro hfits
        refine ⟨j, hser, ?_, congrArg Except.ok hde⟩
        rw [heq]
        exact hfits

/-- Results have whole numbers in them, and reading what was written of one does not panic. -/
theorem api_safe (he : e.Lawful) (hw : e.Shallow) : Stubs.Safe (api s e) := by
  intro m b j hj
  constructor
  · by_cases hm : m = .mev .simBundle
    · subst hm
      obtain ⟨j', hj', hwhole, -⟩ := SimBundleResponse.serialize_levels he hw b
      obtain rfl := Except.ok.inj (hj'.symm.trans hj)
      exact hwhole
    · exact (reply_shallow hw hm b j hj).whole
  · rcases m with m | m | m
    · rcases m with _ | _ | _ | _ | _ | _ <;> exact ⟨_, rfl⟩
    · rcases m with _ | _
      · exact ⟨_, rfl⟩
      · exact (BundleStats.reply_spec (s := s) b).2 j hj
    · rcases m with _ | _ <;> exact ⟨_, rfl⟩

/-- **The interfaces are transparent.**  For every implementation of the three interfaces,
every generated client and server, and every sequence of calls whose messages get through:
what the implementation is called with, and the states it goes through, are those of the
direct calls, up to the first bundle that cannot be sent; there the client panics, and
otherwise it does not, and all calls are answered.  An answer is the result of the direct
call exactly if this was an error or can be delivered. -/
theorem calls_transparent (hs : s.Lawful) (he : e.Lawful) (hw : e.Shallow)
    {r : Stubs (api s e)} (hr : r.Lawful) {σ : Type} (server : (api s e).Server σ)
    (cs : List (api s e).Call) (st : σ) (hcarries : ∀ c ∈ cs, r.Carries c.method c.args)
    (hback : ∀ ret ∈ ((api s e).direct server
      (cs.takeWhile fun c => c.method.sendable c.args) st).1,
      r.CarriesBack ret.method ret.result) :
    (r.calls server cs st).server =
        ((api s e).direct server (cs.takeWhile fun c => c.method.sendable c.args) st).2 ∧
      (r.calls server cs st).outcomes =
        ((api s e).direct server (cs.takeWhile fun c => c.method.sendable c.args) st).1.map
          r.deliver ∧
      ((r.calls server cs st).panicked = true ↔ ∃ c ∈ cs, c.method.sendable c.args = false) ∧
      ∀ ret : (api s e).Returned, r.CarriesBack ret.method ret.result →
        ((r.deliver ret = (api s e).asOutcome ret ↔
          ∀ b, ret.result = .ok b → ret.method.Deliverable r.aroundResult b) ∧
        ∀ halt, (r.deliver ret).result ≠ .error (.panicked halt)) := by
  have hsafe : Stubs.Safe (api s e) := api_safe he hw
  have hsend : ∀ c : (api s e).Call, c.method.sendable c.args = true →
      Stubs.SendsAt r.aroundParams c.method c.args := by
    intro c hc
    refine Stubs.sendsAt_of_shallow (params_roundTripsAt hs he hc) (params_shallow hw c.method) ?_
    exact Nat.le_trans (Nat.add_le_add_left hr.aroundParams 5) (by decide)
  obtain ⟨hstate, houtcomes, hpanicked⟩ := Stubs.calls_eq hr hsafe hsend
    (fun c hc => params_serialize_error hs he hc) server cs st hcarries hback
  refine ⟨hstate, houtcomes, hpanicked, fun ret hret => ⟨?_, fun halt => ?_⟩⟩
  · rw [Stubs.deliver_eq_asOutcome_iff hr hsafe hret]
    exact forall_congr' fun b => imp_congr_right fun _ =>
      deliversAt_iff hs he hw hr.aroundResult b
  · exact Stubs.receive_ne_panicked hr hsafe hret halt

/-- It counts its calls, has logs that are nested deeply for every simulation, and nothing
else. -/
def nestedServer : (api .text .hex).Server ℕ
  | .mev .simBundle, _, n => (.ok (nestedResponse 63), n + 1)
  | _, _, n => (.error .internalError, n + 1)

/-- A bundle with more than `u128` has for it. -/
def wealthyBundle : EthCallBundleResponse where
  bundleGasPrice := .ofNat 256 (2 ^ 128)
  bundleHash := "0x"
  coinbaseDiff := 0
  ethSentToCoinbase := 0
  gasFees := 0
  results := []
  stateBlockNumber := 7
  totalGasUsed := 0

def nestedCalls : List (api .text .hex).Call :=
  [FlashbotsApiClient.getUserStats 7,
    MevApiClient.simBundle (SendBundleRequest.new 7 none .v01 []) SimBundleOverrides.default,
    EthBundleApiClient.callBundle wealthyBundle, FlashbotsApiClient.getUserStats 8]

/-- What it has returned for a simulation. -/
def nestedReturned : (api .text .hex).Returned := ⟨.mev .simBundle, .ok (nestedResponse 63)⟩

/-- Two calls arrive, the logs do not come back, and the third call is a panic. -/
theorem calls_transparent_nestedServer :
    ((Stubs.jsonRpc .compact _).calls nestedServer nestedCalls 0).server = 2 ∧
      ((Stubs.jsonRpc .compact _).calls nestedServer nestedCalls 0).panicked = true ∧
      (Stubs.jsonRpc .compact _).deliver nestedReturned ≠
        (api .text .hex).asOutcome nestedReturned := by
  obtain ⟨hstate, -, hpanicked, hdeliver⟩ := calls_transparent StringifiedNumeric.text_lawful
    Ethers.hex_lawful Ethers.hex_shallow
    (Stubs.jsonRpc_lawful JsonText.compact_lawful (api .text .hex))
    nestedServer nestedCalls 0 (fun _ _ => trivial) (fun _ _ => trivial)
  have hunfit : ¬ FitU128 wealthyBundle.amounts := by
    intro hfit
    exact absurd (hfit (.ofNat 256 (2 ^ 128)) List.mem_cons_self) (by decide)
  have hcall : ∀ request : EthCallBundleResponse, (ApiMethod.eth .callBundle).sendable request =
      decide (FitU128 request.amounts) := fun _ => rfl
  have hwealthy := (hcall wealthyBundle).trans (decide_eq_false hunfit)
  have hsent : nestedCalls.takeWhile (fun c => c.method.sendable c.args) = nestedCalls.take 2 := by
    rw [nestedCalls, List.takeWhile_cons_of_pos rfl, List.takeWhile_cons_of_pos rfl,
      List.takeWhile_cons_of_neg (by rw [EthBundleApiClient.callBundle, hwealthy]; decide)]
    rfl
  refine ⟨?_, hpanicked.mpr ⟨EthBundleApiClient.callBundle wealthyBundle, ?_, hwealthy⟩,
    fun hsame => ?_⟩
  · rw [hstate, hsent]
    rfl
  · rw [nestedCalls]
    exact List.mem_cons_of_mem _ (List.mem_cons_of_mem _ List.mem_cons_self)
  · have hsimulated : ∀ response : SimBundleResponse,
        (ApiMethod.mev .simBundle).Deliverable 0 response ↔
          response.levels + 0 ≤ JsonText.maxLevels := fun _ => Iff.rfl
    have hlevels := (hsimulated (nestedResponse 63)).mp
      ((hdeliver nestedReturned True.intro).1.mp hsame (nestedResponse 63) rfl)
    rw [levels_nestedResponse] at hlevels
    exact absurd hlevels (by decide)

end Rpc
end MevShare
