import MevShare.Library.Digits
import MevShare.Rpc.Ethers

/-!
# Amounts as decimal text

`u256_numeric_string` of `mev-share-rpc-api/src/types.rs`, and the responses that use it:
`UserStats` and `EthCallBundleResponse`.  An amount is read through `StringifiedNumeric` of
`ethers`, which is a parameter, and it is a `U256`.  It is written through `u128`, and an
amount that does not fit there is not written.

`amounts_roundTripsAt_iff` is the result: a response makes the round trip exactly if all of
its amounts are below `2 ^ 128`.  The codec of the amounts is the only one that fails, so
the fields are read back whenever they are written, and `Record.codec_roundTripsAt_iff`
leaves the amounts.
-/

namespace MevShare
namespace Rpc

open Serde

/-- The number in decimal, as `to_string` gives it. -/
def decimal (n : ℕ) : String := String.ofList (Digits.text 10 n)

/-- `StringifiedNumeric` of `ethers`: what it is read from, and its conversion to `U256`. -/
structure StringifiedNumeric where
  {type : Type}
  deserialize : Json → Except DeError type
  tryInto : type → Except String U256

/-- What is assumed of it: the decimal text of a `U256` is parsed to it. -/
def StringifiedNumeric.Lawful (s : StringifiedNumeric) : Prop :=
  ∀ n : U256, ∃ num, s.deserialize (.string (decimal n.toNat)) = .ok num ∧ s.tryInto num = .ok n

/-- Decimal text below the limit. -/
def StringifiedNumeric.text : StringifiedNumeric where
  deserialize := Codec.string.deserialize
  tryInto s :=
    match Digits.value 10 s.toList with
    | some n => if n < 2 ^ 256 then .ok (BitVec.ofNat 256 n) else .error "number too large"
    | none => .error "invalid digit"

theorem StringifiedNumeric.text_lawful : StringifiedNumeric.text.Lawful := by
  intro n
  refine ⟨decimal n.toNat, rfl, ?_⟩
  have hvalue : Digits.value 10 (Digits.text 10 n.toNat) = some n.toNat :=
    Digits.value_text (by decide) (by decide) n.toNat
  simp only [text, decimal, String.toList_ofList, hvalue, if_pos n.isLt, BitVec.ofNat_toNat,
    BitVec.setWidth_eq]

variable {s : StringifiedNumeric} {e : Ethers}

/-! ## The codec of an amount -/

/-- `u128::try_from`. -/
def tryIntoU128 (n : U256) : Except String (BitVec 128) :=
  if n.toNat < 2 ^ 128 then .ok (n.setWidth 128)
  else .error "integer overflow when casting to u128"

/-- The codec of `u256_numeric_string`. -/
def u256NumericString (s : StringifiedNumeric) : Codec U256 where
  serialize val :=
    match tryIntoU128 val with
    | .error message => .error (.custom message)
    | .ok val => .ok (.string (decimal val.toNat))
  deserialize j :=
    match s.deserialize j with
    | .error err => .error err
    | .ok num =>
        match s.tryInto num with
        | .error message => .error (.custom message)
        | .ok n => .ok n

/-- An amount that fits is written in decimal. -/
theorem u256NumericString_serialize {n : U256} (h : n.toNat < 2 ^ 128) :
    (u256NumericString s).serialize n = .ok (.string (decimal n.toNat)) := by
  have hwidth : (n.setWidth 128).toNat = n.toNat := by
    rw [BitVec.toNat_setWidth, Nat.mod_eq_of_lt h]
  simp only [u256NumericString, tryIntoU128, if_pos h, hwidth]

/-- And any other is not written. -/
theorem u256NumericString_serialize_error {n : U256} (h : ¬ n.toNat < 2 ^ 128) :
    (u256NumericString s).serialize n =
      .error (.custom "integer overflow when casting to u128") := by
  simp only [u256NumericString, tryIntoU128, if_neg h]

/-- **Every amount is read** from its decimal text. -/
theorem u256NumericString_deserialize (hs : s.Lawful) (n : U256) :
    (u256NumericString s).deserialize (.string (decimal n.toNat)) = .ok n := by
  obtain ⟨num, hde, hinto⟩ := hs n
  simp only [u256NumericString, hde, hinto]

/-- **An amount** makes the round trip exactly if it fits into `u128`. -/
theorem u256NumericString_roundTripsAt (hs : s.Lawful) {n : U256} :
    (u256NumericString s).RoundTripsAt n ↔ n.toNat < 2 ^ 128 := by
  by_cases h : n.toNat < 2 ^ 128
  · exact iff_of_true
      ⟨_, u256NumericString_serialize h, u256NumericString_deserialize hs n⟩ h
  · refine iff_of_false ?_ h
    rintro ⟨j, hser, -⟩
    rw [u256NumericString_serialize_error h] at hser
    cases hser

theorem u256NumericString_readsBackAt (hs : s.Lawful) (n : U256) :
    (u256NumericString s).ReadsBackAt n := by
  intro j hser
  by_cases h : n.toNat < 2 ^ 128
  · exact (u256NumericString_roundTripsAt hs).mpr h
  · rw [u256NumericString_serialize_error h] at hser
    cases hser

/-! ## The responses -/

/-- Response for `flashbots_getUserStatsV2`. -/
structure UserStats where
  isHighPriority : Bool
  allTimeValidatorPayments : U256
  allTimeGasSimulated : U256
  last7dValidatorPayments : U256
  last7dGasSimulated : U256
  last1dValidatorPayments : U256
  last1dGasSimulated : U256
  deriving DecidableEq, Repr

/-- Result of a single transaction in a bundle for `eth_callBundle`. -/
structure EthCallBundleTransactionResult where
  coinbaseDiff : U256
  ethSentToCoinbase : U256
  fromAddress : Address
  gasFees : U256
  gasPrice : U256
  gasUsed : UInt64
  toAddress : Address
  txHash : H256
  value : Bytes
  deriving DecidableEq, Repr

/-- Response for `eth_callBundle`. -/
structure EthCallBundleResponse where
  bundleGasPrice : U256
  bundleHash : String
  coinbaseDiff : U256
  ethSentToCoinbase : U256
  gasFees : U256
  results : List EthCallBundleTransactionResult
  stateBlockNumber : UInt64
  totalGasUsed : UInt64
  deriving DecidableEq, Repr

def UserStats.record (s : StringifiedNumeric) : Record UserStats UserStats :=
  Record.pure UserStats UserStats.mk
    |>.field (.required "isHighPriority" Codec.bool) (·.isHighPriority)
    |>.field (.required "allTimeValidatorPayments" (u256NumericString s))
      (·.allTimeValidatorPayments)
    |>.field (.required "allTimeGasSimulated" (u256NumericString s)) (·.allTimeGasSimulated)
    |>.field (.required "last7dValidatorPayments" (u256NumericString s))
      (·.last7dValidatorPayments)
    |>.field (.required "last7dGasSimulated" (u256NumericString s)) (·.last7dGasSimulated)
    |>.field (.required "last1dValidatorPayments" (u256NumericString s))
      (·.last1dValidatorPayments)
    |>.field (.required "last1dGasSimulated" (u256NumericString s)) (·.last1dGasSimulated)

def EthCallBundleTransactionResult.record (s : StringifiedNumeric) (e : Ethers) :
    Record EthCallBundleTransactionResult EthCallBundleTransactionResult :=
  Record.pure EthCallBundleTransactionResult EthCallBundleTransactionResult.mk
    |>.field (.required "coinbaseDiff" (u256NumericString s)) (·.coinbaseDiff)
    |>.field (.required "ethSentToCoinbase" (u256NumericString s)) (·.ethSentToCoinbase)
    |>.field (.required "fromAddress" e.address) (·.fromAddress)
    |>.field (.required "gasFees" (u256NumericString s)) (·.gasFees)
    |>.field (.required "gasPrice" (u256NumericString s)) (·.gasPrice)
    |>.field (.required "gasUsed" Codec.u64) (·.gasUsed)
    |>.field (.required "toAddress" e.address) (·.toAddress)
    |>.field (.required "txHash" e.h256) (·.txHash)
    |>.field (.required "value" e.bytes) (·.value)

def EthCallBundleResponse.record (s : StringifiedNumeric) (e : Ethers) :
    Record EthCallBundleResponse EthCallBundleResponse :=
  Record.pure EthCallBundleResponse EthCallBundleResponse.mk
    |>.field (.required "bundleGasPrice" (u256NumericString s)) (·.bundleGasPrice)
    |>.field (.required "bundleHash" Codec.string) (·.bundleHash)
    |>.field (.required "coinbaseDiff" (u256NumericString s)) (·.coinbaseDiff)
    |>.field (.required "ethSentToCoinbase" (u256NumericString s)) (·.ethSentToCoinbase)
    |>.field (.required "gasFees" (u256NumericString s)) (·.gasFees)
    |>.field (.required "results" (EthCallBundleTransactionResult.record s e).codec.vec) (·.results)
    |>.field (.required "stateBlockNumber" Codec.u64) (·.stateBlockNumber)
    |>.field (.required "totalGasUsed" Codec.u64) (·.totalGasUsed)

/-! ### Their amounts -/

def UserStats.amounts (u : UserStats) : List U256 :=
  [u.allTimeValidatorPayments, u.allTimeGasSimulated, u.last7dValidatorPayments,
    u.last7dGasSimulated, u.last1dValidatorPayments, u.last1dGasSimulated]

def EthCallBundleTransactionResult.amounts (r : EthCallBundleTransactionResult) : List U256 :=
  [r.coinbaseDiff, r.ethSentToCoinbase, r.gasFees, r.gasPrice]

/-- Its own, and those of the transactions. -/
def EthCallBundleResponse.amounts (r : EthCallBundleResponse) : List U256 :=
  [r.bundleGasPrice, r.coinbaseDiff, r.ethSentToCoinbase, r.gasFees] ++
    r.results.flatMap EthCallBundleTransactionResult.amounts

/-- All amounts fit into `u128`. -/
def FitU128 (amounts : List U256) : Prop := ∀ n ∈ amounts, n.toNat < 2 ^ 128

theorem fitU128_nil : FitU128 [] := fun _ h => absurd h List.not_mem_nil

theorem fitU128_cons {n : U256} {l : List U256} :
    FitU128 (n :: l) ↔ n.toNat < 2 ^ 128 ∧ FitU128 l :=
  List.forall_mem_cons

theorem fitU128_append {l l' : List U256} : FitU128 (l ++ l') ↔ FitU128 l ∧ FitU128 l' :=
  List.forall_mem_append

theorem fitU128_flatMap {α : Type} {l : List α} {f : α → List U256} :
    FitU128 (l.flatMap f) ↔ ∀ a ∈ l, FitU128 (f a) :=
  List.forall_mem_flatMap

/-! ## Round trips -/

/-- A field for an amount. -/
theorem amount_roundTripsAt (hs : s.Lawful) {name : String} {n : U256} :
    (Field.required name (u256NumericString s)).RoundTripsAt n ↔ n.toNat < 2 ^ 128 :=
  Field.required_roundTripsAt.trans (u256NumericString_roundTripsAt hs)

theorem amount_readsBackAt (hs : s.Lawful) (name : String) (n : U256) :
    (Field.required name (u256NumericString s)).ReadsBackAt n :=
  Field.required_readsBackAt (u256NumericString_readsBackAt hs n)

/-- A field of a type whose values all make the round trip. -/
theorem required_readsBackAt {α : Type} {c : Codec α} (h : c.RoundTrips) (name : String) (a : α) :
    (Field.required name c).ReadsBackAt a :=
  Field.required_readsBackAt (h a).readsBackAt

theorem UserStats.roundTripsAt (hs : s.Lawful) (u : UserStats) :
    (UserStats.record s).codec.RoundTripsAt u ↔ FitU128 u.amounts := by
  have hnames : ((record s).names u).Nodup := by
    show ["isHighPriority", "allTimeValidatorPayments", "allTimeGasSimulated",
      "last7dValidatorPayments", "last7dGasSimulated", "last1dValidatorPayments",
      "last1dGasSimulated"].Nodup
    decide
  have hamount := amount_readsBackAt hs
  have hreads : (record s).ReadsBackAt u := by
    simp only [record, Record.field_readsBackAt]
    exact ⟨⟨⟨⟨⟨⟨⟨Record.pure_readsBackAt, required_readsBackAt Codec.bool_roundTrips _ _⟩,
      hamount _ _⟩, hamount _ _⟩, hamount _ _⟩, hamount _ _⟩, hamount _ _⟩, hamount _ _⟩
  rw [Record.codec_roundTripsAt_iff rfl hnames hreads]
  have hbool : (Field.required "isHighPriority" Codec.bool).RoundTripsAt u.isHighPriority :=
    Field.required_roundTrips Codec.bool_roundTrips _
  simp only [record, Record.field_roundTripsAt, Record.pure_roundTripsAt, hbool,
    amount_roundTripsAt hs, amounts, fitU128_cons, fitU128_nil, and_assoc, true_and, and_true]

theorem EthCallBundleTransactionResult.names_nodup (r : EthCallBundleTransactionResult) :
    ((record s e).names r).Nodup := by
  show ["coinbaseDiff", "ethSentToCoinbase", "fromAddress", "gasFees", "gasPrice", "gasUsed",
    "toAddress", "txHash", "value"].Nodup
  decide

theorem EthCallBundleTransactionResult.readsBackAt (hs : s.Lawful) (he : e.Lawful)
    (r : EthCallBundleTransactionResult) : (record s e).ReadsBackAt r := by
  have hamount := amount_readsBackAt hs
  simp only [record, Record.field_readsBackAt]
  exact ⟨⟨⟨⟨⟨⟨⟨⟨⟨Record.pure_readsBackAt, hamount _ _⟩, hamount _ _⟩,
      required_readsBackAt he.address _ _⟩, hamount _ _⟩, hamount _ _⟩,
      required_readsBackAt Codec.u64_roundTrips _ _⟩, required_readsBackAt he.address _ _⟩,
      required_readsBackAt he.h256 _ _⟩,
    required_readsBackAt he.bytes _ _⟩

theorem EthCallBundleTransactionResult.roundTripsAt (hs : s.Lawful) (he : e.Lawful)
    (r : EthCallBundleTransactionResult) :
    (record s e).codec.RoundTripsAt r ↔ FitU128 r.amounts := by
  have haddress : ∀ name a, (Field.required name e.address).RoundTripsAt a :=
    fun _ => Field.required_roundTrips he.address
  have hgas : ∀ name a, (Field.required name Codec.u64).RoundTripsAt a :=
    fun _ => Field.required_roundTrips Codec.u64_roundTrips
  have hhash : ∀ name a, (Field.required name e.h256).RoundTripsAt a :=
    fun _ => Field.required_roundTrips he.h256
  have hvalue : ∀ name a, (Field.required name e.bytes).RoundTripsAt a :=
    fun _ => Field.required_roundTrips he.bytes
  rw [Record.codec_roundTripsAt_iff rfl r.names_nodup (readsBackAt hs he r)]
  simp only [record, Record.field_roundTripsAt, Record.pure_roundTripsAt, haddress, hgas, hhash,
    hvalue, amount_roundTripsAt hs, amounts, fitU128_cons, fitU128_nil, and_assoc, true_and,
    and_true]

theorem EthCallBundleResponse.roundTripsAt (hs : s.Lawful) (he : e.Lawful)
    (r : EthCallBundleResponse) : (record s e).codec.RoundTripsAt r ↔ FitU128 r.amounts := by
  have hnames : ((record s e).names r).Nodup := by
    show ["bundleGasPrice", "bundleHash", "coinbaseDiff", "ethSentToCoinbase", "gasFees",
      "results", "stateBlockNumber", "totalGasUsed"].Nodup
    decide
  have hamount := amount_readsBackAt hs
  have hresults : (EthCallBundleTransactionResult.record s e).codec.vec.ReadsBackAt r.results :=
    Codec.vec_readsBackAt fun result _ => Record.codec_readsBackAt rfl result.names_nodup
      (EthCallBundleTransactionResult.readsBackAt hs he result)
  have hreads : (record s e).ReadsBackAt r := by
    simp only [record, Record.field_readsBackAt]
    exact ⟨⟨⟨⟨⟨⟨⟨⟨Record.pure_readsBackAt, hamount _ _⟩,
        required_readsBackAt Codec.string_roundTrips _ _⟩, hamount _ _⟩, hamount _ _⟩,
        hamount _ _⟩, Field.required_readsBackAt hresults⟩,
        required_readsBackAt Codec.u64_roundTrips _ _⟩,
      required_readsBackAt Codec.u64_roundTrips _ _⟩
  have hstring : ∀ name a, (Field.required name Codec.string).RoundTripsAt a :=
    fun _ => Field.required_roundTrips Codec.string_roundTrips
  have hnumber : ∀ name a, (Field.required name Codec.u64).RoundTripsAt a :=
    fun _ => Field.required_roundTrips Codec.u64_roundTrips
  rw [Record.codec_roundTripsAt_iff rfl hnames hreads]
  simp only [record, Record.field_roundTripsAt, Record.pure_roundTripsAt, hstring, hnumber,
    amount_roundTripsAt hs, Field.required_roundTripsAt, Codec.vec_roundTripsAt,
    EthCallBundleTransactionResult.roundTripsAt hs he, amounts, fitU128_append, fitU128_flatMap,
    fitU128_cons, fitU128_nil, and_assoc, true_and, and_true]

/-- **The responses make the round trip exactly if their amounts fit into `u128`.** -/
theorem amounts_roundTripsAt_iff (hs : s.Lawful) (he : e.Lawful) :
    (∀ u, (UserStats.record s).codec.RoundTripsAt u ↔ FitU128 u.amounts) ∧
      ∀ r, (EthCallBundleResponse.record s e).codec.RoundTripsAt r ↔ FitU128 r.amounts :=
  ⟨UserStats.roundTripsAt hs, EthCallBundleResponse.roundTripsAt hs he⟩

/-- With decimal text, and the other scalars in hexadecimal. -/
theorem amounts_roundTripsAt_iff_text :
    (∀ u, (UserStats.record .text).codec.RoundTripsAt u ↔ FitU128 u.amounts) ∧
      ∀ r, (EthCallBundleResponse.record .text .hex).codec.RoundTripsAt r ↔ FitU128 r.amounts :=
  amounts_roundTripsAt_iff StringifiedNumeric.text_lawful Ethers.hex_lawful

/-- Payments of `2 ^ 128` over all time. -/
def wealthyUser : UserStats := ⟨true, .ofNat 256 (2 ^ 128), 0, 0, 0, 0, 0⟩

/-- They are read from the text of a response, and cannot be written. -/
theorem wealthyUser_not_serialized :
    (∃ j, (UserStats.record .text).codec.deserialize j = .ok wealthyUser) ∧
      (UserStats.record .text).codec.serialize wealthyUser =
        .error (.custom "integer overflow when casting to u128") ∧
      ¬ ∀ u, (UserStats.record .text).codec.RoundTripsAt u := by
  have hwritten : (u256NumericString .text).serialize (.ofNat 256 (2 ^ 128)) =
      .error (.custom "integer overflow when casting to u128") :=
    u256NumericString_serialize_error (by decide)
  have hser : (UserStats.record .text).codec.serialize wealthyUser =
      .error (.custom "integer overflow when casting to u128") := by
    simp only [Record.codec, UserStats.record, Record.field, Record.pure, List.nil_append,
      List.cons_append, serializeStruct, serializeFields, Field.required, Codec.bool, wealthyUser,
      hwritten]
  have hlarge : (u256NumericString .text).deserialize
      (.string "340282366920938463463374607431768211456") = .ok (.ofNat 256 (2 ^ 128)) := by
    have hvalue : Digits.value 10 "340282366920938463463374607431768211456".toList =
        some (2 ^ 128) := by decide +kernel
    have hlimit : 2 ^ 128 < 2 ^ 256 := by decide
    simp only [u256NumericString, StringifiedNumeric.text, Codec.string, hvalue, if_pos hlimit]
  have hzero : (u256NumericString .text).deserialize (.string "0") = .ok 0 := rfl
  have hde : (UserStats.record .text).codec.deserialize (.object
      [("isHighPriority", .bool true),
        ("allTimeValidatorPayments", .string "340282366920938463463374607431768211456"),
        ("allTimeGasSimulated", .string "0"), ("last7dValidatorPayments", .string "0"),
        ("last7dGasSimulated", .string "0"), ("last1dValidatorPayments", .string "0"),
        ("last1dGasSimulated", .string "0")]) = .ok wealthyUser := by
    simp only [Record.codec, UserStats.record, Record.field, Record.pure, Fields.of, Fields.get,
      List.lookup_cons, Field.required, String.reduceBEq, Codec.bool, hlarge, hzero, wealthyUser]
  refine ⟨⟨_, hde⟩, hser, fun h => ?_⟩
  obtain ⟨j, hj, -⟩ := h wealthyUser
  rw [hser] at hj
  cases hj

end Rpc
end MevShare
