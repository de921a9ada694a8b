import MevShare.Rpc.Ethers

/-!
# The JSON form of the payloads

The codecs of `mev-share-rpc-api/src/types.rs`.  Those that are derived in the source are
described field after field, each with its attributes and the name it has on the wire; the
codec is the one of the description.  Those that are written by hand in the source are
written out here.

The scalars of `ethers` come with codecs of their own, which are the parameter `Ethers`.

Every payload is serialized to a JSON value and deserialized from it to itself.  The text
that is printed of the value, and parsed, is the subject of `Rpc/Wire.lean`.
-/

namespace MevShare
namespace Rpc

open Serde

variable {e : Ethers}

/-! ## Bundle requests -/

/-- The name of a variant that was given as a text, or as an object of one name; and what
the object has for it. -/
def variantOf : Json → Except DeError (String × Option Json)
  | .string name => .ok (name, none)
  | .object [(name, content)] => .ok (name, some content)
  | .object _ => .error .invalidValue
  | _ => .error .invalidType

/-- A variant without fields has no content. -/
def unitVariant {α : Type} (a : α) : Option Json → Except DeError α
  | none => .ok a
  | some .null => .ok a
  | some _ => .error .invalidType

def ProtocolVersion.codec : Codec ProtocolVersion where
  serialize
    | .beta1 => .ok (.string "beta-1")
    | .v01 => .ok (.string "v0.1")
  deserialize j :=
    match variantOf j with
    | .error err => .error err
    | .ok ("beta-1", content) => unitVariant .beta1 content
    | .ok ("v0.1", content) => unitVariant .v01 content
    | .ok (name, _) => .error (.unknownVariant name)

def Inclusion.record (e : Ethers) : Record Inclusion Inclusion :=
  Record.pure Inclusion Inclusion.mk
    |>.field (.required "block" e.u64) (·.block)
    |>.field (.skipNone "maxBlock" e.u64) (·.maxBlock)

/-- The fields of `BundleItem::Hash`. -/
def BundleItem.hashRecord (e : Ethers) : Record TxHash TxHash :=
  Record.pure TxHash id
    |>.field (.required "hash" e.h256) id

/-- The fields of `BundleItem::Tx`. -/
def BundleItem.txRecord (e : Ethers) : Record (Bytes × Bool) (Bytes × Bool) :=
  Record.pure (Bytes × Bool) Prod.mk
    |>.field (.required "tx" e.bytes) Prod.fst
    |>.field (.required "canRevert" Codec.bool) Prod.snd

/-- The variants are not tagged: they are tried in order, on an object only. -/
def BundleItem.codec (e : Ethers) : Codec BundleItem where
  serialize
    | .hash h => (hashRecord e).codec.serialize h
    | .tx t canRevert => (txRecord e).codec.serialize (t, canRevert)
  deserialize
    | .object o =>
        match (hashRecord e).codec.deserialize (.object o) with
        | .ok h => .ok (.hash h)
        | .error _ =>
            match (txRecord e).codec.deserialize (.object o) with
            | .ok (t, canRevert) => .ok (.tx t canRevert)
            | .error _ => .error .noVariant
    | _ => .error .noVariant

def Refund.record : Record Refund Refund :=
  Record.pure Refund Refund.mk
    |>.field (.required "bodyIdx" Codec.u64) (·.bodyIdx)
    |>.field (.required "percent" Codec.u64) (·.percent)

def RefundConfig.record (e : Ethers) : Record RefundConfig RefundConfig :=
  Record.pure RefundConfig RefundConfig.mk
    |>.field (.required "address" e.address) (·.address)
    |>.field (.required "percent" Codec.u64) (·.percent)

def Validity.record (e : Ethers) : Record Validity Validity :=
  Record.pure Validity Validity.mk
    |>.field (.skipNone "refund" Refund.record.codec.vec) (·.refund)
    |>.field (.skipNone "refundConfig" (RefundConfig.record e).codec.vec) (·.refundConfig)

/-! ### Hints -/

namespace PrivacyHint

/-- `PrivacyHint::default`: nothing is shared. -/
def default : PrivacyHint := ⟨false, false, false, false, false, false⟩

def numHints (h : PrivacyHint) : ℕ :=
  h.calldata.toNat + h.contractAddress.toNat + h.logs.toNat + h.functionSelector.toNat +
    h.hash.toNat + h.txHash.toNat

/-- The elements of the sequence that is written, in order. -/
def elements (h : PrivacyHint) : List String :=
  (if h.calldata then ["calldata"] else []) ++
    (if h.contractAddress then ["contract_address"] else []) ++
    (if h.logs then ["logs"] else []) ++
    (if h.functionSelector then ["function_selector"] else []) ++
    (if h.hash then ["hash"] else []) ++
    (if h.txHash then ["tx_hash"] else [])

/-- One turn of the loop over the hints. -/
def readHint (h : PrivacyHint) (hint : String) : Except DeError PrivacyHint :=
  match hint with
  | "calldata" => .ok { h with calldata := true }
  | "contract_address" => .ok { h with contractAddress := true }
  | "logs" => .ok { h with logs := true }
  | "function_selector" => .ok { h with functionSelector := true }
  | "hash" => .ok { h with hash := true }
  | "tx_hash" => .ok { h with txHash := true }
  | _ => .error (.custom "invalid privacy hint")

/-- The loop over the hints. -/
def readHints : PrivacyHint → List String → Except DeError PrivacyHint
  | h, [] => .ok h
  | h, hint :: hints =>
      match h.readHint hint with
      | .error err => .error err
      | .ok h => readHints h hints

/-- `serialize_seq` with a length hint, and its elements; a JSON value has no use for the
hint. -/
def serializeSeq (_ : Option ℕ) (elements : List String) : Except SerError Json :=
  .ok (.array (elements.map Json.string))

def codec : Codec PrivacyHint where
  serialize h := serializeSeq (some h.numHints) h.elements
  deserialize j :=
    match Codec.string.vec.deserialize j with
    | .error err => .error err
    | .ok hints => readHints default hints

end PrivacyHint

def Privacy.record : Record Privacy Privacy :=
  Record.pure Privacy Privacy.mk
    |>.field (.skipNone "hints" PrivacyHint.codec) (·.hints)
    |>.field (.skipNone "builders" Codec.string.vec) (·.builders)

def SendBundleRequest.record (e : Ethers) : Record SendBundleRequest SendBundleRequest :=
  Record.pure SendBundleRequest SendBundleRequest.mk
    |>.field (.required "version" ProtocolVersion.codec) (·.protocolVersion)
    |>.field (.required "inclusion" (Inclusion.record e).codec) (·.inclusion)
    |>.field (.required "body" (BundleItem.codec e).vec) (·.bundleBody)
    |>.field (.skipNone "validity" (Validity.record e).codec) (·.validity)
    |>.field (.skipNone "privacy" Privacy.record.codec) (·.privacy)

/-! ## Simulation overrides and responses -/

def SimBundleOverrides.record (e : Ethers) : Record SimBundleOverrides SimBundleOverrides :=
  Record.pure SimBundleOverrides SimBundleOverrides.mk
    |>.field (.skipNone "parentBlock" e.blockId) (·.parentBlock)
    |>.field (.skipNone "blockNumber" e.u64) (·.blockNumber)
    |>.field (.skipNone "coinbase" e.address) (·.coinbase)
    |>.field (.skipNone "timestamp" e.u64) (·.timestamp)
    |>.field (.skipNone "gasLimit" e.u64) (·.gasLimit)
    |>.field (.skipNone "baseFee" e.u64) (·.baseFee)
    |>.field (.skipNone "timeout" e.u64) (·.timeout)

namespace SimBundleLogs

def txLogs : SimBundleLogs → Option (List Log)
  | .mk txLogs _ => txLogs

def bundleLogs : SimBundleLogs → Option (List SimBundleLogs)
  | .mk _ bundleLogs => bundleLogs

mutual

/-- How many logs are nested in these, themselves included. -/
def size : SimBundleLogs → ℕ
  | .mk _ none => 1
  | .mk _ (some l) => sizeList l + 1

def sizeList : List SimBundleLogs → ℕ
  | [] => 0
  | logs :: l => logs.size + sizeList l

end

/-- The fields, with the codec of the logs that are nested. -/
def record (e : Ethers) (c : Codec SimBundleLogs) : Record SimBundleLogs SimBundleLogs :=
  Record.pure SimBundleLogs SimBundleLogs.mk
    |>.field (.skipNone "txLogs" e.log.vec) (·.txLogs)
    |>.field (.skipNone "bundleLogs" c.vec) (·.bundleLogs)

def codec (e : Ethers) : Codec SimBundleLogs := Codec.fix size fun c => (record e c).codec

end SimBundleLogs

def SimBundleResponse.record (e : Ethers) : Record SimBundleResponse SimBundleResponse :=
  Record.pure SimBundleResponse SimBundleResponse.mk
    |>.field (.required "success" Codec.bool) (·.success)
    |>.field (.skipNone "error" Codec.string) (·.error)
    |>.field (.required "stateBlock" e.u64) (·.stateBlock)
    |>.field (.required "mevGasPrice" e.u64) (·.mevGasPrice)
    |>.field (.required "profit" e.u64) (·.profit)
    |>.field (.required "refundableValue" e.u64) (·.refundableValue)
    |>.field (.required "gasUsed" e.u64) (·.gasUsed)
    |>.field (.skipNone "logs" (SimBundleLogs.codec e).vec) (·.logs)

/-! ## Private transactions -/

/-- Additional preferences for `eth_sendPrivateTransaction`. -/
structure PrivateTransactionPreferences where
  validity : Option Validity
  privacy : Option Privacy
  deriving DecidableEq, Repr

/-- `PrivateTransactionPreferences::default`. -/
def PrivateTransactionPreferences.default : PrivateTransactionPreferences := ⟨none, none⟩

def PrivateTransactionPreferences.isEmpty (p : PrivateTransactionPreferences) : Bool :=
  p.validity.isNone && p.privacy.isNone

/-- Request for `eth_sendPrivateTransaction`. -/
structure PrivateTransactionRequest where
  tx : Bytes
  maxBlockNumber : Option U64
  preferences : PrivateTransactionPreferences
  deriving DecidableEq, Repr

def PrivateTransactionPreferences.record (e : Ethers) :
    Record PrivateTransactionPreferences PrivateTransactionPreferences :=
  Record.pure PrivateTransactionPreferences PrivateTransactionPreferences.mk
    |>.field (.skipNone "validity" (Validity.record e).codec) (·.validity)
    |>.field (.skipNone "privacy" Privacy.record.codec) (·.privacy)

def PrivateTransactionRequest.record (e : Ethers) :
    Record PrivateTransactionRequest PrivateTransactionRequest :=
  Record.pure PrivateTransactionRequest PrivateTransactionRequest.mk
    |>.field (.required "tx" e.bytes) (·.tx)
    |>.field (.skipNone "maxBlockNumber" e.u64) (·.maxBlockNumber)
    |>.field (((Field.required "preferences" (PrivateTransactionPreferences.record e).codec).default
      PrivateTransactionPreferences.default).skipIf PrivateTransactionPreferences.isEmpty)
      (·.preferences)

/-! ## Classic bundles -/

/-- Bundle of transactions for `eth_sendBundle`. -/
structure EthSendBundle where
  txs : List Bytes
  blockNumber : U64
  minTimestamp : Option UInt64
  maxTimestamp : Option UInt64
  revertingTxHashes : List H256
  replacementUuid : Option String
  deriving DecidableEq, Repr

/-- Bundle of transactions for `eth_callBundle`. -/
structure EthCallBundle where
  txs : List Bytes
  blockNumber : U64
  stateBlockNumber : BlockNumber
  timestamp : Option UInt64
  deriving DecidableEq, Repr

def EthSendBundle.record (e : Ethers) : Record EthSendBundle EthSendBundle :=
  Record.pure EthSendBundle EthSendBundle.mk
    |>.field (.required "txs" e.bytes.vec) (·.txs)
    |>.field (.required "blockNumber" e.u64) (·.blockNumber)
    |>.field (.skipNone "minTimestamp" Codec.u64) (·.minTimestamp)
    |>.field (.skipNone "maxTimestamp" Codec.u64) (·.maxTimestamp)
    |>.field (((Field.required "revertingTxHashes" e.h256.vec).default []).skipIf List.isEmpty)
      (·.revertingTxHashes)
    |>.field (.skipNone "replacementUuid" Codec.string) (·.replacementUuid)

def EthCallBundle.record (e : Ethers) : Record EthCallBundle EthCallBundle :=
  Record.pure EthCallBundle EthCallBundle.mk
    |>.field (.required "txs" e.bytes.vec) (·.txs)
    |>.field (.required "blockNumber" e.u64) (·.blockNumber)
    |>.field (.required "stateBlockNumber" e.blockNumber) (·.stateBlockNumber)
    |>.field (.skipNone "timestamp" Codec.u64) (·.timestamp)

/-! ## Round trips -/

theorem ProtocolVersion.roundTrips : ProtocolVersion.codec.RoundTrips
  | .beta1 => ⟨_, rfl, rfl⟩
  | .v01 => ⟨_, rfl, rfl⟩

theorem Inclusion.roundTrips (he : e.Lawful) : (Inclusion.record e).codec.RoundTrips := by
  intro i
  have hnames : ["block", "maxBlock"].Nodup := by decide
  refine Record.codec_roundTripsAt rfl hnames ?_
  simp only [record, Record.field_roundTripsAt]
  exact ⟨⟨Record.pure_roundTripsAt, Field.required_roundTrips he.u64 _⟩,
    Field.skipNone_roundTrips he.u64_notNull he.u64 _⟩

/-- **A transaction is not taken for a hash**: it has no field of this name. -/
theorem BundleItem.roundTrips (he : e.Lawful) : (BundleItem.codec e).RoundTrips := by
  intro item
  cases item with
  | hash h =>
    have hnames : ["hash"].Nodup := by decide
    have hhash : (hashRecord e).codec.RoundTripsAt h := by
      refine Record.codec_roundTripsAt rfl hnames ?_
      simp only [hashRecord, Record.field_roundTripsAt]
      exact ⟨Record.pure_roundTripsAt, Field.required_roundTrips he.h256 _⟩
    obtain ⟨j, hser, hde⟩ := hhash
    obtain ⟨o, rfl, -⟩ := Record.serialize_written hser
    refine ⟨.object o, hser, ?_⟩
    simp only [codec, hde]
  | tx t canRevert =>
    have hnames : ["tx", "canRevert"].Nodup := by decide
    have htx : (txRecord e).codec.RoundTripsAt (t, canRevert) := by
      refine Record.codec_roundTripsAt rfl hnames ?_
      simp only [txRecord, Record.field_roundTripsAt]
      exact ⟨⟨Record.pure_roundTripsAt, Field.required_roundTrips he.bytes _⟩,
        Field.required_roundTrips Codec.bool_roundTrips _⟩
    obtain ⟨j, hser, hde⟩ := htx
    obtain ⟨o, rfl, ho⟩ := Record.serialize_written hser
    refine ⟨.object o, hser, ?_⟩
    have hnot : (hashRecord e).codec.deserialize (.object o) = .error (.missingField "hash") := by
      have hmem : "hash" ∉ ["tx", "canRevert"] := by decide
      simp only [hashRecord, Record.codec, Record.field, Fields.of, Fields.get, Record.pure,
        Field.required, ho "hash" hmem]
    simp only [codec, hnot, hde]

theorem Refund.roundTrips : Refund.record.codec.RoundTrips := by
  intro r
  have hnames : ["bodyIdx", "percent"].Nodup := by decide
  refine Record.codec_roundTripsAt rfl hnames ?_
  simp only [record, Record.field_roundTripsAt]
  exact ⟨⟨Record.pure_roundTripsAt, Field.required_roundTrips Codec.u64_roundTrips _⟩,
    Field.required_roundTrips Codec.u64_roundTrips _⟩

theorem RefundConfig.roundTrips (he : e.Lawful) : (RefundConfig.record e).codec.RoundTrips := by
  intro r
  have hnames : ["address", "percent"].Nodup := by decide
  refine Record.codec_roundTripsAt rfl hnames ?_
  simp only [record, Record.field_roundTripsAt]
  exact ⟨⟨Record.pure_roundTripsAt, Field.required_roundTrips he.address _⟩,
    Field.required_roundTrips Codec.u64_roundTrips _⟩

theorem Validity.roundTrips (he : e.Lawful) : (Validity.record e).codec.RoundTrips := by
  intro v
  have hnames : ["refund", "refundConfig"].Nodup := by decide
  refine Record.codec_roundTripsAt rfl hnames ?_
  simp only [record, Record.field_roundTripsAt]
  exact ⟨⟨Record.pure_roundTripsAt,
      Field.skipNone_roundTrips (Codec.vec_notNull _) (Codec.vec_roundTrips Refund.roundTrips) _⟩,
    Field.skipNone_roundTrips (Codec.vec_notNull _)
      (Codec.vec_roundTrips (RefundConfig.roundTrips he)) _⟩

namespace PrivacyHint

theorem readHints_append (h : PrivacyHint) (l l' : List String) :
    readHints h (l ++ l') =
      match readHints h l with
      | .error err => .error err
      | .ok h => readHints h l' := by
  induction l generalizing h with
  | nil => rfl
  | cons hint l ih =>
    rw [List.cons_append, readHints, readHints]
    cases h.readHint hint with
    | error err => rfl
    | ok h => exact ih h

/-- **The hints that are written** set the flags they were written for, one after the
other. -/
theorem readHints_elements (h : PrivacyHint) : readHints default h.elements = .ok h := by
  obtain ⟨calldata, contractAddress, logs, functionSelector, hash, txHash⟩ := h
  have h₁ : readHints default (if calldata then ["calldata"] else []) =
      .ok ⟨calldata, false, false, false, false, false⟩ := by
    cases calldata <;> rfl
  have h₂ : readHints ⟨calldata, false, false, false, false, false⟩
      (if contractAddress then ["contract_address"] else []) =
      .ok ⟨calldata, contractAddress, false, false, false, false⟩ := by
    cases contractAddress <;> rfl
  have h₃ : readHints ⟨calldata, contractAddress, false, false, false, false⟩
      (if logs then ["logs"] else []) =
      .ok ⟨calldata, contractAddress, logs, false, false, false⟩ := by
    cases logs <;> rfl
  have h₄ : readHints ⟨calldata, contractAddress, logs, false, false, false⟩
      (if functionSelector then ["function_selector"] else []) =
      .ok ⟨calldata, contractAddress, logs, functionSelector, false, false⟩ := by
    cases functionSelector <;> rfl
  have h₅ : readHints ⟨calldata, contractAddress, logs, functionSelector, false, false⟩
      (if hash then ["hash"] else []) =
      .ok ⟨calldata, contractAddress, logs, functionSelector, hash, false⟩ := by
    cases hash <;> rfl
  have h₆ : readHints ⟨calldata, contractAddress, logs, functionSelector, hash, false⟩
      (if txHash then ["tx_hash"] else []) =
      .ok ⟨calldata, contractAddress, logs, functionSelector, hash, txHash⟩ := by
    cases txHash <;> rfl
  simp only [elements, readHints_append, h₁, h₂, h₃, h₄, h₅, h₆]

/-- Texts are read back as they were written. -/
theorem traverse_strings (l : List String) :
    Serde.traverse Codec.string.deserialize (l.map Json.string) = .ok l := by
  induction l with
  | nil => rfl
  | cons s l ih =>
    rw [List.map_cons]
    exact traverse_cons_ok.mpr ⟨s, l, rfl, ih, rfl⟩

theorem roundTrips : PrivacyHint.codec.RoundTrips := by
  intro h
  refine ⟨.array (h.elements.map Json.string), rfl, ?_⟩
  simp only [codec, Codec.vec, traverse_strings, readHints_elements]

theorem notNull : PrivacyHint.codec.NotNull := fun h hnull => by cases hnull

end PrivacyHint

theorem Privacy.roundTrips : Privacy.record.codec.RoundTrips := by
  intro p
  have hnames : ["hints", "builders"].Nodup := by decide
  refine Record.codec_roundTripsAt rfl hnames ?_
  simp only [record, Record.field_roundTripsAt]
  exact ⟨⟨Record.pure_roundTripsAt,
      Field.skipNone_roundTrips PrivacyHint.notNull PrivacyHint.roundTrips _⟩,
    Field.skipNone_roundTrips (Codec.vec_notNull _)
      (Codec.vec_roundTrips Codec.string_roundTrips) _⟩

theorem SendBundleRequest.roundTrips (he : e.Lawful) :
    (SendBundleRequest.record e).codec.RoundTrips := by
  intro r
  have hnames : ["version", "inclusion", "body", "validity", "privacy"].Nodup := by decide
  refine Record.codec_roundTripsAt rfl hnames ?_
  simp only [record, Record.field_roundTripsAt]
  exact ⟨⟨⟨⟨⟨Record.pure_roundTripsAt, Field.required_roundTrips ProtocolVersion.roundTrips _⟩,
      Field.required_roundTrips (Inclusion.roundTrips he) _⟩,
      Field.required_roundTrips (Codec.vec_roundTrips (BundleItem.roundTrips he)) _⟩,
      Field.skipNone_roundTrips (Record.codec_notNull _) (Validity.roundTrips he) _⟩,
    Field.skipNone_roundTrips (Record.codec_notNull _) Privacy.roundTrips _⟩

theorem SimBundleOverrides.roundTrips (he : e.Lawful) :
    (SimBundleOverrides.record e).codec.RoundTrips := by
  intro o
  have hnames : ["parentBlock", "blockNumber", "coinbase", "timestamp", "gasLimit", "baseFee",
      "timeout"].Nodup := by decide
  have hu64 : ∀ name v, (Field.skipNone name e.u64).RoundTripsAt v :=
    fun _ => Field.skipNone_roundTrips he.u64_notNull he.u64
  refine Record.codec_roundTripsAt rfl hnames ?_
  simp only [record, Record.field_roundTripsAt]
  exact ⟨⟨⟨⟨⟨⟨⟨Record.pure_roundTripsAt,
      Field.skipNone_roundTrips he.blockId_notNull he.blockId _⟩, hu64 _ _⟩,
      Field.skipNone_roundTrips he.address_notNull he.address _⟩, hu64 _ _⟩, hu64 _ _⟩, hu64 _ _⟩,
    hu64 _ _⟩

namespace SimBundleLogs

theorem size_lt_of_mem {txLogs : Option (List Log)} {l : List SimBundleLogs}
    {logs : SimBundleLogs} (h : logs ∈ l) : logs.size < (mk txLogs (some l)).size := by
  have hle : logs.size ≤ sizeList l := by
    induction l with
    | nil => exact absurd h List.not_mem_nil
    | cons logs' l ih =>
      rw [sizeList]
      rcases List.mem_cons.mp h with rfl | h
      · exact Nat.le_add_right _ _
      · exact Nat.le_add_left_of_le (ih h)
  rw [size]
  exact Nat.lt_succ_of_le hle

/-- The codec of nested logs is applied to nested logs only. -/
theorem guarded (e : Ethers) : Codec.Guarded size fun c => (record e c).codec where
  serialize c c' logs h := by
    obtain ⟨txLogs, bundleLogs⟩ := logs
    have hbundle : (Field.skipNone "bundleLogs" c.vec).serialize bundleLogs =
        (Field.skipNone "bundleLogs" c'.vec).serialize bundleLogs := by
      refine Field.skipNone_vec_serialize_congr fun l hl logs hmem => h logs ?_
      rw [hl]
      exact size_lt_of_mem hmem
    show serializeStruct [⟨.skipNone "txLogs" e.log.vec, txLogs⟩,
        ⟨.skipNone "bundleLogs" c.vec, bundleLogs⟩] =
      serializeStruct [⟨.skipNone "txLogs" e.log.vec, txLogs⟩,
        ⟨.skipNone "bundleLogs" c'.vec, bundleLogs⟩]
    simp only [serializeStruct, serializeFields, hbundle]
    rfl
  deserialize c c' j h := by
    have hget : ∀ fs, Fields.of 2 j = .ok fs →
        fs.get 1 (.skipNone "bundleLogs" c.vec) = fs.get 1 (.skipNone "bundleLogs" c'.vec) := by
      intro fs hfs
      cases j with
      | object o =>
        cases hfs
        refine Field.skipNone_vec_deserialize_congr fun l hl j' hj' => h j' ?_
        exact Nat.lt_trans (size_element_lt hj') (size_lookup_lt hl)
      | array l =>
        by_cases hlength : l.length ≤ 2
        · rw [Fields.of, if_pos hlength] at hfs
          cases hfs
          simp only [Fields.get]
          cases hsecond : l[1]? with
          | none => rfl
          | some j =>
            refine Field.skipNone_vec_deserialize_congr fun l' hl' j' hj' => h j' ?_
            cases hl'
            exact Nat.lt_trans (size_element_lt hj')
              (size_element_lt (List.mem_of_getElem? hsecond))
        · rw [Fields.of, if_neg hlength] at hfs
          cases hfs
      | null => cases hfs
      | bool b => cases hfs
      | number n => cases hfs
      | string s => cases hfs
    refine Record.deserialize_congr rfl fun fs hfs => ?_
    have hsecond := hget fs hfs
    simp only [record, Record.field, Record.pure, hsecond]

/-- **Nested to any depth**, by induction on how many there are. -/
theorem roundTrips (he : e.Lawful) : (SimBundleLogs.codec e).RoundTrips := by
  intro logs
  induction hn : logs.size using Nat.strongRecOn generalizing logs with
  | _ n ih =>
    subst hn
    obtain ⟨txLogs, bundleLogs⟩ := logs
    have hnames : ["txLogs", "bundleLogs"].Nodup := by decide
    have hnested : ∀ l, bundleLogs = some l → (codec e).vec.RoundTripsAt l := by
      intro l hl
      refine Codec.vec_roundTripsAt.mpr fun logs hmem => ih logs.size ?_ logs rfl
      rw [hl]
      exact size_lt_of_mem hmem
    rw [codec, Codec.fix_eq (guarded e)]
    refine Record.codec_roundTripsAt rfl hnames ?_
    simp only [record, Record.field_roundTripsAt]
    exact ⟨⟨Record.pure_roundTripsAt,
        Field.skipNone_roundTrips (Codec.vec_notNull _) (Codec.vec_roundTrips he.log) _⟩,
      Field.skipNone_roundTripsAt (Codec.vec_notNull _) hnested⟩

end SimBundleLogs

theorem SimBundleResponse.roundTrips (he : e.Lawful) :
    (SimBundleResponse.record e).codec.RoundTrips := by
  intro r
  have hnames : ["success", "error", "stateBlock", "mevGasPrice", "profit", "refundableValue",
      "gasUsed", "logs"].Nodup := by decide
  have hu64 : ∀ name v, (Field.required name e.u64).RoundTripsAt v :=
    fun _ => Field.required_roundTrips he.u64
  refine Record.codec_roundTripsAt rfl hnames ?_
  simp only [record, Record.field_roundTripsAt]
  exact ⟨⟨⟨⟨⟨⟨⟨⟨Record.pure_roundTripsAt, Field.required_roundTrips Codec.bool_roundTrips _⟩,
      Field.skipNone_roundTrips Codec.string_notNull Codec.string_roundTrips _⟩,
      hu64 _ _⟩, hu64 _ _⟩, hu64 _ _⟩, hu64 _ _⟩, hu64 _ _⟩,
    Field.skipNone_roundTrips (Codec.vec_notNull _)
      (Codec.vec_roundTrips (SimBundleLogs.roundTrips he)) _⟩

theorem PrivateTransactionPreferences.roundTrips (he : e.Lawful) :
    (PrivateTransactionPreferences.record e).codec.RoundTrips := by
  intro p
  have hnames : ["validity", "privacy"].Nodup := by decide
  refine Record.codec_roundTripsAt rfl hnames ?_
  simp only [record, Record.field_roundTripsAt]
  exact ⟨⟨Record.pure_roundTripsAt,
      Field.skipNone_roundTrips (Record.codec_notNull _) (Validity.roundTrips he) _⟩,
    Field.skipNone_roundTrips (Record.codec_notNull _) Privacy.roundTrips _⟩

/-- Only the default is empty. -/
theorem PrivateTransactionPreferences.eq_default {p : PrivateTransactionPreferences}
    (h : p.isEmpty = true) : p = default := by
  obtain ⟨validity, privacy⟩ := p
  obtain ⟨hvalidity, hprivacy⟩ := Bool.and_eq_true_iff.mp h
  rw [Option.isNone_iff_eq_none] at hvalidity hprivacy
  rw [default, mk.injEq]
  exact ⟨hvalidity, hprivacy⟩

theorem PrivateTransactionRequest.roundTrips (he : e.Lawful) :
    (PrivateTransactionRequest.record e).codec.RoundTrips := by
  intro r
  have hnames : ["tx", "maxBlockNumber", "preferences"].Nodup := by decide
  have hskipped : r.preferences.isEmpty = true → Except.ok PrivateTransactionPreferences.default =
      (Except.ok r.preferences : Except DeError _) := by
    intro h
    rw [PrivateTransactionPreferences.eq_default h]
  refine Record.codec_roundTripsAt rfl hnames ?_
  simp only [record, Record.field_roundTripsAt]
  exact ⟨⟨⟨Record.pure_roundTripsAt, Field.required_roundTrips he.bytes _⟩,
      Field.skipNone_roundTrips he.u64_notNull he.u64 _⟩,
    Field.skipIf_roundTripsAt hskipped
      (Field.default_roundTripsAt.mpr (PrivateTransactionPreferences.roundTrips he _))⟩

theorem EthSendBundle.roundTrips (he : e.Lawful) :
    (EthSendBundle.record e).codec.RoundTrips := by
  intro b
  have hnames : ["txs", "blockNumber", "minTimestamp", "maxTimestamp", "revertingTxHashes",
      "replacementUuid"].Nodup := by decide
  have hskipped : b.revertingTxHashes.isEmpty = true →
      Except.ok [] = (Except.ok b.revertingTxHashes : Except DeError _) := by
    intro h
    rw [List.isEmpty_iff.mp h]
  refine Record.codec_roundTripsAt rfl hnames ?_
  simp only [record, Record.field_roundTripsAt]
  exact ⟨⟨⟨⟨⟨⟨Record.pure_roundTripsAt,
      Field.required_roundTrips (Codec.vec_roundTrips he.bytes) _⟩,
      Field.required_roundTrips he.u64 _⟩,
      Field.skipNone_roundTrips Codec.u64_notNull Codec.u64_roundTrips _⟩,
      Field.skipNone_roundTrips Codec.u64_notNull Codec.u64_roundTrips _⟩,
      Field.skipIf_roundTripsAt hskipped
        (Field.default_roundTripsAt.mpr (Codec.vec_roundTrips he.h256 _))⟩,
    Field.skipNone_roundTrips Codec.string_notNull Codec.string_roundTrips _⟩

theorem EthCallBundle.roundTrips (he : e.Lawful) :
    (EthCallBundle.record e).codec.RoundTrips := by
  intro b
  have hnames : ["txs", "blockNumber", "stateBlockNumber", "timestamp"].Nodup := by decide
  refine Record.codec_roundTripsAt rfl hnames ?_
  simp only [record, Record.field_roundTripsAt]
  exact ⟨⟨⟨⟨Record.pure_roundTripsAt,
      Field.required_roundTrips (Codec.vec_roundTrips he.bytes) _⟩,
      Field.required_roundTrips he.u64 _⟩,
      Field.required_roundTrips he.blockNumber _⟩,
    Field.skipNone_roundTrips Codec.u64_notNull Codec.u64_roundTrips _⟩

end Rpc
end MevShare
