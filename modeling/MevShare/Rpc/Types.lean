import Mathlib.Data.Nat.Notation

/-!
# The RPC types that the simulation backend handles

The part of `mev-share-rpc-api/src/types.rs` that travels through the backend:
a bundle request, the overrides of a simulation, and the response of one.  Each
structure has the fields of its source, in the order of its source.

The `ethers` scalars are read by width: `U64` is a machine word, `H256`,
`Address` and `U256` are bit vectors, `Bytes` a list of bytes.
-/

namespace MevShare
namespace Rpc

abbrev U64 := UInt64

abbrev H256 := BitVec 256

abbrev TxHash := H256

abbrev Address := BitVec 160

abbrev U256 := BitVec 256

abbrev Bytes := List UInt8

/-! ## Bundle requests -/

/-- The version of the MEV-share API to use. -/
inductive ProtocolVersion where
  | beta1
  | v01
  deriving DecidableEq, Repr, Inhabited

/-- The blocks a bundle is valid for. -/
structure Inclusion where
  /-- The first block the bundle is valid for. -/
  block : U64
  /-- The last block the bundle is valid for. -/
  maxBlock : Option U64
  deriving DecidableEq, Repr

/-- `Inclusion::block_number`. -/
def Inclusion.blockNumber (i : Inclusion) : U64 := i.block

/-- `Inclusion::max_block_number`. -/
def Inclusion.maxBlockNumber (i : Inclusion) : Option U64 := i.maxBlock

/-- `Inclusion::at_block`: a window that opens and never closes. -/
def Inclusion.atBlock (block : U64) : Inclusion := ⟨block, none⟩

/-- A bundle transaction: the hash of one, or a signed one in full. -/
inductive BundleItem where
  | hash (hash : TxHash)
  | tx (tx : Bytes) (canRevert : Bool)
  deriving DecidableEq, Repr

structure Refund where
  bodyIdx : UInt64
  percent : UInt64
  deriving DecidableEq, Repr

structure RefundConfig where
  address : Address
  percent : UInt64
  deriving DecidableEq, Repr

/-- Requirements for the bundle to be included in the block. -/
structure Validity where
  refund : Option (List Refund)
  refundConfig : Option (List RefundConfig)
  deriving DecidableEq, Repr

/-- Which parts of a bundle may be shared. -/
structure PrivacyHint where
  calldata : Bool
  contractAddress : Bool
  logs : Bool
  functionSelector : Bool
  hash : Bool
  txHash : Bool
  deriving DecidableEq, Repr

structure Privacy where
  hints : Option PrivacyHint
  builders : Option (List String)
  deriving DecidableEq, Repr

/-- A bundle of transactions for `mev_sendBundle`. -/
structure SendBundleRequest where
  protocolVersion : ProtocolVersion
  inclusion : Inclusion
  bundleBody : List BundleItem
  validity : Option Validity
  privacy : Option Privacy
  deriving DecidableEq, Repr

/-- `SendBundleRequest::new`. -/
def SendBundleRequest.new (blockNum : U64) (maxBlock : Option U64)
    (protocolVersion : ProtocolVersion) (bundleBody : List BundleItem) : SendBundleRequest where
  protocolVersion := protocolVersion
  inclusion := { block := blockNum, maxBlock := maxBlock }
  bundleBody := bundleBody
  validity := none
  privacy := none

/-! ## Simulation overrides and responses -/

/-- A block number or tag, as `ethers` has it. -/
inductive BlockNumber where
  | latest
  | finalized
  | safe
  | earliest
  | pending
  | number (n : U64)
  deriving DecidableEq, Repr

inductive BlockId where
  | hash (h : H256)
  | number (n : BlockNumber)
  deriving DecidableEq, Repr

/-- Optional fields to override simulation state. -/
structure SimBundleOverrides where
  parentBlock : Option BlockId
  blockNumber : Option U64
  coinbase : Option Address
  timestamp : Option U64
  gasLimit : Option U64
  baseFee : Option U64
  timeout : Option U64
  deriving DecidableEq, Repr

/-- `SimBundleOverrides::default`: nothing is overridden. -/
def SimBundleOverrides.default : SimBundleOverrides := ⟨none, none, none, none, none, none, none⟩

/-- A transaction log, as `ethers` has it. -/
structure Log where
  address : Address
  topics : List H256
  data : Bytes
  blockHash : Option H256
  blockNumber : Option U64
  transactionHash : Option H256
  transactionIndex : Option U64
  logIndex : Option U256
  transactionLogIndex : Option U256
  logType : Option String
  removed : Option Bool
  deriving DecidableEq, Repr

/-- Logs of a simulated bundle; the logs of nested bundles are nested. -/
inductive SimBundleLogs where
  | mk (txLogs : Option (List Log)) (bundleLogs : Option (List SimBundleLogs))

/-- Response from the matchmaker after sending a simulation request. -/
structure SimBundleResponse where
  success : Bool
  error : Option String
  stateBlock : U64
  mevGasPrice : U64
  profit : U64
  refundableValue : U64
  gasUsed : U64
  logs : Option (List SimBundleLogs)

end Rpc
end MevShare
