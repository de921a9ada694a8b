import MevShare.Library.Digits
import MevShare.Library.Serde
import MevShare.Rpc.Types

/-!
# The codecs of `ethers`

The scalars that occur in the payloads are types of `ethers`, and so are their codecs.  They
are a parameter, `Ethers`; what is assumed of them is `Ethers.Lawful`: values make the round
trip, and a value is never written as `null`, which would be taken for its absence.

`Ethers.hex` are codecs of this kind: a quantity is written in hexadecimal without leading
zeros, data of a fixed width with all of its digits, and bytes with two digits each, all of
them after `0x`.
-/

namespace MevShare
namespace Rpc

open Serde

/-- The codecs of the `ethers` types. -/
structure Ethers where
  u64 : Codec U64
  h256 : Codec H256
  address : Codec Address
  bytes : Codec Bytes
  log : Codec Log
  blockId : Codec BlockId
  blockNumber : Codec BlockNumber

/-- What is assumed of the `ethers` types: their values make the round trip, and those that
occur as an option are not written as `null`. -/
structure Ethers.Lawful (e : Ethers) : Prop where
  u64 : e.u64.RoundTrips
  h256 : e.h256.RoundTrips
  address : e.address.RoundTrips
  bytes : e.bytes.RoundTrips
  log : e.log.RoundTrips
  blockId : e.blockId.RoundTrips
  blockNumber : e.blockNumber.RoundTrips
  u64_notNull : e.u64.NotNull
  address_notNull : e.address.NotNull
  blockId_notNull : e.blockId.NotNull

/-! ## Hexadecimal text -/

namespace Hex

/-- Digits, after `0x`. -/
def write (digits : List Char) : Json := .string (String.ofList ('0' :: 'x' :: digits))

def read : Json → Except DeError (List Char)
  | .string s =>
      match s.toList with
      | '0' :: 'x' :: digits => .ok digits
      | _ => .error .invalidValue
  | _ => .error .invalidType

theorem read_write (digits : List Char) : read (write digits) = .ok digits := by
  simp only [read, write, String.toList_ofList]

/-- A number below a limit, without leading zeros. -/
def readQuantity (limit : ℕ) (j : Json) : Except DeError ℕ :=
  match read j with
  | .error err => .error err
  | .ok digits =>
      match Digits.value 16 digits with
      | some n => if n < limit then .ok n else .error .invalidValue
      | none => .error .invalidValue

theorem readQuantity_write {limit n : ℕ} (h : n < limit) :
    readQuantity limit (write (Digits.text 16 n)) = .ok n := by
  have hvalue : Digits.value 16 (Digits.text 16 n) = some n :=
    Digits.value_text (by decide) (Nat.le_refl 16) n
  simp only [readQuantity, read_write, hvalue, if_pos h]

def u64 : Codec U64 where
  serialize n := .ok (write (Digits.text 16 n.toNat))
  deserialize j :=
    match readQuantity UInt64.size j with
    | .error err => .error err
    | .ok n => .ok (UInt64.ofNat n)

def u256 : Codec U256 where
  serialize n := .ok (write (Digits.text 16 n.toNat))
  deserialize j :=
    match readQuantity (2 ^ 256) j with
    | .error err => .error err
    | .ok n => .ok (BitVec.ofNat 256 n)

/-- Data of so many digits. -/
def data (digits : ℕ) : Codec (BitVec (4 * digits)) where
  serialize x := .ok (write (Digits.padded 16 digits x.toNat))
  deserialize j :=
    match read j with
    | .error err => .error err
    | .ok cs =>
        match Digits.value 16 cs with
        | some n =>
            if cs.length = digits then .ok (BitVec.ofNat (4 * digits) n)
            else .error .invalidLength
        | none => .error .invalidValue

def h256 : Codec H256 := data 64

def address : Codec Address := data 40

def bytes : Codec Bytes where
  serialize bs := .ok (write (Digits.hexBytes bs))
  deserialize j :=
    match read j with
    | .error err => .error err
    | .ok cs =>
        match Digits.ofHexBytes cs with
        | some bs => .ok bs
        | none => .error .invalidValue

theorem u64_roundTrips : u64.RoundTrips := by
  intro n
  refine ⟨_, rfl, ?_⟩
  simp only [u64, readQuantity_write n.toNat_lt_size, UInt64.ofNat_toNat]

theorem u256_roundTrips : u256.RoundTrips := by
  intro n
  refine ⟨_, rfl, ?_⟩
  simp only [u256, readQuantity_write n.isLt, BitVec.ofNat_toNat, BitVec.setWidth_eq]

theorem data_roundTrips {digits : ℕ} (h : 0 < digits) : (data digits).RoundTrips := by
  intro x
  refine ⟨_, rfl, ?_⟩
  have hlt : x.toNat < 16 ^ digits := by
    have hpow : (16 : ℕ) ^ digits = 2 ^ (4 * digits) := by
      rw [Nat.pow_mul]
    rw [hpow]
    exact x.isLt
  have hlength : (Digits.padded 16 digits x.toNat).length = digits :=
    Digits.length_padded (by decide) hlt
  have hvalue : Digits.value 16 (Digits.padded 16 digits x.toNat) = some x.toNat :=
    Digits.value_padded (by decide) (Nat.le_refl 16) h x.toNat
  simp only [data, read_write, hvalue, if_pos hlength, BitVec.ofNat_toNat, BitVec.setWidth_eq]

theorem bytes_roundTrips : bytes.RoundTrips := by
  intro bs
  refine ⟨_, rfl, ?_⟩
  simp only [bytes, read_write, Digits.ofHexBytes_hexBytes]

theorem u64_notNull : u64.NotNull := fun _ h => by cases h

theorem u256_notNull : u256.NotNull := fun _ h => by cases h

theorem data_notNull (digits : ℕ) : (data digits).NotNull := fun _ h => by cases h

/-! ## Blocks and logs -/

def blockNumber : Codec BlockNumber where
  serialize
    | .latest => .ok (.string "latest")
    | .finalized => .ok (.string "finalized")
    | .safe => .ok (.string "safe")
    | .earliest => .ok (.string "earliest")
    | .pending => .ok (.string "pending")
    | .number n => u64.serialize n
  deserialize j :=
    match j with
    | .string "latest" => .ok .latest
    | .string "finalized" => .ok .finalized
    | .string "safe" => .ok .safe
    | .string "earliest" => .ok .earliest
    | .string "pending" => .ok .pending
    | j =>
        match u64.deserialize j with
        | .error err => .error err
        | .ok n => .ok (.number n)

/-- A block by its hash is an object with one name. -/
def blockId : Codec BlockId where
  serialize
    | .hash h =>
        match h256.serialize h with
        | .error err => .error err
        | .ok j => .ok (.object [("blockHash", j)])
    | .number n => blockNumber.serialize n
  deserialize
    | .object o =>
        match o.lookup "blockHash", o.lookup "blockNumber" with
        | some j, _ =>
            match h256.deserialize j with
            | .error err => .error err
            | .ok h => .ok (.hash h)
        | none, some j =>
            match blockNumber.deserialize j with
            | .error err => .error err
            | .ok n => .ok (.number n)
        | none, none => .error (.missingField "blockHash")
    | j =>
        match blockNumber.deserialize j with
        | .error err => .error err
        | .ok n => .ok (.number n)

def log : Record Log Log :=
  Record.pure Log Log.mk
    |>.field (.required "address" address) (·.address)
    |>.field (.required "topics" h256.vec) (·.topics)
    |>.field (.required "data" bytes) (·.data)
    |>.field (.skipNone "blockHash" h256) (·.blockHash)
    |>.field (.skipNone "blockNumber" u64) (·.blockNumber)
    |>.field (.skipNone "transactionHash" h256) (·.transactionHash)
    |>.field (.skipNone "transactionIndex" u64) (·.transactionIndex)
    |>.field (.skipNone "logIndex" u256) (·.logIndex)
    |>.field (.skipNone "transactionLogIndex" u256) (·.transactionLogIndex)
    |>.field (.skipNone "logType" Codec.string) (·.logType)
    |>.field (.skipNone "removed" Codec.bool) (·.removed)

/-- Digits after `0x` are no tag. -/
theorem write_ne {digits : List Char} {s : String} (h : s.toList.head? ≠ some '0') :
    write digits ≠ .string s := by
  intro heq
  have hs : String.ofList ('0' :: 'x' :: digits) = s := Json.string.inj heq
  rw [← hs, String.toList_ofList] at h
  exact h rfl

theorem blockNumber_roundTrips : blockNumber.RoundTrips := by
  intro b
  cases b with
  | latest => exact ⟨_, rfl, rfl⟩
  | finalized => exact ⟨_, rfl, rfl⟩
  | safe => exact ⟨_, rfl, rfl⟩
  | earliest => exact ⟨_, rfl, rfl⟩
  | pending => exact ⟨_, rfl, rfl⟩
  | number n =>
    obtain ⟨j, hser, hde⟩ := u64_roundTrips n
    cases hser
    refine ⟨_, rfl, ?_⟩
    have hlatest : write (Digits.text 16 n.toNat) ≠ .string "latest" := write_ne (by decide)
    have hfinalized : write (Digits.text 16 n.toNat) ≠ .string "finalized" := write_ne (by decide)
    have hsafe : write (Digits.text 16 n.toNat) ≠ .string "safe" := write_ne (by decide)
    have hearliest : write (Digits.text 16 n.toNat) ≠ .string "earliest" := write_ne (by decide)
    have hpending : write (Digits.text 16 n.toNat) ≠ .string "pending" := write_ne (by decide)
    simp only [blockNumber, hde]

theorem blockNumber_string (b : BlockNumber) : ∃ s, blockNumber.serialize b = .ok (.string s) := by
  cases b <;> exact ⟨_, rfl⟩

theorem blockId_roundTrips : blockId.RoundTrips := by
  intro b
  cases b with
  | hash h =>
    have hh256 : h256.RoundTrips := data_roundTrips (by decide)
    obtain ⟨j, hser, hde⟩ := hh256 h
    refine ⟨.object [("blockHash", j)], ?_, ?_⟩
    · simp only [blockId, hser]
    · simp only [blockId, List.lookup_cons_self, hde]
  | number n =>
    obtain ⟨j, hser, hde⟩ := blockNumber_roundTrips n
    obtain ⟨s, hs⟩ := blockNumber_string n
    have hj : j = .string s := Except.ok.inj (hser.symm.trans hs)
    subst hj
    refine ⟨.string s, hser, ?_⟩
    simp only [blockId, hde]

theorem blockId_notNull : blockId.NotNull := by
  intro b h
  cases b with
  | hash _ => cases h
  | number n =>
    obtain ⟨s, hs⟩ := blockNumber_string n
    replace h : blockNumber.serialize n = .ok .null := h
    rw [hs] at h
    cases h

theorem log_roundTrips : log.codec.RoundTrips := by
  intro l
  have hnames : ["address", "topics", "data", "blockHash", "blockNumber", "transactionHash",
      "transactionIndex", "logIndex", "transactionLogIndex", "logType", "removed"].Nodup := by
    decide
  have hh256 : h256.RoundTrips := data_roundTrips (by decide)
  have haddress : address.RoundTrips := data_roundTrips (by decide)
  have hdata : ∀ name v, (Field.skipNone name h256).RoundTripsAt v :=
    fun _ => Field.skipNone_roundTrips (data_notNull _) hh256
  have hu64 : ∀ name v, (Field.skipNone name u64).RoundTripsAt v :=
    fun _ => Field.skipNone_roundTrips u64_notNull u64_roundTrips
  have hu256 : ∀ name v, (Field.skipNone name u256).RoundTripsAt v :=
    fun _ => Field.skipNone_roundTrips u256_notNull u256_roundTrips
  refine Record.codec_roundTripsAt rfl hnames ?_
  simp only [log, Record.field_roundTripsAt]
  exact ⟨⟨⟨⟨⟨⟨⟨⟨⟨⟨⟨Record.pure_roundTripsAt, Field.required_roundTrips haddress _⟩,
      Field.required_roundTrips (Codec.vec_roundTrips hh256) _⟩,
      Field.required_roundTrips bytes_roundTrips _⟩,
      hdata _ _⟩, hu64 _ _⟩, hdata _ _⟩, hu64 _ _⟩, hu256 _ _⟩, hu256 _ _⟩,
      Field.skipNone_roundTrips Codec.string_notNull Codec.string_roundTrips _⟩,
    Field.skipNone_roundTrips Codec.bool_notNull Codec.bool_roundTrips _⟩

end Hex

/-- The hexadecimal codecs. -/
def Ethers.hex : Ethers where
  u64 := Hex.u64
  h256 := Hex.h256
  address := Hex.address
  bytes := Hex.bytes
  log := Hex.log.codec
  blockId := Hex.blockId
  blockNumber := Hex.blockNumber

/-- **They are lawful.** -/
theorem Ethers.hex_lawful : Ethers.hex.Lawful where
  u64 := Hex.u64_roundTrips
  h256 := Hex.data_roundTrips (by decide)
  address := Hex.data_roundTrips (by decide)
  bytes := Hex.bytes_roundTrips
  log := Hex.log_roundTrips
  blockId := Hex.blockId_roundTrips
  blockNumber := Hex.blockNumber_roundTrips
  u64_notNull := Hex.u64_notNull
  address_notNull := Hex.data_notNull _
  blockId_notNull := Hex.blockId_notNull

end Rpc
end MevShare
