import MevShare.Library.CompactJson
import MevShare.Library.JsonText
import MevShare.Rpc.Codec

/-!
# The payloads on the wire

What is sent of a payload is the text of its JSON form, and the parser of the text gives up
on what is nested too deeply.  Five of the six payloads have a few levels at most.  The
sixth, the response of a simulation, has the logs of nested bundles in it, and these may be
nested to any depth.

`SimBundleResponse.levels` counts the levels of a response, from its logs alone.
`wire_roundTrip` is the result: the five make the round trip through text whatever they
are, and a response exactly if it has no more levels than are read.  The round trip through
JSON values, which `Rpc/Codec.lean` is about, has no such limit.

The text is the parameter `JsonText`.  Of the codecs of `ethers` it is assumed that they
write as many levels as the types have (`Ethers.Shallow`).
-/

namespace MevShare
namespace Rpc

open Serde

variable {t : JsonText} {e : Ethers} {n : ℕ}

/-! ## Foreign codecs -/

/-- What is assumed of the `ethers` types: scalars are no arrays or objects, a block may be an
object with its hash, and a log is an object with an array of topics in it. -/
structure Ethers.Shallow (e : Ethers) : Prop where
  u64 : e.u64.Shallow 0
  h256 : e.h256.Shallow 0
  address : e.address.Shallow 0
  bytes : e.bytes.Shallow 0
  blockNumber : e.blockNumber.Shallow 0
  blockId : e.blockId.Shallow 1
  log : ∀ l n, e.log.ShallowAt n l ↔ 2 ≤ n

namespace Hex

theorem u64_shallow : u64.Shallow n :=
  Codec.shallow_of_scalars (fun _ => rfl) fun _ => ⟨rfl, Nat.le_refl 0⟩

theorem u256_shallow : u256.Shallow n :=
  Codec.shallow_of_scalars (fun _ => rfl) fun _ => ⟨rfl, Nat.le_refl 0⟩

theorem data_shallow {digits : ℕ} : (data digits).Shallow n :=
  Codec.shallow_of_scalars (fun _ => rfl) fun _ => ⟨rfl, Nat.le_refl 0⟩

theorem bytes_shallow : bytes.Shallow n :=
  Codec.shallow_of_scalars (fun _ => rfl) fun _ => ⟨rfl, Nat.le_refl 0⟩

theorem blockNumber_shallow : blockNumber.Shallow n := by
  intro b j h
  obtain ⟨s, hs⟩ := blockNumber_string b
  obtain rfl := Except.ok.inj (hs.symm.trans h)
  exact ⟨rfl, Nat.zero_le n⟩

theorem blockId_shallow : blockId.Shallow 1 := by
  intro b j h
  rcases b with hash | number
  · cases h
    exact ⟨rfl, Nat.le_refl 1⟩
  · exact blockNumber_shallow number j h

/-- The topics are always there, so the levels of a log are always two. -/
theorem log_shallowAt_iff (l : Log) : log.codec.ShallowAt n l ↔ 2 ≤ n := by
  have hh256 : ∀ m, h256.Shallow m := fun _ => data_shallow
  have haddress : ∀ m, address.Shallow m := fun _ => data_shallow
  have htopics : (Field.required "topics" h256.vec).ShallowAt (n - 1) l.topics ↔ 0 < n - 1 := by
    have hround : h256.RoundTrips := data_roundTrips (by decide)
    rw [Field.required_shallowAt_iff,
      Codec.vec_shallowAt_iff (Codec.vec_roundTrips hround l.topics).serializes]
    exact and_iff_left fun h _ => hh256 _ h
  rw [Record.codec_shallowAt_iff (log_roundTrips l).serializes]
  simp only [log, Record.field_shallowAt, Record.pure_shallowAt, htopics,
    Field.required_shallowAt (haddress _), Field.required_shallowAt bytes_shallow,
    Field.skipNone_shallowAt (hh256 _), Field.skipNone_shallowAt u64_shallow,
    Field.skipNone_shallowAt u256_shallow, Field.skipNone_shallowAt Codec.string_shallow,
    Field.skipNone_shallowAt Codec.bool_shallow, true_and, and_true]
  omega

end Hex

theorem Ethers.hex_shallow : Ethers.hex.Shallow where
  u64 := Hex.u64_shallow
  h256 := Hex.data_shallow
  address := Hex.data_shallow
  bytes := Hex.bytes_shallow
  blockNumber := Hex.blockNumber_shallow
  blockId := Hex.blockId_shallow
  log l _ := Hex.log_shallowAt_iff l

/-! ## Payloads of a few levels -/

theorem ProtocolVersion.shallow : ProtocolVersion.codec.Shallow n := by
  intro v j h
  rcases v with _ | _ <;> cases h <;> exact ⟨rfl, Nat.zero_le n⟩

theorem Inclusion.shallow (hw : e.Shallow) : (Inclusion.record e).codec.Shallow 1 := by
  refine Record.codec_shallow fun i => ?_
  simp only [record, Record.field_shallowAt]
  exact ⟨⟨Record.pure_shallowAt, Field.required_shallowAt hw.u64 _⟩,
    Field.skipNone_shallowAt hw.u64 _⟩

theorem BundleItem.shallow (hw : e.Shallow) : (BundleItem.codec e).Shallow 1 := by
  intro item j h
  rcases item with hash | ⟨tx, canRevert⟩
  · have hhash : (hashRecord e).codec.Shallow 1 := by
      refine Record.codec_shallow fun h => ?_
      simp only [hashRecord, Record.field_shallowAt]
      exact ⟨Record.pure_shallowAt, Field.required_shallowAt hw.h256 _⟩
    exact hhash hash j h
  · have htx : (txRecord e).codec.Shallow 1 := by
      refine Record.codec_shallow fun x => ?_
      simp only [txRecord, Record.field_shallowAt]
      exact ⟨⟨Record.pure_shallowAt, Field.required_shallowAt hw.bytes _⟩,
        Field.required_shallowAt Codec.bool_shallow _⟩
    exact htx (tx, canRevert) j h

theorem Refund.shallow : Refund.record.codec.Shallow 1 := by
  refine Record.codec_shallow fun r => ?_
  simp only [record, Record.field_shallowAt]
  exact ⟨⟨Record.pure_shallowAt, Field.required_shallowAt Codec.u64_shallow _⟩,
    Field.required_shallowAt Codec.u64_shallow _⟩

theorem RefundConfig.shallow (hw : e.Shallow) : (RefundConfig.record e).codec.Shallow 1 := by
  refine Record.codec_shallow fun r => ?_
  simp only [record, Record.field_shallowAt]
  exact ⟨⟨Record.pure_shallowAt, Field.required_shallowAt hw.address _⟩,
    Field.required_shallowAt Codec.u64_shallow _⟩

theorem Validity.shallow (hw : e.Shallow) : (Validity.record e).codec.Shallow 3 := by
  refine Record.codec_shallow fun v => ?_
  simp only [record, Record.field_shallowAt]
  exact ⟨⟨Record.pure_shallowAt, Field.skipNone_shallowAt (Codec.vec_shallow Refund.shallow) _⟩,
    Field.skipNone_shallowAt (Codec.vec_shallow (RefundConfig.shallow hw)) _⟩

theorem PrivacyHint.shallow : PrivacyHint.codec.Shallow 1 := by
  intro h j hj
  cases hj
  refine Json.shallow_array.mpr ⟨Nat.one_pos, fun x hx => ?_⟩
  obtain ⟨text, -, rfl⟩ := List.mem_map.mp hx
  exact ⟨rfl, Nat.le_refl 0⟩

theorem Privacy.shallow : Privacy.record.codec.Shallow 2 := by
  refine Record.codec_shallow fun p => ?_
  simp only [record, Record.field_shallowAt]
  exact ⟨⟨Record.pure_shallowAt, Field.skipNone_shallowAt PrivacyHint.shallow _⟩,
    Field.skipNone_shallowAt (Codec.vec_shallow Codec.string_shallow) _⟩

theorem SendBundleRequest.shallow (hw : e.Shallow) :
    (SendBundleRequest.record e).codec.Shallow 4 := by
  refine Record.codec_shallow fun r => ?_
  simp only [record, Record.field_shallowAt]
  exact ⟨⟨⟨⟨⟨Record.pure_shallowAt, Field.required_shallowAt ProtocolVersion.shallow _⟩,
      Field.required_shallowAt ((Inclusion.shallow hw).mono (by omega)) _⟩,
      Field.required_shallowAt ((Codec.vec_shallow (BundleItem.shallow hw)).mono (by omega)) _⟩,
      Field.skipNone_shallowAt (Validity.shallow hw) _⟩,
    Field.skipNone_shallowAt (Privacy.shallow.mono (by omega)) _⟩

theorem SimBundleOverrides.shallow (hw : e.Shallow) :
    (SimBundleOverrides.record e).codec.Shallow 2 := by
  have hu64 : ∀ name v, (Field.skipNone name e.u64).ShallowAt 1 v :=
    fun _ => Field.skipNone_shallowAt (hw.u64.mono (by omega))
  refine Record.codec_shallow fun o => ?_
  simp only [record, Record.field_shallowAt]
  exact ⟨⟨⟨⟨⟨⟨⟨Record.pure_shallowAt, Field.skipNone_shallowAt hw.blockId _⟩, hu64 _ _⟩,
      Field.skipNone_shallowAt (hw.address.mono (by omega)) _⟩, hu64 _ _⟩, hu64 _ _⟩, hu64 _ _⟩,
    hu64 _ _⟩

theorem PrivateTransactionPreferences.shallow (hw : e.Shallow) :
    (PrivateTransactionPreferences.record e).codec.Shallow 4 := by
  refine Record.codec_shallow fun p => ?_
  simp only [record, Record.field_shallowAt]
  exact ⟨⟨Record.pure_shallowAt, Field.skipNone_shallowAt (Validity.shallow hw) _⟩,
    Field.skipNone_shallowAt (Privacy.shallow.mono (by omega)) _⟩

theorem PrivateTransactionRequest.shallow (hw : e.Shallow) :
    (PrivateTransactionRequest.record e).codec.Shallow 5 := by
  refine Record.codec_shallow fun r => ?_
  simp only [record, Record.field_shallowAt]
  exact ⟨⟨⟨Record.pure_shallowAt, Field.required_shallowAt (hw.bytes.mono (by omega)) _⟩,
      Field.skipNone_shallowAt (hw.u64.mono (by omega)) _⟩,
    Field.skipIf_shallowAt (Field.default_shallowAt
      (Field.required_shallowAt (PrivateTransactionPreferences.shallow hw) _))⟩

theorem EthSendBundle.shallow (hw : e.Shallow) : (EthSendBundle.record e).codec.Shallow 2 := by
  refine Record.codec_shallow fun b => ?_
  simp only [record, Record.field_shallowAt]
  exact ⟨⟨⟨⟨⟨⟨Record.pure_shallowAt, Field.required_shallowAt (Codec.vec_shallow hw.bytes) _⟩,
      Field.required_shallowAt (hw.u64.mono (by omega)) _⟩,
      Field.skipNone_shallowAt Codec.u64_shallow _⟩,
      Field.skipNone_shallowAt Codec.u64_shallow _⟩,
      Field.skipIf_shallowAt (Field.default_shallowAt
        (Field.required_shallowAt (Codec.vec_shallow hw.h256) _))⟩,
    Field.skipNone_shallowAt Codec.string_shallow _⟩

theorem EthCallBundle.shallow (hw : e.Shallow) : (EthCallBundle.record e).codec.Shallow 2 := by
  refine Record.codec_shallow fun b => ?_
  simp only [record, Record.field_shallowAt]
  exact ⟨⟨⟨⟨Record.pure_shallowAt, Field.required_shallowAt (Codec.vec_shallow hw.bytes) _⟩,
      Field.required_shallowAt (hw.u64.mono (by omega)) _⟩,
      Field.required_shallowAt (hw.blockNumber.mono (by omega)) _⟩,
    Field.skipNone_shallowAt Codec.u64_shallow _⟩

/-! ## Logs -/

namespace SimBundleLogs

/-- The levels of the logs of transactions: an array, the logs, and their topics. -/
def txLevels : Option (List Log) → ℕ
  | none => 0
  | some [] => 1
  | some (_ :: _) => 3

mutual

/-- How deeply the JSON form of logs is nested. -/
def levels : SimBundleLogs → ℕ
  | .mk txLogs none => txLevels txLogs + 1
  | .mk txLogs (some l) => max (txLevels txLogs) (levelsList l + 1) + 1

def levelsList : List SimBundleLogs → ℕ
  | [] => 0
  | logs :: l => max logs.levels (levelsList l)

end

theorem levelsList_le {l : List SimBundleLogs} :
    levelsList l ≤ n ↔ ∀ logs ∈ l, logs.levels ≤ n := by
  induction l with
  | nil => simp [levelsList]
  | cons logs l ih => rw [levelsList, Nat.max_le, ih, List.forall_mem_cons]

theorem txLogs_shallowAt_iff (he : e.Lawful) (hw : e.Shallow) (txLogs : Option (List Log)) :
    (Field.skipNone "txLogs" e.log.vec).ShallowAt n txLogs ↔ txLevels txLogs ≤ n := by
  rcases txLogs with _ | l
  · exact iff_of_true Field.skipNone_shallowAt_none (Nat.zero_le n)
  · have hround : e.log.vec.RoundTripsAt l := Codec.vec_roundTrips he.log l
    rw [Field.skipNone_shallowAt_some, Codec.vec_shallowAt_iff hround.serializes]
    simp only [hw.log]
    rcases l with _ | ⟨log, l⟩
    · simp only [txLevels, List.not_mem_nil, false_implies, implies_true, and_true]
      omega
    · have hall : (∀ a ∈ log :: l, 2 ≤ n - 1) ↔ 2 ≤ n - 1 :=
        ⟨fun h => h log List.mem_cons_self, fun h _ _ => h⟩
      rw [hall, txLevels]
      omega

/-- **The levels of nested logs**, where those of each of them are counted. -/
theorem vec_shallowAt_iff (he : e.Lawful) {l : List SimBundleLogs}
    (h : ∀ logs ∈ l, ∀ n, (codec e).ShallowAt n logs ↔ logs.levels ≤ n) :
    (codec e).vec.ShallowAt n l ↔ levelsList l + 1 ≤ n := by
  have hround : (codec e).vec.RoundTripsAt l := Codec.vec_roundTrips (roundTrips he) l
  have hall : (∀ logs ∈ l, (codec e).ShallowAt (n - 1) logs) ↔ levelsList l ≤ n - 1 := by
    rw [levelsList_le]
    exact forall₂_congr fun logs hmem => h logs hmem (n - 1)
  rw [Codec.vec_shallowAt_iff hround.serializes, hall]
  omega

theorem codec_eq (e : Ethers) : codec e = (record e (codec e)).codec := Codec.fix_eq (guarded e)

/-- **The levels are counted**, by induction on how many logs there are. -/
theorem shallowAt_iff (he : e.Lawful) (hw : e.Shallow) (logs : SimBundleLogs) (n : ℕ) :
    (codec e).ShallowAt n logs ↔ logs.levels ≤ n := by
  induction hsize : logs.size using Nat.strongRecOn generalizing logs n with
  | _ size ih =>
    subst hsize
    have hserializes := (roundTrips he logs).serializes
    rw [codec_eq] at hserializes
    rw [codec_eq, Record.codec_shallowAt_iff hserializes]
    simp only [record, Record.field_shallowAt, Record.pure_shallowAt, true_and,
      txLogs_shallowAt_iff he hw]
    obtain ⟨tx, _ | l⟩ := logs
    · simp only [txLogs, bundleLogs, levels, Field.skipNone_shallowAt_none, and_true]
      omega
    · have hnested : (codec e).vec.ShallowAt (n - 1) l ↔ levelsList l + 1 ≤ n - 1 :=
        vec_shallowAt_iff he fun logs hmem m => ih logs.size (size_lt_of_mem hmem) logs m rfl
      simp only [txLogs, bundleLogs, levels, Field.skipNone_shallowAt_some, hnested]
      omega

end SimBundleLogs

/-- How deeply the JSON form of a response is nested. -/
def SimBundleResponse.levels (r : SimBundleResponse) : ℕ :=
  match r.logs with
  | none => 1
  | some l => SimBundleLogs.levelsList l + 2

theorem SimBundleResponse.shallowAt_iff (he : e.Lawful) (hw : e.Shallow) (r : SimBundleResponse) :
    (SimBundleResponse.record e).codec.ShallowAt n r ↔ r.levels ≤ n := by
  have hu64 : ∀ name v, (Field.required name e.u64).ShallowAt (n - 1) v :=
    fun _ => Field.required_shallowAt (hw.u64.mono (Nat.zero_le _))
  rw [Record.codec_shallowAt_iff (roundTrips he r).serializes]
  simp only [record, Record.field_shallowAt, Record.pure_shallowAt, hu64,
    Field.required_shallowAt Codec.bool_shallow, Field.skipNone_shallowAt Codec.string_shallow,
    true_and, and_true]
  rcases hlogs : r.logs with _ | l
  · simp only [Field.skipNone_shallowAt_none, and_true, levels, hlogs]
    omega
  · rw [Field.skipNone_shallowAt_some, SimBundleLogs.vec_shallowAt_iff he
      fun logs _ => SimBundleLogs.shallowAt_iff he hw logs]
    simp only [levels, hlogs]
    omega

namespace SimBundleResponse

/-- What is written of a response, and how deeply it is nested. -/
theorem serialize_levels (he : e.Lawful) (hw : e.Shallow) (r : SimBundleResponse) :
    ∃ j, (record e).codec.serialize r = .ok j ∧ j.whole = true ∧
      ∀ n, j.levels ≤ n ↔ r.levels ≤ n := by
  obtain ⟨j, hj⟩ := (roundTrips he r).serializes
  have hshallow : ∀ n, j.Shallow n ↔ r.levels ≤ n := by
    intro n
    rw [← Codec.shallowAt_iff hj, shallowAt_iff he hw]
  have hwhole : j.whole = true := ((hshallow r.levels).mpr (Nat.le_refl _)).whole
  refine ⟨j, hj, hwhole, fun n => ?_⟩
  rw [← hshallow]
  exact ⟨fun h => ⟨hwhole, h⟩, fun h => h.levels⟩

/-- **A response** makes the round trip through text exactly if its levels are read. -/
theorem textRoundTripsAt_iff (ht : t.Lawful) (he : e.Lawful) (hw : e.Shallow)
    (r : SimBundleResponse) :
    (record e).codec.TextRoundTripsAt t r ↔ r.levels ≤ JsonText.maxLevels := by
  obtain ⟨j, hj, hwhole, hlevels⟩ := serialize_levels he hw r
  rw [Codec.textRoundTripsAt_iff ht (roundTrips he r) hj hwhole, hlevels]

/-- Any other is written, and not read. -/
theorem refused_of_deep (ht : t.Lawful) (he : e.Lawful) (hw : e.Shallow) {r : SimBundleResponse}
    (hdeep : JsonText.maxLevels < r.levels) :
    ∃ x err, (record e).codec.toText t r = .ok x ∧
      (record e).codec.fromText t x = .error err := by
  obtain ⟨j, hj, hwhole, hlevels⟩ := serialize_levels he hw r
  have hrefused : JsonText.maxLevels < j.levels := by
    rw [← Nat.not_le, hlevels]
    exact Nat.not_le.mpr hdeep
  obtain ⟨err, herr⟩ := Codec.fromText_of_deep ht (record e).codec hwhole hrefused
  refine ⟨t.write j, err, ?_, herr⟩
  simp only [Codec.toText, hj]

end SimBundleResponse

/-! ## Round trips -/

/-- **The payloads make the round trip.**  Every value of five of them is written as text and
is what is read from it.  So is a response, to any depth, through JSON values; through text it
is exactly if it has no more levels than are read, and the text of any other is refused. -/
theorem wire_roundTrip (ht : t.Lawful) (he : e.Lawful) (hw : e.Shallow) :
    (∀ r, (SendBundleRequest.record e).codec.TextRoundTripsAt t r) ∧
      (∀ o, (SimBundleOverrides.record e).codec.TextRoundTripsAt t o) ∧
      (∀ r, (PrivateTransactionRequest.record e).codec.TextRoundTripsAt t r) ∧
      (∀ b, (EthSendBundle.record e).codec.TextRoundTripsAt t b) ∧
      (∀ b, (EthCallBundle.record e).codec.TextRoundTripsAt t b) ∧
      (SimBundleResponse.record e).codec.RoundTrips ∧
      (∀ r : SimBundleResponse, (SimBundleResponse.record e).codec.TextRoundTripsAt t r ↔
        r.levels ≤ JsonText.maxLevels) ∧
      ∀ r : SimBundleResponse, JsonText.maxLevels < r.levels →
        ∃ x err, (SimBundleResponse.record e).codec.toText t r = .ok x ∧
          (SimBundleResponse.record e).codec.fromText t x = .error err := by
  refine ⟨?_, ?_, ?_, ?_, ?_, SimBundleResponse.roundTrips he,
    SimBundleResponse.textRoundTripsAt_iff ht he hw,
    fun _ => SimBundleResponse.refused_of_deep ht he hw⟩
  · exact Codec.textRoundTrips ht (SendBundleRequest.roundTrips he)
      (SendBundleRequest.shallow hw) (by decide)
  · exact Codec.textRoundTrips ht (SimBundleOverrides.roundTrips he)
      (SimBundleOverrides.shallow hw) (by decide)
  · exact Codec.textRoundTrips ht (PrivateTransactionRequest.roundTrips he)
      (PrivateTransactionRequest.shallow hw) (by decide)
  · exact Codec.textRoundTrips ht (EthSendBundle.roundTrips he)
      (EthSendBundle.shallow hw) (by decide)
  · exact Codec.textRoundTrips ht (EthCallBundle.roundTrips he)
      (EthCallBundle.shallow hw) (by decide)

/-! ### At the limit -/

/-- Logs with no transactions, below so many others of this kind. -/
def SimBundleLogs.nested : ℕ → SimBundleLogs
  | 0 => .mk none none
  | n + 1 => .mk none (some [nested n])

theorem SimBundleLogs.levels_nested (n : ℕ) : (nested n).levels = 2 * n + 1 := by
  induction n with
  | zero => rfl
  | succ n ih =>
    rw [nested, levels, levelsList, levelsList, txLevels, ih]
    omega

/-- The response for bundles that are nested. -/
def nestedResponse (n : ℕ) : SimBundleResponse where
  success := true
  error := none
  stateBlock := 7
  mevGasPrice := 0
  profit := 0
  refundableValue := 0
  gasUsed := 0
  logs := some [SimBundleLogs.nested n]

theorem levels_nestedResponse (n : ℕ) : (nestedResponse n).levels = 2 * n + 3 := by
  rw [SimBundleResponse.levels, nestedResponse]
  simp only [SimBundleLogs.levelsList, SimBundleLogs.levels_nested]
  omega

/-- Bundles in bundles, 63 of them, are read. -/
theorem wire_roundTrip_compact :
    (SendBundleRequest.record Ethers.hex).codec.TextRoundTripsAt .compact
        (SendBundleRequest.new 7 none .v01 [.tx [1, 2] true, .hash 3]) ∧
      (SimBundleResponse.record Ethers.hex).codec.TextRoundTripsAt .compact
        (nestedResponse 62) := by
  obtain ⟨hsend, -, -, -, -, -, hresponse, -⟩ := wire_roundTrip JsonText.compact_lawful
    Ethers.hex_lawful Ethers.hex_shallow
  refine ⟨hsend _, (hresponse _).mpr ?_⟩
  rw [levels_nestedResponse]
  decide

/-- And 64 are not: they are written, and the text is refused. -/
theorem nestedResponse_refused :
    ¬ (SimBundleResponse.record Ethers.hex).codec.TextRoundTripsAt .compact (nestedResponse 63) ∧
      ∃ x err, (SimBundleResponse.record Ethers.hex).codec.toText .compact (nestedResponse 63) =
          .ok x ∧
        (SimBundleResponse.record Ethers.hex).codec.fromText .compact x = .error err := by
  have hdeep : JsonText.maxLevels < (nestedResponse 63).levels := by
    rw [levels_nestedResponse]
    decide
  refine ⟨fun h => ?_, SimBundleResponse.refused_of_deep JsonText.compact_lawful
    Ethers.hex_lawful Ethers.hex_shallow hdeep⟩
  have hlevels := (SimBundleResponse.textRoundTripsAt_iff JsonText.compact_lawful
    Ethers.hex_lawful Ethers.hex_shallow (nestedResponse 63)).mp h
  exact absurd hlevels (Nat.not_le.mpr hdeep)

end Rpc
end MevShare
