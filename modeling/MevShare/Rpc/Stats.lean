import MevShare.Library.Rust
import MevShare.Library.Serde

/-!
# Bundle statistics

`BundleStats` of `mev-share-rpc-api/src/types.rs` and its codec, which is written by hand.
The variants are not tagged.  What is written for `Seen` and for `Simulated` are the fields
of the statistics; what is read is told apart by two of them: without `receivedAt` nothing
was seen, and with it the flag `isSimulated` decides.

The flag is a field like any other, and nothing ties it to the variant that holds it.
`BundleStats.deserialize_serialize` is the first result: every value is serialized, and it
is deserialized to itself exactly if its flag says what its variant does.  The second,
`BundleStats.safeAt_iff`, is about objects of any origin.
-/

namespace MevShare
namespace Rpc

open Serde
open Rust

/-! ## The statistics -/

structure ConsideredByBuildersAt where
  pubkey : String
  timestamp : String
  deriving DecidableEq, Repr

structure SealedByBuildersAt where
  pubkey : String
  timestamp : String
  deriving DecidableEq, Repr

structure StatsSeen where
  isHighPriority : Bool
  isSimulated : Bool
  receivedAt : String
  deriving DecidableEq, Repr

structure StatsSimulated where
  isHighPriority : Bool
  isSimulated : Bool
  simulatedAt : String
  receivedAt : String
  consideredByBuildersAt : List ConsideredByBuildersAt
  sealedByBuildersAt : List SealedByBuildersAt
  deriving DecidableEq, Repr

inductive BundleStats where
  /-- The relayer has not yet seen the bundle. -/
  | unknown
  /-- The relayer has seen the bundle, but has not simulated it yet. -/
  | seen (stats : StatsSeen)
  /-- The relayer has seen the bundle and has simulated it. -/
  | simulated (stats : StatsSimulated)
  deriving DecidableEq, Repr

def ConsideredByBuildersAt.record : Record ConsideredByBuildersAt ConsideredByBuildersAt :=
  Record.pure ConsideredByBuildersAt ConsideredByBuildersAt.mk
    |>.field (.required "pubkey" Codec.string) (·.pubkey)
    |>.field (.required "timestamp" Codec.string) (·.timestamp)

def SealedByBuildersAt.record : Record SealedByBuildersAt SealedByBuildersAt :=
  Record.pure SealedByBuildersAt SealedByBuildersAt.mk
    |>.field (.required "pubkey" Codec.string) (·.pubkey)
    |>.field (.required "timestamp" Codec.string) (·.timestamp)

def StatsSeen.record : Record StatsSeen StatsSeen :=
  Record.pure StatsSeen StatsSeen.mk
    |>.field (.required "isHighPriority" Codec.bool) (·.isHighPriority)
    |>.field (.required "isSimulated" Codec.bool) (·.isSimulated)
    |>.field (.required "receivedAt" Codec.string) (·.receivedAt)

def StatsSimulated.record : Record StatsSimulated StatsSimulated :=
  Record.pure StatsSimulated StatsSimulated.mk
    |>.field (.required "isHighPriority" Codec.bool) (·.isHighPriority)
    |>.field (.required "isSimulated" Codec.bool) (·.isSimulated)
    |>.field (.required "simulatedAt" Codec.string) (·.simulatedAt)
    |>.field (.required "receivedAt" Codec.string) (·.receivedAt)
    |>.field ((Field.required "consideredByBuildersAt"
      ConsideredByBuildersAt.record.codec.vec).default []) (·.consideredByBuildersAt)
    |>.field ((Field.required "sealedByBuildersAt"
      SealedByBuildersAt.record.codec.vec).default []) (·.sealedByBuildersAt)

theorem ConsideredByBuildersAt.roundTrips : ConsideredByBuildersAt.record.codec.RoundTrips := by
  intro c
  have hnames : ["pubkey", "timestamp"].Nodup := by decide
  refine Record.codec_roundTripsAt rfl hnames ?_
  simp only [record, Record.field_roundTripsAt]
  exact ⟨⟨Record.pure_roundTripsAt, Field.required_roundTrips Codec.string_roundTrips _⟩,
    Field.required_roundTrips Codec.string_roundTrips _⟩

theorem SealedByBuildersAt.roundTrips : SealedByBuildersAt.record.codec.RoundTrips := by
  intro s
  have hnames : ["pubkey", "timestamp"].Nodup := by decide
  refine Record.codec_roundTripsAt rfl hnames ?_
  simp only [record, Record.field_roundTripsAt]
  exact ⟨⟨Record.pure_roundTripsAt, Field.required_roundTrips Codec.string_roundTrips _⟩,
    Field.required_roundTrips Codec.string_roundTrips _⟩

theorem StatsSeen.names_nodup (s : StatsSeen) : (StatsSeen.record.names s).Nodup := by
  have hnames : ["isHighPriority", "isSimulated", "receivedAt"].Nodup := by decide
  exact hnames

theorem StatsSeen.roundTrips : StatsSeen.record.codec.RoundTrips := by
  intro s
  refine Record.codec_roundTripsAt rfl s.names_nodup ?_
  simp only [record, Record.field_roundTripsAt]
  exact ⟨⟨⟨Record.pure_roundTripsAt, Field.required_roundTrips Codec.bool_roundTrips _⟩,
      Field.required_roundTrips Codec.bool_roundTrips _⟩,
    Field.required_roundTrips Codec.string_roundTrips _⟩

theorem StatsSimulated.names_nodup (s : StatsSimulated) :
    (StatsSimulated.record.names s).Nodup := by
  have hnames : ["isHighPriority", "isSimulated", "simulatedAt", "receivedAt",
      "consideredByBuildersAt", "sealedByBuildersAt"].Nodup := by decide
  exact hnames

theorem StatsSimulated.roundTrips : StatsSimulated.record.codec.RoundTrips := by
  intro s
  refine Record.codec_roundTripsAt rfl s.names_nodup ?_
  simp only [record, Record.field_roundTripsAt]
  exact ⟨⟨⟨⟨⟨⟨Record.pure_roundTripsAt, Field.required_roundTrips Codec.bool_roundTrips _⟩,
      Field.required_roundTrips Codec.bool_roundTrips _⟩,
      Field.required_roundTrips Codec.string_roundTrips _⟩,
      Field.required_roundTrips Codec.string_roundTrips _⟩,
      Field.default_roundTripsAt.mpr (Codec.vec_roundTrips ConsideredByBuildersAt.roundTrips _)⟩,
    Field.default_roundTripsAt.mpr (Codec.vec_roundTrips SealedByBuildersAt.roundTrips _)⟩

/-! ## The codec of `BundleStats` -/

namespace BundleStats

def serialize : BundleStats → Except SerError Json
  | .unknown => .ok (.object [("isSimulated", .bool false)])
  | .seen stats => StatsSeen.record.codec.serialize stats
  | .simulated stats => StatsSimulated.record.codec.serialize stats

/-- `serde_json::Map::deserialize`. -/
def deserializeMap : Json → Except DeError (List (String × Json))
  | .object map => .ok map
  | _ => .error .invalidType

/-- `map[key]`. -/
def index (map : List (String × Json)) (key : String) : Except Halt Json :=
  match map.lookup key with
  | some j => .ok j
  | none => .error (.panicked "no entry found for key")

/-- An error is passed on with its text. -/
def deserializeSeen (map : List (String × Json)) : Except DeError BundleStats :=
  match StatsSeen.record.codec.deserialize (.object map) with
  | .ok stats => .ok (.seen stats)
  | .error err => .error err

def deserializeSimulated (map : List (String × Json)) : Except DeError BundleStats :=
  match StatsSimulated.record.codec.deserialize (.object map) with
  | .ok stats => .ok (.simulated stats)
  | .error err => .error err

/-- The outer result is that of the call, which may panic; the inner one is its value.
The kinds of errors are not compared: an object with several faults is refused here and
there, with an error that need not be the same. -/
def deserialize (j : Json) : Except Halt (Except DeError BundleStats) :=
  match deserializeMap j with
  | .error err => .ok (.error err)
  | .ok map =>
      match map.lookup "receivedAt" with
      | none => .ok (.ok .unknown)
      | some _ =>
          match index map "isSimulated" with
          | .error halt => .error halt
          -- no other value is equal to `false`
          | .ok (.bool false) => .ok (deserializeSeen map)
          | .ok _ => .ok (deserializeSimulated map)

/-! ## Round trips -/

/-- The value is serialized, and deserialized to itself. -/
def RoundTripsAt (stats : BundleStats) : Prop :=
  ∃ j, stats.serialize = .ok j ∧ deserialize j = .ok (.ok stats)

/-- The flag says what the variant does. -/
def FlagAgrees : BundleStats → Prop
  | .unknown => True
  | .seen stats => stats.isSimulated = false
  | .simulated stats => stats.isSimulated = true

/-- **The flag decides** where something was received. -/
theorem deserialize_of_flag {map : List (String × Json)} {received : Json} {flag : Bool}
    (hreceived : map.lookup "receivedAt" = some received)
    (hflag : map.lookup "isSimulated" = some (.bool flag)) :
    deserialize (.object map) =
      .ok (if flag then deserializeSimulated map else deserializeSeen map) := by
  have hindex : index map "isSimulated" = .ok (.bool flag) := by
    simp only [index, hflag]
  simp only [deserialize, deserializeMap, hreceived, hindex]
  cases flag with
  | false => rfl
  | true => rfl

/-- One decoder gives one variant. -/
theorem deserializeSeen_ne_simulated (map : List (String × Json)) (stats : StatsSimulated) :
    deserializeSeen map ≠ .ok (.simulated stats) := by
  intro h
  unfold deserializeSeen at h
  cases hde : StatsSeen.record.codec.deserialize (.object map) with
  | ok seen =>
    rw [hde] at h
    cases h
  | error err =>
    rw [hde] at h
    cases h

theorem deserializeSimulated_ne_seen (map : List (String × Json)) (stats : StatsSeen) :
    deserializeSimulated map ≠ .ok (.seen stats) := by
  intro h
  unfold deserializeSimulated at h
  cases hde : StatsSimulated.record.codec.deserialize (.object map) with
  | ok simulated =>
    rw [hde] at h
    cases h
  | error err =>
    rw [hde] at h
    cases h

/-- **What is written for a bundle that was seen** has the flag of its statistics. -/
theorem seen_serialized (stats : StatsSeen) :
    ∃ map, (seen stats).serialize = .ok (.object map) ∧
      StatsSeen.record.codec.deserialize (.object map) = .ok stats ∧
      map.lookup "receivedAt" = some (.string stats.receivedAt) ∧
      map.lookup "isSimulated" = some (.bool stats.isSimulated) := by
  obtain ⟨j, hser, hde⟩ := StatsSeen.roundTrips stats
  obtain ⟨map, rfl, hmap⟩ := Record.serialize_ok stats.names_nodup hser
  have hreceived := hmap ⟨.required "receivedAt" Codec.string, stats.receivedAt⟩
    (List.mem_append_right _ List.mem_cons_self)
  have hflag := hmap ⟨.required "isSimulated" Codec.bool, stats.isSimulated⟩
    (List.mem_append_left _ (List.mem_append_right _ List.mem_cons_self))
  exact ⟨map, hser, hde, (Except.ok.inj hreceived).symm, (Except.ok.inj hflag).symm⟩

theorem simulated_serialized (stats : StatsSimulated) :
    ∃ map, (simulated stats).serialize = .ok (.object map) ∧
      StatsSimulated.record.codec.deserialize (.object map) = .ok stats ∧
      map.lookup "receivedAt" = some (.string stats.receivedAt) ∧
      map.lookup "isSimulated" = some (.bool stats.isSimulated) := by
  obtain ⟨j, hser, hde⟩ := StatsSimulated.roundTrips stats
  obtain ⟨map, rfl, hmap⟩ := Record.serialize_ok stats.names_nodup hser
  have hreceived := hmap ⟨.required "receivedAt" Codec.string, stats.receivedAt⟩
    (List.mem_append_left _ (List.mem_append_left _
      (List.mem_append_right _ List.mem_cons_self)))
  have hflag := hmap ⟨.required "isSimulated" Codec.bool, stats.isSimulated⟩
    (List.mem_append_left _ (List.mem_append_left _ (List.mem_append_left _
      (List.mem_append_left _ (List.mem_append_right _ List.mem_cons_self)))))
  exact ⟨map, hser, hde, (Except.ok.inj hreceived).symm, (Except.ok.inj hflag).symm⟩

/-- **Bundle statistics** are serialized, and what is written is deserialized without a
panic: to the same value if its flag says what its variant does, and to another one, or to
an error, if not. -/
theorem deserialize_serialize (stats : BundleStats) :
    ∃ j result, stats.serialize = .ok j ∧ deserialize j = .ok result ∧
      (result = .ok stats ↔ stats.FlagAgrees) := by
  cases stats with
  | unknown => exact ⟨_, .ok .unknown, rfl, rfl, iff_of_true rfl trivial⟩
  | seen stats =>
    obtain ⟨map, hser, hde, hreceived, hflag⟩ := seen_serialized stats
    refine ⟨.object map, _, hser, deserialize_of_flag hreceived hflag, ?_⟩
    cases hsimulated : stats.isSimulated with
    | false =>
      have hseen : deserializeSeen map = .ok (.seen stats) := by
        simp only [deserializeSeen, hde]
      exact iff_of_true hseen hsimulated
    | true =>
      refine iff_of_false (deserializeSimulated_ne_seen map stats) fun hagrees => ?_
      cases hsimulated.symm.trans hagrees
  | simulated stats =>
    obtain ⟨map, hser, hde, hreceived, hflag⟩ := simulated_serialized stats
    refine ⟨.object map, _, hser, deserialize_of_flag hreceived hflag, ?_⟩
    cases hsimulated : stats.isSimulated with
    | true =>
      have hvalue : deserializeSimulated map = .ok (.simulated stats) := by
        simp only [deserializeSimulated, hde]
      exact iff_of_true hvalue hsimulated
    | false =>
      refine iff_of_false (deserializeSeen_ne_simulated map stats) fun hagrees => ?_
      cases hsimulated.symm.trans hagrees

/-- Seen, with the flag of a bundle that was simulated: the time of the simulation is
missed. -/
theorem flaggedSeen_not_roundTripsAt :
    (∃ j, (seen ⟨true, true, "476190476193"⟩).serialize = .ok j ∧
        deserialize j = .ok (.error (.missingField "simulatedAt"))) ∧
      ¬ ∀ stats : BundleStats, stats.RoundTripsAt := by
  have hser : (seen ⟨true, true, "476190476193"⟩).serialize = .ok (.object
      [("isHighPriority", .bool true), ("isSimulated", .bool true),
        ("receivedAt", .string "476190476193")]) := rfl
  have hde : deserialize (.object [("isHighPriority", .bool true), ("isSimulated", .bool true),
      ("receivedAt", .string "476190476193")]) =
      .ok (.error (.missingField "simulatedAt")) := rfl
  refine ⟨⟨_, hser, hde⟩, fun h => ?_⟩
  obtain ⟨j, hj, hvalue⟩ := h (seen ⟨true, true, "476190476193"⟩)
  rw [hser] at hj
  cases hj
  rw [hde] at hvalue
  cases hvalue

/-! ## Objects that others have sent

A relay may answer with any object.  Without `receivedAt` no other field is looked at.  With
it the flag is, and it is taken for granted: where it is missing the program stops.
`safeAt_iff` says that this is all that can go wrong. -/

/-- What a required field may hold. -/
inductive FieldType where
  | bool
  | string
  deriving DecidableEq, Repr

def FieldType.admits : FieldType → Json → Bool
  | .bool, .bool _ => true
  | .string, .string _ => true
  | _, _ => false

inductive Variant where
  | unknown
  | seen
  | simulated
  deriving DecidableEq, Repr

/-- The fields of a variant that have no default. -/
def Variant.required : Variant → List (String × FieldType)
  | .unknown => []
  | .seen => [("isHighPriority", .bool), ("isSimulated", .bool), ("receivedAt", .string)]
  | .simulated => [("isHighPriority", .bool), ("isSimulated", .bool), ("simulatedAt", .string),
      ("receivedAt", .string)]

/-- The variant that an object selects. -/
def selected (map : List (String × Json)) : Variant :=
  match map.lookup "receivedAt" with
  | none => .unknown
  | some _ =>
      match map.lookup "isSimulated" with
      | some (.bool false) => .seen
      | _ => .simulated

/-- The object has a value of this type under this name. -/
def HasField (map : List (String × Json)) (f : String × FieldType) : Prop :=
  ∃ j, map.lookup f.1 = some j ∧ f.2.admits j = true

/-- Deserializing the object returns, and it returns an error if a field is missing that the
selected variant requires, or has the wrong type. -/
def SafeAt (map : List (String × Json)) : Prop :=
  (∃ result, deserialize (.object map) = .ok result) ∧
    ∀ f ∈ (selected map).required, ¬ HasField map f →
      ∃ err, deserialize (.object map) = .ok (.error err)

theorem hasField_bool {map : List (String × Json)} {i : ℕ} {name : String} {b : Bool}
    (h : (Fields.map map).get i (.required name Codec.bool) = .ok b) :
    HasField map (name, .bool) := by
  obtain ⟨j, hj, hde⟩ := Fields.get_required_ok.mp h
  cases j with
  | bool b' => exact ⟨_, hj, rfl⟩
  | _ => cases hde

theorem hasField_string {map : List (String × Json)} {i : ℕ} {name : String} {s : String}
    (h : (Fields.map map).get i (.required name Codec.string) = .ok s) :
    HasField map (name, .string) := by
  obtain ⟨j, hj, hde⟩ := Fields.get_required_ok.mp h
  cases j with
  | string s' => exact ⟨_, hj, rfl⟩
  | _ => cases hde

/-- What was read as statistics has the fields that they require. -/
theorem hasField_of_seen {map : List (String × Json)} {stats : StatsSeen}
    (h : StatsSeen.record.codec.deserialize (.object map) = .ok stats) :
    ∀ f ∈ Variant.seen.required, HasField map f := by
  replace h : StatsSeen.record.read (.map map) = .ok stats := h
  simp only [StatsSeen.record, Record.field_read_ok] at h
  obtain ⟨_, _, ⟨_, _, ⟨_, _, -, hpriority, -⟩, hsimulated, -⟩, hreceived, -⟩ := h
  simp only [Variant.required, List.forall_mem_cons]
  exact ⟨hasField_bool hpriority, hasField_bool hsimulated, hasField_string hreceived,
    fun _ hmem => absurd hmem List.not_mem_nil⟩

theorem hasField_of_simulated {map : List (String × Json)} {stats : StatsSimulated}
    (h : StatsSimulated.record.codec.deserialize (.object map) = .ok stats) :
    ∀ f ∈ Variant.simulated.required, HasField map f := by
  replace h : StatsSimulated.record.read (.map map) = .ok stats := h
  simp only [StatsSimulated.record, Record.field_read_ok] at h
  obtain ⟨_, _, ⟨_, _, ⟨_, _, ⟨_, _, ⟨_, _, ⟨_, _, -, hpriority, -⟩, hflag, -⟩, hsimulated, -⟩,
    hreceived, -⟩, -, -⟩, -, -⟩ := h
  simp only [Variant.required, List.forall_mem_cons]
  exact ⟨hasField_bool hpriority, hasField_bool hflag, hasField_string hsimulated,
    hasField_string hreceived, fun _ hmem => absurd hmem List.not_mem_nil⟩

/-- The decoders of the statistics fail on an object that lacks a field. -/
theorem deserializeSeen_error {map : List (String × Json)} {f : String × FieldType}
    (hf : f ∈ Variant.seen.required) (hnot : ¬ HasField map f) :
    ∃ err, deserializeSeen map = .error err := by
  unfold deserializeSeen
  cases hde : StatsSeen.record.codec.deserialize (.object map) with
  | error err => exact ⟨err, rfl⟩
  | ok stats => exact absurd (hasField_of_seen hde f hf) hnot

theorem deserializeSimulated_error {map : List (String × Json)} {f : String × FieldType}
    (hf : f ∈ Variant.simulated.required) (hnot : ¬ HasField map f) :
    ∃ err, deserializeSimulated map = .error err := by
  unfold deserializeSimulated
  cases hde : StatsSimulated.record.codec.deserialize (.object map) with
  | error err => exact ⟨err, rfl⟩
  | ok stats => exact absurd (hasField_of_simulated hde f hf) hnot

/-- Any flag but `false` stands for a simulation. -/
theorem deserialize_of_notFalse {map : List (String × Json)} {received flag : Json}
    (hreceived : map.lookup "receivedAt" = some received)
    (hflag : map.lookup "isSimulated" = some flag) (hfalse : flag ≠ .bool false) :
    deserialize (.object map) = .ok (deserializeSimulated map) ∧ selected map = .simulated := by
  constructor
  · simp only [deserialize, deserializeMap, hreceived, index, hflag]
  · simp only [selected, hreceived, hflag]
    split
    · rename_i heq
      exact absurd (Option.some.inj heq) hfalse
    · rfl

/-- Something was received, and nothing says whether it was simulated. -/
theorem deserialize_of_noFlag {map : List (String × Json)} {received : Json}
    (hreceived : map.lookup "receivedAt" = some received)
    (hflag : map.lookup "isSimulated" = none) :
    deserialize (.object map) = .error (.panicked "no entry found for key") := by
  simp only [deserialize, deserializeMap, hreceived, index, hflag]

/-- **An object is deserialized safely** exactly if it has the flag, or nothing that says
that the bundle was received. -/
theorem safeAt_iff (map : List (String × Json)) :
    SafeAt map ↔ map.lookup "receivedAt" = none ∨ map.lookup "isSimulated" ≠ none := by
  constructor
  · rintro ⟨⟨result, hresult⟩, -⟩
    by_cases hflag : map.lookup "isSimulated" = none
    · left
      cases hreceived : map.lookup "receivedAt" with
      | none => rfl
      | some received =>
        rw [deserialize_of_noFlag hreceived hflag] at hresult
        cases hresult
    · exact Or.inr hflag
  · intro h
    cases hreceived : map.lookup "receivedAt" with
    | none =>
      have hde : deserialize (.object map) = .ok (.ok .unknown) := by
        simp only [deserialize, deserializeMap, hreceived]
      have hselected : selected map = .unknown := by
        simp only [selected, hreceived]
      refine ⟨⟨_, hde⟩, ?_⟩
      rw [hselected]
      exact fun f hf => absurd hf List.not_mem_nil
    | some received =>
      have hsome : map.lookup "isSimulated" ≠ none := by
        rcases h with h | h
        · rw [hreceived] at h
          cases h
        · exact h
      obtain ⟨flag, hflag⟩ := Option.ne_none_iff_exists'.mp hsome
      by_cases hfalse : flag = .bool false
      · subst hfalse
        have hde : deserialize (.object map) = .ok (deserializeSeen map) :=
          deserialize_of_flag hreceived hflag
        have hselected : selected map = .seen := by
          simp only [selected, hreceived, hflag]
        refine ⟨⟨_, hde⟩, ?_⟩
        rw [hselected, hde]
        intro f hf hnot
        obtain ⟨err, herr⟩ := deserializeSeen_error hf hnot
        exact ⟨err, congrArg Except.ok herr⟩
      · obtain ⟨hde, hselected⟩ := deserialize_of_notFalse hreceived hflag hfalse
        refine ⟨⟨_, hde⟩, ?_⟩
        rw [hselected, hde]
        intro f hf hnot
        obtain ⟨err, herr⟩ := deserializeSimulated_error hf hnot
        exact ⟨err, congrArg Except.ok herr⟩

/-- Received, and nothing else. -/
theorem receivedOnly_not_safeAt :
    deserialize (.object [("receivedAt", .string "476190476193")]) =
        .error (.panicked "no entry found for key") ∧
      ¬ ∀ map : List (String × Json), SafeAt map := by
  have hreceived : List.lookup "receivedAt" [("receivedAt", Json.string "476190476193")] =
      some (.string "476190476193") := rfl
  have hflag : List.lookup "isSimulated" [("receivedAt", Json.string "476190476193")] = none := rfl
  have hde := deserialize_of_noFlag hreceived hflag
  refine ⟨hde, fun h => ?_⟩
  obtain ⟨⟨result, hresult⟩, -⟩ := h [("receivedAt", .string "476190476193")]
  rw [hde] at hresult
  cases hresult

end BundleStats

end Rpc
end MevShare
