import Mathlib.Data.List.Basic
import Mathlib.Data.Nat.Notation

/-!
# JSON values and derived codecs

A value is serialized to a JSON value and deserialized from one.  A `Codec` is such a
pair of functions, both of which may fail, and `RoundTripsAt` says that the one succeeds
at a value and the other gives the value back.

## Structures

A structure is serialized to an object, field by field.  What is written for a field and
what is made of its absence is up to the field: a `Field` has a name, what it writes,
possibly nothing, and what it reads from a value or from no value.  The constructors of
fields are the attributes of a derived codec, and they combine as the attributes do:

* `Field.required`: the value is always written, and has to be there;
* `Field.optional`: `none` is written as `null`, and read from `null` or from no value;
* `Field.default`: no value is read as the default;
* `Field.skipIf`: a value is not written if it passes a test.

A structure is deserialized from an object by name, or from an array by position; unknown
names are ignored.  `Record` describes a structure once, field after field, and
`Record.codec` is the codec that is derived from it.

A record is read in the order of its fields, and a derived visitor goes through the members
of the object in theirs.  The two refuse the same values.  When several fields fail they
need not give the same error, so the kinds of errors are not compared.

## Recursive types

`Codec.fix` is the codec of a type that occurs in its own fields.  Under the recursion
stand the parts of a value, which are smaller than it, and `fix_eq` gives the equation that
the derived codec has.

## Round trips

`Record.codec_roundTripsAt` reduces the round trip of a structure to those of its fields.
Its only condition on the names is that they differ.  Every other lemma here is about one
constructor, and says when the round trip of the whole is that of its parts.

A codec need not serialize every value.  `ReadsBackAt` asks for the round trip of a value
that is serialized; where it holds of the fields, a structure makes the round trip exactly
if they do.
-/

namespace MevShare
namespace Serde

/-- A JSON number: `0` and above, below, and with a fraction or an exponent, by its bits. -/
inductive Number where
  | posInt (n : UInt64)
  | negInt (n : Int64)
  | float (bits : UInt64)
  deriving DecidableEq

inductive Json where
  | null
  | bool (b : Bool)
  | number (n : Number)
  | string (s : String)
  | array (l : List Json)
  | object (o : List (String × Json))

mutual

/-- How many values there are in a value. -/
def Json.size : Json → ℕ
  | .array l => Json.sizeList l + 1
  | .object o => Json.sizeFields o + 1
  | _ => 1

def Json.sizeList : List Json → ℕ
  | [] => 0
  | j :: l => j.size + Json.sizeList l

def Json.sizeFields : List (String × Json) → ℕ
  | [] => 0
  | (_, j) :: o => j.size + Json.sizeFields o

end

inductive SerError where
  | custom (message : String)
  deriving DecidableEq, Repr

inductive DeError where
  | invalidType
  | invalidValue
  | invalidLength
  | missingField (name : String)
  | unknownVariant (variant : String)
  /-- No variant of an untagged enumeration has matched. -/
  | noVariant
  | custom (message : String)
  deriving DecidableEq, Repr

variable {α β : Type}

/-! ## Codecs -/

structure Codec (α : Type) where
  serialize : α → Except SerError Json
  deserialize : Json → Except DeError α

namespace Codec

/-- The value is serialized, and deserialized to itself. -/
def RoundTripsAt (c : Codec α) (a : α) : Prop :=
  ∃ j, c.serialize a = .ok j ∧ c.deserialize j = .ok a

def RoundTrips (c : Codec α) : Prop := ∀ a, c.RoundTripsAt a

/-- If the value is serialized at all, it makes the round trip. -/
def ReadsBackAt (c : Codec α) (a : α) : Prop := ∀ j, c.serialize a = .ok j → c.RoundTripsAt a

/-- No value is serialized to `null`, which stands for the absence of one. -/
def NotNull (c : Codec α) : Prop := ∀ a, c.serialize a ≠ .ok .null

end Codec

def Codec.unit : Codec Unit where
  serialize _ := .ok .null
  deserialize
    | .null => .ok ()
    | _ => .error .invalidType

def Codec.bool : Codec Bool where
  serialize b := .ok (.bool b)
  deserialize
    | .bool b => .ok b
    | _ => .error .invalidType

def Codec.u64 : Codec UInt64 where
  serialize n := .ok (.number (.posInt n))
  deserialize
    | .number (.posInt n) => .ok n
    | .number (.negInt _) => .error .invalidValue
    | _ => .error .invalidType

def Codec.string : Codec String where
  serialize s := .ok (.string s)
  deserialize
    | .string s => .ok s
    | _ => .error .invalidType

theorem Codec.RoundTripsAt.readsBackAt {c : Codec α} {a : α} (h : c.RoundTripsAt a) :
    c.ReadsBackAt a := fun _ _ => h

theorem Codec.unit_roundTrips : Codec.unit.RoundTrips := fun _ => ⟨_, rfl, rfl⟩

theorem Codec.bool_roundTrips : Codec.bool.RoundTrips := fun _ => ⟨_, rfl, rfl⟩

theorem Codec.u64_roundTrips : Codec.u64.RoundTrips := fun _ => ⟨_, rfl, rfl⟩

theorem Codec.string_roundTrips : Codec.string.RoundTrips := fun _ => ⟨_, rfl, rfl⟩

theorem Codec.bool_notNull : Codec.bool.NotNull := fun _ h => by cases h

theorem Codec.u64_notNull : Codec.u64.NotNull := fun _ h => by cases h

theorem Codec.string_notNull : Codec.string.NotNull := fun _ h => by cases h

/-! ## Lists -/

/-- A function that may fail, on every element, in order; the first failure is the
result. -/
def traverse {ε : Type} (f : α → Except ε β) : List α → Except ε (List β)
  | [] => .ok []
  | a :: l =>
      match f a with
      | .error e => .error e
      | .ok b =>
          match traverse f l with
          | .error e => .error e
          | .ok l => .ok (b :: l)

theorem traverse_cons_ok {ε : Type} {f : α → Except ε β} {a : α} {l : List α} {bs : List β} :
    traverse f (a :: l) = .ok bs ↔ ∃ b l', f a = .ok b ∧ traverse f l = .ok l' ∧ bs = b :: l' := by
  rw [traverse]
  cases hb : f a with
  | error e => simp
  | ok b =>
    cases hl : traverse f l with
    | error e => simp
    | ok l' =>
      constructor
      · intro h
        cases h
        exact ⟨b, l', rfl, rfl, rfl⟩
      · rintro ⟨b', l'', hb', hl', rfl⟩
        cases hb'
        cases hl'
        rfl

/-- The codec of a sequence. -/
def Codec.vec (c : Codec α) : Codec (List α) where
  serialize l :=
    match traverse c.serialize l with
    | .error e => .error e
    | .ok l => .ok (.array l)
  deserialize
    | .array l => traverse c.deserialize l
    | _ => .error .invalidType

theorem Codec.vec_serialize_ok {c : Codec α} {l : List α} {j : Json} :
    c.vec.serialize l = .ok j ↔ ∃ js, traverse c.serialize l = .ok js ∧ j = .array js := by
  simp only [vec]
  cases traverse c.serialize l with
  | error e => simp
  | ok js =>
    constructor
    · intro h
      cases h
      exact ⟨js, rfl, rfl⟩
    · rintro ⟨js', hjs', rfl⟩
      cases hjs'
      rfl

theorem Codec.vec_notNull (c : Codec α) : c.vec.NotNull := by
  intro l h
  obtain ⟨js, -, hjs⟩ := vec_serialize_ok.mp h
  cases hjs

/-- **A sequence** makes the round trip exactly if its elements do. -/
theorem Codec.vec_roundTripsAt {c : Codec α} {l : List α} :
    c.vec.RoundTripsAt l ↔ ∀ a ∈ l, c.RoundTripsAt a := by
  have htraverse : (∃ js, traverse c.serialize l = .ok js ∧ traverse c.deserialize js = .ok l) ↔
      ∀ a ∈ l, c.RoundTripsAt a := by
    induction l with
    | nil =>
      constructor
      · intro _ a ha
        exact absurd ha List.not_mem_nil
      · intro _
        exact ⟨[], rfl, rfl⟩
    | cons a l ih =>
      rw [List.forall_mem_cons, ← ih]
      constructor
      · rintro ⟨js, hser, hde⟩
        obtain ⟨j, js', ha, hl, rfl⟩ := traverse_cons_ok.mp hser
        obtain ⟨a', l', ha', hl', heq⟩ := traverse_cons_ok.mp hde
        cases heq
        exact ⟨⟨j, ha, ha'⟩, js', hl, hl'⟩
      · rintro ⟨⟨j, ha, ha'⟩, js, hl, hl'⟩
        exact ⟨j :: js, traverse_cons_ok.mpr ⟨j, js, ha, hl, rfl⟩,
          traverse_cons_ok.mpr ⟨a, l, ha', hl', rfl⟩⟩
  rw [← htraverse]
  unfold RoundTripsAt
  constructor
  · rintro ⟨j, hser, hde⟩
    obtain ⟨js, hjs, rfl⟩ := vec_serialize_ok.mp hser
    exact ⟨js, hjs, hde⟩
  · rintro ⟨js, hser, hde⟩
    exact ⟨.array js, vec_serialize_ok.mpr ⟨js, hser, rfl⟩, hde⟩

theorem Codec.vec_roundTrips {c : Codec α} (h : c.RoundTrips) : c.vec.RoundTrips :=
  fun _ => vec_roundTripsAt.mpr fun a _ => h a

/-- **A sequence** is read back if its elements are. -/
theorem Codec.vec_readsBackAt {c : Codec α} {l : List α} (h : ∀ a ∈ l, c.ReadsBackAt a) :
    c.vec.ReadsBackAt l := by
  intro j hser
  obtain ⟨js, hjs, -⟩ := vec_serialize_ok.mp hser
  refine vec_roundTripsAt.mpr ?_
  clear hser
  induction l generalizing js with
  | nil => exact fun _ ha => absurd ha List.not_mem_nil
  | cons a l ih =>
    rw [List.forall_mem_cons] at h ⊢
    obtain ⟨j, js', hj, hjs', rfl⟩ := traverse_cons_ok.mp hjs
    exact ⟨h.1 j hj, ih h.2 js' hjs'⟩

/-! ## Fields -/

structure Field (α : Type) where
  name : String
  /-- What is written, if anything. -/
  serialize : α → Except SerError (Option Json)
  /-- What is read from a value, or from none. -/
  deserialize : Option Json → Except DeError α
  /-- What is read where the structure comes as an array that is too short. -/
  short : Except DeError α

namespace Field

def RoundTripsAt (f : Field α) (a : α) : Prop :=
  ∃ j, f.serialize a = .ok j ∧ f.deserialize j = .ok a

def ReadsBackAt (f : Field α) (a : α) : Prop := ∀ j, f.serialize a = .ok j → f.RoundTripsAt a

/-- A field without attributes. -/
def required (name : String) (c : Codec α) : Field α where
  name := name
  serialize a :=
    match c.serialize a with
    | .error e => .error e
    | .ok j => .ok (some j)
  deserialize
    | none => .error (.missingField name)
    | some j => c.deserialize j
  short := .error .invalidLength

/-- A field of type `Option`. -/
def optional (name : String) (c : Codec α) : Field (Option α) where
  name := name
  serialize
    | none => .ok (some .null)
    | some a =>
        match c.serialize a with
        | .error e => .error e
        | .ok j => .ok (some j)
  deserialize
    | none => .ok none
    | some .null => .ok none
    | some j =>
        match c.deserialize j with
        | .error e => .error e
        | .ok a => .ok (some a)
  short := .error .invalidLength

/-- `#[serde(default)]`, and `#[serde(default = "..")]`. -/
def default (f : Field α) (a : α) : Field α where
  name := f.name
  serialize := f.serialize
  deserialize
    | none => .ok a
    | some j => f.deserialize (some j)
  short := .ok a

/-- `#[serde(skip_serializing_if = "..")]`. -/
def skipIf (f : Field α) (p : α → Bool) : Field α :=
  { f with serialize := fun a => if p a then .ok none else f.serialize a }

theorem required_serialize_ok {name : String} {c : Codec α} {a : α} {j : Option Json} :
    (required name c).serialize a = .ok j ↔ ∃ j', c.serialize a = .ok j' ∧ j = some j' := by
  simp only [required]
  cases c.serialize a with
  | error e => simp
  | ok j' =>
    constructor
    · intro h
      cases h
      exact ⟨j', rfl, rfl⟩
    · rintro ⟨j'', hj'', rfl⟩
      cases hj''
      rfl

theorem required_roundTripsAt {name : String} {c : Codec α} {a : α} :
    (required name c).RoundTripsAt a ↔ c.RoundTripsAt a := by
  constructor
  · rintro ⟨j, hser, hde⟩
    obtain ⟨j', hj', rfl⟩ := required_serialize_ok.mp hser
    exact ⟨j', hj', hde⟩
  · rintro ⟨j, hser, hde⟩
    exact ⟨some j, required_serialize_ok.mpr ⟨j, hser, rfl⟩, hde⟩

/-- A value that is not `null` is not taken for its absence. -/
theorem optional_roundTripsAt {name : String} {c : Codec α} (hnull : c.NotNull) {a : Option α}
    (h : ∀ v, a = some v → c.RoundTripsAt v) : (optional name c).RoundTripsAt a := by
  cases a with
  | none => exact ⟨some .null, rfl, rfl⟩
  | some v =>
    obtain ⟨j, hser, hde⟩ := h v rfl
    refine ⟨some j, ?_, ?_⟩
    · simp only [optional, hser]
    · have hj : j ≠ .null := by
        rintro rfl
        exact hnull v hser
      simp only [optional, hde]

/-- A value that is always written is never replaced by the default. -/
theorem default_roundTripsAt {name : String} {c : Codec α} {a d : α} :
    ((required name c).default d).RoundTripsAt a ↔ c.RoundTripsAt a := by
  have hrequired : (required name c).RoundTripsAt a ↔ c.RoundTripsAt a := required_roundTripsAt
  rw [← hrequired]
  constructor
  · rintro ⟨j, hser, hde⟩
    replace hser : (required name c).serialize a = .ok j := hser
    obtain ⟨j', -, rfl⟩ := required_serialize_ok.mp hser
    exact ⟨some j', hser, hde⟩
  · rintro ⟨j, hser, hde⟩
    cases j with
    | none => cases hde
    | some j => exact ⟨some j, hser, hde⟩

/-- A value that is not written has to be what is read from no value. -/
theorem skipIf_roundTripsAt {f : Field α} {p : α → Bool} {a : α}
    (hskip : p a = true → f.deserialize none = .ok a) (h : f.RoundTripsAt a) :
    (f.skipIf p).RoundTripsAt a := by
  by_cases hp : p a = true
  · exact ⟨none, if_pos hp, hskip hp⟩
  · obtain ⟨j, hser, hde⟩ := h
    exact ⟨j, (if_neg hp).trans hser, hde⟩

/-- `#[serde(skip_serializing_if = "Option::is_none")]`. -/
def skipNone (name : String) (c : Codec α) : Field (Option α) :=
  (optional name c).skipIf Option.isNone

theorem skipNone_roundTripsAt {name : String} {c : Codec α} (hnull : c.NotNull) {a : Option α}
    (h : ∀ v, a = some v → c.RoundTripsAt v) : (skipNone name c).RoundTripsAt a := by
  refine skipIf_roundTripsAt (fun ha => ?_) (optional_roundTripsAt hnull h)
  rw [Option.isNone_iff_eq_none.mp ha]
  rfl

theorem required_readsBackAt {name : String} {c : Codec α} {a : α} (h : c.ReadsBackAt a) :
    (required name c).ReadsBackAt a := by
  intro j hser
  obtain ⟨j', hj', -⟩ := required_serialize_ok.mp hser
  exact required_roundTripsAt.mpr (h j' hj')

theorem required_roundTrips {name : String} {c : Codec α} (h : c.RoundTrips) (a : α) :
    (required name c).RoundTripsAt a :=
  required_roundTripsAt.mpr (h a)

theorem skipNone_roundTrips {name : String} {c : Codec α} (hnull : c.NotNull) (h : c.RoundTrips)
    (a : Option α) : (skipNone name c).RoundTripsAt a :=
  skipNone_roundTripsAt hnull fun v _ => h v

end Field

/-! ## Structures -/

/-- A field with its value. -/
structure Entry where
  {type : Type}
  field : Field type
  value : type

/-- The fields that are written, in order. -/
def serializeFields : List Entry → Except SerError (List (String × Json))
  | [] => .ok []
  | e :: es =>
      match e.field.serialize e.value with
      | .error err => .error err
      | .ok j =>
          match serializeFields es with
          | .error err => .error err
          | .ok o => .ok (j.toList.map (Prod.mk e.field.name) ++ o)

def serializeStruct (es : List Entry) : Except SerError Json :=
  match serializeFields es with
  | .error err => .error err
  | .ok o => .ok (.object o)

/-- What the fields of a structure are read from. -/
inductive Fields where
  | map (o : List (String × Json))
  | seq (l : List Json)

/-- A structure of `n` fields comes as an object, or as an array of no more values. -/
def Fields.of (n : ℕ) : Json → Except DeError Fields
  | .object o => .ok (.map o)
  | .array l => if l.length ≤ n then .ok (.seq l) else .error .invalidLength
  | _ => .error .invalidType

/-- The field at this position. -/
def Fields.get (i : ℕ) (f : Field α) : Fields → Except DeError α
  | .map o => f.deserialize (o.lookup f.name)
  | .seq l =>
      match l[i]? with
      | some j => f.deserialize (some j)
      | none => f.short

/-- A field without attributes has to be there. -/
theorem Fields.get_required_ok {o : List (String × Json)} {i : ℕ} {name : String} {c : Codec α}
    {a : α} :
    (Fields.map o).get i (.required name c) = .ok a ↔
      ∃ j, o.lookup name = some j ∧ c.deserialize j = .ok a := by
  simp only [get, Field.required]
  cases o.lookup name with
  | none => simp
  | some j => simp

theorem serializeFields_cons_ok {e : Entry} {es : List Entry} {o : List (String × Json)} :
    serializeFields (e :: es) = .ok o ↔ ∃ j o', e.field.serialize e.value = .ok j ∧
      serializeFields es = .ok o' ∧ o = j.toList.map (Prod.mk e.field.name) ++ o' := by
  rw [serializeFields]
  cases hj : e.field.serialize e.value with
  | error err => simp
  | ok j =>
    cases ho : serializeFields es with
    | error err => simp
    | ok o' =>
      constructor
      · intro h
        cases h
        exact ⟨j, o', rfl, rfl, rfl⟩
      · rintro ⟨j', o'', hj', ho', rfl⟩
        cases hj'
        cases ho'
        rfl

theorem serializeStruct_ok {es : List Entry} {j : Json} :
    serializeStruct es = .ok j ↔ ∃ o, serializeFields es = .ok o ∧ j = .object o := by
  rw [serializeStruct]
  cases serializeFields es with
  | error err => simp
  | ok o =>
    constructor
    · intro h
      cases h
      exact ⟨o, rfl, rfl⟩
    · rintro ⟨o', ho', rfl⟩
      cases ho'
      rfl

/-- No name is written that no field has. -/
theorem lookup_eq_none {es : List Entry} {o : List (String × Json)} {name : String}
    (h : serializeFields es = .ok o) (hname : name ∉ es.map fun e => e.field.name) :
    o.lookup name = none := by
  induction es generalizing o with
  | nil =>
    cases h
    rfl
  | cons e es ih =>
    obtain ⟨j, o', -, ho', rfl⟩ := serializeFields_cons_ok.mp h
    rw [List.map_cons, List.mem_cons, not_or] at hname
    cases j with
    | none => exact ih ho' hname.2
    | some j =>
      have hne : (name == e.field.name) = false := beq_false_of_ne hname.1
      show List.lookup name ((e.field.name, j) :: o') = none
      rw [List.lookup_cons, hne]
      exact ih ho' hname.2

/-- **Names find their values**, where they differ. -/
theorem lookup_of_mem {es : List Entry} {o : List (String × Json)}
    (h : serializeFields es = .ok o) (hnodup : (es.map fun e => e.field.name).Nodup) {e : Entry}
    (he : e ∈ es) : e.field.serialize e.value = .ok (o.lookup e.field.name) := by
  induction es generalizing o with
  | nil => exact absurd he List.not_mem_nil
  | cons e' es ih =>
    obtain ⟨j, o', hj, ho', rfl⟩ := serializeFields_cons_ok.mp h
    rw [List.map_cons, List.nodup_cons] at hnodup
    rcases List.mem_cons.mp he with rfl | he
    · cases j with
      | none =>
        show _ = Except.ok (o'.lookup e.field.name)
        rw [hj, lookup_eq_none ho' hnodup.1]
      | some j =>
        show _ = Except.ok (List.lookup e.field.name ((e.field.name, j) :: o'))
        rw [hj, List.lookup_cons, beq_self_eq_true]
    · have hne : e.field.name ≠ e'.field.name := by
        intro heq
        exact hnodup.1 (heq ▸ List.mem_map_of_mem he)
      rw [ih ho' hnodup.2 he]
      cases j with
      | none => rfl
      | some j =>
        show _ = Except.ok (List.lookup e.field.name ((e'.field.name, j) :: o'))
        rw [List.lookup_cons, beq_false_of_ne hne]

/-- **A structure** whose fields all make the round trip, under names that differ, is
serialized, and every field is read back. -/
theorem struct_roundTrips {es : List Entry} (hnodup : (es.map fun e => e.field.name).Nodup)
    (hes : ∀ e ∈ es, e.field.RoundTripsAt e.value) :
    ∃ o, serializeStruct es = .ok (.object o) ∧
      ∀ e ∈ es, ∀ i, (Fields.map o).get i e.field = .ok e.value := by
  have hser : ∃ o, serializeFields es = .ok o := by
    clear hnodup
    induction es with
    | nil => exact ⟨[], rfl⟩
    | cons e es ih =>
      rw [List.forall_mem_cons] at hes
      obtain ⟨⟨j, hj, -⟩, hes⟩ := hes
      obtain ⟨o, ho⟩ := ih hes
      exact ⟨_, serializeFields_cons_ok.mpr ⟨j, o, hj, ho, rfl⟩⟩
  obtain ⟨o, ho⟩ := hser
  refine ⟨o, serializeStruct_ok.mpr ⟨o, ho, rfl⟩, fun e he i => ?_⟩
  obtain ⟨j, hj, hde⟩ := hes e he
  have hlookup := lookup_of_mem ho hnodup he
  rw [hj, Except.ok.injEq] at hlookup
  show e.field.deserialize (o.lookup e.field.name) = .ok e.value
  rw [← hlookup, hde]

/-- A structure that is serialized is an object that has every field. -/
theorem struct_serialized {es : List Entry} (hnodup : (es.map fun e => e.field.name).Nodup)
    {j : Json} (h : serializeStruct es = .ok j) :
    ∃ o, j = .object o ∧ ∀ e ∈ es, e.field.serialize e.value = .ok (o.lookup e.field.name) := by
  obtain ⟨o, ho, rfl⟩ := serializeStruct_ok.mp h
  exact ⟨o, rfl, fun e he => lookup_of_mem ho hnodup he⟩

theorem serializeStruct_ne_null (es : List Entry) : serializeStruct es ≠ .ok .null := by
  intro h
  obtain ⟨o, -, ho⟩ := serializeStruct_ok.mp h
  cases ho

/-! ## Records -/

/-- The description of a structure `σ`, as far as it has been given: what is written of a
value, and how its constructor is applied to what is read.  Whether `read` fails is that of
the derived visitor; which of several errors it gives is not. -/
structure Record (σ α : Type) where
  entries : σ → List Entry
  count : ℕ
  read : Fields → Except DeError α
  /-- The constructor applied to the fields of a value. -/
  value : σ → α
  sound : ∀ s o, (∀ e ∈ entries s, ∀ i, (Fields.map o).get i e.field = .ok e.value) →
    read (.map o) = .ok (value s)

namespace Record

variable {σ : Type}

/-- A constructor, before any of its fields. -/
def pure (σ : Type) (a : α) : Record σ α where
  entries _ := []
  count := 0
  read _ := .ok a
  value _ := a
  sound _ _ _ := rfl

/-- The next field. -/
def field (r : Record σ (α → β)) (f : Field α) (part : σ → α) : Record σ β where
  entries s := r.entries s ++ [⟨f, part s⟩]
  count := r.count + 1
  read fs :=
    match r.read fs with
    | .error err => .error err
    | .ok g =>
        match fs.get r.count f with
        | .error err => .error err
        | .ok a => .ok (g a)
  value s := r.value s (part s)
  sound s o h := by
    rw [r.sound s o fun e he => h e (List.mem_append_left _ he)]
    have hf : (Fields.map o).get r.count f = .ok (part s) :=
      h ⟨f, part s⟩ (List.mem_append_right _ List.mem_cons_self) r.count
    simp only [hf]

/-- **A structure is read** field after field. -/
theorem field_read_ok {r : Record σ (α → β)} {f : Field α} {part : σ → α} {fs : Fields} {b : β} :
    (r.field f part).read fs = .ok b ↔
      ∃ g a, r.read fs = .ok g ∧ fs.get r.count f = .ok a ∧ b = g a := by
  simp only [field]
  cases r.read fs with
  | error err => simp
  | ok g =>
    cases fs.get r.count f with
    | error err => simp
    | ok a => simp [eq_comm]

/-- The codec that is derived from a description. -/
def codec (r : Record σ σ) : Codec σ where
  serialize s := serializeStruct (r.entries s)
  deserialize j :=
    match Fields.of r.count j with
    | .error err => .error err
    | .ok fs => r.read fs

/-- Every field makes the round trip. -/
def RoundTripsAt (r : Record σ α) (s : σ) : Prop := ∀ e ∈ r.entries s, e.field.RoundTripsAt e.value

theorem pure_roundTripsAt {a : α} {s : σ} : (pure σ a).RoundTripsAt s :=
  fun _ he => absurd he List.not_mem_nil

/-- What holds of every field, one field after the other. -/
theorem forall_field {r : Record σ (α → β)} {f : Field α} {part : σ → α} {s : σ}
    {P : Entry → Prop} :
    (∀ e ∈ (r.field f part).entries s, P e) ↔ (∀ e ∈ r.entries s, P e) ∧ P ⟨f, part s⟩ := by
  constructor
  · intro h
    exact ⟨fun e he => h e (List.mem_append_left _ he),
      h ⟨f, part s⟩ (List.mem_append_right _ List.mem_cons_self)⟩
  · rintro ⟨hr, hf⟩ e he
    rcases List.mem_append.mp he with he | he
    · exact hr e he
    · rw [List.mem_singleton.mp he]
      exact hf

theorem field_roundTripsAt {r : Record σ (α → β)} {f : Field α} {part : σ → α} {s : σ} :
    (r.field f part).RoundTripsAt s ↔ r.RoundTripsAt s ∧ f.RoundTripsAt (part s) :=
  forall_field

/-- The names of the fields, in order. -/
def names (r : Record σ α) (s : σ) : List String := (r.entries s).map fun e => e.field.name

/-- **A record** makes the round trip if its fields do, under names that differ. -/
theorem codec_roundTripsAt {r : Record σ σ} {s : σ} (hvalue : r.value s = s)
    (hnames : (r.names s).Nodup) (h : r.RoundTripsAt s) : r.codec.RoundTripsAt s := by
  obtain ⟨o, ho, hget⟩ := struct_roundTrips hnames h
  refine ⟨.object o, ho, ?_⟩
  show r.read (.map o) = .ok s
  rw [r.sound s o hget, hvalue]

/-- A field that is not serialized fails the record. -/
theorem serialize_ok {r : Record σ σ} {s : σ} (hnames : (r.names s).Nodup) {j : Json}
    (h : r.codec.serialize s = .ok j) :
    ∃ o, j = .object o ∧
      ∀ e ∈ r.entries s, e.field.serialize e.value = .ok (o.lookup e.field.name) :=
  struct_serialized hnames h

/-- Descriptions that read alike deserialize alike. -/
theorem deserialize_congr {r r' : Record σ σ} {j : Json} (hcount : r.count = r'.count)
    (hread : ∀ fs, Fields.of r.count j = .ok fs → r.read fs = r'.read fs) :
    r.codec.deserialize j = r'.codec.deserialize j := by
  simp only [codec, ← hcount]
  cases hfs : Fields.of r.count j with
  | error err => rfl
  | ok fs => exact hread fs hfs

/-- No other names are written than those of the fields. -/
theorem serialize_written {r : Record σ σ} {s : σ} {j : Json} (h : r.codec.serialize s = .ok j) :
    ∃ o, j = .object o ∧ ∀ name, name ∉ r.names s → o.lookup name = none := by
  obtain ⟨o, ho, rfl⟩ := serializeStruct_ok.mp h
  exact ⟨o, rfl, fun name hname => lookup_eq_none ho hname⟩

/-- What is written of a field is read back. -/
def ReadsBackAt (r : Record σ α) (s : σ) : Prop :=
  ∀ e ∈ r.entries s, e.field.ReadsBackAt e.value

theorem pure_readsBackAt {a : α} {s : σ} : (pure σ a).ReadsBackAt s :=
  fun _ he => absurd he List.not_mem_nil

theorem field_readsBackAt {r : Record σ (α → β)} {f : Field α} {part : σ → α} {s : σ} :
    (r.field f part).ReadsBackAt s ↔ r.ReadsBackAt s ∧ f.ReadsBackAt (part s) :=
  forall_field

/-- A record that is serialized has all of its fields serialized. -/
theorem roundTripsAt_of_serialize {r : Record σ σ} {s : σ} (hnames : (r.names s).Nodup)
    (h : r.ReadsBackAt s) {j : Json} (hser : r.codec.serialize s = .ok j) : r.RoundTripsAt s := by
  obtain ⟨o, -, ho⟩ := serialize_ok hnames hser
  exact fun e he => h e he _ (ho e he)

/-- **A record whose fields are read back** makes the round trip exactly if they do. -/
theorem codec_roundTripsAt_iff {r : Record σ σ} {s : σ} (hvalue : r.value s = s)
    (hnames : (r.names s).Nodup) (h : r.ReadsBackAt s) :
    r.codec.RoundTripsAt s ↔ r.RoundTripsAt s := by
  constructor
  · rintro ⟨j, hser, -⟩
    exact roundTripsAt_of_serialize hnames h hser
  · exact codec_roundTripsAt hvalue hnames

theorem codec_readsBackAt {r : Record σ σ} {s : σ} (hvalue : r.value s = s)
    (hnames : (r.names s).Nodup) (h : r.ReadsBackAt s) : r.codec.ReadsBackAt s :=
  fun _ hser => codec_roundTripsAt hvalue hnames (roundTripsAt_of_serialize hnames h hser)

theorem codec_notNull (r : Record σ σ) : r.codec.NotNull := fun _ => serializeStruct_ne_null _

end Record

/-! ## Recursive types -/

namespace Codec

/-- The serializer of a type that occurs in its own parts. -/
def fixSerialize (size : α → ℕ) (F : Codec α → Codec α) (a : α) : Except SerError Json :=
  (F { serialize := fun b =>
         if size b < size a then fixSerialize size F b else .error (.custom "not a part")
       deserialize := fun _ => .error (.custom "not a part") }).serialize a
termination_by size a

/-- Its deserializer. -/
def fixDeserialize (F : Codec α → Codec α) (j : Json) : Except DeError α :=
  (F { serialize := fun _ => .error (.custom "not a part")
       deserialize := fun j' =>
         if j'.size < j.size then fixDeserialize F j'
         else .error (.custom "not a part") }).deserialize j
termination_by j.size

/-- The codec whose parts are the codec itself. -/
def fix (size : α → ℕ) (F : Codec α → Codec α) : Codec α := ⟨fixSerialize size F, fixDeserialize F⟩

/-- What `F` makes of a codec applies it to the parts of a value only. -/
structure Guarded (size : α → ℕ) (F : Codec α → Codec α) : Prop where
  serialize : ∀ c c' a, (∀ b, size b < size a → Codec.serialize c b = c'.serialize b) →
    (F c).serialize a = (F c').serialize a
  deserialize : ∀ c c' j, (∀ j', Json.size j' < Json.size j →
    Codec.deserialize c j' = c'.deserialize j') → (F c).deserialize j = (F c').deserialize j

/-- **The equation of a recursive codec.** -/
theorem fix_eq {size : α → ℕ} {F : Codec α → Codec α} (hF : Guarded size F) :
    fix size F = F (fix size F) := by
  have hser : (fix size F).serialize = (F (fix size F)).serialize := by
    funext a
    show fixSerialize size F a = _
    rw [fixSerialize]
    exact hF.serialize _ _ a fun b hb => if_pos hb
  have hde : (fix size F).deserialize = (F (fix size F)).deserialize := by
    funext j
    show fixDeserialize F j = _
    rw [fixDeserialize]
    exact hF.deserialize _ _ j fun j' hj' => if_pos hj'
  calc fix size F = ⟨(fix size F).serialize, (fix size F).deserialize⟩ := rfl
    _ = ⟨(F (fix size F)).serialize, (F (fix size F)).deserialize⟩ := by rw [← hser, ← hde]
    _ = F (fix size F) := rfl

end Codec

/-! ### Parts -/

theorem traverse_congr {ε : Type} {f g : α → Except ε β} {l : List α}
    (h : ∀ a ∈ l, f a = g a) : traverse f l = traverse g l := by
  induction l with
  | nil => rfl
  | cons a l ih =>
    rw [List.forall_mem_cons] at h
    rw [traverse, traverse, h.1, ih h.2]

/-- A value of an object is smaller than it. -/
theorem size_lookup_lt {o : List (String × Json)} {name : String} {j : Json}
    (h : o.lookup name = some j) : j.size < (Json.object o).size := by
  have hle : j.size ≤ Json.sizeFields o := by
    induction o with
    | nil => cases h
    | cons x o ih =>
      obtain ⟨k, v⟩ := x
      rw [List.lookup_cons] at h
      rw [Json.sizeFields]
      cases hk : name == k with
      | true =>
        rw [hk] at h
        cases h
        exact Nat.le_add_right _ _
      | false =>
        rw [hk] at h
        exact Nat.le_add_left_of_le (ih h)
  rw [Json.size]
  exact Nat.lt_succ_of_le hle

/-- An element of an array is smaller than it. -/
theorem size_element_lt {l : List Json} {j : Json} (h : j ∈ l) :
    j.size < (Json.array l).size := by
  have hle : j.size ≤ Json.sizeList l := by
    induction l with
    | nil => exact absurd h List.not_mem_nil
    | cons j' l ih =>
      rw [Json.sizeList]
      rcases List.mem_cons.mp h with rfl | h
      · exact Nat.le_add_right _ _
      · exact Nat.le_add_left_of_le (ih h)
  rw [Json.size]
  exact Nat.lt_succ_of_le hle

/-- An optional sequence of parts is serialized by what its elements are. -/
theorem Field.skipNone_vec_serialize_congr {name : String} {c c' : Codec α} {a : Option (List α)}
    (h : ∀ l, a = some l → ∀ b ∈ l, c.serialize b = c'.serialize b) :
    (Field.skipNone name c.vec).serialize a = (Field.skipNone name c'.vec).serialize a := by
  cases a with
  | none => rfl
  | some l =>
    have hl : traverse c.serialize l = traverse c'.serialize l := traverse_congr (h l rfl)
    simp only [skipNone, skipIf, optional, Codec.vec, hl]

/-- And deserialized by what they are. -/
theorem Field.skipNone_vec_deserialize_congr {name : String} {c c' : Codec α} {j : Option Json}
    (h : ∀ l, j = some (.array l) → ∀ j' ∈ l, c.deserialize j' = c'.deserialize j') :
    (Field.skipNone name c.vec).deserialize j = (Field.skipNone name c'.vec).deserialize j := by
  rcases j with _ | (_ | b | n | s | l | o)
  · rfl
  · rfl
  · rfl
  · rfl
  · rfl
  · have hl : traverse c.deserialize l = traverse c'.deserialize l := traverse_congr (h l rfl)
    simp only [skipNone, skipIf, optional, Codec.vec, hl]
  · rfl

end Serde
end MevShare
