import MevShare.Library.Serde

/-!
# JSON as text

A value goes over a wire as text.  The writer puts a JSON value into text, and the parser
makes the value of it again, but not of every text: it counts the arrays and objects that it
is in, and gives up where they are nested too deeply, so that a text cannot exhaust its
stack.  `JsonText` is a pair of the two, on any type of texts, and `JsonText.Lawful` says of
it what is documented of `serde_json`: a value of at most `maxLevels` levels is read from
its text, and of every deeper one the reading fails.  Numbers with a fraction or an exponent
are left out of this, since they may be read as another number.

The JSON value between the two stands for what the parser hands to the type it reads for,
member after member; no map is made of it.

`Codec.textRoundTripsAt_iff` is what a codec has to do with it: a value that makes the round
trip through JSON values makes the one through text exactly if its JSON value is not too
deep.  `Codec.Shallow` bounds the levels that a codec writes, constructor by constructor.
-/

namespace MevShare
namespace Serde

variable {α β σ : Type} {n m : ℕ}

/-! ## Levels -/

mutual

/-- How deeply arrays and objects are nested. -/
def Json.levels : Json → ℕ
  | .array l => Json.levelsList l + 1
  | .object o => Json.levelsFields o + 1
  | _ => 0

def Json.levelsList : List Json → ℕ
  | [] => 0
  | j :: l => max j.levels (Json.levelsList l)

def Json.levelsFields : List (String × Json) → ℕ
  | [] => 0
  | (_, j) :: o => max j.levels (Json.levelsFields o)

end

/-- No fraction and no exponent, and a sign only below `0`. -/
def Number.whole : Number → Bool
  | .posInt _ => true
  | .negInt i => decide (i < 0)
  | .float _ => false

mutual

/-- All numbers in a value are whole. -/
def Json.whole : Json → Bool
  | .number x => x.whole
  | .array l => Json.wholeList l
  | .object o => Json.wholeFields o
  | _ => true

def Json.wholeList : List Json → Bool
  | [] => true
  | j :: l => j.whole && Json.wholeList l

def Json.wholeFields : List (String × Json) → Bool
  | [] => true
  | (_, j) :: o => j.whole && Json.wholeFields o

end

namespace Json

theorem levelsList_le {l : List Json} : levelsList l ≤ n ↔ ∀ j ∈ l, j.levels ≤ n := by
  induction l with
  | nil => simp [levelsList]
  | cons j l ih => rw [levelsList, Nat.max_le, ih, List.forall_mem_cons]

theorem levelsFields_le {o : List (String × Json)} :
    levelsFields o ≤ n ↔ ∀ x ∈ o, x.2.levels ≤ n := by
  induction o with
  | nil => simp [levelsFields]
  | cons x o ih => rw [levelsFields, Nat.max_le, ih, List.forall_mem_cons]

theorem wholeList_iff {l : List Json} : wholeList l = true ↔ ∀ j ∈ l, j.whole = true := by
  induction l with
  | nil => simp [wholeList]
  | cons j l ih => rw [wholeList, Bool.and_eq_true, ih, List.forall_mem_cons]

theorem wholeFields_iff {o : List (String × Json)} :
    wholeFields o = true ↔ ∀ x ∈ o, x.2.whole = true := by
  induction o with
  | nil => simp [wholeFields]
  | cons x o ih => rw [wholeFields, Bool.and_eq_true, ih, List.forall_mem_cons]

/-- The numbers of a value are whole, and it has no more than so many levels. -/
structure Shallow (n : ℕ) (j : Json) : Prop where
  whole : j.whole = true
  levels : j.levels ≤ n

theorem Shallow.mono {j : Json} (h : j.Shallow n) (hle : n ≤ m) : j.Shallow m :=
  ⟨h.whole, Nat.le_trans h.levels hle⟩

/-- **An array** has one level more than its elements. -/
theorem shallow_array {l : List Json} :
    (array l).Shallow n ↔ 0 < n ∧ ∀ j ∈ l, j.Shallow (n - 1) := by
  rcases n with _ | n
  · exact iff_of_false (fun h => Nat.not_succ_le_zero _ h.levels) (fun h => Nat.lt_irrefl 0 h.1)
  · constructor
    · intro h
      exact ⟨Nat.succ_pos n, fun j hj => ⟨wholeList_iff.mp h.whole j hj,
        levelsList_le.mp (Nat.le_of_succ_le_succ h.levels) j hj⟩⟩
    · rintro ⟨-, h⟩
      exact ⟨wholeList_iff.mpr fun j hj => (h j hj).whole,
        Nat.succ_le_succ (levelsList_le.mpr fun j hj => (h j hj).levels)⟩

/-- **An object** has one level more than the values in it. -/
theorem shallow_object {o : List (String × Json)} :
    (object o).Shallow n ↔ 0 < n ∧ ∀ x ∈ o, x.2.Shallow (n - 1) := by
  rcases n with _ | n
  · exact iff_of_false (fun h => Nat.not_succ_le_zero _ h.levels) (fun h => Nat.lt_irrefl 0 h.1)
  · constructor
    · intro h
      exact ⟨Nat.succ_pos n, fun x hx => ⟨wholeFields_iff.mp h.whole x hx,
        levelsFields_le.mp (Nat.le_of_succ_le_succ h.levels) x hx⟩⟩
    · rintro ⟨-, h⟩
      exact ⟨wholeFields_iff.mpr fun x hx => (h x hx).whole,
        Nat.succ_le_succ (levelsFields_le.mpr fun x hx => (h x hx).levels)⟩

end Json

/-! ## Texts -/

/-- Writing a JSON value as text, and reading it. -/
structure JsonText where
  Text : Type
  write : Json → Text
  read : Text → Except DeError Json

namespace JsonText

/-- The levels that are read; entering one more is an error. -/
def maxLevels : ℕ := 127

/-- What is assumed of the writer and the parser. -/
structure Lawful (t : JsonText) : Prop where
  reads : ∀ j : Json, j.Shallow maxLevels → t.read (t.write j) = .ok j
  refuses : ∀ j : Json, j.whole = true → maxLevels < j.levels →
    ∃ err, t.read (t.write j) = .error err

end JsonText

namespace Codec

/-- `serde_json::to_string`. -/
def toText (t : JsonText) (c : Codec α) (a : α) : Except SerError t.Text :=
  match c.serialize a with
  | .error err => .error err
  | .ok j => .ok (t.write j)

/-- `serde_json::from_str`. -/
def fromText (t : JsonText) (c : Codec α) (x : t.Text) : Except DeError α :=
  match t.read x with
  | .error err => .error err
  | .ok j => c.deserialize j

/-- The value is written as text, and is what is read from this. -/
def TextRoundTripsAt (t : JsonText) (c : Codec α) (a : α) : Prop :=
  ∃ x, c.toText t a = .ok x ∧ c.fromText t x = .ok a

/-- What is nested too deeply is not read. -/
theorem fromText_of_deep {t : JsonText} (ht : t.Lawful) (c : Codec α) {j : Json}
    (hwhole : j.whole = true) (hdeep : JsonText.maxLevels < j.levels) :
    ∃ err, c.fromText t (t.write j) = .error err := by
  obtain ⟨err, herr⟩ := ht.refuses j hwhole hdeep
  refine ⟨err, ?_⟩
  simp only [fromText, herr]

/-- **Through text** a value makes the round trip exactly if it is not nested too deeply. -/
theorem textRoundTripsAt_iff {t : JsonText} (ht : t.Lawful) {c : Codec α} {a : α}
    (h : c.RoundTripsAt a) {j : Json} (hj : c.serialize a = .ok j) (hwhole : j.whole = true) :
    c.TextRoundTripsAt t a ↔ j.levels ≤ JsonText.maxLevels := by
  obtain ⟨j', hser, hde⟩ := h
  obtain rfl := Except.ok.inj (hser.symm.trans hj)
  have htext : c.toText t a = .ok (t.write j') := by
    simp only [toText, hser]
  constructor
  · rintro ⟨x, hx, hread⟩
    by_contra hdeep
    obtain rfl := Except.ok.inj (htext.symm.trans hx)
    obtain ⟨err, herr⟩ := fromText_of_deep ht c hwhole (Nat.not_le.mp hdeep)
    rw [herr] at hread
    cases hread
  · intro hlevels
    refine ⟨t.write j', htext, ?_⟩
    simp only [fromText, ht.reads j' ⟨hwhole, hlevels⟩]
    exact hde

/-! ## Codecs that write few levels -/

/-- Something is written of a value. -/
def Serializes (c : Codec α) (a : α) : Prop := ∃ j, c.serialize a = .ok j

theorem RoundTripsAt.serializes {c : Codec α} {a : α} (h : c.RoundTripsAt a) : c.Serializes a := by
  obtain ⟨j, hj, -⟩ := h
  exact ⟨j, hj⟩

/-- What is written of a value, if anything, has no more than so many levels. -/
def ShallowAt (n : ℕ) (c : Codec α) (a : α) : Prop := ∀ j, c.serialize a = .ok j → j.Shallow n

/-- The same of every value. -/
def Shallow (n : ℕ) (c : Codec α) : Prop := ∀ a, c.ShallowAt n a

theorem shallowAt_iff {c : Codec α} {a : α} {j : Json} (hj : c.serialize a = .ok j) :
    c.ShallowAt n a ↔ j.Shallow n := by
  refine ⟨fun h => h j hj, fun h j' hj' => ?_⟩
  obtain rfl := Except.ok.inj (hj.symm.trans hj')
  exact h

theorem Shallow.mono {c : Codec α} (h : c.Shallow n) (hle : n ≤ m) : c.Shallow m :=
  fun a j hj => (h a j hj).mono hle

/-- **A shallow codec** that makes the round trip through JSON values makes it through text. -/
theorem textRoundTrips {t : JsonText} (ht : t.Lawful) {c : Codec α} (h : c.RoundTrips)
    (hc : c.Shallow n) (hn : n ≤ JsonText.maxLevels) (a : α) : c.TextRoundTripsAt t a := by
  obtain ⟨j, hj, -⟩ := h a
  have hshallow := hc a j hj
  exact (textRoundTripsAt_iff ht (h a) hj hshallow.whole).mpr (Nat.le_trans hshallow.levels hn)

/-- A codec that writes every value, and all of them as strings, whole numbers or words. -/
theorem shallow_of_scalars {c : Codec α} {form : α → Json} (h : ∀ a, c.serialize a = .ok (form a))
    (hform : ∀ a, (form a).Shallow 0) : c.Shallow n := by
  intro a j hj
  obtain rfl := Except.ok.inj ((h a).symm.trans hj)
  exact (hform a).mono (Nat.zero_le n)

theorem unit_shallow : Codec.unit.Shallow n :=
  shallow_of_scalars (fun _ => rfl) fun _ => ⟨rfl, Nat.le_refl 0⟩

theorem bool_shallow : Codec.bool.Shallow n :=
  shallow_of_scalars (fun _ => rfl) fun _ => ⟨rfl, Nat.le_refl 0⟩

theorem u64_shallow : Codec.u64.Shallow n :=
  shallow_of_scalars (fun _ => rfl) fun _ => ⟨rfl, Nat.le_refl 0⟩

theorem string_shallow : Codec.string.Shallow n :=
  shallow_of_scalars (fun _ => rfl) fun _ => ⟨rfl, Nat.le_refl 0⟩

/-- What is written of a sequence is written of its elements, and of each of them something. -/
theorem vec_serialize_elements {c : Codec α} {l : List α} {j : Json}
    (h : c.vec.serialize l = .ok j) :
    ∃ js, j = .array js ∧ (∀ x ∈ js, ∃ a ∈ l, c.serialize a = .ok x) ∧
      ∀ a ∈ l, ∃ x ∈ js, c.serialize a = .ok x := by
  obtain ⟨js, hjs, rfl⟩ := vec_serialize_ok.mp h
  refine ⟨js, rfl, ?_⟩
  clear h
  induction l generalizing js with
  | nil =>
    cases hjs
    exact ⟨fun _ hx => absurd hx List.not_mem_nil, fun _ ha => absurd ha List.not_mem_nil⟩
  | cons a l ih =>
    obtain ⟨x, js', hx, hjs', rfl⟩ := traverse_cons_ok.mp hjs
    obtain ⟨hof, hall⟩ := ih js' hjs'
    refine ⟨List.forall_mem_cons.mpr ⟨⟨a, List.mem_cons_self, hx⟩, fun y hy => ?_⟩,
      List.forall_mem_cons.mpr ⟨⟨x, List.mem_cons_self, hx⟩, fun b hb => ?_⟩⟩
    · obtain ⟨b, hb, hy⟩ := hof y hy
      exact ⟨b, List.mem_cons_of_mem a hb, hy⟩
    · obtain ⟨y, hy, hb⟩ := hall b hb
      exact ⟨y, List.mem_cons_of_mem x hy, hb⟩

/-- **A sequence** has one level more than its elements. -/
theorem vec_shallowAt_iff {c : Codec α} {l : List α} (h : c.vec.Serializes l) :
    c.vec.ShallowAt n l ↔ 0 < n ∧ ∀ a ∈ l, c.ShallowAt (n - 1) a := by
  obtain ⟨j, hj⟩ := h
  obtain ⟨js, rfl, hof, hall⟩ := vec_serialize_elements hj
  rw [shallowAt_iff hj, Json.shallow_array]
  refine and_congr_right fun _ => ⟨fun h a ha => ?_, fun h x hx => ?_⟩
  · obtain ⟨x, hmem, hx⟩ := hall a ha
    exact (shallowAt_iff hx).mpr (h x hmem)
  · obtain ⟨a, ha, hser⟩ := hof x hx
    exact h a ha x hser

theorem vec_shallow {c : Codec α} (h : c.Shallow n) : c.vec.Shallow (n + 1) := fun _ j hj =>
  (vec_shallowAt_iff ⟨j, hj⟩).mpr ⟨Nat.succ_pos n, fun a _ => h a⟩ j hj

end Codec

namespace Field

/-- What is written of a value, if anything, has no more than so many levels. -/
def ShallowAt (n : ℕ) (f : Field α) (a : α) : Prop :=
  ∀ j, f.serialize a = .ok (some j) → j.Shallow n

theorem required_shallowAt_iff {name : String} {c : Codec α} {a : α} :
    (required name c).ShallowAt n a ↔ c.ShallowAt n a := by
  constructor
  · exact fun h j hj => h j (required_serialize_ok.mpr ⟨j, hj, rfl⟩)
  · intro h j hj
    obtain ⟨j', hj', heq⟩ := required_serialize_ok.mp hj
    obtain rfl := Option.some.inj heq
    exact h j hj'

theorem required_shallowAt {name : String} {c : Codec α} (h : c.Shallow n) (a : α) :
    (required name c).ShallowAt n a := required_shallowAt_iff.mpr (h a)

/-- What is written of an optional value. -/
theorem skipNone_serialize_some {name : String} {c : Codec α} {a : Option α} {j : Json} :
    (skipNone name c).serialize a = .ok (some j) ↔ ∃ v, a = some v ∧ c.serialize v = .ok j := by
  rcases a with _ | v
  · simp [skipNone, skipIf]
  · simp only [skipNone, skipIf, optional, Option.isNone_some, Bool.false_eq_true, if_false]
    rcases hv : c.serialize v with err | j' <;> simp [hv]

theorem skipNone_shallowAt_none {name : String} {c : Codec α} :
    (skipNone name c).ShallowAt n none := by
  intro j hj
  obtain ⟨v, hv, -⟩ := skipNone_serialize_some.mp hj
  cases hv

theorem skipNone_shallowAt_some {name : String} {c : Codec α} {v : α} :
    (skipNone name c).ShallowAt n (some v) ↔ c.ShallowAt n v := by
  constructor
  · exact fun h j hj => h j (skipNone_serialize_some.mpr ⟨v, rfl, hj⟩)
  · intro h j hj
    obtain ⟨v', hv', hj⟩ := skipNone_serialize_some.mp hj
    obtain rfl := Option.some.inj hv'
    exact h j hj

theorem skipNone_shallowAt {name : String} {c : Codec α} (h : c.Shallow n) (a : Option α) :
    (skipNone name c).ShallowAt n a := by
  rcases a with _ | v
  · exact skipNone_shallowAt_none
  · exact skipNone_shallowAt_some.mpr (h v)

theorem skipIf_shallowAt {f : Field α} {p : α → Bool} {a : α} (h : f.ShallowAt n a) :
    (f.skipIf p).ShallowAt n a := by
  intro j hj
  by_cases hp : p a = true
  · simp only [skipIf, if_pos hp] at hj
    cases hj
  · simp only [skipIf, if_neg hp] at hj
    exact h j hj

theorem default_shallowAt {f : Field α} {a d : α} (h : f.ShallowAt n a) :
    (f.default d).ShallowAt n a := h

end Field

/-- What is written of a structure is written of its fields. -/
theorem serializeFields_values {es : List Entry} {o : List (String × Json)}
    (h : serializeFields es = .ok o) :
    (∀ x ∈ o, ∃ e ∈ es, e.field.serialize e.value = .ok (some x.2)) ∧
      ∀ e ∈ es, ∀ j, e.field.serialize e.value = .ok (some j) → (e.field.name, j) ∈ o := by
  induction es generalizing o with
  | nil =>
    cases h
    exact ⟨fun _ hx => absurd hx List.not_mem_nil, fun _ he => absurd he List.not_mem_nil⟩
  | cons e es ih =>
    obtain ⟨j, o', hj, ho', rfl⟩ := serializeFields_cons_ok.mp h
    obtain ⟨hof, hall⟩ := ih ho'
    refine ⟨fun x hx => ?_, List.forall_mem_cons.mpr ⟨fun j' hj' => ?_, fun e' he' j' hj' =>
      List.mem_append_right _ (hall e' he' j' hj')⟩⟩
    · rcases List.mem_append.mp hx with hx | hx
      · obtain ⟨v, hv, rfl⟩ := List.mem_map.mp hx
        rw [Option.mem_toList.mp hv] at hj
        exact ⟨e, List.mem_cons_self, hj⟩
      · obtain ⟨e', he', hx⟩ := hof x hx
        exact ⟨e', List.mem_cons_of_mem e he', hx⟩
    · obtain rfl := Except.ok.inj (hj.symm.trans hj')
      exact List.mem_append_left _ List.mem_cons_self

namespace Record

/-- What is written of every field has no more than so many levels. -/
def ShallowAt (n : ℕ) (r : Record σ α) (s : σ) : Prop :=
  ∀ e ∈ r.entries s, e.field.ShallowAt n e.value

theorem pure_shallowAt {a : α} {s : σ} : (pure σ a).ShallowAt n s :=
  fun _ he => absurd he List.not_mem_nil

theorem field_shallowAt {r : Record σ (α → β)} {f : Field α} {part : σ → α} {s : σ} :
    (r.field f part).ShallowAt n s ↔ r.ShallowAt n s ∧ f.ShallowAt n (part s) :=
  forall_field

/-- **A record** has one level more than its fields. -/
theorem codec_shallowAt_iff {r : Record σ σ} {s : σ} (h : r.codec.Serializes s) :
    r.codec.ShallowAt n s ↔ 0 < n ∧ r.ShallowAt (n - 1) s := by
  obtain ⟨j, hj⟩ := h
  obtain ⟨o, ho, rfl⟩ := serializeStruct_ok.mp hj
  obtain ⟨hof, hall⟩ := serializeFields_values ho
  rw [Codec.shallowAt_iff hj, Json.shallow_object]
  refine and_congr_right fun _ => ⟨fun h e he j hj => h (e.field.name, j) (hall e he j hj),
    fun h x hx => ?_⟩
  obtain ⟨e, he, hser⟩ := hof x hx
  exact h e he x.2 hser

theorem codec_shallow {r : Record σ σ} (h : ∀ s, r.ShallowAt n s) : r.codec.Shallow (n + 1) :=
  fun s j hj => (codec_shallowAt_iff ⟨j, hj⟩).mpr ⟨Nat.succ_pos n, h s⟩ j hj

end Record

end Serde
end MevShare
