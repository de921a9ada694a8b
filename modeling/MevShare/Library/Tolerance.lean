import Mathlib.Data.List.Forall2
import MevShare.Library.Serde

/-!
# Tolerant readers

A derived codec looks the members of an object up by name, and ignores all others.  So a
value may be extended by members that its readers do not know, at any depth, and the members
of an object may come in any order.

`Json.Agree K` is the relation of two values of which a reader that knows the names in `K`
sees the same: scalars are equal, arrays agree element by element, and objects have under
every name in `K` values that agree, or both none.  No name occurs twice in an object, for
this is an error of its own.

A codec is `Tolerant` if values that agree are read as the same, if at all; the errors may
differ, since what is wrong first depends on the order.  The constructors of codecs, fields
and records keep this, with the names of the fields in `K`.

A codec that is used on its own parts reads smaller values with itself.  Therefore everything
is said for values below a size, `TolerantBelow`: a record looks at smaller values than its
own, and `Codec.fix_tolerant` is the induction on the size.
-/

namespace MevShare
namespace Serde

variable {α β σ : Type} {K : String → Prop} {n : ℕ}

/-- The values are the same for who knows the names in `K`. -/
inductive Json.Agree (K : String → Prop) : Json → Json → Prop
  | null : Agree K .null .null
  | bool (b : Bool) : Agree K (.bool b) (.bool b)
  | number (x : Number) : Agree K (.number x) (.number x)
  | string (s : String) : Agree K (.string s) (.string s)
  | array {l l' : List Json} (h : List.Forall₂ (Agree K) l l') : Agree K (.array l) (.array l')
  | object {o o' : List (String × Json)} (hnodup : (o.map Prod.fst).Nodup)
      (hnodup' : (o'.map Prod.fst).Nodup)
      (h : ∀ name, K name → Option.Rel (Agree K) (o.lookup name) (o'.lookup name)) :
      Agree K (.object o) (.object o')

theorem Json.Agree.null_iff {j j' : Json} (h : j.Agree K j') : j = .null ↔ j' = .null := by
  cases h <;> simp

theorem Json.Agree.bool_iff {j j' : Json} (h : j.Agree K j') {b : Bool} :
    j = .bool b ↔ j' = .bool b := by
  cases h <;> simp

/-! ## Codecs -/

namespace Codec

/-- The values are read as the same, if at all. -/
def AgreesAt (c : Codec α) (j j' : Json) : Prop :=
  ∀ a, c.deserialize j = .ok a ↔ c.deserialize j' = .ok a

/-- Values below the size `n` that agree are read as the same. -/
def TolerantBelow (K : String → Prop) (n : ℕ) (c : Codec α) : Prop :=
  ∀ j j', j.size < n → j.Agree K j' → c.AgreesAt j j'

def Tolerant (K : String → Prop) (c : Codec α) : Prop := ∀ n, c.TolerantBelow K n

theorem unit_tolerant : Codec.unit.Tolerant K := by
  intro n j j' _ h a
  cases h <;> simp [unit]

theorem bool_tolerant : Codec.bool.Tolerant K := by
  intro n j j' _ h a
  cases h <;> simp [bool]

theorem u64_tolerant : Codec.u64.Tolerant K := by
  intro n j j' _ h a
  cases h <;> simp [u64]

theorem string_tolerant : Codec.string.Tolerant K := by
  intro n j j' _ h a
  cases h <;> simp [string]

/-- **A sequence** is read element by element. -/
theorem vec_tolerantBelow {c : Codec α} (hc : c.TolerantBelow K n) : c.vec.TolerantBelow K n := by
  intro j j' hlt h a
  cases h with
  | @array l l' h =>
    show traverse c.deserialize l = .ok a ↔ traverse c.deserialize l' = .ok a
    have hsize : ∀ x ∈ l, x.size < n := fun x hx => Nat.lt_trans (size_element_lt hx) hlt
    clear hlt
    induction h generalizing a with
    | nil => exact Iff.rfl
    | @cons x x' l l' hx _ ih =>
      obtain ⟨hlt, hsize⟩ := List.forall_mem_cons.mp hsize
      simp only [traverse_cons_ok, hc x x' hlt hx _, ih _ hsize]
  | _ => exact Iff.rfl

end Codec

/-! ## Fields -/

namespace Field

/-- Of values below the size `n` that agree, or of none, the same is read. -/
structure TolerantBelow (K : String → Prop) (n : ℕ) (f : Field α) : Prop where
  name : K f.name
  reads : ∀ x x' : Option Json, (∀ j, x = some j → j.size < n) →
    Option.Rel (Json.Agree K) x x' → ∀ a, f.deserialize x = .ok a ↔ f.deserialize x' = .ok a

theorem required_tolerantBelow {name : String} {c : Codec α} (hname : K name)
    (hc : c.TolerantBelow K n) : (required name c).TolerantBelow K n where
  name := hname
  reads x x' hlt h a := by
    rcases h with h | _
    · exact hc _ _ (hlt _ rfl) h a
    · exact Iff.rfl

/-- What is read of an optional value that is there. -/
theorem optional_deserialize_ok {name : String} {c : Codec α} {j : Json} {a : Option α} :
    (optional name c).deserialize (some j) = .ok a ↔
      (j = .null ∧ a = none) ∨ (j ≠ .null ∧ ∃ v, a = some v ∧ c.deserialize j = .ok v) := by
  by_cases hnull : j = .null
  · subst hnull
    simp [optional, eq_comm]
  · rcases hv : c.deserialize j with e | v
    · have hread : (optional name c).deserialize (some j) = .error e := by
        rcases j with _ | b | x | s | l | o
        · exact absurd rfl hnull
        all_goals simp only [optional, hv]
      simp [hread, hnull]
    · have hread : (optional name c).deserialize (some j) = .ok (some v) := by
        rcases j with _ | b | x | s | l | o
        · exact absurd rfl hnull
        all_goals simp only [optional, hv]
      simp [hread, hnull, eq_comm]

theorem optional_tolerantBelow {name : String} {c : Codec α} (hname : K name)
    (hc : c.TolerantBelow K n) : (optional name c).TolerantBelow K n where
  name := hname
  reads x x' hlt h a := by
    rcases h with @⟨j, j', h⟩ | _
    · have hread := hc j j' (hlt j rfl) h
      simp only [optional_deserialize_ok, ne_eq, h.null_iff, hread _]
    · exact Iff.rfl

theorem default_tolerantBelow {f : Field α} {d : α} (hf : f.TolerantBelow K n) :
    (f.default d).TolerantBelow K n where
  name := hf.name
  reads x x' hlt h a := by
    rcases h with @⟨j, j', h⟩ | _
    · exact hf.reads (some j) (some j') hlt (.some h) a
    · exact Iff.rfl

theorem skipNone_tolerantBelow {name : String} {c : Codec α} (hname : K name)
    (hc : c.TolerantBelow K n) : (skipNone name c).TolerantBelow K n :=
  ⟨hname, (optional_tolerantBelow hname hc).reads⟩

end Field

/-! ## Structures -/

/-- What the fields of two structures are read from agrees, and is below the size `n`. -/
inductive Fields.Agree (K : String → Prop) (n : ℕ) : Fields → Fields → Prop
  | map {o o' : List (String × Json)} (hlt : ∀ name j, o.lookup name = some j → j.size < n)
      (h : ∀ name, K name → Option.Rel (Json.Agree K) (o.lookup name) (o'.lookup name)) :
      Agree K n (.map o) (.map o')
  | seq {l l' : List Json} (hlt : ∀ j ∈ l, j.size < n) (h : List.Forall₂ (Json.Agree K) l l') :
      Agree K n (.seq l) (.seq l')

/-- The elements at a position, if there are any. -/
theorem rel_getElem? {R : α → β → Prop} {l : List α} {l' : List β} (h : List.Forall₂ R l l')
    (i : ℕ) : Option.Rel R l[i]? l'[i]? := by
  induction h generalizing i with
  | nil => exact .none
  | cons hx _ ih =>
    cases i with
    | zero => exact .some hx
    | succ i => exact ih i

theorem Fields.Agree.get {fs fs' : Fields} (h : fs.Agree K n fs') {f : Field α}
    (hf : f.TolerantBelow K n) (i : ℕ) (a : α) : fs.get i f = .ok a ↔ fs'.get i f = .ok a := by
  rcases h with ⟨hlt, h⟩ | ⟨hlt, h⟩
  · exact hf.reads _ _ (hlt f.name) (h f.name hf.name) a
  · rename_i l l'
    have hi := rel_getElem? h i
    generalize hx : l[i]? = x at hi
    generalize hx' : l'[i]? = x' at hi
    rcases hi with hi | _
    · rename_i j j'
      have hread := hf.reads (some j) (some j')
        (fun j₁ hj₁ => by cases hj₁; exact hlt j (List.mem_of_getElem? hx)) (.some hi) a
      simp only [Fields.get, hx, hx', hread]
    · simp only [Fields.get, hx, hx']

namespace Record

def TolerantBelow (K : String → Prop) (n : ℕ) (r : Record σ α) : Prop :=
  ∀ fs fs' : Fields, fs.Agree K n fs' → ∀ a, r.read fs = .ok a ↔ r.read fs' = .ok a

theorem pure_tolerantBelow (a : α) : (pure σ a).TolerantBelow K n := fun _ _ _ _ => Iff.rfl

theorem TolerantBelow.field {r : Record σ (α → β)} {f : Field α} {part : σ → α}
    (hr : r.TolerantBelow K n) (hf : f.TolerantBelow K n) :
    (r.field f part).TolerantBelow K n := by
  intro fs fs' h b
  simp only [field_read_ok, hr fs fs' h _, h.get hf _ _]

/-- **A record** reads smaller values than its own. -/
theorem codec_tolerantBelow {r : Record σ σ} (hr : r.TolerantBelow K n) :
    r.codec.TolerantBelow K (n + 1) := by
  intro j j' hlt h a
  have hle : j.size ≤ n := Nat.lt_succ_iff.mp hlt
  cases h with
  | @object o o' _ _ h =>
    exact hr (.map o) (.map o')
      (.map (fun name v hv => Nat.lt_of_lt_of_le (size_lookup_lt hv) hle) h) a
  | @array l l' h =>
    simp only [codec, Fields.of, ← h.length_eq]
    by_cases hlength : l.length ≤ r.count
    · simp only [if_pos hlength]
      exact hr (.seq l) (.seq l')
        (.seq (fun v hv => Nat.lt_of_lt_of_le (size_element_lt hv) hle) h) a
    · simp only [if_neg hlength]
  | _ => exact Iff.rfl

theorem codec_tolerant {r : Record σ σ} (hr : ∀ n, r.TolerantBelow K n) : r.codec.Tolerant K := by
  intro n
  cases n with
  | zero => exact fun _ _ hlt => absurd hlt (Nat.not_lt_zero _)
  | succ n => exact codec_tolerantBelow (hr n)

end Record

/-- **A recursive codec** is tolerant if its equation makes it so of its parts. -/
theorem Codec.fix_tolerant {size : α → ℕ} {F : Codec α → Codec α} (hF : Guarded size F)
    (h : ∀ n c, Codec.TolerantBelow K n c → (F c).TolerantBelow K (n + 1)) :
    (fix size F).Tolerant K := by
  intro n
  induction n with
  | zero => exact fun _ _ hlt => absurd hlt (Nat.not_lt_zero _)
  | succ n ih =>
    rw [fix_eq hF]
    exact h n _ ih

end Serde
end MevShare
