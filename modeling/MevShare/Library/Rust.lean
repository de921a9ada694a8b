import Mathlib.Data.Nat.Notation

/-!
# Panics and machine arithmetic of a Rust build

A function of a Rust program either returns or stops the program.  The reasons
to stop are collected in `Halt`; two of them belong to the embedding and not to
the program, and a theorem about a function shows that it never stops for them.

Addition of machine words depends on the build: with overflow checks it panics
where the sum does not fit, without them it wraps around.  `BuildProfile` keeps
both builds in one definition.  `checkedAdd` and `checkedSub` are the operations of
a build with overflow checks, on an unsigned type of any size.

`strContains` is the search of a string in a string.
-/

namespace MevShare
namespace Rust

/-- Why a computation stopped without a result. -/
inductive Halt where
  /-- The program panicked. -/
  | panicked (message : String)
  /-- A loop ran out of the bound that its embedding gives it. -/
  | outOfFuel
  /-- The environment offered something that cannot happen in this state. -/
  | disabled
  deriving DecidableEq, Repr

/-- What of a build changes the meaning of a program: are overflows checked? -/
structure BuildProfile where
  overflowChecks : Bool
  deriving DecidableEq, Repr

/-- `a + b` on `u64`. -/
def BuildProfile.addU64 (profile : BuildProfile) (a b : UInt64) : Except Halt UInt64 :=
  if profile.overflowChecks && decide (UInt64.size ≤ a.toNat + b.toNat) then
    .error (.panicked "attempt to add with overflow")
  else
    .ok (a + b)

/-- A sum that fits is computed by both builds. -/
theorem BuildProfile.addU64_of_lt (profile : BuildProfile) {a b : UInt64}
    (h : a.toNat + b.toNat < UInt64.size) : profile.addU64 a b = .ok (a + b) := by
  have hfit : decide (UInt64.size ≤ a.toNat + b.toNat) = false := by
    simpa using h
  rw [addU64, hfit, Bool.and_false]
  rfl

/-- A sum that comes out is the wrapped one. -/
theorem BuildProfile.eq_add_of_addU64 {profile : BuildProfile} {a b c : UInt64}
    (h : profile.addU64 a b = .ok c) : c = a + b := by
  unfold addU64 at h
  split at h
  · cases h
  · cases h
    rfl

/-- The only way for a sum not to come out is to panic. -/
theorem BuildProfile.addU64_error {profile : BuildProfile} {a b : UInt64} {e : Halt}
    (h : profile.addU64 a b = .error e) : e = .panicked "attempt to add with overflow" := by
  unfold addU64 at h
  split at h
  · cases h
    rfl
  · cases h

/-- A sum that does not fit panics where overflows are checked. -/
theorem BuildProfile.addU64_of_le {profile : BuildProfile} (hchecks : profile.overflowChecks = true)
    {a b : UInt64} (h : UInt64.size ≤ a.toNat + b.toNat) :
    profile.addU64 a b = .error (.panicked "attempt to add with overflow") := by
  rw [addU64, hchecks, decide_eq_true h]
  rfl

/-- A sum comes out, or it does not fit and overflows are checked. -/
theorem BuildProfile.addU64_cases (profile : BuildProfile) (a b : UInt64) :
    (∃ c, profile.addU64 a b = .ok c) ∨
      profile.overflowChecks = true ∧ UInt64.size ≤ a.toNat + b.toNat ∧
        profile.addU64 a b = .error (.panicked "attempt to add with overflow") := by
  by_cases hfit : a.toNat + b.toNat < UInt64.size
  · exact Or.inl ⟨_, profile.addU64_of_lt hfit⟩
  · rcases hchecks : profile.overflowChecks with _ | _
    · refine Or.inl ⟨a + b, ?_⟩
      rw [addU64, hchecks, Bool.false_and]
      rfl
    · have hle := Nat.not_lt.mp hfit
      exact Or.inr ⟨rfl, hle, addU64_of_le hchecks hle⟩

/-- What comes out where overflows are checked comes out of every build. -/
theorem BuildProfile.addU64_of_checked (profile : BuildProfile) {a b c : UInt64}
    (h : BuildProfile.addU64 ⟨true⟩ a b = .ok c) : profile.addU64 a b = .ok c := by
  rcases profile.addU64_cases a b with ⟨d, hd⟩ | ⟨hchecks, -, herror⟩
  · rw [hd, eq_add_of_addU64 hd, eq_add_of_addU64 h]
  · obtain ⟨checks⟩ := profile
    obtain rfl : checks = true := hchecks
    rw [h] at herror
    cases herror

/-- `a + b` on an unsigned type with `size` values, overflow checked. -/
def checkedAdd (size a b : ℕ) : Except Halt ℕ :=
  if a + b < size then .ok (a + b) else .error (.panicked "attempt to add with overflow")

/-- `a - b` on an unsigned type, overflow checked. -/
def checkedSub (a b : ℕ) : Except Halt ℕ :=
  if b ≤ a then .ok (a - b) else .error (.panicked "attempt to subtract with overflow")

/-- Is the pattern somewhere in the text? -/
def occursIn (pattern : List Char) : List Char → Bool
  | [] => pattern.isEmpty
  | c :: text => pattern.isPrefixOf (c :: text) || occursIn pattern text

/-- `text.contains(pattern)` on `str`. -/
def strContains (text pattern : String) : Bool := occursIn pattern.toList text.toList

theorem occursIn_iff (pattern text : List Char) :
    occursIn pattern text = true ↔ pattern <:+: text := by
  induction text with
  | nil => rw [occursIn, List.isEmpty_iff, List.infix_nil]
  | cons c text ih =>
    rw [occursIn, Bool.or_eq_true, ih, List.isPrefixOf_iff_prefix, List.infix_cons_iff]

theorem strContains_iff {text pattern : String} :
    strContains text pattern = true ↔ pattern.toList <:+: text.toList :=
  occursIn_iff _ _

end Rust
end MevShare
