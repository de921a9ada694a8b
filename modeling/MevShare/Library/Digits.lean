import Mathlib.Data.Nat.Digits.Lemmas

/-!
# Numbers as text

A number is written in a base of at most sixteen with the digits `0` to `9` and `a` to `f`,
the most significant first.  `text` has no leading zeros and `padded` has a given width;
`value` reads both, and capital digits too.  Bytes are written with two hexadecimal digits
each.
-/

namespace MevShare
namespace Digits

variable {base : ℕ}

/-- The value of a digit of a base. -/
def digitValue (base : ℕ) (c : Char) : Option ℕ :=
  let d :=
    if '0' ≤ c ∧ c ≤ '9' then c.toNat - '0'.toNat
    else if 'a' ≤ c ∧ c ≤ 'f' then c.toNat - 'a'.toNat + 10
    else if 'A' ≤ c ∧ c ≤ 'F' then c.toNat - 'A'.toNat + 10
    else base
  if d < base then some d else none

/-- The values of the digits, if all are digits of the base. -/
def digitValues (base : ℕ) : List Char → Option (List ℕ)
  | [] => some []
  | c :: cs =>
      match digitValue base c, digitValues base cs with
      | some d, some ds => some (d :: ds)
      | _, _ => none

/-- The number that a text stands for. -/
def value (base : ℕ) (cs : List Char) : Option ℕ :=
  if cs = [] then none
  else (digitValues base cs).map fun ds => Nat.ofDigits base ds.reverse

/-- A number without leading zeros. -/
def text (base n : ℕ) : List Char :=
  if n = 0 then ['0'] else (Nat.digits base n).reverse.map Nat.digitChar

/-- A number with zeros before it, up to a width. -/
def padded (base width n : ℕ) : List Char :=
  (Nat.digits base n ++ List.replicate (width - (Nat.digits base n).length) 0).reverse.map
    Nat.digitChar

/-! ## Reading what was written -/

theorem digitValue_digitChar (hbase : base ≤ 16) {d : ℕ} (hd : d < base) :
    digitValue base d.digitChar = some d := by
  have hall : ∀ b < 17, ∀ d < b, digitValue b d.digitChar = some d := by decide
  exact hall base (Nat.lt_succ_of_le hbase) d hd

theorem digitValues_map (hbase : base ≤ 16) {ds : List ℕ} (hds : ∀ d ∈ ds, d < base) :
    digitValues base (ds.map Nat.digitChar) = some ds := by
  induction ds with
  | nil => rfl
  | cons d ds ih =>
    rw [List.forall_mem_cons] at hds
    rw [List.map_cons, digitValues, digitValue_digitChar hbase hds.1, ih hds.2]

/-- A text of digits, the least significant given first. -/
theorem value_map (hbase : base ≤ 16) {ds : List ℕ} (hds : ∀ d ∈ ds, d < base) (hne : ds ≠ []) :
    value base (ds.reverse.map Nat.digitChar) = some (Nat.ofDigits base ds) := by
  have hreverse : ∀ d ∈ ds.reverse, d < base := fun d hd => hds d (List.mem_reverse.mp hd)
  have hmap : ds.reverse.map Nat.digitChar ≠ [] := by
    rw [Ne, List.map_eq_nil_iff, List.reverse_eq_nil_iff]
    exact hne
  rw [value, if_neg hmap, digitValues_map hbase hreverse, Option.map_some, List.reverse_reverse]

theorem value_text (hone : 1 < base) (hbase : base ≤ 16) (n : ℕ) :
    value base (text base n) = some n := by
  by_cases hn : n = 0
  · subst hn
    have hzero : value base (([0] : List ℕ).reverse.map Nat.digitChar) =
        some (Nat.ofDigits base [0]) :=
      value_map hbase (fun d hd => by rw [List.mem_singleton.mp hd]; omega) (List.cons_ne_nil 0 [])
    rw [Nat.ofDigits_singleton] at hzero
    exact hzero
  · have hne : Nat.digits base n ≠ [] := Nat.digits_ne_nil_iff_ne_zero.mpr hn
    rw [text, if_neg hn, value_map hbase (fun d hd => Nat.digits_lt_base hone hd) hne,
      Nat.ofDigits_digits]

/-- Zeros are digits too. -/
theorem lt_of_mem_padded (hone : 1 < base) {width n d : ℕ}
    (hd : d ∈ Nat.digits base n ++ List.replicate (width - (Nat.digits base n).length) 0) :
    d < base := by
  rcases List.mem_append.mp hd with hd | hd
  · exact Nat.digits_lt_base hone hd
  · rw [List.eq_of_mem_replicate hd]
    omega

theorem value_padded (hone : 1 < base) (hbase : base ≤ 16) {width : ℕ} (hwidth : 0 < width)
    (n : ℕ) : value base (padded base width n) = some n := by
  have hne : Nat.digits base n ++ List.replicate (width - (Nat.digits base n).length) 0 ≠ [] := by
    intro hnil
    obtain ⟨hdigits, hzeros⟩ := List.append_eq_nil_iff.mp hnil
    rw [hdigits, List.length_nil, Nat.sub_zero, List.replicate_eq_nil_iff] at hzeros
    omega
  rw [padded, value_map hbase (fun _ => lt_of_mem_padded hone) hne,
    Nat.ofDigits_append_replicate_zero, Nat.ofDigits_digits]

/-- Only digits of the base are written. -/
theorem exists_digit_of_mem_padded (hone : 1 < base) {width n : ℕ} {c : Char}
    (hc : c ∈ padded base width n) : ∃ d < base, c = d.digitChar := by
  obtain ⟨d, hd, rfl⟩ := List.mem_map.mp hc
  exact ⟨d, lt_of_mem_padded hone (List.mem_reverse.mp hd), rfl⟩

/-- A number that fits is written with as many digits as the width has. -/
theorem length_padded (hone : 1 < base) {width n : ℕ} (hn : n < base ^ width) :
    (padded base width n).length = width := by
  have hle : (Nat.digits base n).length ≤ width := (Nat.digits_length_le_iff hone n).mpr hn
  rw [padded, List.length_map, List.length_reverse, List.length_append, List.length_replicate]
  omega

/-! ## Bytes -/

/-- Two hexadecimal digits for each byte. -/
def hexBytes : List UInt8 → List Char
  | [] => []
  | b :: bs => (b.toNat / 16).digitChar :: (b.toNat % 16).digitChar :: hexBytes bs

def ofHexBytes : List Char → Option (List UInt8)
  | [] => some []
  | high :: low :: cs =>
      match digitValue 16 high, digitValue 16 low, ofHexBytes cs with
      | some h, some l, some bs => some (UInt8.ofNat (16 * h + l) :: bs)
      | _, _, _ => none
  | [_] => none

theorem ofHexBytes_hexBytes (bs : List UInt8) : ofHexBytes (hexBytes bs) = some bs := by
  induction bs with
  | nil => rfl
  | cons b bs ih =>
    have hb : b.toNat < 256 := b.toNat_lt_size
    have hhigh : digitValue 16 (b.toNat / 16).digitChar = some (b.toNat / 16) :=
      digitValue_digitChar (Nat.le_refl 16) (by omega)
    have hlow : digitValue 16 (b.toNat % 16).digitChar = some (b.toNat % 16) :=
      digitValue_digitChar (Nat.le_refl 16) (by omega)
    have hsum : 16 * (b.toNat / 16) + b.toNat % 16 = b.toNat := by omega
    rw [hexBytes, ofHexBytes, hhigh, hlow, ih]
    simp only [hsum, UInt8.ofNat_toNat]

end Digits
end MevShare
