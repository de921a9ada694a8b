import MevShare.Rpc.Codec

/-!
# The grammar of privacy hints

The six names of `PrivacyHint` are spelled out three times in
`mev-share-rpc-api/src/types.rs`: where the hints are counted, where they are written and
where they are read.  Here the names stand once, in the order they are written, and the
three places are compared with them.

What a list of names asks for is `named`: a flag is set exactly if its name is in the list.
The loop of the decoder adds to the flags it has what the list asks for
(`readHints_eq`), and gives up at the first name that is none of the six; the encoder
writes those of the six names that were asked for (`elements_named`), and the counter
counts what the encoder writes (`numHints_eq`).

`deserialize_strings` is the result, for any list of texts.
-/

namespace MevShare
namespace Rpc

open Serde

namespace PrivacyHint

/-- The names of the hints, in the order they are written. -/
def names : List String :=
  ["calldata", "contract_address", "logs", "function_selector", "hash", "tx_hash"]

/-- What a list of names asks for. -/
def named (l : List String) : PrivacyHint where
  calldata := decide ("calldata" ∈ l)
  contractAddress := decide ("contract_address" ∈ l)
  logs := decide ("logs" ∈ l)
  functionSelector := decide ("function_selector" ∈ l)
  hash := decide ("hash" ∈ l)
  txHash := decide ("tx_hash" ∈ l)

/-- The flags that one of the two has set. -/
def union (h h' : PrivacyHint) : PrivacyHint where
  calldata := h.calldata || h'.calldata
  contractAddress := h.contractAddress || h'.contractAddress
  logs := h.logs || h'.logs
  functionSelector := h.functionSelector || h'.functionSelector
  hash := h.hash || h'.hash
  txHash := h.txHash || h'.txHash

/-- The decoder on a sequence of texts. -/
def deserializeStrings (l : List String) : Except DeError PrivacyHint :=
  codec.deserialize (.array (l.map Json.string))

/-! ## Flags and names -/

theorem default_union (h : PrivacyHint) : default.union h = h := by
  simp only [union, default, Bool.false_or]

theorem union_nil (h : PrivacyHint) : h.union (named []) = h := by
  have hmem : ∀ name : String, decide (name ∈ []) = false :=
    fun _ => decide_eq_false List.not_mem_nil
  simp only [union, named, hmem, Bool.or_false]

theorem named_append (l l' : List String) : named (l ++ l') = (named l).union (named l') := by
  simp only [named, union, List.mem_append, Bool.decide_or]

theorem union_assoc (h₁ h₂ h₃ : PrivacyHint) :
    (h₁.union h₂).union h₃ = h₁.union (h₂.union h₃) := by
  simp only [union, Bool.or_assoc]

/-- Lists that hold the same names ask for the same. -/
theorem named_congr {l l' : List String} (h : ∀ name, name ∈ l ↔ name ∈ l') :
    named l = named l' := by
  simp only [named, h]

/-! ## The decoder -/

/-- **A turn of the loop** sets the flag of the name, if the name is one of the six. -/
theorem readHint_eq (h : PrivacyHint) (hint : String) :
    h.readHint hint =
      if hint ∈ names then .ok (h.union (named [hint]))
      else .error (.custom "invalid privacy hint") := by
  by_cases hmem : hint ∈ names
  · rw [if_pos hmem]
    simp only [names, List.mem_cons, List.not_mem_nil, or_false] at hmem
    rcases hmem with rfl | rfl | rfl | rfl | rfl | rfl <;>
      simp [readHint, union, named]
  · rw [if_neg hmem]
    simp only [names, List.mem_cons, List.not_mem_nil, or_false, not_or] at hmem
    obtain ⟨h₁, h₂, h₃, h₄, h₅, h₆⟩ := hmem
    simp only [readHint]

/-- **The loop** adds what the list asks for, and ends with the first name that is none of
the six. -/
theorem readHints_eq (h : PrivacyHint) (l : List String) :
    readHints h l =
      if ∀ hint ∈ l, hint ∈ names then .ok (h.union (named l))
      else .error (.custom "invalid privacy hint") := by
  induction l generalizing h with
  | nil =>
    rw [if_pos fun _ hmem => absurd hmem List.not_mem_nil, union_nil]
    rfl
  | cons hint l ih =>
    rw [readHints, readHint_eq]
    by_cases hhint : hint ∈ names
    · have hall : (∀ hint' ∈ hint :: l, hint' ∈ names) ↔ ∀ hint' ∈ l, hint' ∈ names := by
        rw [List.forall_mem_cons]
        exact and_iff_right hhint
      have hnamed : (h.union (named [hint])).union (named l) = h.union (named (hint :: l)) := by
        rw [union_assoc, ← named_append]
        rfl
      simp only [if_pos hhint, ih, hall, hnamed]
    · have hall : ¬ ∀ hint' ∈ hint :: l, hint' ∈ names :=
        fun hall => hhint (hall hint List.mem_cons_self)
      simp only [if_neg hhint, if_neg hall]

theorem deserializeStrings_eq (l : List String) :
    deserializeStrings l =
      if ∀ hint ∈ l, hint ∈ names then .ok (named l)
      else .error (.custom "invalid privacy hint") := by
  simp only [deserializeStrings, codec, Codec.vec, traverse_strings, readHints_eq, default_union]

theorem deserializeStrings_ok {l : List String} {h : PrivacyHint} :
    deserializeStrings l = .ok h ↔ (∀ hint ∈ l, hint ∈ names) ∧ h = named l := by
  rw [deserializeStrings_eq]
  by_cases hall : ∀ hint ∈ l, hint ∈ names
  · rw [if_pos hall, Except.ok.injEq, eq_comm]
    exact (and_iff_right hall).symm
  · rw [if_neg hall]
    exact iff_of_false (fun heq => by cases heq) fun hok => hall hok.1

/-! ## The encoder -/

theorem names_nodup : names.Nodup := by decide

/-- **The names that are written** are those of the six that were asked for, in their
order. -/
theorem elements_named (l : List String) :
    (named l).elements = names.filter fun name => decide (name ∈ l) := by
  have hone : ∀ name : String, [name].filter (fun name => decide (name ∈ l)) =
      if decide (name ∈ l) then [name] else [] := by
    intro name
    rw [List.filter_cons, List.filter_nil]
  have hnames : names = ["calldata"] ++ ["contract_address"] ++ ["logs"] ++
      ["function_selector"] ++ ["hash"] ++ ["tx_hash"] := rfl
  rw [hnames]
  simp only [List.filter_append, hone]
  rfl

/-- **The counter** counts what is written. -/
theorem numHints_eq (h : PrivacyHint) : h.numHints = h.elements.length := by
  have hlength : ∀ (b : Bool) (name : String), (if b then [name] else []).length = b.toNat := by
    intro b name
    cases b with
    | false => rfl
    | true => rfl
  simp only [numHints, elements, List.length_append, hlength]

/-- **The parser of privacy hints.**  A list of texts is deserialized exactly if each is one
of the six names, wherever the others stand, and the flags that are set are then those
whose names occur; so the result of a concatenation is the union of the results, and
neither order nor repetition matters.  What is written for the result is each name that
occurs, once, in the fixed order, and the length hint is the number of the elements. -/
theorem deserialize_strings (l : List String) :
    ((∃ h, deserializeStrings l = .ok h) ↔ ∀ hint ∈ l, hint ∈ names) ∧
      (∀ pre hint post, l = pre ++ hint :: post → hint ∉ names →
        deserializeStrings l = .error (.custom "invalid privacy hint")) ∧
      (∀ h, deserializeStrings l = .ok h →
        ((h.calldata = true ↔ "calldata" ∈ l) ∧
          (h.contractAddress = true ↔ "contract_address" ∈ l) ∧
          (h.logs = true ↔ "logs" ∈ l) ∧
          (h.functionSelector = true ↔ "function_selector" ∈ l) ∧
          (h.hash = true ↔ "hash" ∈ l) ∧
          (h.txHash = true ↔ "tx_hash" ∈ l)) ∧
        codec.serialize h = serializeSeq (some h.numHints) h.elements ∧
        h.elements = (names.filter fun name => decide (name ∈ l)) ∧
        h.elements.Nodup ∧
        h.numHints = h.elements.length) ∧
      (∀ l', (∀ name, name ∈ l ↔ name ∈ l') → deserializeStrings l = deserializeStrings l') ∧
      ∀ l' h, deserializeStrings (l ++ l') = .ok h ↔
        ∃ h₁ h₂, deserializeStrings l = .ok h₁ ∧ deserializeStrings l' = .ok h₂ ∧
          h = h₁.union h₂ := by
  refine ⟨⟨?_, ?_⟩, ?_, ?_, ?_, ?_⟩
  · rintro ⟨h, hok⟩
    exact (deserializeStrings_ok.mp hok).1
  · intro hall
    exact ⟨named l, deserializeStrings_ok.mpr ⟨hall, rfl⟩⟩
  · intro pre hint post hl hnot
    have hmem : hint ∈ l := hl ▸ List.mem_append_right _ List.mem_cons_self
    rw [deserializeStrings_eq, if_neg fun hall => hnot (hall hint hmem)]
  · intro h hok
    obtain ⟨-, rfl⟩ := deserializeStrings_ok.mp hok
    have hflags : ∀ name, decide (name ∈ l) = true ↔ name ∈ l := fun _ => decide_eq_true_iff
    refine ⟨⟨hflags _, hflags _, hflags _, hflags _, hflags _, hflags _⟩, rfl,
      elements_named l, ?_, numHints_eq _⟩
    rw [elements_named]
    exact names_nodup.filter _
  · intro l' hsame
    have hall : (∀ hint ∈ l, hint ∈ names) ↔ ∀ hint ∈ l', hint ∈ names := by
      simp only [hsame]
    simp only [deserializeStrings_eq, hall, named_congr hsame]
  · intro l' h
    simp only [deserializeStrings_ok, List.forall_mem_append, named_append]
    constructor
    · rintro ⟨⟨hl, hl'⟩, rfl⟩
      exact ⟨_, _, ⟨hl, rfl⟩, ⟨hl', rfl⟩, rfl⟩
    · rintro ⟨_, _, ⟨hl, rfl⟩, ⟨hl', rfl⟩, rfl⟩
      exact ⟨⟨hl, hl'⟩, rfl⟩

end PrivacyHint

end Rpc
end MevShare
