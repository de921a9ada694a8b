import Mathlib.Data.List.Basic

/-!
# URIs and the texts that spell them

A URI is given in origin form, by a path and perhaps a query, or in absolute form, with
scheme and authority before them.  `Uri.SpelledBy` says which texts spell a URI: scheme and
authority in any case, the path as it is, or left out if it is only `/` after an authority,
the query, which may be left out if it is empty, and any fragment, which no URI has.

`Uri.eqStr` compares a URI with a text, part after part, and `Uri.eqStr_iff` says that it
finds out whether the text spells the URI.
-/

namespace MevShare
namespace Http

/-! ## URIs -/

structure Server where
  scheme : String
  authority : String
  /-- A scheme starts with a letter. -/
  scheme_letter : ∃ c cs, scheme.toList = c :: cs ∧ c.isAlpha = true
  deriving DecidableEq

structure Uri where
  /-- Scheme and authority, in absolute form. -/
  server : Option Server
  path : String
  query : Option String
  deriving DecidableEq

/-- The URI without a query, or with an empty one. -/
def Uri.Queryless (u : Uri) : Prop := u.query = none ∨ u.query = some ""

/-- The same URI in origin form. -/
def Uri.originForm (u : Uri) : Uri := { u with server := none }

/-- A text that may be the path of a URI: it starts with a slash, and no query or fragment
follows. -/
def BarePath (p : String) : Prop :=
  (∃ cs, p.toList = '/' :: cs) ∧ ∀ c ∈ p.toList, c ≠ '?' ∧ c ≠ '#'

/-! ## Texts -/

inductive Fragment : List Char → Prop where
  | none : Fragment []
  | some (cs : List Char) : Fragment ('#' :: cs)

/-- What may follow the path. -/
inductive Tail : Option String → List Char → Prop where
  | none {t : List Char} (ht : Fragment t) : Tail none t
  | query {q : String} {t : List Char} (ht : Fragment t) : Tail (some q) ('?' :: (q.toList ++ t))
  | empty : Tail (some "") []

/-- Scheme and authority, up to case. -/
def Server.SpelledBy (a : Server) (t : List Char) : Prop :=
  ∃ scheme authority, t = scheme ++ ("://".toList ++ authority) ∧
    scheme.map Char.toLower = a.scheme.toList.map Char.toLower ∧
    authority.map Char.toLower = a.authority.toList.map Char.toLower

inductive Uri.SpelledBy (u : Uri) : List Char → Prop where
  | origin {t : List Char} (hserver : u.server = none) (ht : Tail u.query t) :
      SpelledBy u (u.path.toList ++ t)
  | absolute {a : Server} {s t : List Char} (hserver : u.server = some a) (hs : a.SpelledBy s)
      (ht : Tail u.query t) : SpelledBy u (s ++ (u.path.toList ++ t))
  | root {a : Server} {s t : List Char} (hserver : u.server = some a) (hs : a.SpelledBy s)
      (hpath : u.path = "/") (ht : Tail u.query t) : SpelledBy u (s ++ t)

theorem Tail.head {query : Option String} {c : Char} {t : List Char} (h : Tail query (c :: t)) :
    c = '?' ∨ c = '#' := by
  cases h with
  | none ht =>
    cases ht
    exact Or.inr rfl
  | query ht => exact Or.inl rfl

/-- Nothing follows the path if there is no query. -/
theorem tail_nil_iff {query : Option String} :
    Tail query [] ↔ query = none ∨ query = some "" := by
  constructor
  · intro h
    cases h with
    | none ht => exact Or.inl rfl
    | empty => exact Or.inr rfl
  · rintro (rfl | rfl)
    · exact .none .none
    · exact .empty

/-- No capital letter is a slash in lower case. -/
theorem eq_slash_of_toLower {c : Char} (h : c.toLower = '/') : c = '/' := by
  unfold Char.toLower at h
  split at h
  · rename_i hupper
    have hnat := congrArg (fun c : Char => c.val.toNat) h
    simp only [UInt32.toNat_add, ge_iff_le, UInt32.le_iff_toNat_le] at hnat hupper
    have hA : ('A'.val).toNat = 65 := rfl
    have hZ : ('Z'.val).toNat = 90 := rfl
    have hslash : ('/'.val).toNat = 47 := rfl
    have hdiff : ('a'.val - 'A'.val).toNat = 32 := rfl
    omega
  · exact h

/-- A server is spelled with a letter first. -/
theorem Server.SpelledBy.head {a : Server} {t : List Char} (h : a.SpelledBy t) :
    ∃ c cs, t = c :: cs ∧ c ≠ '/' := by
  obtain ⟨scheme, authority, rfl, hscheme, -⟩ := h
  obtain ⟨c, cs, hcs, hletter⟩ := a.scheme_letter
  rw [hcs, List.map_cons, List.map_eq_cons_iff] at hscheme
  obtain ⟨c', cs', rfl, hc', -⟩ := hscheme
  refine ⟨c', _, rfl, ?_⟩
  rintro rfl
  have hslash : Char.toLower '/' = '/' := by decide
  rw [hslash] at hc'
  rw [eq_slash_of_toLower hc'.symm] at hletter
  revert hletter
  decide

theorem Server.SpelledBy.length {a : Server} {t : List Char} (h : a.SpelledBy t) :
    3 < t.length := by
  obtain ⟨c, cs, hcs, -⟩ := h.head
  obtain ⟨scheme, authority, rfl, hscheme, -⟩ := h
  obtain ⟨c', cs', hcs', -⟩ := a.scheme_letter
  have hlength := congrArg List.length hscheme
  rw [hcs', List.length_map, List.length_map, List.length_cons] at hlength
  rw [List.length_append, List.length_append]
  have hcolon : "://".toList.length = 3 := rfl
  omega

/-- **A path spells the URI that it belongs to** in origin form without a query only. -/
theorem Uri.spelledBy_path_iff (u : Uri) :
    u.SpelledBy u.path.toList ↔ u.server = none ∧ u.Queryless := by
  constructor
  · intro h
    generalize hpath : u.path.toList = s at h
    cases h with
    | origin hserver ht =>
      have hnil := List.append_cancel_left ((List.append_nil _).trans hpath)
      rw [← hnil] at ht
      exact ⟨hserver, tail_nil_iff.mp ht⟩
    | absolute hserver hs ht =>
      have hlength := congrArg List.length hpath
      have hs' := hs.length
      rw [List.length_append, List.length_append] at hlength
      omega
    | root hserver hs hroot ht =>
      have hlength := congrArg List.length hpath
      have hs' := hs.length
      have hone : u.path.toList.length = 1 := by
        rw [hroot]
        rfl
      rw [List.length_append] at hlength
      omega
  · rintro ⟨hserver, hquery⟩
    have hspelled := SpelledBy.origin hserver (tail_nil_iff.mpr hquery)
    rw [List.append_nil] at hspelled
    exact hspelled

/-- **A bare path** spells no URI of another path. -/
theorem Uri.not_spelledBy_of_bare {u : Uri} {p : String} (hp : BarePath p) (hne : u.path ≠ p) :
    ¬ u.SpelledBy p.toList := by
  obtain ⟨⟨cs, hcs⟩, hbare⟩ := hp
  intro h
  generalize hs : p.toList = s at h
  have habsolute : ∀ {a : Server} {s' t : List Char}, a.SpelledBy s' → p.toList ≠ s' ++ t := by
    intro a s' t hs' heq
    obtain ⟨c, cs', rfl, hc⟩ := hs'.head
    rw [hcs, List.cons_append, List.cons.injEq] at heq
    exact hc heq.1.symm
  cases h with
  | @origin t hserver ht =>
    cases t with
    | nil =>
      rw [List.append_nil] at hs
      exact hne (String.toList_injective hs.symm)
    | cons c t =>
      have hmem : c ∈ p.toList := by
        rw [hs]
        exact List.mem_append_right _ List.mem_cons_self
      rcases ht.head with rfl | rfl
      · exact (hbare '?' hmem).1 rfl
      · exact (hbare '#' hmem).2 rfl
  | absolute hserver hs' ht => exact habsolute hs' hs
  | root hserver hs' hroot ht => exact habsolute hs' hs

/-! ## Comparing a URI with a text -/

/-- What follows a beginning that agrees with `s` after `f`. -/
def strip (f : Char → Char) (s t : List Char) : Option (List Char) :=
  if (t.take s.length).map f = s.map f then some (t.drop s.length) else none

theorem strip_eq_some {f : Char → Char} {s t r : List Char} :
    strip f s t = some r ↔ ∃ s', t = s' ++ r ∧ s'.map f = s.map f := by
  constructor
  · intro h
    unfold strip at h
    split at h
    · rename_i heq
      exact ⟨_, Option.some.inj h ▸ (List.take_append_drop _ _).symm, heq⟩
    · cases h
  · rintro ⟨s', rfl, heq⟩
    have hlength : s'.length = s.length := by
      have hmap := congrArg List.length heq
      rw [List.length_map, List.length_map] at hmap
      exact hmap
    rw [strip, List.take_left' hlength, List.drop_left' hlength, if_pos heq]

theorem strip_id_eq_some {s t r : List Char} : strip id s t = some r ↔ t = s ++ r := by
  rw [strip_eq_some]
  simp only [List.map_id_fun, id_eq]
  constructor
  · rintro ⟨s', rfl, rfl⟩
    rfl
  · rintro rfl
    exact ⟨s, rfl, rfl⟩

def isFragment : List Char → Bool
  | [] => true
  | c :: _ => c == '#'

def isTail (query : Option String) (t : List Char) : Bool :=
  match query, t with
  | none, t => isFragment t
  | some q, [] => q == ""
  | some q, c :: t =>
      c == '?' &&
        match strip id q.toList t with
        | some t => isFragment t
        | none => false

def Server.strip (a : Server) (t : List Char) : Option (List Char) :=
  match Http.strip Char.toLower a.scheme.toList t with
  | none => none
  | some t =>
      match Http.strip id "://".toList t with
      | none => none
      | some t => Http.strip Char.toLower a.authority.toList t

/-- The comparison, from the scheme to the fragment. -/
def Uri.eqStr (u : Uri) (s : String) : Bool :=
  match u.server with
  | none =>
      match strip id u.path.toList s.toList with
      | some t => isTail u.query t
      | none => false
  | some a =>
      match a.strip s.toList with
      | none => false
      | some t =>
          match strip id u.path.toList t with
          | some t => isTail u.query t
          | none => u.path == "/" && isTail u.query t

theorem isFragment_iff {t : List Char} : isFragment t = true ↔ Fragment t := by
  constructor
  · intro h
    cases t with
    | nil => exact .none
    | cons c t =>
      rw [eq_of_beq h]
      exact .some t
  · intro h
    cases h with
    | none => rfl
    | some cs => rfl

theorem isTail_iff {query : Option String} {t : List Char} :
    isTail query t = true ↔ Tail query t := by
  cases query with
  | none =>
    rw [isTail, isFragment_iff]
    constructor
    · exact .none
    · rintro ⟨⟩
      assumption
  | some q =>
    cases t with
    | nil =>
      rw [isTail, tail_nil_iff, beq_iff_eq]
      simp
    | cons c t =>
      rw [isTail, Bool.and_eq_true, beq_iff_eq]
      constructor
      · rintro ⟨rfl, h⟩
        cases hstrip : strip id q.toList t with
        | none =>
          rw [hstrip] at h
          cases h
        | some r =>
          rw [hstrip] at h
          rw [strip_id_eq_some.mp hstrip]
          exact .query (isFragment_iff.mp h)
      · intro h
        cases h with
        | query ht =>
          rw [strip_id_eq_some.mpr rfl]
          exact ⟨rfl, isFragment_iff.mpr ht⟩

theorem Server.strip_eq_some {a : Server} {t r : List Char} :
    a.strip t = some r ↔ ∃ s, t = s ++ r ∧ a.SpelledBy s := by
  constructor
  · intro h
    unfold strip at h
    split at h
    · cases h
    · rename_i t₁ ht₁
      split at h
      · cases h
      · rename_i t₂ ht₂
        obtain ⟨scheme, rfl, hscheme⟩ := Http.strip_eq_some.mp ht₁
        obtain rfl := strip_id_eq_some.mp ht₂
        obtain ⟨authority, rfl, hauthority⟩ := Http.strip_eq_some.mp h
        refine ⟨scheme ++ ("://".toList ++ authority), ?_, scheme, authority, rfl, hscheme,
          hauthority⟩
        rw [List.append_assoc, List.append_assoc]
  · rintro ⟨_, rfl, scheme, authority, rfl, hscheme, hauthority⟩
    have h₁ : Http.strip Char.toLower a.scheme.toList
        (scheme ++ ("://".toList ++ authority) ++ r) = some ("://".toList ++ (authority ++ r)) :=
      Http.strip_eq_some.mpr ⟨scheme, by rw [List.append_assoc, List.append_assoc], hscheme⟩
    have h₂ : Http.strip id "://".toList ("://".toList ++ (authority ++ r)) =
        some (authority ++ r) := strip_id_eq_some.mpr rfl
    have h₃ : Http.strip Char.toLower a.authority.toList (authority ++ r) = some r :=
      Http.strip_eq_some.mpr ⟨authority, rfl, hauthority⟩
    rw [strip, h₁]
    simp only [h₂, h₃]

/-- **The comparison finds out whether the text spells the URI.** -/
theorem Uri.eqStr_iff {u : Uri} {s : String} : u.eqStr s = true ↔ u.SpelledBy s.toList := by
  generalize hs : s.toList = cs
  cases hserver : u.server with
  | none =>
    have heq : u.eqStr s = true ↔ ∃ t, cs = u.path.toList ++ t ∧ Tail u.query t := by
      simp only [eqStr, hserver, hs, ← strip_id_eq_some, ← isTail_iff]
      cases strip id u.path.toList cs with
      | none => simp
      | some t => simp
    rw [heq]
    constructor
    · rintro ⟨t, rfl, ht⟩
      exact .origin hserver ht
    · intro h
      cases h with
      | origin _ ht => exact ⟨_, rfl, ht⟩
      | absolute hsome => exact absurd (hserver.symm.trans hsome) (Option.some_ne_none _).symm
      | root hsome => exact absurd (hserver.symm.trans hsome) (Option.some_ne_none _).symm
  | some a =>
    have heqStr : ∀ s' t, cs = s' ++ t → a.SpelledBy s' → u.eqStr s =
        match strip id u.path.toList t with
        | some r => isTail u.query r
        | none => u.path == "/" && isTail u.query t := by
      intro s' t heq hs'
      simp only [eqStr, hserver, hs, Server.strip_eq_some.mpr ⟨s', heq, hs'⟩]
    constructor
    · intro h
      cases hstrip : a.strip cs with
      | none =>
        simp only [eqStr, hserver, hs, hstrip] at h
        cases h
      | some t =>
        obtain ⟨s', rfl, hs'⟩ := Server.strip_eq_some.mp hstrip
        rw [heqStr s' t rfl hs'] at h
        cases hpath : strip id u.path.toList t with
        | some r =>
          rw [hpath] at h
          rw [strip_id_eq_some.mp hpath]
          exact .absolute hserver hs' (isTail_iff.mp h)
        | none =>
          simp only [hpath, Bool.and_eq_true, beq_iff_eq] at h
          exact .root hserver hs' h.1 (isTail_iff.mp h.2)
    · intro h
      cases h with
      | origin hnone => exact absurd (hserver.symm.trans hnone) (Option.some_ne_none _)
      | absolute hsome hs' ht =>
        obtain rfl := Option.some.inj (hserver.symm.trans hsome)
        rw [heqStr _ _ rfl hs', strip_id_eq_some.mpr rfl]
        exact isTail_iff.mpr ht
      | @root a' s' t hsome hs' hroot ht =>
        obtain rfl := Option.some.inj (hserver.symm.trans hsome)
        rw [heqStr _ _ rfl hs']
        cases hpath : strip id u.path.toList t with
        | some r =>
          -- a tail does not start with the path `/`
          have hslash := strip_id_eq_some.mp hpath
          have hchars : u.path.toList = ['/'] := by
            rw [hroot]
            rfl
          rw [hchars, List.singleton_append] at hslash
          rw [hslash] at ht
          rcases ht.head with hc | hc
          · exact absurd hc (by decide)
          · exact absurd hc (by decide)
        | none =>
          simp only [hroot, beq_self_eq_true, Bool.true_and]
          exact isTail_iff.mpr ht

end Http
end MevShare
