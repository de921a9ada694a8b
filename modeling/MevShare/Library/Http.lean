import MevShare.Library.Digits

/-!
# HTTP requests

A request as a middleware sees it: the parts before the body, with the headers as a
multimap of names and values, and the body as a stream of chunks that may break off with an
error.  Names are kept in lower case, and values are bytes.

The last section is the grammar of media types.  What it is about is `Denotes`: which
values name a given media type, however they are spelled.
-/

namespace MevShare
namespace Http

variable {E X : Type}

/-! ## Headers -/

abbrev HeaderValue := List UInt8

/-- The bytes of a text in ASCII. -/
def ascii (s : String) : List UInt8 := s.toList.map fun c => UInt8.ofNat c.toNat

/-- A character that a header value may be made of. -/
def visible (c : Char) : Bool := (32 ≤ c.toNat && c.toNat < 127) || c = '\t'

/-- `HeaderValue::from_str`. -/
def HeaderValue.fromStr (s : String) : Option HeaderValue :=
  if s.toList.all visible then some (ascii s) else none

/-- The values of the headers, in order, each with its name. -/
structure HeaderMap where
  entries : List (String × HeaderValue)
  deriving DecidableEq, Repr

namespace HeaderMap

/-- The first value of a name. -/
def get (h : HeaderMap) (name : String) : Option HeaderValue := h.entries.lookup name

def containsKey (h : HeaderMap) (name : String) : Bool := (h.get name).isSome

/-- Every value of a name. -/
def getAll (h : HeaderMap) (name : String) : List HeaderValue :=
  (h.entries.filter fun e => e.1 == name).map Prod.snd

def insertEntry (name : String) (value : HeaderValue) :
    List (String × HeaderValue) → List (String × HeaderValue)
  | [] => [(name, value)]
  | e :: es =>
      if e.1 == name then (name, value) :: es.filter fun e => !(e.1 == name)
      else e :: insertEntry name value es

/-- The value takes the place of all that the name has had. -/
def insert (h : HeaderMap) (name : String) (value : HeaderValue) : HeaderMap :=
  ⟨insertEntry name value h.entries⟩

theorem containsKey_iff {h : HeaderMap} {name : String} :
    h.containsKey name = true ↔ ∃ value, (name, value) ∈ h.entries := by
  obtain ⟨entries⟩ := h
  simp only [containsKey, get]
  induction entries with
  | nil => simp
  | cons e entries ih =>
    obtain ⟨name', value'⟩ := e
    rw [List.lookup_cons]
    by_cases heq : name = name'
    · subst heq
      simp only [beq_self_eq_true, Option.isSome_some, true_iff]
      exact ⟨value', List.mem_cons_self⟩
    · simp only [beq_false_of_ne heq, ih, List.mem_cons, Prod.mk.injEq, heq, false_and, false_or]

theorem ne_of_not_containsKey {h : HeaderMap} {name : String}
    (habsent : h.containsKey name = false) : ∀ e ∈ h.entries, e.1 ≠ name := by
  rintro ⟨name', value⟩ he rfl
  have hcontains := containsKey_iff.mpr ⟨value, he⟩
  rw [habsent] at hcontains
  cases hcontains

theorem insertEntry_of_ne {name : String} (value : HeaderValue)
    {entries : List (String × HeaderValue)} (hne : ∀ e ∈ entries, e.1 ≠ name) :
    insertEntry name value entries = entries ++ [(name, value)] := by
  induction entries with
  | nil => rfl
  | cons e es ih =>
    rw [List.forall_mem_cons] at hne
    rw [insertEntry, if_neg fun heq => hne.1 (eq_of_beq heq), ih hne.2]
    rfl

/-- **A new name** comes last, and nothing else is touched. -/
theorem insert_of_not_containsKey {h : HeaderMap} {name : String} (value : HeaderValue)
    (habsent : h.containsKey name = false) :
    h.insert name value = ⟨h.entries ++ [(name, value)]⟩ := by
  rw [insert, insertEntry_of_ne value (ne_of_not_containsKey habsent)]

/-- A name that was new has one value. -/
theorem getAll_insert {h : HeaderMap} {name : String} (value : HeaderValue)
    (habsent : h.containsKey name = false) : (h.insert name value).getAll name = [value] := by
  have hnone : h.entries.filter (fun e => e.1 == name) = [] := by
    rw [List.filter_eq_nil_iff]
    intro e he heq
    exact ne_of_not_containsKey habsent e he (eq_of_beq heq)
  rw [insert_of_not_containsKey value habsent, getAll, List.filter_append, hnone,
    List.filter_cons, List.filter_nil, if_pos (beq_self_eq_true name)]
  rfl

end HeaderMap

/-! ## Bodies -/

/-- The chunks of a body, in order; reading one may fail. -/
structure Body (E : Type) where
  chunks : List (Except E (List UInt8))

/-- Reading a body to its end, or to its first failure. -/
def readChunks : List (Except E (List UInt8)) → Except E (List UInt8)
  | [] => .ok []
  | .error err :: _ => .error err
  | .ok chunk :: chunks =>
      match readChunks chunks with
      | .error err => .error err
      | .ok bytes => .ok (chunk ++ bytes)

/-- `hyper::body::to_bytes`. -/
def Body.toBytes (body : Body E) : Except E (List UInt8) := readChunks body.chunks

/-- A body of these bytes, which is one chunk if it is not empty. -/
def Body.ofBytes (bytes : List UInt8) : Body E := ⟨if bytes = [] then [] else [.ok bytes]⟩

theorem Body.toBytes_ofBytes (bytes : List UInt8) :
    (Body.ofBytes bytes : Body E).toBytes = .ok bytes := by
  by_cases hbytes : bytes = []
  · rw [ofBytes, if_pos hbytes, hbytes]
    rfl
  · rw [ofBytes, if_neg hbytes]
    simp only [toBytes, readChunks, List.append_nil]

/-! ## Requests -/

inductive Method where
  | options
  | get
  | post
  | put
  | delete
  | head
  | trace
  | connect
  | patch
  | extension (token : String)
  deriving DecidableEq, Repr

def Method.asStr : Method → String
  | .options => "OPTIONS"
  | .get => "GET"
  | .post => "POST"
  | .put => "PUT"
  | .delete => "DELETE"
  | .head => "HEAD"
  | .trace => "TRACE"
  | .connect => "CONNECT"
  | .patch => "PATCH"
  | .extension token => token

inductive Version where
  | http09
  | http10
  | http11
  | h2
  | h3
  deriving DecidableEq, Repr

/-- What comes before the body. -/
structure Parts (U X : Type) where
  method : Method
  uri : U
  version : Version
  headers : HeaderMap
  extensions : X

structure Request (U E X : Type) where
  parts : Parts U X
  body : Body E

/-! ## Media types -/

/-- Optional whitespace. -/
def Ows (s : List UInt8) : Prop := ∀ b ∈ s, b = 32 ∨ b = 9

def isDigit (b : UInt8) : Bool := 48 ≤ b && b ≤ 57

def isUpper (b : UInt8) : Bool := 65 ≤ b && b ≤ 90

def isLower (b : UInt8) : Bool := 97 ≤ b && b ≤ 122

/-- A character of a token: a digit, a letter, or one of fifteen others. -/
def tchar (b : UInt8) : Bool :=
  isDigit b || isUpper b || isLower b ||
    [33, 35, 36, 37, 38, 39, 42, 43, 45, 46, 94, 95, 96, 124, 126].contains b

def Token (s : List UInt8) : Prop := s ≠ [] ∧ ∀ b ∈ s, tchar b = true

/-- A character that may follow a backslash between quotes. -/
def quotable (b : UInt8) : Bool := b == 9 || (32 ≤ b && b ≠ 127)

/-- A character that stands for itself between quotes. -/
def qdtext (b : UInt8) : Bool := quotable b && b ≠ 34 && b ≠ 92

/-- What may stand between quotes. -/
inductive Quoted : List UInt8 → Prop where
  | nil : Quoted []
  | text {b : UInt8} {s : List UInt8} (hb : qdtext b = true) (hs : Quoted s) : Quoted (b :: s)
  | pair {b : UInt8} {s : List UInt8} (hb : quotable b = true) (hs : Quoted s) :
      Quoted (92 :: b :: s)

/-- `name=value`, with the value a token or between quotes. -/
inductive Parameter : List UInt8 → Prop where
  | token {name value : List UInt8} (hname : Token name) (hvalue : Token value) :
      Parameter (name ++ 61 :: value)
  | quoted {name value : List UInt8} (hname : Token name) (hvalue : Quoted value) :
      Parameter (name ++ 61 :: 34 :: (value ++ [34]))

/-- Any number of parameters, each after a semicolon, which may also stand alone. -/
inductive Parameters : List UInt8 → Prop where
  | nil : Parameters []
  | empty {w w' s : List UInt8} (hw : Ows w) (hw' : Ows w') (hs : Parameters s) :
      Parameters (w ++ 59 :: (w' ++ s))
  | cons {w w' p s : List UInt8} (hw : Ows w) (hw' : Ows w') (hp : Parameter p)
      (hs : Parameters s) : Parameters (w ++ 59 :: (w' ++ (p ++ s)))

def lower (b : UInt8) : UInt8 := if isUpper b then b + 32 else b

/-- **A spelling of a media type**, which is given in lower case: type and subtype in any
case, and any parameters. -/
def Denotes (mediaType : String) (value : HeaderValue) : Prop :=
  ∃ essence parameters, value = essence ++ parameters ∧
    essence.map lower = ascii mediaType ∧ Parameters parameters

/-- The plain spelling is one of them. -/
theorem denotes_ascii {mediaType : String}
    (hlower : (ascii mediaType).map lower = ascii mediaType) :
    Denotes mediaType (ascii mediaType) :=
  ⟨ascii mediaType, [], (List.append_nil _).symm, hlower, .nil⟩

/-- A parameter more is another spelling. -/
theorem denotes_parameter {mediaType : String} {p : List UInt8}
    (hlower : (ascii mediaType).map lower = ascii mediaType) (hp : Parameter p) :
    Denotes mediaType (ascii mediaType ++ ascii "; " ++ p) := by
  have hspace : Ows (ascii " ") := by
    intro b hb
    left
    exact List.mem_singleton.mp hb
  have hnil : Ows [] := fun _ hb => absurd hb List.not_mem_nil
  have hparameters : Parameters ([] ++ 59 :: (ascii " " ++ (p ++ []))) :=
    .cons hnil hspace hp .nil
  rw [List.nil_append, List.append_nil] at hparameters
  refine ⟨ascii mediaType, _, ?_, hlower, hparameters⟩
  rw [List.append_assoc]
  rfl

end Http
end MevShare
