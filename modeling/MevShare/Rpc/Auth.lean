import MevShare.Library.Http
import MevShare.Library.Rust
import MevShare.Rpc.Types

/-!
# The signing middleware

`FlashbotsSigner` of `mev-share-rpc-api/src/auth.rs`: a service that signs the body of a
request and hands the request on, with the signature in a header.  A request that is not a
`POST` is refused; one that is not JSON, or has the header already, is handed on as it is.

The hash is the parameter `keccak256`.  A signer is what the middleware uses of one, the
texts that its address and its signatures are printed as.  The inner service is a function
from the request that it is called with to its answer, and the requests that it has been
called with are part of what comes of a call.

`FlashbotsSigner.call_spec` says what every call does, along all of its exits.
`FlashbotsSigner.signsOrFails_iff` is about requests that carry JSON under another
spelling of its media type: they are handed on without a signature.
-/

namespace MevShare
namespace Rpc

open Http
open Rust

variable {U E X S I R : Type}

/-! ## The middleware -/

structure Signer (S : Type) where
  /-- The address, as it is printed. -/
  address : String
  /-- The signature of a text, as it is printed. -/
  signMessage : String → Except S String

/-- What a signer prints can be sent in a header. -/
def Signer.Printable (signer : Signer S) : Prop :=
  signer.address.toList.all visible = true ∧
    ∀ message signature, signer.signMessage message = .ok signature →
      signature.toList.all visible = true

/-- `Box<dyn Error>`, with what is put into it. -/
inductive AuthError (E S I : Type) where
  | message (text : String)
  | body (err : E)
  | signer (err : S)
  | inner (err : I)
  deriving DecidableEq, Repr

/-- The inner service has been called with these requests, in order. -/
structure Answer (U E X S I R : Type) where
  calls : List (Request U E X)
  result : Except (AuthError E S I) R

/-- `x-flashbots-signature`. -/
def flashbotsHeader : String := "x-flashbots-signature"

/-- `http::header::CONTENT_TYPE`. -/
def contentType : String := "content-type"

/-- `{:x}` of a hash. -/
def lowerHex (h : H256) : String := String.ofList (Digits.padded 16 64 h.toNat)

def isJson (headers : HeaderMap) : Bool :=
  match headers.get contentType with
  | some v => v == ascii "application/json"
  | none => false

structure FlashbotsSigner (U E X S I R : Type) where
  signer : Signer S
  inner : Request U E X → Except I R

namespace FlashbotsSigner

/-- `inner.call(request).await.map_err(Into::into)`. -/
def callInner (self : FlashbotsSigner U E X S I R) (request : Request U E X) :
    Answer U E X S I R where
  calls := [request]
  result := (self.inner request).mapError .inner

def call (keccak256 : List UInt8 → H256) (self : FlashbotsSigner U E X S I R)
    (request : Request U E X) : Except Halt (Answer U E X S I R) :=
  let parts := request.parts
  if parts.method ≠ .post then
    .ok ⟨[], .error (.message ("Invalid method: " ++ parts.method.asStr))⟩
  else if !isJson parts.headers || parts.headers.containsKey flashbotsHeader then
    .ok (self.callInner request)
  else
    match request.body.toBytes with
    | .error err => .ok ⟨[], .error (.body err)⟩
    | .ok bytes =>
        match self.signer.signMessage ("0x" ++ lowerHex (keccak256 bytes)) with
        | .error err => .ok ⟨[], .error (.signer err)⟩
        | .ok signature =>
            match HeaderValue.fromStr (self.signer.address ++ ":0x" ++ signature) with
            | none => .error (.panicked "Header contains invalid characters: InvalidHeaderValue")
            | some headerVal =>
                let headers := parts.headers.insert flashbotsHeader headerVal
                .ok (self.callInner ⟨{ parts with headers := headers }, Body.ofBytes bytes⟩)

/-! ## What a call does -/

/-- The text is the hash in 64 hexadecimal digits, in lower case. -/
def IsHex (h : H256) (text : String) : Prop :=
  text.toList.length = 64 ∧ (∀ c ∈ text.toList, c ∈ "0123456789abcdef".toList) ∧
    Digits.value 16 text.toList = some h.toNat

theorem isHex_lowerHex (h : H256) : IsHex h (lowerHex h) := by
  have hlt : h.toNat < 16 ^ 64 := h.isLt
  have htext : (lowerHex h).toList = Digits.padded 16 64 h.toNat := String.toList_ofList
  rw [IsHex, htext]
  refine ⟨Digits.length_padded (by decide) hlt, fun c hc => ?_,
    Digits.value_padded (by decide) (Nat.le_refl 16) (by decide) h.toNat⟩
  obtain ⟨d, hd, rfl⟩ := Digits.exists_digit_of_mem_padded (by decide) hc
  have hdigits : ∀ d < 16, d.digitChar ∈ "0123456789abcdef".toList := by decide
  exact hdigits d hd

/-- What is handed on of a request that was signed: the same request, with one header
more. -/
structure SignedCopy (request forwarded : Request U E X) (bytes : List UInt8) (value : String) :
    Prop where
  method : forwarded.parts.method = request.parts.method
  uri : forwarded.parts.uri = request.parts.uri
  version : forwarded.parts.version = request.parts.version
  extensions : forwarded.parts.extensions = request.parts.extensions
  headers : forwarded.parts.headers.entries =
    request.parts.headers.entries ++ [(flashbotsHeader, ascii value)]
  signature : forwarded.parts.headers.getAll flashbotsHeader = [ascii value]
  body : forwarded.body.toBytes = .ok bytes

/-- The middleware signs this request. -/
def Signs (request : Request U E X) : Prop :=
  request.parts.headers.get contentType = some (ascii "application/json") ∧
    request.parts.headers.containsKey flashbotsHeader = false

/-- What a call is to do. -/
structure CallSpec (keccak256 : List UInt8 → H256) (m : FlashbotsSigner U E X S I R)
    (request : Request U E X) (answer : Answer U E X S I R) : Prop where
  once : answer.calls.length ≤ 1
  /-- The answer of the inner service is the result. -/
  answered : ∀ forwarded ∈ answer.calls,
    answer.result = (m.inner forwarded).mapError .inner
  refused : request.parts.method ≠ .post →
    answer.calls = [] ∧
      answer.result = .error (.message ("Invalid method: " ++ request.parts.method.asStr))
  passed : request.parts.method = .post → ¬ Signs request → answer.calls = [request]
  unread : request.parts.method = .post → Signs request →
    ∀ err, request.body.toBytes = .error err →
      answer.calls = [] ∧ answer.result = .error (.body err)
  signed : request.parts.method = .post → Signs request →
    ∀ bytes, request.body.toBytes = .ok bytes →
      ∃ digits, IsHex (keccak256 bytes) digits ∧
        (∀ err, m.signer.signMessage ("0x" ++ digits) = .error err →
          answer.calls = [] ∧ answer.result = .error (.signer err)) ∧
        ∀ signature, m.signer.signMessage ("0x" ++ digits) = .ok signature →
          ∃ forwarded, answer.calls = [forwarded] ∧
            SignedCopy request forwarded bytes (m.signer.address ++ ":0x" ++ signature)

variable {keccak256 : List UInt8 → H256} {self : FlashbotsSigner U E X S I R}
  {request : Request U E X}

theorem isJson_iff {headers : HeaderMap} :
    isJson headers = true ↔ headers.get contentType = some (ascii "application/json") := by
  unfold isJson
  cases headers.get contentType with
  | none => simp
  | some v => simp

/-- The test of the middleware. -/
theorem passes_iff : (!isJson request.parts.headers ||
    request.parts.headers.containsKey flashbotsHeader) = true ↔ ¬ Signs request := by
  rw [Bool.or_eq_true, Bool.not_eq_true', ← Bool.not_eq_true, isJson_iff, Signs, not_and_or,
    Bool.not_eq_false]

/-- What a signer prints makes a header. -/
theorem fromStr_header (hprintable : self.signer.Printable) {message signature : String}
    (hsignature : self.signer.signMessage message = .ok signature) :
    HeaderValue.fromStr (self.signer.address ++ ":0x" ++ signature) =
      some (ascii (self.signer.address ++ ":0x" ++ signature)) := by
  have hvisible : (self.signer.address ++ ":0x" ++ signature).toList.all visible = true := by
    have hcolon : ":0x".toList.all visible = true := by decide
    rw [String.toList_append, String.toList_append, List.all_append, List.all_append,
      hprintable.1, hcolon, hprintable.2 message signature hsignature]
    rfl
  exact if_pos hvisible

/-- The request that is handed on. -/
def signedRequest (self : FlashbotsSigner U E X S I R) (request : Request U E X)
    (bytes : List UInt8) (signature : String) : Request U E X :=
  ⟨{ request.parts with
      headers := request.parts.headers.insert flashbotsHeader
        (ascii (self.signer.address ++ ":0x" ++ signature)) }, Body.ofBytes bytes⟩

theorem signedRequest_signedCopy (hsigns : Signs request) (bytes : List UInt8)
    (signature : String) :
    SignedCopy request (self.signedRequest request bytes signature) bytes
      (self.signer.address ++ ":0x" ++ signature) where
  method := rfl
  uri := rfl
  version := rfl
  extensions := rfl
  headers := congrArg HeaderMap.entries (HeaderMap.insert_of_not_containsKey _ hsigns.2)
  signature := HeaderMap.getAll_insert _ hsigns.2
  body := Body.toBytes_ofBytes bytes

/-! ### The exits of a call -/

theorem call_of_not_post (hpost : request.parts.method ≠ .post) :
    self.call keccak256 request =
      .ok ⟨[], .error (.message ("Invalid method: " ++ request.parts.method.asStr))⟩ :=
  if_pos hpost

theorem call_of_not_signs (hpost : request.parts.method = .post) (hsigns : ¬ Signs request) :
    self.call keccak256 request = .ok (self.callInner request) := by
  unfold call
  rw [if_neg (not_not_intro hpost), if_pos (passes_iff.mpr hsigns)]

theorem call_of_unread (hpost : request.parts.method = .post) (hsigns : Signs request) {err : E}
    (hbody : request.body.toBytes = .error err) :
    self.call keccak256 request = .ok ⟨[], .error (.body err)⟩ := by
  unfold call
  rw [if_neg (not_not_intro hpost), if_neg fun hpasses => passes_iff.mp hpasses hsigns, hbody]

theorem call_of_unsigned (hpost : request.parts.method = .post) (hsigns : Signs request)
    {bytes : List UInt8} (hbody : request.body.toBytes = .ok bytes) {err : S}
    (hsignature : self.signer.signMessage ("0x" ++ lowerHex (keccak256 bytes)) = .error err) :
    self.call keccak256 request = .ok ⟨[], .error (.signer err)⟩ := by
  unfold call
  rw [if_neg (not_not_intro hpost), if_neg fun hpasses => passes_iff.mp hpasses hsigns, hbody]
  simp only [hsignature]

theorem call_of_signed (hprintable : self.signer.Printable)
    (hpost : request.parts.method = .post) (hsigns : Signs request) {bytes : List UInt8}
    (hbody : request.body.toBytes = .ok bytes) {signature : String}
    (hsignature : self.signer.signMessage ("0x" ++ lowerHex (keccak256 bytes)) = .ok signature) :
    self.call keccak256 request =
      .ok (self.callInner (self.signedRequest request bytes signature)) := by
  unfold call
  rw [if_neg (not_not_intro hpost), if_neg fun hpasses => passes_iff.mp hpasses hsigns, hbody]
  simp only [hsignature, fromStr_header hprintable hsignature]
  rfl

/-- A call that does not reach the inner service. -/
theorem callSpec_of_no_calls {answer : Answer U E X S I R} (hcalls : answer.calls = [])
    (hrefused : request.parts.method ≠ .post →
      answer.result = .error (.message ("Invalid method: " ++ request.parts.method.asStr)))
    (hsigns : request.parts.method = .post → Signs request)
    (hunread : request.parts.method = .post → ∀ err, request.body.toBytes = .error err →
      answer.result = .error (.body err))
    (hunsigned : request.parts.method = .post → ∀ bytes, request.body.toBytes = .ok bytes →
      ∃ err, self.signer.signMessage ("0x" ++ lowerHex (keccak256 bytes)) = .error err ∧
        answer.result = .error (.signer err)) :
    CallSpec keccak256 self request answer where
  once := by
    rw [hcalls]
    exact Nat.zero_le 1
  answered forwarded hmem := by
    rw [hcalls] at hmem
    exact absurd hmem List.not_mem_nil
  refused hpost := ⟨hcalls, hrefused hpost⟩
  passed hpost hnot := absurd (hsigns hpost) hnot
  unread hpost _ err herr := ⟨hcalls, hunread hpost err herr⟩
  signed hpost _ bytes hbytes := by
    obtain ⟨err, herr, hresult⟩ := hunsigned hpost bytes hbytes
    refine ⟨lowerHex (keccak256 bytes), isHex_lowerHex _, fun err' herr' => ?_,
      fun signature hsignature => ?_⟩
    · rw [herr, Except.error.injEq] at herr'
      exact ⟨hcalls, herr' ▸ hresult⟩
    · rw [herr] at hsignature
      cases hsignature

/-- **A call of the middleware** ends along one of its exits, and does there what it is to
do.  It never panics. -/
theorem call_spec (keccak256 : List UInt8 → H256) (self : FlashbotsSigner U E X S I R)
    (hprintable : self.signer.Printable) (request : Request U E X) :
    ∃ answer, self.call keccak256 request = .ok answer ∧
      CallSpec keccak256 self request answer := by
  by_cases hpost : request.parts.method = .post
  · by_cases hsigns : Signs request
    · cases hbody : request.body.toBytes with
      | error err =>
        refine ⟨_, call_of_unread hpost hsigns hbody, callSpec_of_no_calls rfl
          (fun hnot => absurd hpost hnot) (fun _ => hsigns) (fun _ err' herr' => ?_)
          fun _ bytes hbytes => ?_⟩
        · rw [hbody, Except.error.injEq] at herr'
          rw [herr']
        · rw [hbody] at hbytes
          cases hbytes
      | ok bytes =>
        cases hsignature : self.signer.signMessage ("0x" ++ lowerHex (keccak256 bytes)) with
        | error err =>
          refine ⟨_, call_of_unsigned hpost hsigns hbody hsignature, callSpec_of_no_calls rfl
            (fun hnot => absurd hpost hnot) (fun _ => hsigns) (fun _ err' herr' => ?_)
            fun _ bytes' hbytes => ?_⟩
          · rw [hbody] at herr'
            cases herr'
          · rw [hbody, Except.ok.injEq] at hbytes
            exact ⟨err, hbytes ▸ hsignature, rfl⟩
        | ok signature =>
          refine ⟨_, call_of_signed hprintable hpost hsigns hbody hsignature, ?_⟩
          exact
            { once := Nat.le_refl 1
              answered := fun forwarded hmem => by
                rw [List.mem_singleton.mp hmem]
                rfl
              refused := fun hnot => absurd hpost hnot
              passed := fun _ hnot => absurd hsigns hnot
              unread := fun _ _ err herr => by
                rw [hbody] at herr
                cases herr
              signed := fun _ _ bytes' hbytes => by
                rw [hbody, Except.ok.injEq] at hbytes
                subst hbytes
                refine ⟨lowerHex (keccak256 bytes), isHex_lowerHex _, fun err herr => ?_,
                  fun signature' hsignature' => ?_⟩
                · rw [hsignature] at herr
                  cases herr
                · rw [hsignature, Except.ok.injEq] at hsignature'
                  subst hsignature'
                  exact ⟨_, rfl, signedRequest_signedCopy hsigns bytes signature⟩ }
    · refine ⟨_, call_of_not_signs hpost hsigns, ?_⟩
      exact
        { once := Nat.le_refl 1
          answered := fun forwarded hmem => by
            rw [List.mem_singleton.mp hmem]
            rfl
          refused := fun hnot => absurd hpost hnot
          passed := fun _ _ => rfl
          unread := fun _ hyes => absurd hyes hsigns
          signed := fun _ hyes => absurd hyes hsigns }
  · refine ⟨_, call_of_not_post hpost, callSpec_of_no_calls rfl (fun _ => rfl)
      (fun hyes => absurd hyes hpost) (fun hyes => absurd hyes hpost)
      fun hyes => absurd hyes hpost⟩

/-! ### An example

A signer with an address and a signature of the usual form, and the hash of an empty
body. -/

def exampleSignature : String := String.ofList (List.replicate 130 '1')

def exampleSigner : FlashbotsSigner String Unit Unit Unit Unit Unit where
  signer :=
    { address := "0x0000000000000000000000000000000000000001"
      signMessage := fun _ => .ok exampleSignature }
  inner _ := .ok ()

/-- The hash of an empty body. -/
def hashEmpty (_ : List UInt8) : H256 :=
  0xc5d2460186f7233c927e7db2dcc703c0e500b653ca82273b7bfad8045d85a470

/-- An empty `POST` with this `Content-Type`. -/
def emptyPost (value : HeaderValue) : Request String Unit Unit where
  parts :=
    { method := .post
      uri := "/"
      version := .http11
      headers := ⟨[("content-type", value)]⟩
      extensions := () }
  body := ⟨[]⟩

theorem ones_visible (n : ℕ) :
    (String.ofList (List.replicate n '1')).toList.all visible = true := by
  rw [String.toList_ofList, List.all_replicate]
  by_cases hn : n = 0
  · rw [if_pos hn]
  · rw [if_neg hn]
    decide

theorem exampleSigner_printable : exampleSigner.signer.Printable := by
  refine ⟨by decide, fun message signature hsignature => ?_⟩
  have heq : exampleSignature = signature := Except.ok.inj hsignature
  rw [← heq]
  exact ones_visible 130

/-- A `POST` whose body comes in two chunks. -/
def chunkedPost : Request String Unit Unit :=
  { emptyPost (ascii "application/json") with
    body := ⟨[.ok (ascii "\x7b\"id\""), .ok (ascii ":1\x7d")]⟩ }

/-- The hash of the body of `chunkedPost`. -/
def hashChunked (_ : List UInt8) : H256 :=
  0x52fc81542b61890a9f6cb7cc5b19f835a23f6ce7c39de3e9dd3be1521389a680

theorem call_spec_chunkedPost :
    ∃ answer, exampleSigner.call hashChunked chunkedPost = .ok answer ∧
      CallSpec hashChunked exampleSigner chunkedPost answer :=
  call_spec hashChunked exampleSigner exampleSigner_printable chunkedPost

/-! ## JSON under another spelling -/

/-- The request is handed on with a signature, or it fails and is not handed on. -/
def SignsOrFails (keccak256 : List UInt8 → H256) (self : FlashbotsSigner U E X S I R)
    (request : Request U E X) : Prop :=
  ∃ answer, self.call keccak256 request = .ok answer ∧
    ((∃ forwarded, answer.calls = [forwarded] ∧
        forwarded.parts.headers.containsKey flashbotsHeader = true) ∨
      (answer.calls = [] ∧ ∃ err, answer.result = .error err))

/-- **A request that carries JSON**, and no signature, is signed, or fails, exactly if its
`Content-Type` is the plain spelling.  Under any other it is handed on without a
signature. -/
theorem signsOrFails_iff (keccak256 : List UInt8 → H256) (self : FlashbotsSigner U E X S I R)
    (hprintable : self.signer.Printable) (request : Request U E X)
    (hpost : request.parts.method = .post)
    (habsent : request.parts.headers.containsKey flashbotsHeader = false) :
    (∀ value, request.parts.headers.get contentType = some value →
        Denotes "application/json" value → SignsOrFails keccak256 self request) ↔
      ∀ value, request.parts.headers.get contentType = some value →
        Denotes "application/json" value → value = ascii "application/json" := by
  refine forall_congr' fun value => forall_congr' fun hvalue => forall_congr' fun _ => ?_
  have hsigns : Signs request ↔ value = ascii "application/json" := by
    rw [Signs, hvalue, Option.some.injEq]
    exact and_iff_left habsent
  by_cases hplain : value = ascii "application/json"
  · refine iff_of_true ?_ hplain
    cases hbody : request.body.toBytes with
    | error err =>
      exact ⟨_, call_of_unread hpost (hsigns.mpr hplain) hbody, Or.inr ⟨rfl, _, rfl⟩⟩
    | ok bytes =>
      cases hsignature : self.signer.signMessage ("0x" ++ lowerHex (keccak256 bytes)) with
      | error err =>
        exact ⟨_, call_of_unsigned hpost (hsigns.mpr hplain) hbody hsignature,
          Or.inr ⟨rfl, _, rfl⟩⟩
      | ok signature =>
        have hcopy : SignedCopy request (self.signedRequest request bytes signature) bytes
            (self.signer.address ++ ":0x" ++ signature) :=
          signedRequest_signedCopy (hsigns.mpr hplain) bytes signature
        refine ⟨_, call_of_signed hprintable hpost (hsigns.mpr hplain) hbody hsignature,
          Or.inl ⟨_, rfl, HeaderMap.containsKey_iff.mpr
            ⟨ascii (self.signer.address ++ ":0x" ++ signature), ?_⟩⟩⟩
        rw [hcopy.headers]
        exact List.mem_append_right _ List.mem_cons_self
  · refine iff_of_false ?_ hplain
    rintro ⟨answer, hcall, hanswer⟩
    rw [call_of_not_signs hpost (fun h => hplain (hsigns.mp h)), Except.ok.injEq] at hcall
    subst hcall
    rcases hanswer with ⟨forwarded, hcalls, hcontains⟩ | ⟨hcalls, -⟩
    · cases hcalls
      rw [habsent] at hcontains
      cases hcontains
    · cases hcalls

/-- `charset=utf-8` is a parameter. -/
theorem parameter_charset : Parameter (ascii "charset=utf-8") := by
  have hname : (ascii "charset").all tchar = true := by decide
  have hvalue : (ascii "utf-8").all tchar = true := by decide
  exact Parameter.token ⟨by decide, List.all_eq_true.mp hname⟩
    ⟨by decide, List.all_eq_true.mp hvalue⟩

theorem denotes_charset : Denotes "application/json" (ascii "application/json; charset=utf-8") :=
  denotes_parameter (by decide) parameter_charset

theorem signsOrFails_iff_emptyPost :
    SignsOrFails hashEmpty exampleSigner (emptyPost (ascii "application/json")) := by
  have hplain := signsOrFails_iff hashEmpty exampleSigner exampleSigner_printable
    (emptyPost (ascii "application/json")) rfl rfl
  refine hplain.mpr (fun value hvalue _ => ?_) (ascii "application/json") rfl
    (denotes_ascii (by decide))
  exact (Option.some.inj hvalue).symm

/-- JSON with its character set named is handed on as it is. -/
theorem charset_not_signed :
    exampleSigner.call hashEmpty (emptyPost (ascii "application/json; charset=utf-8")) =
        .ok (exampleSigner.callInner
          (emptyPost (ascii "application/json; charset=utf-8"))) ∧
      ¬ ∀ (request : Request String Unit Unit) (value : HeaderValue),
        request.parts.method = .post →
        request.parts.headers.containsKey flashbotsHeader = false →
        request.parts.headers.get contentType = some value →
        Denotes "application/json" value → SignsOrFails hashEmpty exampleSigner request := by
  have hnot : ¬ Signs (emptyPost (ascii "application/json; charset=utf-8")) := by
    rintro ⟨hvalue, -⟩
    revert hvalue
    decide
  refine ⟨call_of_not_signs rfl hnot, fun h => ?_⟩
  obtain ⟨answer, hcall, hanswer⟩ := h (emptyPost (ascii "application/json; charset=utf-8"))
    (ascii "application/json; charset=utf-8") rfl rfl rfl denotes_charset
  rw [call_of_not_signs rfl hnot, Except.ok.injEq] at hcall
  subst hcall
  rcases hanswer with ⟨forwarded, hcalls, hcontains⟩ | ⟨hcalls, -⟩
  · cases hcalls
    revert hcontains
    decide
  · cases hcalls

end FlashbotsSigner

end Rpc
end MevShare
