import MevShare.Library.Http
import MevShare.Library.Uri

/-!
# The proxy of the broadcast service

`SseBroadcastProxyService` of `mev-share-sse/src/server.rs` stands before another service and
answers the requests for one path itself, with a broadcast.  `new_stream` of
`mev-share-sse/src/client.rs` makes the request of a subscription.

How the `http` crate compares a URI with a text is the parameter `uriEq`, and what is relied
on is that it compares scheme, authority, path and query (`Compares`).  How `reqwest` puts a
query into a URI is the parameter `addQuery`, which leaves the rest of the URI alone.

The proxy compares the whole URI with its path.  `routesByPath_iff` says when this amounts
to comparing the path of the URI: for a request for the path itself, only if its URI is in
origin form and has no query.
-/

namespace MevShare
namespace Sse

open Http

variable {F E X Err R Q : Type}

/-! ## The proxy -/

structure SseBroadcastProxyService (E X Err R : Type) where
  path : String
  /-- The inner service cannot fail. -/
  inner : Http.Request Uri E X → R
  svc : Http.Request Uri E X → Except Err R

structure SseBroadcastLayer (F : Type) where
  /-- How to create a listener. -/
  handler : F
  /-- The path to intercept. -/
  path : String

def SseBroadcastLayer.new (path : String) (handler : F) : SseBroadcastLayer F := ⟨handler, path⟩

/-- The broadcast service that a handler makes is `service`. -/
def SseBroadcastLayer.layer (service : F → Http.Request Uri E X → Except Err R)
    (self : SseBroadcastLayer F) (inner : Http.Request Uri E X → R) :
    SseBroadcastProxyService E X Err R where
  path := self.path
  inner := inner
  svc := service self.handler

/-- The two services have been called with these requests. -/
structure Routed (E X Err R : Type) where
  svcCalls : List (Http.Request Uri E X)
  innerCalls : List (Http.Request Uri E X)
  result : Except Err R

namespace SseBroadcastProxyService

/-- `self.svc.call(request)`. -/
def callSvc (self : SseBroadcastProxyService E X Err R) (request : Http.Request Uri E X) :
    Routed E X Err R := ⟨[request], [], self.svc request⟩

/-- `self.inner.call(request)`. -/
def callInner (self : SseBroadcastProxyService E X Err R) (request : Http.Request Uri E X) :
    Routed E X Err R := ⟨[], [request], .ok (self.inner request)⟩

def call (uriEq : Uri → String → Bool) (self : SseBroadcastProxyService E X Err R)
    (request : Http.Request Uri E X) : Routed E X Err R :=
  if uriEq request.parts.uri self.path then self.callSvc request else self.callInner request

end SseBroadcastProxyService

/-! ## The client -/

/-- The request of `new_stream`. -/
def newStreamRequest (addQuery : Uri → Q → Uri) (endpoint : Uri) (query : Option Q) :
    Http.Request Uri E Unit where
  parts :=
    { method := .get
      uri :=
        match query with
        | none => endpoint
        | some q => addQuery endpoint q
      version := .http11
      headers := ⟨[("accept", ascii "text/event-stream"), ("cache-control", ascii "no-cache")]⟩
      extensions := () }
  body := Body.ofBytes []

/-- The request of `subscribe_with_query`. -/
def subscribeWithQuery (addQuery : Uri → Q → Uri) (endpoint : Uri) (query : Q) :
    Http.Request Uri E Unit :=
  newStreamRequest addQuery endpoint (some query)

/-! ## Comparing paths -/

/-- A URI is compared with a text by scheme, authority, path and query. -/
def Compares (uriEq : Uri → String → Bool) : Prop :=
  ∀ u s, uriEq u s = true ↔ u.SpelledBy s.toList

/-- Adding a query changes nothing else of a URI. -/
def AddsQuery (addQuery : Uri → Q → Uri) : Prop :=
  ∀ u q, (addQuery u q).server = u.server ∧ (addQuery u q).path = u.path

/-- The text is not taken for the URI where it is not its path, and it is where it is. -/
def ComparesPath (u : Uri) (p : String) : Prop :=
  (u.path = p → u.server = none ∧ u.Queryless) ∧ (u.path ≠ p → ¬ u.SpelledBy p.toList)

namespace SseBroadcastProxyService

variable {uriEq : Uri → String → Bool} {self : SseBroadcastProxyService E X Err R}
  {request : Http.Request Uri E X}

/-- The request is answered by the broadcast service if its path is the one of the proxy, and
handed to the inner service as it is if not. -/
def RoutesByPath (uriEq : Uri → String → Bool) (self : SseBroadcastProxyService E X Err R)
    (request : Http.Request Uri E X) : Prop :=
  (self.call uriEq request = self.callSvc request ↔ request.parts.uri.path = self.path) ∧
    (request.parts.uri.path ≠ self.path → self.call uriEq request = self.callInner request)

theorem callInner_ne_callSvc (self : SseBroadcastProxyService E X Err R)
    (request : Http.Request Uri E X) : self.callInner request ≠ self.callSvc request := by
  intro h
  have hcalls := congrArg Routed.svcCalls h
  cases hcalls

/-- **What is intercepted** are the requests whose URI the path of the proxy spells. -/
theorem call_eq_callSvc_iff (hcompare : Compares uriEq) :
    self.call uriEq request = self.callSvc request ↔
      request.parts.uri.SpelledBy self.path.toList := by
  rw [← hcompare]
  by_cases heq : uriEq request.parts.uri self.path = true
  · exact iff_of_true (if_pos heq) heq
  · have hinner : self.call uriEq request = self.callInner request := if_neg heq
    rw [hinner]
    exact iff_of_false (callInner_ne_callSvc self request) heq

theorem call_eq_callInner (hcompare : Compares uriEq)
    (hnot : ¬ request.parts.uri.SpelledBy self.path.toList) :
    self.call uriEq request = self.callInner request := by
  have hne : ¬ uriEq request.parts.uri self.path = true := fun heq => hnot ((hcompare _ _).mp heq)
  exact if_neg hne

/-- One request is routed by its path exactly if its URI compares by its path. -/
theorem routesByPath_iff_comparesPath (hcompare : Compares uriEq) :
    RoutesByPath uriEq self request ↔ ComparesPath request.parts.uri self.path := by
  rw [RoutesByPath, call_eq_callSvc_iff hcompare]
  constructor
  · rintro ⟨hsvc, -⟩
    refine ⟨fun hpath => ?_, fun hpath hspelled => hpath (hsvc.mp hspelled)⟩
    have hspelled := hsvc.mpr hpath
    rw [← hpath] at hspelled
    exact (Uri.spelledBy_path_iff _).mp hspelled
  · rintro ⟨hsame, hother⟩
    refine ⟨⟨fun hspelled => ?_, fun hpath => ?_⟩,
      fun hpath => call_eq_callInner hcompare (hother hpath)⟩
    · by_contra hpath
      exact hother hpath hspelled
    · rw [← hpath]
      exact (Uri.spelledBy_path_iff _).mpr (hsame hpath)

/-- **The proxy intercepts by path** exactly where its path is no other spelling of the URI,
and where the URI of a request for this path is in origin form and has no query.  If the path
is one that a URI may have, only the second can fail; and it does fail for every query that a
client subscribes with. -/
theorem routesByPath_iff (uriEq : Uri → String → Bool) (hcompare : Compares uriEq)
    (addQuery : Uri → Q → Uri) (hadds : AddsQuery addQuery)
    (self : SseBroadcastProxyService E X Err R) (request : Http.Request Uri E X) :
    (RoutesByPath uriEq self request ↔ ComparesPath request.parts.uri self.path) ∧
      (BarePath self.path → (RoutesByPath uriEq self request ↔
        (request.parts.uri.path = self.path →
          request.parts.uri.server = none ∧ request.parts.uri.Queryless))) ∧
      ∀ endpoint query, endpoint.path = self.path →
        request.parts.uri = (subscribeWithQuery addQuery endpoint query :
          Http.Request Uri E Unit).parts.uri.originForm →
        (self.call uriEq request = self.callSvc request ↔
          (addQuery endpoint query).Queryless) := by
  refine ⟨routesByPath_iff_comparesPath hcompare, fun hbare => ?_,
    fun endpoint query hpath huri => ?_⟩
  · rw [routesByPath_iff_comparesPath hcompare]
    exact and_iff_left fun hne => Uri.not_spelledBy_of_bare hbare hne
  · have hsame : request.parts.uri.path = self.path := by
      rw [huri]
      exact (hadds endpoint query).2.trans hpath
    rw [call_eq_callSvc_iff hcompare, ← hsame, Uri.spelledBy_path_iff, huri]
    exact and_iff_right rfl

/-! ### An example -/

/-- A query that is a text already. -/
def setQuery (u : Uri) (q : String) : Uri := { u with query := if q = "" then none else some q }

def exampleProxy : SseBroadcastProxyService Unit Unit Unit String :=
  (SseBroadcastLayer.new "/sse" "event").layer (fun event _ => .ok event) fun _ => "inner"

/-- A `GET` as it comes over a connection to the server. -/
def getRequest (path : String) (query : Option String) : Http.Request Uri Unit Unit where
  parts :=
    { method := .get
      uri := ⟨none, path, query⟩
      version := .http11
      headers := ⟨[]⟩
      extensions := () }
  body := ⟨[]⟩

theorem eqStr_compares : Compares Uri.eqStr := fun _ _ => Uri.eqStr_iff

theorem setQuery_addsQuery : AddsQuery setQuery := fun _ _ => ⟨rfl, rfl⟩

theorem barePath_sse : BarePath "/sse" := by
  have hall : "/sse".toList.all (fun c => decide (c ≠ '?' ∧ c ≠ '#')) = true := by decide
  exact ⟨⟨['s', 's', 'e'], by decide⟩, fun c hc =>
    of_decide_eq_true (List.all_eq_true.mp hall c hc)⟩

/-- A request for the path, and a subscription without a query. -/
theorem routesByPath_iff_getRequest :
    RoutesByPath Uri.eqStr exampleProxy (getRequest "/sse" none) ∧
      exampleProxy.call Uri.eqStr (getRequest "/sse" none) =
        exampleProxy.callSvc (getRequest "/sse" none) := by
  obtain ⟨-, hbare, hsubscribe⟩ := routesByPath_iff Uri.eqStr eqStr_compares setQuery
    setQuery_addsQuery exampleProxy (getRequest "/sse" none)
  exact ⟨(hbare barePath_sse).mpr fun _ => ⟨rfl, Or.inl rfl⟩,
    (hsubscribe ⟨none, "/sse", none⟩ "" rfl rfl).mpr (Or.inl rfl)⟩

/-- A request for the path with a query is handed to the inner service. -/
theorem query_not_intercepted :
    exampleProxy.call Uri.eqStr (getRequest "/sse" (some "x=1")) =
        exampleProxy.callInner (getRequest "/sse" (some "x=1")) ∧
      ¬ ∀ (self : SseBroadcastProxyService Unit Unit Unit String)
        (request : Http.Request Uri Unit Unit), RoutesByPath Uri.eqStr self request := by
  have hinner : exampleProxy.call Uri.eqStr (getRequest "/sse" (some "x=1")) =
      exampleProxy.callInner (getRequest "/sse" (some "x=1")) := by
    have hne : ¬ Uri.eqStr (getRequest "/sse" (some "x=1")).parts.uri exampleProxy.path = true := by
      decide
    exact if_neg hne
  refine ⟨hinner, fun h => ?_⟩
  have hsvc := (h exampleProxy (getRequest "/sse" (some "x=1"))).1.mpr rfl
  rw [hinner] at hsvc
  exact callInner_ne_callSvc _ _ hsvc

end SseBroadcastProxyService

end Sse
end MevShare
