import AddressedStorage.Http.Client

/-!
# Http/Redirect — requests that are sent on

An answer may redirect a request: it leads to another request, which is made at once.  So one request
of a client may be several on its way, and the client is given the answer at the end of that way
(`Network.following`).
-/

namespace AddressedStorage.Http

/-- The statuses that may redirect. -/
def redirectStatuses : List Nat := [301, 302, 303, 307, 308]

/-- How redirects are followed. -/
structure Redirects where
  /-- The request that an answer leads to, if it redirects. -/
  next : Request → Response → Option Request
  /-- How many redirects of one request are followed. -/
  limit : Nat
  status_of_next : ∀ {r x r'}, next r x = some r' → x.status ∈ redirectStatuses

namespace Network

variable {σ : Type} (n : Network σ) (rule : Redirects)

/-- Sends a request, and goes on where it is redirected. -/
def hop (onward : Response → Request → StateM σ (Except Failure Response)) (r : Request) :
    StateM σ (Except Failure Response) := do
  match ← n.send r with
  | .error failure => return .error failure
  | .ok response =>
    match rule.next r response with
    | none => return .ok response
    | some r' => onward response r'

/-- Sends a request and follows up to a number of redirects. -/
def sendOn : Nat → Request → StateM σ (Except Failure Response)
  | 0 => n.hop rule fun response _ => return .error (.misdirected (some response.url))
  | left + 1 => n.hop rule fun _ => sendOn left

/-- The network on which redirects are followed. -/
def following : Network σ := { n with send := n.sendOn rule rule.limit }

end Network

namespace Redirects

/-- Headers that say how a body is to be read. -/
def bodyHeaders : List String :=
  ["transfer-encoding", "content-encoding", "content-type", "content-length"]

/-- Headers that are not sent on to another server. -/
def privateHeaders : List String :=
  ["authorization", "cookie", "cookie2", "proxy-authorization", "www-authenticate"]

/-- Whether two addresses are of one server. -/
def isSameServer (u v : Url) : Bool :=
  u.host = v.host ∧ u.port.or (Url.defaultPort? u.scheme) = v.port.or (Url.defaultPort? v.scheme)

/-- The header that says which address led to another.  What is read in private is not told in the
open. -/
def referer? (origin u : Url) : Option Header :=
  if origin.scheme = "https".toList ∧ u.scheme = "http".toList then none
  else
    let shown := { origin with user := [], password := [], fragment := none }
    some ⟨"referer", shown.toString.toByteArray⟩

/-- Whether a header of some name is sent on from one address to another. -/
def keeps (origin u : Url) (name : String) : Bool :=
  !bodyHeaders.contains name && (isSameServer origin u || !privateHeaders.contains name)

/-- What a request is sent on as where another address is to be read: nothing is handed over there. -/
def reading (r : Request) (u : Url) : Request :=
  Request.withHeaders (referer? r.url u).toList
    { method := .get, url := u, headers := r.headers.filter (keeps r.url u ·.name), body := .empty }

/-- The address of a web server that an answer gives in full. -/
def location? (x : Response) : Option Url := do
  let u ← (Url.parse (← x.headerText? "location")).toOption
  if u.scheme = "http".toList ∨ u.scheme = "https".toList then some u else none

/-- Reads what a server says to see instead, up to ten times. -/
def seeOther : Redirects where
  next r x := if x.status = 303 then (location? x).map (reading r) else none
  limit := 10
  status_of_next {_ x _} h := by
    by_cases hstatus : x.status = 303
    · simp [hstatus, redirectStatuses]
    · rw [if_neg hstatus] at h
      cases h

end Redirects

end AddressedStorage.Http
