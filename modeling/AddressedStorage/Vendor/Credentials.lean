import AddressedStorage.Digest.Hmac
import AddressedStorage.Http.Error

/-!
# Vendor/Credentials — how requests prove who sends them

Credentials are put into headers; none of their text is shown when they are printed.  A
`RequestSigner` instead binds one request: it signs method, path and query, each on a line of its own,
so that a signature fits no other request.
-/

namespace AddressedStorage

/-- What is presented with each request. -/
inductive Credentials where
  | bearer (token : String)
  | authSecret (secret authorization : String)
  deriving DecidableEq

namespace Credentials

/-- The credentials as they are shown: their kind only. -/
def shown : Credentials → String
  | bearer _ => "Bearer(..)"
  | authSecret _ _ => "AuthSecret(..)"

/-- Adds the headers to a request. -/
def apply (r : Http.Request) : Credentials → Except Http.Failure Http.Request
  | bearer token => r.withHeader "authorization" ("Bearer " ++ token)
  | authSecret secret authorization => do
    (← r.withHeader "x-auth-secret" secret).withHeader "authorization" authorization

end Credentials

/-- An access key and the secret that signs for it. -/
structure RequestSigner where
  key : String
  secret : List UInt8
  deriving DecidableEq

namespace RequestSigner

/-- Reads the secret, which has exactly one spelling. -/
def ofText (key secret : String) : Except ExchangeError RequestSigner :=
  match Base64.decode secret.toByteArray.data.toList with
  | .ok secret => .ok { key, secret }
  | .error cause => .error (.invalidConfig (.accessSecret cause))

/-- What is signed for a request. -/
def signedText (method path query : String) : String := s!"{method}\n{path}\n{query}"

/-- The signature of a request. -/
def sign (hash : HashFunction) (s : RequestSigner) (method path query : String) : String :=
  Base64.encodeString (Hmac.digest hash s.secret (signedText method path query).toByteArray).toList

/-- The signer as it is shown: its key only. -/
def shown (s : RequestSigner) : String :=
  "RequestSigner \x7b key: " ++ Quoted.encode s.key ++ ", .. \x7d"

end RequestSigner

end AddressedStorage
