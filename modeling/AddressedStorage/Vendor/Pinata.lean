import AddressedStorage.Vendor.Basic

/-!
# Vendor/Pinata — a service that pins what it is given

Every upload is pinned; pinning by identifier is not offered.
-/

namespace AddressedStorage.Vendor

/-- An account at the service. -/
structure Pinata where
  jwt : String
  apiUrl : String
  gatewayUrl : String
  deriving DecidableEq

namespace Pinata

/-- The service's own interface. -/
def defaultApiUrl : String := "https://api.pinata.cloud"

/-- The service's own gateway. -/
def defaultGatewayUrl : String := "https://gateway.pinata.cloud"

/-- Where files are uploaded. -/
def pinFilePath : String := "/pinning/pinFileToIPFS"

/-- The name shown for the service. -/
def name : String := "pinata"

/-- What the service can do. -/
def capabilities : Capabilities := { Capabilities.full with pin := false, pinsOnUpload := true }

/-- An account with a token, which must not be empty. -/
def ofToken (jwt apiUrl gatewayUrl : String) : Except ExchangeError Pinata :=
  if jwt = "" then .error (.invalidConfig .emptyJwt) else .ok { jwt, apiUrl, gatewayUrl }

variable {σ : Type} (p : Pinata) (c : Http.Client σ)

/-- Uploads a file. -/
def upload (content : ByteArray) (name : Option String) : Action σ Cid := do
  let request := do
    let r ← Http.Request.ofAddress .post (Url.join p.apiUrl pinFilePath)
    let r ← (Credentials.bearer p.jwt).apply r
    return { r with body := .form [⟨"file", name.getD defaultFileName, content⟩] }
  let response ← (c.send request).asUpload
  reportedCid (← (response.decode (Document.single? "IpfsHash" Document.text?)).asUpload)

/-- An account as a backend. -/
def backend : Backend σ where
  name := name
  capabilities := capabilities
  fetch := fetchFrom c p.gatewayUrl
  upload := p.upload c
  pin _ := deny name .pin

end Pinata

end AddressedStorage.Vendor
