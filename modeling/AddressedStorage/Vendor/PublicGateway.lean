import AddressedStorage.Vendor.Basic

/-!
# Vendor/PublicGateway — a gateway for reading only
-/

namespace AddressedStorage.Vendor

/-- A gateway anybody may read from. -/
structure PublicGateway where
  url : String
  deriving DecidableEq

namespace PublicGateway

/-- The gateway that is read from where none is configured. -/
def defaultUrl : String := "https://ipfs.io"

/-- The name shown for a gateway. -/
def name (g : PublicGateway) : String := s!"gateway({g.url})"

/-- A gateway as a backend. -/
def backend {σ : Type} (g : PublicGateway) (c : Http.Client σ) : Backend σ where
  name := g.name
  capabilities := .fetchOnly
  fetch := fetchFrom c g.url
  upload _ _ := deny g.name .upload
  pin _ := deny g.name .pin

end PublicGateway

end AddressedStorage.Vendor
