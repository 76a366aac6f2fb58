import AddressedStorage.Http.Client
import AddressedStorage.Vendor.Credentials

/-!
# Vendor/Basic — what the vendors have in common

All serve content under one path, and those that import files are told to cut and hash them as
`Dag.build` does.
-/

namespace AddressedStorage.Vendor

/-- The path under which content is served. -/
def contentPath : String := "/ipfs"

/-- The address of content. -/
def contentUrl (base : String) (cid : Cid) : String := Url.join base s!"{contentPath}/{cid}"

/-- How an importer has to cut and hash files. -/
def importArguments : List Form.Pair :=
  [("chunker", "size-262144"), ("hash", "sha2-256"), ("cid-version", "0"), ("trickle", "false"),
    ("raw-leaves", "false")]

/-- The file name of an upload that has none. -/
def defaultFileName : String := "file"

variable {σ : Type}

/-- Reads content from a gateway. -/
def fetchFrom (c : Http.Client σ) (base : String) (cid : Cid) : Action σ ByteArray :=
  (c.getBytes (contentUrl base cid)).asFetch cid

/-- The identifier a vendor reports. -/
def reportedCid (text : String) : Action σ Cid :=
  Action.ofExcept ((Cid.parse text).mapError .identifier)

/-- Refuses an operation. -/
def deny {α : Type} (provider : String) (operation : Operation) : Action σ α :=
  throw (.unsupported provider operation)

end AddressedStorage.Vendor
