import AddressedStorage.Config.Descriptor
import AddressedStorage.Document.Toml
import AddressedStorage.Fleet.Basic
import AddressedStorage.Fleet.Shuffle
import AddressedStorage.Network.Consistency

/-!
# Config/Basic — configuration files

A configuration has two parts: the vendors that store content and the nodes whose chains are compared.
Whatever is not given has a default.  Fleets are built all or nothing.
-/

namespace AddressedStorage

/-- How content is stored. -/
structure StorageConfig where
  /-- Attempts at each vendor. -/
  retries : UInt32
  verifyContent : Bool
  http : Http.Options
  providers : List Descriptor
  deriving DecidableEq

/-- Which nodes are asked for their chains. -/
structure RpcConfig where
  execution : List String
  consensus : List String
  keysApi : List String
  timeoutSeconds : UInt64
  deriving DecidableEq

/-- A configuration. -/
structure Config where
  storage : StorageConfig
  rpc : RpcConfig
  deriving DecidableEq

/-- An unsigned 32-bit integer. -/
def Document.uint32? (d : Document) : Option UInt32 := (d.natBelow? UInt32.size).map Nat.toUInt32

/-- An unsigned integer as a document. -/
def Document.ofNat (n : Nat) : Document := .integer n

/-! ## HTTP options -/

namespace Http.Options

/-- The names of the fields. -/
def fieldNames : List String := ["timeout_secs", "retries", "backoff_ms"]

/-- Reads options. -/
def ofDocument? (d : Document) : Option Options := do
  match ← d.fields? .ignored fieldNames with
  | [timeout, retries, backoff] =>
    return {
      timeoutSeconds := ← Document.withDefault standard.timeoutSeconds Document.uint64? timeout
      retries := ← Document.withDefault standard.retries Document.uint32? retries
      backoff := ← Document.withDefault standard.backoff Document.uint64? backoff }
  | _ => none

/-- Writes options. -/
def toDocument (o : Options) : Document :=
  .record (fieldNames.zip
    [.ofNat o.timeoutSeconds.toNat, .ofNat o.retries.toNat, .ofNat o.backoff.toNat])

end Http.Options

/-! ## Storage -/

/-- Why no fleet can be built. -/
inductive BuildError where
  /-- A descriptor is not valid. -/
  | descriptor (cause : ExchangeError)
  | fleet (cause : FleetError)

namespace StorageConfig

/-- What holds where nothing is configured. -/
def standard : StorageConfig where
  retries := 3
  verifyContent := true
  http := .standard
  providers := []

/-- The names of the fields. -/
def fieldNames : List String := ["retries", "verify_content", "http", "providers"]

/-- Reads the part. -/
def ofDocument? (d : Document) : Option StorageConfig := do
  match ← d.fields? .ignored fieldNames with
  | [retries, verify, http, providers] =>
    return {
      retries := ← Document.withDefault standard.retries Document.uint32? retries
      verifyContent := ← Document.withDefault standard.verifyContent Document.boolean? verify
      http := ← Document.withDefault standard.http Http.Options.ofDocument? http
      providers := ← Document.withDefault [] (Document.listOf? Descriptor.ofDocument?) providers }
  | _ => none

/-- Writes the part. -/
def toDocument (s : StorageConfig) : Document :=
  .record (fieldNames.zip
    [.ofNat s.retries.toNat, .boolean s.verifyContent, s.http.toDocument,
      .list (s.providers.map Descriptor.toDocument)])

/-- The providers that the descriptors name, in order. -/
def backends {σ : Type} (hash : HashFunction) (network : Http.Network σ) (s : StorageConfig) :
    Except ExchangeError (List (Provider σ)) :=
  s.providers.mapM fun d => do
    return ⟨← d.backend hash ⟨network, s.http⟩, .ofFlag s.verifyContent⟩

/-- The fleet of all described providers, in random order. -/
def build {σ : Type} (hash : HashFunction) (network : Http.Network σ) (s : StorageConfig)
    (g : Shuffle.Generator) : Except BuildError (Fleet σ) := do
  let providers ← (s.backends hash network).mapError .descriptor
  (Fleet.ofOrdered (Shuffle.shuffle providers.toArray g) s.retries.toNat).mapError .fleet

end StorageConfig

/-! ## Nodes -/

namespace RpcConfig

/-- What holds where nothing is configured. -/
def standard : RpcConfig where
  execution := []
  consensus := []
  keysApi := []
  timeoutSeconds := 30

/-- The names of the fields. -/
def fieldNames : List String := ["execution", "consensus", "keys_api", "timeout_secs"]

/-- Reads a list of addresses. -/
def urls? : Option Document → Option (List String) :=
  Document.withDefault [] (Document.listOf? Document.text?)

/-- Reads the part. -/
def ofDocument? (d : Document) : Option RpcConfig := do
  match ← d.fields? .ignored fieldNames with
  | [execution, consensus, keysApi, timeout] =>
    return {
      execution := ← urls? execution
      consensus := ← urls? consensus
      keysApi := ← urls? keysApi
      timeoutSeconds := ← Document.withDefault standard.timeoutSeconds Document.uint64? timeout }
  | _ => none

/-- Addresses as a document. -/
def urls (us : List String) : Document := .list (us.map Document.text)

/-- Writes the part. -/
def toDocument (r : RpcConfig) : Document :=
  .record (fieldNames.zip
    [urls r.execution, urls r.consensus, urls r.keysApi, .ofNat r.timeoutSeconds.toNat])

/-- How nodes are asked: once. -/
def options (r : RpcConfig) : Http.Options :=
  { Http.Options.standard with timeoutSeconds := r.timeoutSeconds, retries := 0 }

/-- The nodes that the addresses name. -/
def build {σ : Type} (network : Http.Network σ) (r : RpcConfig) : Network.Endpoints σ :=
  let client := ⟨network, r.options⟩
  { execution := r.execution.map (ChainEndpoint.execution client)
    consensus := r.consensus.map (ChainEndpoint.beacon client)
    keysApi := r.keysApi.map (ChainEndpoint.keysApi client) }

end RpcConfig

/-! ## The whole -/

namespace Config

/-- What holds where nothing is configured. -/
def standard : Config := ⟨.standard, .standard⟩

/-- Reads a configuration. -/
def ofDocument? (d : Document) : Option Config := do
  match ← d.fields? .ignored ["storage", "rpc"] with
  | [storage, rpc] =>
    return {
      storage := ← Document.withDefault .standard StorageConfig.ofDocument? storage
      rpc := ← Document.withDefault .standard RpcConfig.ofDocument? rpc }
  | _ => none

/-- Writes a configuration. -/
def toDocument (c : Config) : Document :=
  .record [("storage", c.storage.toDocument), ("rpc", c.rpc.toDocument)]

/-- Reads a configuration file. -/
def parse (text : String) : Option Config := (Document.ofToml? text).bind ofDocument?

/-- The text of a configuration file, unless a number in it is too large. -/
def render (c : Config) : Option String := c.toDocument.toToml?

end Config

end AddressedStorage
