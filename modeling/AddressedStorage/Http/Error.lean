import AddressedStorage.Document.Json
import AddressedStorage.FormatError
import AddressedStorage.Http.Message
import AddressedStorage.Provider.Error

/-!
# Http/Error — why an exchange with a service failed

A failed exchange has one of five causes.  What is worded by nobody else is a constructor of its own,
so that two failures are equal just if they say the same.
-/

namespace AddressedStorage

/-- What is wrong with an answer that arrived. -/
inductive ResponseFault where
  /-- A bridge answered to no task. -/
  | noReceipt (ability : String)
  /-- A bridge refused a task. -/
  | taskFailed (ability : String) (reason : Document)
  /-- An upload was asked for, but not where to. -/
  | noUploadUrl
  | shardHeaderName
  | shardHeaderValue
  /-- A shard was not taken. -/
  | shardStatus (status : Nat)
  | rpcError (reason : Document)
  | noRpcResult
  /-- A chain id that cannot be read. -/
  | chainId (cause : FormatError)
  /-- A fault worded by someone else. -/
  | reported (reason : String)
  deriving Inhabited

/-- The fault in words. -/
def ResponseFault.reason : ResponseFault → String
  | noReceipt ability => s!"{ability}: no receipt"
  | taskFailed ability reason => s!"{ability} failed: {reason.toJson}"
  | noUploadUrl => "store/add: upload without url"
  | shardHeaderName => "shard header name: invalid HTTP header name"
  | shardHeaderValue => "shard header value: failed to parse header value"
  | shardStatus status => s!"shard upload answered with status {status}"
  | rpcError reason => s!"rpc error: {reason.toJson}"
  | noRpcResult => "eth_chainId returned no result"
  | chainId cause => cause.message
  | reported reason => reason

/-- What is wrong with a setting. -/
inductive ConfigFault where
  | accessSecret (cause : Base64.Error)
  | emptyJwt
  | emptyToken
  | emptyCredentials
  /-- A space that is not named by a decentralised identifier. -/
  | spaceName (space : String)
  | signedUrl (url : String) (cause : Url.Error)
  /-- A fault worded by someone else. -/
  | reported (reason : String)
  deriving DecidableEq, Repr

/-- The fault in words. -/
def ConfigFault.reason : ConfigFault → String
  | accessSecret cause => s!"access secret is not base64: {cause.message}"
  | emptyJwt => "pinata JWT is empty"
  | emptyToken => "pinning node token is empty"
  | emptyCredentials => "storacha credentials are empty"
  | spaceName space => s!"storacha space is not a DID: {space}"
  | signedUrl url cause => s!"bad gw3 url {url}: {cause.message}"
  | reported reason => reason

/-- Why a request cannot be signed. -/
inductive SigningFault where
  /-- The clock stands before the epoch. -/
  | clock
  /-- A fault worded by someone else. -/
  | reported (reason : String)
  deriving DecidableEq, Repr

/-- The fault in words. -/
def SigningFault.reason : SigningFault → String
  | clock => "second time provided was later than self"
  | reported reason => reason

/-- Why an exchange with a service failed, or cannot be made. -/
inductive ExchangeError where
  | http (cause : Http.Failure)
  /-- The service answered, but not with success. -/
  | status (url : String) (code : Nat)
  | invalidResponse (fault : ResponseFault)
  | invalidConfig (fault : ConfigFault)
  | signing (fault : SigningFault)

namespace ExchangeError

/-- The failure in words. -/
def message : ExchangeError → String
  | http cause => s!"http error: {cause.message}"
  | status url code => s!"{url} answered with status {code}"
  | invalidResponse fault => s!"invalid response: {fault.reason}"
  | invalidConfig fault => s!"invalid configuration: {fault.reason}"
  | signing fault => s!"signing error: {fault.reason}"

/-- The failure as a provider's, where no operation is known. -/
def asTransport (e : ExchangeError) : ProviderError := .transport e.message

end ExchangeError

end AddressedStorage
