import AddressedStorage.Network.Consistency
import AddressedStorage.Proofs.Http.Sent

/-!
# Proofs/Network/Identity — every node is asked in one way

The three kinds of node differ in the question and in how the answer is read, and in nothing else
(`chainId_endpoint`).  So asking a node sends its question, once (`sends_chainId`).
-/

namespace AddressedStorage.Network

open ChainEndpoint

variable {σ κ : Type}

/-- The layers of a network. -/
inductive Layer where
  | execution
  | consensus
  | keysApi
  deriving DecidableEq

namespace Layer

/-- A node of a layer. -/
def endpoint (c : Http.Client σ) (url : String) : Layer → ChainEndpoint σ
  | execution => .execution c url
  | consensus => .beacon c url
  | keysApi => .keysApi c url

/-- Where a node of a layer is asked. -/
def place (url : String) : Layer → String
  | execution => url
  | consensus => Url.join url depositContractPath
  | keysApi => Url.join url statusPath

/-- What a node of a layer is asked. -/
def question (url : String) : Layer → Except Http.Failure Http.Request
  | execution => do return { ← Http.Request.ofAddress .post url with body := .json executionCall }
  | layer => Http.Request.ofAddress .get (layer.place url)

/-- What an execution node says: an error counts before a quantity. -/
def readExecution : Option String × Option Document → Except ExchangeError ChainId
  | (_, some reason) => .error (.invalidResponse (.rpcError reason))
  | (none, none) => .error (.invalidResponse .noRpcResult)
  | (some quantity, none) =>
    (ChainId.ofHexQuantity quantity).mapError fun cause => .invalidResponse (.chainId cause)

/-- What a beacon node says. -/
def readBeacon (text : String) : Except ExchangeError ChainId :=
  (ChainId.ofDecimal text).mapError fun cause => .invalidResponse (.chainId cause)

/-- What a JSON body of a certain shape says. -/
def readBody {α : Type} (shape : Document → Option α) (read : α → Except ExchangeError ChainId)
    (response : Http.Response) : Except ExchangeError ChainId :=
  match response.document?.bind shape with
  | some a => read a
  | none => .error (.http .undecodable)

/-- What an answer from a node of a layer says. -/
def read : Layer → Http.Response → Except ExchangeError ChainId
  | execution => readBody executionAnswer? readExecution
  | consensus =>
    readBody (Document.single? "data" (Document.single? "chain_id" Document.text?)) readBeacon
  | keysApi => readBody (Document.single? "chainId" Document.uint64?) fun id => .ok ⟨id⟩

/-- Reading a body as steps. -/
theorem decode_bind {α : Type} {shape : Document → Option α}
    {read : α → Except ExchangeError ChainId} {f : α → Http.Exchange σ ChainId}
    (hf : ∀ a, f a = .ofExcept (read a)) (response : Http.Response) :
    response.decode shape >>= f = .ofExcept (readBody shape read response) := by
  rw [Http.Response.decode, readBody]
  cases response.document?.bind shape with
  | none => rfl
  | some a => exact hf a

/-- **Asking a node**: its question, once, and what the answer says. -/
theorem chainId_endpoint (layer : Layer) (c : Http.Client σ) (url : String) :
    (layer.endpoint c url).chainId =
      c.sendOnce (layer.place url) (layer.question url) >>= fun response =>
        .ofExcept (layer.read response) := by
  cases layer with
  | execution =>
    refine bind_congr fun response => decode_bind (fun answer => ?_) response
    obtain ⟨quantity, reason⟩ := answer
    cases quantity <;> cases reason <;> rfl
  | consensus => exact bind_congr fun response => decode_bind (fun _ => rfl) response
  | keysApi => exact bind_congr fun response => decode_bind (fun _ => rfl) response

theorem name_endpoint (layer : Layer) (c : Http.Client σ) (url : String) :
    (layer.endpoint c url).name = url := by cases layer <;> rfl

/-- **A node that is asked is sent its question once**, and nothing else. -/
theorem sends_chainId (layer : Layer) (network : Http.Network σ) (options : Http.Options)
    (sender : κ) (url : String) :
    Http.Sends
      (fun sent _ =>
        sent.map Http.Sent.request = (Http.Request.sendable? (layer.question url)).toList)
      (layer.endpoint ⟨network.noting sender, options⟩ url).chainId.run := by
  rw [chainId_endpoint]
  refine .bindExcept (Http.Client.sends_sendOnce network options sender _ _) (fun _ _ h => h)
    fun sent response h => ?_
  exact .ret ((List.append_nil sent).symm ▸ h)

end Layer

/-- Asking a node for a check. -/
theorem run_ask (index : Nat) (e : ChainEndpoint σ) (s : σ) :
    (ask index e).run.run s =
      let (answer, t) := e.chainId.run.run s
      (answer.mapError (.unreachable index e.name), t) := rfl

end AddressedStorage.Network
