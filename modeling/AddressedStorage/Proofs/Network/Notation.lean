import AddressedStorage.Proofs.Http.Agree
import AddressedStorage.Proofs.Network.ChainId
import AddressedStorage.Proofs.Network.Identity

/-!
# Proofs/Network/Notation — one chain in two notations

An execution node answers with a quantity, a beacon node with a decimal (`Gives`).  Either answer is
read to the exact number, so two nodes are found to serve one chain just if they named the same number,
whichever notation each of them used (`chainIds_exact`).
-/

namespace AddressedStorage.Network

open ChainEndpoint

variable {σ : Type} {id id' : ChainId} {layer layer' : Layer} {response : Http.Response}
  {c c' : Http.Client σ} {url url' : String} {s t u : σ}

/-! ## Answers -/

/-- An answer names a chain in the notation of a layer: an execution node by a result that is a
quantity, without an error; a beacon node by a decimal in its deposit contract. -/
inductive Gives (id : ChainId) : Layer → Http.Response → Prop where
  | quantity {response : Http.Response} {fields : List (String × Document)}
      {error : Option Document} {text : String}
      (hbody : response.document? = some (.record fields))
      (hresult : Document.field? fields "result" = some (some (.text text)))
      (herror : Document.field? fields "error" = some error)
      (hnull : error = none ∨ error = some .null)
      (htext : ChainId.IsHexQuantity text id.value.toNat) : Gives id .execution response
  | decimal {response : Http.Response} {fields contract : List (String × Document)} {text : String}
      (hbody : response.document? = some (.record fields))
      (hdata : Document.field? fields "data" = some (some (.record contract)))
      (hchain : Document.field? contract "chain_id" = some (some (.text text)))
      (htext : ChainId.IsDecimal text id.value.toNat) : Gives id .consensus response

/-- The single field of a record, if it is there. -/
theorem single?_record {α : Type} {fields : List (String × Document)} {name : String} {d : Document}
    (h : Document.field? fields name = some (some d)) (read : Document → Option α) :
    Document.single? name read (.record fields) = read d := by
  simp [Document.single?, Document.fields?, h, Document.required]

theorem executionAnswer?_record {fields : List (String × Document)} {error : Option Document}
    {text : String} (hresult : Document.field? fields "result" = some (some (.text text)))
    (herror : Document.field? fields "error" = some error)
    (hnull : error = none ∨ error = some .null) :
    executionAnswer? (.record fields) = some (some text, none) := by
  rcases hnull with rfl | rfl <;>
    simp [executionAnswer?, Document.fields?, hresult, herror, Document.optional, Document.isList,
      Document.text?]

/-- **An answer in either notation is read to its exact number.** -/
theorem Gives.read_eq (h : Gives id layer response) : layer.read response = .ok id := by
  cases h with
  | quantity hbody hresult herror hnull htext =>
    rw [Layer.read, Layer.readBody, hbody, Option.bind_some,
      executionAnswer?_record hresult herror hnull]
    change (ChainId.ofHexQuantity _).mapError _ = _
    rw [(ChainId.reads_isHexQuantity htext).eq_ok]
    rfl
  | decimal hbody hdata hchain htext =>
    rw [Layer.read, Layer.readBody, hbody, Option.bind_some, single?_record hdata,
      single?_record hchain]
    change (ChainId.ofDecimal _).mapError _ = _
    rw [(ChainId.reads_isDecimal htext).eq_ok]
    rfl

/-! ## Nodes -/

/-- A node that is asked in the state `s` names a chain in the notation of its layer, which leaves
the state `t`. -/
def Tells (c : Http.Client σ) (layer : Layer) (url : String) (s : σ) (id : ChainId) (t : σ) : Prop :=
  ∃ response, (c.sendOnce (layer.place url) (layer.question url)).run.run s = (.ok response, t) ∧
    Gives id layer response

theorem Tells.run_chainId (h : Tells c layer url s id t) :
    (layer.endpoint c url).chainId.run.run s = (.ok id, t) := by
  obtain ⟨response, hsend, hgives⟩ := h
  rw [Layer.chainId_endpoint, run_bind_of_ok hsend, hgives.read_eq]
  rfl

theorem run_ask_of_ok {e : ChainEndpoint σ} (h : e.chainId.run.run s = (.ok id, t)) (index : Nat) :
    (ask index e).run.run s = (.ok id, t) := by
  rw [run_ask, h]
  rfl

theorem run_checkConsistency_single {e : ChainEndpoint σ} (h : e.chainId.run.run s = (.ok id, t)) :
    (checkConsistency [e]).run.run s = (.ok (some id), t) := by
  rw [checkConsistency, run_bind_of_ok (run_ask_of_ok h 0)]
  rfl

/-- Two nodes are consistent just if they name one chain. -/
theorem run_checkConsistency_pair {e f : ChainEndpoint σ} (he : e.chainId.run.run s = (.ok id, t))
    (hf : f.chainId.run.run t = (.ok id', u)) :
    (checkConsistency [e, f]).run.run s =
      (if id' = id then .ok (some id) else .error (.inconsistent 1 id id'), u) := by
  rw [checkConsistency, run_bind_of_ok (run_ask_of_ok he 0), checkRest, bind_assoc,
    run_bind_of_ok (run_ask_of_ok hf 1)]
  split <;> rfl

theorem sameNetwork_pair (name name' : String) (id id' : ChainId) :
    sameNetwork [(name, some id), (name', some id')] =
      if id' = id then .ok (some id)
      else .error (.incompatible [(name, some id), (name', some id')]) := by
  simp [sameNetwork]

/-- **Chains are told apart by their numbers, whatever the notation.**  A quantity and a decimal are
read to the exact number they name if it fits 64 bits, and refused if it does not; a chain is read back
from both texts it is written as.  So two nodes, of which either may be an execution node or a beacon
node, pass a check together just if they named the same number, and so do the layers they make up. -/
theorem chainIds_exact :
    (∀ text n, ChainId.IsHexQuantity text n → ChainId.Reads (ChainId.ofHexQuantity text) n) ∧
    (∀ text n, ChainId.IsDecimal text n → ChainId.Reads (ChainId.ofDecimal text) n) ∧
    (∀ id : ChainId, ChainId.ofHexQuantity ("0x" ++ Hex.ofNat id.value.toNat) = .ok id ∧
      ChainId.ofDecimal (toString id) = .ok id) ∧
    ∀ {σ : Type} (c c' : Http.Client σ) (layer layer' : Layer) (url url' : String) (s t u : σ)
      (id id' : ChainId), Tells c layer url s id t → Tells c' layer' url' t id' u →
      let node := layer.endpoint c url
      let node' := layer'.endpoint c' url'
      (checkConsistency [node, node']).run.run s =
        (if id' = id then .ok (some id) else .error (.inconsistent 1 id id'), u) ∧
      (checkConsistency [node]).run.run s = (.ok (some id), t) ∧
      (checkConsistency [node']).run.run t = (.ok (some id'), u) ∧
      ∀ name name', sameNetwork [(name, some id), (name', some id')] =
        if id' = id then .ok (some id)
        else .error (.incompatible [(name, some id), (name', some id')]) := by
  refine ⟨fun _ _ => ChainId.reads_isHexQuantity, fun _ _ => ChainId.reads_isDecimal,
    fun id => ⟨?_, ?_⟩, fun c c' layer layer' url url' s t u id id' h h' => ?_⟩
  · exact (ChainId.reads_isHexQuantity id.isHexQuantity_toHexQuantity).eq_ok
  · exact (ChainId.reads_isDecimal id.isDecimal_toString).eq_ok
  · exact ⟨run_checkConsistency_pair h.run_chainId h'.run_chainId,
      run_checkConsistency_single h.run_chainId, run_checkConsistency_single h'.run_chainId,
      fun name name' => sameNetwork_pair name name' id id'⟩

/-- One number in two notations. -/
example :
    let c : Http.Client _ := ⟨Http.Network.playing, .standard⟩
    let served (body : String) : Except Http.Loss Http.Answer :=
      .ok ⟨200, [], some body.toByteArray⟩
    let run := (checkConsistency [.execution c "http://e", .beacon c "http://b"]).run.run
      ([served "\x7b\"result\":\"0x004268\"\x7d",
        served "\x7b\"data\":\x7b\"chain_id\":\"\\n17000 \"\x7d\x7d"], 0)
    run.1.toOption = some (some ⟨17000⟩) := by
  decide +kernel

end AddressedStorage.Network
