import AddressedStorage.Config.Basic
import AddressedStorage.Proofs.Network.Identity

/-!
# Proofs/Network/Inquiry — a check stops where an inquiry goes on

The nodes of all layers stand in one line: keys services, beacon nodes, execution nodes.  An
**inquiry** asks all of them in that order, whatever they answer.  A check asks the same nodes and
stops at the first offence (`Ends`).  One rule adds a node to a check and one a layer, and from them
the check of all layers is told by the replies to an inquiry (`checkChainIds_ends`).
-/

namespace AddressedStorage.Network

variable {σ α β : Type}

/-! ## Nodes in line -/

/-- Where a node is reached, and how it is asked. -/
structure Site where
  url : String
  options : Http.Options

/-- A node, by its layer and its place there. -/
structure Node where
  layer : Layer
  index : Nat
  site : Site

/-- The sites of each layer. -/
abbrev Sites := Layer → List Site

/-- A node on a network. -/
def Site.endpoint (network : Http.Network σ) (layer : Layer) (site : Site) : ChainEndpoint σ :=
  layer.endpoint ⟨network, site.options⟩ site.url

/-- What a node is sent, if its question can be sent. -/
def Node.request? (node : Node) : Option Http.Request :=
  Http.Request.sendable? (node.layer.question node.site.url)

/-- The nodes of a layer, the first of which has the place `index`. -/
def Layer.nodes (layer : Layer) (index : Nat) (sites : List Site) : List Node :=
  (sites.zipIdx index).map fun (site, i) => ⟨layer, i, site⟩

theorem Layer.layer_of_mem_nodes {layer : Layer} {index : Nat} {sites : List Site} {node : Node}
    (h : node ∈ layer.nodes index sites) : node.layer = layer := by
  obtain ⟨⟨site, i⟩, -, hnode⟩ := List.mem_map.mp h
  exact hnode ▸ rfl

theorem Layer.nodes_eq_nil_iff {layer : Layer} {index : Nat} {sites : List Site} :
    layer.nodes index sites = [] ↔ sites = [] := by
  rw [Layer.nodes, List.map_eq_nil_iff, List.zipIdx_eq_nil_iff]

namespace Sites

/-- The nodes on a network, by layers. -/
def endpoints (network : Http.Network σ) (sites : Sites) : Endpoints σ where
  execution := (sites .execution).map (Site.endpoint network .execution)
  consensus := (sites .consensus).map (Site.endpoint network .consensus)
  keysApi := (sites .keysApi).map (Site.endpoint network .keysApi)

/-- The nodes in line. -/
def nodes (sites : Sites) : List Node :=
  Layer.nodes .keysApi 0 (sites .keysApi) ++ Layer.nodes .consensus 0 (sites .consensus) ++
    Layer.nodes .execution 0 (sites .execution)

/-- The sites that a configuration names. -/
def ofConfig (r : RpcConfig) : Sites
  | .execution => r.execution.map (Site.mk · r.options)
  | .consensus => r.consensus.map (Site.mk · r.options)
  | .keysApi => r.keysApi.map (Site.mk · r.options)

/-- **The nodes of a configuration** are the ones it names. -/
theorem endpoints_ofConfig (network : Http.Network σ) (r : RpcConfig) :
    (ofConfig r).endpoints network = r.build network := by
  simp only [endpoints, ofConfig, List.map_map]
  rfl

theorem mem_nodes_iff {sites : Sites} {node : Node} :
    node ∈ sites.nodes ↔ node ∈ node.layer.nodes 0 (sites node.layer) := by
  have hlayer : ∀ l, node ∈ Layer.nodes l 0 (sites l) → l = node.layer :=
    fun l h => (Layer.layer_of_mem_nodes h).symm
  rw [nodes, List.mem_append, List.mem_append]
  constructor
  · rintro ((h | h) | h)
    all_goals rw [← hlayer _ h]; exact h
  · intro h
    cases hcases : node.layer <;> rw [hcases] at h
    · exact .inr h
    · exact .inl (.inr h)
    · exact .inl (.inl h)

/-- A layer has nodes in the line just if it has sites. -/
theorem exists_node_iff (sites : Sites) (layer : Layer) :
    (∃ node ∈ sites.nodes, node.layer = layer) ↔ sites layer ≠ [] := by
  constructor
  · rintro ⟨node, hmem, rfl⟩ hnil
    rw [mem_nodes_iff, Layer.nodes_eq_nil_iff.mpr hnil] at hmem
    cases hmem
  · intro hne
    have hnodes : layer.nodes 0 (sites layer) ≠ [] := mt Layer.nodes_eq_nil_iff.mp hne
    obtain ⟨node, hnode⟩ := List.exists_mem_of_ne_nil _ hnodes
    obtain rfl := Layer.layer_of_mem_nodes hnode
    exact ⟨node, mem_nodes_iff.mpr hnode, rfl⟩

end Sites

/-! ## Replies -/

/-- What a node answered. -/
structure Reply where
  node : Node
  answer : Except ExchangeError ChainId

/-- The nodes are asked one after the other, whatever they answer. -/
def inquiry (network : Http.Network σ) (nodes : List Node) : StateM σ (List Reply) :=
  nodes.mapM fun node => do
    return ⟨node, ← (node.site.endpoint network node.layer).chainId.run⟩

/-- What the nodes of a layer are held to: the answer of the first. -/
def baseline (replies : List Reply) (layer : Layer) : Option ChainId :=
  (replies.find? (·.node.layer = layer)).bind (·.answer.toOption)

/-- What is wrong with a reply, if anything is, where each layer is held to `b`. -/
def Reply.offence? (b : Layer → Option ChainId) (x : Reply) : Option NetworkError :=
  match x.answer with
  | .error cause => some (.unreachable x.node.index x.node.site.url cause)
  | .ok got =>
    match b x.node.layer with
    | none => none
    | some expected =>
      if got = expected then none else some (.inconsistent x.node.index expected got)

section

variable {b : Layer → Option ChainId} {x : Reply}

theorem Reply.offence?_of_error {cause : ExchangeError} (h : x.answer = .error cause) :
    x.offence? b = some (.unreachable x.node.index x.node.site.url cause) := by
  rw [offence?, h]

theorem Reply.offence?_of_ok {got expected : ChainId} (h : x.answer = .ok got)
    (hb : b x.node.layer = some expected) :
    x.offence? b =
      if got = expected then none else some (.inconsistent x.node.index expected got) := by
  rw [offence?, h, hb]

/-- One reply does not set layers against each other. -/
theorem Reply.offence?_ne_incompatible (x : Reply) (layers : List (String × Option ChainId)) :
    x.offence? b ≠ some (.incompatible layers) := by
  intro h
  unfold offence? at h
  split at h
  · cases h
  · split at h
    · cases h
    · split at h <;> cases h

end

variable {network : Http.Network σ} {nodes later : List Node} {s t u : σ}

/-- One node, and those after it. -/
theorem run_inquiry_cons {node : Node} {answer : Except ExchangeError ChainId}
    {others : List Reply}
    (hask : (node.site.endpoint network node.layer).chainId.run.run s = (answer, t))
    (hothers : (inquiry network later).run t = (others, u)) :
    (inquiry network (node :: later)).run s = (⟨node, answer⟩ :: others, u) := by
  rw [inquiry, List.mapM_cons, bind_assoc, runState_bind hask, pure_bind]
  exact runState_bind hothers

/-- Two inquiries are one. -/
theorem run_inquiry_append {replies others : List Reply}
    (hask : (inquiry network nodes).run s = (replies, t))
    (hothers : (inquiry network later).run t = (others, u)) :
    (inquiry network (nodes ++ later)).run s = (replies ++ others, u) := by
  rw [inquiry, List.mapM_append]
  exact (runState_bind hask).trans (runState_bind hothers)

/-- Every node that is asked replies. -/
theorem map_node_inquiry (network : Http.Network σ) (nodes : List Node) (s : σ) :
    ((inquiry network nodes).run s).1.map Reply.node = nodes := by
  induction nodes generalizing s with
  | nil => rfl
  | cons node nodes ih =>
    rw [run_inquiry_cons rfl rfl]
    exact congrArg (node :: ·) (ih _)

/-- The layer of a reply is that of the node. -/
theorem layer_of_mem_inquiry {layer : Layer} {index : Nat} {sites : List Site}
    {replies : List Reply} (hask : (inquiry network (layer.nodes index sites)).run s = (replies, t)) :
    ∀ x ∈ replies, x.node.layer = layer := by
  intro x hx
  have hnodes := map_node_inquiry network (layer.nodes index sites) s
  rw [hask] at hnodes
  exact Layer.layer_of_mem_nodes (hnodes ▸ List.mem_map_of_mem hx)

/-! ## One node after the other -/

/-- How a check of nodes ends that would answer `a`: with `a` if no reply offends, and otherwise
with the first offence, after which no node is asked. -/
inductive Ends (b : Layer → Option ChainId) (network : Http.Network σ) (nodes : List Node) (s : σ)
    (a : Except NetworkError α) : Except NetworkError α × σ → Prop where
  | passed {replies : List Reply} {t : σ} (hask : (inquiry network nodes).run s = (replies, t))
      (hclean : ∀ x ∈ replies, x.offence? b = none) : Ends b network nodes s a (a, t)
  | stopped (asked later : List Node) (before : List Reply) {x : Reply} {e : NetworkError} {t : σ}
      (hnodes : nodes = asked ++ later)
      (hask : (inquiry network asked).run s = (before ++ [x], t))
      (hclean : ∀ y ∈ before, y.offence? b = none) (hx : x.offence? b = some e) :
      Ends b network nodes s a (.error e, t)

namespace Ends

variable {b : Layer → Option ChainId} {a : Except NetworkError α} {node : Node}
  {answer : Except ExchangeError ChainId} {out : Except NetworkError α × σ}

theorem none : Ends b network [] s a (a, s) := .passed rfl (List.forall_mem_nil _)

/-- A node that offends. -/
theorem offended (hask : (node.site.endpoint network node.layer).chainId.run.run s = (answer, t))
    {e : NetworkError} (hx : (Reply.mk node answer).offence? b = some e) :
    Ends b network (node :: later) s a (.error e, t) := by
  exact .stopped [node] later [] rfl (run_inquiry_cons hask rfl) (List.forall_mem_nil _) hx

/-- A node that does not offend, before others. -/
theorem cons (hask : (node.site.endpoint network node.layer).chainId.run.run s = (answer, t))
    (hx : (Reply.mk node answer).offence? b = .none) (h : Ends b network later t a out) :
    Ends b network (node :: later) s a out := by
  cases h with
  | passed hrest hclean =>
    exact .passed (run_inquiry_cons hask hrest) (List.forall_mem_cons.mpr ⟨hx, hclean⟩)
  | stopped asked rest before hnodes hrest hclean hy =>
    exact .stopped (node :: asked) rest (⟨node, answer⟩ :: before) (congrArg (node :: ·) hnodes)
      (run_inquiry_cons hask hrest) (List.forall_mem_cons.mpr ⟨hx, hclean⟩) hy

/-- **A check after a check**: the second is made just if the first is passed. -/
theorem bind {x : Check σ α} {f : α → Check σ β} {v : α} {c : Except NetworkError β}
    (hx : Ends b network nodes s (.ok v) (x.run.run s))
    (hf : ∀ replies t, (inquiry network nodes).run s = (replies, t) →
      Ends b network later t c ((f v).run.run t)) :
    Ends b network (nodes ++ later) s c ((x >>= f).run.run s) := by
  rw [run_bind]
  rcases hrun : x.run.run s with ⟨result, t⟩
  rw [hrun] at hx
  cases hx with
  | @passed replies _ hask hclean =>
    have hlater := hf replies t hask
    change Ends b network _ s c ((f v).run.run t)
    generalize (f v).run.run t = out at hlater
    cases hlater with
    | passed hothers hrest =>
      exact .passed (run_inquiry_append hask hothers) (List.forall_mem_append.mpr ⟨hclean, hrest⟩)
    | stopped asked rest before hnodes hothers hrest hy =>
      refine .stopped (nodes ++ asked) rest (replies ++ before) ?_ ?_
        (List.forall_mem_append.mpr ⟨hclean, hrest⟩) hy
      · rw [hnodes, List.append_assoc]
      · rw [List.append_assoc]
        exact run_inquiry_append hask hothers
  | stopped asked rest before hnodes hask hclean hy =>
    refine .stopped asked (rest ++ later) before ?_ hask hclean hy
    rw [hnodes, List.append_assoc]

end Ends

/-! ## One layer after the other -/

variable {b : Layer → Option ChainId} {layer : Layer}

/-- Holding nodes to what their layer is held to. -/
theorem checkRest_ends {expected : ChainId} (hb : b layer = some expected) (index : Nat)
    (sites : List Site) (s : σ) :
    Ends b network (layer.nodes index sites) s (.ok ())
      ((checkRest expected index (sites.map (Site.endpoint network layer))).run.run s) := by
  induction sites generalizing index s with
  | nil => exact .none
  | cons site sites ih =>
    rw [List.map_cons, checkRest, run_bind, run_ask]
    rcases hask : (site.endpoint network layer).chainId.run.run s with ⟨cause | got, t⟩
    · refine .offended hask ?_
      rw [Site.endpoint, Layer.name_endpoint]
      rfl
    · change Ends b network _ s _ ((if got = expected then _ else _ : Check σ Unit).run.run t)
      by_cases hgot : got = expected
      · rw [if_pos hgot]
        refine .cons hask ?_ (ih (index + 1) t)
        rw [Reply.offence?_of_ok rfl hb, if_pos hgot]
      · rw [if_neg hgot]
        refine .offended hask ?_
        rw [Reply.offence?_of_ok rfl hb, if_neg hgot]

/-- **The check of a layer** holds it to the answer of its first node, and names that. -/
theorem checkConsistency_ends (sites : List Site) (s : σ)
    (hb : b layer = baseline ((inquiry network (layer.nodes 0 sites)).run s).1 layer) :
    Ends b network (layer.nodes 0 sites) s (.ok (b layer))
      ((checkConsistency (sites.map (Site.endpoint network layer))).run.run s) := by
  cases sites with
  | nil =>
    rw [hb]
    exact .none
  | cons site sites =>
    rw [List.map_cons, checkConsistency, run_bind, run_ask]
    rcases hask : (site.endpoint network layer).chainId.run.run s with ⟨answer, t⟩
    have hfirst : b layer = answer.toOption := by
      rw [hb, Layer.nodes, List.zipIdx_cons, List.map_cons, run_inquiry_cons hask rfl]
      simp [baseline]
    cases answer with
    | error cause =>
      refine .offended hask ?_
      rw [Site.endpoint, Layer.name_endpoint]
      rfl
    | ok id =>
      have hid : b layer = some id := hfirst
      have hrest : Ends b network (layer.nodes 1 sites ++ []) t (.ok (some id))
          ((checkRest id 1 (sites.map (Site.endpoint network layer)) >>= fun _ =>
            return some id : Check σ _).run.run t) :=
        (checkRest_ends hid 1 sites t).bind fun _ _ _ => .none
      rw [List.append_nil] at hrest
      rw [hid]
      refine .cons hask ?_ hrest
      rw [Reply.offence?_of_ok rfl hid, if_pos rfl]

theorem baseline_append_left {xs ys : List Reply} (h : ∀ y ∈ ys, y.node.layer ≠ layer) :
    baseline (xs ++ ys) layer = baseline xs layer := by
  have hys : ys.find? (·.node.layer = layer) = .none :=
    List.find?_eq_none.mpr fun y hy => by simpa using h y hy
  rw [baseline, List.find?_append, hys, Option.or_none, baseline]

theorem baseline_append_right {xs ys : List Reply} (h : ∀ x ∈ xs, x.node.layer ≠ layer) :
    baseline (xs ++ ys) layer = baseline ys layer := by
  have hxs : xs.find? (·.node.layer = layer) = .none :=
    List.find?_eq_none.mpr fun x hx => by simpa using h x hx
  rw [baseline, List.find?_append, hxs, Option.none_or, baseline]

/-- The layers as they are reported, each with a chain. -/
def reported (b : Layer → Option ChainId) : List (String × Option ChainId) :=
  [("execution", b .execution), ("consensus", b .consensus), ("keys-api", b .keysApi)]

/-- **The check of all layers** goes along the line of nodes, and holds each layer to the answer of
its first node. -/
theorem checkChainIds_ends (sites : Sites) (network : Http.Network σ) (s : σ) :
    let b := baseline ((inquiry network sites.nodes).run s).1
    Ends b network sites.nodes s (sameNetwork (reported b))
      ((sites.endpoints network).checkChainIds.run.run s) := by
  intro b
  rcases hkeys : (inquiry network (Layer.nodes .keysApi 0 (sites .keysApi))).run s with ⟨ks, t⟩
  rcases hcons : (inquiry network (Layer.nodes .consensus 0 (sites .consensus))).run t with ⟨cs, u⟩
  rcases hexec : (inquiry network (Layer.nodes .execution 0 (sites .execution))).run u with ⟨es, v⟩
  have hks := layer_of_mem_inquiry hkeys
  have hcs := layer_of_mem_inquiry hcons
  have hes := layer_of_mem_inquiry hexec
  have hb : b = baseline (ks ++ (cs ++ es)) := by
    rw [← List.append_assoc]
    exact congrArg (fun out => baseline out.1)
      (run_inquiry_append (run_inquiry_append hkeys hcons) hexec)
  have hbkeys : b .keysApi = baseline ks .keysApi := by
    rw [hb, baseline_append_left fun x hx => ?_]
    rcases List.mem_append.mp hx with hx | hx
    · simp [hcs x hx]
    · simp [hes x hx]
  have hbcons : b .consensus = baseline cs .consensus := by
    rw [hb, baseline_append_right fun x hx => by simp [hks x hx],
      baseline_append_left fun x hx => by simp [hes x hx]]
  have hbexec : b .execution = baseline es .execution := by
    rw [hb, baseline_append_right fun x hx => by simp [hks x hx],
      baseline_append_right fun x hx => by simp [hcs x hx]]
  rw [Sites.nodes, List.append_assoc, ← List.append_nil (Layer.nodes .execution 0 _)]
  refine (checkConsistency_ends _ s ?_).bind fun replies t' ht => ?_
  · rw [hkeys, hbkeys]
  obtain ⟨rfl, rfl⟩ := Prod.mk.inj (hkeys.symm.trans ht)
  refine (checkConsistency_ends _ _ ?_).bind fun replies u' hu => ?_
  · rw [hcons, hbcons]
  obtain ⟨rfl, rfl⟩ := Prod.mk.inj (hcons.symm.trans hu)
  refine (checkConsistency_ends _ _ ?_).bind fun replies v' hv => .none
  rw [hexec, hbexec]

end AddressedStorage.Network
