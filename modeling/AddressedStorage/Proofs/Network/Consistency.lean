import AddressedStorage.Proofs.Network.Inquiry

/-!
# Proofs/Network/Consistency — which deployments pass, and what is asked to find out

What the check of all layers comes to, and what it sends, can be read off the replies to an inquiry
(`Verdict`).  So the deployments that pass are those where every layer has nodes and every node names
the same chain, and the empty one (`checkChainIds_unanimous`).
-/

namespace AddressedStorage.Network

variable {σ κ : Type} {network : Http.Network σ} {nodes : List Node} {s : σ} {layer : Layer}
  {b : Layer → Option ChainId}

/-! ## What the check comes to -/

/-- What the check comes to and what it sends, by the replies to an inquiry: either no reply offends
and the layers are compared, or the nodes from the first on to the first offender were asked. -/
inductive Verdict (replies : List Reply) :
    Except NetworkError (Option ChainId) → List Http.Request → Prop where
  | compared (hclean : ∀ x ∈ replies, x.offence? (baseline replies) = none) :
      Verdict replies (sameNetwork (reported (baseline replies)))
        (replies.filterMap (·.node.request?))
  | stopped (before : List Reply) {x : Reply} (after : List Reply) {e : NetworkError}
      (hreplies : replies = before ++ x :: after)
      (hclean : ∀ y ∈ before, y.offence? (baseline replies) = none)
      (hx : x.offence? (baseline replies) = some e) :
      Verdict replies (.error e) ((before ++ [x]).filterMap (·.node.request?))

/-- **An inquiry sends every node its question once**, in order. -/
theorem sends_inquiry (network : Http.Network σ) (sender : κ) (nodes : List Node) :
    Http.Sends (fun sent replies =>
        sent.map Http.Sent.request = replies.filterMap (·.node.request?))
      (inquiry (network.noting sender) nodes) := by
  induction nodes with
  | nil => exact .ret rfl
  | cons node nodes ih =>
    rw [inquiry, List.mapM_cons, bind_assoc]
    refine (node.layer.sends_chainId network node.site.options sender node.site.url).bind
      fun sent answer hsent => ?_
    rw [pure_bind]
    refine ih.bind fun later others hlater => .ret ?_
    rw [List.append_nil, List.map_append, hsent, hlater, List.filterMap_cons, Node.request?]
    cases Http.Request.sendable? (node.layer.question node.site.url) <;> rfl

theorem sent_inquiry {sender : κ} {replies : List Reply} {y : σ × List (Http.Sent κ)}
    (hask : (inquiry (network.noting sender) nodes).run (s, []) = (replies, y)) :
    y.2.map Http.Sent.request = replies.filterMap (·.node.request?) := by
  obtain ⟨sent, hnotes, hsent⟩ := sends_inquiry network sender nodes (s, [])
  rw [hask] at hnotes hsent
  rw [hnotes, List.nil_append, hsent]

/-- How a check of nodes ends, told by the replies to an inquiry of them. -/
theorem Ends.verdict {sender : κ} {replies : List Reply} {y : σ × List (Http.Sent κ)}
    {out : Except NetworkError (Option ChainId) × σ × List (Http.Sent κ)}
    (hask : (inquiry (network.noting sender) nodes).run (s, []) = (replies, y))
    (h : Ends (baseline replies) (network.noting sender) nodes (s, [])
      (sameNetwork (reported (baseline replies))) out) :
    Verdict replies out.1 (out.2.2.map Http.Sent.request) := by
  cases h with
  | passed hask' hclean =>
    obtain ⟨rfl, rfl⟩ := Prod.mk.inj (hask.symm.trans hask')
    rw [sent_inquiry hask]
    exact .compared hclean
  | @stopped asked later before x e z hnodes hasked hclean hx =>
    rcases hrest : (inquiry (network.noting sender) later).run z with ⟨after, u⟩
    rw [hnodes, run_inquiry_append hasked hrest] at hask
    obtain ⟨rfl, rfl⟩ := Prod.mk.inj hask
    rw [sent_inquiry hasked]
    exact .stopped before after (List.append_cons before x after).symm hclean hx

variable {replies : List Reply} {result : Except NetworkError (Option ChainId)}
  {sent : List Http.Request} {v : Option ChainId} {sites : Sites} {id : ChainId}

theorem sameNetwork_reported (b : Layer → Option ChainId) :
    sameNetwork (reported b) =
      if b .consensus = b .execution ∧ b .keysApi = b .execution then .ok (b .execution)
      else .error (.incompatible (reported b)) := by
  simp [sameNetwork, reported]

/-- Layers are accepted just if all of them name the same chain, or none does. -/
theorem sameNetwork_reported_eq_ok_iff :
    sameNetwork (reported b) = .ok v ↔ ∀ layer, b layer = v := by
  rw [sameNetwork_reported]
  constructor
  · intro h layer
    split at h
    · rename_i hsame
      obtain rfl := Except.ok.inj h
      cases layer with
      | execution => rfl
      | consensus => exact hsame.1
      | keysApi => exact hsame.2
    · cases h
  · intro h
    rw [h, h, h]
    exact if_pos ⟨rfl, rfl⟩

/-- Layers that are refused are reported. -/
theorem eq_incompatible_of_sameNetwork {e : NetworkError}
    (h : sameNetwork (reported b) = .error e) : e = .incompatible (reported b) := by
  rw [sameNetwork_reported] at h
  split at h
  · cases h
  · exact (Except.error.inj h).symm

/-- The first reply of a layer is what the layer is held to. -/
theorem exists_baseline {x : Reply} (hx : x ∈ replies) :
    ∃ y ∈ replies, y.node.layer = x.node.layer ∧
      baseline replies x.node.layer = y.answer.toOption := by
  have hfind : (replies.find? (·.node.layer = x.node.layer)).isSome :=
    List.find?_isSome.mpr ⟨x, hx, decide_eq_true rfl⟩
  obtain ⟨y, hy⟩ := Option.isSome_iff_exists.mp hfind
  have hlayer := List.find?_some hy
  exact ⟨y, List.mem_of_find?_eq_some hy, of_decide_eq_true hlayer,
    by rw [baseline, hy, Option.bind_some]⟩

/-- What a layer is held to was answered by one of its nodes. -/
theorem exists_of_baseline (h : baseline replies layer = some id) :
    ∃ x ∈ replies, x.node.layer = layer ∧ x.answer = .ok id := by
  obtain ⟨x, hfind, hanswer⟩ := Option.bind_eq_some_iff.mp h
  have hlayer := List.find?_some hfind
  refine ⟨x, List.mem_of_find?_eq_some hfind, of_decide_eq_true hlayer, ?_⟩
  cases hx : x.answer with
  | error cause =>
    rw [hx] at hanswer
    cases hanswer
  | ok got =>
    rw [hx] at hanswer
    exact congrArg _ (Option.some.inj hanswer)

/-- **A reply that does not offend** names the chain its layer is held to. -/
theorem answer_of_clean (hclean : ∀ x ∈ replies, x.offence? (baseline replies) = none) {x : Reply}
    (hx : x ∈ replies) :
    ∃ id, x.answer = .ok id ∧ baseline replies x.node.layer = some id := by
  have hanswer : ∀ y ∈ replies, ∃ got, y.answer = .ok got := by
    intro y hy
    cases hcases : y.answer with
    | error cause => cases (Reply.offence?_of_error hcases).symm.trans (hclean y hy)
    | ok got => exact ⟨got, rfl⟩
  obtain ⟨y, hy, -, hbaseline⟩ := exists_baseline hx
  obtain ⟨expected, hexpected⟩ := hanswer y hy
  obtain ⟨got, hgot⟩ := hanswer x hx
  rw [hexpected] at hbaseline
  have hoffence := (Reply.offence?_of_ok hgot hbaseline).symm.trans (hclean x hx)
  by_cases heq : got = expected
  · exact ⟨got, hgot, heq ▸ hbaseline⟩
  · rw [if_neg heq] at hoffence
    cases hoffence

/-- Replies that all name one chain do not offend. -/
theorem clean_of_answer (h : ∀ x ∈ replies, x.answer = .ok id) :
    ∀ x ∈ replies, x.offence? (baseline replies) = none := by
  intro x hx
  obtain ⟨y, hy, -, hbaseline⟩ := exists_baseline hx
  rw [h y hy] at hbaseline
  rw [Reply.offence?_of_ok (h x hx) hbaseline, if_pos rfl]

namespace Verdict

/-- The layers are compared if no reply offends. -/
theorem result_eq (h : Verdict replies result sent)
    (hclean : ∀ x ∈ replies, x.offence? (baseline replies) = none) :
    result = sameNetwork (reported (baseline replies)) := by
  cases h with
  | compared => rfl
  | @stopped before x after e hreplies _ hx =>
    have hmem : x ∈ replies := hreplies ▸ List.mem_append_right before List.mem_cons_self
    rw [hclean x hmem] at hx
    cases hx

/-- What is accepted was compared. -/
theorem clean_of_ok (h : Verdict replies result sent) (hok : result = .ok v) :
    (∀ x ∈ replies, x.offence? (baseline replies) = none) ∧
      ∀ layer, baseline replies layer = v := by
  cases h with
  | compared hclean => exact ⟨hclean, sameNetwork_reported_eq_ok_iff.mp hok⟩
  | stopped => cases hok

/-- **A chain is accepted** just if every layer has nodes and every node names it. -/
theorem eq_some_iff (h : Verdict replies result sent) :
    result = .ok (some id) ↔
      (∀ layer, ∃ x ∈ replies, x.node.layer = layer) ∧ ∀ x ∈ replies, x.answer = .ok id := by
  constructor
  · intro hok
    obtain ⟨hclean, hsame⟩ := h.clean_of_ok hok
    refine ⟨fun layer => ?_, fun x hx => ?_⟩
    · obtain ⟨x, hx, hlayer, -⟩ := exists_of_baseline (hsame layer)
      exact ⟨x, hx, hlayer⟩
    · obtain ⟨got, hgot, hbaseline⟩ := answer_of_clean hclean hx
      rw [hgot, Option.some.inj (hbaseline.symm.trans (hsame _))]
  · rintro ⟨hlayers, hanswers⟩
    rw [h.result_eq (clean_of_answer hanswers)]
    refine sameNetwork_reported_eq_ok_iff.mpr fun layer => ?_
    obtain ⟨x, hx, rfl⟩ := hlayers layer
    obtain ⟨y, hy, -, hbaseline⟩ := exists_baseline hx
    rw [hbaseline, hanswers y hy]
    rfl

/-- **No chain is accepted** just if there is no node. -/
theorem eq_none_iff (h : Verdict replies result sent) : result = .ok none ↔ replies = [] := by
  constructor
  · intro hok
    obtain ⟨hclean, hsame⟩ := h.clean_of_ok hok
    refine List.eq_nil_iff_forall_not_mem.mpr fun x hx => ?_
    obtain ⟨got, -, hbaseline⟩ := answer_of_clean hclean hx
    rw [hsame] at hbaseline
    cases hbaseline
  · rintro rfl
    rw [h.result_eq (List.forall_mem_nil _)]
    exact sameNetwork_reported_eq_ok_iff.mpr fun _ => rfl

/-- **Layers are called incompatible** only if each of them names one chain or has no node. -/
theorem of_incompatible (h : Verdict replies result sent) {layers : List (String × Option ChainId)}
    (hresult : result = .error (.incompatible layers)) :
    layers = reported (baseline replies) ∧
      ∀ x ∈ replies, ∃ id, x.answer = .ok id ∧ baseline replies x.node.layer = some id := by
  cases h with
  | compared hclean =>
    have heq := eq_incompatible_of_sameNetwork hresult
    exact ⟨NetworkError.incompatible.inj heq, fun x hx => answer_of_clean hclean hx⟩
  | stopped before after hreplies hclean hx =>
    obtain rfl := Except.error.inj hresult
    exact absurd hx (Reply.offence?_ne_incompatible _ _)

end Verdict

/-- **The deployments that pass are those where every layer has nodes and every node names the same
chain**, and the empty one.  The check goes along the line of nodes, asks each of them once, and
stops at the first that offends (`Verdict`).  Layers are called incompatible only if each of them
agrees in itself, and are reported in another order than they are asked in. -/
theorem checkChainIds_unanimous (sites : Sites) (network : Http.Network σ) (s : σ) :
    let noted := network.noting ()
    let replies := ((inquiry noted sites.nodes).run (s, [])).1
    let run := (sites.endpoints noted).checkChainIds.run.run (s, [])
    replies.map Reply.node = sites.nodes ∧
    Verdict replies run.1 (run.2.2.map Http.Sent.request) ∧
    (∀ id, run.1 = .ok (some id) ↔
      (∀ layer, sites layer ≠ []) ∧ ∀ x ∈ replies, x.answer = .ok id) ∧
    (run.1 = .ok none ↔ ∀ layer, sites layer = []) ∧
    ∀ layers, run.1 = .error (.incompatible layers) →
      ∃ ids : Layer → Option ChainId,
        layers = [("execution", ids .execution), ("consensus", ids .consensus),
          ("keys-api", ids .keysApi)] ∧
        (∀ layer, ids layer = none ↔ sites layer = []) ∧
        ∀ x ∈ replies, ∃ id, x.answer = .ok id ∧ ids x.node.layer = some id := by
  intro noted replies run
  have hnodes : replies.map Reply.node = sites.nodes := map_node_inquiry noted sites.nodes (s, [])
  have hverdict : Verdict replies run.1 (run.2.2.map Http.Sent.request) :=
    Ends.verdict rfl (checkChainIds_ends sites noted (s, []))
  have hlayers : ∀ layer, (∃ x ∈ replies, x.node.layer = layer) ↔ sites layer ≠ [] := by
    intro layer
    rw [← sites.exists_node_iff, ← hnodes]
    simp only [List.mem_map, exists_exists_and_eq_and]
  refine ⟨hnodes, hverdict, fun id => ?_, ?_, fun layers hresult => ?_⟩
  · rw [hverdict.eq_some_iff]
    simp only [hlayers]
  · rw [hverdict.eq_none_iff, List.eq_nil_iff_forall_not_mem]
    refine ⟨fun hnone layer => ?_, fun hempty x hx => ?_⟩
    · by_contra hne
      obtain ⟨x, hx, -⟩ := (hlayers layer).mpr hne
      exact hnone x hx
    · exact (hlayers x.node.layer).mp ⟨x, hx, rfl⟩ (hempty _)
  · obtain ⟨hreported, hanswers⟩ := hverdict.of_incompatible hresult
    refine ⟨baseline replies, hreported, fun layer => ?_, hanswers⟩
    rw [← not_iff_not, ← Ne, ← Ne, ← hlayers, Option.ne_none_iff_exists']
    constructor
    · rintro ⟨id, hid⟩
      obtain ⟨x, hx, hlayer, -⟩ := exists_of_baseline hid
      exact ⟨x, hx, hlayer⟩
    · rintro ⟨x, hx, rfl⟩
      obtain ⟨id, -, hid⟩ := hanswers x hx
      exact ⟨id, hid⟩

end AddressedStorage.Network
