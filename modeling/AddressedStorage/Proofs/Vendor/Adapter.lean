import AddressedStorage.Config.Descriptor
import AddressedStorage.Proofs.Http.Exchange
import AddressedStorage.Proofs.Vendor.Address

/-!
# Proofs/Vendor/Adapter — reading from any vendor

The six vendors are read from in one way: a request to their gateway, perhaps with credentials, and
the body of the answer.  So reading from a well-formed adapter sends as much as is allowed while every
answer is a passing trouble, and fails in a way that leaves hope (`Adapter.sends_fetch`).
-/

namespace AddressedStorage.Vendor

open Http

variable {σ κ : Type}

/-- A vendor that is reached by requests. -/
inductive Adapter where
  | kubo (k : Kubo)
  | pinata (p : Pinata)
  | pinningNode (n : PinningNode)
  | gw3 (g : Gw3)
  | storacha (s : Storacha)
  | publicGateway (g : PublicGateway)

namespace Adapter

/-- The vendor as a backend. -/
def backend (hash : HashFunction) (c : Client σ) : Adapter → Backend σ
  | kubo k => k.backend c
  | pinata p => p.backend c
  | pinningNode n => n.backend c
  | gw3 g => g.backend hash c
  | storacha s => s.backend c hash
  | publicGateway g => g.backend c

/-- **Every configured vendor is one of them.** -/
theorem exists_of_descriptor {hash : HashFunction} {c : Client σ} {d : Descriptor} {b : Backend σ}
    (h : d.backend hash c = .ok b) : ∃ a : Adapter, a.backend hash c = b := by
  cases d with
  | kubo host rpc gateway =>
    obtain rfl := Except.ok.inj h
    exact ⟨.kubo _, rfl⟩
  | pinata jwt api gateway =>
    obtain ⟨p, -, hb⟩ := bind_eq_ok_iff.mp h
    exact ⟨.pinata p, Except.ok.inj hb⟩
  | publicGateway url =>
    obtain rfl := Except.ok.inj h
    exact ⟨.publicGateway _, rfl⟩
  | gw3 key secret url =>
    obtain ⟨g, -, hb⟩ := bind_eq_ok_iff.mp h
    exact ⟨.gw3 g, Except.ok.inj hb⟩
  | pinningNode host token =>
    obtain ⟨n, -, hb⟩ := bind_eq_ok_iff.mp h
    exact ⟨.pinningNode n, Except.ok.inj hb⟩
  | storacha secret authorization space bridge gateway =>
    obtain ⟨s, -, hb⟩ := bind_eq_ok_iff.mp h
    exact ⟨.storacha s, Except.ok.inj hb⟩

/-- Every vendor can be read from. -/
theorem supports_fetch (hash : HashFunction) (c : Client σ) (a : Adapter) :
    (a.backend hash c).capabilities.supports .fetch := by
  cases a <;> rfl

/-- The address content is read from. -/
def gateway : Adapter → String
  | kubo k => k.gatewayUrl
  | pinata p => p.gatewayUrl
  | pinningNode n => n.host
  | gw3 g => g.url
  | storacha s => s.gatewayUrl
  | publicGateway g => g.url

/-- The credentials that are presented to read. -/
def credentials : Adapter → List String
  | pinningNode n => [n.token]
  | gw3 g => [g.signer.key]
  | _ => []

/-- The room that the time of a signed call takes in a query. -/
def timeRoom : Nat := 24

/-- The address is well-formed, and the credentials may stand in headers. -/
structure WellFormed (a : Adapter) : Prop where
  gateway : Url.WellFormed (timeRoom + contentRoom) a.gateway
  credentials : ∀ v ∈ a.credentials, isHeaderValue v.toByteArray.data.toList

instance (a : Adapter) : Decidable a.WellFormed :=
  decidable_of_iff
    (Url.WellFormed (timeRoom + contentRoom) a.gateway ∧
      ∀ v ∈ a.credentials, isHeaderValue v.toByteArray.data.toList)
    ⟨fun h => ⟨h.1, h.2⟩, fun h => ⟨h.gateway, h.credentials⟩⟩

end Adapter

/-- The clock stands behind the epoch, and its seconds fit 64 bits. -/
def Timely (network : Network σ) : Prop :=
  ∀ s, ∃ seconds : Nat, seconds < UInt64.size ∧ (network.now.run s).1 = seconds

/-! ## Requests -/

theorem ready_content {base : String} (h : Url.WellFormed (Adapter.timeRoom + contentRoom) base)
    (cid : Cid) : Request.Ready (Request.ofAddress .get (contentUrl base cid)) := by
  obtain ⟨u, hparse, hroomy⟩ := parse_contentUrl h cid
  exact Request.ready_ofAddress hparse hroomy .get

theorem isHeaderValue_append {a b : String} (ha : isHeaderValue a.toByteArray.data.toList)
    (hb : isHeaderValue b.toByteArray.data.toList) :
    isHeaderValue (a ++ b).toByteArray.data.toList := by
  rw [String.toByteArray_append, ByteArray.data_append, Array.toList_append]
  exact List.all_append.trans (Bool.and_eq_true_iff.mpr ⟨ha, hb⟩)

/-- Printable ASCII may stand in a header. -/
theorem isHeaderValue_ofList {text : List Char} (h : ∀ c ∈ text, 32 ≤ c.toNat ∧ c.toNat < 127) :
    isHeaderValue (String.ofList text).toByteArray.data.toList := by
  change (Percent.utf8 text).all _
  rw [Percent.utf8_eq_flatMap, List.all_flatMap, List.all_eq_true]
  intro c hc
  obtain ⟨hlow, hhigh⟩ := h c hc
  rw [Percent.utf8EncodeChar_of_lt (by omega)]
  exact Percent.forall_char_lt (P := fun c => 32 ≤ c.toNat → isHeaderValue [c.toUInt8])
    (by decide +kernel) hhigh hlow

theorem isPrintable_symbol {d : Nat} (h : d < 64) :
    32 ≤ (Char.ofNat (Base64.symbol d).toNat).toNat ∧
      (Char.ofNat (Base64.symbol d).toNat).toNat < 127 :=
  (by decide +kernel : ∀ d < 64, 32 ≤ (Char.ofNat (Base64.symbol d).toNat).toNat ∧
      (Char.ofNat (Base64.symbol d).toNat).toNat < 127) d h

/-- A signature may stand in a header. -/
theorem isHeaderValue_sign (hash : HashFunction) (s : RequestSigner) (method path query : String) :
    isHeaderValue (s.sign hash method path query).toByteArray.data.toList := by
  refine isHeaderValue_ofList fun c hc => ?_
  obtain ⟨b, hb, rfl⟩ := List.mem_map.mp hc
  rw [Base64.encode] at hb
  rcases List.mem_append.mp hb with hsymbol | hpad
  · obtain ⟨d, hd, rfl⟩ := List.mem_map.mp hsymbol
    exact isPrintable_symbol (Radix.lt_of_mem_padded (by decide) hd)
  · obtain rfl := List.eq_of_mem_replicate hpad
    decide

theorem PinningNode.ready {n : PinningNode} (h : (Adapter.pinningNode n).WellFormed) (cid : Cid) :
    Request.Ready (n.request .get (contentUrl n.host cid)) := by
  have htoken : isHeaderValue n.token.toByteArray.data.toList :=
    h.credentials _ List.mem_cons_self
  have hbearer := isHeaderValue_append (a := "Bearer ") (by decide +kernel) htoken
  rw [PinningNode.request, ← bind_assoc]
  exact ((ready_content h.gateway cid).withHeader "authorization" hbearer).withHeader _
    (by decide +kernel)

/-- The time of a signed call fits its room. -/
theorem length_encode_signedPairs {seconds : Nat} (h : seconds < UInt64.size) :
    1 + (Form.encode (Gw3.signedPairs [] seconds)).length ≤ Adapter.timeRoom := by
  have hname : (Form.encodeText "ts").length = 2 := by decide +kernel
  have hdigits : (Nat.toDigits 10 seconds).length ≤ 20 :=
    (Nat.length_toDigits_le_iff (by decide) (by decide)).mpr (h.trans (by decide))
  rw [Gw3.signedPairs, List.nil_append, Form.encode, Form.encodePair, List.length_append,
    List.length_cons, hname, Form.length_encodeText_toString, Adapter.timeRoom]
  omega

/-- The signature of a call is over the address that is sent. -/
theorem Gw3.signedUrl_of_parse {g : Gw3} {method : Method} {path : String} {u : Url}
    (h : Url.parse (Url.join g.url path) = .ok u) (hash : HashFunction)
    (arguments : List Form.Pair) (seconds : Nat) :
    let target := u.withPairs (signedPairs arguments seconds)
    g.signedUrl hash method path arguments seconds = .ok (target,
      g.signer.sign hash method.name (String.ofList target.pathText)
        (String.ofList (target.query.getD []))) := by
  rw [signedUrl, h]

/-- **A signed call can be sent.** -/
theorem Gw3.ready {g : Gw3} (h : (Adapter.gw3 g).WellFormed) (hash : HashFunction) (cid : Cid)
    {seconds : Nat} (hseconds : seconds < UInt64.size) :
    ∃ u signature, g.signedUrl hash .get s!"{contentPath}/{cid}" [] seconds = .ok (u, signature) ∧
      Request.Ready (g.signedRequest .get u signature) := by
  obtain ⟨u, hparse, hroomy⟩ := parse_contentUrl h.gateway cid
  have hfits := hroomy.mono (length_encode_signedPairs hseconds)
  have hsigned : (u.withPairs (signedPairs [] seconds)).Roomy 0 :=
    .withPairs ((Nat.zero_add _).symm ▸ hfits)
  have hkey : isHeaderValue g.signer.key.toByteArray.data.toList :=
    h.credentials _ List.mem_cons_self
  refine ⟨_, _, signedUrl_of_parse hparse hash [] seconds, ?_⟩
  rw [signedRequest, ← bind_assoc]
  exact ((Request.ready_ofUrl hsigned .get).withHeader "x-access-key" hkey).withHeader
    "x-access-signature" (isHeaderValue_sign hash g.signer _ _ _)

/-! ## Reading -/

/-- **Reading from a gateway.** -/
theorem sends_fetchFrom (network : Network σ) (options : Options) (sender : κ) (base : String)
    (cid : Cid) :
    Sends (Reading sender options.retries.toNat
        (Request.Ready (Request.ofAddress .get (contentUrl base cid))) fun _ => True)
      (fetchFrom ⟨network.noting sender, options⟩ base cid).run :=
  .asFetch (Client.sends_content network options sender _ cid)

/-- Reading by a call that is signed at a time. -/
theorem Gw3.sends_signed (g : Gw3) (hash : HashFunction) (network : Network σ) (options : Options)
    (sender : κ) (cid : Cid) (seconds : Nat) :
    Sends (fun sent result =>
        Reading sender options.retries.toNat
          ((Adapter.gw3 g).WellFormed ∧ seconds < UInt64.size) (fun _ => True) sent
          (result.mapError fun e => .fetch cid e.message))
      ((do
        let (u, signature) ←
          Exchange.ofExcept (g.signedUrl hash .get s!"{contentPath}/{cid}" [] seconds)
        Client.send ⟨network.noting sender, options⟩ (g.signedRequest .get u signature)) >>=
          Response.content).run := by
  cases hsigned : g.signedUrl hash .get s!"{contentPath}/{cid}" [] seconds with
  | error e =>
    refine .ret (.none ?_ _)
    rintro ⟨hwell, hseconds⟩
    obtain ⟨u, signature, hok, -⟩ := Gw3.ready hwell hash cid hseconds
    cases hsigned.symm.trans hok
  | ok signed =>
    refine (Client.sends_content network options sender
      (g.signedRequest .get signed.1 signed.2) cid).mono fun sent result h => h.mono ?_
    rintro ⟨hwell, hseconds⟩
    obtain ⟨u, signature, hok, hrequest⟩ := Gw3.ready hwell hash cid hseconds
    obtain rfl := Except.ok.inj (hsigned.symm.trans hok)
    exact hrequest

/-- **Reading by a signed call.** -/
theorem Gw3.sends_fetch (g : Gw3) (hash : HashFunction) (network : Network σ) (options : Options)
    (sender : κ) (cid : Cid) :
    Sends (Reading sender options.retries.toNat ((Adapter.gw3 g).WellFormed ∧ Timely network)
        fun _ => True)
      (g.fetch hash ⟨network.noting sender, options⟩ cid).run := by
  refine .asFetch ?_
  rw [Gw3.call, bind_assoc]
  refine .bindLift (Sends.now network sender) ?_
  rintro _ time ⟨rfl, s, hs⟩
  cases time with
  | negSucc n =>
    refine .ret (.none ?_ _)
    rintro ⟨-, htimely⟩
    obtain ⟨seconds, -, hseconds⟩ := htimely s
    cases hs.symm.trans hseconds
  | ofNat seconds =>
    refine (g.sends_signed hash network options sender cid seconds).mono fun sent result h =>
      h.mono ?_
    rintro ⟨hwell, htimely⟩
    obtain ⟨seconds', hlt, hseconds⟩ := htimely s
    obtain rfl : seconds = seconds' := Int.ofNat.inj (hs.symm.trans hseconds)
    exact ⟨hwell, hlt⟩

/-- **Reading from any vendor.** -/
theorem Adapter.sends_fetch (a : Adapter) (hash : HashFunction) (network : Network σ)
    (options : Options) (sender : κ) (cid : Cid) :
    Sends (Reading sender options.retries.toNat (a.WellFormed ∧ Timely network) fun _ => True)
      ((a.backend hash ⟨network.noting sender, options⟩).fetch cid).run := by
  have hgateway : Sends
      (Reading sender options.retries.toNat (a.WellFormed ∧ Timely network) fun _ => True)
      (fetchFrom ⟨network.noting sender, options⟩ a.gateway cid).run :=
    (sends_fetchFrom network options sender a.gateway cid).mono fun sent result h =>
      h.mono fun hready => ready_content hready.1.gateway cid
  cases a with
  | kubo k => exact hgateway
  | pinata p => exact hgateway
  | pinningNode n =>
    exact (Sends.asFetch (Client.sends_content network options sender _ cid)).mono
      fun sent result h => h.mono fun hready => PinningNode.ready hready.1 cid
  | gw3 g => exact g.sends_fetch hash network options sender cid
  | storacha s => exact hgateway
  | publicGateway g => exact hgateway

end AddressedStorage.Vendor
