import AddressedStorage.Digest.Sha256
import AddressedStorage.Proofs.Fleet.Keeper

/-!
# Proofs/Fleet/Honest — one honest provider is enough

All providers are verified and one of them is a store in memory that only this fleet reaches; the
others do what they like.  What is uploaded is answered with its identifier
(`OneHonest.run_publishAll`), which the store gives.  The store keeps it through every run, so a read
is answered as well (`OneHonest.run_fetch_fleet`).
-/

namespace AddressedStorage.Fleet

variable {τ : Type}

/-- All providers are verified, and one of them is a store on the first part of the state, which no
other provider reaches. -/
structure OneHonest (hash : HashFunction) (fleet : Fleet (Memory × τ)) (honest : Fin fleet.size) :
    Prop where
  verified : ∀ i, (fleet.provider i).verification = .enabled
  store : ∃ name, (fleet.provider honest).backend =
    (Memory.backend hash name).zoom Prod.fst fun m s => (m, s.2)
  others : ∀ i, i ≠ honest → ∃ b : Backend τ, (fleet.provider i).backend =
    b.zoom Prod.snd fun t s => (s.1, t)

namespace OneHonest

variable {hash : HashFunction} {fleet : Fleet (Memory × τ)} {honest : Fin fleet.size}
  {cid key : Cid} {content : ByteArray} {s : Memory × τ}

/-- The honest provider is a store on the first part of the state. -/
theorem stores (h : fleet.OneHonest hash honest) :
    (fleet.provider honest).Stores hash Prod.fst fun m s => (m, s.2) where
  verified := h.verified honest
  backend_eq := h.store
  get_put _ _ := rfl

/-- What the store preserves, every provider preserves. -/
theorem preserves (h : fleet.OneHonest hash honest) {P : Memory → Prop}
    (hP : ∀ name, (Memory.backend hash name).Preserves P) (i : Fin fleet.size) :
    (fleet.provider i).backend.Preserves fun s => P s.1 := by
  by_cases hi : i = honest
  · exact hi ▸ h.stores.preserves hP
  · obtain ⟨b, hb⟩ := h.others i hi
    rw [hb]
    exact b.preserves_zoom fun _ _ => id

theorem preserves_sound (h : fleet.OneHonest hash honest) (i : Fin fleet.size) :
    (fleet.provider i).backend.Preserves fun s => s.1.Sound hash :=
  h.preserves (fun name => Memory.preserves_sound hash name) i

theorem preserves_holds (h : fleet.OneHonest hash honest) (key : Cid) (i : Fin fleet.size) :
    (fleet.provider i).backend.Preserves fun s => s.1.Holds hash key :=
  h.preserves (fun name => Memory.preserves_holds hash name key) i

/-- **What is uploaded is answered with its identifier**, whatever the other providers say, and the
store holds it from then on. -/
theorem run_publishAll (h : fleet.OneHonest hash honest) (hkey : key.toV0 = .ok key)
    (hcontent : Dag.contentCid hash content = .ok key) (name : Option String)
    {x : Session (Memory × τ) fleet.size} (hx : x.2.1.Sound hash) :
    ∃ r y, (fleet.publishAll hash content name).run.run x = (.ok r, (x.1, y)) ∧ r.cid = key ∧
      y.1.Holds hash key :=
  run_publishAll_of_taken h.verified h.preserves_sound (h.preserves_holds key) hcontent
    (fun _ hs => h.stores.run_publish hkey hcontent name hs) hx

theorem run_publish_fleet (h : fleet.OneHonest hash honest) (hkey : key.toV0 = .ok key)
    (hcontent : Dag.contentCid hash content = .ok key) (name : Option String)
    {x : Session (Memory × τ) fleet.size} (hx : x.2.1.Sound hash) :
    ∃ y, (fleet.publish hash content name).run.run x = (.ok key, (x.1, y)) ∧
      y.1.Holds hash key :=
  run_publish_of_taken h.verified h.preserves_sound (h.preserves_holds key) hcontent
    (fun _ hs => h.stores.run_publish hkey hcontent name hs) hx

/-- **After a call that uploads content the store holds it.** -/
theorem holds_perform (h : fleet.OneHonest hash honest) (hkey : key.toV0 = .ok key)
    (hcontent : Dag.contentCid hash content = .ok key) {request : Request} {name : Option String}
    (hupload : request.upload? = some (content, name)) {x : Session (Memory × τ) fleet.size}
    (hsettled : x.1.Settled) (hx : x.2.1.Sound hash) :
    fleet.Steady (fun s => s.1.Holds hash key) (fleet.perform hash request x) := by
  cases request with
  | fetch cid frame => cases hupload
  | publish content' name' =>
    obtain ⟨rfl, rfl⟩ := Prod.mk.inj (Option.some.inj hupload)
    obtain ⟨y, hrun, hy⟩ := h.run_publish_fleet hkey hcontent name' hx
    rw [perform, hrun]
    exact ⟨hsettled, hy⟩
  | publishAll content' name' =>
    obtain ⟨rfl, rfl⟩ := Prod.mk.inj (Option.some.inj hupload)
    obtain ⟨r, y, hrun, -, hy⟩ := h.run_publishAll hkey hcontent name' hx
    rw [perform, hrun]
    exact ⟨hsettled, hy⟩
  | selfCheck frame =>
    obtain ⟨rfl, rfl⟩ := Prod.mk.inj (Option.some.inj hupload)
    obtain ⟨y, hrun, hy⟩ := h.run_publish_fleet hkey hcontent none hx
    rw [perform, selfCheck, run_bind_of_ok hrun]
    have hfetch := steady_fetch hash (h.preserves_holds key) key frame
    refine hfetch.bind (fun content => ?_) _ ⟨hsettled, hy⟩
    split
    · exact .ret key
    · exact .fail _

/-- **A read of what the store holds is answered**, with bytes that hash to the identifier. -/
theorem run_fetch_fleet (h : fleet.OneHonest hash honest) (hkey : cid.toV0 = .ok key)
    (frame : Frame) {x : Session (Memory × τ) fleet.size} (hsettled : x.1.Settled)
    (hx : x.2.1.Holds hash key) :
    ∃ content, ((fleet.fetch hash cid frame).run.run x).1 = .ok content ∧
      Dag.contentCid hash content = .ok key :=
  run_fetch_of_served h.verified (h.preserves_holds key) hkey
    (fun _ hs => h.stores.run_fetch hkey hs) frame hsettled hx

end OneHonest

/-- **One honest provider is enough.**  Whatever was called before, a payload that is not too large
is uploaded under its identifier; and whatever is called after, reading either version of that
identifier gives bytes that hash to it, at every frame. -/
theorem fetch_after_publish {hash : HashFunction} {fleet : Fleet (Memory × τ)}
    {honest : Fin fleet.size} (h : fleet.OneHonest hash honest) (t : τ) (before : List Request)
    (request : Request) (later : List Request) {payload : ByteArray} {name : Option String}
    (hupload : request.upload? = some (payload, name))
    (hsize : payload.size ≤ Dag.maxContentLength) :
    let x := fleet.after hash before (fleet.cursor, (Memory.empty, t))
    let y := fleet.after hash (request :: later) x
    ∃ key, Dag.contentCid hash payload = .ok key ∧
      ((fleet.publish hash payload name).run.run x).1 = .ok key ∧
      ∀ cid, cid = key ∨ cid = key.toV1 → ∀ frame, ∃ content,
        ((fleet.fetch hash cid frame).run.run y).1 = .ok content ∧
          Dag.contentCid hash content = .ok key := by
  intro x y
  obtain ⟨digest, hcontent⟩ := Dag.exists_contentCid_of_le hash hsize
  have hx : fleet.Steady (fun s => s.1.Sound hash) x :=
    steady_after h.preserves_sound before (steady_cursor Memory.sound_empty)
  have hy : fleet.Steady (fun s => s.1.Holds hash (.v0 digest)) y :=
    steady_after (h.preserves_holds _) later (h.holds_perform rfl hcontent hupload hx.1 hx.2)
  obtain ⟨_, hpublish, -⟩ := h.run_publish_fleet rfl hcontent name hx.2
  refine ⟨.v0 digest, hcontent, congrArg Prod.fst hpublish, fun cid hcid frame => ?_⟩
  have hkey : cid.toV0 = .ok (.v0 digest) := by
    rcases hcid with rfl | rfl <;> rfl
  exact h.run_fetch_fleet hkey frame hy.1 hy.2

/-- A backend that takes everything, reports a fixed identifier and serves no bytes for any. -/
def liar : Backend Unit where
  name := "liar"
  capabilities := .full
  fetch _ := return ByteArray.empty
  upload _ _ := return .v0 Digest.zero
  pin _ := return

/-- A liar, then a store. -/
def liarAndStore (hash : HashFunction) : Fleet (Memory × Unit) where
  providers := #[⟨liar.zoom Prod.snd fun t s => (s.1, t), .enabled⟩,
    ⟨(Memory.backend hash Memory.defaultName).zoom Prod.fst fun m s => (m, s.2), .enabled⟩]
  retries := 1
  size_pos := Nat.succ_pos 1
  retries_pos := Nat.one_pos

theorem oneHonest_liarAndStore (hash : HashFunction) :
    (liarAndStore hash).OneHonest hash ⟨1, Nat.one_lt_two⟩ where
  verified := by
    rintro ⟨_ | _ | i, hi⟩
    · rfl
    · rfl
    · exact absurd hi (by simp [liarAndStore, size])
  store := ⟨Memory.defaultName, rfl⟩
  others := by
    rintro ⟨_ | _ | i, hi⟩ hne
    · exact ⟨liar, rfl⟩
    · exact absurd rfl hne
    · exact absurd hi (by simp [liarAndStore, size])

/-- With a liar before the store, three bytes are read back after a self-check, an upload and a read
of something else. -/
theorem fetch_after_publish_liarAndStore :
    (liarAndStore Sha256.digest).OneHonest Sha256.digest ⟨1, Nat.one_lt_two⟩ ∧
      (Request.publish ⟨#[1, 2, 3]⟩ none).upload? = some (⟨#[1, 2, 3]⟩, none) ∧
      ByteArray.size ⟨#[1, 2, 3]⟩ ≤ Dag.maxContentLength ∧
      ∃ key, Dag.contentCid Sha256.digest ⟨#[1, 2, 3]⟩ = .ok key ∧
        ∃ content, (((liarAndStore Sha256.digest).fetch Sha256.digest key.toV1 ⟨4⟩).run.run
            ((liarAndStore Sha256.digest).after Sha256.digest
              [.publish ⟨#[1, 2, 3]⟩ none, .fetch (.v0 Digest.zero) ⟨2⟩]
              ((liarAndStore Sha256.digest).after Sha256.digest [.selfCheck ⟨0⟩]
                ((liarAndStore Sha256.digest).cursor, (Memory.empty, ()))))).1 = .ok content ∧
          Dag.contentCid Sha256.digest content = .ok key := by
  have hhonest := oneHonest_liarAndStore Sha256.digest
  have hsize : ByteArray.size ⟨#[1, 2, 3]⟩ ≤ Dag.maxContentLength := by decide
  obtain ⟨key, hkey, -, hread⟩ := fetch_after_publish hhonest () [.selfCheck ⟨0⟩]
    (.publish ⟨#[1, 2, 3]⟩ none) [.fetch (.v0 Digest.zero) ⟨2⟩] rfl hsize
  exact ⟨hhonest, rfl, hsize, key, hkey, hread key.toV1 (.inr rfl) ⟨4⟩⟩

end AddressedStorage.Fleet
