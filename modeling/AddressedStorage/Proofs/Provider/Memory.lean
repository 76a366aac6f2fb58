import AddressedStorage.Provider.Memory
import AddressedStorage.Proofs.Provider.Action

/-!
# Proofs/Provider/Memory — a store in memory keeps what it was given

A store is **sound** if every entry is filed under the identifier its bytes hash to.  The empty
store is, and uploading keeps it so.  An entry that is there stays, so a sound store that **holds**
an identifier keeps holding it (`preserves_holds`).
-/

namespace AddressedStorage.Memory

/-- Every entry is filed under the identifier of its bytes. -/
def Sound (hash : HashFunction) (m : Memory) : Prop :=
  ∀ key content, m.find? key = some content → Dag.contentCid hash content = .ok key

/-- The store is sound and has an entry for the key. -/
def Holds (hash : HashFunction) (key : Cid) (m : Memory) : Prop :=
  m.Sound hash ∧ (m.find? key).isSome

variable {hash : HashFunction} {m : Memory} {key cid : Cid} {content : ByteArray}

theorem sound_empty : empty.Sound hash := fun _ _ h => nomatch h

@[simp] theorem find?_addPin (m : Memory) (pinned key : Cid) :
    (m.addPin pinned).find? key = m.find? key := by
  rw [addPin]
  split <;> rfl

/-- **An entry that is there is left alone**; a new one is found under its key only. -/
theorem find?_insertNew (m : Memory) (key : Cid) (content : ByteArray) (k : Cid) :
    (m.insertNew key content).find? k =
      (m.find? k).or (if k = key then some content else none) := by
  rw [insertNew]
  split
  · rename_i h
    obtain ⟨filed, hfiled⟩ := Option.isSome_iff_exists.mp h
    split
    · rename_i hk
      rw [hk, hfiled, Option.some_or]
    · rw [Option.or_none]
  · rw [find?, find?, List.lookup_append]
    by_cases hk : k = key
    · simp [hk]
    · have hne : (k == key) = false := beq_eq_false_iff_ne.mpr hk
      simp [List.lookup_cons, hne, hk]

/-- Content filed under its identifier leaves the store sound. -/
theorem Sound.insertNew (h : m.Sound hash) (hcontent : Dag.contentCid hash content = .ok key) :
    (m.insertNew key content).Sound hash := by
  intro k bytes hfind
  rw [find?_insertNew, Option.or_eq_some_iff] at hfind
  rcases hfind with hfiled | ⟨-, hnew⟩
  · exact h k bytes hfiled
  · obtain ⟨rfl, hbytes⟩ := Option.ite_none_right_eq_some.mp hnew
    exact Option.some.inj hbytes ▸ hcontent

/-- After an upload the store holds what was uploaded. -/
theorem Sound.holds_insertNew (h : m.Sound hash)
    (hcontent : Dag.contentCid hash content = .ok key) :
    (m.insertNew key content).Holds hash key := by
  refine ⟨h.insertNew hcontent, ?_⟩
  rw [find?_insertNew, if_pos rfl]
  cases m.find? key <;> rfl

/-- **A store keeps what it holds.** -/
theorem Holds.insertNew (h : m.Holds hash key) (hcontent : Dag.contentCid hash content = .ok cid) :
    (m.insertNew cid content).Holds hash key := by
  obtain ⟨hsound, hfind⟩ := h
  refine ⟨hsound.insertNew hcontent, ?_⟩
  obtain ⟨filed, hfiled⟩ := Option.isSome_iff_exists.mp hfind
  rw [find?_insertNew, hfiled, Option.some_or]
  rfl

/-- Pinning changes no entry. -/
theorem Sound.addPin (h : m.Sound hash) (pinned : Cid) : (m.addPin pinned).Sound hash :=
  fun k bytes hfind => h k bytes (find?_addPin m pinned k ▸ hfind)

theorem Holds.addPin (h : m.Holds hash key) (pinned : Cid) : (m.addPin pinned).Holds hash key :=
  ⟨h.1.addPin pinned, (find?_addPin m pinned key).symm ▸ h.2⟩

/-! ## The store as a backend -/

/-- An entry is read in either version of its identifier. -/
theorem run_fetch (hkey : cid.toV0 = .ok key) (hfind : m.find? key = some content) :
    (fetch cid).run.run m = (.ok content, m) := by
  have hget : (get : Action Memory Memory).run.run m = (.ok m, m) := rfl
  rw [fetch, run_bind_of_ok (run_toV0 hkey m), run_bind_of_ok hget, hfind]
  rfl

/-- Content is filed under its identifier, which is the answer. -/
theorem run_upload (hcontent : Dag.contentCid hash content = .ok key) (m : Memory) :
    (upload hash content).run.run m = (.ok key, m.insertNew key content) := by
  rw [upload, run_bind_of_ok (run_contentCid hcontent m)]
  rfl

/-- What uploading and pinning preserve, every call preserves. -/
theorem preserves_backend {P : Memory → Prop} (name : String)
    (hinsert : ∀ m cid content, P m → Dag.contentCid hash content = .ok cid →
      P (m.insertNew cid content)) (hpin : ∀ m cid, P m → P (m.addPin cid)) :
    (backend hash name).Preserves P where
  fetch cid := by
    refine .bind (.ofExcept _) fun key => .bind .read fun m => ?_
    split
    · exact .ret _
    · exact .fail _
  upload content _ := by
    refine .ofExcept_bind fun cid hcid => .bind (.write fun m hm => ?_) fun _ => .ret cid
    exact hinsert m cid content hm (mapError_eq_ok_iff.mp hcid)
  pin cid := by
    refine .bind (.ofExcept _) fun key => .bind .read fun m => ?_
    split
    · exact .write fun m hm => hpin m key hm
    · exact .fail _

/-- **A store stays sound.** -/
theorem preserves_sound (hash : HashFunction) (name : String) :
    (backend hash name).Preserves (Sound hash) :=
  preserves_backend name (fun _ _ _ h => h.insertNew) fun _ cid h => h.addPin cid

/-- **A sound store keeps what it holds.** -/
theorem preserves_holds (hash : HashFunction) (name : String) (key : Cid) :
    (backend hash name).Preserves (Holds hash key) :=
  preserves_backend name (fun _ _ _ h => h.insertNew) fun _ cid h => h.addPin cid

end AddressedStorage.Memory
