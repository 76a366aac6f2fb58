import AddressedStorage.Proofs.Dag.Layout
import AddressedStorage.Proofs.Provider.Memory
import AddressedStorage.Proofs.Provider.Version
import Mathlib.Data.Finset.Dedup

/-!
# Proofs/Provider/Store — a store after any calls

A call leaves a store as it is, or files content, or pins a key (`effect_step`).  So each key keeps
one entry and stays in its normal form, and what is pinned stays an entry of version 0 (`Kept`).
Where nothing is filed unseen, the keys are the identifiers that were uploaded (`Files`).

What a call answers is read off the entries (`run_fetch_of_hasV0`, `run_pin_of_hasV0`), so the two
versions of an identifier never differ in it.
-/

namespace AddressedStorage.Memory

variable {hash : HashFunction} {m : Memory} {key cid : Cid} {content : ByteArray}

/-! ## Entries -/

/-- The keys of the entries, in the order in which they were filed. -/
def keys (m : Memory) : List Cid := m.blocks.map Prod.fst

theorem mem_keys_iff : key ∈ m.keys ↔ (m.find? key).isSome := by
  rw [find?, List.lookup_isSome_iff, keys, List.mem_map]
  simp only [beq_iff_eq, eq_comm (a := key)]

/-- Where each key has one entry, an entry is what is found under its key. -/
theorem mem_blocks_iff (h : m.keys.Nodup) : (key, content) ∈ m.blocks ↔ m.find? key = some content := by
  rw [find?, List.lookup_eq_some_iff]
  constructor
  · intro hmem
    obtain ⟨front, back, hblocks⟩ := List.append_of_mem hmem
    rw [keys, hblocks, List.map_append, List.map_cons, List.nodup_append] at h
    refine ⟨front, back, hblocks, fun entry hentry => bne_iff_ne.mpr fun heq => ?_⟩
    exact h.2.2 entry.1 (List.mem_map_of_mem hentry) key List.mem_cons_self heq.symm
  · rintro ⟨front, back, hblocks, -⟩
    exact hblocks ▸ List.mem_append_right front List.mem_cons_self

@[simp] theorem keys_addPin (m : Memory) (pinned : Cid) : (m.addPin pinned).keys = m.keys := by
  rw [addPin]
  split <;> rfl

@[simp] theorem pinned_insertNew (m : Memory) (key : Cid) (content : ByteArray) :
    (m.insertNew key content).pinned = m.pinned := by
  rw [insertNew]
  split <;> rfl

/-- Filing under a key that has an entry changes nothing. -/
theorem insertNew_of_mem (h : key ∈ m.keys) (content : ByteArray) : m.insertNew key content = m :=
  if_pos (mem_keys_iff.mp h)

theorem keys_insertNew_of_not_mem (h : key ∉ m.keys) (content : ByteArray) :
    (m.insertNew key content).keys = m.keys ++ [key] := by
  rw [insertNew, if_neg fun hsome => h (mem_keys_iff.mpr hsome), keys, List.map_append]
  rfl

/-- A key is filed, and no other. -/
@[simp] theorem mem_keys_insertNew {k : Cid} :
    k ∈ (m.insertNew key content).keys ↔ k ∈ m.keys ∨ k = key := by
  by_cases h : key ∈ m.keys
  · rw [insertNew_of_mem h]
    exact ⟨.inl, fun hk => hk.elim id fun heq => heq ▸ h⟩
  · rw [keys_insertNew_of_not_mem h, List.mem_append, List.mem_singleton]

/-- What is filed unseen takes the place of what was there. -/
theorem keys_insertRaw (m : Memory) (cid : Cid) (content : ByteArray) :
    (m.insertRaw cid content).keys = m.keys.filter (· ≠ cid.normal) ++ [cid.normal] := by
  rw [insertRaw, keys, keys, List.map_append, List.filter_map]
  rfl

@[simp] theorem mem_keys_insertRaw {k : Cid} :
    k ∈ (m.insertRaw cid content).keys ↔ k ∈ m.keys ∨ k = cid.normal := by
  rw [keys_insertRaw, List.mem_append, List.mem_filter, List.mem_singleton, decide_eq_true_eq]
  constructor
  · exact fun h => h.imp And.left id
  · intro h
    by_cases heq : k = cid.normal
    · exact .inr heq
    · exact .inl ⟨h.resolve_right heq, heq⟩

@[simp] theorem mem_pinned_addPin {k : Cid} :
    k ∈ (m.addPin key).pinned ↔ k ∈ m.pinned ∨ k = key := by
  rw [addPin]
  split
  · rename_i h
    exact ⟨.inl, fun hk => hk.elim id fun heq => heq ▸ List.contains_iff_mem.mp h⟩
  · rw [List.mem_append, List.mem_singleton]

/-- A normal form is its own. -/
theorem normal_normal (cid : Cid) : cid.normal.normal = cid.normal := by
  by_cases h : cid.HasV0
  · rw [Cid.normal_of_toV0 (Cid.toV0_of_hasV0 h)]
    rfl
  · rw [Cid.normal_of_not_hasV0 h, Cid.normal_of_not_hasV0 h]

theorem version_normal_of_hasV0 (h : cid.HasV0) : cid.normal.version = 0 := by
  rw [Cid.normal_of_toV0 (Cid.toV0_of_hasV0 h)]
  rfl

/-- The identifier of content is in its normal form. -/
theorem normal_of_contentCid (h : Dag.contentCid hash content = .ok key) : key.normal = key := by
  have hversion := Dag.version_of_contentCid h
  cases key with
  | v0 digest => rfl
  | v1 codec digest => cases hversion

theorem contains_iff : m.contains cid ↔ cid.normal ∈ m.keys := mem_keys_iff.symm

/-! ## Answers -/

/-- **Reading in either version** finds what is filed under the normal form. -/
theorem run_fetch_of_hasV0 (h : cid.HasV0) (m : Memory) :
    (fetch cid).run.run m =
      ((m.find? cid.normal).elim (.error (.fetch cid notFound)) .ok, m) := by
  have hkey := Cid.toV0_of_hasV0 h
  have hget : (get : Action Memory Memory).run.run m = (.ok m, m) := rfl
  rw [fetch, run_bind_of_ok (run_toV0 hkey m), run_bind_of_ok hget, Cid.normal_of_toV0 hkey]
  cases m.find? (.v0 cid.digest) <;> rfl

/-- **Pinning in either version** pins the normal form, if it has an entry. -/
theorem run_pin_of_hasV0 (h : cid.HasV0) (m : Memory) :
    (pin cid).run.run m =
      if m.contains cid then (.ok (), m.addPin cid.normal) else (.error (.pin cid notFound), m) := by
  have hkey := Cid.toV0_of_hasV0 h
  have hget : (get : Action Memory Memory).run.run m = (.ok m, m) := rfl
  rw [pin, run_bind_of_ok (run_toV0 hkey m), run_bind_of_ok hget, contains,
    Cid.normal_of_toV0 hkey]
  split <;> rfl

/-- What an identifier without a version-0 form is answered. -/
theorem run_fetch_of_not_hasV0 (h : ¬ cid.HasV0) (m : Memory) :
    (fetch cid).run.run m = (.error (.identifier (.noV0Form cid.codec)), m) := by
  rw [fetch, Action.toV0, Cid.toV0_of_not_hasV0 h]
  rfl

theorem run_pin_of_not_hasV0 (h : ¬ cid.HasV0) (m : Memory) :
    (pin cid).run.run m = (.error (.identifier (.noV0Form cid.codec)), m) := by
  rw [pin, Action.toV0, Cid.toV0_of_not_hasV0 h]
  rfl

/-- Content without an identifier is not filed. -/
theorem run_upload_of_error {e : AddressingError} (h : Dag.contentCid hash content = .error e)
    (m : Memory) : (upload hash content).run.run m = (.error (.addressing e), m) := by
  rw [upload, Action.contentCid, h]
  rfl

theorem contentCid_of_maxContentLength_lt (h : Dag.maxContentLength < content.size) :
    Dag.contentCid hash content = .error (.contentTooLarge content.size Dag.maxContentLength) := by
  rw [Dag.contentCid_eq, Dag.build_of_maxContentLength_lt h]
  rfl

/-! ## Calls -/

/-- A call to a store. -/
inductive Call where
  | fetch (cid : Cid)
  | upload (content : ByteArray)
  | pin (cid : Cid)
  | insertRaw (cid : Cid) (content : ByteArray)

/-- The call as a step.  What it answers besides success is dropped. -/
def Call.step (hash : HashFunction) : Call → Action Memory Unit
  | fetch cid => do let _ ← Memory.fetch cid
  | upload content => do let _ ← Memory.upload hash content
  | pin cid => Memory.pin cid
  | insertRaw cid content => modify (·.insertRaw cid content)

/-- Whether the call files bytes unseen. -/
def Call.isRaw : Call → Bool
  | insertRaw _ _ => true
  | _ => false

/-- The identifier under which the call files content by its hash. -/
def Call.uploaded? (hash : HashFunction) : Call → Option Cid
  | upload content => (Dag.contentCid hash content).toOption
  | _ => none

/-- What is kept after one call after the other. -/
def after (hash : HashFunction) (calls : List Call) (m : Memory) : Memory :=
  calls.foldl (fun m call => ((call.step hash).run.run m).2) m

theorem after_append (hash : HashFunction) (calls later : List Call) (m : Memory) :
    after hash (calls ++ later) m = after hash later (after hash calls m) := List.foldl_append

/-- What a call may do to a store: nothing, or it files content under its identifier, pins a key that
has an entry, or files bytes unseen. -/
inductive Effect (hash : HashFunction) (m : Memory) :
    Call → Except ProviderError Unit × Memory → Prop where
  | none {call : Call} (result : Except ProviderError Unit) (hraw : call.isRaw = false)
      (huploaded : call.uploaded? hash = .none) : Effect hash m call (result, m)
  | filed {content : ByteArray} {key : Cid} (hkey : Dag.contentCid hash content = .ok key) :
      Effect hash m (.upload content) (.ok (), m.insertNew key content)
  | pinned {cid : Cid} (hcid : cid.HasV0) (hkey : m.contains cid) :
      Effect hash m (.pin cid) (.ok (), m.addPin cid.normal)
  | filedUnseen (cid : Cid) (content : ByteArray) :
      Effect hash m (.insertRaw cid content) (.ok (), m.insertRaw cid content)

/-- **Every call has one of these effects.** -/
theorem effect_step (hash : HashFunction) (call : Call) (m : Memory) :
    Effect hash m call ((call.step hash).run.run m) := by
  cases call with
  | fetch cid =>
    rw [Call.step, run_bind]
    by_cases h : cid.HasV0
    · rw [run_fetch_of_hasV0 h]
      cases m.find? cid.normal <;> exact .none _ rfl rfl
    · rw [run_fetch_of_not_hasV0 h]
      exact .none _ rfl rfl
  | upload content =>
    rw [Call.step, run_bind]
    cases hcontent : Dag.contentCid hash content with
    | error e =>
      rw [run_upload_of_error hcontent]
      exact .none _ rfl (by rw [Call.uploaded?, hcontent]; rfl)
    | ok key =>
      rw [run_upload hcontent]
      exact .filed hcontent
  | pin cid =>
    rw [Call.step]
    by_cases h : cid.HasV0
    · rw [run_pin_of_hasV0 h]
      split
      · exact .pinned h ‹_›
      · exact .none _ rfl rfl
    · rw [run_pin_of_not_hasV0 h]
      exact .none _ rfl rfl
  | insertRaw cid content => exact .filedUnseen cid content

/-- **A call that fails leaves the store as it was.** -/
theorem run_step_of_error {call : Call} {e : ProviderError}
    (h : ((call.step hash).run.run m).1 = .error e) : ((call.step hash).run.run m).2 = m := by
  have heffect := effect_step hash call m
  generalize (call.step hash).run.run m = outcome at h heffect ⊢
  cases heffect with
  | none => rfl
  | filed => cases h
  | pinned => cases h
  | filedUnseen => cases h

/-! ## What every run keeps -/

/-- Each key has one entry and is in its normal form, and what is pinned is an entry of
version 0. -/
structure Kept (m : Memory) : Prop where
  nodup : m.keys.Nodup
  normal : ∀ key ∈ m.keys, key.normal = key
  pinned : ∀ key ∈ m.pinned, key.version = 0 ∧ key ∈ m.keys

theorem kept_empty : empty.Kept :=
  ⟨List.nodup_nil, List.forall_mem_nil _, List.forall_mem_nil _⟩

theorem Kept.insertNew (h : m.Kept) (hkey : key.normal = key) (content : ByteArray) :
    (m.insertNew key content).Kept := by
  by_cases hmem : key ∈ m.keys
  · rwa [insertNew_of_mem hmem]
  · refine ⟨?_, fun k hk => ?_, fun k hk => ?_⟩
    · rw [keys_insertNew_of_not_mem hmem, ← List.concat_eq_append]
      exact (List.nodup_concat _ _).mpr ⟨hmem, h.nodup⟩
    · exact (mem_keys_insertNew.mp hk).elim (h.normal k) fun heq => heq ▸ hkey
    · rw [pinned_insertNew] at hk
      exact (h.pinned k hk).imp_right fun hk => mem_keys_insertNew.mpr (.inl hk)

theorem Kept.insertRaw (h : m.Kept) (cid : Cid) (content : ByteArray) :
    (m.insertRaw cid content).Kept := by
  refine ⟨?_, fun k hk => ?_, fun k hk => ?_⟩
  · rw [keys_insertRaw, ← List.concat_eq_append]
    refine (List.nodup_concat _ _).mpr ⟨fun hmem => ?_, h.nodup.filter _⟩
    exact of_decide_eq_true (List.mem_filter.mp hmem).2 rfl
  · exact (mem_keys_insertRaw.mp hk).elim (h.normal k) fun heq => heq ▸ normal_normal cid
  · exact (h.pinned k hk).imp_right fun hk => mem_keys_insertRaw.mpr (.inl hk)

theorem Kept.addPin (h : m.Kept) (hversion : key.version = 0) (hkey : key ∈ m.keys) :
    (m.addPin key).Kept where
  nodup := (keys_addPin m key).symm ▸ h.nodup
  normal := (keys_addPin m key).symm ▸ h.normal
  pinned k hk := by
    rw [keys_addPin]
    exact (mem_pinned_addPin.mp hk).elim (h.pinned k) fun heq => heq ▸ ⟨hversion, hkey⟩

/-- **A call keeps the store in order and loses no key.** -/
theorem Kept.step (h : m.Kept) (hash : HashFunction) (call : Call) :
    ((call.step hash).run.run m).2.Kept ∧ m.keys ⊆ ((call.step hash).run.run m).2.keys := by
  have heffect := effect_step hash call m
  generalize (call.step hash).run.run m = outcome at heffect ⊢
  cases heffect with
  | none => exact ⟨h, List.Subset.refl _⟩
  | filed hkey =>
    exact ⟨h.insertNew (normal_of_contentCid hkey) _, fun k hk => mem_keys_insertNew.mpr (.inl hk)⟩
  | pinned hcid hkey =>
    exact ⟨h.addPin (version_normal_of_hasV0 hcid) (contains_iff.mp hkey),
      (keys_addPin m _).symm ▸ List.Subset.refl _⟩
  | filedUnseen cid content =>
    exact ⟨h.insertRaw cid content, fun k hk => mem_keys_insertRaw.mpr (.inl hk)⟩

/-- **So does every run.** -/
theorem Kept.after (h : m.Kept) (hash : HashFunction) (calls : List Call) :
    (Memory.after hash calls m).Kept ∧ m.keys ⊆ (Memory.after hash calls m).keys := by
  induction calls generalizing m with
  | nil => exact ⟨h, List.Subset.refl _⟩
  | cons call calls ih =>
    obtain ⟨hstep, hkeys⟩ := h.step hash call
    obtain ⟨hafter, hlater⟩ := ih hstep
    exact ⟨hafter, List.Subset.trans hkeys hlater⟩

/-! ## What holds where nothing is filed unseen -/

/-- The identifiers that calls upload, in order. -/
def uploaded (hash : HashFunction) (calls : List Call) : List Cid :=
  calls.filterMap (Call.uploaded? hash)

/-- The store is in order, its entries hash to their keys, and its keys are the identifiers that were
uploaded. -/
structure Files (hash : HashFunction) (seen : List Cid) (m : Memory) : Prop where
  kept : m.Kept
  sound : m.Sound hash
  keys : ∀ key, key ∈ m.keys ↔ key ∈ seen

theorem files_empty (hash : HashFunction) : empty.Files hash [] :=
  ⟨kept_empty, sound_empty, fun _ => Iff.rfl⟩

/-- **One more call**, which files nothing unseen. -/
theorem Files.step {seen : List Cid} (h : m.Files hash seen) {call : Call}
    (hraw : call.isRaw = false) :
    ((call.step hash).run.run m).2.Files hash (seen ++ (call.uploaded? hash).toList) := by
  have hkept := (h.kept.step hash call).1
  have heffect := effect_step hash call m
  generalize (call.step hash).run.run m = outcome at hkept heffect ⊢
  cases heffect with
  | none _ _ huploaded =>
    rw [huploaded, Option.toList_none, List.append_nil]
    exact h
  | @filed content key hkey =>
    have huploaded : (Call.upload content).uploaded? hash = some key := by
      rw [Call.uploaded?, hkey]
      rfl
    refine ⟨hkept, h.sound.insertNew hkey, fun k => ?_⟩
    rw [huploaded, mem_keys_insertNew, h.keys, List.mem_append, Option.toList_some,
      List.mem_singleton]
  | @pinned cid hcid hkey =>
    have huploaded : (Call.pin cid).uploaded? hash = none := rfl
    refine ⟨hkept, h.sound.addPin _, fun k => ?_⟩
    rw [keys_addPin, h.keys, huploaded, Option.toList_none, List.append_nil]
  | filedUnseen => cases hraw

/-- **So after every run.** -/
theorem Files.after {seen : List Cid} (h : m.Files hash seen) {calls : List Call}
    (hraw : ∀ call ∈ calls, call.isRaw = false) :
    (Memory.after hash calls m).Files hash (seen ++ uploaded hash calls) := by
  induction calls generalizing m seen with
  | nil => rwa [uploaded, List.filterMap_nil, List.append_nil]
  | cons call calls ih =>
    obtain ⟨hcall, hcalls⟩ := List.forall_mem_cons.mp hraw
    have hrest := ih (h.step hcall) hcalls
    have hseen : uploaded hash (call :: calls) =
        (call.uploaded? hash).toList ++ uploaded hash calls := by
      rw [uploaded, uploaded, List.filterMap_cons]
      cases call.uploaded? hash <;> rfl
    rwa [List.append_assoc, ← hseen] at hrest

/-- There are as many entries as identifiers. -/
theorem Files.size_eq {seen : List Cid} (h : m.Files hash seen) : m.size = seen.toFinset.card := by
  have hkeys : m.keys.toFinset = seen.toFinset := by
    ext key
    rw [List.mem_toFinset, List.mem_toFinset, h.keys]
  rw [← hkeys, List.toFinset_card_of_nodup h.kept.nodup, Memory.keys, List.length_map, size]

/-- **Uploading what is stored changes nothing.** -/
theorem Files.run_upload_of_mem {seen : List Cid} (h : m.Files hash seen)
    (hmem : (key, content) ∈ m.blocks) :
    Dag.contentCid hash content = .ok key ∧ (upload hash content).run.run m = (.ok key, m) := by
  have hcontent := h.sound key content ((mem_blocks_iff h.kept.nodup).mp hmem)
  have hkey : key ∈ m.keys := List.mem_map_of_mem hmem
  exact ⟨hcontent, by rw [run_upload hcontent, insertNew_of_mem hkey]⟩

/-! ## A store after any calls -/

/-- **Calls on a store.**  After any calls each key has one entry, none is a DAG-PB identifier of
version 1, none is ever lost, and what is pinned is an entry of version 0.  Reading and pinning an
identifier succeed just if it has an entry, the same in both versions, and refuse an identifier
without a version-0 form.  A call that fails changes nothing, and no read does; a pin without entry and
an upload that is too large fail.  And where nothing was filed unseen, every entry hashes to its key,
uploading it again changes nothing, and there are as many entries as identifiers that were uploaded. -/
theorem consistent_after (hash : HashFunction) (calls : List Call) :
    let m := after hash calls empty
    (m.keys.Nodup ∧ ∀ digest, .v1 .dagPb digest ∉ m.keys) ∧
    (∀ later, m.keys ⊆ (after hash (calls ++ later) empty).keys) ∧
    (∀ key ∈ m.pinned, key.version = 0 ∧ key ∈ m.keys) ∧
    (∀ cid : Cid, cid.HasV0 →
      ((∃ content, ((fetch cid).run.run m).1 = .ok content) ↔ m.contains cid) ∧
      (((pin cid).run.run m).1 = .ok () ↔ m.contains cid)) ∧
    (∀ digest,
      (∀ content, ((fetch (.v0 digest)).run.run m).1 = .ok content ↔
        ((fetch (.v1 .dagPb digest)).run.run m).1 = .ok content) ∧
      m.contains (.v0 digest) = m.contains (.v1 .dagPb digest) ∧
      m.isPinned (.v0 digest) = m.isPinned (.v1 .dagPb digest)) ∧
    (∀ cid : Cid, ¬ cid.HasV0 → ∃ e, ((fetch cid).run.run m).1 = .error (.identifier e) ∧
      ((pin cid).run.run m).1 = .error (.identifier e)) ∧
    (∀ (call : Call) (e : ProviderError), ((call.step hash).run.run m).1 = .error e →
      ((call.step hash).run.run m).2 = m) ∧
    (∀ cid, ((fetch cid).run.run m).2 = m) ∧
    (∀ content, Dag.maxContentLength < content.size → ∃ e, ((upload hash content).run.run m).1 =
      .error e) ∧
    ((∀ call ∈ calls, call.isRaw = false) →
      (∀ entry ∈ m.blocks, Dag.contentCid hash entry.2 = .ok entry.1 ∧
        (upload hash entry.2).run.run m = (.ok entry.1, m)) ∧
      m.size = (uploaded hash calls).toFinset.card) := by
  intro m
  have hkept : m.Kept := (kept_empty.after hash calls).1
  refine ⟨⟨hkept.nodup, fun digest hmem => ?_⟩, fun later => ?_, hkept.pinned, fun cid hcid => ?_,
    fun digest => ⟨fun content => ?_, rfl, rfl⟩, fun cid hcid => ?_,
    fun call e he => run_step_of_error he, fun cid => ?_, fun content hsize => ?_, fun hraw => ?_⟩
  · cases hkept.normal _ hmem
  · rw [after_append]
    exact (hkept.after hash later).2
  · rw [run_fetch_of_hasV0 hcid, run_pin_of_hasV0 hcid, contains]
    cases m.find? cid.normal <;> simp
  · have hv0 : (Cid.v0 digest).HasV0 := rfl
    have hv1 : (Cid.v1 .dagPb digest).HasV0 := rfl
    have hnormal : (Cid.v1 .dagPb digest).normal = (Cid.v0 digest).normal := rfl
    rw [run_fetch_of_hasV0 hv0, run_fetch_of_hasV0 hv1, hnormal]
    cases m.find? (Cid.v0 digest).normal <;> simp
  · exact ⟨_, by rw [run_fetch_of_not_hasV0 hcid], by rw [run_pin_of_not_hasV0 hcid]⟩
  · by_cases hcid : cid.HasV0
    · rw [run_fetch_of_hasV0 hcid]
    · rw [run_fetch_of_not_hasV0 hcid]
  · exact ⟨_, by rw [run_upload_of_error (contentCid_of_maxContentLength_lt hsize)]⟩
  · have hfiles : m.Files hash (uploaded hash calls) := (files_empty hash).after hraw
    exact ⟨fun entry hentry => hfiles.run_upload_of_mem hentry, hfiles.size_eq⟩

end AddressedStorage.Memory
