import AddressedStorage.Provider.Backend

/-!
# Provider/Memory — a store in memory

Content is filed under its version-0 identifier, so both versions of one identifier reach the same
entry.  Uploading files content under the identifier it hashes to and leaves an entry that is there
alone; only `insertRaw` files bytes unseen.
-/

namespace AddressedStorage

/-- The content of a store: entries, each under one key, and the pinned keys. -/
structure Memory where
  blocks : List (Cid × ByteArray)
  pinned : List Cid
  deriving DecidableEq, Inhabited

namespace Memory

/-- The store with nothing in it. -/
def empty : Memory where
  blocks := []
  pinned := []

/-- The number of entries. -/
def size (m : Memory) : Nat := m.blocks.length

/-- The bytes filed under a key. -/
def find? (m : Memory) (key : Cid) : Option ByteArray := m.blocks.lookup key

/-- Whether there is an entry for an identifier, in either version. -/
def contains (m : Memory) (cid : Cid) : Bool := (m.find? cid.normal).isSome

/-- Whether an identifier is pinned, in either version. -/
def isPinned (m : Memory) (cid : Cid) : Bool := m.pinned.contains cid.normal

/-- Files bytes under an identifier without hashing them, in place of what was there. -/
def insertRaw (m : Memory) (cid : Cid) (content : ByteArray) : Memory :=
  let key := cid.normal
  { m with blocks := m.blocks.filter (·.1 ≠ key) ++ [(key, content)] }

/-- Files content under its identifier unless there is an entry. -/
def insertNew (m : Memory) (key : Cid) (content : ByteArray) : Memory :=
  if (m.find? key).isSome then m else { m with blocks := m.blocks ++ [(key, content)] }

/-- Pins a key. -/
def addPin (m : Memory) (key : Cid) : Memory :=
  if m.pinned.contains key then m else { m with pinned := m.pinned ++ [key] }

/-- The reason given for an absent entry. -/
def notFound : String := "not found"

/-- The bytes behind an identifier that has a version-0 form. -/
def fetch (cid : Cid) : Action Memory ByteArray := do
  let key ← Action.toV0 cid
  match (← get).find? key with
  | some content => return content
  | none => throw (.fetch cid notFound)

/-- Files content under the identifier it hashes to. -/
def upload (hash : HashFunction) (content : ByteArray) : Action Memory Cid := do
  let cid ← Action.contentCid hash content
  modify (·.insertNew cid content)
  return cid

/-- Pins an identifier that has an entry. -/
def pin (cid : Cid) : Action Memory Unit := do
  let key ← Action.toV0 cid
  if ((← get).find? key).isSome then
    modify (·.addPin key)
  else
    throw (.pin cid notFound)

/-- The name of a store that was given none. -/
def defaultName : String := "memory"

/-- A store as a backend. -/
def backend (hash : HashFunction) (name : String) : Backend Memory where
  name := name
  capabilities := .full
  fetch := fetch
  upload content _ := upload hash content
  pin := pin

/-- A store as it is shown: name and number of entries. -/
def shown (name : String) (m : Memory) : String :=
  "InMemoryBackend \x7b name: " ++ Quoted.encode name ++ s!", block_count: {m.size} " ++ "\x7d"

end Memory

end AddressedStorage
