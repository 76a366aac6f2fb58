import AddressedStorage.Cid.Text
import AddressedStorage.Document.Json
import AddressedStorage.Network.ChainId
import AddressedStorage.Provider.Verified
import AddressedStorage.Rotation.Frame

/-!
# Config/Value — identifiers, numbers and choices in documents

Identifiers stand in documents as their canonical texts, frames and chain ids as integers, and modes
as words.
-/

namespace AddressedStorage

/-- Reads an identifier in any of its spellings. -/
def Cid.ofDocument? (d : Document) : Option Cid := d.text?.bind fun s => (Cid.parse s).toOption

/-- Writes an identifier. -/
def Cid.toDocument (c : Cid) : Document := .text c.toString

/-- Reads a frame. -/
def Frame.ofDocument? (d : Document) : Option Frame := d.uint64?.map Frame.mk

/-- Writes a frame. -/
def Frame.toDocument (f : Frame) : Document := .integer f.number.toNat

/-- Reads a chain id. -/
def ChainId.ofDocument? (d : Document) : Option ChainId := d.uint64?.map ChainId.mk

/-- Writes a chain id. -/
def ChainId.toDocument (id : ChainId) : Document := .integer id.value.toNat

/-- The mode a word names. -/
def Verification.ofName? : String → Option Verification
  | "enabled" => some .enabled
  | "disabled" => some .disabled
  | _ => none

/-- Reads a mode. -/
def Verification.ofDocument? : Document → Option Verification := Document.choice? ofName?

/-- Writes a mode. -/
def Verification.toDocument (v : Verification) : Document := .text v.name

/-- The scope a word names. -/
def FetchScope.ofName? : String → Option FetchScope
  | "global" => some .global
  | "own-uploads" => some .ownUploads
  | _ => none

/-- Reads a scope. -/
def FetchScope.ofDocument? : Document → Option FetchScope := Document.choice? ofName?

/-- Writes a scope. -/
def FetchScope.toDocument (s : FetchScope) : Document := .text s.name

end AddressedStorage
