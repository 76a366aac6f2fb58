import AddressedStorage.Bytes.Base32
import AddressedStorage.Bytes.Base58
import AddressedStorage.Bytes.Base64
import AddressedStorage.Bytes.Cut
import AddressedStorage.Bytes.Equality
import AddressedStorage.Bytes.Hex
import AddressedStorage.Bytes.Radix
import AddressedStorage.Bytes.Varint
import AddressedStorage.Digest.Basic
import AddressedStorage.Digest.Hmac
import AddressedStorage.Digest.Sha256
import AddressedStorage.Cid.Text
import AddressedStorage.Network.ChainId
import AddressedStorage.Rotation.Frame
import AddressedStorage.Car.Contents
import AddressedStorage.Fleet.Basic
import AddressedStorage.Fleet.Shuffle
import AddressedStorage.Provider.Memory
import AddressedStorage.Provider.Scripted
import AddressedStorage.Document.Json
import AddressedStorage.Http.Url
import AddressedStorage.Http.Client
import AddressedStorage.Http.Redirect
import AddressedStorage.Http.Replay
import AddressedStorage.Vendor.Gw3
import AddressedStorage.Vendor.Pinata
import AddressedStorage.Vendor.PinningNode
import AddressedStorage.Vendor.PublicGateway
import AddressedStorage.Vendor.Storacha
import AddressedStorage.Config.Basic
import AddressedStorage.Config.Value
import AddressedStorage.Proofs.Car.Contents
import AddressedStorage.Proofs.Cid.Text
import AddressedStorage.Proofs.Config.Build
import AddressedStorage.Proofs.Dag.Arrangement
import AddressedStorage.Proofs.Dag.Binding
import AddressedStorage.Proofs.Dag.Payload
import AddressedStorage.Proofs.Dag.Reassembly
import AddressedStorage.Proofs.Fleet.Lasting
import AddressedStorage.Proofs.Fleet.SelfCheck
import AddressedStorage.Proofs.Network.Consistency
import AddressedStorage.Proofs.Network.FirstOffence
import AddressedStorage.Proofs.Network.Notation
import AddressedStorage.Proofs.Fleet.Requests
import AddressedStorage.Proofs.Http.Delay
import AddressedStorage.Proofs.Http.Retry
import AddressedStorage.Proofs.Http.Success
import AddressedStorage.Proofs.Provider.Effects
import AddressedStorage.Proofs.Provider.Store
import AddressedStorage.Proofs.Rotation.Moves
import AddressedStorage.Proofs.Vendor.Presigned
import AddressedStorage.Proofs.Vendor.Storacha
import AddressedStorage.Proofs.Vendor.Failure
import AddressedStorage.Proofs.Vendor.Signature
import AddressedStorage.Proofs.Vendor.Signer
