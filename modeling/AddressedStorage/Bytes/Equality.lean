/-!
# Bytes/Equality — telling byte strings apart

Byte strings are compared as arrays of bytes, whatever other way is in scope, so equality of the
types that hold them means the same everywhere.
-/

namespace AddressedStorage.Bytes

instance (priority := 2000) decidableEq : DecidableEq ByteArray := ByteArray.instDecidableEq

end AddressedStorage.Bytes
