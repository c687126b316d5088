/-!
# Checksums

The cyclic redundancy check of 32 bits that closes each chunk of a PNG file.
-/

namespace DriverDesk.Image

/-- One bit of the division by the generator, whose bits stand in reverse order. -/
def checksumBit (sum : UInt32) : UInt32 :=
  if sum &&& 1 = 1 then (sum >>> 1) ^^^ 0xEDB88320 else sum >>> 1

/-- The sum after one more octet. -/
def checksumOctet (sum : UInt32) (octet : UInt8) : UInt32 :=
  Nat.repeat checksumBit 8 (sum ^^^ octet.toUInt32)

/-- The checksum of some octets. -/
def checksum (octets : List UInt8) : UInt32 :=
  octets.foldl checksumOctet 0xFFFFFFFF ^^^ 0xFFFFFFFF

end DriverDesk.Image
