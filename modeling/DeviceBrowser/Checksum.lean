/-! The 32-bit FNV-1a checksum of bytes. -/

namespace DeviceBrowser

/-- One byte folded into a checksum: exclusive or, then multiplication by the prime. -/
def checksumStep (sum : UInt32) (byte : UInt8) : UInt32 :=
  (sum ^^^ byte.toUInt32) * 0x01000193

/-- The FNV-1a checksum of bytes, from the offset basis on. -/
def checksum (bytes : List UInt8) : UInt32 :=
  bytes.foldl checksumStep 0x811c9dc5

end DeviceBrowser
