/-!
# The checksum of gzip

A cyclic redundancy check of 32 bits over bytes. It can be worked out piece by piece.
-/

namespace QueryClient.Gzip

def checksumBit (register : UInt32) : UInt32 :=
  if register &&& 1 == 1 then (register >>> 1) ^^^ 0xedb88320 else register >>> 1

def checksumEight (register : UInt32) : UInt32 :=
  checksumBit (checksumBit (checksumBit (checksumBit
    (checksumBit (checksumBit (checksumBit (checksumBit register)))))))

def checksumByte (register : UInt32) (b : UInt8) : UInt32 :=
  checksumEight (register ^^^ b.toUInt32)

/-- The checksum after more bytes, given the one of those before. -/
def checksum (before : UInt32) (data : List UInt8) : UInt32 :=
  (data.foldl checksumByte (before ^^^ 0xffffffff)) ^^^ 0xffffffff

@[simp] theorem checksum_nil (before : UInt32) : checksum before [] = before := by
  rw [checksum, List.foldl_nil, UInt32.xor_assoc, UInt32.xor_self, UInt32.xor_zero]

theorem checksum_append (before : UInt32) (data more : List UInt8) :
    checksum before (data ++ more) = checksum (checksum before data) more := by
  simp only [checksum, List.foldl_append]
  rw [UInt32.xor_assoc _ 0xffffffff 0xffffffff, UInt32.xor_self, UInt32.xor_zero]

/-- A number as four bytes, the least first. -/
def fourBytes (n : Nat) : List UInt8 :=
  [(n % 256).toUInt8, (n / 256 % 256).toUInt8, (n / 65536 % 256).toUInt8,
    (n / 16777216 % 256).toUInt8]

end QueryClient.Gzip
