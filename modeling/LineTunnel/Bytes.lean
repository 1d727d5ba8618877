/-! Byte strings, with the two encodings that wire formats need: the UTF-8 bytes of a text and
the big-endian form of a port. -/

namespace LineTunnel

abbrev Bytes := List UInt8

def utf8 (s : String) : Bytes := s.toByteArray.data.toList

def bigEndian (n : UInt16) : Bytes := [(n >>> 8).toUInt8, n.toUInt8]

def ofBigEndian (high low : UInt8) : UInt16 := high.toUInt16 * 256 + low.toUInt16

@[simp] theorem length_utf8 (s : String) : (utf8 s).length = s.utf8ByteSize := rfl

theorem fromUTF8?_utf8 (s : String) : String.fromUTF8? ⟨(utf8 s).toArray⟩ = some s :=
  dif_pos s.isValidUTF8

@[simp] theorem length_bigEndian (n : UInt16) : (bigEndian n).length = 2 := rfl

theorem ofBigEndian_bytes (n : UInt16) : ofBigEndian (n >>> 8).toUInt8 n.toUInt8 = n := by
  have hhigh : (n >>> 8).toUInt8.toNat = n.toNat / 256 % 256 := by
    simp [Nat.shiftRight_eq_div_pow]
  have hlow : n.toUInt8.toNat = n.toNat % 256 := by simp
  have hlt := n.toNat_lt
  refine UInt16.toNat_inj.1 ?_
  simp only [ofBigEndian, UInt16.toNat_add, UInt16.toNat_mul, UInt8.toNat_toUInt16, hhigh, hlow,
    UInt16.reduceToNat]
  omega

end LineTunnel
