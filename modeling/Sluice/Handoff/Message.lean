/-!
# Descriptors as bytes

A descriptor number travels as four bytes in two's complement, least significant byte first. Every
four bytes are the form of one number (`encode_decode`), and every number is read back from its form
(`decode_encode`).
-/

namespace Sluice.Handoff

/-- The number of bytes of a message. -/
def messageLength : Nat := 4

/-- The bytes of a number. -/
def encode (v : Int32) : List UInt8 :=
  let n := v.toUInt32.toNat
  [n.toUInt8, (n >>> 8).toUInt8, (n >>> 16).toUInt8, (n >>> 24).toUInt8]

/-- The number that `bytes` are the form of. -/
def decode (bytes : List UInt8) : Int32 :=
  (bytes.foldr (fun (b : UInt8) n => b.toNat + n <<< 8) 0).toUInt32.toInt32

@[simp] theorem length_encode (v : Int32) : (encode v).length = messageLength := rfl

theorem decode_encode (v : Int32) : decode (encode v) = v := by
  have hn := v.toUInt32.toNat_lt
  simp only [decode, encode, List.foldr, Nat.toUInt8, UInt8.toNat_ofNat']
  have : v.toUInt32.toNat % 256 + (v.toUInt32.toNat >>> 8 % 256 + (v.toUInt32.toNat >>> 16 % 256
      + (v.toUInt32.toNat >>> 24 % 256 + 0 <<< 8) <<< 8) <<< 8) <<< 8 = v.toUInt32.toNat := by omega
  rw [this]
  simp [Nat.toUInt32]

theorem encode_decode (a b c d : UInt8) : encode (decode [a, b, c, d]) = [a, b, c, d] := by
  have ha := a.toNat_lt
  have hb := b.toNat_lt
  have hc := c.toNat_lt
  have hd := d.toNat_lt
  have signed (x : UInt32) : x.toInt32.toUInt32 = x := rfl
  simp only [decode, encode, List.foldr, signed, Nat.toUInt32, UInt32.toNat_ofNat',
    List.cons.injEq, and_true]
  refine ⟨?_, ?_, ?_, ?_⟩ <;> apply UInt8.toNat_inj.1 <;>
    simp only [Nat.toUInt8, UInt8.toNat_ofNat'] <;> omega

end Sluice.Handoff
