import VeraHub.Library.OrderedMap

/-!
# Machine words

Words are ordered as unsigned numbers and written as big-endian bytes of a
fixed count.  The bytes determine the word when the count covers its width.
-/

namespace VeraHub

instance instLinearOrderBitVec {width : Nat} : LinearOrder (BitVec width) where
  le_refl _ := BitVec.le_refl _
  le_trans _ _ _ := BitVec.le_trans
  le_antisymm _ _ := BitVec.le_antisymm
  le_total := BitVec.le_total
  lt_iff_le_not_ge first second := by
    rw [BitVec.le_def, BitVec.le_def, BitVec.lt_def]
    omega
  toDecidableLE := inferInstance
  toDecidableLT := inferInstance
  toDecidableEq := inferInstance

section Words

variable {width count : Nat}

def wordBytes (count : Nat) (word : BitVec width) : Bytes :=
  bigEndian count word.toNat

def wordOf (width : Nat) (bytes : Bytes) : BitVec width :=
  BitVec.ofNat width (fromBigEndian bytes)

@[simp]
theorem length_wordBytes (word : BitVec width) : (wordBytes count word).length = count :=
  length_bigEndian count word.toNat

theorem wordOf_wordBytes (covers : 2 ^ width ≤ 256 ^ count)
    (word : BitVec width) : wordOf width (wordBytes count word) = word := by
  have small : word.toNat < 256 ^ count := word.isLt.trans_le covers
  unfold wordOf wordBytes
  rw [fromBigEndian_bigEndian, Nat.mod_eq_of_lt small]
  simp

theorem wordBytes_wordOf (covers : 256 ^ count ≤ 2 ^ width) {bytes : Bytes}
    (full : bytes.length = count) : wordBytes count (wordOf width bytes) = bytes := by
  have small : fromBigEndian bytes < 256 ^ count := by
    rw [← full]
    exact fromBigEndian_lt bytes
  have kept : (wordOf width bytes).toNat = fromBigEndian bytes := by
    unfold wordOf
    rw [BitVec.toNat_ofNat, Nat.mod_eq_of_lt (small.trans_le covers)]
  have sameLength : (wordBytes count (wordOf width bytes)).length =
      bytes.length := by
    rw [length_wordBytes, full]
  apply fromBigEndian_inj sameLength
  unfold wordBytes
  rw [kept, fromBigEndian_bigEndian, Nat.mod_eq_of_lt small]

theorem wordBytes_inj (covers : 2 ^ width ≤ 256 ^ count) {first second : BitVec width} :
    wordBytes count first = wordBytes count second ↔ first = second := by
  constructor
  · intro same
    rw [← wordOf_wordBytes covers first, same, wordOf_wordBytes covers]
  · intro same
    rw [same]

end Words
end VeraHub
