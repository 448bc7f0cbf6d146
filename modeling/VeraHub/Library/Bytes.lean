import Mathlib

/-!
# Byte strings

Byte strings are compared in lexicographic order.  In that order the strings
with a common beginning are an interval that starts at this beginning, which is
what lets an ordered store answer a prefix scan.
-/

namespace VeraHub

instance instLinearOrderUInt8 : LinearOrder UInt8 where
  le_refl _ := UInt8.le_refl _
  le_trans _ _ _ := UInt8.le_trans
  le_antisymm _ _ := UInt8.le_antisymm
  le_total := UInt8.le_total
  lt_iff_le_not_ge first second := by
    rw [UInt8.lt_iff_le_and_ne]
    constructor
    · intro below
      exact ⟨below.1, fun above =>
        below.2 (UInt8.le_antisymm below.1 above)⟩
    · intro below
      exact ⟨below.1, fun equality =>
        below.2 (equality ▸ UInt8.le_refl _)⟩
  toDecidableLE := inferInstance
  toDecidableLT := inferInstance
  toDecidableEq := inferInstance

/-- A byte string. -/
abbrev Bytes : Type :=
  List UInt8

/-! ## Prefixes and order -/

section PrefixOrder

variable {α : Type} [LinearOrder α]

private theorem cons_le_cons {first second : α} {firstTail secondTail : List α} :
    first :: firstTail ≤ second :: secondTail ↔
      first < second ∨ first = second ∧ firstTail ≤ secondTail := by
  have strict :
      second :: secondTail < first :: firstTail ↔
        second < first ∨ second = first ∧ secondTail < firstTail :=
    List.cons_lt_cons_iff
  rw [← not_lt, strict, ← not_lt]
  rcases lt_trichotomy first second with less | equal | greater
  · simp [less, less.ne', less.not_gt]
  · simp [equal]
  · simp [greater, greater.ne', greater.not_gt]

private theorem nil_le (text : List α) : [] ≤ text := by
  rw [← not_lt]
  exact List.not_lt_nil text

private theorem not_cons_le_nil (head : α) (tail : List α) : ¬ head :: tail ≤ [] := by
  rw [not_le]
  exact List.nil_lt_cons head tail

theorem le_of_isPrefix {start text : List α} (leads : start <+: text) : start ≤ text := by
  induction start generalizing text with
  | nil =>
    exact nil_le text
  | cons head tail ih =>
    obtain ⟨rest, rfl⟩ := leads
    rw [List.cons_append, cons_le_cons]
    exact Or.inr ⟨rfl, ih (List.prefix_append tail rest)⟩

/-- Between a string and a string it begins, everything begins with it. -/
theorem isPrefix_of_le_of_le {start middle text : List α}
    (above : start ≤ middle) (below : middle ≤ text) (leads : start <+: text) :
    start <+: middle := by
  induction start generalizing middle text with
  | nil =>
    exact List.nil_prefix
  | cons head tail ih =>
    obtain ⟨rest, rfl⟩ := leads
    cases middle with
    | nil =>
      exact absurd above (not_cons_le_nil head tail)
    | cons middleHead middleTail =>
      rw [List.cons_append] at below
      rw [cons_le_cons] at above below
      rcases above with headLt | ⟨rfl, tailAbove⟩
      · rcases below with headGt | ⟨rfl, _⟩
        · exact absurd headGt (not_lt_of_gt headLt)
        · exact absurd headLt (lt_irrefl _)
      · have tailBelow : middleTail ≤ tail ++ rest := by
          rcases below with headGt | ⟨_, tailBelow⟩
          · exact absurd headGt (lt_irrefl _)
          · exact tailBelow
        have tailLeads := ih tailAbove tailBelow (List.prefix_append tail rest)
        exact List.cons_prefix_cons.mpr ⟨rfl, tailLeads⟩

theorem append_lt_append_of_lt {first second rest others : List α}
    (width : first.length = second.length) (below : first < second) :
    first ++ rest < second ++ others := by
  induction first generalizing second with
  | nil =>
    have empty : second = [] := List.length_eq_zero_iff.mp width.symm
    subst empty
    exact absurd below (lt_irrefl _)
  | cons head tail ih =>
    cases second with
    | nil => cases width
    | cons otherHead otherTail =>
      have sameWidth : tail.length = otherTail.length := by
        simpa using width
      rw [List.cons_append, List.cons_append, List.cons_lt_cons_iff]
      rcases List.cons_lt_cons_iff.mp below with less | ⟨same, tailBelow⟩
      · exact Or.inl less
      · exact Or.inr ⟨same, ih sameWidth tailBelow⟩

end PrefixOrder

/-! ## Text as bytes -/

def utf8 (text : String) : Bytes :=
  text.toByteArray.data.toList

theorem utf8_injective : Function.Injective utf8 := by
  intro first second equality
  apply String.toByteArray_inj.mp
  apply ByteArray.ext
  exact Array.toList_inj.mp equality

@[simp]
theorem utf8_inj {first second : String} : utf8 first = utf8 second ↔ first = second :=
  utf8_injective.eq_iff

@[simp]
theorem utf8_append (first second : String) :
    utf8 (first ++ second) = utf8 first ++ utf8 second := by
  simp [utf8]

/-- The text that bytes encode, if they are valid UTF-8. -/
def fromUtf8 (bytes : Bytes) : Option String :=
  String.fromUTF8? ⟨bytes.toArray⟩

@[simp]
theorem fromUtf8_utf8 (text : String) : fromUtf8 (utf8 text) = some text := by
  have same : (⟨(utf8 text).toArray⟩ : ByteArray) = text.toByteArray := by
    unfold utf8
    apply ByteArray.ext
    simp
  unfold fromUtf8 String.fromUTF8?
  rw [dif_pos (same ▸ text.isValidUTF8)]
  congr 1

/-! ## Hexadecimal text -/

/-- The lowercase hexadecimal digit of a number below sixteen. -/
def hexDigit (value : UInt8) : UInt8 :=
  if value < 10 then value + 48 else value + 87

def hexEncode (bytes : Bytes) : Bytes :=
  bytes.flatMap fun byte => [hexDigit (byte / 16), hexDigit (byte % 16)]

@[simp]
theorem hexEncode_nil : hexEncode [] = [] :=
  rfl

theorem hexEncode_cons (byte : UInt8) (rest : Bytes) :
    hexEncode (byte :: rest) = hexDigit (byte / 16) :: hexDigit (byte % 16) :: hexEncode rest :=
  rfl

/-- The number a lowercase hexadecimal digit stands for. -/
def hexValue (digit : UInt8) : UInt8 :=
  if digit < 58 then digit - 48 else digit - 87

private theorem forall_byte {property : UInt8 → Prop}
    (holds : ∀ value : Fin 256, property (UInt8.ofFin value)) (byte : UInt8) :
    property byte := by
  have held := holds byte.toFin
  rwa [UInt8.ofFin_toFin] at held

private theorem hexValue_hexDigit :
    ∀ byte : UInt8, hexValue (hexDigit (byte / 16)) * 16 + hexValue (hexDigit (byte % 16)) = byte :=
  forall_byte (by decide +kernel)

theorem hexEncode_injective : Function.Injective hexEncode := by
  intro first second equality
  induction first generalizing second with
  | nil =>
    cases second with
    | nil => rfl
    | cons byte rest => cases equality
  | cons byte rest ih =>
    cases second with
    | nil => cases equality
    | cons other otherRest =>
      rw [hexEncode_cons, hexEncode_cons] at equality
      injection equality with highEquality lowEqualities
      injection lowEqualities with lowEquality restEquality
      have byteEquality : byte = other := by
        rw [← hexValue_hexDigit byte, highEquality, lowEquality, hexValue_hexDigit]
      rw [byteEquality, ih restEquality]

/-- The number a hexadecimal digit of either case stands for. -/
def hexDigitValue (digit : UInt8) : Option UInt8 :=
  if 48 ≤ digit ∧ digit ≤ 57 then some (digit - 48)
  else if 97 ≤ digit ∧ digit ≤ 102 then some (digit - 87)
  else if 65 ≤ digit ∧ digit ≤ 70 then some (digit - 55)
  else none

def hexDecode : Bytes → Option Bytes
  | [] => some []
  | [_] => none
  | high :: low :: rest => do
      let highValue ← hexDigitValue high
      let lowValue ← hexDigitValue low
      let bytes ← hexDecode rest
      some ((highValue * 16 + lowValue) :: bytes)

private theorem hexDigitValue_hexDigit :
    ∀ byte : UInt8, (hexDigitValue (hexDigit (byte / 16))).bind (fun high =>
        (hexDigitValue (hexDigit (byte % 16))).map fun low =>
          high * 16 + low) = some byte :=
  forall_byte (by decide +kernel)

@[simp]
theorem hexDecode_hexEncode (bytes : Bytes) : hexDecode (hexEncode bytes) = some bytes := by
  induction bytes with
  | nil => rfl
  | cons byte rest ih =>
    have read := hexDigitValue_hexDigit byte
    obtain ⟨high, isHigh, afterHigh⟩ := Option.bind_eq_some_iff.mp read
    obtain ⟨low, isLow, same⟩ := Option.map_eq_some_iff.mp afterHigh
    rw [hexEncode_cons]
    unfold hexDecode
    rw [isHigh, isLow, ih, ← same]
    rfl

def slash : UInt8 :=
  47

private theorem hexDigit_ne_slash :
    ∀ byte : UInt8, hexDigit (byte / 16) ≠ slash ∧ hexDigit (byte % 16) ≠ slash :=
  forall_byte (by decide +kernel)

theorem slash_notMem_hexEncode (bytes : Bytes) : slash ∉ hexEncode bytes := by
  induction bytes with
  | nil => simp
  | cons byte rest ih =>
    obtain ⟨highDiffers, lowDiffers⟩ := hexDigit_ne_slash byte
    rw [hexEncode_cons, List.mem_cons, List.mem_cons]
    rintro (high | low | later)
    · exact highDiffers high.symm
    · exact lowDiffers low.symm
    · exact ih later

def hexText (bytes : Bytes) : String :=
  String.ofList ((hexEncode bytes).map fun digit => Char.ofNat digit.toNat)

theorem utf8_ofList_cons (character : Char) (rest : List Char) :
    utf8 (String.ofList (character :: rest)) =
      String.utf8EncodeChar character ++ utf8 (String.ofList rest) := by
  simp [utf8, List.utf8Encode_singleton]

private theorem utf8EncodeChar_hexDigit :
    ∀ byte : UInt8,
      String.utf8EncodeChar (Char.ofNat (hexDigit (byte / 16)).toNat) = [hexDigit (byte / 16)] ∧
        String.utf8EncodeChar (Char.ofNat (hexDigit (byte % 16)).toNat) = [hexDigit (byte % 16)] :=
  forall_byte (by decide +kernel)

@[simp]
theorem utf8_hexText (bytes : Bytes) : utf8 (hexText bytes) = hexEncode bytes := by
  unfold hexText
  induction bytes with
  | nil => rfl
  | cons byte rest ih =>
    obtain ⟨high, low⟩ := utf8EncodeChar_hexDigit byte
    rw [hexEncode_cons, List.map_cons, List.map_cons, utf8_ofList_cons,
      utf8_ofList_cons, high, low, ih]
    rfl

/-! ## Big-endian numbers -/

/-- The given number of big-endian bytes of a number. -/
def bigEndian : Nat → Nat → Bytes
  | 0, _ => []
  | width + 1, value =>
    bigEndian width (value / 256) ++ [UInt8.ofNat (value % 256)]

def fromBigEndian (bytes : Bytes) : Nat :=
  bytes.foldl (fun value byte => value * 256 + byte.toNat) 0

@[simp]
theorem length_bigEndian (width value : Nat) : (bigEndian width value).length = width := by
  induction width generalizing value with
  | zero => rfl
  | succ width ih =>
    simp [bigEndian, ih]

theorem fromBigEndian_bigEndian (width value : Nat) :
    fromBigEndian (bigEndian width value) = value % 256 ^ width := by
  induction width generalizing value with
  | zero => simp [bigEndian, fromBigEndian, Nat.mod_one]
  | succ width ih =>
    have lastByte : (UInt8.ofNat (value % 256)).toNat = value % 256 := by
      rw [UInt8.toNat_ofNat']
      omega
    have earlier := ih (value / 256)
    unfold fromBigEndian at earlier ⊢
    rw [bigEndian, List.foldl_append, earlier, List.foldl_cons,
      List.foldl_nil, lastByte, pow_succ, Nat.mul_comm (256 ^ width),
      Nat.mod_mul, Nat.add_comm, Nat.mul_comm]

private theorem foldl_bigEndian (bytes : Bytes) (start : Nat) :
    bytes.foldl (fun value byte => value * 256 + byte.toNat) start =
      start * 256 ^ bytes.length + fromBigEndian bytes := by
  induction bytes generalizing start with
  | nil => simp [fromBigEndian]
  | cons byte rest ih =>
    unfold fromBigEndian
    rw [List.foldl_cons, List.foldl_cons, ih, ih (0 * 256 + byte.toNat), List.length_cons, pow_succ,
      Nat.zero_mul, Nat.zero_add, Nat.add_mul, Nat.mul_assoc, Nat.mul_comm 256, Nat.add_assoc]

theorem fromBigEndian_cons (byte : UInt8) (rest : Bytes) :
    fromBigEndian (byte :: rest) = byte.toNat * 256 ^ rest.length + fromBigEndian rest := by
  have folded := foldl_bigEndian rest byte.toNat
  rw [← folded]
  unfold fromBigEndian
  rw [List.foldl_cons, Nat.zero_mul, Nat.zero_add]

theorem fromBigEndian_lt (bytes : Bytes) : fromBigEndian bytes < 256 ^ bytes.length := by
  induction bytes with
  | nil => decide
  | cons byte rest ih =>
    have small : byte.toNat + 1 ≤ 256 := byte.toNat_lt
    rw [fromBigEndian_cons, List.length_cons, pow_succ]
    calc
      byte.toNat * 256 ^ rest.length + fromBigEndian rest <
          byte.toNat * 256 ^ rest.length + 256 ^ rest.length := Nat.add_lt_add_left ih _
      _ = (byte.toNat + 1) * 256 ^ rest.length := (Nat.succ_mul _ _).symm
      _ ≤ 256 * 256 ^ rest.length := Nat.mul_le_mul_right _ small
      _ = 256 ^ rest.length * 256 := Nat.mul_comm _ _

theorem lt_iff_fromBigEndian_lt {first second : Bytes} (width : first.length = second.length) :
    first < second ↔ fromBigEndian first < fromBigEndian second := by
  induction first generalizing second with
  | nil =>
    have empty : second = [] := List.length_eq_zero_iff.mp width.symm
    subst empty
    simp
  | cons byte rest ih =>
    cases second with
    | nil => cases width
    | cons other others =>
      have sameRest : rest.length = others.length := by
        simpa using width
      have tails := ih sameRest
      have restSmall := fromBigEndian_lt rest
      have othersSmall := fromBigEndian_lt others
      rw [fromBigEndian_cons, fromBigEndian_cons, sameRest] at *
      have strict : byte :: rest < other :: others ↔ byte < other ∨ byte = other ∧ rest < others :=
        List.cons_lt_cons_iff
      rw [strict, tails]
      rcases Nat.lt_trichotomy byte.toNat other.toNat with
        less | equal | greater
      · have scaled : (byte.toNat + 1) * 256 ^ others.length ≤ other.toNat * 256 ^ others.length :=
          Nat.mul_le_mul_right _ less
        rw [Nat.add_mul, Nat.one_mul] at scaled
        have below : byte < other := UInt8.lt_iff_toNat_lt.mpr less
        simp only [below, true_or, true_iff]
        omega
      · have same : byte = other := UInt8.toNat_inj.mp equal
        subst same
        simp
      · have scaled : (other.toNat + 1) * 256 ^ others.length ≤ byte.toNat * 256 ^ others.length :=
          Nat.mul_le_mul_right _ greater
        rw [Nat.add_mul, Nat.one_mul] at scaled
        have notBelow : ¬ byte < other := by
          rw [UInt8.lt_iff_toNat_lt]
          omega
        have notSame : byte ≠ other := by
          intro same
          rw [same] at greater
          exact lt_irrefl _ greater
        simp only [notBelow, notSame, false_and, or_self, false_iff]
        omega

theorem fromBigEndian_inj {first second : Bytes} (width : first.length = second.length)
    (same : fromBigEndian first = fromBigEndian second) : first = second := by
  rcases lt_trichotomy first second with below | equal | above
  · exact absurd ((lt_iff_fromBigEndian_lt width).mp below) (by omega)
  · exact equal
  · exact absurd ((lt_iff_fromBigEndian_lt width.symm).mp above) (by omega)

def beBytes (value : UInt64) : Bytes :=
  bigEndian 8 value.toNat

@[simp]
theorem length_beBytes (value : UInt64) : (beBytes value).length = 8 :=
  length_bigEndian 8 value.toNat

theorem fromBigEndian_beBytes (value : UInt64) : fromBigEndian (beBytes value) = value.toNat := by
  unfold beBytes
  rw [fromBigEndian_bigEndian]
  exact Nat.mod_eq_of_lt value.toNat_lt

theorem beBytes_injective : Function.Injective beBytes := by
  intro first second equality
  apply UInt64.toNat_inj.mp
  rw [← fromBigEndian_beBytes first, equality, fromBigEndian_beBytes]

theorem beBytes_lt_iff {first second : UInt64} :
    beBytes first < beBytes second ↔ first < second := by
  rw [lt_iff_fromBigEndian_lt (by simp), fromBigEndian_beBytes,
    fromBigEndian_beBytes, UInt64.lt_iff_toNat_lt]

theorem beBytes_le_iff {first second : UInt64} :
    beBytes first ≤ beBytes second ↔ first ≤ second := by
  rw [← not_lt, beBytes_lt_iff, UInt64.not_lt]

/-- The number that eight big-endian bytes stand for. -/
def fromBeBytes (bytes : Bytes) : Option UInt64 :=
  if bytes.length = 8 then some (UInt64.ofNat (fromBigEndian bytes))
  else none

@[simp]
theorem fromBeBytes_beBytes (value : UInt64) : fromBeBytes (beBytes value) = some value := by
  rw [fromBeBytes, if_pos (length_beBytes value), fromBigEndian_beBytes, UInt64.ofNat_toNat]

/-! ## Little-endian numbers -/

/-- The eight little-endian bytes of a 64-bit number. -/
def leBytes (value : UInt64) : Bytes :=
  (beBytes value).reverse

/-- The number that eight little-endian bytes stand for. -/
def fromLeBytes (bytes : Bytes) : Option UInt64 :=
  if bytes.length = 8 then
    some (UInt64.ofNat (fromBigEndian bytes.reverse))
  else none

@[simp]
theorem fromLeBytes_leBytes (value : UInt64) : fromLeBytes (leBytes value) = some value := by
  have width : (leBytes value).length = 8 := by
    rw [leBytes, List.length_reverse, length_beBytes]
  rw [fromLeBytes, if_pos width, leBytes, List.reverse_reverse,
    fromBigEndian_beBytes, UInt64.ofNat_toNat]

/-! ## Checked arithmetic -/

def checkedSucc (value : UInt64) : Option UInt64 :=
  if value.toNat + 1 < 2 ^ 64 then some (value + 1) else none

theorem checkedSucc_toNat {value next : UInt64} (added : checkedSucc value = some next) :
    next.toNat = value.toNat + 1 := by
  unfold checkedSucc at added
  by_cases room : value.toNat + 1 < 2 ^ 64
  · rw [if_pos room] at added
    rw [← Option.some.inj added, UInt64.toNat_add]
    exact Nat.mod_eq_of_lt room
  · rw [if_neg room] at added
    cases added

/-- Add, staying at the last number when the sum does not fit. -/
def saturatingAdd (first second : UInt64) : UInt64 :=
  if first.toNat + second.toNat < 2 ^ 64 then first + second
  else UInt64.ofNat (2 ^ 64 - 1)

/-! ## Prefixes that exclude each other -/

def Apart {α : Type} (first second : List α) : Prop :=
  ¬ first <+: second ∧ ¬ second <+: first

instance {α : Type} [DecidableEq α] (first second : List α) :
    Decidable (Apart first second) :=
  inferInstanceAs (Decidable (_ ∧ _))

theorem Apart.not_isPrefix {α : Type} {first second text : List α}
    (apart : Apart first second) (leads : first <+: text) : ¬ second <+: text := by
  intro alsoLeads
  rcases List.prefix_or_prefix_of_prefix leads alsoLeads with below | above
  · exact apart.1 below
  · exact apart.2 above

/-- A separator cuts two lists at the same place when neither first part
holds it. -/
theorem isPrefix_cut_iff {α : Type} {separator : α} {first second rest text : List α}
    (firstFree : separator ∉ first) (secondFree : separator ∉ second) :
    first ++ separator :: rest <+: second ++ separator :: text ↔
      first = second ∧ rest <+: text := by
  induction first generalizing second with
  | nil =>
    cases second with
    | nil => simp
    | cons head tail =>
      simp only [List.mem_cons, not_or] at secondFree
      simp [List.cons_prefix_cons, secondFree.1]
  | cons head tail ih =>
    simp only [List.mem_cons, not_or] at firstFree
    cases second with
    | nil => simp [List.cons_prefix_cons, Ne.symm firstFree.1]
    | cons other others =>
      simp only [List.mem_cons, not_or] at secondFree
      simp [List.cons_prefix_cons, ih firstFree.2 secondFree.2, and_assoc]

end VeraHub
