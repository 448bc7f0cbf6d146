import VeraHub.Library.Bytes

/-!
# Self-delimiting encodings

A codec writes values as bytes such that a reader finds the value and where it
ends.  Codecs compose, so the codec of a record is put together from those of its
fields, and its encoding is injective.  Where nothing is read back, it is enough
that a writer is delimited: a text starts with the bytes of at most one value.
-/

namespace VeraHub

/-- An encoding whose values are read back from the front of any text. -/
structure Codec (α : Type) where
  encode : α → Bytes
  decode : Bytes → Option (α × Bytes)
  decode_encode : ∀ value rest, decode (encode value ++ rest) = some (value, rest)

namespace Codec

variable {α β : Type}

theorem encode_injective (codec : Codec α) :
    Function.Injective codec.encode := by
  intro first second same
  have read := codec.decode_encode first []
  rw [same, codec.decode_encode second []] at read
  exact (Prod.mk.inj (Option.some.inj read)).1.symm

def read (codec : Codec α) (bytes : Bytes) : Option α :=
  match codec.decode bytes with
  | some (value, []) => some value
  | _ => none

theorem read_encode (codec : Codec α) (value : α) :
    codec.read (codec.encode value) = some value := by
  have decoded := codec.decode_encode value []
  rw [List.append_nil] at decoded
  unfold read
  rw [decoded]

/-! ## Bytes and words -/

def byte : Codec UInt8 where
  encode value := [value]
  decode
    | value :: rest => some (value, rest)
    | [] => none
  decode_encode _ _ := rfl

def word : Codec UInt64 where
  encode := beBytes
  decode bytes := (fromBeBytes (bytes.take 8)).map fun value =>
    (value, bytes.drop 8)
  decode_encode value rest := by
    have front : (beBytes value ++ rest).take 8 = beBytes value :=
      List.take_left' (length_beBytes value)
    have back : (beBytes value ++ rest).drop 8 = rest := List.drop_left' (length_beBytes value)
    rw [front, back, fromBeBytes_beBytes]
    rfl

/-! ## Composition -/

def through (codec : Codec β) (forth : α → β) (back : β → Option α)
    (inverse : ∀ value, back (forth value) = some value) : Codec α where
  encode value := codec.encode (forth value)
  decode bytes := (codec.decode bytes).bind fun found =>
    (back found.1).map fun value => (value, found.2)
  decode_encode value rest := by
    rw [codec.decode_encode, Option.bind_some, inverse, Option.map_some]

def pair (first : Codec α) (second : Codec β) : Codec (α × β) where
  encode value := first.encode value.1 ++ second.encode value.2
  decode bytes := (first.decode bytes).bind fun found =>
    (second.decode found.2).map fun other =>
      ((found.1, other.1), other.2)
  decode_encode value rest := by
    rw [List.append_assoc, first.decode_encode, Option.bind_some,
      second.decode_encode, Option.map_some]

/-! ## Lists -/

section Lists

variable (item : Codec α)

/-- Each item is announced by a one; a zero ends the list. -/
def encodeItems : List α → Bytes
  | [] => [0]
  | value :: rest => 1 :: (item.encode value ++ encodeItems rest)

def decodeItems : Nat → Bytes → Option (List α × Bytes)
  | 0, _ => none
  | _ + 1, [] => none
  | fuel + 1, mark :: bytes =>
    if mark = 0 then
      some ([], bytes)
    else
      (item.decode bytes).bind fun found =>
        (decodeItems fuel found.2).map fun others =>
          (found.1 :: others.1, others.2)

theorem length_lt_encodeItems (values : List α) :
    values.length < (encodeItems item values).length := by
  induction values with
  | nil => exact Nat.zero_lt_one
  | cons value rest ih =>
    simp only [encodeItems, List.length_cons, List.length_append]
    omega

theorem decodeItems_encodeItems (values : List α) (rest : Bytes) :
    ∀ fuel, values.length < fuel → decodeItems item fuel (encodeItems item values ++ rest) =
        some (values, rest) := by
  induction values with
  | nil =>
    intro fuel enough
    cases fuel with
    | zero => cases enough
    | succ fuel => rfl
  | cons value others ih =>
    intro fuel enough
    cases fuel with
    | zero => cases enough
    | succ fuel =>
      have fewer : others.length < fuel := Nat.lt_of_succ_lt_succ enough
      have marked : (1 : UInt8) ≠ 0 := by decide
      rw [encodeItems, List.cons_append, decodeItems, if_neg marked,
        List.append_assoc, item.decode_encode, Option.bind_some, ih fuel fewer, Option.map_some]

def list : Codec (List α) where
  encode := encodeItems item
  decode bytes := decodeItems item bytes.length bytes
  decode_encode values rest := by
    apply decodeItems_encodeItems
    rw [List.length_append]
    exact Nat.lt_of_lt_of_le (length_lt_encodeItems item values) (Nat.le_add_right _ _)

def option : Codec (Option α) :=
  through (list item) Option.toList (fun values =>
      match values with
      | [] => some none
      | [value] => some (some value)
      | _ => none)
    fun value => by cases value <;> rfl

end Lists

def bytes : Codec Bytes :=
  list byte

def text : Codec String :=
  through bytes utf8 fromUtf8 fromUtf8_utf8

def texts : Codec (List String) :=
  list text

def halfWord : Codec UInt32 :=
  through word UInt32.toUInt64 (fun value => some value.toUInt32)
    fun value => by rw [UInt32.toUInt32_toUInt64]

end Codec

/-! ## Delimited writers -/

/-- A list whose length fits the word that counts it. -/
abbrev Vec (α : Type) : Type :=
  { items : List α // items.length < 2 ^ 64 }

def Vec.map {α β : Type} (view : α → β) (values : Vec α) : Vec β :=
  ⟨values.1.map view, by rw [List.length_map]; exact values.2⟩

def Vec.bytes {α : Type} (write : α → Bytes) (values : Vec α) : Bytes :=
  beBytes (UInt64.ofNat values.1.length) ++ values.1.flatMap write

def Delimited {α : Type} (write : α → Bytes) : Prop :=
  ∀ ⦃first second rest others⦄,
    write first ++ rest = write second ++ others → first = second ∧ rest = others

namespace Delimited

variable {α : Type} {write : α → Bytes}

theorem of_length {width : Nat} (length : ∀ value, (write value).length = width)
    (injective : Function.Injective write) : Delimited write := by
  intro first second rest others same
  obtain ⟨front, back⟩ := List.append_inj same (by rw [length, length])
  exact ⟨injective front, back⟩

theorem flatMap (delimited : Delimited write) {first second : List α}
    (counted : first.length = second.length) {rest others : Bytes}
    (same : first.flatMap write ++ rest = second.flatMap write ++ others) :
    first = second ∧ rest = others := by
  induction first generalizing second with
  | nil =>
    cases List.length_eq_zero_iff.mp counted.symm
    exact ⟨rfl, same⟩
  | cons item items ih =>
    cases second with
    | nil => cases counted
    | cons other later =>
      simp only [List.flatMap_cons, List.append_assoc] at same
      obtain ⟨isItem, following⟩ := delimited same
      obtain ⟨areItems, ends⟩ := ih (Nat.succ.inj counted) following
      exact ⟨by rw [isItem, areItems], ends⟩

theorem counted (delimited : Delimited write) : Delimited (Vec.bytes write) := by
  intro first second rest others same
  simp only [Vec.bytes, List.append_assoc] at same
  obtain ⟨counts, following⟩ := of_length length_beBytes beBytes_injective same
  have count : ∀ values : Vec α, (UInt64.ofNat values.1.length).toNat = values.1.length :=
    fun values => UInt64.toNat_ofNat_of_lt values.2
  have lengths := congrArg UInt64.toNat counts
  rw [count, count] at lengths
  obtain ⟨items, ends⟩ := delimited.flatMap lengths following
  exact ⟨Subtype.ext items, ends⟩

end Delimited

end VeraHub
