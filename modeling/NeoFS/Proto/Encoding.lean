import NeoFS.Lib.Varint

set_option autoImplicit false

/- The stable marshaling helpers of internal/proto/encoding.go and the parts of protowire and
   encoding/binary they use. A helper's `MarshalTo` form is modelled by the bytes it writes at
   the front of its buffer; the bytes of an embedded message are those its own `MarshalStable`
   writes. -/
namespace NeoFS.Proto

-- `protowire.Type`: the wire types of the fields these helpers write.
inductive WireType where
  | varint
  | fixed64
  | bytes
  | fixed32
deriving DecidableEq, Repr

def WireType.code : WireType → Nat
  | .varint => 0
  | .fixed64 => 1
  | .bytes => 2
  | .fixed32 => 5

def encodeTag (num : Nat) (typ : WireType) : Nat := num * 8 + typ.code

-- `binary.PutUvarint`: the bytes it writes.
def putUvarint (v : Nat) : List UInt8 := Lib.Varint.encode v

def bitsLen64 (v : Nat) : Nat := if v = 0 then 0 else v.log2 + 1

def sizeVarint (v : Nat) : Nat := (9 * bitsLen64 v + 64) / 64

def sizeTag (num : Nat) : Nat := sizeVarint (encodeTag num .varint)

-- `protowire.SizeBytes`: a length and the bytes it counts.
def sizeLENBytes (n : Nat) : Nat := sizeVarint n + n

def sizeEmbeddedLENField (num ln : Nat) : Nat := sizeTag num + sizeLENBytes ln

class Message (α : Type) where
  marshaledSize : α → Nat
  marshalStable : α → List UInt8

section Helpers

variable {α : Type} [Message α]

def sizeBytes (num : Nat) (v : List UInt8) : Nat :=
  if v.length = 0 then 0 else sizeEmbeddedLENField num v.length

-- `SizeVarint` and `MarshalToVarint` of a value already converted by `uint64(v)`: an unsigned value is
-- zero-extended, an int32 enum value sign-extended (`v.toInt64.toUInt64`). Zero is not written.
def sizeVarintField (num : Nat) (v : UInt64) : Nat :=
  if v = 0 then 0 else sizeTag num + sizeVarint v.toNat

def marshalToVarint (num : Nat) (v : UInt64) : List UInt8 :=
  if v = 0 then [] else putUvarint (encodeTag num .varint) ++ putUvarint v.toNat

def encodeBool (v : Bool) : UInt64 := if v then 1 else 0

def sizeBool (num : Nat) (v : Bool) : Nat := sizeVarintField num (encodeBool v)

def marshalToBool (num : Nat) (v : Bool) : List UInt8 := marshalToVarint num (encodeBool v)

-- `SizeOptionalVarint` and `MarshalToOptionalVarint`: a set value is written even when it is zero.
def sizeOptionalVarint (num : Nat) : Option UInt64 → Nat
  | none => 0
  | some v => sizeTag num + sizeVarint v.toNat

def marshalToOptionalVarint (num : Nat) : Option UInt64 → List UInt8
  | none => []
  | some v => putUvarint (encodeTag num .varint) ++ putUvarint v.toNat

-- The exported `SizeEmbeddedLENField` counts nothing for an empty field, where the unexported
-- `sizeEmbeddedLENField` counts its tag and zero length.
def sizeEmbeddedLENFieldExported (num ln : Nat) : Nat :=
  if ln = 0 then 0 else sizeEmbeddedLENField num ln

def marshalToBytes (num : Nat) (v : List UInt8) : List UInt8 :=
  if v.length = 0 then [] else putUvarint (encodeTag num .bytes) ++ putUvarint v.length ++ v

-- `SizeEmbedded` and `MarshalToEmbedded` of a message pointer: a nil one is not written.
def sizeEmbedded (num : Nat) : Option α → Nat
  | none => 0
  | some m => sizeEmbeddedLENField num (Message.marshaledSize m)

def marshalToEmbedded (num : Nat) : Option α → List UInt8
  | none => []
  | some m => putUvarint (encodeTag num .bytes) ++ putUvarint (Message.marshaledSize m) ++ Message.marshalStable m

-- `MarshaledSize` called through a message pointer, which is NPE-safe: zero for nil.
def nilSafeSize (v : Option α) : Nat := (v.map Message.marshaledSize).getD 0

-- `MarshalToEmbeddedLength`: the message with the length its caller computed; nothing for length zero.
def marshalToEmbeddedLength (num sz : Nat) (v : Option α) : List UInt8 :=
  if sz = 0 then [] else putUvarint (encodeTag num .bytes) ++ putUvarint sz ++ (v.map Message.marshalStable).getD []

-- `SizeRepeatedMessages` and `MarshalToRepeatedMessages` of non-nil elements: every element is
-- written, an empty one as a tag and a zero length.
def sizeRepeatedMessages (num : Nat) (v : List α) : Nat := (v.map fun m => sizeEmbedded num (some m)).sum

def marshalToRepeatedMessages (num : Nat) (v : List α) : List UInt8 := v.flatMap fun m => marshalToEmbedded num (some m)

theorem marshal_to_embedded_length_of_nonempty (num : Nat) {v : Option α} (nonempty : ∀ m ∈ v, Message.marshaledSize m ≠ 0) :
    marshalToEmbeddedLength num (nilSafeSize v) v = marshalToEmbedded num v := by
  cases v with
  | none => rfl
  | some m => simp [marshalToEmbeddedLength, marshalToEmbedded, nilSafeSize, nonempty m rfl]

theorem size_embedded_len_field_exported_of_nonempty (num : Nat) {v : Option α}
    (nonempty : ∀ m ∈ v, Message.marshaledSize m ≠ 0) :
    sizeEmbeddedLENFieldExported num (nilSafeSize v) = sizeEmbedded num v := by
  cases v with
  | none => rfl
  | some m => simp [sizeEmbeddedLENFieldExported, sizeEmbedded, nilSafeSize, nonempty m rfl]

theorem size_bytes_eq_zero (num : Nat) (v : List UInt8) : sizeBytes num v = 0 ↔ v = [] := by
  unfold sizeBytes sizeEmbeddedLENField sizeLENBytes
  split_ifs with empty
  · simpa using empty
  · have : v ≠ [] := fun nil => empty (by simp [nil])
    simp only [this, iff_false]
    omega

@[simp]
theorem marshal_to_varint_zero (num : Nat) : marshalToVarint num 0 = [] := rfl

@[simp]
theorem size_varint_field_zero (num : Nat) : sizeVarintField num 0 = 0 := rfl

end Helpers

section Lengths

variable {α : Type} [Message α]

theorem size_varint_of_lt {v : Nat} (fits : v < 2 ^ 64) : sizeVarint v = Nat.log2 v / 7 + 1 := by
  unfold sizeVarint bitsLen64
  split_ifs with zero
  · subst zero
    rfl
  · have below : Nat.log2 v < 64 := (Nat.log2_lt zero).mpr fits
    have table : ∀ l < 64, (9 * (l + 1) + 64) / 64 = l / 7 + 1 := by decide
    exact table _ below

theorem size_varint_le_ten {v : Nat} (fits : v < 2 ^ 64) : sizeVarint v ≤ 10 := by
  have below : Nat.log2 v < 64 := by
    by_cases zero : v = 0
    · simp [zero]
    · exact (Nat.log2_lt zero).mpr fits
  rw [size_varint_of_lt fits]
  omega

theorem size_varint_mono {a b : Nat} (le : a ≤ b) : sizeVarint a ≤ sizeVarint b := by
  have bits : bitsLen64 a ≤ bitsLen64 b := by
    unfold bitsLen64
    by_cases zero : a = 0
    · simp [zero]
    · have below : a.log2 < b.log2 + 1 := (Nat.log2_lt zero).mpr (lt_of_le_of_lt le Nat.lt_log2_self)
      rw [if_neg zero, if_neg (by omega)]
      omega
  unfold sizeVarint
  omega

theorem length_put_uvarint {v : Nat} (fits : v < 2 ^ 64) : (putUvarint v).length = sizeVarint v := by
  rw [putUvarint, Lib.Varint.encode_length_log2, size_varint_of_lt fits]

theorem encode_tag_lt {num : Nat} (typ : WireType) (small : num < 16) : encodeTag num typ < 128 := by
  cases typ <;> simp only [encodeTag, WireType.code] <;> omega

theorem size_tag_of_lt {num : Nat} (small : num < 16) : sizeTag num = 1 := by
  rw [sizeTag, ← length_put_uvarint (by have := encode_tag_lt .varint small; omega), putUvarint,
    Lib.Varint.encode_of_lt (encode_tag_lt .varint small), List.length_singleton]

theorem length_put_uvarint_tag {num : Nat} (typ : WireType) (small : num < 16) :
    (putUvarint (encodeTag num typ)).length = sizeTag num := by
  rw [size_tag_of_lt small, putUvarint, Lib.Varint.encode_of_lt (encode_tag_lt typ small), List.length_singleton]

theorem length_marshal_to_varint {num : Nat} (v : UInt64) (small : num < 16) :
    (marshalToVarint num v).length = sizeVarintField num v := by
  unfold marshalToVarint sizeVarintField
  split_ifs
  · rfl
  · rw [List.length_append, length_put_uvarint_tag _ small, length_put_uvarint (UInt64.toNat_lt v)]

theorem size_varint_field_le (num : Nat) (v : UInt64) (small : num < 16) : sizeVarintField num v ≤ 11 := by
  have := size_varint_le_ten (UInt64.toNat_lt v)
  unfold sizeVarintField
  split_ifs
  · omega
  · rw [size_tag_of_lt small]
    omega

theorem size_optional_varint_le (num : Nat) (v : Option UInt64) (small : num < 16) : sizeOptionalVarint num v ≤ 11 := by
  cases v with
  | none => simp [sizeOptionalVarint]
  | some v =>
      have := size_varint_le_ten (UInt64.toNat_lt v)
      rw [sizeOptionalVarint, size_tag_of_lt small]
      omega

theorem length_marshal_to_bool {num : Nat} (v : Bool) (small : num < 16) :
    (marshalToBool num v).length = sizeBool num v :=
  length_marshal_to_varint _ small

theorem length_marshal_to_optional_varint {num : Nat} (v : Option UInt64) (small : num < 16) :
    (marshalToOptionalVarint num v).length = sizeOptionalVarint num v := by
  cases v with
  | none => rfl
  | some v =>
      rw [marshalToOptionalVarint, sizeOptionalVarint, List.length_append, length_put_uvarint_tag _ small,
        length_put_uvarint (UInt64.toNat_lt v)]

theorem le_size_bytes (num : Nat) (v : List UInt8) : v.length ≤ sizeBytes num v := by
  unfold sizeBytes sizeEmbeddedLENField sizeLENBytes
  split_ifs <;> omega

theorem length_marshal_to_bytes {num : Nat} (v : List UInt8) (small : num < 16) (fits : v.length < 2 ^ 64) :
    (marshalToBytes num v).length = sizeBytes num v := by
  unfold marshalToBytes sizeBytes
  split_ifs
  · rfl
  · rw [List.length_append, List.length_append, length_put_uvarint_tag _ small, length_put_uvarint fits,
      sizeEmbeddedLENField, sizeLENBytes, Nat.add_assoc]

theorem le_size_embedded (num : Nat) (m : α) : Message.marshaledSize m ≤ sizeEmbedded num (some m) := by
  rw [sizeEmbedded, sizeEmbeddedLENField, sizeLENBytes]
  omega

theorem length_marshal_to_embedded {num : Nat} (v : Option α) (small : num < 16) (fits : sizeEmbedded num v < 2 ^ 64)
    (lawful : ∀ m ∈ v, Message.marshaledSize m < 2 ^ 64 →
      (Message.marshalStable m).length = Message.marshaledSize m) :
    (marshalToEmbedded num v).length = sizeEmbedded num v := by
  cases v with
  | none => rfl
  | some m =>
      have inner : Message.marshaledSize m < 2 ^ 64 := Nat.lt_of_le_of_lt (le_size_embedded num m) fits
      rw [marshalToEmbedded, sizeEmbedded, List.length_append, List.length_append, length_put_uvarint_tag _ small,
        length_put_uvarint inner, lawful m rfl inner, sizeEmbeddedLENField, sizeLENBytes, Nat.add_assoc]

theorem length_marshal_to_repeated_messages {num : Nat} (v : List α) (small : num < 16)
    (fits : sizeRepeatedMessages num v < 2 ^ 64)
    (lawful : ∀ m ∈ v, Message.marshaledSize m < 2 ^ 64 →
      (Message.marshalStable m).length = Message.marshaledSize m) :
    (marshalToRepeatedMessages num v).length = sizeRepeatedMessages num v := by
  induction v with
  | nil => rfl
  | cons m rest ih =>
      have split : sizeRepeatedMessages num (m :: rest) =
          sizeEmbedded num (some m) + sizeRepeatedMessages num rest := by
        simp [sizeRepeatedMessages]
      rw [split] at fits ⊢
      rw [marshalToRepeatedMessages, List.flatMap_cons, List.length_append,
        length_marshal_to_embedded _ small (by omega) (fun m' mem => lawful m' (by simp_all)),
        ← marshalToRepeatedMessages, ih (by omega) (fun m' mem => lawful m' (List.mem_cons_of_mem m mem))]

theorem size_embedded_le (num : Nat) (v : Option α) (k : Nat) (small : num < 16) (fits : k < 2 ^ 64)
    (bound : ∀ m ∈ v, Message.marshaledSize m ≤ k) : sizeEmbedded num v ≤ 11 + k := by
  cases v with
  | none => simp [sizeEmbedded]
  | some m =>
      have inner := bound m rfl
      have := size_varint_le_ten (Nat.lt_of_le_of_lt inner fits)
      rw [sizeEmbedded, sizeEmbeddedLENField, sizeLENBytes, size_tag_of_lt small]
      omega

theorem size_embedded_len_field_exported_of_ne_zero (num : Nat) (m : α) (nonzero : Message.marshaledSize m ≠ 0) :
    sizeEmbeddedLENFieldExported num (Message.marshaledSize m) = sizeEmbedded num (some m) := by
  rw [sizeEmbeddedLENFieldExported, if_neg nonzero, sizeEmbedded]

theorem drop_marshal_to_embedded (num : Nat) (m : α)
    (lawful : (Message.marshalStable m).length = Message.marshaledSize m) :
    (marshalToEmbedded num (some m)).drop ((marshalToEmbedded num (some m)).length - Message.marshaledSize m) =
      Message.marshalStable m := by
  rw [marshalToEmbedded, List.length_append, lawful, Nat.add_sub_cancel, List.drop_left]

end Lengths

end NeoFS.Proto
