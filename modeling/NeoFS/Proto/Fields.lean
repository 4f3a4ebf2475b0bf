import NeoFS.Proto.Encoding
import NeoFS.Proto.SliceReads

set_option autoImplicit false

/- Well-formed protobuf data: a list of fields, each a valid number with a value of one of the
   wire types the encoders of internal/proto write, laid out as protowire lays them out. On any
   bytes at all the byte-slice readers of parsers.go count only bytes they were given. -/
namespace NeoFS.Proto

open Lib.Varint

section Varints

theorem last_byte_add {v : UInt64} {m s : Nat} (shift : s < 64) (small : m < 128) (low : v.toNat < 2 ^ s)
    (fits : v.toNat + m * 2 ^ s < 2 ^ 64) :
    v + m.toUInt8.toUInt64 <<< s.toUInt64 = UInt64.ofNat (v.toNat + m * 2 ^ s) := by
  have byte : m.toUInt8.toUInt64.toNat = m := by simp; omega
  apply UInt64.toNat_inj.mp
  rw [(or_shift_left_to_nat shift low (by rw [byte]; exact fits)).2, byte, UInt64.toNat_ofNat_of_lt' fits]

theorem consume_varint_from_le_length : ∀ (bs : List UInt8) (k : Nat) (v : UInt64),
    (consumeVarintFrom k v bs).2 ≤ k + bs.length
  | [], _, _ => by simp [consumeVarintFrom, errCodeTruncated]
  | y :: rest, k, v => by
      have later := consume_varint_from_le_length rest (k + 1)
        (v + y.toUInt64 <<< (7 * k).toUInt64 - 0x80 <<< (7 * k).toUInt64)
      unfold consumeVarintFrom
      split_ifs <;> simp [errCodeOverflow] at later ⊢ <;> omega

theorem parse_varint_read {buf : List UInt8} {u : UInt64} {n : Nat} (ok : parseVarint buf = .ok (u, n)) :
    1 ≤ n ∧ n ≤ buf.length := by
  unfold parseVarint at ok
  have counted := consume_varint_from_count buf 0 0
  have within := consume_varint_from_le_length buf 0 0
  unfold consumeVarint at ok
  split at ok
  rename_i u' code consumed
  rw [consumed] at counted within
  split_ifs at ok with failed
  cases ok
  dsimp only at counted within
  omega

end Varints

section Fields

-- A field's value as the encoders write it; a Go slice holds at most math.MaxInt bytes.
inductive FieldValue where
  | varint (u : UInt64)
  | fixed64 (bytes : List UInt8) (length_eq : bytes.length = 8)
  | bytes (payload : List UInt8) (fits : payload.length ≤ 9223372036854775807)
  | fixed32 (bytes : List UInt8) (length_eq : bytes.length = 4)
deriving DecidableEq

def FieldValue.wireType : FieldValue → WireType
  | .varint _ => .varint
  | .fixed64 _ _ => .fixed64
  | .bytes _ _ => .bytes
  | .fixed32 _ _ => .fixed32

-- `protowire.AppendVarint`, the little-endian words of the fixed types, `protowire.AppendBytes`.
def FieldValue.encode : FieldValue → List UInt8
  | .varint u => putUvarint u.toNat
  | .fixed64 b _ => b
  | .bytes p _ => putUvarint p.length ++ p
  | .fixed32 b _ => b

structure WireField where
  num : Nat
  valid : isValidNumber num = true
  value : FieldValue
deriving DecidableEq

def WireField.tag (f : WireField) : List UInt8 := putUvarint (encodeTag f.num f.value.wireType)

def WireField.encode (f : WireField) : List UInt8 := f.tag ++ f.value.encode

def encodeFields (fs : List WireField) : List UInt8 := fs.flatMap WireField.encode

def Ascending (fs : List WireField) : Prop := fs.Pairwise fun f g => f.num ≤ g.num

@[simp]
theorem encode_fields_nil : encodeFields [] = [] := rfl

@[simp]
theorem encode_fields_cons (f : WireField) (fs : List WireField) :
    encodeFields (f :: fs) = f.encode ++ encodeFields fs := rfl

@[simp]
theorem encode_fields_append (fs gs : List WireField) : encodeFields (fs ++ gs) = encodeFields fs ++ encodeFields gs :=
  List.flatMap_append

theorem WireField.tag_length_pos (f : WireField) : 0 < f.tag.length :=
  List.length_pos_iff.mpr (encode_ne_nil _)

theorem WireField.encode_length (f : WireField) : f.encode.length = f.tag.length + f.value.encode.length :=
  List.length_append

theorem encode_fields_eq_nil {fs : List WireField} : encodeFields fs = [] ↔ fs = [] := by
  cases fs with
  | nil => simp
  | cons f rest =>
      have := f.tag_length_pos
      simp only [encode_fields_cons, WireField.encode, List.append_assoc, List.append_eq_nil_iff, reduceCtorEq,
        iff_false, not_and]
      intro empty
      simp [empty] at this

theorem is_valid_number_bounds {num : Nat} (valid : isValidNumber num = true) : 1 ≤ num ∧ num ≤ 536870911 := by
  simp [isValidNumber] at valid
  omega

theorem WireType.varint_code : WireType.varint.code = varintType := rfl

theorem WireType.bytes_code : WireType.bytes.code = bytesType := rfl

theorem WireType.code_lt (typ : WireType) : typ.code < 8 := by
  cases typ <;> decide

theorem decode_tag_encode_tag {num : Nat} (valid : isValidNumber num = true) (typ : WireType) :
    decodeTag (UInt64.ofNat (encodeTag num typ)) = ((num : Int), typ.code) := by
  have bounds := is_valid_number_bounds valid
  have code := typ.code_lt
  have tagNat : (UInt64.ofNat (encodeTag num typ)).toNat = num * 8 + typ.code :=
    UInt64.toNat_ofNat_of_lt' (by unfold encodeTag; simp [UInt64.size]; omega)
  have number : (UInt64.ofNat (encodeTag num typ) >>> 3).toNat = num := by
    rw [UInt64.toNat_shiftRight, tagNat, Nat.shiftRight_eq_div_pow]
    simp only [UInt64.toNat_ofNat, Nat.reducePow, Nat.reduceMod]
    omega
  have wire : (UInt64.ofNat (encodeTag num typ) &&& 7).toNat = typ.code := by
    rw [UInt64.toNat_and, tagNat, show (7 : UInt64).toNat = 2 ^ 3 - 1 from rfl, Nat.and_two_pow_sub_one_eq_mod]
    omega
  rw [decodeTag, if_neg (by omega), number, wire]

end Fields

section Reading

theorem parse_tag_read {buf : List UInt8} {num typ n : Nat} (ok : Bytes.parseTag buf = .ok (num, typ, n)) :
    1 ≤ n ∧ n ≤ buf.length := by
  unfold Bytes.parseTag at ok
  obtain ⟨⟨u, k⟩, read, ok⟩ := Lib.Except.bind_ok ok
  obtain ⟨_, -, ok⟩ := Lib.Except.bind_ok ok
  cases ok
  exact parse_varint_read (Lib.Except.map_error_ok read)

theorem parse_len_read {buf : List UInt8} {ln n : Nat} (ok : Bytes.parseLEN buf = .ok (ln, n)) :
    1 ≤ n ∧ n + ln ≤ buf.length := by
  unfold Bytes.parseLEN at ok
  obtain ⟨⟨u, k⟩, read, ok⟩ := Lib.Except.bind_ok ok
  have counted := parse_varint_read (Lib.Except.map_error_ok read)
  obtain ⟨ln', -, ok⟩ := Lib.Except.bind_ok ok
  split_ifs at ok with short
  cases ok
  omega

theorem skip_field_read {buf : List UInt8} {num typ m : Nat} (ok : Bytes.skipField buf num typ = .ok m) :
    1 ≤ m ∧ m ≤ buf.length := by
  unfold Bytes.skipField at ok
  split at ok
  · split at ok
    · cases ok
      exact parse_varint_read (by assumption)
    · cases ok
  · split_ifs at ok with enough
    cases ok
    unfold Bytes.fixed64Len at enough ⊢
    omega
  · split at ok
    · cases ok
      have := parse_len_read (by assumption)
      omega
    · cases ok
  · cases ok
  · cases ok
  · split_ifs at ok with enough
    cases ok
    unfold Bytes.fixed32Len at enough ⊢
    omega
  · cases ok

theorem parse_len_field_bounds_within {buf : List UInt8} {off tagLn num typ : Nat} {b : FieldBounds}
    (ok : Bytes.parseLENFieldBounds buf off tagLn num typ = .ok b) :
    b.from = off ∧ b.from < b.valueFrom ∧ b.valueFrom ≤ b.to ∧ b.to ≤ buf.length := by
  unfold Bytes.parseLENFieldBounds at ok
  obtain ⟨⟨ln, n⟩, read, ok⟩ := Lib.Except.bind_ok ok
  cases ok
  unfold Bytes.parseLENField at read
  obtain ⟨_, -, read⟩ := Lib.Except.bind_ok read
  have counted := parse_len_read (Lib.Except.map_error_ok read)
  simp only [List.length_drop] at counted
  dsimp only
  omega

end Reading

end NeoFS.Proto
