import NeoFS.Proto.Fields
import NeoFS.Proto.Grammar

set_option autoImplicit false

/- The seekers of seekers.go. SeekFieldByNumber walks the fields of a message up to the first
   one with the number it seeks, and stops early at a greater number or at the end of the data;
   the getters parse the value of the field it finds. Over well-formed data in ascending order it
   finds the field that a walk over the list of fields finds, and over any bytes the bounds it
   reports lie within them. The walk is proved over every encoding of the fields that the readers
   take, not only the shortest one that protowire writes: a tag, a varint value or a length may be
   any base-128 form of at most ten bytes whose value fits 64 bits. -/
namespace NeoFS.Proto

open Lib.Varint

def unorderedFieldsError (n₁ n₂ : Nat) : String :=
  "unordered fields: #" ++ toString n₂ ++ " after #" ++ toString n₁

/-- The loop of SeekFieldByNumber from offset `off`, after a field numbered `prevNum`. Every turn
reads at least two bytes, so fuel for one turn more than buf has bytes lets it finish. -/
def seekFrom (buf : List UInt8) (seekNum : Nat) : Nat → Nat → Nat → Except (Go.Failure String) (Int × Nat × Nat)
  | 0, _, _ => throw .exhausted
  | fuel + 1, off, prevNum =>
      match Bytes.parseTag (buf.drop off) with
      | .error e => throw (.error ("parse tag at offset " ++ toString off ++ ": " ++ e))
      | .ok (num, typ, n) =>
          if num = seekNum then pure (off, n, typ)
          else if seekNum < num then pure (-1, 0, 0)
          else if num < prevNum then throw (.error (unorderedFieldsError prevNum num))
          else
            match Bytes.skipField (buf.drop (off + n)) num typ with
            | .error e => throw (.error e)
            | .ok m => if off + n + m = buf.length then pure (-1, 0, 0) else seekFrom buf seekNum fuel (off + n + m) num

-- `SeekFieldByNumber`: the offset, tag length and wire type of the field, or offset -1.
def seekFieldByNumber (buf : List UInt8) (seekNum : Nat) : Except (Go.Failure String) (Int × Nat × Nat) :=
  match checkFieldNumber seekNum with
  | .error e => throw (.error e)
  | .ok () => if buf.length = 0 then pure (-1, 0, 0) else seekFrom buf seekNum (buf.length + 1) 0 0

def getLENFieldBounds (buf : List UInt8) (num : Nat) : Except (Go.Failure String) FieldBounds := do
  let (off, tagLn, typ) ← seekFieldByNumber buf num
  if off < 0 then pure ⟨0, 0, 0⟩
  else (Bytes.parseLENFieldBounds buf off.toNat tagLn num typ).mapError Go.Failure.error

def getUint64Field (buf : List UInt8) (num : Nat) : Except (Go.Failure String) UInt64 := do
  let (off, tagLn, typ) ← seekFieldByNumber buf num
  if off < 0 then pure 0
  else ((Bytes.parseUint64Field (buf.drop (off.toNat + tagLn)) num typ).map Prod.fst).mapError Go.Failure.error

-- `GetEnumField` at the int32 that its type parameter stands for.
def getEnumField (buf : List UInt8) (num : Nat) : Except (Go.Failure String) Int32 := do
  let (off, tagLn, typ) ← seekFieldByNumber buf num
  if off < 0 then pure 0
  else ((Bytes.parseEnumField (buf.drop (off.toNat + tagLn)) num typ).map Prod.fst).mapError Go.Failure.error

section Locate

def locate (n : Nat) : List WireField → Option (Nat × WireField)
  | [] => none
  | f :: rest => if f.num = n then some (0, f) else (locate n rest).map fun p => (f.encode.length + p.1, p.2)

-- What SeekFieldByNumber returns for a field located `off` bytes further on.
def seekAnswer (off : Nat) : Option (Nat × WireField) → Int × Nat × Nat
  | none => (-1, 0, 0)
  | some (o, f) => ((off + o : Nat), f.tag.length, f.value.wireType.code)

instance (fs : List WireField) : Decidable (Ascending fs) := inferInstanceAs (Decidable (List.Pairwise _ fs))

theorem locate_eq_none_iff (n : Nat) (fs : List WireField) : locate n fs = none ↔ ∀ f ∈ fs, f.num ≠ n := by
  induction fs with
  | nil => simp [locate]
  | cons f rest ih =>
      by_cases same : f.num = n <;> simp [locate, same, ih]

theorem locate_eq_some {n : Nat} : ∀ {fs : List WireField} {off : Nat} {g : WireField},
    locate n fs = some (off, g) →
      ∃ pre post, fs = pre ++ g :: post ∧ g.num = n ∧ (∀ h ∈ pre, h.num ≠ n) ∧ off = (encodeFields pre).length
  | [], _, _, found => by cases found
  | f :: rest, off, g, found => by
      by_cases same : f.num = n
      · rw [locate, if_pos same] at found
        cases found
        exact ⟨[], rest, rfl, same, by simp, rfl⟩
      · rw [locate, if_neg same] at found
        obtain ⟨⟨o, g'⟩, later, shifted⟩ := Option.map_eq_some_iff.mp found
        cases shifted
        obtain ⟨pre, post, split, numbered, before, offset⟩ := locate_eq_some later
        refine ⟨f :: pre, post, by rw [split]; rfl, numbered, ?_, by simp [offset]⟩
        intro h member
        rcases List.mem_cons.mp member with rfl | earlier
        · exact same
        · exact before h earlier

theorem locate_of_lt {n : Nat} {f : WireField} {rest : List WireField} (ascending : Ascending (f :: rest))
    (past : n < f.num) : locate n (f :: rest) = none := by
  rw [locate_eq_none_iff]
  intro g member
  rcases List.mem_cons.mp member with rfl | later
  · omega
  · have := List.rel_of_pairwise_cons ascending later
    omega

theorem seek_answer_past {n : Nat} {f : WireField} (off : Nat) (rest : List WireField) (other : f.num ≠ n) :
    seekAnswer off (locate n (f :: rest)) = seekAnswer (off + f.encode.length) (locate n rest) := by
  rw [locate, if_neg other]
  cases locate n rest with
  | none => rfl
  | some p => simp [seekAnswer, Nat.add_assoc]

end Locate

section Varints

theorem encodes_encode (n : Nat) : Encodes n (encode n) := by
  by_cases small : n < 128
  · have byte : n.toUInt8.toNat = n := by simp; omega
    have token := Encodes.last (b := n.toUInt8) (by rw [byte]; exact small)
    rwa [byte, ← encode_of_lt small] at token
  · have byte : (n % 128 + 128).toUInt8.toNat = n % 128 + 128 := by simp; omega
    have token := Encodes.more (b := (n % 128 + 128).toUInt8) (by rw [byte]; omega) (encodes_encode (n / 128))
    rwa [byte, show n % 128 + 128 - 128 + 128 * (n / 128) = n by omega, ← encode_of_le (by omega)] at token
termination_by n
decreasing_by omega

theorem uvarint_put_uvarint {v : Nat} (fits : v < 2 ^ 64) : Uvarint v (putUvarint v) :=
  ⟨encodes_encode v, by rw [length_put_uvarint fits]; exact size_varint_le_ten fits, fits⟩

-- ConsumeVarint on any encoding of m from its byte k on, the overlong ones included.
theorem consume_varint_from_encodes {m : Nat} {bs : List UInt8} (token : Encodes m bs) (rest : List UInt8) :
    ∀ (k : Nat) (v : UInt64), k + bs.length ≤ 10 → v.toNat < 2 ^ (7 * k) → v.toNat + m * 2 ^ (7 * k) < 2 ^ 64 →
      consumeVarintFrom k v (bs ++ rest) = (UInt64.ofNat (v.toNat + m * 2 ^ (7 * k)), ((k + bs.length : Nat) : Int)) := by
  induction token with
  | @last b small =>
      intro k v within low fits
      have byte : b.toNat.toUInt8 = b := by simp
      simp only [List.length_singleton] at within
      rw [List.singleton_append, consumeVarintFrom]
      by_cases tenth : k = 9
      · subst tenth
        have bit : b.toNat < 2 := by
          norm_num at fits
          omega
        rw [if_pos rfl, if_pos (UInt8.lt_iff_toNat_lt.mpr (by simpa using bit))]
        have added := last_byte_add (m := b.toNat) (s := 63) (by omega) small low fits
        rw [byte] at added
        exact Prod.ext added rfl
      · rw [if_neg tenth]
        dsimp only
        rw [if_pos (UInt8.lt_iff_toNat_lt.mpr (by simpa using small))]
        have added := last_byte_add (m := b.toNat) (s := 7 * k) (by omega) small low fits
        rw [byte] at added
        exact Prod.ext added (by simp)
  | @more b m' bs' big rest' ih =>
      intro k v within low fits
      have nonempty := rest'.length_pos
      simp only [List.length_cons] at within
      have tenth : k ≠ 9 := by omega
      have high : ¬ b < 0x80 := by
        rw [UInt8.lt_iff_toNat_lt]
        simpa using big
      obtain ⟨same, below⟩ := continuation_step (s := 7 * k) (by omega) low high
      have joined := continuation_or_to_nat (s := 7 * k) (by omega) low high
      have total : v.toNat + (b.toNat - 128) * 2 ^ (7 * k) + m' * 2 ^ (7 * (k + 1)) =
          v.toNat + (b.toNat - 128 + 128 * m') * 2 ^ (7 * k) := by
        rw [show 7 * (k + 1) = 7 * k + 7 by ring, pow_add]
        ring
      rw [List.cons_append, consumeVarintFrom, if_neg tenth]
      dsimp only
      rw [if_neg high, same, ih (k + 1) _ (by omega) (by rw [show 7 * (k + 1) = 7 * k + 7 by ring]; exact below)
        (by rw [joined, total]; exact fits), joined, total]
      refine Prod.ext rfl ?_
      simp only [List.length_cons]
      push_cast
      ring

theorem parse_varint_uvarint {v : Nat} {bs : List UInt8} (token : Uvarint v bs) (rest : List UInt8) :
    parseVarint (bs ++ rest) = .ok (UInt64.ofNat v, bs.length) := by
  have read := consume_varint_from_encodes token.1 rest 0 0 (by simpa [maxVarintLen64] using token.2.1)
    (by decide) (by simpa using token.2.2)
  simp only [UInt64.toNat_zero, Nat.mul_zero, pow_zero, Nat.mul_one, Nat.zero_add] at read
  unfold parseVarint consumeVarint
  rw [read]
  simp

theorem parse_len_uvarint {len p : List UInt8} (token : Uvarint p.length len) (fits : p.length ≤ 9223372036854775807)
    (rest : List UInt8) : Bytes.parseLEN (len ++ (p ++ rest)) = .ok (p.length, len.length) := by
  have lengthNat : (UInt64.ofNat p.length).toNat = p.length :=
    UInt64.toNat_ofNat_of_lt' (by simp [UInt64.size]; omega)
  unfold Bytes.parseLEN
  rw [parse_varint_uvarint token]
  simp [checkLEN, lengthNat, show ¬ 9223372036854775807 < p.length by omega]

end Varints

section Encoded

-- The bytes the readers take for a value: a varint or a length in any of its forms, a fixed value
-- as it is.
def FieldValue.Encoded : FieldValue → List UInt8 → Prop
  | .varint u, bs => Uvarint u.toNat bs
  | .fixed64 b _, bs => bs = b
  | .bytes p _, bs => ∃ len, Uvarint p.length len ∧ bs = len ++ p
  | .fixed32 b _, bs => bs = b

structure EncodedField where
  field : WireField
  tag : List UInt8
  value : List UInt8
  tagged : Tag field.num field.value.wireType.code tag
  valued : field.value.Encoded value

def EncodedField.bytes (e : EncodedField) : List UInt8 := e.tag ++ e.value

def encodeAll (es : List EncodedField) : List UInt8 := es.flatMap EncodedField.bytes

theorem FieldValue.encoded_encode (v : FieldValue) : v.Encoded v.encode := by
  cases v with
  | varint u => exact uvarint_put_uvarint u.toNat_lt
  | fixed64 b eight => rfl
  | bytes p fits => exact ⟨putUvarint p.length, uvarint_put_uvarint (by omega), rfl⟩
  | fixed32 b four => rfl

-- A field as protowire writes it.
def WireField.canonical (f : WireField) : EncodedField where
  field := f
  tag := f.tag
  value := f.value.encode
  tagged := by
    have bounds := is_valid_number_bounds f.valid
    have code := f.value.wireType.code_lt
    exact ⟨code, f.valid, uvarint_put_uvarint (by omega)⟩
  valued := f.value.encoded_encode

theorem encode_all_canonical (fs : List WireField) : encodeAll (fs.map WireField.canonical) = encodeFields fs := by
  induction fs with
  | nil => rfl
  | cons f rest ih =>
      simp only [List.map_cons, encodeAll, List.flatMap_cons] at ih ⊢
      rw [ih]
      rfl

@[simp]
theorem encode_all_nil : encodeAll [] = [] := rfl

@[simp]
theorem encode_all_cons (e : EncodedField) (es : List EncodedField) :
    encodeAll (e :: es) = e.bytes ++ encodeAll es := rfl

@[simp]
theorem encode_all_append (es gs : List EncodedField) : encodeAll (es ++ gs) = encodeAll es ++ encodeAll gs :=
  List.flatMap_append

theorem EncodedField.tag_length_pos (e : EncodedField) : 0 < e.tag.length :=
  e.tagged.2.2.1.length_pos

theorem length_le_encode_all (es : List EncodedField) : es.length ≤ (encodeAll es).length := by
  induction es with
  | nil => simp
  | cons e rest ih =>
      have := e.tag_length_pos
      simp [EncodedField.bytes]
      omega

theorem length_le_encode_fields (fs : List WireField) : fs.length ≤ (encodeFields fs).length := by
  have counted := length_le_encode_all (fs.map WireField.canonical)
  rwa [encode_all_canonical, List.length_map] at counted

end Encoded

section Reading

theorem parse_tag_encoded (e : EncodedField) (rest : List UInt8) :
    Bytes.parseTag (e.bytes ++ rest) = .ok (e.field.num, e.field.value.wireType.code, e.tag.length) := by
  have valid := e.tagged.2.1
  have token : Uvarint (encodeTag e.field.num e.field.value.wireType) e.tag := e.tagged.2.2
  unfold Bytes.parseTag
  rw [EncodedField.bytes, List.append_assoc, parse_varint_uvarint token]
  simp [decode_tag_encode_tag valid, checkFieldNumber, valid]

theorem skip_field_encoded {v : FieldValue} {bs : List UInt8} (valued : v.Encoded bs) (num : Nat)
    (rest : List UInt8) : Bytes.skipField (bs ++ rest) num v.wireType.code = .ok bs.length := by
  cases v with
  | varint u =>
      simp [FieldValue.wireType, WireType.code, Bytes.skipField, parse_varint_uvarint (v := u.toNat) valued]
  | fixed64 b eight =>
      obtain rfl : bs = b := valued
      simp [FieldValue.wireType, WireType.code, Bytes.skipField, Bytes.fixed64Len, eight]
  | bytes p fits =>
      obtain ⟨len, token, rfl⟩ := valued
      simp [FieldValue.wireType, WireType.code, Bytes.skipField, parse_len_uvarint token fits]
  | fixed32 b four =>
      obtain rfl : bs = b := valued
      simp [FieldValue.wireType, WireType.code, Bytes.skipField, Bytes.fixed32Len, four]

theorem parse_uint64_field_uvarint {u : UInt64} {bs : List UInt8} (token : Uvarint u.toNat bs) (rest : List UInt8)
    (num : Nat) : Bytes.parseUint64Field (bs ++ rest) num varintType = .ok (u, bs.length) := by
  simp [Bytes.parseUint64Field, checkFieldType, parse_varint_uvarint token, Except.mapError]

theorem parse_enum_field_uvarint {u : UInt64} {bs : List UInt8} (token : Uvarint u.toNat bs) (rest : List UInt8)
    (num : Nat) :
    Bytes.parseEnumField (bs ++ rest) num varintType =
      if u.toNat ≤ 2147483647 then .ok (Int32.ofNat u.toNat, bs.length)
      else .error (wrapParseFieldError num varintType ("value " ++ toString u ++ " overflows int32")) := by
  unfold Bytes.parseEnumField Bytes.parseEnum
  rw [parse_varint_uvarint token, UInt64.ofNat_toNat]
  by_cases small : u.toNat ≤ 2147483647
  · simp [checkFieldType, small, show ¬ 2147483647 < u.toNat by omega, Except.mapError]
  · simp [checkFieldType, small, show 2147483647 < u.toNat by omega, Except.mapError]

end Reading

section Walk

theorem check_field_number_valid {n : Nat} (valid : isValidNumber n = true) : checkFieldNumber n = .ok () := by
  simp [checkFieldNumber, valid]

theorem seek_from_encoded_field {buf : List UInt8} {n fuel off prev : Nat} {e : EncodedField} {tail : List UInt8}
    (placed : buf.drop off = e.bytes ++ tail) (ordered : prev ≤ e.field.num) :
    seekFrom buf n (fuel + 1) off prev =
      if e.field.num = n then .ok (off, e.tag.length, e.field.value.wireType.code)
      else if n < e.field.num then .ok (-1, 0, 0)
      else if tail = [] then .ok (-1, 0, 0)
      else seekFrom buf n fuel (off + e.bytes.length) e.field.num := by
  have tag : Bytes.parseTag (buf.drop off) = .ok (e.field.num, e.field.value.wireType.code, e.tag.length) := by
    rw [placed]
    exact parse_tag_encoded e tail
  have skip : Bytes.skipField (buf.drop (off + e.tag.length)) e.field.num e.field.value.wireType.code =
      .ok e.value.length := by
    rw [← List.drop_drop, placed, EncodedField.bytes, List.append_assoc, List.drop_left]
    exact skip_field_encoded e.valued _ _
  have ends : off + e.tag.length + e.value.length = buf.length ↔ tail = [] := by
    have lengths := congrArg List.length placed
    have := e.tag_length_pos
    simp only [List.length_drop, List.length_append, EncodedField.bytes] at lengths
    rw [← List.length_eq_zero_iff]
    omega
  rw [seekFrom, tag]
  dsimp only
  by_cases found : e.field.num = n
  · rw [if_pos found, if_pos found]
    rfl
  · rw [if_neg found, if_neg found]
    by_cases past : n < e.field.num
    · rw [if_pos past, if_pos past]
      rfl
    · rw [if_neg past, if_neg past, if_neg (by omega), skip]
      dsimp only
      rw [EncodedField.bytes, List.length_append, ← Nat.add_assoc]
      by_cases last : tail = []
      · rw [if_pos (ends.mpr last), if_pos last]
        rfl
      · rw [if_neg (mt ends.mp last), if_neg last]

theorem encode_all_cons_ne_nil (e : EncodedField) (es : List EncodedField) : encodeAll (e :: es) ≠ [] := by
  have := e.tag_length_pos
  intro empty
  have lengths := congrArg List.length empty
  simp only [encode_all_cons, EncodedField.bytes, List.length_append, List.length_nil] at lengths
  omega

-- The walk from a field on, by induction on the fields still ahead: it stops at the first field of
-- the number, or reports none when it passes the number or the data ends.
theorem seek_from_encoded_fields (n : Nat) : ∀ (rest : List EncodedField) (e : EncodedField) (buf : List UInt8)
    (fuel off prev : Nat), buf.drop off = encodeAll (e :: rest) → prev ≤ e.field.num →
      Ascending ((e :: rest).map EncodedField.field) → rest.length < fuel →
      ((∀ g ∈ e :: rest, g.field.num ≠ n) ∧ seekFrom buf n fuel off prev = .ok (-1, 0, 0)) ∨
        ∃ pre g post, e :: rest = pre ++ g :: post ∧ g.field.num = n ∧ (∀ h ∈ pre, h.field.num ≠ n) ∧
          seekFrom buf n fuel off prev =
            .ok ((off + (encodeAll pre).length : Nat), g.tag.length, g.field.value.wireType.code)
  | _, _, _, 0, _, _, _, _, _, enough => absurd enough (Nat.not_lt_zero _)
  | rest, e, buf, fuel + 1, off, prev, placed, ordered, ascending, enough => by
      have sorted := List.pairwise_map.mp ascending
      rw [seek_from_encoded_field (placed.trans (encode_all_cons e rest)) ordered]
      by_cases found : e.field.num = n
      · exact .inr ⟨[], e, rest, rfl, found, by simp, by simp [found]⟩
      · by_cases past : n < e.field.num
        · refine .inl ⟨fun g member => ?_, by simp [found, past]⟩
          rcases List.mem_cons.mp member with rfl | later
          · exact found
          · have := List.rel_of_pairwise_cons sorted later
            omega
        · cases rest with
          | nil => exact .inl ⟨by simpa using found, by simp [found, past]⟩
          | cons g rest =>
              have next : buf.drop (off + e.bytes.length) = encodeAll (g :: rest) := by
                rw [← List.drop_drop, placed, encode_all_cons, List.drop_left]
              rw [if_neg found, if_neg past, if_neg (encode_all_cons_ne_nil g rest)]
              rcases seek_from_encoded_fields n rest g buf fuel _ e.field.num next
                  (List.rel_of_pairwise_cons sorted (by simp)) (List.pairwise_map.mpr sorted.of_cons)
                  (by simp at enough; omega) with
                ⟨none, seek⟩ | ⟨pre, h, post, split, numbered, before, seek⟩
              · refine .inl ⟨fun h member => ?_, seek⟩
                rcases List.mem_cons.mp member with rfl | later
                · exact found
                · exact none h later
              · refine .inr ⟨e :: pre, h, post, by rw [split]; rfl, numbered, fun h' member => ?_, ?_⟩
                · rcases List.mem_cons.mp member with rfl | earlier
                  · exact found
                  · exact before h' earlier
                · rw [seek]
                  simp [Nat.add_assoc]

theorem seek_field_by_number_encoded {es : List EncodedField} (ascending : Ascending (es.map EncodedField.field))
    {n : Nat} (valid : isValidNumber n = true) :
    ((∀ e ∈ es, e.field.num ≠ n) ∧ seekFieldByNumber (encodeAll es) n = .ok (-1, 0, 0)) ∨
      ∃ pre e post, es = pre ++ e :: post ∧ e.field.num = n ∧ (∀ g ∈ pre, g.field.num ≠ n) ∧
        seekFieldByNumber (encodeAll es) n = .ok ((encodeAll pre).length, e.tag.length, e.field.value.wireType.code) := by
  unfold seekFieldByNumber
  rw [check_field_number_valid valid]
  dsimp only
  cases es with
  | nil => exact .inl ⟨by simp, rfl⟩
  | cons e rest =>
      have nonempty : (encodeAll (e :: rest)).length ≠ 0 :=
        fun empty => encode_all_cons_ne_nil e rest (List.length_eq_zero_iff.mp empty)
      have enough := length_le_encode_all (e :: rest)
      rw [if_neg nonempty]
      rcases seek_from_encoded_fields n rest e _ ((encodeAll (e :: rest)).length + 1) 0 0 List.drop_zero (Nat.zero_le _) ascending
          (by simp at enough ⊢; omega) with
        left | ⟨pre, g, post, split, numbered, before, seek⟩
      · exact .inl left
      · exact .inr ⟨pre, g, post, split, numbered, before, by rw [seek]; simp⟩


-- The step at a field written as protowire writes it.
theorem seek_from_field {buf : List UInt8} {n fuel off prev : Nat} {f : WireField} {tail : List UInt8}
    (placed : buf.drop off = f.encode ++ tail) (ordered : prev ≤ f.num) :
    seekFrom buf n (fuel + 1) off prev =
      if f.num = n then .ok (off, f.tag.length, f.value.wireType.code)
      else if n < f.num then .ok (-1, 0, 0)
      else if tail = [] then .ok (-1, 0, 0)
      else seekFrom buf n fuel (off + f.encode.length) f.num :=
  seek_from_encoded_field (e := f.canonical) placed ordered

-- The walk from a field on: the induction is on the fields still ahead, with the offset of the
-- first of them and the number of the field before it.
theorem seek_from_fields (n : Nat) : ∀ (rest : List WireField) (f : WireField) (buf : List UInt8)
    (fuel off prev : Nat), buf.drop off = encodeFields (f :: rest) → prev ≤ f.num → Ascending (f :: rest) →
      rest.length < fuel → seekFrom buf n fuel off prev = .ok (seekAnswer off (locate n (f :: rest)))
  | _, _, _, 0, _, _, _, _, _, enough => absurd enough (Nat.not_lt_zero _)
  | [], f, buf, fuel + 1, off, prev, placed, ordered, _, _ => by
      rw [seek_from_field (placed.trans (encode_fields_cons f [])) ordered]
      by_cases found : f.num = n
      · simp [found, locate, seekAnswer]
      · by_cases past : n < f.num
        · simp [found, past, locate, seekAnswer]
        · simp [found, past, locate, seekAnswer]
  | g :: rest, f, buf, fuel + 1, off, prev, placed, ordered, ascending, enough => by
      have more : encodeFields (g :: rest) ≠ [] := by simp only [ne_eq, encode_fields_eq_nil]; simp
      rw [seek_from_field (placed.trans (encode_fields_cons f _)) ordered]
      by_cases found : f.num = n
      · simp [found, locate, seekAnswer]
      · by_cases past : n < f.num
        · rw [if_neg found, if_pos past, locate_of_lt ascending past]
          rfl
        · have next : buf.drop (off + f.encode.length) = encodeFields (g :: rest) := by
            rw [← List.drop_drop, placed, encode_fields_cons, List.drop_left]
          rw [if_neg found, if_neg past, if_neg more, seek_answer_past off _ found]
          exact seek_from_fields n rest g buf fuel _ f.num next (List.rel_of_pairwise_cons ascending (by simp))
            (List.Pairwise.of_cons ascending) (by simp at enough; omega)

theorem seek_field_by_number_fields {fs : List WireField} (ascending : Ascending fs) {n : Nat}
    (valid : isValidNumber n = true) : seekFieldByNumber (encodeFields fs) n = .ok (seekAnswer 0 (locate n fs)) := by
  unfold seekFieldByNumber
  rw [check_field_number_valid valid]
  dsimp only
  cases fs with
  | nil => rfl
  | cons f rest =>
      have nonempty : (encodeFields (f :: rest)).length ≠ 0 := by
        have := f.tag_length_pos
        simp only [encode_fields_cons, List.length_append, WireField.encode_length]
        omega
      have enough := length_le_encode_fields (f :: rest)
      rw [if_neg nonempty]
      exact seek_from_fields n rest f _ _ 0 0 (List.drop_zero) (Nat.zero_le _) ascending
        (by simp at enough ⊢; omega)

example : seekFieldByNumber [0x08, 5, 0x12, 2, 7, 8] 2 = .ok (2, 1, 2) := by decide

end Walk

section Getters

-- The seekers when the field numbered n is missing.
structure SeekMissing (buf : List UInt8) (n : Nat) : Prop where
  seek : seekFieldByNumber buf n = .ok (-1, 0, 0)
  bounds : getLENFieldBounds buf n = .ok ⟨0, 0, 0⟩
  uint64 : getUint64Field buf n = .ok 0
  enum : getEnumField buf n = .ok 0

-- The seekers at a field f numbered n at offset `off`: its tag and type, and its value read by the
-- getter of its type; an enum only when the varint fits an int32.
structure SeekFound (buf : List UInt8) (n off : Nat) (f : WireField) : Prop where
  seek : seekFieldByNumber buf n = .ok (off, f.tag.length, f.value.wireType.code)
  uint64 : ∀ u, f.value = .varint u → getUint64Field buf n = .ok u
  enum : ∀ u, f.value = .varint u → getEnumField buf n =
    if u.toNat ≤ 2147483647 then .ok (Int32.ofNat u.toNat)
    else .error (.error (wrapParseFieldError n varintType ("value " ++ toString u ++ " overflows int32")))
  bounds : ∀ p fits, f.value = .bytes p fits →
    ∃ b, getLENFieldBounds buf n = .ok b ∧ b.from = off ∧ (buf.take b.to).drop b.valueFrom = p

theorem seek_missing_of_seek {buf : List UInt8} {n : Nat} (seek : seekFieldByNumber buf n = .ok (-1, 0, 0)) :
    SeekMissing buf n := by
  refine ⟨seek, ?_, ?_, ?_⟩ <;> simp [getLENFieldBounds, getUint64Field, getEnumField, seek]

/-- The seekers at a field e numbered n at offset `off`, in the form it is written in: its tag's
length and its type, and its value read by the getter of its type. -/
structure SeekFoundAt (buf : List UInt8) (n off : Nat) (e : EncodedField) : Prop where
  seek : seekFieldByNumber buf n = .ok (off, e.tag.length, e.field.value.wireType.code)
  uint64 : ∀ u, e.field.value = .varint u → getUint64Field buf n = .ok u
  enum : ∀ u, e.field.value = .varint u → getEnumField buf n =
    if u.toNat ≤ 2147483647 then .ok (Int32.ofNat u.toNat)
    else .error (.error (wrapParseFieldError n varintType ("value " ++ toString u ++ " overflows int32")))
  bounds : ∀ p fits, e.field.value = .bytes p fits →
    ∃ b, getLENFieldBounds buf n = .ok b ∧ b.from = off ∧ (buf.take b.to).drop b.valueFrom = p

-- At a field written as protowire writes it, this is what the seekers are shown to do there.
theorem SeekFoundAt.canonical {buf : List UInt8} {n off : Nat} {f : WireField}
    (found : SeekFoundAt buf n off f.canonical) : SeekFound buf n off f :=
  ⟨found.seek, found.uint64, found.enum, found.bounds⟩

variable {buf : List UInt8} {n off : Nat} {e : EncodedField} {f : WireField} {tail : List UInt8}

theorem drop_encoded_value (placed : buf.drop off = e.bytes ++ tail) :
    buf.drop (off + e.tag.length) = e.value ++ tail := by
  rw [← List.drop_drop, placed, EncodedField.bytes, List.append_assoc, List.drop_left]

theorem uvarint_of_varint {u : UInt64} (holds : e.field.value = .varint u) : Uvarint u.toNat e.value := by
  have valued := e.valued
  rw [holds] at valued
  exact valued

theorem get_uint64_field_at (seek : seekFieldByNumber buf n = .ok (off, e.tag.length, e.field.value.wireType.code))
    (placed : buf.drop off = e.bytes ++ tail) {u : UInt64} (holds : e.field.value = .varint u) :
    getUint64Field buf n = .ok u := by
  unfold getUint64Field
  rw [seek, Lib.Except.ok_bind]
  dsimp only
  rw [if_neg (by omega), Int.toNat_natCast, drop_encoded_value placed, holds, FieldValue.wireType,
    WireType.varint_code, parse_uint64_field_uvarint (uvarint_of_varint holds)]
  rfl

theorem get_enum_field_at (seek : seekFieldByNumber buf n = .ok (off, e.tag.length, e.field.value.wireType.code))
    (placed : buf.drop off = e.bytes ++ tail) {u : UInt64} (holds : e.field.value = .varint u) :
    getEnumField buf n =
      if u.toNat ≤ 2147483647 then .ok (Int32.ofNat u.toNat)
      else .error (.error (wrapParseFieldError n varintType ("value " ++ toString u ++ " overflows int32"))) := by
  unfold getEnumField
  rw [seek, Lib.Except.ok_bind]
  dsimp only
  rw [if_neg (by omega), Int.toNat_natCast, drop_encoded_value placed, holds, FieldValue.wireType,
    WireType.varint_code, parse_enum_field_uvarint (uvarint_of_varint holds)]
  split_ifs <;> rfl

theorem get_len_field_bounds_at (seek : seekFieldByNumber buf n = .ok (off, e.tag.length, e.field.value.wireType.code))
    (placed : buf.drop off = e.bytes ++ tail) {p : List UInt8} {fits : p.length ≤ 9223372036854775807}
    (holds : e.field.value = .bytes p fits) :
    ∃ b, getLENFieldBounds buf n = .ok b ∧ b.from = off ∧ (buf.take b.to).drop b.valueFrom = p := by
  have valued := e.valued
  rw [holds] at valued
  obtain ⟨len, token, value⟩ := valued
  have dropped := drop_encoded_value placed
  rw [value, List.append_assoc] at dropped
  refine ⟨⟨off, off + e.tag.length + len.length, off + e.tag.length + len.length + p.length⟩, ?_, rfl, ?_⟩
  · unfold getLENFieldBounds Bytes.parseLENFieldBounds
    rw [seek, Lib.Except.ok_bind]
    dsimp only
    rw [if_neg (by omega), Int.toNat_natCast, dropped, holds, FieldValue.wireType, WireType.bytes_code]
    simp [Bytes.parseLENField, checkFieldType, parse_len_uvarint token fits, Except.mapError]
  · dsimp only
    rw [List.drop_take, Nat.add_sub_cancel_left, ← List.drop_drop, dropped, List.drop_left, List.take_left']
    rfl

theorem seek_found_at_of_seek (seek : seekFieldByNumber buf n = .ok (off, e.tag.length, e.field.value.wireType.code))
    (placed : buf.drop off = e.bytes ++ tail) : SeekFoundAt buf n off e where
  seek := seek
  uint64 _ holds := get_uint64_field_at seek placed holds
  enum _ holds := get_enum_field_at seek placed holds
  bounds _ _ holds := get_len_field_bounds_at seek placed holds

theorem seek_found_of_seek (seek : seekFieldByNumber buf n = .ok (off, f.tag.length, f.value.wireType.code))
    (placed : buf.drop off = f.encode ++ tail) : SeekFound buf n off f :=
  (seek_found_at_of_seek (e := f.canonical) seek placed).canonical

end Getters

section AnyBytes

theorem seek_from_ne_exhausted (buf : List UInt8) (n : Nat) :
    ∀ (fuel off prev : Nat), buf.length - off < fuel → seekFrom buf n fuel off prev ≠ .error .exhausted
  | 0, _, _, enough => absurd enough (Nat.not_lt_zero _)
  | fuel + 1, off, prev, enough => by
      unfold seekFrom
      split
      · intro stopped
        cases stopped
      · rename_i num typ k tag
        have tagRead := parse_tag_read tag
        simp only [List.length_drop] at tagRead
        split_ifs
        · intro stopped; cases stopped
        · intro stopped; cases stopped
        · intro stopped; cases stopped
        · split
          · intro stopped; cases stopped
          · rename_i m skip
            have skipRead := skip_field_read skip
            simp only [List.length_drop] at skipRead
            split_ifs
            · intro stopped; cases stopped
            · exact seek_from_ne_exhausted buf n fuel _ num (by omega)

theorem get_len_field_bounds_within (buf : List UInt8) (n : Nat) {b : FieldBounds}
    (ok : getLENFieldBounds buf n = .ok b) :
    b = ⟨0, 0, 0⟩ ∨ (b.from < b.valueFrom ∧ b.valueFrom ≤ b.to ∧ b.to ≤ buf.length) := by
  unfold getLENFieldBounds at ok
  obtain ⟨⟨off, tagLn, typ⟩, -, ok⟩ := Lib.Except.bind_ok ok
  dsimp only at ok
  split_ifs at ok
  · cases ok
    exact .inl rfl
  · exact .inr (parse_len_field_bounds_within (Lib.Except.map_error_ok ok)).2

end AnyBytes

theorem seekers_return_first_field :
    (∀ fs : List WireField, Ascending fs → ∀ n : Nat, isValidNumber n = true →
      ((∀ f ∈ fs, f.num ≠ n) ∧ SeekMissing (encodeFields fs) n) ∨
        ∃ pre f post, fs = pre ++ f :: post ∧ f.num = n ∧ (∀ g ∈ pre, g.num ≠ n) ∧
          SeekFound (encodeFields fs) n (encodeFields pre).length f) ∧
      ∀ (buf : List UInt8) (n : Nat) (b : FieldBounds), getLENFieldBounds buf n = .ok b → b.isMissing = false →
        b.from < b.valueFrom ∧ b.valueFrom ≤ b.to ∧ b.to ≤ buf.length := by
  refine ⟨fun fs ascending n valid => ?_, fun buf n b ok present => ?_⟩
  · have seek := seek_field_by_number_fields ascending valid
    cases located : locate n fs with
    | none =>
        rw [located] at seek
        exact .inl ⟨(locate_eq_none_iff n fs).mp located, seek_missing_of_seek seek⟩
    | some found =>
        obtain ⟨o, f⟩ := found
        obtain ⟨pre, post, split, numbered, before, offset⟩ := locate_eq_some located
        have placed : (encodeFields fs).drop (encodeFields pre).length = f.encode ++ encodeFields post := by
          rw [split, encode_fields_append, List.drop_left, encode_fields_cons]
        rw [located, offset] at seek
        exact .inr ⟨pre, f, post, split, numbered, before, seek_found_of_seek (by rw [seek]; simp [seekAnswer]) placed⟩
  · rcases get_len_field_bounds_within buf n ok with rfl | within
    · cases present
    · exact within

-- A varint field numbered 1 and a bytes field numbered 2 holding [7, 8].
def twoFields : List WireField := [⟨1, by decide, .varint 5⟩, ⟨2, by decide, .bytes [7, 8] (by decide)⟩]

theorem seekers_on_two_fields :
    (((∀ f ∈ twoFields, f.num ≠ 2) ∧ SeekMissing (encodeFields twoFields) 2) ∨
        ∃ pre f post, twoFields = pre ++ f :: post ∧ f.num = 2 ∧ (∀ g ∈ pre, g.num ≠ 2) ∧
          SeekFound (encodeFields twoFields) 2 (encodeFields pre).length f) ∧
      getLENFieldBounds (encodeFields twoFields) 2 = .ok ⟨2, 4, 6⟩ ∧
      (2 < 4 ∧ 4 ≤ 6 ∧ 6 ≤ (encodeFields twoFields).length) :=
  ⟨seekers_return_first_field.1 twoFields (by decide) 2 (by decide), by decide,
    seekers_return_first_field.2 _ 2 ⟨2, 4, 6⟩ (by decide) (by decide)⟩

-- An enum value of -1, which MarshalToVarint writes as the ten-byte varint of uint64(-1): the data
-- is one well-formed field, and GetEnumField rejects it.
theorem getEnumField_rejects_negative_enum :
    marshalToVarint 1 (-1 : Int32).toInt64.toUInt64 =
        encodeFields [⟨1, by decide, .varint (-1 : Int32).toInt64.toUInt64⟩] ∧
      getEnumField (marshalToVarint 1 (-1 : Int32).toInt64.toUInt64) 1 =
        .error (.error (wrapParseFieldError 1 varintType "value 18446744073709551615 overflows int32")) := by
  decide

theorem seekers_read_any_encoding (es : List EncodedField) (ascending : Ascending (es.map EncodedField.field))
    (n : Nat) (valid : isValidNumber n = true) :
    ((∀ e ∈ es, e.field.num ≠ n) ∧ SeekMissing (encodeAll es) n) ∨
      ∃ pre e post, es = pre ++ e :: post ∧ e.field.num = n ∧ (∀ g ∈ pre, g.field.num ≠ n) ∧
        SeekFoundAt (encodeAll es) n (encodeAll pre).length e := by
  rcases seek_field_by_number_encoded ascending valid with ⟨none, seek⟩ | ⟨pre, e, post, split, numbered, before, seek⟩
  · exact .inl ⟨none, seek_missing_of_seek seek⟩
  · have placed : (encodeAll es).drop (encodeAll pre).length = e.bytes ++ encodeAll post := by
      rw [split, encode_all_append, List.drop_left, encode_all_cons]
    exact .inr ⟨pre, e, post, split, numbered, before, seek_found_at_of_seek seek placed⟩

-- Field 1 holding the varint 5, its tag 8 written in two bytes where protowire writes one.
theorem overlong_tag_tagged : Tag 1 WireType.varint.code [0x88, 0x00] := by
  have token := Encodes.more (b := 0x88) (by decide) (Encodes.last (b := 0x00) (by decide))
  rw [show (0x88 : UInt8).toNat - 128 + 128 * (0x00 : UInt8).toNat = 1 * 8 + 0 from rfl] at token
  exact ⟨by decide, by decide, token, by decide, by decide⟩

theorem overlong_tag_valued : FieldValue.Encoded (.varint 5) [0x05] :=
  ⟨Encodes.last (b := 0x05) (by decide), by decide, by decide⟩

def overlongTagField : EncodedField := ⟨⟨1, rfl, .varint 5⟩, [0x88, 0x00], [0x05], overlong_tag_tagged, overlong_tag_valued⟩

theorem seekers_read_overlong_tag :
    Ascending ([overlongTagField].map EncodedField.field) ∧ isValidNumber 1 = true ∧
      encodeAll [overlongTagField] = [0x88, 0x00, 0x05] ∧ getUint64Field [0x88, 0x00, 0x05] 1 = .ok 5 ∧
      (((∀ e ∈ [overlongTagField], e.field.num ≠ 1) ∧ SeekMissing (encodeAll [overlongTagField]) 1) ∨
        ∃ pre e post, [overlongTagField] = pre ++ e :: post ∧ e.field.num = 1 ∧ (∀ g ∈ pre, g.field.num ≠ 1) ∧
          SeekFoundAt (encodeAll [overlongTagField]) 1 (encodeAll pre).length e) :=
  ⟨by decide, by decide, rfl, by decide, seekers_read_any_encoding [overlongTagField] (by decide) 1 (by decide)⟩

end NeoFS.Proto
