import NeoFS.Lib.Reader
import NeoFS.Lib.Except
import NeoFS.Go.Basic

set_option autoImplicit false

/- The readers of proto/protobuf/parsers.go, written once against any source of bytes: the
   code runs them on a BuffersSlice, and a list of bytes is what they are specified on. Each
   parser gives back what it read and the source positioned after it; over a source that
   refines a list, mapping the source to its bytes turns a run into the run on those bytes. -/
namespace NeoFS.Proto

open Lib Lib.Reader

-- The wire types of protowire, by their number in a tag.
def varintType : Nat := 0
def bytesType : Nat := 2

-- `wireType.String`.
def wireTypeString : Nat → String
  | 0 => "VARINT"
  | 1 => "I64"
  | 2 => "LEN"
  | 3 => "SGROUP"
  | 4 => "EGROUP"
  | 5 => "I32"
  | t => toString t

def errUnexpectedEOF : String := "unexpected EOF"
def errVarintOverflow : String := "variable length integer overflow"

def checkFieldType (num exp got : Nat) : Except String Unit :=
  if exp ≠ got then
    throw ("wrong type of field #" ++ toString num ++ ": expected " ++ wireTypeString exp ++ ", got " ++
      wireTypeString got)
  else pure ()

def wrapParseFieldError (num t : Nat) (cause : String) : String :=
  "parse field #" ++ toString num ++ " of " ++ wireTypeString t ++ " type: " ++ cause

-- `protowire.DecodeTag`: a number beyond int32 decodes as -1.
def decodeTag (x : UInt64) : Int × Nat :=
  if 2147483647 < (x >>> 3).toNat then (-1, 0) else ((x >>> 3).toNat, (x &&& 7).toNat)

def isValidNumber (n : Int) : Bool :=
  1 ≤ n && (n < 19000 || 19999 < n) && n ≤ 536870911

def checkFieldNumber (num : Int) : Except String Unit :=
  if !isValidNumber num then throw ("invalid number " ++ toString num) else pure ()

-- `binary.MaxVarintLen64`.
def maxVarintLen64 : Nat := 10

-- The variables of parseUvarint's loop: the value so far, its shift and the bytes read.
structure UvarintState where
  u : UInt64
  s : Nat
  i : Nat

-- One turn of parseUvarint's loop over bytesSeq: the byte is taken, or the loop returns.
def uvarintStep (st : UvarintState) (b : UInt8) : UvarintState ⊕ Except String UInt64 :=
  if st.i = maxVarintLen64 then .inr (.error errVarintOverflow)
  else if b < 0x80 then
    if st.i = maxVarintLen64 - 1 ∧ 1 < b then .inr (.error errVarintOverflow)
    else .inr (.ok (st.u ||| b.toUInt64 <<< st.s.toUInt64))
  else .inl ⟨st.u ||| (b &&& 0x7f).toUInt64 <<< st.s.toUInt64, st.s + 7, st.i + 1⟩

-- The error codes of protowire that ConsumeVarint returns.
def errCodeTruncated : Int := -1
def errCodeOverflow : Int := -3

/-- `protowire.ConsumeVarint`, whose unrolled steps are the turns of this loop: byte k adds itself
shifted by 7k, and a byte with the high bit takes the bit back off and goes on; the tenth byte may
only be 0 or 1. -/
def consumeVarintFrom (k : Nat) (v : UInt64) : List UInt8 → UInt64 × Int
  | [] => (0, errCodeTruncated)
  | y :: rest =>
      if k = 9 then
        if y < 2 then (v + y.toUInt64 <<< 63, 10) else (0, errCodeOverflow)
      else
        let v := v + y.toUInt64 <<< (7 * k).toUInt64
        if y < 0x80 then (v, k + 1) else consumeVarintFrom (k + 1) (v - 0x80 <<< (7 * k).toUInt64) rest

def consumeVarint (b : List UInt8) : UInt64 × Int := consumeVarintFrom 0 0 b

-- `protowire.ParseError` of the codes ConsumeVarint returns; protowire's own errors start with
-- its "proto:" prefix.
def protowireParseError (code : Int) : String :=
  if code = errCodeTruncated then errUnexpectedEOF else "proto: variable length integer overflow"

-- `ParseVarint`: the value and the number of bytes read.
def parseVarint (buf : List UInt8) : Except String (UInt64 × Nat) :=
  match consumeVarint buf with
  | (u, n) => if n < 0 then .error (protowireParseError n) else .ok (u, n.toNat)

example : parseVarint [0xac, 0x02] = .ok (300, 2) := by decide

section Parsers

variable {ρ : Type} [Reader ρ UInt8]

def parseUvarint (x : ρ) : Except String (UInt64 × ρ) :=
  match Reader.feed x uvarintStep ⟨0, 0, 0⟩ with
  | .inl _ => throw errUnexpectedEOF
  | .inr (.ok u, x) => pure (u, x)
  | .inr (.error e, _) => throw e

-- `ParseTag`, through `_parseTag`.
def parseTag (x : ρ) : Except String ((Nat × Nat) × ρ) := do
  let (u, x) ← (parseUvarint x).mapError ("parse varint: " ++ ·)
  let (num, typ) := decodeTag u
  checkFieldNumber num
  pure ((num.toNat, typ), x)

-- `_checkLEN` past the varint: math.MaxInt of a 64-bit int.
def checkLEN (u : UInt64) : Except String Nat :=
  if 9223372036854775807 < u.toNat then throw ("value " ++ toString u ++ " overflows int")
  else pure u.toNat

def parseLENField (x : ρ) (num typ : Nat) : Except String (ρ × ρ) := do
  checkFieldType num bytesType typ
  let (u, x) ← (parseUvarint x).mapError (wrapParseFieldError num bytesType ∘ ("parse varint: " ++ ·))
  let ln ← (checkLEN u).mapError (wrapParseFieldError num bytesType)
  match Reader.split x ln with
  | none => throw (wrapParseFieldError num bytesType errUnexpectedEOF)
  | some (sub, x) => pure (sub, x)

-- `ParseStringField`; `utf8Valid` is the standard library's utf8.Valid.
def parseStringField (utf8Valid : List UInt8 → Bool) (x : ρ) (num typ : Nat) :
    Except String (List UInt8 × ρ) := do
  let (sub, x) ← parseLENField x num typ
  let s := Reader.contents sub
  if !utf8Valid s then throw (wrapParseFieldError num typ "invalid UTF-8")
  else pure (s, x)

-- The unsigned varint is reinterpreted as an int64, as `int64(u)` does.
def parseEnum (x : ρ) : Except String (Int32 × ρ) := do
  let (u, x) ← (parseUvarint x).mapError ("parse varint: " ++ ·)
  let i := u.toInt64.toInt
  if i < 0 then throw ("negative value " ++ toString i)
  else if 2147483647 < i then throw ("value " ++ toString i ++ " overflows int32")
  else pure (Int32.ofInt i, x)

def parseEnumField (x : ρ) (num typ : Nat) : Except String (Int32 × ρ) := do
  checkFieldType num varintType typ
  (parseEnum x).mapError (wrapParseFieldError num varintType)

-- `_checkUint32` past the varint.
def checkUint32 (u : UInt64) : Except String UInt32 :=
  if 4294967295 < u.toNat then throw ("value " ++ toString u ++ " overflows uint32")
  else pure u.toUInt32

def parseUint32Field (x : ρ) (num typ : Nat) : Except String (UInt32 × ρ) := do
  checkFieldType num varintType typ
  let (u, x) ← (parseUvarint x).mapError (wrapParseFieldError num varintType ∘ ("parse varint: " ++ ·))
  let v ← (checkUint32 u).mapError (wrapParseFieldError num varintType)
  pure (v, x)

def parseUint64Field (x : ρ) (num typ : Nat) : Except String (UInt64 × ρ) := do
  checkFieldType num varintType typ
  (parseUvarint x).mapError (wrapParseFieldError num varintType ∘ ("parse varint: " ++ ·))

-- The loop body of ParseBoolField: its first byte returns, either way.
def boolStep (num : Nat) (_ : Unit) (b : UInt8) : Unit ⊕ Except String Bool :=
  if 1 < b then .inr (throw (wrapParseFieldError num varintType ("invalid byte " ++ toString b)))
  else .inr (pure (b == 1))

def parseBoolField (x : ρ) (num typ : Nat) : Except String (Bool × ρ) := do
  checkFieldType num varintType typ
  match Reader.feed x (boolStep num) () with
  | .inl _ => throw (wrapParseFieldError num varintType errUnexpectedEOF)
  | .inr (r, x) => do
      let v ← r
      pure (v, x)

/-- The loop of SkipRepeatedEnum over the field's bytes. Every turn reads at least one byte, so
fuel for one turn more than there are bytes lets it finish. -/
def skipEnums (num : Nat) : Nat → ρ → Except (Go.Failure String) Unit
  | 0, _ => throw .exhausted
  | fuel + 1, sub =>
      if Reader.isEmpty sub then pure ()
      else
        match parseEnum sub with
        | .error e => throw (.error (wrapParseFieldError num bytesType ("parse next element: " ++ e)))
        | .ok (_, sub) => skipEnums num fuel sub

def skipRepeatedEnum (x : ρ) (num typ : Nat) : Except (Go.Failure String) ρ :=
  match parseLENField x num typ with
  | .error e => throw (.error e)
  | .ok (sub, x) => (skipEnums num (Reader.length sub + 1) sub).map fun _ => x

end Parsers

section Refinement

variable {ρ : Type} [Reader ρ UInt8] {items : ρ → List UInt8} (R : Refines items)
include R

theorem parse_uvarint_refines (x : ρ) :
    (parseUvarint x).map (Prod.map id items) = parseUvarint (items x) := by
  have fed := R.feed x uvarintStep ⟨0, 0, 0⟩
  unfold parseUvarint
  rw [feed_list, ← fed]
  cases Reader.feed x uvarintStep ⟨0, 0, 0⟩ with
  | inl s => rfl
  | inr p =>
      obtain ⟨r, y⟩ := p
      cases r <;> rfl

theorem parse_tag_refines (x : ρ) :
    (parseTag x).map (Prod.map id items) = parseTag (items x) := by
  unfold parseTag
  rw [Except.map_bind_of (Prod.map id items), Except.map_map_error, parse_uvarint_refines R]
  rintro ⟨u, y⟩
  simp only [Prod.map, id]
  cases decodeTag u with
  | mk num typ =>
      dsimp only
      cases checkFieldNumber num <;> rfl

theorem parse_len_field_refines (x : ρ) (num typ : Nat) :
    (parseLENField x num typ).map (Prod.map items items) = parseLENField (items x) num typ := by
  unfold parseLENField
  cases checkFieldType num bytesType typ with
  | error e => rfl
  | ok u =>
      simp only [Lib.Except.ok_bind]
      rw [Except.map_bind_of (Prod.map id items), Except.map_map_error, parse_uvarint_refines R]
      rintro ⟨u, y⟩
      simp only [Prod.map, id]
      cases checkLEN u with
      | error e => rfl
      | ok ln =>
          simp only [Except.mapError, Lib.Except.ok_bind]
          rw [split_list, ← R.split y ln]
          cases Reader.split y ln with
          | none => rfl
          | some p => rfl

theorem parse_string_field_refines (utf8Valid : List UInt8 → Bool) (x : ρ) (num typ : Nat) :
    (parseStringField utf8Valid x num typ).map (Prod.map id items) =
      parseStringField utf8Valid (items x) num typ := by
  unfold parseStringField
  rw [Except.map_bind_of (Prod.map items items), parse_len_field_refines R]
  rintro ⟨sub, y⟩
  simp only [Prod.map, R.contents, contents_list]
  cases utf8Valid (items sub) <;> rfl

theorem parse_enum_refines (x : ρ) :
    (parseEnum x).map (Prod.map id items) = parseEnum (items x) := by
  unfold parseEnum
  rw [Except.map_bind_of (Prod.map id items), Except.map_map_error, parse_uvarint_refines R]
  rintro ⟨u, y⟩
  simp only [Prod.map, id]
  split_ifs <;> rfl

theorem parse_enum_field_refines (x : ρ) (num typ : Nat) :
    (parseEnumField x num typ).map (Prod.map id items) = parseEnumField (items x) num typ := by
  unfold parseEnumField
  cases checkFieldType num varintType typ with
  | error e => rfl
  | ok u =>
      simp only [Lib.Except.ok_bind]
      rw [Except.map_map_error, parse_enum_refines R]

theorem parse_uint32_field_refines (x : ρ) (num typ : Nat) :
    (parseUint32Field x num typ).map (Prod.map id items) = parseUint32Field (items x) num typ := by
  unfold parseUint32Field
  cases checkFieldType num varintType typ with
  | error e => rfl
  | ok u =>
      simp only [Lib.Except.ok_bind]
      rw [Except.map_bind_of (Prod.map id items), Except.map_map_error, parse_uvarint_refines R]
      rintro ⟨u, y⟩
      simp only [Prod.map, id]
      cases checkUint32 u <;> rfl

theorem parse_uint64_field_refines (x : ρ) (num typ : Nat) :
    (parseUint64Field x num typ).map (Prod.map id items) = parseUint64Field (items x) num typ := by
  unfold parseUint64Field
  cases checkFieldType num varintType typ with
  | error e => rfl
  | ok u =>
      simp only [Lib.Except.ok_bind]
      rw [Except.map_map_error, parse_uvarint_refines R]

theorem parse_bool_field_refines (x : ρ) (num typ : Nat) :
    (parseBoolField x num typ).map (Prod.map id items) = parseBoolField (items x) num typ := by
  unfold parseBoolField
  cases checkFieldType num varintType typ with
  | error e => rfl
  | ok u =>
      simp only [Lib.Except.ok_bind]
      rw [feed_list, ← R.feed x (boolStep num) ()]
      cases Reader.feed x (boolStep num) () with
      | inl s => rfl
      | inr p =>
          obtain ⟨r, y⟩ := p
          cases r <;> rfl

theorem skip_enums_refines (num fuel : Nat) (sub : ρ) :
    skipEnums num fuel sub = skipEnums num fuel (items sub) := by
  induction fuel generalizing sub with
  | zero => rfl
  | succ fuel ih =>
      have parsed := parse_enum_refines R sub
      unfold skipEnums
      rw [R.isEmpty, isEmpty_list, ← parsed]
      cases parseEnum sub with
      | error e => rfl
      | ok p =>
          obtain ⟨v, rest⟩ := p
          exact if_congr Iff.rfl rfl (ih rest)

theorem skip_repeated_enum_refines (x : ρ) (num typ : Nat) :
    (skipRepeatedEnum x num typ).map items = skipRepeatedEnum (items x) num typ := by
  unfold skipRepeatedEnum
  rw [← parse_len_field_refines R]
  cases parseLENField x num typ with
  | error e => rfl
  | ok p =>
      obtain ⟨sub, y⟩ := p
      show ((skipEnums num (Reader.length sub + 1) sub).map fun _ => y).map items =
        (skipEnums num ((items sub).length + 1) (items sub)).map fun _ => items y
      rw [R.length, skip_enums_refines R]
      cases skipEnums num ((items sub).length + 1) (items sub) <;> rfl

end Refinement

section Consumption

theorem parse_uvarint_shorter {bs rest : List UInt8} {u : UInt64} (ok : parseUvarint bs = .ok (u, rest)) :
    rest.length < bs.length := by
  unfold parseUvarint at ok
  rw [feed_list] at ok
  cases fed : feedList uvarintStep ⟨0, 0, 0⟩ bs with
  | inl s => rw [fed] at ok; cases ok
  | inr p =>
      obtain ⟨r, y⟩ := p
      rw [fed] at ok
      cases r with
      | error e => cases ok
      | ok u' =>
          cases ok
          exact feed_list_stop_length fed

theorem parse_tag_shorter {bs rest : List UInt8} {tag : Nat × Nat} (ok : parseTag bs = .ok (tag, rest)) :
    rest.length < bs.length := by
  unfold parseTag at ok
  obtain ⟨⟨u, y⟩, read, ok⟩ := Except.bind_ok ok
  have shorter := parse_uvarint_shorter (Except.map_error_ok read)
  obtain ⟨_, -, ok⟩ := Except.bind_ok ok
  cases ok
  exact shorter

theorem parse_len_field_shorter {bs sub rest : List UInt8} {num typ : Nat}
    (ok : parseLENField bs num typ = .ok (sub, rest)) : sub.length < bs.length ∧ rest.length < bs.length := by
  unfold parseLENField at ok
  obtain ⟨_, -, ok⟩ := Except.bind_ok ok
  obtain ⟨⟨u, y⟩, read, ok⟩ := Except.bind_ok ok
  have shorter := parse_uvarint_shorter (Except.map_error_ok read)
  obtain ⟨ln, -, ok⟩ := Except.bind_ok ok
  rw [split_list] at ok
  cases cut : splitList y ln with
  | none => rw [cut] at ok; cases ok
  | some p =>
      rw [cut] at ok
      cases ok
      unfold splitList at cut
      split at cut
      · cases cut
        simp only [List.length_take, List.length_drop]
        omega
      · cases cut

theorem parse_string_field_shorter {utf8Valid : List UInt8 → Bool} {bs rest s : List UInt8} {num typ : Nat}
    (ok : parseStringField utf8Valid bs num typ = .ok (s, rest)) : rest.length < bs.length := by
  unfold parseStringField at ok
  obtain ⟨⟨sub, y⟩, read, ok⟩ := Except.bind_ok ok
  have shorter := (parse_len_field_shorter read).2
  dsimp only at ok
  split at ok
  · cases ok
  · cases ok
    exact shorter

theorem parse_enum_shorter {bs rest : List UInt8} {v : Int32} (ok : parseEnum bs = .ok (v, rest)) :
    rest.length < bs.length := by
  unfold parseEnum at ok
  obtain ⟨⟨u, y⟩, read, ok⟩ := Except.bind_ok ok
  have shorter := parse_uvarint_shorter (Except.map_error_ok read)
  dsimp only at ok
  split at ok
  · cases ok
  · split at ok
    · cases ok
    · cases ok
      exact shorter

theorem parse_enum_field_shorter {bs rest : List UInt8} {v : Int32} {num typ : Nat}
    (ok : parseEnumField bs num typ = .ok (v, rest)) : rest.length < bs.length := by
  unfold parseEnumField at ok
  obtain ⟨_, -, ok⟩ := Except.bind_ok ok
  exact parse_enum_shorter (Except.map_error_ok ok)

theorem parse_uint32_field_shorter {bs rest : List UInt8} {v : UInt32} {num typ : Nat}
    (ok : parseUint32Field bs num typ = .ok (v, rest)) : rest.length < bs.length := by
  unfold parseUint32Field at ok
  obtain ⟨_, -, ok⟩ := Except.bind_ok ok
  obtain ⟨⟨u, y⟩, read, ok⟩ := Except.bind_ok ok
  have shorter := parse_uvarint_shorter (Except.map_error_ok read)
  obtain ⟨_, -, ok⟩ := Except.bind_ok ok
  cases ok
  exact shorter

theorem parse_uint64_field_shorter {bs rest : List UInt8} {v : UInt64} {num typ : Nat}
    (ok : parseUint64Field bs num typ = .ok (v, rest)) : rest.length < bs.length := by
  unfold parseUint64Field at ok
  obtain ⟨_, -, ok⟩ := Except.bind_ok ok
  exact parse_uvarint_shorter (Except.map_error_ok ok)

theorem parse_bool_field_shorter {bs rest : List UInt8} {v : Bool} {num typ : Nat}
    (ok : parseBoolField bs num typ = .ok (v, rest)) : rest.length < bs.length := by
  unfold parseBoolField at ok
  obtain ⟨_, -, ok⟩ := Except.bind_ok ok
  rw [feed_list] at ok
  cases fed : feedList (boolStep num) () bs with
  | inl s => rw [fed] at ok; cases ok
  | inr p =>
      obtain ⟨r, y⟩ := p
      rw [fed] at ok
      obtain ⟨_, -, ok⟩ := Except.bind_ok ok
      cases ok
      exact feed_list_stop_length fed

theorem skip_repeated_enum_shorter {bs rest : List UInt8} {num typ : Nat}
    (ok : skipRepeatedEnum bs num typ = .ok rest) : rest.length < bs.length := by
  unfold skipRepeatedEnum at ok
  cases read : parseLENField bs num typ with
  | error e => rw [read] at ok; cases ok
  | ok p =>
      obtain ⟨sub, y⟩ := p
      rw [read] at ok
      dsimp only at ok
      obtain ⟨_, -, rfl⟩ := Lib.Except.map_ok ok
      exact (parse_len_field_shorter read).2

end Consumption

-- `FieldBounds` of protobuf.go: where a field, its value and the field's end are in a buffer.
structure FieldBounds where
  «from» : Nat
  valueFrom : Nat
  «to» : Nat
deriving DecidableEq, Repr

def FieldBounds.isMissing (x : FieldBounds) : Bool := x.from == x.to

namespace Bytes

def fixed32Len : Nat := 4
def fixed64Len : Nat := 8

def truncatedBufferError (need left : Nat) : String :=
  errUnexpectedEOF ++ ": need " ++ toString need ++ " bytes, left " ++ toString left ++ " in buffer"

def unknownFieldTypeError (t : Nat) : String := "unknown field type " ++ wireTypeString t

-- `ParseTag`: the number, the type and the length of the tag.
def parseTag (buf : List UInt8) : Except String (Nat × Nat × Nat) := do
  let (u, n) ← (parseVarint buf).mapError ("parse varint: " ++ ·)
  let (num, typ) := decodeTag u
  checkFieldNumber num
  pure (num.toNat, typ, n)

-- `ParseLEN`: the length and the bytes its varint took.
def parseLEN (buf : List UInt8) : Except String (Nat × Nat) := do
  let (u, n) ← (parseVarint buf).mapError ("parse varint: " ++ ·)
  let ln ← checkLEN u
  if buf.length - n < ln then throw (truncatedBufferError ln (buf.length - n)) else pure (ln, n)

def parseLENField (buf : List UInt8) (num typ : Nat) : Except String (Nat × Nat) := do
  checkFieldType num bytesType typ
  (parseLEN buf).mapError (wrapParseFieldError num bytesType)

-- `ParseLENFieldBounds`.
def parseLENFieldBounds (buf : List UInt8) (off tagLn num typ : Nat) : Except String FieldBounds := do
  let (ln, n) ← parseLENField (buf.drop (off + tagLn)) num typ
  pure ⟨off, off + tagLn + n, off + tagLn + n + ln⟩

-- `ParseEnum`: unlike the BuffersSlice's parseEnum, it bounds the unsigned value.
def parseEnum (buf : List UInt8) : Except String (Int32 × Nat) := do
  let (u, n) ← (parseVarint buf).mapError ("parse varint: " ++ ·)
  if 2147483647 < u.toNat then throw ("value " ++ toString u ++ " overflows int32")
  else pure (Int32.ofNat u.toNat, n)

def parseEnumField (buf : List UInt8) (num typ : Nat) : Except String (Int32 × Nat) := do
  checkFieldType num varintType typ
  (parseEnum buf).mapError (wrapParseFieldError num varintType)

def parseUint64Field (buf : List UInt8) (num typ : Nat) : Except String (UInt64 × Nat) := do
  checkFieldType num varintType typ
  (parseVarint buf).mapError (wrapParseFieldError num varintType ∘ ("parse varint: " ++ ·))

-- `SkipField`: the length of a value of wire type typ at the front of buf, by protowire's numbers
-- of the types.
def skipField (buf : List UInt8) (num typ : Nat) : Except String Nat :=
  match typ with
  | 0 =>
      match parseVarint buf with
      | .ok (_, n) => pure n
      | .error e => throw (wrapParseFieldError num typ e)
  | 1 =>
      if fixed64Len ≤ buf.length then pure fixed64Len
      else throw (wrapParseFieldError num typ (truncatedBufferError fixed64Len buf.length))
  | 2 =>
      match parseLEN buf with
      | .ok (ln, n) => pure (n + ln)
      | .error e => throw (wrapParseFieldError num typ e)
  | 3 | 4 => throw (wrapParseFieldError num typ "type is not supported")
  | 5 =>
      if fixed32Len ≤ buf.length then pure fixed32Len
      else throw (wrapParseFieldError num typ (truncatedBufferError fixed32Len buf.length))
  | _ => throw (unknownFieldTypeError typ)

end Bytes

end NeoFS.Proto
