import NeoFS.Proto.Parsers
import NeoFS.Refs

set_option autoImplicit false

/- proto/protobuf/protoscan: scanMessageOrdered walks a message field by field against its
   scheme, checks every value, hands typed values to the caller's interceptors, descends into
   nested messages and reports whether all fields came in ascending order. It is written, as
   the parsers are, against any source of bytes, and the interceptors run in any monad m, so
   that what they see and in what order is part of the result. -/
namespace NeoFS.Proto

open Lib Lib.Reader

-- `FieldType`; a number the enumeration does not name, the zero one included, is `unknown`.
inductive FieldType where
  | uint32
  | uint64
  | enum
  | repeatedEnum
  | bool
  | string
  | bytes
  | nestedMessage
  | unknown (code : UInt8)
deriving DecidableEq, Repr

def FieldType.toString : FieldType → String
  | .enum => "enum"
  | .uint32 => "uint32"
  | .uint64 => "uint64"
  | .bool => "bool"
  | .string => "string"
  | .bytes => "bytes"
  | .nestedMessage => "nested message"
  | .repeatedEnum => "repeated enum"
  | .unknown code => "unknown#" ++ ToString.toString code

structure MessageField where
  name : String
  typ : FieldType
deriving DecidableEq, Repr

-- What a scheme's Fields map gives for a number it does not hold.
def MessageField.zero : MessageField := ⟨"", .unknown 0⟩

def MessageField.toString (f : MessageField) : String := f.name ++ " (" ++ f.typ.toString ++ ")"

inductive BinaryFieldKind where
  | sha256
  | neo3Address
  | uuidV4
  | unknown (code : UInt8)
deriving DecidableEq, Repr

def BinaryFieldKind.toString : BinaryFieldKind → String
  | .sha256 => "SHA256"
  | .neo3Address => "Neo3Address"
  | .uuidV4 => "UUIDV4"
  | .unknown code => "unknown#" ++ ToString.toString code

-- `MessageScheme`, with the nested schemes named by σ.
structure MessageScheme (σ : Type) where
  fields : Nat → Option MessageField
  binaryFields : Nat → Option BinaryFieldKind
  nestedMessageFields : Nat → Option σ
  nestedMessageAliases : Nat → Option UInt8
  recursiveField : Nat

-- The schemes a scan may meet, and the aliases `resolveScheme` resolves.
structure Schemes (σ : Type) where
  scheme : σ → MessageScheme σ
  resolve : UInt8 → Option σ

/-- An error of a scan: one the scanner writes, or an interceptor's own, which it returns as
is. -/
inductive ScanError (ε : Type) where
  | text (message : String)
  | intercepted (err : ε)
deriving DecidableEq, Repr

def newParseFieldError (f : MessageField) (cause : String) : String :=
  "parse " ++ f.toString ++ " field: " ++ cause

def newWrongLenError (got exp : Nat) : String :=
  "wrong len " ++ toString got ++ " bytes instead of " ++ toString exp

def newUnsupportedFieldError (num typ : Nat) : String :=
  "unsupported field #" ++ toString num ++ " of type " ++ wireTypeString typ

/-- `verifyBinaryField` on the bytes of the field; `checksum` is neo-go's `hash.Checksum`. -/
def verifyBinaryField (checksum : List UInt8 → List UInt8) (kind : BinaryFieldKind) (b : List UInt8) :
    Except (Go.Failure String) Unit :=
  match kind with
  | .sha256 =>
      if b.length ≠ 32 then throw (.error (newWrongLenError b.length 32))
      else if b.all (· == 0) then throw (.error "all bytes are zero")
      else pure ()
  | .neo3Address =>
      if b.length ≠ 25 then throw (.error (newWrongLenError b.length 25))
      else if b.headD 0 ≠ neo3Prefix then
        throw (.error ("prefix byte is 0x" ++ hexUpper (b.headD 0) ++ ", expected 0x" ++ hexUpper neo3Prefix))
      else if b.drop 21 ≠ checksum (b.take 21) then throw (.error "checksum mismatch")
      else pure ()
  | .uuidV4 =>
      if b.length ≠ 16 then throw (.error (newWrongLenError b.length 16))
      else if (b.getD 6 0) >>> 4 ≠ 4 then
        throw (.error ("wrong version " ++ toString ((b.getD 6 0) >>> 4) ++ " instead of 4"))
      else pure ()
  | .unknown code => throw (.panic ("unexpected binary kind " ++ toString code))

/-- `ScanMessageOrderedOptions`: an absent interceptor is a nil function. An interceptor gives
the error it returns, none for nil. -/
structure Options (m : Type → Type) (ε ρ : Type) where
  interceptUint32 : Option (Nat → UInt32 → m (Option ε)) := none
  interceptUint64 : Option (Nat → UInt64 → m (Option ε)) := none
  interceptEnum : Option (Nat → Int32 → m (Option ε)) := none
  interceptBool : Option (Nat → Bool → m (Option ε)) := none
  interceptString : Option (Nat → List UInt8 → m (Option ε)) := none
  interceptBytes : Option (Nat → ρ → m (Option ε)) := none
  interceptNested : Option (Nat → ρ → Bool → m (Bool × Option ε)) := none

structure MessageOptions (m : Type → Type) (ε ρ : Type) where
  interceptUint32 : Option (Nat → UInt32 → m (Option ε)) := none
  interceptUint64 : Option (Nat → UInt64 → m (Option ε)) := none
  interceptEnum : Option (Nat → Int32 → m (Option ε)) := none
  interceptBool : Option (Nat → Bool → m (Option ε)) := none
  interceptString : Option (Nat → List UInt8 → m (Option ε)) := none
  interceptBytes : Option (Nat → ρ → m (Option ε)) := none
  interceptNested : Option (Nat → ρ → m (Option ε)) := none

section Scanner

variable {m : Type → Type} [Monad m] {ε σ ρ : Type} [Reader ρ UInt8]

abbrev Scan (m : Type → Type) (ε : Type) := ExceptT (Go.Failure (ScanError ε)) m

def MessageOptions.toOrdered (opts : MessageOptions m ε ρ) : Options m ε ρ where
  interceptUint32 := opts.interceptUint32
  interceptUint64 := opts.interceptUint64
  interceptEnum := opts.interceptEnum
  interceptBool := opts.interceptBool
  interceptString := opts.interceptString
  interceptBytes := opts.interceptBytes
  interceptNested := opts.interceptNested.map fun f num v _ => do
    let err ← f num v
    pure (false, err)

-- Options whose bytes and nested interceptors read a value through `items`.
def Options.comap {ρ' : Type} (items : ρ → ρ') (opts : Options m ε ρ') : Options m ε ρ where
  interceptUint32 := opts.interceptUint32
  interceptUint64 := opts.interceptUint64
  interceptEnum := opts.interceptEnum
  interceptBool := opts.interceptBool
  interceptString := opts.interceptString
  interceptBytes := opts.interceptBytes.map fun f num v => f num (items v)
  interceptNested := opts.interceptNested.map fun f num v checkOrder => f num (items v) checkOrder

def MessageOptions.comap {ρ' : Type} (items : ρ → ρ') (opts : MessageOptions m ε ρ') : MessageOptions m ε ρ where
  interceptUint32 := opts.interceptUint32
  interceptUint64 := opts.interceptUint64
  interceptEnum := opts.interceptEnum
  interceptBool := opts.interceptBool
  interceptString := opts.interceptString
  interceptBytes := opts.interceptBytes.map fun f num v => f num (items v)
  interceptNested := opts.interceptNested.map fun f num v => f num (items v)

def scanFail {α : Type} (message : String) : Scan m ε α := throw (.error (.text message))

-- A field's value, or its parse error wrapped with the field.
def parsed {α β : Type} (e : Except String α) (f : MessageField) (k : α → Scan m ε β) : Scan m ε β :=
  match e with
  | .error err => scanFail (newParseFieldError f err)
  | .ok a => k a

-- A failure of a nested scan, wrapped with the field; a nested scan runs without
-- interceptors, so the errors it returns are the scanner's own.
def wrapNested (f : MessageField) : Go.Failure (ScanError ε) → Go.Failure (ScanError ε)
  | .error (.text message) => .error (.text (newParseFieldError f message))
  | other => other

def liftFailure : Go.Failure String → Go.Failure (ScanError ε)
  | .error message => .error (.text message)
  | .panic message => .panic message
  | .exhausted => .exhausted

-- A typed value's interceptor: a non-nil error ends the scan.
def intercept {α : Type} (call : Option (Nat → α → m (Option ε))) (num : Nat) (v : α) : Scan m ε Unit :=
  match call with
  | none => pure ()
  | some f => do
      match ← ExceptT.lift (f num v) with
      | none => pure ()
      | some err => throw (.error (.intercepted err))

-- InterceptBytes: whether the field's format is still to be checked.
-- InterceptBytes: whether the field's format is still to be checked. `isContinue` is
-- `errors.Is(err, ErrContinue)`.
def interceptBytes (isContinue : ε → Bool) (call : Option (Nat → ρ → m (Option ε))) (num : Nat) (v : ρ) :
    Scan m ε Bool :=
  match call with
  | none => pure true
  | some f => do
      match ← ExceptT.lift (f num v) with
      | none => pure false
      | some err => if isContinue err then pure true else throw (.error (.intercepted err))

def interceptNested (isContinue : ε → Bool) (call : Option (Nat → ρ → Bool → m (Bool × Option ε)))
    (num : Nat) (v : ρ) (checkOrder : Bool) : Scan m ε (Bool × Bool) :=
  match call with
  | none => pure (checkOrder, true)
  | some f => do
      let (checkOrder, err) ← ExceptT.lift (f num v checkOrder)
      match err with
      | none => pure (checkOrder, false)
      | some err => if isContinue err then pure (checkOrder, true) else throw (.error (.intercepted err))

def orderStep (checkOrder : Bool) (prevNum num : Nat) : Bool × Nat :=
  if checkOrder then (if num < prevNum then (false, prevNum) else (true, num)) else (checkOrder, prevNum)

variable (schemes : Schemes σ) (utf8Valid : List UInt8 → Bool) (checksum : List UInt8 → List UInt8)
  (isContinue : ε → Bool)

/-- One field of the scan loop, after its tag: its value is checked and intercepted, then the
loop goes on with `next` from after the field. `nested` scans a nested message. -/
def scanField (nested : σ → Bool → ρ → Scan m ε Bool) (scheme : σ) (opts : Options m ε ρ)
    (num typ : Nat) (checkOrder : Bool) (x : ρ) (next : Bool → ρ → Scan m ε Bool) : Scan m ε Bool :=
  let sch := schemes.scheme scheme
  let f := (sch.fields num).getD MessageField.zero
  match f.typ with
  | .bool => parsed (parseBoolField x num typ) f fun (v, x) => do
      intercept opts.interceptBool num v
      next checkOrder x
  | .uint32 => parsed (parseUint32Field x num typ) f fun (v, x) => do
      intercept opts.interceptUint32 num v
      next checkOrder x
  | .uint64 => parsed (parseUint64Field x num typ) f fun (v, x) => do
      intercept opts.interceptUint64 num v
      next checkOrder x
  | .enum => parsed (parseEnumField x num typ) f fun (v, x) => do
      intercept opts.interceptEnum num v
      next checkOrder x
  | .repeatedEnum =>
      match skipRepeatedEnum x num typ with
      | .error (.error e) => scanFail (newParseFieldError f e)
      | .error other => throw (liftFailure other)
      | .ok x => next checkOrder x
  | .string => parsed (parseStringField utf8Valid x num typ) f fun (v, x) => do
      intercept opts.interceptString num v
      next checkOrder x
  | .bytes => parsed (parseLENField x num typ) f fun (v, x) => do
      let verify ← interceptBytes isContinue opts.interceptBytes num v
      if verify then
        match sch.binaryFields num with
        | none => pure ()
        | some kind =>
            match verifyBinaryField checksum kind (Reader.contents v) with
            | .ok () => pure ()
            | .error (.error e) =>
                scanFail (newParseFieldError f ("invalid binary field of " ++ kind.toString ++ " kind: " ++ e))
            | .error other => throw (liftFailure other)
      next checkOrder x
  | .nestedMessage => parsed (parseLENField x num typ) f fun (v, x) => do
      let (checkOrder, scan) ← interceptNested isContinue opts.interceptNested num v checkOrder
      if !scan then next checkOrder x
      else if num = sch.recursiveField then
        let checkOrder ← ExceptT.adapt (wrapNested f) (nested scheme checkOrder v)
        next checkOrder x
      else
        match sch.nestedMessageFields num with
        | some nestedScheme => do
            let checkOrder ← ExceptT.adapt (wrapNested f) (nested nestedScheme checkOrder v)
            next checkOrder x
        | none =>
            match sch.nestedMessageAliases num with
            | some schemeAlias =>
                match schemes.resolve schemeAlias with
                | some aliased => do
                    let checkOrder ← ExceptT.adapt (wrapNested f) (nested aliased checkOrder v)
                    next checkOrder x
                | none => throw (.panic ("unexpected alias " ++ toString schemeAlias))
            | none => scanFail ("format of " ++ f.toString ++ " field is not specified")
  | .unknown _ => scanFail (newUnsupportedFieldError num typ)

/-- The loop of `scanMessageOrdered`, on fuel: each turn reads at least the tag's byte, and a
nested message lies within the bytes left, so fuel for one turn more than there are bytes never
runs out and what the model gives when it does, `outOfFuel`, is never reached. -/
def scanFrom (outOfFuel : Scan m ε Bool) : Nat → σ → Bool → Nat → Options m ε ρ → ρ → Scan m ε Bool
  | 0, _, _, _, _, _ => outOfFuel
  | fuel + 1, scheme, checkOrder, prevNum, opts, x =>
      if Reader.isEmpty x then pure checkOrder
      else
        match parseTag x with
        | .error e => scanFail ("parse next tag: " ++ e)
        | .ok ((num, typ), x) =>
            let (checkOrder, prevNum) := orderStep checkOrder prevNum num
            scanField schemes utf8Valid checksum isContinue
              (fun nestedScheme checkOrder v => scanFrom outOfFuel fuel nestedScheme checkOrder 0 {} v)
              scheme opts num typ checkOrder x
              (fun checkOrder x => scanFrom outOfFuel fuel scheme checkOrder prevNum opts x)

def scanMessageOrdered (x : ρ) (scheme : σ) (opts : Options m ε ρ) : Scan m ε Bool :=
  scanFrom schemes utf8Valid checksum isContinue (throw .exhausted) (Reader.length x + 1) scheme true 0 opts x

def scanMessage (x : ρ) (scheme : σ) (opts : MessageOptions m ε ρ) : Scan m ε Unit := do
  let _ ← scanFrom schemes utf8Valid checksum isContinue (throw .exhausted) (Reader.length x + 1) scheme false 0
    opts.toOrdered x

end Scanner

section Refinement

variable {m : Type → Type} [Monad m] {ε σ ρ : Type} {items : ρ → List UInt8}
  (schemes : Schemes σ) (utf8Valid : List UInt8 → Bool) (checksum : List UInt8 → List UInt8)
  (isContinue : ε → Bool)

theorem parsed_map {α α' β : Type} (e : Except String α) (G : α → α') (f : MessageField)
    (k : α' → Scan m ε β) : parsed (e.map G) f k = parsed e f fun a => k (G a) := by
  cases e <;> rfl

theorem intercept_bytes_comap (call : Option (Nat → List UInt8 → m (Option ε))) (num : Nat) (v : ρ) :
    interceptBytes isContinue (call.map fun f num v => f num (items v)) num v =
      interceptBytes isContinue call num (items v) := by
  cases call <;> rfl

theorem intercept_nested_comap (call : Option (Nat → List UInt8 → Bool → m (Bool × Option ε)))
    (num : Nat) (v : ρ) (checkOrder : Bool) :
    interceptNested isContinue (call.map fun f num v checkOrder => f num (items v) checkOrder) num v checkOrder =
      interceptNested isContinue call num (items v) checkOrder := by
  cases call <;> rfl

theorem to_ordered_comap (opts : MessageOptions m ε (List UInt8)) :
    (opts.comap items).toOrdered = opts.toOrdered.comap items := by
  cases nested : opts.interceptNested <;>
    simp [MessageOptions.toOrdered, MessageOptions.comap, Options.comap, nested]

theorem parsed_typed_refines {α : Type} {e : Except String (α × ρ)} {e' : Except String (α × List UInt8)}
    (refined : e.map (Prod.map id items) = e') (f : MessageField) (call : Option (Nat → α → m (Option ε)))
    (num : Nat) {next : Bool → ρ → Scan m ε Bool} {next' : Bool → List UInt8 → Scan m ε Bool}
    (sameNext : ∀ co y, next co y = next' co (items y)) (checkOrder : Bool) :
    parsed e f (fun p => do intercept call num p.1; next checkOrder p.2) =
      parsed e' f (fun p => do intercept call num p.1; next' checkOrder p.2) := by
  rw [← refined, parsed_map]
  congr 1
  funext ⟨v, y⟩
  exact congrArg (intercept call num v >>= fun _ => ·) (sameNext checkOrder y)

variable [Reader ρ UInt8] (R : Refines items)
include R

theorem scan_field_refines {nested : σ → Bool → ρ → Scan m ε Bool}
    {nested' : σ → Bool → List UInt8 → Scan m ε Bool} (sameNested : ∀ s co v, nested s co v = nested' s co (items v))
    {next : Bool → ρ → Scan m ε Bool} {next' : Bool → List UInt8 → Scan m ε Bool}
    (sameNext : ∀ co y, next co y = next' co (items y))
    (scheme : σ) (opts : Options m ε (List UInt8)) (num typ : Nat) (checkOrder : Bool) (x : ρ) :
    scanField schemes utf8Valid checksum isContinue nested scheme (opts.comap items) num typ checkOrder x next =
      scanField schemes utf8Valid checksum isContinue nested' scheme opts num typ checkOrder (items x) next' := by
  unfold scanField
  dsimp only
  cases ((schemes.scheme scheme).fields num |>.getD MessageField.zero).typ with
  | bool => exact parsed_typed_refines (parse_bool_field_refines R x num typ) _ _ num sameNext checkOrder
  | uint32 => exact parsed_typed_refines (parse_uint32_field_refines R x num typ) _ _ num sameNext checkOrder
  | uint64 => exact parsed_typed_refines (parse_uint64_field_refines R x num typ) _ _ num sameNext checkOrder
  | enum => exact parsed_typed_refines (parse_enum_field_refines R x num typ) _ _ num sameNext checkOrder
  | string =>
      exact parsed_typed_refines (parse_string_field_refines R utf8Valid x num typ) _ _ num sameNext checkOrder
  | repeatedEnum =>
      dsimp only
      rw [← skip_repeated_enum_refines R]
      cases skipRepeatedEnum x num typ with
      | error e => cases e <;> rfl
      | ok y => exact sameNext checkOrder y
  | bytes =>
      dsimp only
      rw [← parse_len_field_refines R, parsed_map]
      congr 1
      funext ⟨v, y⟩
      simp only [Prod.map, Options.comap, intercept_bytes_comap, R.contents, contents_list, sameNext]
  | nestedMessage =>
      dsimp only
      rw [← parse_len_field_refines R, parsed_map]
      congr 1
      funext ⟨v, y⟩
      simp only [Prod.map, Options.comap, intercept_nested_comap, sameNested, sameNext]
  | unknown code => rfl

/-- The scan of a source is the scan of its bytes, with the interceptors that read values
through them; the induction is on the fuel, which every nested scan and every later turn of
the loop has one less of. -/
theorem scan_from_refines (outOfFuel : Scan m ε Bool) (fuel : Nat) :
    ∀ (scheme : σ) (checkOrder : Bool) (prevNum : Nat) (opts : Options m ε (List UInt8)) (x : ρ),
      scanFrom schemes utf8Valid checksum isContinue outOfFuel fuel scheme checkOrder prevNum (opts.comap items) x =
        scanFrom schemes utf8Valid checksum isContinue outOfFuel fuel scheme checkOrder prevNum opts (items x) := by
  induction fuel with
  | zero => intros; rfl
  | succ fuel ih =>
      intro scheme checkOrder prevNum opts x
      rw [scanFrom, scanFrom, R.isEmpty, isEmpty_list, ← parse_tag_refines R]
      by_cases empty : (items x).isEmpty
      · simp only [empty, if_true]
      · simp only [empty]
        cases parseTag x with
        | error e => rfl
        | ok p =>
            obtain ⟨⟨num, typ⟩, y⟩ := p
            exact scan_field_refines schemes utf8Valid checksum isContinue R
              (fun s co v => ih s co 0 {} v) (fun co z => ih scheme co _ opts z) _ _ _ _ _ y

theorem scan_message_ordered_refines (x : ρ) (scheme : σ) (opts : Options m ε (List UInt8)) :
    scanMessageOrdered schemes utf8Valid checksum isContinue x scheme (opts.comap items) =
      scanMessageOrdered schemes utf8Valid checksum isContinue (items x) scheme opts := by
  rw [scanMessageOrdered, scanMessageOrdered, R.length, length_list, scan_from_refines schemes utf8Valid checksum isContinue R]

theorem scan_message_refines (x : ρ) (scheme : σ) (opts : MessageOptions m ε (List UInt8)) :
    scanMessage schemes utf8Valid checksum isContinue x scheme (opts.comap items) =
      scanMessage schemes utf8Valid checksum isContinue (items x) scheme opts := by
  rw [scanMessage, scanMessage, R.length, length_list, to_ordered_comap,
    scan_from_refines schemes utf8Valid checksum isContinue R]

end Refinement

section Fuel

variable {m : Type → Type} [Monad m] {ε σ : Type} (schemes : Schemes σ) (utf8Valid : List UInt8 → Bool)
  (checksum : List UInt8 → List UInt8) (isContinue : ε → Bool)

theorem parsed_congr {α β : Type} {e : Except String α} (f : MessageField) {k₁ k₂ : α → Scan m ε β}
    (same : ∀ a, e = .ok a → k₁ a = k₂ a) : parsed e f k₁ = parsed e f k₂ := by
  cases e with
  | error err => rfl
  | ok a => exact same a rfl

theorem scan_field_congr {bs : List UInt8} {nested₁ nested₂ : σ → Bool → List UInt8 → Scan m ε Bool}
    (sameNested : ∀ s co v, v.length < bs.length → nested₁ s co v = nested₂ s co v)
    {next₁ next₂ : Bool → List UInt8 → Scan m ε Bool}
    (sameNext : ∀ co y, y.length < bs.length → next₁ co y = next₂ co y)
    (scheme : σ) (opts : Options m ε (List UInt8)) (num typ : Nat) (checkOrder : Bool) :
    scanField schemes utf8Valid checksum isContinue nested₁ scheme opts num typ checkOrder bs next₁ =
      scanField schemes utf8Valid checksum isContinue nested₂ scheme opts num typ checkOrder bs next₂ := by
  unfold scanField
  dsimp only
  cases ((schemes.scheme scheme).fields num |>.getD MessageField.zero).typ with
  | bool =>
      refine parsed_congr _ fun ⟨v, y⟩ read => ?_
      rw [sameNext _ _ (parse_bool_field_shorter read)]
  | uint32 =>
      refine parsed_congr _ fun ⟨v, y⟩ read => ?_
      rw [sameNext _ _ (parse_uint32_field_shorter read)]
  | uint64 =>
      refine parsed_congr _ fun ⟨v, y⟩ read => ?_
      rw [sameNext _ _ (parse_uint64_field_shorter read)]
  | enum =>
      refine parsed_congr _ fun ⟨v, y⟩ read => ?_
      rw [sameNext _ _ (parse_enum_field_shorter read)]
  | string =>
      refine parsed_congr _ fun ⟨v, y⟩ read => ?_
      rw [sameNext _ _ (parse_string_field_shorter read)]
  | repeatedEnum =>
      dsimp only
      cases read : skipRepeatedEnum bs num typ with
      | error e => cases e <;> rfl
      | ok y => exact sameNext _ _ (skip_repeated_enum_shorter read)
  | bytes =>
      refine parsed_congr _ fun ⟨v, y⟩ read => ?_
      rw [sameNext _ _ (parse_len_field_shorter read).2]
  | nestedMessage =>
      refine parsed_congr _ fun ⟨v, y⟩ read => ?_
      have shorter := parse_len_field_shorter read
      have nestedSame : ∀ s co, nested₁ s co v = nested₂ s co v := fun s co => sameNested s co v shorter.1
      have nextSame : ∀ co, next₁ co y = next₂ co y := fun co => sameNext co y shorter.2
      simp only [nestedSame, nextSame]
  | unknown code => rfl

theorem scan_from_fuel (outOfFuel₁ outOfFuel₂ : Scan m ε Bool) :
    ∀ (fuel₁ fuel₂ : Nat) (scheme : σ) (checkOrder : Bool) (prevNum : Nat) (opts : Options m ε (List UInt8))
      (bs : List UInt8), bs.length < fuel₁ → bs.length < fuel₂ →
      scanFrom schemes utf8Valid checksum isContinue outOfFuel₁ fuel₁ scheme checkOrder prevNum opts bs =
        scanFrom schemes utf8Valid checksum isContinue outOfFuel₂ fuel₂ scheme checkOrder prevNum opts bs
  | 0, _, _, _, _, _, _, enough, _ => absurd enough (Nat.not_lt_zero _)
  | _ + 1, 0, _, _, _, _, _, _, enough => absurd enough (Nat.not_lt_zero _)
  | fuel₁ + 1, fuel₂ + 1, scheme, checkOrder, prevNum, opts, bs, enough₁, enough₂ => by
      rw [scanFrom, scanFrom]
      by_cases empty : Reader.isEmpty bs = true
      · rw [if_pos empty, if_pos empty]
      · rw [if_neg empty, if_neg empty]
        cases read : parseTag bs with
        | error e => rfl
        | ok p =>
            obtain ⟨⟨num, typ⟩, rest⟩ := p
            have shorter := parse_tag_shorter read
            apply scan_field_congr
            · intro s co v short
              exact scan_from_fuel outOfFuel₁ outOfFuel₂ fuel₁ fuel₂ s co 0 {} v (by omega) (by omega)
            · intro co y short
              exact scan_from_fuel outOfFuel₁ outOfFuel₂ fuel₁ fuel₂ scheme co _ opts y (by omega) (by omega)

theorem scan_message_ordered_fuel (bs : List UInt8) (scheme : σ) (opts : Options m ε (List UInt8))
    (outOfFuel : Scan m ε Bool) (fuel : Nat) (enough : bs.length < fuel) :
    scanMessageOrdered schemes utf8Valid checksum isContinue bs scheme opts =
      scanFrom schemes utf8Valid checksum isContinue outOfFuel fuel scheme true 0 opts bs :=
  scan_from_fuel schemes utf8Valid checksum isContinue _ _ _ _ _ _ _ _ _ (by simp) enough

end Fuel

end NeoFS.Proto
