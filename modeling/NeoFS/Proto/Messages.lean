import NeoFS.Proto.Encoding

set_option autoImplicit false

/- The messages of an object GET or HEAD request, with the stable encoders of
   proto/refs, proto/session and proto/object (encoding.go): each message's MarshaledSize and
   MarshalStable, written with the helpers of internal/proto. Messages that the request only
   carries (the session and bearer tokens) are type parameters with their own encoders. -/
namespace NeoFS.Proto

-- `refs.ContainerID` and `refs.ObjectID`: one bytes field numbered 1.
structure IDMessage where
  value : List UInt8

def fieldIDValue : Nat := 1

def IDMessage.marshaledSize (x : IDMessage) : Nat := sizeBytes fieldIDValue x.value

def IDMessage.marshalStable (x : IDMessage) : List UInt8 := marshalToBytes fieldIDValue x.value

instance : Message IDMessage := ⟨IDMessage.marshaledSize, IDMessage.marshalStable⟩

@[simp]
theorem IDMessage.marshaled_size_eq (x : IDMessage) : Message.marshaledSize x = x.marshaledSize := rfl

@[simp]
theorem IDMessage.marshal_stable_eq (x : IDMessage) : Message.marshalStable x = x.marshalStable := rfl

structure Address where
  containerId : Option IDMessage
  objectId : Option IDMessage

def fieldAddressContainerID : Nat := 1
def fieldAddressObjectID : Nat := 2

def Address.marshaledSize (x : Address) : Nat :=
  sizeEmbedded fieldAddressContainerID x.containerId + sizeEmbedded fieldAddressObjectID x.objectId

def Address.marshalStable (x : Address) : List UInt8 :=
  marshalToEmbedded fieldAddressContainerID x.containerId ++ marshalToEmbedded fieldAddressObjectID x.objectId

instance : Message Address := ⟨Address.marshaledSize, Address.marshalStable⟩

@[simp]
theorem Address.marshaled_size_eq (x : Address) : Message.marshaledSize x = x.marshaledSize := rfl

@[simp]
theorem Address.marshal_stable_eq (x : Address) : Message.marshalStable x = x.marshalStable := rfl

structure Version where
  major : UInt32
  minor : UInt32

def fieldVersionMajor : Nat := 1
def fieldVersionMinor : Nat := 2

def Version.marshaledSize (x : Version) : Nat :=
  sizeVarintField fieldVersionMajor x.major.toUInt64 + sizeVarintField fieldVersionMinor x.minor.toUInt64

def Version.marshalStable (x : Version) : List UInt8 :=
  marshalToVarint fieldVersionMajor x.major.toUInt64 ++ marshalToVarint fieldVersionMinor x.minor.toUInt64

instance : Message Version := ⟨Version.marshaledSize, Version.marshalStable⟩

@[simp]
theorem Version.marshaled_size_eq (x : Version) : Message.marshaledSize x = x.marshaledSize := rfl

@[simp]
theorem Version.marshal_stable_eq (x : Version) : Message.marshalStable x = x.marshalStable := rfl

structure XHeader where
  key : List UInt8
  value : List UInt8

def fieldXHeaderKey : Nat := 1
def fieldXHeaderValue : Nat := 2

def XHeader.marshaledSize (x : XHeader) : Nat :=
  sizeBytes fieldXHeaderKey x.key + sizeBytes fieldXHeaderValue x.value

def XHeader.marshalStable (x : XHeader) : List UInt8 :=
  marshalToBytes fieldXHeaderKey x.key ++ marshalToBytes fieldXHeaderValue x.value

instance : Message XHeader := ⟨XHeader.marshaledSize, XHeader.marshalStable⟩

@[simp]
theorem XHeader.marshaled_size_eq (x : XHeader) : Message.marshaledSize x = x.marshaledSize := rfl

@[simp]
theorem XHeader.marshal_stable_eq (x : XHeader) : Message.marshalStable x = x.marshalStable := rfl

-- `session.RequestMetaHeader` as requests carry it: without an origin, which no request the
-- client builds has.
structure RequestMetaHeader (S1 B S2 : Type) where
  version : Option Version
  epoch : UInt64
  ttl : UInt32
  xHeaders : List XHeader
  sessionToken : Option S1
  bearerToken : Option B
  magicNumber : UInt64
  sessionTokenV2 : Option S2

def fieldRequestMetaHeaderVersion : Nat := 1
def fieldRequestMetaHeaderEpoch : Nat := 2
def fieldRequestMetaHeaderTTL : Nat := 3
def fieldRequestMetaHeaderXHeaders : Nat := 4
def fieldRequestMetaHeaderSessionToken : Nat := 5
def fieldRequestMetaHeaderBearerToken : Nat := 6
def fieldRequestMetaHeaderMagicNumber : Nat := 8
def fieldRequestMetaHeaderSessionTokenV2 : Nat := 9

section MetaHeader

variable {S1 B S2 : Type} [Message S1] [Message B] [Message S2]

def RequestMetaHeader.marshaledSize (x : RequestMetaHeader S1 B S2) : Nat :=
  sizeEmbedded fieldRequestMetaHeaderVersion x.version + sizeVarintField fieldRequestMetaHeaderEpoch x.epoch +
    sizeVarintField fieldRequestMetaHeaderTTL x.ttl.toUInt64 +
    sizeEmbedded fieldRequestMetaHeaderSessionToken x.sessionToken +
    sizeEmbedded fieldRequestMetaHeaderBearerToken x.bearerToken +
    sizeVarintField fieldRequestMetaHeaderMagicNumber x.magicNumber +
    sizeRepeatedMessages fieldRequestMetaHeaderXHeaders x.xHeaders +
    sizeEmbedded fieldRequestMetaHeaderSessionTokenV2 x.sessionTokenV2

def RequestMetaHeader.marshalStable (x : RequestMetaHeader S1 B S2) : List UInt8 :=
  marshalToEmbedded fieldRequestMetaHeaderVersion x.version ++
    marshalToVarint fieldRequestMetaHeaderEpoch x.epoch ++
    marshalToVarint fieldRequestMetaHeaderTTL x.ttl.toUInt64 ++
    marshalToRepeatedMessages fieldRequestMetaHeaderXHeaders x.xHeaders ++
    marshalToEmbedded fieldRequestMetaHeaderSessionToken x.sessionToken ++
    marshalToEmbedded fieldRequestMetaHeaderBearerToken x.bearerToken ++
    marshalToVarint fieldRequestMetaHeaderMagicNumber x.magicNumber ++
    marshalToEmbedded fieldRequestMetaHeaderSessionTokenV2 x.sessionTokenV2

instance : Message (RequestMetaHeader S1 B S2) := ⟨RequestMetaHeader.marshaledSize, RequestMetaHeader.marshalStable⟩

@[simp]
theorem RequestMetaHeader.marshaled_size_eq (x : RequestMetaHeader S1 B S2) :
    Message.marshaledSize x = x.marshaledSize := rfl

@[simp]
theorem RequestMetaHeader.marshal_stable_eq (x : RequestMetaHeader S1 B S2) :
    Message.marshalStable x = x.marshalStable := rfl

end MetaHeader

structure Range where
  offset : UInt64
  length : UInt64

def fieldRangeOffset : Nat := 1
def fieldRangeLength : Nat := 2

def Range.marshaledSize (x : Range) : Nat :=
  sizeVarintField fieldRangeOffset x.offset + sizeVarintField fieldRangeLength x.length

def Range.marshalStable (x : Range) : List UInt8 :=
  marshalToVarint fieldRangeOffset x.offset ++ marshalToVarint fieldRangeLength x.length

instance : Message Range := ⟨Range.marshaledSize, Range.marshalStable⟩

@[simp]
theorem Range.marshaled_size_eq (x : Range) : Message.marshaledSize x = x.marshaledSize := rfl

@[simp]
theorem Range.marshal_stable_eq (x : Range) : Message.marshalStable x = x.marshalStable := rfl

-- `object.ExtendedRange`: two optional positions.
structure ExtendedRange where
  firstPos : Option UInt64
  lastPos : Option UInt64

def fieldExtendedRangeFirstPos : Nat := 1
def fieldExtendedRangeLastPos : Nat := 2

def ExtendedRange.marshaledSize (x : ExtendedRange) : Nat :=
  sizeOptionalVarint fieldExtendedRangeFirstPos x.firstPos + sizeOptionalVarint fieldExtendedRangeLastPos x.lastPos

def ExtendedRange.marshalStable (x : ExtendedRange) : List UInt8 :=
  marshalToOptionalVarint fieldExtendedRangeFirstPos x.firstPos ++
    marshalToOptionalVarint fieldExtendedRangeLastPos x.lastPos

instance : Message ExtendedRange := ⟨ExtendedRange.marshaledSize, ExtendedRange.marshalStable⟩

@[simp]
theorem ExtendedRange.marshaled_size_eq (x : ExtendedRange) : Message.marshaledSize x = x.marshaledSize := rfl

@[simp]
theorem ExtendedRange.marshal_stable_eq (x : ExtendedRange) : Message.marshalStable x = x.marshalStable := rfl

structure GetRequestBody where
  address : Option Address
  raw : Bool
  range : Option Range
  payloadOnly : Bool
  extendedRange : Option ExtendedRange

def fieldGetRequestBodyAddress : Nat := 1
def fieldGetRequestBodyRaw : Nat := 2
def fieldGetRequestBodyRange : Nat := 3
def fieldGetRequestBodyPayloadOnly : Nat := 4
def fieldGetRequestBodyExtendedRange : Nat := 5

def GetRequestBody.marshaledSize (x : GetRequestBody) : Nat :=
  sizeEmbedded fieldGetRequestBodyAddress x.address + sizeBool fieldGetRequestBodyRaw x.raw +
    sizeEmbedded fieldGetRequestBodyRange x.range + sizeBool fieldGetRequestBodyPayloadOnly x.payloadOnly +
    sizeEmbedded fieldGetRequestBodyExtendedRange x.extendedRange

def GetRequestBody.marshalStable (x : GetRequestBody) : List UInt8 :=
  marshalToEmbedded fieldGetRequestBodyAddress x.address ++ marshalToBool fieldGetRequestBodyRaw x.raw ++
    marshalToEmbedded fieldGetRequestBodyRange x.range ++
    marshalToBool fieldGetRequestBodyPayloadOnly x.payloadOnly ++
    marshalToEmbedded fieldGetRequestBodyExtendedRange x.extendedRange

instance : Message GetRequestBody := ⟨GetRequestBody.marshaledSize, GetRequestBody.marshalStable⟩

@[simp]
theorem GetRequestBody.marshaled_size_eq (x : GetRequestBody) : Message.marshaledSize x = x.marshaledSize := rfl

@[simp]
theorem GetRequestBody.marshal_stable_eq (x : GetRequestBody) : Message.marshalStable x = x.marshalStable := rfl

structure HeadRequestBody where
  address : Option Address
  mainOnly : Bool
  raw : Bool

def fieldHeadRequestBodyAddress : Nat := 1
def fieldHeadRequestBodyMainOnly : Nat := 2
def fieldHeadRequestBodyRaw : Nat := 3

def HeadRequestBody.marshaledSize (x : HeadRequestBody) : Nat :=
  sizeEmbedded fieldHeadRequestBodyAddress x.address + sizeBool fieldHeadRequestBodyMainOnly x.mainOnly +
    sizeBool fieldHeadRequestBodyRaw x.raw

def HeadRequestBody.marshalStable (x : HeadRequestBody) : List UInt8 :=
  marshalToEmbedded fieldHeadRequestBodyAddress x.address ++ marshalToBool fieldHeadRequestBodyMainOnly x.mainOnly ++
    marshalToBool fieldHeadRequestBodyRaw x.raw

instance : Message HeadRequestBody := ⟨HeadRequestBody.marshaledSize, HeadRequestBody.marshalStable⟩

@[simp]
theorem HeadRequestBody.marshaled_size_eq (x : HeadRequestBody) : Message.marshaledSize x = x.marshaledSize := rfl

@[simp]
theorem HeadRequestBody.marshal_stable_eq (x : HeadRequestBody) : Message.marshalStable x = x.marshalStable := rfl

-- The fields of a request that its verification header signs: the body (1) and the meta header (2).
def fieldRequestBody : Nat := 1
def fieldRequestMetaHeader : Nat := 2

def requestBodyAndMetaHeader {Body Meta : Type} [Message Body] [Message Meta] (body : Option Body)
    (metaHeader : Option Meta) : List UInt8 :=
  marshalToEmbedded fieldRequestBody body ++ marshalToEmbedded fieldRequestMetaHeader metaHeader

section Lengths

variable {S1 B S2 : Type} [Message S1] [Message B] [Message S2]

theorem IDMessage.length_marshal_stable (x : IDMessage) (fits : x.marshaledSize < 2 ^ 64) :
    x.marshalStable.length = x.marshaledSize :=
  length_marshal_to_bytes x.value (by decide) (Nat.lt_of_le_of_lt (le_size_bytes _ _) fits)

theorem Address.length_marshal_stable (x : Address) (fits : x.marshaledSize < 2 ^ 64) :
    x.marshalStable.length = x.marshaledSize := by
  rw [Address.marshaledSize] at fits
  rw [Address.marshalStable, Address.marshaledSize, List.length_append,
    length_marshal_to_embedded _ (by decide) (by omega) (fun m _ => IDMessage.length_marshal_stable m),
    length_marshal_to_embedded _ (by decide) (by omega) (fun m _ => IDMessage.length_marshal_stable m)]

theorem Version.length_marshal_stable (x : Version) : x.marshalStable.length = x.marshaledSize := by
  rw [Version.marshalStable, Version.marshaledSize, List.length_append, length_marshal_to_varint _ (by decide),
    length_marshal_to_varint _ (by decide)]

theorem XHeader.length_marshal_stable (x : XHeader) (fits : x.marshaledSize < 2 ^ 64) :
    x.marshalStable.length = x.marshaledSize := by
  have key := le_size_bytes fieldXHeaderKey x.key
  have value := le_size_bytes fieldXHeaderValue x.value
  rw [XHeader.marshaledSize] at fits
  rw [XHeader.marshalStable, XHeader.marshaledSize, List.length_append, length_marshal_to_bytes _ (by decide) (by omega),
    length_marshal_to_bytes _ (by decide) (by omega)]

theorem Range.length_marshal_stable (x : Range) : x.marshalStable.length = x.marshaledSize := by
  rw [Range.marshalStable, Range.marshaledSize, List.length_append, length_marshal_to_varint _ (by decide),
    length_marshal_to_varint _ (by decide)]

theorem ExtendedRange.length_marshal_stable (x : ExtendedRange) : x.marshalStable.length = x.marshaledSize := by
  rw [ExtendedRange.marshalStable, ExtendedRange.marshaledSize, List.length_append,
    length_marshal_to_optional_varint _ (by decide), length_marshal_to_optional_varint _ (by decide)]

theorem Range.marshaled_size_le (x : Range) : x.marshaledSize ≤ 22 := by
  have offset := size_varint_field_le fieldRangeOffset x.offset (by decide)
  have length := size_varint_field_le fieldRangeLength x.length (by decide)
  rw [Range.marshaledSize]
  omega

theorem ExtendedRange.marshaled_size_le (x : ExtendedRange) : x.marshaledSize ≤ 22 := by
  have first := size_optional_varint_le fieldExtendedRangeFirstPos x.firstPos (by decide)
  have last := size_optional_varint_le fieldExtendedRangeLastPos x.lastPos (by decide)
  rw [ExtendedRange.marshaledSize]
  omega

theorem GetRequestBody.length_marshal_stable (x : GetRequestBody) (fits : x.marshaledSize < 2 ^ 64) :
    x.marshalStable.length = x.marshaledSize := by
  rw [GetRequestBody.marshaledSize] at fits
  rw [GetRequestBody.marshalStable, GetRequestBody.marshaledSize, List.length_append, List.length_append,
    List.length_append, List.length_append,
    length_marshal_to_embedded _ (by decide) (by omega) (fun m _ => Address.length_marshal_stable m),
    length_marshal_to_bool _ (by decide),
    length_marshal_to_embedded _ (by decide) (by omega) (fun m _ _ => Range.length_marshal_stable m),
    length_marshal_to_bool _ (by decide),
    length_marshal_to_embedded _ (by decide) (by omega) (fun m _ _ => ExtendedRange.length_marshal_stable m)]

theorem HeadRequestBody.length_marshal_stable (x : HeadRequestBody) (fits : x.marshaledSize < 2 ^ 64) :
    x.marshalStable.length = x.marshaledSize := by
  rw [HeadRequestBody.marshaledSize] at fits
  rw [HeadRequestBody.marshalStable, HeadRequestBody.marshaledSize, List.length_append, List.length_append,
    length_marshal_to_embedded _ (by decide) (by omega) (fun m _ => Address.length_marshal_stable m),
    length_marshal_to_bool _ (by decide), length_marshal_to_bool _ (by decide)]

theorem RequestMetaHeader.length_marshal_stable (x : RequestMetaHeader S1 B S2) (fits : x.marshaledSize < 2 ^ 64)
    (sessionLawful : ∀ m ∈ x.sessionToken, Message.marshaledSize m < 2 ^ 64 →
      (Message.marshalStable m).length = Message.marshaledSize m)
    (bearerLawful : ∀ m ∈ x.bearerToken, Message.marshaledSize m < 2 ^ 64 →
      (Message.marshalStable m).length = Message.marshaledSize m)
    (sessionV2Lawful : ∀ m ∈ x.sessionTokenV2, Message.marshaledSize m < 2 ^ 64 →
      (Message.marshalStable m).length = Message.marshaledSize m) :
    x.marshalStable.length = x.marshaledSize := by
  rw [RequestMetaHeader.marshaledSize] at fits
  simp only [RequestMetaHeader.marshalStable, RequestMetaHeader.marshaledSize, List.length_append]
  rw [length_marshal_to_embedded _ (by decide) (by omega) (fun m _ _ => Version.length_marshal_stable m),
    length_marshal_to_varint _ (by decide), length_marshal_to_varint _ (by decide),
    length_marshal_to_repeated_messages _ (by decide) (by omega) (fun m _ => XHeader.length_marshal_stable m),
    length_marshal_to_embedded _ (by decide) (by omega) sessionLawful,
    length_marshal_to_embedded _ (by decide) (by omega) bearerLawful, length_marshal_to_varint _ (by decide),
    length_marshal_to_embedded _ (by decide) (by omega) sessionV2Lawful]
  omega

end Lengths

end NeoFS.Proto
