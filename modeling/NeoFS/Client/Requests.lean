import NeoFS.Proto.Messages
import NeoFS.Proto.Object
import NeoFS.Refs

set_option autoImplicit false

/- The request encoders of client/protobuf.go. ObjectGetInit and ObjectHead do not build a request
   message: they compute the lengths of its body and meta header with one family of helpers and
   write the bytes with another, into a buffer of the length they computed. What they write is
   compared with the stable encoding of the message that the client's other operations build from
   the same parameters. -/
namespace NeoFS.Client

open Proto

-- `localRequestTTL` and `defaultRequestTTL`.
def localRequestTTL : UInt32 := 1
def defaultRequestTTL : UInt32 := 2

def localFlagToTTL (isLocal : Bool) : UInt32 := if isLocal then localRequestTTL else defaultRequestTTL

-- The tags and fixed lengths of proto/protobuf (tags.go, api.go).
def tagBytes1 : Nat := 10
def tagBytes2 : Nat := 18
def objectIDLength : Nat := 1 + 1 + 32
def containerIDLength : Nat := 1 + 1 + 32
def objectAddressLength : Nat := 1 + 1 + objectIDLength + 1 + 1 + containerIDLength

section XHeaders

def calculateXHeaderLength (key value : List UInt8) : Nat :=
  sizeBytes fieldXHeaderKey key + sizeBytes fieldXHeaderValue value

def writeXHeader (tag : Nat) (key value : List UInt8) : List UInt8 :=
  let xln := calculateXHeaderLength key value
  if xln = 0 then []
  else putUvarint tag ++ putUvarint xln ++ marshalToBytes fieldXHeaderKey key ++ marshalToBytes fieldXHeaderValue value

def calculateRequestXHeadersLength (xHeaders : List (List UInt8 × List UInt8)) : Nat :=
  (xHeaders.map fun h => sizeEmbeddedLENFieldExported fieldRequestMetaHeaderXHeaders (calculateXHeaderLength h.1 h.2)).sum

def writeXHeaders (num : Nat) (xHeaders : List (List UInt8 × List UInt8)) : List UInt8 :=
  xHeaders.flatMap fun h => writeXHeader (encodeTag num .bytes) h.1 h.2

-- `writeXHeadersToMeta`, with which the message path sets the X-headers: one message per pair.
def writeXHeadersToMeta (xHeaders : List (List UInt8 × List UInt8)) : List XHeader :=
  xHeaders.map fun h => ⟨h.1, h.2⟩

end XHeaders

section MetaHeader

variable {S1 B S2 : Type} [Message S1] [Message B] [Message S2]

def calculateRequestMetaHeaderFieldLengths (verLen : Nat) (isLocal : Bool) (xHeadersLen sessionV1TokenLen bearerTokenLen
    sessionV2TokenLen : Nat) : Nat :=
  sizeEmbeddedLENFieldExported fieldRequestMetaHeaderVersion verLen +
    sizeVarintField fieldRequestMetaHeaderTTL (localFlagToTTL isLocal).toUInt64 + xHeadersLen +
    sizeEmbeddedLENFieldExported fieldRequestMetaHeaderSessionToken sessionV1TokenLen +
    sizeEmbeddedLENFieldExported fieldRequestMetaHeaderBearerToken bearerTokenLen +
    sizeEmbeddedLENFieldExported fieldRequestMetaHeaderSessionTokenV2 sessionV2TokenLen

def writeRequestMetaHeader (ln verMsgLen : Nat) (verMsg : Option Version) (isLocal : Bool)
    (xHeaders : List (List UInt8 × List UInt8)) (sessionV1TokenLen : Nat) (sessionV1TokenMsg : Option S1)
    (bearerTokenLen : Nat) (bearerTokenMsg : Option B) (sessionV2TokenLen : Nat) (sessionV2TokenMsg : Option S2) :
    List UInt8 :=
  putUvarint tagBytes2 ++ putUvarint ln ++ marshalToEmbeddedLength fieldRequestMetaHeaderVersion verMsgLen verMsg ++
    marshalToVarint fieldRequestMetaHeaderTTL (localFlagToTTL isLocal).toUInt64 ++
    writeXHeaders fieldRequestMetaHeaderXHeaders xHeaders ++
    marshalToEmbeddedLength fieldRequestMetaHeaderSessionToken sessionV1TokenLen sessionV1TokenMsg ++
    marshalToEmbeddedLength fieldRequestMetaHeaderBearerToken bearerTokenLen bearerTokenMsg ++
    marshalToEmbeddedLength fieldRequestMetaHeaderSessionTokenV2 sessionV2TokenLen sessionV2TokenMsg

def requestMetaHeaderOf (apiVersion : Option Version) (isLocal : Bool) (xHeaders : List (List UInt8 × List UInt8))
    (session : Option S1) (bearerToken : Option B) (sessionV2 : Option S2) : RequestMetaHeader S1 B S2 :=
  ⟨apiVersion, 0, localFlagToTTL isLocal, writeXHeadersToMeta xHeaders, session, bearerToken, 0, sessionV2⟩

end MetaHeader

section Body

def writeEmbeddedContainerIDField (num : Nat) (cnr : ContainerID) : List UInt8 :=
  putUvarint (encodeTag num .bytes) ++ [containerIDLength.toUInt8] ++ marshalToBytes fieldIDValue cnr.bytes

def writeEmbeddedObjectAddressField (num : Nat) (cnr : ContainerID) (obj : ObjectID) : List UInt8 :=
  putUvarint (encodeTag num .bytes) ++ [objectAddressLength.toUInt8] ++
    writeEmbeddedContainerIDField fieldAddressContainerID cnr ++ [tagBytes2.toUInt8, objectIDLength.toUInt8] ++
    marshalToBytes fieldIDValue obj.bytes

def calculateGetObjectRequestBodyLength (raw : Bool) (rngLen : Nat) (payloadOnly : Bool) (extendedRngLen : Nat) : Nat :=
  sizeEmbeddedLENFieldExported fieldGetRequestBodyAddress objectAddressLength + sizeBool fieldGetRequestBodyRaw raw +
    sizeEmbeddedLENFieldExported fieldGetRequestBodyRange rngLen +
    sizeBool fieldGetRequestBodyPayloadOnly payloadOnly +
    sizeEmbeddedLENFieldExported fieldGetRequestBodyExtendedRange extendedRngLen

def writeGetRequestBody (ln : Nat) (cnr : ContainerID) (obj : ObjectID) (raw : Bool) (rngLen : Nat) (rng : Option Range)
    (payloadOnly : Bool) (extRngLen : Nat) (extRng : Option ExtendedRange) : List UInt8 :=
  if ln = 0 then []
  else [tagBytes1.toUInt8] ++ putUvarint ln ++ writeEmbeddedObjectAddressField fieldGetRequestBodyAddress cnr obj ++
    marshalToBool fieldGetRequestBodyRaw raw ++ marshalToEmbeddedLength fieldGetRequestBodyRange rngLen rng ++
    marshalToBool fieldGetRequestBodyPayloadOnly payloadOnly ++
    marshalToEmbeddedLength fieldGetRequestBodyExtendedRange extRngLen extRng

def calculateHeadObjectRequestBodyLength (raw : Bool) : Nat :=
  sizeEmbeddedLENFieldExported fieldHeadRequestBodyAddress objectAddressLength + sizeBool fieldHeadRequestBodyRaw raw

def writeHeadRequestBody (ln : Nat) (cnr : ContainerID) (obj : ObjectID) (raw : Bool) : List UInt8 :=
  if ln = 0 then []
  else [tagBytes1.toUInt8] ++ putUvarint ln ++ writeEmbeddedObjectAddressField fieldHeadRequestBodyAddress cnr obj ++
    marshalToBool fieldHeadRequestBodyRaw raw

def addressOf (cnr : ContainerID) (obj : ObjectID) : Address := ⟨some ⟨cnr.bytes⟩, some ⟨obj.bytes⟩⟩

def getRequestBodyOf (cnr : ContainerID) (obj : ObjectID) (raw : Bool) (rng : Option Range) (payloadOnly : Bool)
    (extendedRange : Option ExtendedRange) : GetRequestBody :=
  ⟨some (addressOf cnr obj), raw, rng, payloadOnly, extendedRange⟩

def headRequestBodyOf (cnr : ContainerID) (obj : ObjectID) (raw : Bool) : HeadRequestBody :=
  ⟨some (addressOf cnr obj), false, raw⟩

end Body

section Requests

variable {S1 B S2 : Type} [Message S1] [Message B] [Message S2]

-- The parameters of ObjectGetInit and ObjectHead that go into the request.
structure PrmObjectGet (S1 B S2 : Type) where
  raw : Bool
  payloadOnly : Bool
  rng : Option Range
  extendedRange : Option ExtendedRange
  isLocal : Bool
  xHeaders : List (List UInt8 × List UInt8)
  session : Option S1
  bearerToken : Option B
  sessionV2 : Option S2

structure PrmObjectHead (S1 B S2 : Type) where
  raw : Bool
  isLocal : Bool
  xHeaders : List (List UInt8 × List UInt8)
  session : Option S1
  bearerToken : Option B
  sessionV2 : Option S2

-- What a request encoder writes at the front of its buffer, the buffer's length, and the two
-- slices it signs: buf[off-bodyLen:off] after the body and buf[off-metaHdrLen:off] after the meta header.
structure RequestWrite where
  written : List UInt8
  bufferLength : Nat
  signedBody : List UInt8
  signedMetaHeader : List UInt8

def requestWrite (apiVersion : Option Version) (isLocal : Bool) (xHeaders : List (List UInt8 × List UInt8))
    (session : Option S1) (bearerToken : Option B) (sessionV2 : Option S2) (bodyLen : Nat) (body : List UInt8) :
    RequestWrite :=
  let versionLen := nilSafeSize apiVersion
  let xHeadersLen := calculateRequestXHeadersLength xHeaders
  let metaHdrLen := calculateRequestMetaHeaderFieldLengths versionLen isLocal xHeadersLen (nilSafeSize session)
    (nilSafeSize bearerToken) (nilSafeSize sessionV2)
  let bodyWithMetaHdrLen := sizeEmbeddedLENFieldExported fieldRequestBody bodyLen +
    sizeEmbeddedLENFieldExported fieldRequestMetaHeader metaHdrLen
  let written := body ++ writeRequestMetaHeader metaHdrLen versionLen apiVersion isLocal xHeaders
    (nilSafeSize session) session (nilSafeSize bearerToken) bearerToken (nilSafeSize sessionV2) sessionV2
  ⟨written, bodyWithMetaHdrLen, body.drop (body.length - bodyLen), written.drop (written.length - metaHdrLen)⟩

def objectGetRequest (apiVersion : Option Version) (cnr : ContainerID) (obj : ObjectID) (prm : PrmObjectGet S1 B S2) :
    RequestWrite :=
  let rngLen := nilSafeSize prm.rng
  let extRngLen := nilSafeSize prm.extendedRange
  let bodyLen := calculateGetObjectRequestBodyLength prm.raw rngLen prm.payloadOnly extRngLen
  requestWrite apiVersion prm.isLocal prm.xHeaders prm.session prm.bearerToken prm.sessionV2 bodyLen
    (writeGetRequestBody bodyLen cnr obj prm.raw rngLen prm.rng prm.payloadOnly extRngLen prm.extendedRange)

def objectHeadRequest (apiVersion : Option Version) (cnr : ContainerID) (obj : ObjectID) (prm : PrmObjectHead S1 B S2) :
    RequestWrite :=
  let bodyLen := calculateHeadObjectRequestBodyLength prm.raw
  requestWrite apiVersion prm.isLocal prm.xHeaders prm.session prm.bearerToken prm.sessionV2 bodyLen
    (writeHeadRequestBody bodyLen cnr obj prm.raw)

end Requests

section Agreement

theorem write_x_header_of_ne_zero {key value : List UInt8} (nonzero : calculateXHeaderLength key value ≠ 0) :
    writeXHeader (encodeTag fieldRequestMetaHeaderXHeaders .bytes) key value =
      marshalToEmbedded fieldRequestMetaHeaderXHeaders (some (⟨key, value⟩ : XHeader)) := by
  simp only [writeXHeader, if_neg nonzero, marshalToEmbedded, List.append_assoc]
  rfl

theorem write_x_headers_eq (xHeaders : List (List UInt8 × List UInt8)) :
    writeXHeaders fieldRequestMetaHeaderXHeaders xHeaders =
      marshalToRepeatedMessages fieldRequestMetaHeaderXHeaders
        (writeXHeadersToMeta (xHeaders.filter fun h => calculateXHeaderLength h.1 h.2 ≠ 0)) := by
  induction xHeaders with
  | nil => rfl
  | cons h rest ih =>
      unfold writeXHeaders at ih ⊢
      rw [List.flatMap_cons, ih, List.filter_cons]
      by_cases empty : calculateXHeaderLength h.1 h.2 = 0
      · simp [writeXHeader, empty]
      · rw [if_pos (by simpa using empty), write_x_header_of_ne_zero empty]
        rfl

theorem calculate_request_x_headers_length_eq (xHeaders : List (List UInt8 × List UInt8)) :
    calculateRequestXHeadersLength xHeaders =
      sizeRepeatedMessages fieldRequestMetaHeaderXHeaders
        (writeXHeadersToMeta (xHeaders.filter fun h => calculateXHeaderLength h.1 h.2 ≠ 0)) := by
  induction xHeaders with
  | nil => rfl
  | cons h rest ih =>
      unfold calculateRequestXHeadersLength at ih ⊢
      rw [List.map_cons, List.sum_cons, ih, List.filter_cons]
      by_cases empty : calculateXHeaderLength h.1 h.2 = 0
      · simp [sizeEmbeddedLENFieldExported, empty]
      · rw [if_pos (by simpa using empty)]
        simp [sizeEmbeddedLENFieldExported, empty, sizeRepeatedMessages, writeXHeadersToMeta, sizeEmbedded]
        rfl

end Agreement

section MetaHeaderAgreement

variable {S1 B S2 : Type} [Message S1] [Message B] [Message S2]

theorem calculate_request_meta_header_field_lengths_eq (apiVersion : Option Version) (isLocal : Bool)
    (xHeaders : List (List UInt8 × List UInt8)) (session : Option S1) (bearerToken : Option B) (sessionV2 : Option S2)
    (versionSet : ∀ v ∈ apiVersion, Message.marshaledSize v ≠ 0) (sessionSet : ∀ m ∈ session, Message.marshaledSize m ≠ 0)
    (bearerSet : ∀ m ∈ bearerToken, Message.marshaledSize m ≠ 0)
    (sessionV2Set : ∀ m ∈ sessionV2, Message.marshaledSize m ≠ 0) :
    calculateRequestMetaHeaderFieldLengths (nilSafeSize apiVersion) isLocal (calculateRequestXHeadersLength xHeaders)
        (nilSafeSize session) (nilSafeSize bearerToken) (nilSafeSize sessionV2) =
      RequestMetaHeader.marshaledSize (requestMetaHeaderOf apiVersion isLocal
        (xHeaders.filter fun h => calculateXHeaderLength h.1 h.2 ≠ 0) session bearerToken sessionV2) := by
  rw [calculateRequestMetaHeaderFieldLengths, RequestMetaHeader.marshaledSize,
    size_embedded_len_field_exported_of_nonempty _ versionSet, size_embedded_len_field_exported_of_nonempty _ sessionSet,
    size_embedded_len_field_exported_of_nonempty _ bearerSet, size_embedded_len_field_exported_of_nonempty _ sessionV2Set,
    calculate_request_x_headers_length_eq]
  simp only [requestMetaHeaderOf, size_varint_field_zero]
  omega

theorem request_meta_header_of_size_ne_zero (apiVersion : Option Version) (isLocal : Bool)
    (xHeaders : List (List UInt8 × List UInt8)) (session : Option S1) (bearerToken : Option B) (sessionV2 : Option S2) :
    (requestMetaHeaderOf apiVersion isLocal xHeaders session bearerToken sessionV2).marshaledSize ≠ 0 := by
  have ttl : sizeVarintField fieldRequestMetaHeaderTTL (localFlagToTTL isLocal).toUInt64 ≠ 0 := by
    cases isLocal <;> decide
  simp only [RequestMetaHeader.marshaledSize, requestMetaHeaderOf]
  omega

theorem write_request_meta_header_eq (apiVersion : Option Version) (isLocal : Bool)
    (xHeaders : List (List UInt8 × List UInt8)) (session : Option S1) (bearerToken : Option B) (sessionV2 : Option S2)
    (versionSet : ∀ v ∈ apiVersion, Message.marshaledSize v ≠ 0) (sessionSet : ∀ m ∈ session, Message.marshaledSize m ≠ 0)
    (bearerSet : ∀ m ∈ bearerToken, Message.marshaledSize m ≠ 0)
    (sessionV2Set : ∀ m ∈ sessionV2, Message.marshaledSize m ≠ 0) :
    writeRequestMetaHeader
        (calculateRequestMetaHeaderFieldLengths (nilSafeSize apiVersion) isLocal (calculateRequestXHeadersLength xHeaders)
          (nilSafeSize session) (nilSafeSize bearerToken) (nilSafeSize sessionV2))
        (nilSafeSize apiVersion) apiVersion isLocal xHeaders (nilSafeSize session) session (nilSafeSize bearerToken)
        bearerToken (nilSafeSize sessionV2) sessionV2 =
      marshalToEmbedded fieldRequestMetaHeader (some (requestMetaHeaderOf apiVersion isLocal
        (xHeaders.filter fun h => calculateXHeaderLength h.1 h.2 ≠ 0) session bearerToken sessionV2)) := by
  rw [writeRequestMetaHeader,
    calculate_request_meta_header_field_lengths_eq _ _ _ _ _ _ versionSet sessionSet bearerSet sessionV2Set,
    marshal_to_embedded_length_of_nonempty _ versionSet, marshal_to_embedded_length_of_nonempty _ sessionSet,
    marshal_to_embedded_length_of_nonempty _ bearerSet, marshal_to_embedded_length_of_nonempty _ sessionV2Set,
    write_x_headers_eq]
  simp only [marshalToEmbedded, RequestMetaHeader.marshaled_size_eq, RequestMetaHeader.marshal_stable_eq,
    RequestMetaHeader.marshalStable, requestMetaHeaderOf, marshal_to_varint_zero, List.append_nil,
    List.append_assoc]
  rfl

end MetaHeaderAgreement

section BodyAgreement

theorem id_message_size {v : List UInt8} (length : v.length = 32) : IDMessage.marshaledSize ⟨v⟩ = containerIDLength := by
  simp [IDMessage.marshaledSize, sizeBytes, length]
  rfl

theorem address_size (cnr : ContainerID) (obj : ObjectID) : (addressOf cnr obj).marshaledSize = objectAddressLength := by
  simp only [Address.marshaledSize, addressOf, sizeEmbedded, IDMessage.marshaled_size_eq, id_message_size cnr.length_eq,
    id_message_size obj.length_eq]
  rfl

theorem write_embedded_object_address_field_eq (num : Nat) (cnr : ContainerID) (obj : ObjectID) :
    writeEmbeddedObjectAddressField num cnr obj = marshalToEmbedded num (some (addressOf cnr obj)) := by
  rw [writeEmbeddedObjectAddressField, writeEmbeddedContainerIDField, marshalToEmbedded, Address.marshaled_size_eq,
    address_size]
  simp only [Address.marshal_stable_eq, Address.marshalStable, addressOf, marshalToEmbedded, IDMessage.marshaled_size_eq,
    id_message_size cnr.length_eq, id_message_size obj.length_eq, IDMessage.marshal_stable_eq, IDMessage.marshalStable,
    List.append_assoc]
  rfl

theorem size_embedded_len_field_exported_address (num : Nat) :
    sizeEmbeddedLENFieldExported num objectAddressLength = sizeEmbeddedLENField num objectAddressLength := by
  rw [sizeEmbeddedLENFieldExported, if_neg (by decide)]

theorem size_embedded_len_field_pos (num ln : Nat) (nonzero : ln ≠ 0) : 0 < sizeEmbeddedLENField num ln := by
  unfold sizeEmbeddedLENField sizeLENBytes
  omega

theorem calculate_get_object_request_body_length_eq (cnr : ContainerID) (obj : ObjectID) (raw : Bool) (rng : Option Range)
    (payloadOnly : Bool) (extRng : Option ExtendedRange) (rangeSet : ∀ r ∈ rng, Message.marshaledSize r ≠ 0)
    (extendedSet : ∀ r ∈ extRng, Message.marshaledSize r ≠ 0) :
    calculateGetObjectRequestBodyLength raw (nilSafeSize rng) payloadOnly (nilSafeSize extRng) =
      GetRequestBody.marshaledSize (getRequestBodyOf cnr obj raw rng payloadOnly extRng) := by
  rw [calculateGetObjectRequestBodyLength, GetRequestBody.marshaledSize, size_embedded_len_field_exported_of_nonempty _ rangeSet,
    size_embedded_len_field_exported_of_nonempty _ extendedSet, size_embedded_len_field_exported_address]
  simp only [getRequestBodyOf, sizeEmbedded, Address.marshaled_size_eq, address_size]

theorem calculate_get_object_request_body_length_ne_zero (raw : Bool) (rngLen : Nat) (payloadOnly : Bool)
    (extendedRngLen : Nat) : calculateGetObjectRequestBodyLength raw rngLen payloadOnly extendedRngLen ≠ 0 := by
  have := size_embedded_len_field_pos fieldGetRequestBodyAddress objectAddressLength (by decide)
  rw [calculateGetObjectRequestBodyLength, size_embedded_len_field_exported_address]
  omega

theorem calculate_head_object_request_body_length_eq (cnr : ContainerID) (obj : ObjectID) (raw : Bool) :
    calculateHeadObjectRequestBodyLength raw = HeadRequestBody.marshaledSize (headRequestBodyOf cnr obj raw) := by
  rw [calculateHeadObjectRequestBodyLength, HeadRequestBody.marshaledSize, size_embedded_len_field_exported_address]
  simp only [headRequestBodyOf, sizeEmbedded, Address.marshaled_size_eq, address_size]
  rfl

theorem calculate_head_object_request_body_length_ne_zero (raw : Bool) : calculateHeadObjectRequestBodyLength raw ≠ 0 := by
  have := size_embedded_len_field_pos fieldHeadRequestBodyAddress objectAddressLength (by decide)
  rw [calculateHeadObjectRequestBodyLength, size_embedded_len_field_exported_address]
  omega

theorem write_get_request_body_eq (cnr : ContainerID) (obj : ObjectID) (raw : Bool) (rng : Option Range) (payloadOnly : Bool)
    (extRng : Option ExtendedRange) (rangeSet : ∀ r ∈ rng, Message.marshaledSize r ≠ 0)
    (extendedSet : ∀ r ∈ extRng, Message.marshaledSize r ≠ 0) :
    writeGetRequestBody (calculateGetObjectRequestBodyLength raw (nilSafeSize rng) payloadOnly (nilSafeSize extRng)) cnr obj
        raw (nilSafeSize rng) rng payloadOnly (nilSafeSize extRng) extRng =
      marshalToEmbedded fieldRequestBody (some (getRequestBodyOf cnr obj raw rng payloadOnly extRng)) := by
  rw [writeGetRequestBody, if_neg (calculate_get_object_request_body_length_ne_zero _ _ _ _),
    calculate_get_object_request_body_length_eq cnr obj _ _ _ _ rangeSet extendedSet,
    marshal_to_embedded_length_of_nonempty _ rangeSet, marshal_to_embedded_length_of_nonempty _ extendedSet,
    write_embedded_object_address_field_eq]
  simp only [marshalToEmbedded, GetRequestBody.marshaled_size_eq, GetRequestBody.marshal_stable_eq,
    GetRequestBody.marshalStable, getRequestBodyOf, List.append_assoc]
  rfl

theorem write_head_request_body_eq (cnr : ContainerID) (obj : ObjectID) (raw : Bool) :
    writeHeadRequestBody (calculateHeadObjectRequestBodyLength raw) cnr obj raw =
      marshalToEmbedded fieldRequestBody (some (headRequestBodyOf cnr obj raw)) := by
  rw [writeHeadRequestBody, if_neg (calculate_head_object_request_body_length_ne_zero raw),
    calculate_head_object_request_body_length_eq cnr obj, write_embedded_object_address_field_eq]
  simp only [marshalToEmbedded, HeadRequestBody.marshaled_size_eq, HeadRequestBody.marshal_stable_eq,
    HeadRequestBody.marshalStable, headRequestBodyOf, List.append_assoc]
  rfl

theorem size_embedded_address (num : Nat) (cnr : ContainerID) (obj : ObjectID) (small : num < 16) :
    sizeEmbedded num (some (addressOf cnr obj)) = 2 + objectAddressLength := by
  rw [sizeEmbedded, Address.marshaled_size_eq, address_size, sizeEmbeddedLENField, sizeLENBytes, size_tag_of_lt small]
  rfl

theorem get_request_body_of_size_lt (cnr : ContainerID) (obj : ObjectID) (raw : Bool) (rng : Option Range)
    (payloadOnly : Bool) (extRng : Option ExtendedRange) :
    (getRequestBodyOf cnr obj raw rng payloadOnly extRng).marshaledSize < 2 ^ 64 := by
  have address := size_embedded_address fieldGetRequestBodyAddress cnr obj (by decide)
  have rawSize := size_varint_field_le fieldGetRequestBodyRaw (encodeBool raw) (by decide)
  have range := size_embedded_le fieldGetRequestBodyRange rng 22 (by decide) (by decide)
    (fun r _ => Range.marshaled_size_le r)
  have payloadOnlySize := size_varint_field_le fieldGetRequestBodyPayloadOnly (encodeBool payloadOnly) (by decide)
  have extended := size_embedded_le fieldGetRequestBodyExtendedRange extRng 22 (by decide) (by decide)
    (fun r _ => ExtendedRange.marshaled_size_le r)
  simp only [GetRequestBody.marshaledSize, getRequestBodyOf, sizeBool]
  rw [address, objectAddressLength, objectIDLength, containerIDLength]
  omega

theorem head_request_body_of_size_lt (cnr : ContainerID) (obj : ObjectID) (raw : Bool) :
    (headRequestBodyOf cnr obj raw).marshaledSize < 2 ^ 64 := by
  have address := size_embedded_address fieldHeadRequestBodyAddress cnr obj (by decide)
  have mainOnlySize := size_varint_field_le fieldHeadRequestBodyMainOnly (encodeBool false) (by decide)
  have rawSize := size_varint_field_le fieldHeadRequestBodyRaw (encodeBool raw) (by decide)
  simp only [HeadRequestBody.marshaledSize, headRequestBodyOf, sizeBool]
  rw [address, objectAddressLength, objectIDLength, containerIDLength]
  omega

end BodyAgreement

section RequestAgreement

variable {S1 B S2 : Type} [Message S1] [Message B] [Message S2]

theorem request_write_written (apiVersion : Option Version) (isLocal : Bool) (xHeaders : List (List UInt8 × List UInt8))
    (session : Option S1) (bearerToken : Option B) (sessionV2 : Option S2) (bodyLen : Nat) (body : List UInt8)
    (versionSet : ∀ v ∈ apiVersion, Message.marshaledSize v ≠ 0) (sessionSet : ∀ m ∈ session, Message.marshaledSize m ≠ 0)
    (bearerSet : ∀ m ∈ bearerToken, Message.marshaledSize m ≠ 0)
    (sessionV2Set : ∀ m ∈ sessionV2, Message.marshaledSize m ≠ 0) :
    (requestWrite apiVersion isLocal xHeaders session bearerToken sessionV2 bodyLen body).written =
      body ++ marshalToEmbedded fieldRequestMetaHeader (some (requestMetaHeaderOf apiVersion isLocal
        (xHeaders.filter fun h => calculateXHeaderLength h.1 h.2 ≠ 0) session bearerToken sessionV2)) := by
  simp only [requestWrite]
  rw [write_request_meta_header_eq _ _ _ _ _ _ versionSet sessionSet bearerSet sessionV2Set]

theorem object_get_request_written (apiVersion : Option Version) (cnr : ContainerID) (obj : ObjectID)
    (prm : PrmObjectGet S1 B S2) (versionSet : ∀ v ∈ apiVersion, Message.marshaledSize v ≠ 0)
    (rangeSet : ∀ r ∈ prm.rng, Message.marshaledSize r ≠ 0)
    (extendedSet : ∀ r ∈ prm.extendedRange, Message.marshaledSize r ≠ 0)
    (sessionSet : ∀ m ∈ prm.session, Message.marshaledSize m ≠ 0)
    (bearerSet : ∀ m ∈ prm.bearerToken, Message.marshaledSize m ≠ 0)
    (sessionV2Set : ∀ m ∈ prm.sessionV2, Message.marshaledSize m ≠ 0) :
    (objectGetRequest apiVersion cnr obj prm).written =
      requestBodyAndMetaHeader (some (getRequestBodyOf cnr obj prm.raw prm.rng prm.payloadOnly prm.extendedRange))
        (some (requestMetaHeaderOf apiVersion prm.isLocal
          (prm.xHeaders.filter fun h => calculateXHeaderLength h.1 h.2 ≠ 0) prm.session prm.bearerToken prm.sessionV2)) := by
  rw [objectGetRequest, request_write_written _ _ _ _ _ _ _ _ versionSet sessionSet bearerSet sessionV2Set,
    write_get_request_body_eq _ _ _ _ _ _ rangeSet extendedSet, requestBodyAndMetaHeader]

theorem object_head_request_written (apiVersion : Option Version) (cnr : ContainerID) (obj : ObjectID)
    (prm : PrmObjectHead S1 B S2) (versionSet : ∀ v ∈ apiVersion, Message.marshaledSize v ≠ 0)
    (sessionSet : ∀ m ∈ prm.session, Message.marshaledSize m ≠ 0)
    (bearerSet : ∀ m ∈ prm.bearerToken, Message.marshaledSize m ≠ 0)
    (sessionV2Set : ∀ m ∈ prm.sessionV2, Message.marshaledSize m ≠ 0) :
    (objectHeadRequest apiVersion cnr obj prm).written =
      requestBodyAndMetaHeader (some (headRequestBodyOf cnr obj prm.raw))
        (some (requestMetaHeaderOf apiVersion prm.isLocal
          (prm.xHeaders.filter fun h => calculateXHeaderLength h.1 h.2 ≠ 0) prm.session prm.bearerToken prm.sessionV2)) := by
  rw [objectHeadRequest, request_write_written _ _ _ _ _ _ _ _ versionSet sessionSet bearerSet sessionV2Set,
    write_head_request_body_eq, requestBodyAndMetaHeader]

theorem object_get_request_signed_body (apiVersion : Option Version) (cnr : ContainerID) (obj : ObjectID)
    (prm : PrmObjectGet S1 B S2) (rangeSet : ∀ r ∈ prm.rng, Message.marshaledSize r ≠ 0)
    (extendedSet : ∀ r ∈ prm.extendedRange, Message.marshaledSize r ≠ 0) :
    (objectGetRequest apiVersion cnr obj prm).signedBody =
      (getRequestBodyOf cnr obj prm.raw prm.rng prm.payloadOnly prm.extendedRange).marshalStable := by
  simp only [objectGetRequest, requestWrite]
  rw [write_get_request_body_eq _ _ _ _ _ _ rangeSet extendedSet,
    calculate_get_object_request_body_length_eq cnr obj _ _ _ _ rangeSet extendedSet]
  exact drop_marshal_to_embedded _ _ (GetRequestBody.length_marshal_stable _ (get_request_body_of_size_lt _ _ _ _ _ _))

theorem object_head_request_signed_body (apiVersion : Option Version) (cnr : ContainerID) (obj : ObjectID)
    (prm : PrmObjectHead S1 B S2) :
    (objectHeadRequest apiVersion cnr obj prm).signedBody = (headRequestBodyOf cnr obj prm.raw).marshalStable := by
  simp only [objectHeadRequest, requestWrite]
  rw [write_head_request_body_eq, calculate_head_object_request_body_length_eq cnr obj]
  exact drop_marshal_to_embedded _ _ (HeadRequestBody.length_marshal_stable _ (head_request_body_of_size_lt _ _ _))

theorem request_write_buffer_length (apiVersion : Option Version) (isLocal : Bool)
    (xHeaders : List (List UInt8 × List UInt8)) (session : Option S1) (bearerToken : Option B) (sessionV2 : Option S2)
    {Body : Type} [Message Body] (body : Body) (bodyWritten : List UInt8) (nonempty : Message.marshaledSize body ≠ 0)
    (versionSet : ∀ v ∈ apiVersion, Message.marshaledSize v ≠ 0) (sessionSet : ∀ m ∈ session, Message.marshaledSize m ≠ 0)
    (bearerSet : ∀ m ∈ bearerToken, Message.marshaledSize m ≠ 0)
    (sessionV2Set : ∀ m ∈ sessionV2, Message.marshaledSize m ≠ 0) :
    (requestWrite apiVersion isLocal xHeaders session bearerToken sessionV2 (Message.marshaledSize body)
        bodyWritten).bufferLength =
      sizeEmbedded fieldRequestBody (some body) + sizeEmbedded fieldRequestMetaHeader (some (requestMetaHeaderOf
        apiVersion isLocal (xHeaders.filter fun h => calculateXHeaderLength h.1 h.2 ≠ 0) session bearerToken sessionV2)) := by
  simp only [requestWrite]
  rw [calculate_request_meta_header_field_lengths_eq _ _ _ _ _ _ versionSet sessionSet bearerSet sessionV2Set,
    size_embedded_len_field_exported_of_ne_zero _ _ nonempty, ← RequestMetaHeader.marshaled_size_eq,
    size_embedded_len_field_exported_of_ne_zero _ _ (request_meta_header_of_size_ne_zero _ _ _ _ _ _)]

-- A request with one X-header whose key and value are empty, as WithXHeaders("", "") gives.
def emptyXHeaderGet : PrmObjectGet NoFields NoFields NoFields :=
  ⟨false, false, none, none, false, [([], [])], none, none, none⟩

theorem objectGetRequest_drops_empty_xheader :
    (objectGetRequest (some ⟨2, 18⟩) ContainerID.zero ObjectID.zero emptyXHeaderGet).written ≠
        requestBodyAndMetaHeader (some (getRequestBodyOf ContainerID.zero ObjectID.zero false none false none))
          (some (requestMetaHeaderOf (some ⟨2, 18⟩) false [([], [])] (none : Option NoFields) (none : Option NoFields)
            (none : Option NoFields))) ∧
      (objectGetRequest (some ⟨2, 18⟩) ContainerID.zero ObjectID.zero emptyXHeaderGet).written =
        requestBodyAndMetaHeader (some (getRequestBodyOf ContainerID.zero ObjectID.zero false none false none))
          (some (requestMetaHeaderOf (some ⟨2, 18⟩) false [] (none : Option NoFields) (none : Option NoFields)
            (none : Option NoFields))) := by
  decide

end RequestAgreement

end NeoFS.Client
