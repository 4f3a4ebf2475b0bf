import NeoFS.Go.Slice
import NeoFS.Proto.Messages

set_option autoImplicit false

/- The object message of proto/object/encoding.go and the refs messages it carries, with their
   stable encoders, and `neofsproto.Marshal`, which `object.Object.Marshal` calls on the object's
   protobuf form. The split header and the two session tokens are type parameters with their own
   encoders; the split header carries a parent header in turn. -/
namespace NeoFS.Proto

structure Signature where
  key : List UInt8
  sign : List UInt8
  scheme : Int32

def fieldSignatureKey : Nat := 1
def fieldSignatureValue : Nat := 2
def fieldSignatureScheme : Nat := 3

def Signature.marshaledSize (x : Signature) : Nat :=
  sizeBytes fieldSignatureKey x.key + sizeBytes fieldSignatureValue x.sign +
    sizeVarintField fieldSignatureScheme x.scheme.toInt64.toUInt64

def Signature.marshalStable (x : Signature) : List UInt8 :=
  marshalToBytes fieldSignatureKey x.key ++ marshalToBytes fieldSignatureValue x.sign ++
    marshalToVarint fieldSignatureScheme x.scheme.toInt64.toUInt64

instance : Message Signature := ⟨Signature.marshaledSize, Signature.marshalStable⟩

structure Checksum where
  type : Int32
  sum : List UInt8

def fieldChecksumType : Nat := 1
def fieldChecksumValue : Nat := 2

def Checksum.marshaledSize (x : Checksum) : Nat :=
  sizeVarintField fieldChecksumType x.type.toInt64.toUInt64 + sizeBytes fieldChecksumValue x.sum

def Checksum.marshalStable (x : Checksum) : List UInt8 :=
  marshalToVarint fieldChecksumType x.type.toInt64.toUInt64 ++ marshalToBytes fieldChecksumValue x.sum

instance : Message Checksum := ⟨Checksum.marshaledSize, Checksum.marshalStable⟩

-- `object.Header_Attribute`, its two strings by their bytes.
structure HeaderAttribute where
  key : List UInt8
  value : List UInt8

def fieldAttributeKey : Nat := 1
def fieldAttributeValue : Nat := 2

def HeaderAttribute.marshaledSize (x : HeaderAttribute) : Nat :=
  sizeBytes fieldAttributeKey x.key + sizeBytes fieldAttributeValue x.value

def HeaderAttribute.marshalStable (x : HeaderAttribute) : List UInt8 :=
  marshalToBytes fieldAttributeKey x.key ++ marshalToBytes fieldAttributeValue x.value

instance : Message HeaderAttribute := ⟨HeaderAttribute.marshaledSize, HeaderAttribute.marshalStable⟩

-- `object.Header`; `objectType` is the `ObjectType` enum, an int32.
structure Header (SessionV1 Split SessionV2 : Type) where
  version : Option Version
  containerId : Option IDMessage
  ownerId : Option IDMessage
  creationEpoch : UInt64
  payloadLength : UInt64
  payloadHash : Option Checksum
  objectType : Int32
  homomorphicHash : Option Checksum
  sessionToken : Option SessionV1
  attributes : List HeaderAttribute
  split : Option Split
  sessionTokenV2 : Option SessionV2

def fieldHeaderVersion : Nat := 1
def fieldHeaderContainerID : Nat := 2
def fieldHeaderOwnerID : Nat := 3
def fieldHeaderCreationEpoch : Nat := 4
def fieldHeaderPayloadLength : Nat := 5
def fieldHeaderPayloadHash : Nat := 6
def fieldHeaderObjectType : Nat := 7
def fieldHeaderHomomorphicHash : Nat := 8
def fieldHeaderSessionToken : Nat := 9
def fieldHeaderAttributes : Nat := 10
def fieldHeaderSplit : Nat := 11
def fieldHeaderSessionV2 : Nat := 12

section Header

variable {SessionV1 Split SessionV2 : Type} [Message SessionV1] [Message Split] [Message SessionV2]

def Header.marshaledSize (x : Header SessionV1 Split SessionV2) : Nat :=
  sizeEmbedded fieldHeaderVersion x.version + sizeEmbedded fieldHeaderContainerID x.containerId +
    sizeEmbedded fieldHeaderOwnerID x.ownerId + sizeVarintField fieldHeaderCreationEpoch x.creationEpoch +
    sizeVarintField fieldHeaderPayloadLength x.payloadLength + sizeEmbedded fieldHeaderPayloadHash x.payloadHash +
    sizeVarintField fieldHeaderObjectType x.objectType.toInt64.toUInt64 +
    sizeEmbedded fieldHeaderHomomorphicHash x.homomorphicHash + sizeEmbedded fieldHeaderSessionToken x.sessionToken +
    sizeEmbedded fieldHeaderSplit x.split + sizeRepeatedMessages fieldHeaderAttributes x.attributes +
    sizeEmbedded fieldHeaderSessionV2 x.sessionTokenV2

-- The attributes, field 10, are written before the split header, field 11, as the field order
-- asks; `MarshaledSize` sums them the other way round.
def Header.marshalStable (x : Header SessionV1 Split SessionV2) : List UInt8 :=
  marshalToEmbedded fieldHeaderVersion x.version ++ marshalToEmbedded fieldHeaderContainerID x.containerId ++
    marshalToEmbedded fieldHeaderOwnerID x.ownerId ++ marshalToVarint fieldHeaderCreationEpoch x.creationEpoch ++
    marshalToVarint fieldHeaderPayloadLength x.payloadLength ++
    marshalToEmbedded fieldHeaderPayloadHash x.payloadHash ++
    marshalToVarint fieldHeaderObjectType x.objectType.toInt64.toUInt64 ++
    marshalToEmbedded fieldHeaderHomomorphicHash x.homomorphicHash ++
    marshalToEmbedded fieldHeaderSessionToken x.sessionToken ++
    marshalToRepeatedMessages fieldHeaderAttributes x.attributes ++ marshalToEmbedded fieldHeaderSplit x.split ++
    marshalToEmbedded fieldHeaderSessionV2 x.sessionTokenV2

instance : Message (Header SessionV1 Split SessionV2) := ⟨Header.marshaledSize, Header.marshalStable⟩

end Header

structure Object (SessionV1 Split SessionV2 : Type) where
  objectId : Option IDMessage
  signature : Option Signature
  header : Option (Header SessionV1 Split SessionV2)
  payload : List UInt8

def fieldObjectID : Nat := 1
def fieldObjectSignature : Nat := 2
def fieldObjectHeader : Nat := 3
def fieldObjectPayload : Nat := 4

section Object

variable {SessionV1 Split SessionV2 : Type} [Message SessionV1] [Message Split] [Message SessionV2]

def Object.marshaledSize (x : Object SessionV1 Split SessionV2) : Nat :=
  sizeEmbedded fieldObjectID x.objectId + sizeEmbedded fieldObjectSignature x.signature +
    sizeEmbedded fieldObjectHeader x.header + sizeBytes fieldObjectPayload x.payload

def Object.marshalStable (x : Object SessionV1 Split SessionV2) : List UInt8 :=
  marshalToEmbedded fieldObjectID x.objectId ++ marshalToEmbedded fieldObjectSignature x.signature ++
    marshalToEmbedded fieldObjectHeader x.header ++ marshalToBytes fieldObjectPayload x.payload

instance : Message (Object SessionV1 Split SessionV2) := ⟨Object.marshaledSize, Object.marshalStable⟩

end Object

end NeoFS.Proto
