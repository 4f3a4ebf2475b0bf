import NeoFS.Proto.Encoding

set_option autoImplicit false

/- `GetResponse_Body` of proto/object/encoding.go: its `object_part` oneof, of an `Init`
   message, a payload chunk, or a `SplitInfo` message, whose own encoders are instances. -/
namespace NeoFS.Proto

-- The oneof's wrappers; a nil wrapper pointer writes what a nil message in it does.
inductive ObjectPart (Init SplitInfo : Type) where
  | init (part : Option Init)
  | chunk (chunk : List UInt8)
  | splitInfo (part : Option SplitInfo)

structure GetResponseBody (Init SplitInfo : Type) where
  objectPart : Option (ObjectPart Init SplitInfo)

def fieldGetResponseBodyInit : Nat := 1
def fieldGetResponseBodyChunk : Nat := 2
def fieldGetResponseBodySplitInfo : Nat := 3

section Body

variable {Init SplitInfo : Type} [Message Init] [Message SplitInfo]

def GetResponseBody.marshaledSize (x : GetResponseBody Init SplitInfo) : Nat :=
  match x.objectPart with
  | none => 0
  | some (.init p) => sizeEmbedded fieldGetResponseBodyInit p
  | some (.chunk c) => sizeBytes fieldGetResponseBodyChunk c
  | some (.splitInfo p) => sizeEmbedded fieldGetResponseBodySplitInfo p

def GetResponseBody.marshalStable (x : GetResponseBody Init SplitInfo) : List UInt8 :=
  match x.objectPart with
  | none => []
  | some (.init p) => marshalToEmbedded fieldGetResponseBodyInit p
  | some (.chunk c) => marshalToBytes fieldGetResponseBodyChunk c
  | some (.splitInfo p) => marshalToEmbedded fieldGetResponseBodySplitInfo p

-- An empty chunk, which the oneof holds as set, is not written: proto3 decoding of what is
-- written, which reads the empty input as the message with no field set, loses the variant.
theorem marshalStable_drops_empty_chunk (unmarshal : List UInt8 → Except String (GetResponseBody Init SplitInfo))
    (proto3 : unmarshal [] = .ok ⟨none⟩) :
    (⟨some (.chunk [])⟩ : GetResponseBody Init SplitInfo).marshaledSize = 0 ∧
      (⟨some (.chunk [])⟩ : GetResponseBody Init SplitInfo).marshalStable = [] ∧
      unmarshal (⟨some (.chunk [])⟩ : GetResponseBody Init SplitInfo).marshalStable = .ok ⟨none⟩ ∧
      (⟨none⟩ : GetResponseBody Init SplitInfo) ≠ ⟨some (.chunk [])⟩ := by
  refine ⟨rfl, rfl, ?_, by simp⟩
  rw [show (⟨some (.chunk [])⟩ : GetResponseBody Init SplitInfo).marshalStable = [] from rfl, proto3]

end Body

-- A message without fields, and a decoder that reads the empty input as proto3 does.
structure NoFields where

instance : Message NoFields := ⟨fun _ => 0, fun _ => []⟩

def decodeEmpty (data : List UInt8) : Except String (GetResponseBody NoFields NoFields) :=
  if data = [] then .ok ⟨none⟩ else .error "proto: cannot parse invalid wire-format data"

theorem empty_chunk_lost :
    decodeEmpty [] = .ok ⟨none⟩ ∧
      (⟨some (.chunk [])⟩ : GetResponseBody NoFields NoFields).marshaledSize = 0 ∧
      (⟨some (.chunk [])⟩ : GetResponseBody NoFields NoFields).marshalStable = [] ∧
      decodeEmpty (⟨some (.chunk [])⟩ : GetResponseBody NoFields NoFields).marshalStable = .ok ⟨none⟩ ∧
      (⟨none⟩ : GetResponseBody NoFields NoFields) ≠ ⟨some (.chunk [])⟩ :=
  ⟨rfl, marshalStable_drops_empty_chunk decodeEmpty rfl⟩

end NeoFS.Proto
