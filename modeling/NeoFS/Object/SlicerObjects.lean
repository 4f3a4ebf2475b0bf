import NeoFS.Object.SlicerBuffers
import Mathlib.Data.List.ModifyLast
import NeoFS.Lib.Except

set_option autoImplicit false

/- The objects a PayloadWriter writes, for an object writer that keeps them and a signer that
   signs every ID: the object writer of the tests' chain collector, which stores each object with
   the payload written to its stream. flushObjectMetadata then seals a header (payload checksum
   and size, the ID of the header and its signature), writeInMemObject stores the sealed object,
   and writeChild appends one child, or at the end the last child and the link object. -/
namespace NeoFS.Slicer

open NeoFS.Go NeoFS.Crypto

abbrev Stored (τ₁ τ₂ : Type) := List (Object τ₁ τ₂ × List UInt8)

section Collector

variable {σ ε τ₁ τ₂ β : Type}

def collector : ObjectWriter (Stored τ₁ τ₂) ε τ₁ τ₂ β where
  objectPutInit stored obj _ := .ok (stored ++ [(obj, [])])
  write stored bytes := .ok (stored.modifyLast fun entry => (entry.1, entry.2 ++ bytes))
  close := none

@[simp] theorem collector_objectPutInit (stored : Stored τ₁ τ₂) (obj : Object τ₁ τ₂) (prm : PrmObjectPutInit τ₁ τ₂ β) :
    (collector (ε := ε)).objectPutInit stored obj prm = .ok (stored ++ [(obj, [])]) := rfl

@[simp] theorem collector_close : (collector : ObjectWriter (Stored τ₁ τ₂) ε τ₁ τ₂ β).close = none := rfl

variable (signer : Signer ε) (sha256 : List UInt8 → List UInt8) (calculateID : Header τ₁ τ₂ → ObjectID)
  (sign : List UInt8 → List UInt8)

-- A signer that signs any bytes with `sign` of them, the same on every call.
def Deterministic : Prop := ∀ data, signer.sign data = .ok (sign data)

-- The header flushObjectMetadata makes when the signer returns `sign` of the ID's encoding.
def sealObject (metadata : DynamicObjectMetadata) (obj : Object τ₁ τ₂) : Object τ₁ τ₂ :=
  let obj := (obj.setPayloadChecksum ⟨checksumSHA256, sha256 metadata.checksum⟩).setPayloadSize metadata.length
  let id := calculateID obj.header
  (obj.setID id).setSignature (some ⟨signer.publicKey, sign (idMessage id).marshalStable, signer.scheme⟩)

def stored (metadata : DynamicObjectMetadata) (obj : Object τ₁ τ₂) : Object τ₁ τ₂ :=
  if obj.id.isZero || obj.sig.isNone then sealObject signer sha256 calculateID sign metadata obj else obj

def PayloadWriter.sealedRoot (x : PayloadWriter σ ε τ₁ τ₂ β) : Object τ₁ τ₂ :=
  sealObject signer sha256 calculateID sign x.rootMeta x.headerObject

def PayloadWriter.lastChild (x : PayloadWriter σ ε τ₁ τ₂ β) : Object τ₁ τ₂ :=
  (x.newChild.setParentID (x.sealedRoot signer sha256 calculateID sign).id).setParent
    (some (x.sealedRoot signer sha256 calculateID sign))

variable {signer sha256 calculateID sign}

def linkHeader (child : Object τ₁ τ₂) : Object τ₁ τ₂ :=
  ((child.setType typeLink).resetPreviousID.resetID).setSignature none

section Sealing

variable (signs : ∀ data, signer.sign data = .ok (sign data))
include signs

theorem calculate_signature_ok (data : List UInt8) :
    calculateSignature signer data = .ok ⟨signer.publicKey, sign data, signer.scheme⟩ := by
  rw [calculateSignature, signs]

theorem flush_object_metadata_ok {x : PayloadWriter σ ε τ₁ τ₂ β} (metadata : DynamicObjectMetadata)
    (obj : Object τ₁ τ₂) (payloadBuffers : List (List UInt8)) {virtualObject : Bool}
    (plain : x.splitChainModifier = none ∨ virtualObject = true) :
    flushObjectMetadata signer sha256 calculateID x metadata obj payloadBuffers virtualObject =
      .ok (sealObject signer sha256 calculateID sign metadata obj,
        (sealObject signer sha256 calculateID sign metadata obj).id) := by
  unfold flushObjectMetadata
  -- No modifier runs: none is set, or the object is the virtual root of a split.
  rcases plain with none | virtual
  · simp only [none, bind, Except.bind, pure, Except.pure, calculate_signature_ok signs, Except.mapError]
    rfl
  · cases x.splitChainModifier <;>
      simp only [virtual, if_true, bind, Except.bind, pure, Except.pure, calculate_signature_ok signs,
        Except.mapError] <;> rfl

end Sealing

theorem collector_writes (stored : Stored τ₁ τ₂) (obj : Object τ₁ τ₂) (payload : List UInt8)
    (payloadBuffers : List (List UInt8)) (wrap : ε → SlicerError ε) :
    payloadBuffers.foldlM (fun w buf => ((collector (β := β)).write w buf).mapError wrap) (stored ++ [(obj, payload)]) =
      .ok (stored ++ [(obj, payload ++ payloadBuffers.flatten)]) := by
  induction payloadBuffers generalizing payload with
  | nil => simp only [List.foldlM_nil, List.flatten_nil, List.append_nil]; rfl
  | cons buf rest ih =>
      have step : ((collector (β := β)).write (stored ++ [(obj, payload)]) buf).mapError wrap =
          .ok (stored ++ [(obj, payload ++ buf)]) := by
        simp only [collector, List.modifyLast_concat]
        rfl
      rw [List.foldlM_cons, step]
      simp only [bind, Except.bind]
      rw [ih, List.flatten_cons, List.append_assoc]

theorem write_in_mem_object_collector (signs : ∀ data, signer.sign data = .ok (sign data))
    {x : PayloadWriter (Stored τ₁ τ₂) ε τ₁ τ₂ β} (plain : x.splitChainModifier = none)
    (obj : Object τ₁ τ₂) (payloadBuffers : List (List UInt8)) (metadata : DynamicObjectMetadata) :
    writeInMemObject collector signer sha256 calculateID x obj payloadBuffers metadata =
      .ok (x.stream ++ [(stored signer sha256 calculateID sign metadata obj, payloadBuffers.flatten)],
        (stored signer sha256 calculateID sign metadata obj).id) := by
  have put : ∀ header : Object τ₁ τ₂, (do
      let w ← ((collector (β := β)).objectPutInit x.stream header x.prmObjectPutInit).mapError
        fun e => SlicerError.wrap "init data stream for next object" (.cause e)
      let w ← payloadBuffers.foldlM (fun w buf => ((collector (β := β)).write w buf).mapError
        fun e => .wrap "write object payload" (.cause e)) w
      match (collector : ObjectWriter (Stored τ₁ τ₂) ε τ₁ τ₂ β).close with
      | some close => do
          let w ← (close w).mapError fun e => .wrap "finish object stream" (.cause e)
          pure (w, header.id)
      | none => pure (w, header.id) : Except (SlicerError ε) (Stored τ₁ τ₂ × ObjectID)) =
        .ok (x.stream ++ [(header, payloadBuffers.flatten)], header.id) := by
    intro header
    simp only [collector_objectPutInit, Lib.Except.ok_map_error, bind, Except.bind]
    rw [collector_writes, List.nil_append]
    rfl
  unfold writeInMemObject stored
  dsimp only
  split
  · rw [flush_object_metadata_ok signs metadata obj payloadBuffers (.inl plain), Lib.Except.ok_bind]
    exact put _
  · exact put obj

def PayloadWriter.recordChild (x : PayloadWriter (Stored τ₁ τ₂) ε τ₁ τ₂ β) (child : Object τ₁ τ₂)
    (metadata : DynamicObjectMetadata) (payloadBuffers : List (List UInt8)) : PayloadWriter (Stored τ₁ τ₂) ε τ₁ τ₂ β :=
  let x := { x with stream := x.stream ++ [(child, payloadBuffers.flatten)] }
  let x := if x.withSplit && x.firstObject.isNone then { x with firstObject := some child.id } else x
  { x with writtenChildren := x.writtenChildren ++ [⟨child.id, UInt32.ofNat metadata.length⟩] }

theorem object_id_zero_is_zero : ObjectID.zero.isZero = true := by decide

theorem child_header_id (stub header : Object τ₁ τ₂) (withSplit : Bool) (first previous : Option ObjectID) :
    (childHeader stub header withSplit first previous).id = ObjectID.zero := by
  cases withSplit <;> cases first <;> cases previous <;> rfl

theorem stored_of_id {obj : Object τ₁ τ₂} (unsealed : obj.id = ObjectID.zero) (metadata : DynamicObjectMetadata) :
    stored signer sha256 calculateID sign metadata obj = sealObject signer sha256 calculateID sign metadata obj := by
  rw [stored, unsealed, object_id_zero_is_zero, Bool.true_or, if_pos rfl]

theorem stored_new_child (x : PayloadWriter σ ε τ₁ τ₂ β) (metadata : DynamicObjectMetadata) :
    stored signer sha256 calculateID sign metadata x.newChild = sealObject signer sha256 calculateID sign metadata x.newChild :=
  stored_of_id (child_header_id _ _ _ _ _) metadata

theorem last_child_id (x : PayloadWriter σ ε τ₁ τ₂ β) :
    (x.lastChild signer sha256 calculateID sign).id = ObjectID.zero := by
  unfold PayloadWriter.lastChild
  exact child_header_id x.stubObject x.headerObject x.withSplit x.firstObject _

theorem stored_last_child (x : PayloadWriter σ ε τ₁ τ₂ β) (metadata : DynamicObjectMetadata) :
    stored signer sha256 calculateID sign metadata (x.lastChild signer sha256 calculateID sign) =
      sealObject signer sha256 calculateID sign metadata (x.lastChild signer sha256 calculateID sign) :=
  stored_of_id (last_child_id x) metadata

theorem stored_link_header (child : Object τ₁ τ₂) (metadata : DynamicObjectMetadata) :
    stored signer sha256 calculateID sign metadata (linkHeader child) =
      sealObject signer sha256 calculateID sign metadata (linkHeader child) :=
  stored_of_id rfl metadata

variable {x : PayloadWriter (Stored τ₁ τ₂) ε τ₁ τ₂ β}

theorem write_child_intermediate (signs : ∀ data, signer.sign data = .ok (sign data)) (plain : x.splitChainModifier = none)
    (metadata : DynamicObjectMetadata) (payloadBuffers : List (List UInt8)) :
    writeChild collector signer sha256 calculateID x metadata payloadBuffers false =
      .ok (x.recordChild (sealObject signer sha256 calculateID sign metadata x.newChild) metadata payloadBuffers) := by
  unfold writeChild
  simp only [Bool.false_eq_true, if_false, Bool.and_false, pure, Except.pure, bind, Except.bind]
  rw [write_in_mem_object_collector signs plain, stored_new_child]
  rfl

theorem write_child_whole (signs : ∀ data, signer.sign data = .ok (sign data)) (plain : x.splitChainModifier = none)
    (unsplit : x.withSplit = false) (payloadBuffers : List (List UInt8)) :
    writeChild collector signer sha256 calculateID x x.rootMeta payloadBuffers true =
      .ok ({ x with headerObject := x.sealedRoot signer sha256 calculateID sign,
                    rootID := (x.sealedRoot signer sha256 calculateID sign).id }.recordChild
        (x.sealedRoot signer sha256 calculateID sign) x.rootMeta payloadBuffers) := by
  have resealed : stored signer sha256 calculateID sign x.rootMeta (x.sealedRoot signer sha256 calculateID sign) =
      x.sealedRoot signer sha256 calculateID sign := by
    unfold stored
    split <;> rfl
  unfold writeChild
  simp only [if_true, unsplit, Bool.false_eq_true, if_false, bind, Except.bind]
  rw [flush_object_metadata_ok signs _ _ _ (.inl plain)]
  -- The stream is written from the record with the sealed root, whose modifier is still none.
  simp only [Lib.Except.ok_map_error, pure, Except.pure, write_in_mem_object_collector signs, plain]
  rw [← PayloadWriter.sealedRoot, resealed]
  rfl

theorem write_child_last (signs : ∀ data, signer.sign data = .ok (sign data)) (plain : x.splitChainModifier = none)
    (split : x.withSplit = true) (metadata : DynamicObjectMetadata) (payloadBuffers : List (List UInt8)) :
    writeChild collector signer sha256 calculateID x metadata payloadBuffers true =
      let root := x.sealedRoot signer sha256 calculateID sign
      let child := x.lastChild signer sha256 calculateID sign
      let y := { x with headerObject := root, rootID := root.id }.recordChild
        (sealObject signer sha256 calculateID sign metadata child) metadata payloadBuffers
      let payload := linkMarshal y.writtenChildren
      if payload.length > x.payloadSizeLimit then
        .error (.text ("link's payload exceeds max available size: " ++ toString payload.length ++ " > " ++
          toString x.payloadSizeLimit))
      else .ok { y with stream := y.stream ++ [(sealObject signer sha256 calculateID sign
        (metadata.reset.accumulateNextPayloadChunk payload) (linkHeader child), payload)] } := by
  unfold writeChild
  simp only [if_true, split, bind, Except.bind]
  rw [flush_object_metadata_ok signs _ _ _ (.inr rfl)]
  -- Both objects are written from records whose modifier is still x's.
  simp (disch := simp only [apply_ite PayloadWriter.splitChainModifier, plain, ite_self]) only
    [Lib.Except.ok_map_error, pure, Except.pure, write_in_mem_object_collector signs]
  rw [← PayloadWriter.sealedRoot, ← PayloadWriter.lastChild, stored_last_child, ← linkHeader, stored_link_header]
  simp only [PayloadWriter.recordChild, Bool.true_and, Bool.and_true, if_true, List.flatten_cons,
    List.flatten_nil, List.append_nil, throw, throwThe, MonadExceptOf.throw, apply_ite PayloadWriter.withSplit,
    apply_ite PayloadWriter.payloadSizeLimit, ite_self]

end Collector

end NeoFS.Slicer
