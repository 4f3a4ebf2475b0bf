import Mathlib
import NeoFS.Refs
import NeoFS.Go.Basic
import NeoFS.Go.IO
import NeoFS.Go.Slice
import NeoFS.Crypto.Proto
import NeoFS.Proto.Messages

set_option autoImplicit false

/- The slicer of object/slicer (slicer.go). A PayloadWriter keeps the payload written to it in
   the caller's payload buffer and an extra buffer it allocates, and cuts it into child objects
   of payloadSizeLimit bytes, each pointing back to the one before; Close writes the last child
   and a link object listing them all, or a single object when the payload fits in one. Objects
   go to an ObjectWriter with state σ. The errors of the object writer, the signer and the split
   chain modifier have type ε; the session tokens of both versions and the bearer token are
   type parameters, as are the SHA-256 of a payload and the ID of a header, the SHA-256 of its
   encoding. A hash.Hash is the bytes written to it since its last Reset. Lengths are Nat: the
   uint64 counters do not wrap on payloads that fit in memory. -/
namespace NeoFS.Slicer

open NeoFS.Go NeoFS.Crypto

abbrev ObjectType := Int32

def typeRegular : ObjectType := 0
def typeLink : ObjectType := 4

-- `checksum.SHA256`.
def checksumSHA256 : Int32 := 1

structure Checksum where
  typ : Int32
  value : List UInt8

structure Attribute where
  key : String
  value : String

-- The split fields of an object header; a nil ID is the zero one.
structure Split (H : Type) where
  parID : ObjectID
  prev : ObjectID
  parSig : Option Signature
  parHdr : Option H
  children : List ObjectID
  id : List UInt8
  first : ObjectID

structure Header (τ₁ τ₂ : Type) where
  version : Option Version
  owner : UserID
  cnr : ContainerID
  created : UInt64
  payloadLn : Nat
  pldHash : Option Checksum
  typ : ObjectType
  pldHomoHash : Option Checksum
  session : Option τ₁
  sessionV2 : Option τ₂
  attrs : List Attribute
  split : Split (Header τ₁ τ₂)

-- `object.Object` without its payload, which the slicer streams.
structure Object (τ₁ τ₂ : Type) where
  id : ObjectID
  sig : Option Signature
  header : Header τ₁ τ₂

-- `version.Current`.
def currentVersion : Version := ⟨2, 25⟩

section Object

variable {τ₁ τ₂ : Type}

-- `var obj object.Object`.
def Object.zero : Object τ₁ τ₂ :=
  ⟨ObjectID.zero, none,
    ⟨none, UserID.zero, ContainerID.zero, 0, 0, none, typeRegular, none, none, none, [],
      ⟨ObjectID.zero, ObjectID.zero, none, none, [], [], ObjectID.zero⟩⟩⟩

def Object.setParent (o : Object τ₁ τ₂) : Option (Object τ₁ τ₂) → Object τ₁ τ₂
  | some v => { o with header.split.parHdr := some v.header, header.split.parID := v.id, header.split.parSig := v.sig }
  | none => { o with header.split.parHdr := none, header.split.parID := ObjectID.zero, header.split.parSig := none }

def Object.setSplitID (o : Object τ₁ τ₂) (v : List UInt8) : Object τ₁ τ₂ := { o with header.split.id := v }

def Object.setPreviousID (o : Object τ₁ τ₂) (v : ObjectID) : Object τ₁ τ₂ := { o with header.split.prev := v }

def Object.resetPreviousID (o : Object τ₁ τ₂) : Object τ₁ τ₂ := o.setPreviousID ObjectID.zero

def Object.setFirstID (o : Object τ₁ τ₂) (v : ObjectID) : Object τ₁ τ₂ := { o with header.split.first := v }

def Object.setParentID (o : Object τ₁ τ₂) (v : ObjectID) : Object τ₁ τ₂ := { o with header.split.parID := v }

def Object.resetParentID (o : Object τ₁ τ₂) : Object τ₁ τ₂ := o.setParentID ObjectID.zero

def Object.setSignature (o : Object τ₁ τ₂) (v : Option Signature) : Object τ₁ τ₂ := { o with sig := v }

def Object.setID (o : Object τ₁ τ₂) (v : ObjectID) : Object τ₁ τ₂ := { o with id := v }

def Object.resetID (o : Object τ₁ τ₂) : Object τ₁ τ₂ := o.setID ObjectID.zero

def Object.setType (o : Object τ₁ τ₂) (v : ObjectType) : Object τ₁ τ₂ := { o with header.typ := v }

def Object.setPayloadChecksum (o : Object τ₁ τ₂) (v : Checksum) : Object τ₁ τ₂ := { o with header.pldHash := some v }

def Object.setPayloadSize (o : Object τ₁ τ₂) (v : Nat) : Object τ₁ τ₂ := { o with header.payloadLn := v }

def Object.setVersion (o : Object τ₁ τ₂) (v : Option Version) : Object τ₁ τ₂ := { o with header.version := v }

def Object.setContainerID (o : Object τ₁ τ₂) (v : ContainerID) : Object τ₁ τ₂ := { o with header.cnr := v }

def Object.setOwner (o : Object τ₁ τ₂) (v : UserID) : Object τ₁ τ₂ := { o with header.owner := v }

def Object.setCreationEpoch (o : Object τ₁ τ₂) (v : UInt64) : Object τ₁ τ₂ := { o with header.created := v }

def Object.setSessionToken (o : Object τ₁ τ₂) (v : Option τ₁) : Object τ₁ τ₂ := { o with header.session := v }

def Object.setSessionTokenV2 (o : Object τ₁ τ₂) (v : Option τ₂) : Object τ₁ τ₂ := { o with header.sessionV2 := v }

end Object

/- The link object's payload: `object.Link.Marshal` with the messages of proto/link. -/

structure MeasuredObject where
  id : ObjectID
  sz : UInt32

def fieldLinkMeasuredObjectID : Nat := 1
def fieldLinkMeasuredObjectSize : Nat := 2
def fieldLinkChildren : Nat := 1

structure LinkMeasuredObject where
  id : Option Proto.IDMessage
  size : UInt32

def LinkMeasuredObject.marshaledSize (x : LinkMeasuredObject) : Nat :=
  Proto.sizeEmbedded fieldLinkMeasuredObjectID x.id + Proto.sizeVarintField fieldLinkMeasuredObjectSize x.size.toUInt64

def LinkMeasuredObject.marshalStable (x : LinkMeasuredObject) : List UInt8 :=
  Proto.marshalToEmbedded fieldLinkMeasuredObjectID x.id ++
    Proto.marshalToVarint fieldLinkMeasuredObjectSize x.size.toUInt64

instance : Proto.Message LinkMeasuredObject := ⟨LinkMeasuredObject.marshaledSize, LinkMeasuredObject.marshalStable⟩

structure LinkMessage where
  children : List LinkMeasuredObject

def LinkMessage.marshaledSize (x : LinkMessage) : Nat := Proto.sizeRepeatedMessages fieldLinkChildren x.children

def LinkMessage.marshalStable (x : LinkMessage) : List UInt8 := Proto.marshalToRepeatedMessages fieldLinkChildren x.children

def idMessage (id : ObjectID) : Proto.IDMessage := ⟨id.bytes⟩

def linkMarshal (children : List MeasuredObject) : List UInt8 :=
  if children.length = 0 then []
  else (LinkMessage.mk (children.map fun child => ⟨some (idMessage child.id), child.sz⟩)).marshalStable

/- The payload metadata a writer accumulates. -/
structure DynamicObjectMetadata where
  length : Nat
  checksum : List UInt8

def newDynamicObjectMetadata : DynamicObjectMetadata := ⟨0, []⟩

def DynamicObjectMetadata.accumulateNextPayloadChunk (x : DynamicObjectMetadata) (chunk : List UInt8) :
    DynamicObjectMetadata :=
  ⟨x.length + chunk.length, x.checksum ++ chunk⟩

def DynamicObjectMetadata.reset (_ : DynamicObjectMetadata) : DynamicObjectMetadata := ⟨0, []⟩

/- Errors, options and the writer's state. -/
inductive SlicerError (ε : Type) where
  -- an error of the object writer, its streams or the split chain modifier
  | cause (e : ε)
  -- "signer %T failure: %w" of `neofscrypto.Signature.Calculate`
  | signer (e : ε)
  | io (e : IOError)
  | text (message : String)
  -- `fmt.Errorf("<context>: %w", e)`
  | wrap (context : String) (e : SlicerError ε)

section Errors

variable {ε : Type}

def errIncompleteHeader : SlicerError ε := .text "incomplete header"

def errPayloadSizeExceeded : SlicerError ε := .text "payload size exceeded"

end Errors

-- The fields of `client.PrmObjectPutInit` the slicer sets.
structure PrmObjectPutInit (τ₁ τ₂ β : Type) where
  session : Option τ₁
  sessionV2 : Option τ₂
  bearerToken : Option β

-- An ObjectWriter with state σ: `ObjectPutInit` opens the stream of one object, which then takes
-- the payload by `Write` calls and, when it is an io.Closer, a `Close`.
structure ObjectWriter (σ ε τ₁ τ₂ β : Type) where
  objectPutInit : σ → Object τ₁ τ₂ → PrmObjectPutInit τ₁ τ₂ β → Except ε σ
  write : σ → List UInt8 → Except ε σ
  close : Option (σ → Except ε σ)

-- `func(*object.Object, io.Reader) error`, given the payload the reader would return.
abbrev SplitChainModifier (ε τ₁ τ₂ : Type) := Object τ₁ τ₂ → List UInt8 → Except ε (Object τ₁ τ₂)

structure Options (ε τ₁ τ₂ β : Type) where
  objectPayloadLimit : Nat
  currentNeoFSEpoch : UInt64
  payloadBuffer : List UInt8
  sessionToken : Option τ₁
  sessionTokenV2 : Option τ₂
  bearerToken : Option β
  payloadSizeFixed : Bool
  payloadSize : Nat
  splitChainModifier : Option (SplitChainModifier ε τ₁ τ₂)

-- Where `metaWriter` sends the payload: the root metadata, or `io.MultiWriter` of both.
inductive MetaWriter where
  | root
  | rootAndChild
deriving DecidableEq

-- `PayloadWriter`, with the state of its ObjectWriter in `stream`; the context, the signer and
-- the ObjectWriter's methods are the same for the whole stream and are passed to its methods.
structure PayloadWriter (σ ε τ₁ τ₂ β : Type) where
  stream : σ
  rootID : ObjectID
  headerObject : Object τ₁ τ₂
  container : ContainerID
  owner : UserID
  currentEpoch : UInt64
  sessionToken : Option τ₁
  sessionTokenV2 : Option τ₂
  payloadBuffer : List UInt8
  extraPayloadBuffer : Option (List UInt8)
  rootMeta : DynamicObjectMetadata
  childMeta : DynamicObjectMetadata
  payloadSizeLimit : Nat
  payloadSizeFixed : Bool
  payloadSize : Nat
  metaWriter : MetaWriter
  withSplit : Bool
  firstObject : Option ObjectID
  writtenChildren : List MeasuredObject
  prmObjectPutInit : PrmObjectPutInit τ₁ τ₂ β
  stubObject : Object τ₁ τ₂
  splitChainModifier : Option (SplitChainModifier ε τ₁ τ₂)

section Writer

variable {σ ε τ₁ τ₂ β : Type}

/- Opening the stream. -/

def defaultPayloadSizeLimit : Nat := 1 <<< 20

def childPayloadSizeLimit (opts : Options ε τ₁ τ₂ β) : Nat :=
  if opts.objectPayloadLimit > 0 then opts.objectPayloadLimit else defaultPayloadSizeLimit

def headerData (header : Object τ₁ τ₂) : Except (SlicerError ε) (ContainerID × UserID) :=
  if header.header.cnr.isZero then .error (.wrap "container-id" errIncompleteHeader)
  else if header.header.owner.isZero then .error (.wrap "owner" errIncompleteHeader)
  else .ok (header.header.cnr, header.header.owner)

variable (issuer : τ₁ → UserID) (originalIssuer : τ₂ → UserID)

def withinSession (opts : Options ε τ₁ τ₂ β) (header : Object τ₁ τ₂) (owner : UserID) :
    PrmObjectPutInit τ₁ τ₂ β × Object τ₁ τ₂ × UserID :=
  match opts.sessionToken, opts.sessionTokenV2 with
  | some token, _ => (⟨some token, none, none⟩, (header.setSessionToken (some token)).setOwner (issuer token), issuer token)
  | none, some token =>
      (⟨none, some token, none⟩, (header.setSessionTokenV2 (some token)).setOwner (originalIssuer token),
        originalIssuer token)
  | none, none => (⟨none, none, opts.bearerToken⟩, header, owner)

def stubSession (opts : Options ε τ₁ τ₂ β) (stub : Object τ₁ τ₂) : Object τ₁ τ₂ :=
  match opts.sessionTokenV2, opts.sessionToken with
  | some token, _ => stub.setSessionTokenV2 (some token)
  | none, some token => stub.setSessionToken (some token)
  | none, none => stub

def initPayloadStream (stream : σ) (header : Object τ₁ τ₂) (opts : Options ε τ₁ τ₂ β) :
    Except (SlicerError ε) (PayloadWriter σ ε τ₁ τ₂ β) := do
  let (containerID, owner) ← headerData header
  if opts.sessionToken.isSome && opts.sessionTokenV2.isSome then
    throw (.text "both session token versions are set")
  let (prm, header, owner) := withinSession issuer originalIssuer opts header owner
  let header := (header.setCreationEpoch opts.currentNeoFSEpoch).setVersion (some currentVersion)
  let stubObject := stubSession opts (((((Object.zero.setVersion (some currentVersion)).setContainerID containerID).setCreationEpoch
    opts.currentNeoFSEpoch).setType typeRegular).setOwner owner)
  let limit := childPayloadSizeLimit opts
  pure {
    stream, rootID := ObjectID.zero, headerObject := header, container := containerID, owner,
    currentEpoch := opts.currentNeoFSEpoch, sessionToken := opts.sessionToken,
    sessionTokenV2 := opts.sessionTokenV2, payloadBuffer := opts.payloadBuffer,
    extraPayloadBuffer := none, rootMeta := newDynamicObjectMetadata.reset,
    childMeta := newDynamicObjectMetadata,
    payloadSizeLimit := if opts.payloadSizeFixed && decide (opts.payloadSize < limit) then opts.payloadSize else limit,
    payloadSizeFixed := opts.payloadSizeFixed, payloadSize := opts.payloadSize, metaWriter := .root,
    withSplit := false, firstObject := none, writtenChildren := [], prmObjectPutInit := prm, stubObject,
    splitChainModifier := opts.splitChainModifier }

variable (ow : ObjectWriter σ ε τ₁ τ₂ β) (signer : Signer ε) (sha256 : List UInt8 → List UInt8)
  (calculateID : Header τ₁ τ₂ → ObjectID)

def calculateSignature (data : List UInt8) : Except (SlicerError ε) Signature :=
  match signer.sign data with
  | .error e => .error (.signer e)
  | .ok value => .ok ⟨signer.publicKey, value, signer.scheme⟩

-- The payload checksum and size, the split chain modifier for a physical object, and the ID and
-- its signature. `Object.CalculateID` never fails.
def flushObjectMetadata (x : PayloadWriter σ ε τ₁ τ₂ β) (metadata : DynamicObjectMetadata) (header : Object τ₁ τ₂)
    (payloadBuffers : List (List UInt8)) (virtualObject : Bool) : Except (SlicerError ε) (Object τ₁ τ₂ × ObjectID) := do
  let header := (header.setPayloadChecksum ⟨checksumSHA256, sha256 metadata.checksum⟩).setPayloadSize metadata.length
  let header ← match x.splitChainModifier with
    | some modify =>
        if virtualObject then pure header
        else (modify header payloadBuffers.flatten).mapError fun e => .wrap "split chain modifier error" (.cause e)
    | none => pure header
  let id := calculateID header.header
  let header := header.setID id
  let sig ← (calculateSignature signer (idMessage id).marshalStable).mapError (.wrap "sign object ID")
  pure (header.setSignature (some sig), id)

def writeInMemObject (x : PayloadWriter σ ε τ₁ τ₂ β) (header : Object τ₁ τ₂) (payloadBuffers : List (List UInt8))
    (metadata : DynamicObjectMetadata) : Except (SlicerError ε) (σ × ObjectID) := do
  let (header, id) ←
    if header.id.isZero || header.sig.isNone then
      flushObjectMetadata signer sha256 calculateID x metadata header payloadBuffers false
    else pure (header, header.id)
  let w ← (ow.objectPutInit x.stream header x.prmObjectPutInit).mapError
    fun e => .wrap "init data stream for next object" (.cause e)
  let w ← payloadBuffers.foldlM (fun w buf => (ow.write w buf).mapError fun e => .wrap "write object payload" (.cause e)) w
  match ow.close with
  | some close => do
      let w ← (close w).mapError fun e => .wrap "finish object stream" (.cause e)
      pure (w, id)
  | none => pure (w, id)

-- The header `_writeChild` starts from: the stub with its split fields reset, then, in a
-- split, the parent header for the first child or the first child's ID for the others, and the
-- ID of the child written before.
def childHeader (stub header : Object τ₁ τ₂) (withSplit : Bool) (first previous : Option ObjectID) : Object τ₁ τ₂ :=
  let obj := (((((stub.setSplitID []).resetPreviousID).setParent none).resetParentID).setSignature none).resetID
  let obj :=
    if withSplit then
      match first with
      | none => obj.setParent (some header)
      | some first => obj.setFirstID first
    else obj
  match previous with
  | some previous => obj.setPreviousID previous
  | none => obj

def PayloadWriter.newChild (x : PayloadWriter σ ε τ₁ τ₂ β) : Object τ₁ τ₂ :=
  childHeader x.stubObject x.headerObject x.withSplit x.firstObject (x.writtenChildren.getLast?.map (·.id))

-- `_writeChild`: a child of the split chain, the last one with the root header and its link, or
-- the whole object when the payload was never split.
def writeChild (x : PayloadWriter σ ε τ₁ τ₂ β) (metadata : DynamicObjectMetadata) (payloadBuffers : List (List UInt8))
    (last : Bool) : Except (SlicerError ε) (PayloadWriter σ ε τ₁ τ₂ β) := do
  let obj := x.newChild
  let (x, obj) ←
    if last then do
      let (headerObject, rootID) ← (flushObjectMetadata signer sha256 calculateID x x.rootMeta x.headerObject
        payloadBuffers x.withSplit).mapError (.wrap "form root object")
      let x := { x with headerObject, rootID }
      pure (x, if x.withSplit then (obj.setParentID rootID).setParent (some headerObject) else headerObject)
    else pure (x, obj)
  let (stream, id) ← (writeInMemObject ow signer sha256 calculateID x obj payloadBuffers metadata).mapError
    (.wrap "write formed object")
  let x := { x with stream }
  let x := if x.withSplit && x.firstObject.isNone then { x with firstObject := some id } else x
  let x := { x with writtenChildren := x.writtenChildren ++ [⟨id, UInt32.ofNat metadata.length⟩] }
  if x.withSplit && last then
    let obj := ((obj.setType typeLink).resetPreviousID.resetID).setSignature none
    let payload := linkMarshal x.writtenChildren
    if payload.length > x.payloadSizeLimit then
      throw (.text ("link's payload exceeds max available size: " ++ toString payload.length ++ " > " ++
        toString x.payloadSizeLimit))
    let metadata := metadata.reset.accumulateNextPayloadChunk payload
    let (stream, _) ← (writeInMemObject ow signer sha256 calculateID x obj [payload] metadata).mapError
      (.wrap "write linking object")
    pure { x with stream }
  else pure x

theorem write_child_with_split {x x' : PayloadWriter σ ε τ₁ τ₂ β} {metadata : DynamicObjectMetadata}
    {payloadBuffers : List (List UInt8)} {last : Bool}
    (written : writeChild ow signer sha256 calculateID x metadata payloadBuffers last = .ok x') :
    x'.withSplit = x.withSplit := by
  unfold writeChild at written
  simp only [bind, Except.bind, pure, Except.pure, Except.mapError] at written
  -- Each branch fails or returns x with only its stream, root, first object and children set.
  repeat' split at written
  all_goals first | (cases written; done) | (cases written; rfl)

def PayloadWriter.buffered (x : PayloadWriter σ ε τ₁ τ₂ β) : Nat :=
  if x.withSplit then x.childMeta.length else x.rootMeta.length

def PayloadWriter.metaWrite (x : PayloadWriter σ ε τ₁ τ₂ β) (chunk : List UInt8) : PayloadWriter σ ε τ₁ τ₂ β :=
  match x.metaWriter with
  | .root => { x with rootMeta := x.rootMeta.accumulateNextPayloadChunk chunk }
  | .rootAndChild =>
      { x with rootMeta := x.rootMeta.accumulateNextPayloadChunk chunk,
               childMeta := x.childMeta.accumulateNextPayloadChunk chunk }

-- The slices of the two buffers holding the first `buffered` bytes, as Write and Close pass them.
def PayloadWriter.payloadBuffers (x : PayloadWriter σ ε τ₁ τ₂ β) (buffered : Nat) : List (List UInt8) :=
  if buffered > 0 then
    if x.payloadBuffer.length > 0 then
      if x.payloadBuffer.length ≥ buffered then [x.payloadBuffer.take buffered]
      else [x.payloadBuffer, (x.extraPayloadBuffer.getD []).take (buffered - x.payloadBuffer.length)]
    else [(x.extraPayloadBuffer.getD []).take buffered]
  else []

-- The extra buffer as Write finds or makes it for `chunk` at `buffered`: allocated when nil and
-- grown when both buffers together are shorter than the limit.
def PayloadWriter.extraForWrite (x : PayloadWriter σ ε τ₁ τ₂ β) (buffered : Nat) (chunk : List UInt8) : List UInt8 :=
  match x.extraPayloadBuffer with
  | none => if x.payloadSizeFixed then List.replicate x.payloadSizeLimit 0 else List.replicate chunk.length 0
  | some extra =>
      if x.payloadBuffer.length + extra.length < x.payloadSizeLimit then
        copyAt (List.replicate (extra.length + x.payloadSizeLimit - buffered) 0) 0 extra
      else extra

def PayloadWriter.copyToExtra (x : PayloadWriter σ ε τ₁ τ₂ β) (buffered : Nat) (chunk : List UInt8) :
    PayloadWriter σ ε τ₁ τ₂ β × Nat :=
  let extra := x.extraForWrite buffered chunk
  let offset := buffered - x.payloadBuffer.length
  ({ x with extraPayloadBuffer := some (copyAt extra offset chunk) }, min (extra.length - offset) chunk.length)

-- The buffering branch of Write: the chunk goes into the payload buffer from `buffered` on and
-- the rest of it into the extra buffer.
def PayloadWriter.bufferChunk (x : PayloadWriter σ ε τ₁ τ₂ β) (buffered : Nat) (chunk : List UInt8) :
    PayloadWriter σ ε τ₁ τ₂ β × Nat :=
  if x.payloadBuffer.length > buffered then
    let n := min (x.payloadBuffer.length - buffered) chunk.length
    let x := { x with payloadBuffer := copyAt x.payloadBuffer buffered chunk }
    if n = chunk.length then (x, n)
    else
      let (x, copied) := x.copyToExtra (buffered + n) (chunk.drop n)
      (x, n + copied)
  else x.copyToExtra buffered chunk

set_option linter.unusedVariables false in
-- Write returns the count of bytes taken and its error; a zero limit, which no stream opened by
-- initPayloadStream reaches past the fixed size check, would make Go call Write on the same
-- chunk again without end, here `.exhausted`.
def PayloadWriter.write (x : PayloadWriter σ ε τ₁ τ₂ β) (chunk : List UInt8) :
    PayloadWriter σ ε τ₁ τ₂ β × Nat × Option (Failure (SlicerError ε)) :=
  if chunk.length = 0 then (x, 0, none)
  else if x.payloadSizeFixed && decide (x.rootMeta.length + chunk.length > x.payloadSize) then
    (x, 0, some (.error errPayloadSizeExceeded))
  else if x.buffered + chunk.length ≤ x.payloadSizeLimit then
    match (x.metaWrite chunk).bufferChunk x.buffered chunk with
    | (x₁, n) => (x₁, n, none)
  else
    let buffered := x.buffered
    let n := x.payloadSizeLimit - buffered
    let x₁ := x.metaWrite (chunk.take n)
    let payloadBuffers := x₁.payloadBuffers buffered ++ (if n > 0 then [chunk.take n] else [])
    let first := !x₁.withSplit
    let x₂ := { x₁ with withSplit := true }
    match written : writeChild ow signer sha256 calculateID x₂ (if first then x₂.rootMeta else x₂.childMeta)
        payloadBuffers false with
    | .error e => (x₂, n, some (.error (.wrap (if first then "write 1st child" else "write next child") e)))
    | .ok child =>
        let next := if first then { child with metaWriter := .rootAndChild } else child
        let next := { next with childMeta := next.childMeta.reset }
        if stuck : n = 0 ∧ buffered = 0 then (next, n, some .exhausted)
        else
          match next.write (chunk.drop n) with
          | (x₃, n₂, err) => (x₃, n + n₂, err)
termination_by (chunk.length, x.buffered)
decreasing_by
  -- The chunk shrinks by n, or n is zero and the bytes buffered before made a whole child.
  have split : child.withSplit = true := write_child_with_split ow signer sha256 calculateID written
  rw [Prod.lex_def]
  simp only [n, buffered] at stuck
  unfold PayloadWriter.buffered at stuck ⊢
  simp only [List.length_drop, dite_eq_ite, apply_ite PayloadWriter.withSplit,
    ite_self, split, if_true, DynamicObjectMetadata.reset] at stuck ⊢
  omega

-- The extra buffer as ReadFrom finds or makes it: allocated to fill the limit when nil, and
-- grown when both buffers together are shorter than the limit.
def PayloadWriter.extraForRead (x : PayloadWriter σ ε τ₁ τ₂ β) (buffered : Nat) : List UInt8 :=
  match x.extraPayloadBuffer with
  | none => List.replicate (x.payloadSizeLimit - x.payloadBuffer.length) 0
  | some extra =>
      if x.payloadBuffer.length + extra.length < x.payloadSizeLimit then
        copyAt (List.replicate (extra.length + x.payloadSizeLimit - buffered) 0) 0 extra
      else extra

-- How many bytes ReadFrom asks the reader for next, with the extra buffer allocated or grown
-- first: a one-byte look-ahead when the buffers are full, else the room left after `buffered`.
def PayloadWriter.nextReadBuffer (x : PayloadWriter σ ε τ₁ τ₂ β) : PayloadWriter σ ε τ₁ τ₂ β × Nat :=
  let buffered := x.buffered
  if buffered = x.payloadSizeLimit ∧ x.payloadBuffer.length ≤ x.payloadSizeLimit then (x, 1)
  else if x.payloadBuffer.length > buffered then (x, x.payloadBuffer.length - buffered)
  else
    let extra := x.extraForRead buffered
    ({ x with extraPayloadBuffer := some extra }, extra.length - (buffered - x.payloadBuffer.length))

variable {ρ : Type} (r : Reader ρ)

set_option linter.unusedVariables false in
-- The loop of ReadFrom.
-- The loop of ReadFrom. The reader fills the buffer in place and Write copies the bytes read
-- onto themselves, so Write of the bytes read is what the loop does. Reading into an empty
-- buffer, which no stream opened by initPayloadStream comes to, may repeat without end: here
-- `.exhausted`.
def PayloadWriter.readFromLoop (x : PayloadWriter σ ε τ₁ τ₂ β) (s : ρ) (writtenBytes : Nat) :
    PayloadWriter σ ε τ₁ τ₂ β × ρ × Nat × Option (Failure (SlicerError ε)) :=
  match x.nextReadBuffer with
  | (x, bufLen) =>
      if positive : 0 < bufLen then
        match read : r.read s bufLen with
        | (s', data, err) =>
            match (if data.length > 0 then x.write ow signer sha256 calculateID data else (x, 0, none)) with
            | (x, n, some e) => (x, s', writtenBytes + n, some e)
            | (x, n, none) =>
                match err with
                | some .eof => (x, s', writtenBytes + n, none)
                | some e => (x, s', writtenBytes + n, some (.error (.wrap "read payload chunk" (.io e))))
                | none => x.readFromLoop s' (writtenBytes + n)
      else (x, s, writtenBytes, some .exhausted)
termination_by r.remaining s
decreasing_by
  have progress := r.progress s bufLen positive
  rw [read] at progress
  exact progress rfl

def PayloadWriter.readFrom (x : PayloadWriter σ ε τ₁ τ₂ β) (s : ρ) :
    PayloadWriter σ ε τ₁ τ₂ β × ρ × Nat × Option (Failure (SlicerError ε)) :=
  x.readFromLoop ow signer sha256 calculateID r s 0

def PayloadWriter.close (x : PayloadWriter σ ε τ₁ τ₂ β) : Except (SlicerError ε) (PayloadWriter σ ε τ₁ τ₂ β) :=
  if x.payloadSizeFixed && decide (x.rootMeta.length < x.payloadSize) then .error (.io .unexpectedEOF)
  else writeChild ow signer sha256 calculateID x (if x.withSplit then x.childMeta else x.rootMeta)
    (x.payloadBuffers x.buffered) true

-- `slice`: the root ID and the object writer's state after the whole stream.
def slice (stream : σ) (header : Object τ₁ τ₂) (opts : Options ε τ₁ τ₂ β) (s : ρ) :
    Except (Failure (SlicerError ε)) (ObjectID × σ) :=
  match initPayloadStream issuer originalIssuer stream header opts with
  | .error e => .error (.error (.wrap "init writter" e))
  | .ok writer =>
      match writer.readFrom ow signer sha256 calculateID r s with
      | (_, _, _, some e) => .error e
      | (writer, _, _, none) =>
          if writer.payloadSizeFixed && decide (writer.rootMeta.length < writer.payloadSize) then
            .error (.error (.io .unexpectedEOF))
          else
            match writer.close ow signer sha256 calculateID with
            | .error e => .error (.error (.wrap "writer close" e))
            | .ok writer => .ok (writer.rootID, writer.stream)

end Writer

end NeoFS.Slicer
