import NeoFS.Object.SlicerChain

set_option autoImplicit false

/- ReadFrom and Close of a PayloadWriter that writes to the collector. ReadFrom writes each
   read of a stream reader that ends with io.EOF, so its run feeds the whole stream to the
   blocks; Close then stores the open block: as the root object itself when the payload was
   never split, else as the last child, with the root header as its parent, and the link object
   after it. -/
namespace NeoFS.Slicer

open NeoFS.Go NeoFS.Crypto Lib.Blocks

section Spec

variable {ε τ₁ τ₂ : Type} (signer : Signer ε) (sha256 : List UInt8 → List UInt8)
  (calculateID : Header τ₁ τ₂ → ObjectID) (sign : List UInt8 → List UInt8)

def closeBlocks (stub header : Object τ₁ τ₂) (limit : Nat) (blocks : State UInt8) :
    Except (SlicerError ε) (ObjectID × Stored τ₁ τ₂) :=
  let root := sealObject signer sha256 calculateID sign (metadataOf blocks.contents) header
  if blocks.closed = [] then .ok (root.id, [(root, blocks.pending)])
  else
    let children := chain signer sha256 calculateID sign stub header blocks.closed
    let child := ((childHeader stub header true (children.head?.map (·.1.id)) (children.getLast?.map (·.1.id))).setParentID
      root.id).setParent (some root)
    let stored := children ++ [(sealObject signer sha256 calculateID sign (metadataOf blocks.pending) child, blocks.pending)]
    let payload := linkMarshal (stored.map measured)
    if payload.length > limit then
      .error (.text ("link's payload exceeds max available size: " ++ toString payload.length ++ " > " ++
        toString limit))
    else .ok (root.id, stored ++ [(sealObject signer sha256 calculateID sign (metadataOf payload) (linkHeader child), payload)])

variable {signer sha256 calculateID sign}

theorem close_blocks_single {stub header : Object τ₁ τ₂} {limit : Nat} {blocks : State UInt8}
    (single : blocks.closed = []) :
    closeBlocks signer sha256 calculateID sign stub header limit blocks =
      .ok ((sealObject signer sha256 calculateID sign (metadataOf blocks.contents) header).id,
        [(sealObject signer sha256 calculateID sign (metadataOf blocks.contents) header, blocks.contents)]) := by
  rw [closeBlocks, if_pos single, contents_of_closed single]

end Spec

theorem reset_accumulate (metadata : DynamicObjectMetadata) (payload : List UInt8) :
    metadata.reset.accumulateNextPayloadChunk payload = metadataOf payload := by
  simp only [DynamicObjectMetadata.reset, DynamicObjectMetadata.accumulateNextPayloadChunk, Nat.zero_add,
    List.nil_append, metadataOf]

section Opening

variable {ε τ₁ τ₂ β : Type} {signer : Signer ε} {sha256 : List UInt8 → List UInt8}
  {calculateID : Header τ₁ τ₂ → ObjectID} {sign : List UInt8 → List UInt8}
  {issuer : τ₁ → UserID} {originalIssuer : τ₂ → UserID}

theorem child_payload_size_limit_pos (opts : Options ε τ₁ τ₂ β) : 0 < childPayloadSizeLimit opts := by
  unfold childPayloadSizeLimit
  split
  case isTrue set => exact set
  case isFalse => decide

-- initPayloadStream opens a writer on the collector's empty store: nothing written or buffered,
-- the invariant, and the options' size settings and modifier.
theorem init_payload_stream_spec {header : Object τ₁ τ₂} {opts : Options ε τ₁ τ₂ β} {x : PayloadWriter (Stored τ₁ τ₂) ε τ₁ τ₂ β}
    (opened : initPayloadStream issuer originalIssuer ([] : Stored τ₁ τ₂) header opts = .ok x) :
    x.Valid ∧ x.stream = [] ∧ x.withSplit = false ∧ x.firstObject = none ∧ x.writtenChildren = [] ∧
      x.blocks = start ∧ x.rootMeta.length = 0 ∧ x.splitChainModifier = opts.splitChainModifier ∧
      x.payloadSizeFixed = opts.payloadSizeFixed ∧ x.payloadSize = opts.payloadSize := by
  unfold initPayloadStream at opened
  cases known : headerData header with
  | error e =>
      rw [known] at opened
      cases opened
  | ok data =>
      obtain ⟨containerID, owner⟩ := data
      rw [known, Lib.Except.ok_bind] at opened
      dsimp only at opened
      split at opened
      case isTrue => cases opened
      case isFalse =>
        cases opened
        -- A zero limit is a fixed size of zero below the child limit, which is never zero.
        have limit_pos : (if (opts.payloadSizeFixed && decide (opts.payloadSize < childPayloadSizeLimit opts)) = true then
            opts.payloadSize else childPayloadSizeLimit opts) = 0 → opts.payloadSizeFixed = true ∧ opts.payloadSize = 0 := by
          split
          case isTrue below => exact fun zero => ⟨(Bool.and_eq_true _ _).mp below |>.1, zero⟩
          case isFalse => exact fun zero => absurd zero (Nat.ne_of_gt (child_payload_size_limit_pos opts))
        exact ⟨⟨limit_pos, Nat.zero_le _, Nat.zero_le _, rfl, rfl, rfl, rfl⟩, rfl, rfl, rfl, rfl, rfl, rfl, rfl, rfl, rfl⟩

theorem init_payload_stream_linked {header : Object τ₁ τ₂} {opts : Options ε τ₁ τ₂ β}
    {x : PayloadWriter (Stored τ₁ τ₂) ε τ₁ τ₂ β}
    (opened : initPayloadStream issuer originalIssuer ([] : Stored τ₁ τ₂) header opts = .ok x) :
    x.Linked signer sha256 calculateID sign := by
  obtain ⟨valid, stream, split, first, written, -⟩ := init_payload_stream_spec opened
  have data := valid.data_eq
  rw [PayloadWriter.openMeta, split, if_neg Bool.false_ne_true] at data
  refine ⟨by rw [stream]; rfl, by simp [split, stream], by rw [first, stream]; rfl, by rw [written, stream]; rfl, ?_⟩
  rw [stream, data]
  rfl

end Opening

section Run

variable {ε τ₁ τ₂ β ρ : Type} {signer : Signer ε} {sha256 : List UInt8 → List UInt8}
  {calculateID : Header τ₁ τ₂ → ObjectID} {sign : List UInt8 → List UInt8}
  (signs : ∀ data, signer.sign data = .ok (sign data))
include signs

theorem PayloadWriter.Valid.write_read_spec {x : PayloadWriter (Stored τ₁ τ₂) ε τ₁ τ₂ β} (data : List UInt8)
    (valid : x.Valid) (plain : x.splitChainModifier = none) (linked : x.Linked signer sha256 calculateID sign)
    (fits : x.payloadSizeFixed = true → x.rootMeta.length + data.length ≤ x.payloadSize) :
    ∃ y, (if data.length > 0 then x.write collector signer sha256 calculateID data else (x, 0, none)) =
        (y, data.length, none) ∧ y.Valid ∧ y.Linked signer sha256 calculateID sign ∧
      y.blocks = feedAll x.payloadSizeLimit x.blocks data ∧ y.settings = x.settings ∧
      y.rootMeta.length = x.rootMeta.length + data.length := by
  split
  case isTrue => exact valid.write_spec signs data plain linked fits
  case isFalse empty =>
    rw [List.eq_nil_of_length_eq_zero (by omega : data.length = 0)]
    exact ⟨x, rfl, valid, linked, rfl, rfl, rfl⟩

theorem PayloadWriter.Valid.read_from_loop_spec {r : Reader ρ} {contents : ρ → List UInt8}
    (streams : r.Streams contents) (eofOnly : ∀ s n e, (r.read s n).2.2 = some e → e = .eof)
    {x : PayloadWriter (Stored τ₁ τ₂) ε τ₁ τ₂ β} (s : ρ) (writtenBytes : Nat)
    (valid : x.Valid) (plain : x.splitChainModifier = none) (linked : x.Linked signer sha256 calculateID sign)
    (fits : x.payloadSizeFixed = true → x.rootMeta.length + (contents s).length ≤ x.payloadSize) :
    ∃ y s', x.readFromLoop collector signer sha256 calculateID r s writtenBytes =
        (y, s', writtenBytes + (contents s).length, none) ∧ y.Valid ∧ y.Linked signer sha256 calculateID sign ∧
      y.blocks = feedAll x.payloadSizeLimit x.blocks (contents s) ∧ y.settings = x.settings ∧
      y.rootMeta.length = x.rootMeta.length + (contents s).length := by
  obtain ⟨extra, allocated, positive, valid₁, kept⟩ := valid.nextReadBuffer
  rw [PayloadWriter.readFromLoop]
  split
  case h_1 x₁ bufLen buffer =>
  rw [allocated, Prod.mk.injEq] at buffer
  obtain ⟨rfl, rfl⟩ := buffer
  rw [dif_pos positive]
  split
  case h_1 s' data err reading =>
  obtain ⟨consumed, ended⟩ := streams s x.nextReadBuffer.2
  rw [reading] at consumed ended
  dsimp only at consumed ended
  have linked₁ : ({ x with extraPayloadBuffer := extra } : PayloadWriter (Stored τ₁ τ₂) ε τ₁ τ₂ β).Linked
      signer sha256 calculateID sign :=
    ⟨linked.stream_eq, linked.split_iff, linked.first_eq, linked.written_eq, kept ▸ linked.root_eq⟩
  obtain ⟨y, wrote, valid', linked', blocks, settings, rooted⟩ := valid₁.write_read_spec signs data plain linked₁
    (fun fixed => by
      have := fits fixed
      rw [consumed, List.length_append] at this
      show x.rootMeta.length + data.length ≤ x.payloadSize
      omega)
  obtain ⟨-, -, -, limit, fixed, size, modifier⟩ := PayloadWriter.same_settings settings
  have reread : ({ x with extraPayloadBuffer := extra } : PayloadWriter (Stored τ₁ τ₂) ε τ₁ τ₂ β).blocks = x.blocks := by
    rw [PayloadWriter.blocks, PayloadWriter.blocks, kept]
  rw [wrote]
  dsimp only
  cases err with
  | none =>
      -- No error: the loop goes on with the rest of the stream.
      obtain ⟨z, s'', looped, valid'', linked'', blocks', settings', rooted'⟩ :=
        valid'.read_from_loop_spec streams eofOnly s' (writtenBytes + data.length)
          (modifier.trans plain) linked'
          (fun fixedY => by
            have := fits (fixed ▸ fixedY)
            rw [consumed, List.length_append] at this
            rw [rooted, size]
            exact Nat.le_trans (by simp only; omega) this)
      refine ⟨z, s'', ?_, valid'', linked'', ?_, settings'.trans settings, ?_⟩
      · rw [looped, consumed, List.length_append, Nat.add_assoc]
      · rw [blocks', blocks, limit, reread, consumed, feed_all_append]
      · rw [rooted', rooted, consumed, List.length_append, Nat.add_assoc]
  | some e =>
      -- The stream ends with io.EOF, and the read before it returned its last bytes.
      obtain rfl : e = .eof := eofOnly s x.nextReadBuffer.2 e (by rw [reading])
      rw [ended rfl, List.append_nil] at consumed
      subst consumed
      exact ⟨y, s', rfl, valid', linked', by rw [blocks, reread], settings, rooted⟩
termination_by r.remaining s
decreasing_by
  have progress := r.progress s x.nextReadBuffer.2 positive
  rw [reading] at progress
  exact progress rfl

theorem PayloadWriter.Valid.read_from_loop_exceeded {r : Reader ρ} {contents : ρ → List UInt8}
    (streams : r.Streams contents) (eofOnly : ∀ s n e, (r.read s n).2.2 = some e → e = .eof)
    {x : PayloadWriter (Stored τ₁ τ₂) ε τ₁ τ₂ β} (s : ρ) (writtenBytes : Nat)
    (valid : x.Valid) (plain : x.splitChainModifier = none) (linked : x.Linked signer sha256 calculateID sign)
    (fixed : x.payloadSizeFixed = true) (within : x.rootMeta.length ≤ x.payloadSize)
    (past : x.payloadSize < x.rootMeta.length + (contents s).length) :
    ∃ y s' n, x.readFromLoop collector signer sha256 calculateID r s writtenBytes =
      (y, s', n, some (.error errPayloadSizeExceeded)) := by
  obtain ⟨extra, allocated, positive, valid₁, kept⟩ := valid.nextReadBuffer
  rw [PayloadWriter.readFromLoop]
  split
  case h_1 x₁ bufLen buffer =>
  rw [allocated, Prod.mk.injEq] at buffer
  obtain ⟨rfl, rfl⟩ := buffer
  rw [dif_pos positive]
  split
  case h_1 s' data err reading =>
  obtain ⟨consumed, ended⟩ := streams s x.nextReadBuffer.2
  rw [reading] at consumed ended
  dsimp only at consumed ended
  by_cases crossing : x.payloadSize < x.rootMeta.length + data.length
  case pos =>
    -- This read crosses the size: Write refuses it and the loop stops.
    have nonempty : data.length ≠ 0 := by omega
    rw [if_pos (Nat.pos_of_ne_zero nonempty),
      write_exceeded (x := { x with extraPayloadBuffer := extra }) nonempty fixed crossing]
    exact ⟨_, _, _, rfl⟩
  case neg =>
    have linked₁ : ({ x with extraPayloadBuffer := extra } : PayloadWriter (Stored τ₁ τ₂) ε τ₁ τ₂ β).Linked
        signer sha256 calculateID sign :=
      ⟨linked.stream_eq, linked.split_iff, linked.first_eq, linked.written_eq, kept ▸ linked.root_eq⟩
    obtain ⟨y, wrote, valid', linked', -, settings, rooted⟩ := valid₁.write_read_spec signs data plain linked₁
      (fun _ => by show x.rootMeta.length + data.length ≤ x.payloadSize; omega)
    obtain ⟨-, -, -, -, fixedY, sizeY, modifierY⟩ := PayloadWriter.same_settings settings
    rw [wrote]
    dsimp only
    cases err with
    | none =>
        exact valid'.read_from_loop_exceeded streams eofOnly s' (writtenBytes + data.length) (modifierY.trans plain) linked'
          (fixedY.trans fixed) (by rw [rooted, sizeY]; exact Nat.le_of_not_lt crossing)
          (by rw [rooted, sizeY]; rw [consumed, List.length_append] at past; exact Nat.lt_of_lt_of_le past (by simp only; omega))
    | some e =>
        -- io.EOF here would end the stream within the size.
        obtain rfl : e = .eof := eofOnly s x.nextReadBuffer.2 e (by rw [reading])
        rw [ended rfl, List.append_nil] at consumed
        rw [consumed] at past
        exact absurd past crossing
termination_by r.remaining s
decreasing_by
  have progress := r.progress s x.nextReadBuffer.2 positive
  rw [reading] at progress
  exact progress rfl

theorem PayloadWriter.Valid.close_spec {x : PayloadWriter (Stored τ₁ τ₂) ε τ₁ τ₂ β} (valid : x.Valid)
    (plain : x.splitChainModifier = none) (linked : x.Linked signer sha256 calculateID sign)
    (reached : x.payloadSizeFixed = true → x.payloadSize ≤ x.rootMeta.length) :
    (x.close collector signer sha256 calculateID).map (fun y => (y.rootID, y.stream)) =
      closeBlocks signer sha256 calculateID sign x.stubObject x.headerObject x.payloadSizeLimit x.blocks := by
  have complete : ¬(x.payloadSizeFixed && decide (x.rootMeta.length < x.payloadSize)) = true := by
    simp only [Bool.and_eq_true, decide_eq_true_eq, not_and, not_lt]
    exact reached
  -- The root is sealed over the whole payload: the closed blocks and the open one.
  have whole : x.rootMeta = metadataOf x.blocks.contents := by
    calc x.rootMeta = ⟨x.rootMeta.length, x.rootMeta.checksum⟩ := rfl
      _ = metadataOf x.blocks.contents := by rw [valid.root_length, linked.root_eq]; rfl
  have opened := valid.open_meta_eq
  have payload := payload_buffers_flatten x x.buffered
  rw [← PayloadWriter.bufferedData] at payload
  unfold PayloadWriter.close
  rw [if_neg complete]
  unfold PayloadWriter.openMeta at opened
  cases split : x.withSplit
  case false =>
    have unsplit : x.stream = [] := by simpa [split] using linked.split_iff
    rw [if_neg Bool.false_ne_true]
    rw [split, if_neg Bool.false_ne_true] at opened
    rw [write_child_whole signs plain split, closeBlocks, if_pos (by rw [PayloadWriter.blocks, unsplit]; rfl)]
    simp only [PayloadWriter.recordChild, PayloadWriter.sealedRoot, unsplit, whole, payload, Except.map, split,
      Bool.false_and, Bool.false_eq_true, if_false]
    rfl
  case true =>
    have stored : x.stream ≠ [] := linked.split_iff.mp split
    rw [if_pos rfl]
    rw [split, if_pos rfl] at opened
    -- The last child follows the chain of the full blocks.
    have child : x.newChild = childHeader x.stubObject x.headerObject true (x.stream.head?.map (·.1.id))
        (x.stream.getLast?.map (·.1.id)) := by
      rw [PayloadWriter.newChild, split, linked.first_eq, linked.previous]
    have children : chain signer sha256 calculateID sign x.stubObject x.headerObject x.blocks.closed = x.stream :=
      linked.stream_eq.symm
    have first : x.firstObject.isNone = false := by
      obtain ⟨entry, rest, cons⟩ := List.exists_cons_of_ne_nil stored
      rw [linked.first_eq, cons]
      rfl
    rw [write_child_last signs plain split]
    dsimp only [closeBlocks]
    rw [if_neg (show ¬x.blocks.closed = [] by simpa [PayloadWriter.blocks] using stored), children]
    simp only [PayloadWriter.recordChild, PayloadWriter.sealedRoot, PayloadWriter.lastChild, child, whole, opened,
      payload, split, first, reset_accumulate, Bool.true_and, Bool.false_eq_true, if_false, linked.written_eq,
      List.map_append, List.map_cons, List.map_nil, measured, metadataOf, PayloadWriter.blocks]
    split_ifs <;> rfl

variable {issuer : τ₁ → UserID} {originalIssuer : τ₂ → UserID}

theorem slice_spec {r : Reader ρ} {contents : ρ → List UInt8} (streams : r.Streams contents)
    (eofOnly : ∀ s n e, (r.read s n).2.2 = some e → e = .eof) {header : Object τ₁ τ₂} {opts : Options ε τ₁ τ₂ β}
    {s : ρ} {x : PayloadWriter (Stored τ₁ τ₂) ε τ₁ τ₂ β}
    (opened : initPayloadStream issuer originalIssuer ([] : Stored τ₁ τ₂) header opts = .ok x)
    (plain : opts.splitChainModifier = none)
    (sized : opts.payloadSizeFixed = true → (contents s).length = opts.payloadSize) :
    slice issuer originalIssuer collector signer sha256 calculateID r [] header opts s =
      (closeBlocks signer sha256 calculateID sign x.stubObject x.headerObject x.payloadSizeLimit
        (feedAll x.payloadSizeLimit start (contents s))).mapError fun e => .error (.wrap "writer close" e) := by
  obtain ⟨valid, -, -, -, -, started, empty, modifier, fixed, size⟩ := init_payload_stream_spec opened
  have linked : x.Linked signer sha256 calculateID sign := init_payload_stream_linked opened
  obtain ⟨y, s', read, valid', linked', blocks, settings, rooted⟩ :=
    valid.read_from_loop_spec signs streams eofOnly s 0 (modifier.trans plain) linked
      (fun fixedX => by rw [empty, Nat.zero_add, sized (fixed ▸ fixedX), size])
  obtain ⟨stub, kept, -, limit, fixedY, sizeY, modifierY⟩ := PayloadWriter.same_settings settings
  -- The whole stream has been written: a fixed size is reached exactly.
  have reached : y.payloadSizeFixed = true → y.payloadSize ≤ y.rootMeta.length := by
    intro fixedY'
    rw [rooted, empty, Nat.zero_add, sizeY, size, sized (fixed ▸ fixedY ▸ fixedY')]
  have complete : ¬(y.payloadSizeFixed && decide (y.rootMeta.length < y.payloadSize)) = true := by
    simp only [Bool.and_eq_true, decide_eq_true_eq, not_and, not_lt]
    exact reached
  have closed := valid'.close_spec signs (modifierY.trans (modifier.trans plain)) linked' reached
  rw [blocks, started, stub, kept, limit] at closed
  unfold slice
  rw [opened]
  dsimp only
  rw [PayloadWriter.readFrom, read]
  dsimp only
  rw [if_neg complete, ← closed]
  cases PayloadWriter.close collector signer sha256 calculateID y <;> rfl

theorem slice_exceeded {r : Reader ρ} {contents : ρ → List UInt8} (streams : r.Streams contents)
    (eofOnly : ∀ s n e, (r.read s n).2.2 = some e → e = .eof) {header : Object τ₁ τ₂} {opts : Options ε τ₁ τ₂ β}
    {s : ρ} {x : PayloadWriter (Stored τ₁ τ₂) ε τ₁ τ₂ β}
    (opened : initPayloadStream issuer originalIssuer ([] : Stored τ₁ τ₂) header opts = .ok x)
    (plain : opts.splitChainModifier = none) (fixed : opts.payloadSizeFixed = true)
    (longer : opts.payloadSize < (contents s).length) :
    slice issuer originalIssuer collector signer sha256 calculateID r [] header opts s =
      .error (.error errPayloadSizeExceeded) := by
  obtain ⟨valid, -, -, -, -, -, empty, modifier, fixedX, size⟩ := init_payload_stream_spec opened
  have linked : x.Linked signer sha256 calculateID sign := init_payload_stream_linked opened
  obtain ⟨y, s', n, read⟩ := valid.read_from_loop_exceeded signs streams eofOnly s 0
    (modifier.trans plain) linked (fixedX.trans fixed) (by rw [empty]; exact Nat.zero_le _)
    (by rw [empty, Nat.zero_add, size]; exact longer)
  unfold slice
  rw [opened]
  dsimp only
  rw [PayloadWriter.readFrom, read]

theorem slice_short {r : Reader ρ} {contents : ρ → List UInt8} (streams : r.Streams contents)
    (eofOnly : ∀ s n e, (r.read s n).2.2 = some e → e = .eof) {header : Object τ₁ τ₂} {opts : Options ε τ₁ τ₂ β}
    {s : ρ} {x : PayloadWriter (Stored τ₁ τ₂) ε τ₁ τ₂ β}
    (opened : initPayloadStream issuer originalIssuer ([] : Stored τ₁ τ₂) header opts = .ok x)
    (plain : opts.splitChainModifier = none) (fixed : opts.payloadSizeFixed = true)
    (shorter : (contents s).length < opts.payloadSize) :
    slice issuer originalIssuer collector signer sha256 calculateID r [] header opts s =
      .error (.error (.io .unexpectedEOF)) := by
  obtain ⟨valid, -, -, -, -, -, empty, modifier, fixedX, size⟩ := init_payload_stream_spec opened
  have linked : x.Linked signer sha256 calculateID sign := init_payload_stream_linked opened
  obtain ⟨y, s', read, -, -, -, settings, rooted⟩ :=
    valid.read_from_loop_spec signs streams eofOnly s 0 (modifier.trans plain) linked
      (fun _ => by rw [empty, Nat.zero_add, size]; exact Nat.le_of_lt shorter)
  obtain ⟨-, -, -, -, fixedY, sizeY, -⟩ := PayloadWriter.same_settings settings
  have incomplete : (y.payloadSizeFixed && decide (y.rootMeta.length < y.payloadSize)) = true := by
    rw [fixedY, fixedX, fixed, rooted, empty, Nat.zero_add, sizeY, size]
    simpa using shorter
  unfold slice
  rw [opened]
  dsimp only
  rw [PayloadWriter.readFrom, read]
  dsimp only
  rw [if_pos incomplete]

end Run

end NeoFS.Slicer
