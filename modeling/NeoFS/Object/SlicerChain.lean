import NeoFS.Object.SlicerObjects
import NeoFS.Lib.Blocks

set_option autoImplicit false

/- What a PayloadWriter has written to the collector: the chain of the payload's full blocks,
   each child sealed over its block and pointing to the first child and the one before it.
   Linked ties the writer's own records (whether it split, the first child, the measured
   children, the root's running checksum) to that chain. Write then refines feeding the bytes
   to Lib.Blocks with the payload size limit as the block size: the closed blocks are the
   children written, the open one the buffered bytes. -/
namespace NeoFS.Slicer

open NeoFS.Go NeoFS.Crypto Lib.Blocks

section Chain

variable {σ ε τ₁ τ₂ β : Type}

def metadataOf (payload : List UInt8) : DynamicObjectMetadata := ⟨payload.length, payload⟩

def measured (entry : Object τ₁ τ₂ × List UInt8) : MeasuredObject := ⟨entry.1.id, UInt32.ofNat entry.2.length⟩

-- What a writer keeps from initPayloadStream to Close.
structure Settings (ε τ₁ τ₂ β : Type) where
  stubObject : Object τ₁ τ₂
  headerObject : Object τ₁ τ₂
  prmObjectPutInit : PrmObjectPutInit τ₁ τ₂ β
  payloadSizeLimit : Nat
  payloadSizeFixed : Bool
  payloadSize : Nat
  splitChainModifier : Option (SplitChainModifier ε τ₁ τ₂)

def PayloadWriter.settings (x : PayloadWriter σ ε τ₁ τ₂ β) : Settings ε τ₁ τ₂ β :=
  ⟨x.stubObject, x.headerObject, x.prmObjectPutInit, x.payloadSizeLimit, x.payloadSizeFixed, x.payloadSize,
    x.splitChainModifier⟩

theorem PayloadWriter.same_settings {x y : PayloadWriter σ ε τ₁ τ₂ β} (same : y.settings = x.settings) :
    y.stubObject = x.stubObject ∧ y.headerObject = x.headerObject ∧ y.prmObjectPutInit = x.prmObjectPutInit ∧
      y.payloadSizeLimit = x.payloadSizeLimit ∧ y.payloadSizeFixed = x.payloadSizeFixed ∧
      y.payloadSize = x.payloadSize ∧ y.splitChainModifier = x.splitChainModifier := by
  simpa only [PayloadWriter.settings, Settings.mk.injEq] using same

def PayloadWriter.blocks (x : PayloadWriter (Stored τ₁ τ₂) ε τ₁ τ₂ β) : State UInt8 :=
  ⟨x.stream.map Prod.snd, x.bufferedData⟩

variable (signer : Signer ε) (sha256 : List UInt8 → List UInt8) (calculateID : Header τ₁ τ₂ → ObjectID)
  (sign : List UInt8 → List UInt8)

def chainStep (stub header : Object τ₁ τ₂) (stored : Stored τ₁ τ₂) (block : List UInt8) : Stored τ₁ τ₂ :=
  stored ++ [(sealObject signer sha256 calculateID sign (metadataOf block)
    (childHeader stub header true (stored.head?.map (·.1.id)) (stored.getLast?.map (·.1.id))), block)]

def chain (stub header : Object τ₁ τ₂) (blocks : List (List UInt8)) : Stored τ₁ τ₂ :=
  blocks.foldl (chainStep signer sha256 calculateID sign stub header) []

structure PayloadWriter.Linked (x : PayloadWriter (Stored τ₁ τ₂) ε τ₁ τ₂ β) : Prop where
  stream_eq : x.stream = chain signer sha256 calculateID sign x.stubObject x.headerObject (x.stream.map Prod.snd)
  split_iff : x.withSplit = true ↔ x.stream ≠ []
  first_eq : x.firstObject = x.stream.head?.map (·.1.id)
  written_eq : x.writtenChildren = x.stream.map measured
  root_eq : x.rootMeta.checksum = (x.stream.map Prod.snd).flatten ++ x.bufferedData

def Sealed (entry : Object τ₁ τ₂ × List UInt8) : Prop :=
  entry.1.id = calculateID entry.1.header ∧ entry.1.header.pldHash = some ⟨checksumSHA256, sha256 entry.2⟩ ∧
    entry.1.header.payloadLn = entry.2.length ∧
    entry.1.sig = some ⟨signer.publicKey, sign (idMessage entry.1.id).marshalStable, signer.scheme⟩

variable {signer sha256 calculateID sign}

theorem sealed_seal_object (payload : List UInt8) (obj : Object τ₁ τ₂) :
    Sealed signer sha256 calculateID sign (sealObject signer sha256 calculateID sign (metadataOf payload) obj, payload) :=
  ⟨rfl, rfl, rfl, rfl⟩

theorem chain_snoc (stub header : Object τ₁ τ₂) (blocks : List (List UInt8)) (block : List UInt8) :
    chain signer sha256 calculateID sign stub header (blocks ++ [block]) =
      chainStep signer sha256 calculateID sign stub header (chain signer sha256 calculateID sign stub header blocks)
        block :=
  List.foldl_concat _ _ _ _

theorem map_snd_chain_step (stub header : Object τ₁ τ₂) (stored : Stored τ₁ τ₂) (block : List UInt8) :
    (chainStep signer sha256 calculateID sign stub header stored block).map Prod.snd =
      stored.map Prod.snd ++ [block] := by
  simp [chainStep]

variable (signer sha256 calculateID sign) in
theorem map_snd_chain (stub header : Object τ₁ τ₂) (blocks : List (List UInt8)) :
    (chain signer sha256 calculateID sign stub header blocks).map Prod.snd = blocks := by
  induction blocks using List.reverseRecOn with
  | nil => rfl
  | append_singleton blocks block ih => rw [chain_snoc, map_snd_chain_step, ih]

theorem seal_object_split (metadata : DynamicObjectMetadata) (obj : Object τ₁ τ₂) :
    (sealObject signer sha256 calculateID sign metadata obj).header.split = obj.header.split := rfl

theorem child_header_prev (stub header : Object τ₁ τ₂) (withSplit : Bool) (first : Option ObjectID)
    (previous : ObjectID) : (childHeader stub header withSplit first (some previous)).header.split.prev = previous :=
  rfl

theorem child_header_first (stub header : Object τ₁ τ₂) (first : ObjectID) (previous : Option ObjectID) :
    (childHeader stub header true (some first) previous).header.split.first = first := by
  cases previous <;> rfl

theorem child_header_parent (stub header : Object τ₁ τ₂) (previous : Option ObjectID) :
    (childHeader stub header true none previous).header.split.parHdr = some header.header := by
  cases previous <;> rfl

theorem chain_sealed (stub header : Object τ₁ τ₂) (blocks : List (List UInt8)) :
    ∀ entry ∈ chain signer sha256 calculateID sign stub header blocks, Sealed signer sha256 calculateID sign entry := by
  induction blocks using List.reverseRecOn with
  | nil => exact fun _ none => absurd none List.not_mem_nil
  | append_singleton blocks block ih =>
      intro entry mem
      rw [chain_snoc, chainStep, List.mem_append, List.mem_singleton] at mem
      rcases mem with old | new
      · exact ih entry old
      · rw [new]
        exact sealed_seal_object _ _

variable (signer sha256 calculateID sign) in
theorem chain_is_chain (stub header : Object τ₁ τ₂) (blocks : List (List UInt8)) :
    (chain signer sha256 calculateID sign stub header blocks).IsChain
      (fun before after => after.1.header.split.prev = before.1.id) := by
  induction blocks using List.reverseRecOn with
  | nil => exact List.IsChain.nil
  | append_singleton blocks block ih =>
      rw [chain_snoc, chainStep]
      refine ih.append (List.isChain_singleton _) fun last isLast next isNext => ?_
      rw [List.head?_singleton, Option.mem_some_iff] at isNext
      rw [← isNext, seal_object_split, Option.mem_def.mp isLast, Option.map_some, child_header_prev]

variable (signer sha256 calculateID sign) in
theorem chain_first (stub header : Object τ₁ τ₂) (blocks : List (List UInt8)) :
    ∀ entry ∈ (chain signer sha256 calculateID sign stub header blocks).tail,
      (chain signer sha256 calculateID sign stub header blocks).head?.map (·.1.id) = some entry.1.header.split.first := by
  induction blocks using List.reverseRecOn with
  | nil => exact fun _ none => absurd none List.not_mem_nil
  | append_singleton blocks block ih =>
      rw [chain_snoc, chainStep]
      cases stored : chain signer sha256 calculateID sign stub header blocks with
      | nil => exact fun _ none => absurd none List.not_mem_nil
      | cons head rest =>
          rw [stored] at ih
          intro entry mem
          rw [List.cons_append, List.tail_cons, List.mem_append, List.mem_singleton] at mem
          rcases mem with old | new
          · exact ih entry old
          · rw [new, seal_object_split]
            simp only [List.cons_append, List.head?_cons, Option.map_some, child_header_first]

variable (signer sha256 calculateID sign) in
theorem chain_head_parent (stub header : Object τ₁ τ₂) (blocks : List (List UInt8)) (nonempty : blocks ≠ []) :
    (chain signer sha256 calculateID sign stub header blocks).head?.map (·.1.header.split.parHdr) =
      some (some header.header) := by
  induction blocks using List.reverseRecOn with
  | nil => exact absurd rfl nonempty
  | append_singleton blocks block ih =>
      rw [chain_snoc, chainStep]
      cases stored : chain signer sha256 calculateID sign stub header blocks with
      | nil =>
          rw [List.nil_append, List.head?_singleton, Option.map_some, seal_object_split, List.head?_nil,
            Option.map_none, child_header_parent]
      | cons head rest =>
          have earlier : blocks ≠ [] := by
            intro none
            rw [none] at stored
            cases stored
          rw [← stored, List.head?_append_of_ne_nil _ (by rw [stored]; exact List.cons_ne_nil _ _)]
          exact ih earlier

variable {x : PayloadWriter (Stored τ₁ τ₂) ε τ₁ τ₂ β} {chunk : List UInt8}

theorem PayloadWriter.Valid.length_buffered_data (valid : x.Valid) : x.bufferedData.length = x.buffered := by
  rw [PayloadWriter.bufferedData, List.length_take, Nat.min_eq_left valid.room]

theorem PayloadWriter.Valid.open_meta_eq (valid : x.Valid) : x.openMeta = metadataOf x.bufferedData := by
  have lengths : x.openMeta.length = x.openMeta.checksum.length := by
    unfold PayloadWriter.openMeta
    split
    exacts [valid.child_length, valid.root_length]
  calc x.openMeta = ⟨x.openMeta.length, x.openMeta.checksum⟩ := rfl
    _ = metadataOf x.bufferedData := by rw [lengths, valid.data_eq]; rfl

theorem accumulate_metadata_of (payload chunk : List UInt8) :
    (metadataOf payload).accumulateNextPayloadChunk chunk = metadataOf (payload ++ chunk) := by
  simp only [metadataOf, DynamicObjectMetadata.accumulateNextPayloadChunk, List.length_append]

theorem flatten_take_if (chunk : List UInt8) (n : Nat) :
    (if n > 0 then [chunk.take n] else []).flatten = chunk.take n := by
  split
  · exact List.flatten_singleton
  · rw [show n = 0 by omega, List.take_zero, List.flatten_nil]

theorem write_exceeded (nonempty : chunk.length ≠ 0)
    (fixed : x.payloadSizeFixed = true) (past : x.payloadSize < x.rootMeta.length + chunk.length) :
    x.write collector signer sha256 calculateID chunk = (x, 0, some (.error errPayloadSizeExceeded)) := by
  rw [PayloadWriter.write, if_neg nonempty, if_pos (by simpa [fixed] using past)]

-- Write's state after it stored `child` over a full block and opened the next child, the root's
-- metadata having taken the block.
def PayloadWriter.flushed (x : PayloadWriter (Stored τ₁ τ₂) ε τ₁ τ₂ β) (child : Object τ₁ τ₂) (block : List UInt8)
    (rootMeta : DynamicObjectMetadata) : PayloadWriter (Stored τ₁ τ₂) ε τ₁ τ₂ β :=
  { x with stream := x.stream ++ [(child, block)], rootMeta, childMeta := x.childMeta.reset,
           metaWriter := .rootAndChild, withSplit := true, firstObject := x.firstObject.or (some child.id),
           writtenChildren := x.writtenChildren ++ [⟨child.id, UInt32.ofNat block.length⟩] }

section Collector

variable (signs : ∀ data, signer.sign data = .ok (sign data)) (plain : x.splitChainModifier = none)
include signs plain

theorem write_of_overflow (valid : x.Valid) (nonempty : chunk.length ≠ 0)
    (fits : ¬(x.payloadSizeFixed && decide (x.rootMeta.length + chunk.length > x.payloadSize)) = true)
    (overflows : x.payloadSizeLimit < x.buffered + chunk.length) (positive : 0 < x.payloadSizeLimit) :
    x.write collector signer sha256 calculateID chunk =
      match (x.flushed (sealObject signer sha256 calculateID sign
                (metadataOf (x.bufferedData ++ chunk.take (x.payloadSizeLimit - x.buffered)))
                (childHeader x.stubObject x.headerObject true x.firstObject (x.writtenChildren.getLast?.map (·.id))))
              (x.bufferedData ++ chunk.take (x.payloadSizeLimit - x.buffered))
              (x.rootMeta.accumulateNextPayloadChunk (chunk.take (x.payloadSizeLimit - x.buffered)))).write
            collector signer sha256 calculateID (chunk.drop (x.payloadSizeLimit - x.buffered)) with
      | (x₃, n₂, err) => (x₃, x.payloadSizeLimit - x.buffered + n₂, err) := by
  obtain ⟨rootMeta, childMeta, written⟩ := meta_write_eq x (chunk.take (x.payloadSizeLimit - x.buffered))
  have rooted : rootMeta = x.rootMeta.accumulateNextPayloadChunk (chunk.take (x.payloadSizeLimit - x.buffered)) := by
    rw [← meta_write_root_meta, written]
  -- The metadata of the child is the open one, which has taken the whole block.
  have opened := meta_write_open_meta valid.metaWriter_eq (chunk.take (x.payloadSizeLimit - x.buffered))
  rw [written, valid.open_meta_eq, accumulate_metadata_of] at opened
  have metadata : (if (!x.withSplit) = true then rootMeta else childMeta) =
      metadataOf (x.bufferedData ++ chunk.take (x.payloadSizeLimit - x.buffered)) := by
    unfold PayloadWriter.openMeta at opened
    revert opened
    dsimp only
    cases x.withSplit <;> exact id
  have payload : (({ x with rootMeta, childMeta } : PayloadWriter (Stored τ₁ τ₂) ε τ₁ τ₂ β).payloadBuffers x.buffered ++
      if x.payloadSizeLimit - x.buffered > 0 then [chunk.take (x.payloadSizeLimit - x.buffered)] else []).flatten =
        x.bufferedData ++ chunk.take (x.payloadSizeLimit - x.buffered) := by
    rw [List.flatten_append, payload_buffers_flatten, flatten_take_if]
    rfl
  have metaWriter := valid.metaWriter_eq
  subst rooted
  rw [PayloadWriter.write, if_neg nonempty, if_neg fits, if_neg (by omega)]
  dsimp only
  rw [written]
  dsimp only
  split
  case h_1 e failed =>
    simp (disch := exact plain) only [write_child_intermediate signs] at failed
    cases failed
  case h_2 child done =>
    simp (disch := exact plain) only [write_child_intermediate signs] at done
    cases done
    rw [dif_neg (by omega), metadata]
    simp only [PayloadWriter.recordChild, payload, PayloadWriter.flushed]
    -- A first child also switches the meta writer to both metadata; a later one finds it so.
    revert metaWriter
    cases x.withSplit <;> cases x.firstObject <;> intro metaWriter <;>
      simp only [metaWriter, Bool.not_false, Bool.not_true, Bool.true_and, Option.isNone_none, Option.isNone_some,
        if_true, if_false, Bool.false_eq_true, Option.or]
    all_goals rfl

end Collector

theorem PayloadWriter.Valid.flushed (valid : x.Valid) (child : Object τ₁ τ₂) (block chunk : List UInt8) :
    (x.flushed child block (x.rootMeta.accumulateNextPayloadChunk chunk)).Valid where
  limit_pos := valid.limit_pos
  buffered_le := Nat.zero_le _
  room := Nat.zero_le _
  root_length := by
    simp only [PayloadWriter.flushed, accumulate_length, accumulate_checksum, List.length_append, valid.root_length]
  child_length := rfl
  metaWriter_eq := rfl
  data_eq := rfl

theorem flushed_buffered (child : Object τ₁ τ₂) (block : List UInt8) (rootMeta : DynamicObjectMetadata) :
    (x.flushed child block rootMeta).buffered = 0 := rfl

theorem flushed_blocks (child : Object τ₁ τ₂) (block : List UInt8) (rootMeta : DynamicObjectMetadata) :
    (x.flushed child block rootMeta).blocks = ⟨x.blocks.closed ++ [block], []⟩ := by
  simp [PayloadWriter.blocks, PayloadWriter.flushed, PayloadWriter.bufferedData, PayloadWriter.buffered,
    DynamicObjectMetadata.reset]

theorem PayloadWriter.Linked.previous (linked : x.Linked signer sha256 calculateID sign) :
    x.writtenChildren.getLast?.map (·.id) = x.stream.getLast?.map (·.1.id) := by
  rw [linked.written_eq, List.getLast?_map, Option.map_map]
  rfl

theorem PayloadWriter.Linked.flushed (linked : x.Linked signer sha256 calculateID sign) {block chunk : List UInt8}
    (filled : block = x.bufferedData ++ chunk) :
    (x.flushed (sealObject signer sha256 calculateID sign (metadataOf block)
        (childHeader x.stubObject x.headerObject true x.firstObject (x.writtenChildren.getLast?.map (·.id))))
      block (x.rootMeta.accumulateNextPayloadChunk chunk)).Linked signer sha256 calculateID sign := by
  have stored : x.stream ++ [(sealObject signer sha256 calculateID sign (metadataOf block)
      (childHeader x.stubObject x.headerObject true x.firstObject (x.writtenChildren.getLast?.map (·.id))), block)] =
        chainStep signer sha256 calculateID sign x.stubObject x.headerObject x.stream block := by
    rw [chainStep, linked.first_eq, linked.previous]
  refine ⟨?_, ?_, ?_, ?_, ?_⟩
  · -- the chain of the old blocks with the new one after them
    simp only [PayloadWriter.flushed]
    rw [stored, map_snd_chain_step, chain_snoc, ← linked.stream_eq]
  · simp [PayloadWriter.flushed]
  · simp only [PayloadWriter.flushed, linked.first_eq, List.head?_append]
    cases x.stream <;> rfl
  · simp [PayloadWriter.flushed, linked.written_eq, measured, metadataOf]
  · simp only [PayloadWriter.flushed, accumulate_checksum, linked.root_eq, List.map_append, List.flatten_append,
      filled]
    simp [PayloadWriter.bufferedData, PayloadWriter.buffered, DynamicObjectMetadata.reset]

theorem PayloadWriter.Valid.write_buffered (valid : x.Valid) (linked : x.Linked signer sha256 calculateID sign)
    (nonempty : chunk.length ≠ 0)
    (fits : ¬(x.payloadSizeFixed && decide (x.rootMeta.length + chunk.length > x.payloadSize)) = true)
    (room : x.buffered + chunk.length ≤ x.payloadSizeLimit) :
    ∃ y, x.write collector signer sha256 calculateID chunk = (y, chunk.length, none) ∧ y.Valid ∧
      y.Linked signer sha256 calculateID sign ∧ y.blocks = ⟨x.blocks.closed, x.blocks.pending ++ chunk⟩ ∧
      y.settings = x.settings ∧ y.rootMeta.length = x.rootMeta.length + chunk.length := by
  obtain ⟨payloadBuffer, extra, buffered, valid', data⟩ := valid.bufferChunk room
  obtain ⟨rootMeta, childMeta, written⟩ := meta_write_eq x chunk
  have rooted : rootMeta = x.rootMeta.accumulateNextPayloadChunk chunk := by
    rw [← meta_write_root_meta, written]
  rw [written] at buffered valid' data
  subst rooted
  refine ⟨_, ?_, valid', ⟨linked.stream_eq, linked.split_iff, linked.first_eq, linked.written_eq, ?_⟩, ?_, rfl, rfl⟩
  · rw [PayloadWriter.write, if_neg nonempty, if_neg fits, if_pos room, written]
    dsimp only
    rw [buffered]
  · -- The root's checksum took the chunk the buffers took.
    rw [data, accumulate_checksum, linked.root_eq, List.append_assoc]
  · rw [PayloadWriter.blocks, PayloadWriter.blocks, data]

section Collector

variable (signs : ∀ data, signer.sign data = .ok (sign data))
include signs

-- What a Write to the collector does, when the payload stays within a fixed size: it takes the
-- whole chunk, keeps both invariants and the settings, and feeds the chunk to the blocks.
theorem PayloadWriter.Valid.write_spec {x : PayloadWriter (Stored τ₁ τ₂) ε τ₁ τ₂ β} (chunk : List UInt8)
    (valid : x.Valid) (plain : x.splitChainModifier = none) (linked : x.Linked signer sha256 calculateID sign)
    (fits : x.payloadSizeFixed = true → x.rootMeta.length + chunk.length ≤ x.payloadSize) :
    ∃ y, x.write collector signer sha256 calculateID chunk = (y, chunk.length, none) ∧ y.Valid ∧
      y.Linked signer sha256 calculateID sign ∧ y.blocks = feedAll x.payloadSizeLimit x.blocks chunk ∧
      y.settings = x.settings ∧ y.rootMeta.length = x.rootMeta.length + chunk.length := by
  by_cases nonempty : chunk.length = 0
  case pos =>
    rw [List.eq_nil_of_length_eq_zero nonempty]
    exact ⟨x, by rw [PayloadWriter.write, if_pos List.length_nil]; rfl, valid, linked, rfl, rfl, rfl⟩
  have within : ¬(x.payloadSizeFixed && decide (x.rootMeta.length + chunk.length > x.payloadSize)) = true := by
    simp only [Bool.and_eq_true, decide_eq_true_eq, not_and, gt_iff_lt, not_lt]
    exact fits
  by_cases room : x.buffered + chunk.length ≤ x.payloadSizeLimit
  case pos =>
    obtain ⟨y, wrote, valid', linked', blocks, settings, rooted⟩ :=
      valid.write_buffered linked nonempty within room
    refine ⟨y, wrote, valid', linked', ?_, settings, rooted⟩
    rw [blocks, feed_all_of_fits (by rw [PayloadWriter.blocks, valid.length_buffered_data]; exact room)]
  case neg =>
    -- The limit is positive: a zero limit comes with a fixed size of zero, which no chunk fits.
    have positive : 0 < x.payloadSizeLimit := by
      by_contra zero
      obtain ⟨fixed, sized⟩ := valid.limit_pos (by omega)
      have := fits fixed
      omega
    have filled := valid.length_buffered_data
    have bounded := valid.buffered_le
    have overflows : x.payloadSizeLimit - x.buffered < chunk.length := by omega
    obtain ⟨n, hn⟩ : ∃ n, x.payloadSizeLimit - x.buffered = n := ⟨_, rfl⟩
    have rest := (valid.flushed _ (x.bufferedData ++ chunk.take n) (chunk.take n)).write_spec (chunk.drop n) plain
      (linked.flushed rfl)
      (fun fixed => by
        have := fits fixed
        simp only [PayloadWriter.flushed, accumulate_length, List.length_take, List.length_drop]
        omega)
    obtain ⟨y, wrote, valid', linked', blocks, settings, rooted⟩ := rest
    refine ⟨y, ?_, valid', linked', ?_, ?_, ?_⟩
    · rw [write_of_overflow signs plain valid nonempty within (by omega) positive, hn, wrote]
      simp only [List.length_drop]
      congr 2
      omega
    · rw [blocks, flushed_blocks, feed_all_of_overflow positive (n := n)
        (by rw [PayloadWriter.blocks]; dsimp only; omega) (show n < chunk.length from hn ▸ overflows)]
      rfl
    · rw [settings]
      rfl
    · rw [rooted]
      simp only [PayloadWriter.flushed, accumulate_length, List.length_take, List.length_drop]
      omega
termination_by (chunk.length, x.buffered)
decreasing_by
  rw [Prod.lex_def, flushed_buffered, List.length_drop]
  omega

end Collector

end Chain

end NeoFS.Slicer
