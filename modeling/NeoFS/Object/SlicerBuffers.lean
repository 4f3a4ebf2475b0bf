import NeoFS.Object.Slicer

set_option autoImplicit false

/- The buffers of a PayloadWriter. The payload buffer and the extra buffer read as one array,
   the view, whose first `buffered` bytes are the part of the payload not yet sent; Valid is
   what every state the writer reaches keeps: the buffered bytes fit both the limit and the
   buffers and are the bytes the open object's metadata has taken. Each branch of Write and the
   allocation of ReadFrom keep it, and the copies of the buffering branch never fall short. -/
namespace NeoFS.Slicer

open NeoFS.Go

section Buffers

variable {σ ε τ₁ τ₂ β : Type}

def PayloadWriter.view (x : PayloadWriter σ ε τ₁ τ₂ β) : List UInt8 :=
  x.payloadBuffer ++ x.extraPayloadBuffer.getD []

def PayloadWriter.bufferedData (x : PayloadWriter σ ε τ₁ τ₂ β) : List UInt8 := x.view.take x.buffered

def PayloadWriter.openMeta (x : PayloadWriter σ ε τ₁ τ₂ β) : DynamicObjectMetadata :=
  if x.withSplit then x.childMeta else x.rootMeta

structure PayloadWriter.Valid (x : PayloadWriter σ ε τ₁ τ₂ β) : Prop where
  limit_pos : x.payloadSizeLimit = 0 → x.payloadSizeFixed = true ∧ x.payloadSize = 0
  buffered_le : x.buffered ≤ x.payloadSizeLimit
  room : x.buffered ≤ x.view.length
  root_length : x.rootMeta.length = x.rootMeta.checksum.length
  child_length : x.childMeta.length = x.childMeta.checksum.length
  metaWriter_eq : x.metaWriter = if x.withSplit then .rootAndChild else .root
  data_eq : x.bufferedData = x.openMeta.checksum

variable {x : PayloadWriter σ ε τ₁ τ₂ β} {buffered : Nat} {chunk : List UInt8}

theorem buffered_eq_open_meta (x : PayloadWriter σ ε τ₁ τ₂ β) : x.buffered = x.openMeta.length := by
  unfold PayloadWriter.buffered PayloadWriter.openMeta
  split <;> rfl

theorem payload_buffers_flatten (x : PayloadWriter σ ε τ₁ τ₂ β) (buffered : Nat) :
    (x.payloadBuffers buffered).flatten = x.view.take buffered := by
  unfold PayloadWriter.payloadBuffers PayloadWriter.view
  split_ifs with some_buffered some_buffer inside
  · simp [List.take_append_of_le_length inside]
  · rw [List.take_append, List.take_of_length_le (l := x.payloadBuffer) (by omega)]
    simp
  · rw [List.eq_nil_of_length_eq_zero (by omega : x.payloadBuffer.length = 0)]
    simp
  · rw [show buffered = 0 by omega]
    simp

theorem meta_write_root_meta (x : PayloadWriter σ ε τ₁ τ₂ β) (chunk : List UInt8) :
    (x.metaWrite chunk).rootMeta = x.rootMeta.accumulateNextPayloadChunk chunk := by
  unfold PayloadWriter.metaWrite
  split <;> rfl

theorem meta_write_open_meta (metaWriter : x.metaWriter = if x.withSplit then .rootAndChild else .root)
    (chunk : List UInt8) : (x.metaWrite chunk).openMeta = x.openMeta.accumulateNextPayloadChunk chunk := by
  unfold PayloadWriter.metaWrite PayloadWriter.openMeta
  cases split : x.withSplit <;> rw [split] at metaWriter <;> simp [metaWriter]

theorem meta_write_eq (x : PayloadWriter σ ε τ₁ τ₂ β) (chunk : List UInt8) :
    ∃ rootMeta childMeta, x.metaWrite chunk = { x with rootMeta, childMeta } := by
  unfold PayloadWriter.metaWrite
  split
  · exact ⟨_, x.childMeta, rfl⟩
  · exact ⟨_, _, rfl⟩

theorem accumulate_length (metadata : DynamicObjectMetadata) (chunk : List UInt8) :
    (metadata.accumulateNextPayloadChunk chunk).length = metadata.length + chunk.length := rfl

theorem accumulate_checksum (metadata : DynamicObjectMetadata) (chunk : List UInt8) :
    (metadata.accumulateNextPayloadChunk chunk).checksum = metadata.checksum ++ chunk := rfl

theorem copy_at_zeroes {extra : List UInt8} {k : Nat} (longer : extra.length ≤ k) :
    copyAt (List.replicate k 0) 0 extra = extra ++ List.replicate (k - extra.length) 0 := by
  rw [copyAt, List.take_zero, List.nil_append, Nat.sub_zero, Nat.zero_add,
    List.take_of_length_le (by simpa using longer), List.drop_replicate]

theorem extra_for_write_spec (after : x.payloadBuffer.length ≤ buffered) (room : buffered ≤ x.view.length)
    (fits : buffered + chunk.length ≤ x.payloadSizeLimit) :
    buffered - x.payloadBuffer.length + chunk.length ≤ (x.extraForWrite buffered chunk).length ∧
      (x.extraForWrite buffered chunk).take (buffered - x.payloadBuffer.length) =
        (x.extraPayloadBuffer.getD []).take (buffered - x.payloadBuffer.length) := by
  unfold PayloadWriter.view at room
  unfold PayloadWriter.extraForWrite
  cases held : x.extraPayloadBuffer with
  | none =>
      -- Without an extra buffer the buffered bytes end where the payload buffer does.
      rw [held, Option.getD_none, List.append_nil] at room
      have start : buffered - x.payloadBuffer.length = 0 := by omega
      dsimp only
      rw [start]
      refine ⟨?_, by simp⟩
      split <;> simp only [List.length_replicate] <;> omega
  | some extra =>
      rw [held, Option.getD_some, List.length_append] at room
      dsimp only
      split
      case isTrue short =>
        rw [copy_at_zeroes (by omega), Option.getD_some, List.take_append_of_le_length (by omega)]
        exact ⟨by simp only [List.length_append, List.length_replicate]; omega, rfl⟩
      case isFalse long =>
        exact ⟨by omega, rfl⟩

variable (x buffered chunk) in
theorem copy_to_extra_spec (after : x.payloadBuffer.length ≤ buffered) (room : buffered ≤ x.view.length)
    (fits : buffered + chunk.length ≤ x.payloadSizeLimit) :
    ∃ extra, x.copyToExtra buffered chunk = ({ x with extraPayloadBuffer := some extra }, chunk.length) ∧
      (x.payloadBuffer ++ extra).take (buffered + chunk.length) = x.view.take buffered ++ chunk ∧
      buffered + chunk.length ≤ x.payloadBuffer.length + extra.length := by
  obtain ⟨long, kept⟩ := extra_for_write_spec after room fits
  have copied := copy_at_of_fits long
  refine ⟨copyAt (x.extraForWrite buffered chunk) (buffered - x.payloadBuffer.length) chunk, ?_, ?_, ?_⟩
  · simp only [PayloadWriter.copyToExtra, Nat.min_eq_right (by omega :
      chunk.length ≤ (x.extraForWrite buffered chunk).length - (buffered - x.payloadBuffer.length))]
  · have prefixLength : (x.payloadBuffer ++ (x.extraForWrite buffered chunk).take
        (buffered - x.payloadBuffer.length)).length = buffered := by
      simp only [List.length_append, List.length_take]
      omega
    rw [copied, ← List.append_assoc, ← List.append_assoc, List.take_append_of_le_length (by simp; omega),
      List.take_of_length_le (by simp only [List.length_append] at prefixLength ⊢; omega),
      PayloadWriter.view, List.take_append, List.take_of_length_le after, kept, List.append_assoc]
  · rw [length_copy_at (by omega)]
    omega

variable (x buffered chunk) in
theorem buffer_chunk_spec (room : buffered ≤ x.view.length) (fits : buffered + chunk.length ≤ x.payloadSizeLimit) :
    ∃ payloadBuffer extra,
      x.bufferChunk buffered chunk = ({ x with payloadBuffer, extraPayloadBuffer := extra }, chunk.length) ∧
        payloadBuffer.length = x.payloadBuffer.length ∧
        (payloadBuffer ++ extra.getD []).take (buffered + chunk.length) = x.view.take buffered ++ chunk ∧
        buffered + chunk.length ≤ (payloadBuffer ++ extra.getD []).length := by
  unfold PayloadWriter.bufferChunk
  split
  case isTrue inside =>
    have before : x.view.take buffered = x.payloadBuffer.take buffered := by
      rw [PayloadWriter.view, List.take_append_of_le_length (by omega)]
    dsimp only
    split
    case isTrue whole =>
      -- The whole chunk fits in the payload buffer.
      have fitsBuffer : buffered + chunk.length ≤ x.payloadBuffer.length := by omega
      refine ⟨copyAt x.payloadBuffer buffered chunk, x.extraPayloadBuffer, by rw [whole], length_copy_at (by omega),
        ?_, ?_⟩
      · rw [copy_at_of_fits fitsBuffer, List.append_assoc,
          List.take_append_of_le_length (by simp only [List.length_append, List.length_take]; omega),
          List.take_of_length_le (by simp only [List.length_append, List.length_take]; omega), before]
      · simp only [List.length_append, length_copy_at (show buffered ≤ x.payloadBuffer.length by omega)]
        omega
    case isFalse partial_copy =>
      -- The payload buffer takes the chunk's first bytes up to its end, the extra buffer the rest.
      set filled := { x with payloadBuffer := copyAt x.payloadBuffer buffered chunk }
      have tail : x.payloadBuffer.drop (buffered + chunk.length) = [] := List.drop_eq_nil_of_le (by omega)
      have filledBuffer : filled.payloadBuffer = x.payloadBuffer.take buffered ++ chunk.take (x.payloadBuffer.length - buffered) := by
        simp only [filled, copyAt, tail, List.append_nil]
      have filledLength : filled.payloadBuffer.length = x.payloadBuffer.length := length_copy_at (by omega)
      have drop_length : (chunk.drop (min (x.payloadBuffer.length - buffered) chunk.length)).length =
          chunk.length - (x.payloadBuffer.length - buffered) := by
        simp only [List.length_drop]
        omega
      obtain ⟨extra, copied, data, fitsExtra⟩ := copy_to_extra_spec filled
        (buffered + min (x.payloadBuffer.length - buffered) chunk.length)
        (chunk.drop (min (x.payloadBuffer.length - buffered) chunk.length))
        (by rw [filledLength]; omega) (by simp only [PayloadWriter.view, List.length_append, filledLength]; omega)
        (by rw [drop_length]; simp only [filled]; omega)
      refine ⟨filled.payloadBuffer, some extra, ?_, filledLength, ?_, ?_⟩
      · rw [copied, drop_length]
        simp only [filled]
        congr 2
        omega
      · have whole : buffered + min (x.payloadBuffer.length - buffered) chunk.length +
            (chunk.drop (min (x.payloadBuffer.length - buffered) chunk.length)).length = buffered + chunk.length := by
          rw [drop_length]
          omega
        have filledView : filled.view.take (buffered + min (x.payloadBuffer.length - buffered) chunk.length) =
            filled.payloadBuffer := by
          rw [PayloadWriter.view, List.take_append_of_le_length (by omega), List.take_of_length_le (by omega)]
        rw [Option.getD_some, ← whole, data, filledView, filledBuffer, before, List.append_assoc,
          show min (x.payloadBuffer.length - buffered) chunk.length = x.payloadBuffer.length - buffered by omega,
          List.take_append_drop]
      · rw [Option.getD_some, List.length_append]
        rw [drop_length] at fitsExtra
        omega
  case isFalse after =>
    obtain ⟨extra, copied, data, fitsExtra⟩ := copy_to_extra_spec x buffered chunk (by omega) room fits
    exact ⟨x.payloadBuffer, some extra, copied, rfl, data, by simpa using fitsExtra⟩

-- ReadFrom asks for at least one byte, and its allocation keeps the buffered bytes and the
-- writer's invariant.
theorem PayloadWriter.Valid.nextReadBuffer (valid : x.Valid) :
    ∃ extra, x.nextReadBuffer = ({ x with extraPayloadBuffer := extra }, x.nextReadBuffer.2) ∧
      0 < x.nextReadBuffer.2 ∧ ({ x with extraPayloadBuffer := extra } : PayloadWriter σ ε τ₁ τ₂ β).Valid ∧
      ({ x with extraPayloadBuffer := extra } : PayloadWriter σ ε τ₁ τ₂ β).bufferedData = x.bufferedData := by
  have room := valid.room
  have bound := valid.buffered_le
  unfold PayloadWriter.view at room
  unfold PayloadWriter.nextReadBuffer
  dsimp only
  split
  case isTrue full => exact ⟨x.extraPayloadBuffer, rfl, Nat.one_pos, valid, rfl⟩
  case isFalse notFull =>
    split
    case isTrue inside => exact ⟨x.extraPayloadBuffer, rfl, by dsimp only; omega, valid, rfl⟩
    case isFalse after =>
      -- The extra buffer is allocated or grown; the bytes before `buffered` stay, and room is
      -- left after them.
      have below : x.buffered < x.payloadSizeLimit := by omega
      obtain ⟨positive, kept⟩ : 0 < (x.extraForRead x.buffered).length - (x.buffered - x.payloadBuffer.length) ∧
          (x.extraForRead x.buffered).take (x.buffered - x.payloadBuffer.length) =
            (x.extraPayloadBuffer.getD []).take (x.buffered - x.payloadBuffer.length) := by
        unfold PayloadWriter.extraForRead
        cases held : x.extraPayloadBuffer with
        | none =>
            rw [held, Option.getD_none, List.append_nil] at room
            refine ⟨by simp only [List.length_replicate]; omega, ?_⟩
            rw [show x.buffered - x.payloadBuffer.length = 0 by omega]
            rfl
        | some extra =>
            rw [held, Option.getD_some, List.length_append] at room
            dsimp only
            split
            case isTrue short =>
              rw [copy_at_zeroes (by omega), Option.getD_some, List.take_append_of_le_length (by omega)]
              exact ⟨by simp only [List.length_append, List.length_replicate]; omega, rfl⟩
            case isFalse long => exact ⟨by omega, rfl⟩
      set extra := x.extraForRead x.buffered
      have data : ({ x with extraPayloadBuffer := some extra } : PayloadWriter σ ε τ₁ τ₂ β).bufferedData =
          x.bufferedData := by
        simp only [PayloadWriter.bufferedData, PayloadWriter.buffered, PayloadWriter.view, Option.getD_some]
        rw [← PayloadWriter.buffered, List.take_append, List.take_append, List.take_of_length_le (by omega), kept]
      refine ⟨some extra, rfl, positive, ?_, data⟩
      have longer : x.buffered ≤ x.payloadBuffer.length + extra.length := by omega
      exact ⟨valid.limit_pos, valid.buffered_le,
        by simp only [PayloadWriter.view, Option.getD_some, List.length_append]; exact longer,
        valid.root_length, valid.child_length, valid.metaWriter_eq, data.trans valid.data_eq⟩

theorem meta_write_lengths (valid : x.Valid) (chunk : List UInt8) :
    (x.metaWrite chunk).rootMeta.length = (x.metaWrite chunk).rootMeta.checksum.length ∧
      (x.metaWrite chunk).childMeta.length = (x.metaWrite chunk).childMeta.checksum.length := by
  unfold PayloadWriter.metaWrite
  split
  · exact ⟨by simp [accumulate_length, accumulate_checksum, valid.root_length], valid.child_length⟩
  · simp [accumulate_length, accumulate_checksum, valid.root_length, valid.child_length]

theorem buffered_meta_write (metaWriter : x.metaWriter = if x.withSplit then .rootAndChild else .root)
    (chunk : List UInt8) : (x.metaWrite chunk).buffered = x.buffered + chunk.length := by
  rw [buffered_eq_open_meta, buffered_eq_open_meta, meta_write_open_meta metaWriter, accumulate_length]

theorem PayloadWriter.Valid.bufferChunk (valid : x.Valid) (fits : x.buffered + chunk.length ≤ x.payloadSizeLimit) :
    ∃ payloadBuffer extra,
      (x.metaWrite chunk).bufferChunk x.buffered chunk =
        ({ x.metaWrite chunk with payloadBuffer, extraPayloadBuffer := extra }, chunk.length) ∧
      ({ x.metaWrite chunk with payloadBuffer, extraPayloadBuffer := extra } : PayloadWriter σ ε τ₁ τ₂ β).Valid ∧
      ({ x.metaWrite chunk with payloadBuffer, extraPayloadBuffer := extra } : PayloadWriter σ ε τ₁ τ₂ β).bufferedData =
        x.bufferedData ++ chunk := by
  obtain ⟨rootMeta, childMeta, written⟩ := meta_write_eq x chunk
  have grown := buffered_meta_write valid.metaWriter_eq chunk
  have opened := meta_write_open_meta valid.metaWriter_eq chunk
  have lengths := meta_write_lengths valid chunk
  rw [written] at grown opened lengths ⊢
  obtain ⟨payloadBuffer, extra, buffered, -, data, longer⟩ :=
    buffer_chunk_spec { x with rootMeta, childMeta } x.buffered chunk valid.room fits
  -- The buffered bytes grew by the chunk in the buffers and in the open metadata alike.
  let y : PayloadWriter σ ε τ₁ τ₂ β := { { x with rootMeta, childMeta } with payloadBuffer, extraPayloadBuffer := extra }
  have yBuffered : y.buffered = x.buffered + chunk.length := grown
  have moved : y.bufferedData = x.bufferedData ++ chunk := by
    rw [PayloadWriter.bufferedData, yBuffered]
    exact data
  refine ⟨payloadBuffer, extra, buffered, ⟨valid.limit_pos, yBuffered ▸ fits, yBuffered ▸ longer, lengths.1,
    lengths.2, valid.metaWriter_eq, ?_⟩, moved⟩
  rw [moved, valid.data_eq]
  exact (congrArg DynamicObjectMetadata.checksum opened).symm

end Buffers

end NeoFS.Slicer
