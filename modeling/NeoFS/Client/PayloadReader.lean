import NeoFS.Go.Basic
import NeoFS.Proto.Buffers
import NeoFS.Proto.Messages
import NeoFS.Refs

set_option autoImplicit false

/- The PayloadReader of client/object_get.go: the payload stream of an object GET after its
   heading part. The chunk messages of the stream are given by what recvRawChunk makes of them:
   the payload of each chunk part in order, and then the error that ends the stream (io.EOF when
   the server finished it), which RecvMsg then keeps returning. A hash.Hash is the bytes written
   into it so far; its Sum is SHA-256 of them, a parameter here. Go's int is Int64, so that the
   conversion of a uint64 length wraps as the code's int(...) does. -/
namespace NeoFS.Client

open Proto Go

-- The error texts of object_get.go and errors.go that the reader returns.
def errPayloadSizeOverflow : IOError := .other "payload size overflow"
def errChecksumMismatch : IOError := .other "received payload mismatches checksum from header"
def errHeaderMismatchesID : IOError := .other "received header mismatches ID"
def errMissingPayloadHash : IOError := .other "missing payload hash in header"

def missingResponseField (name : String) : IOError := .other ("missing " ++ name ++ " field in the response")

structure PayloadReader where
  chunks : List BuffersSlice
  ending : IOError
  err : Option IOError
  tail : BuffersSlice
  rng : Option Range
  extendedRange : Option ExtendedRange
  remainingPayloadLen : Int64
  enforcePayloadLen : Bool
  requestedOID : ObjectID
  hasRange : Bool
  payloadOnly : Bool
  verifyChecksums : Bool
  payloadHashCheck : List UInt8
  payloadHashGot : List UInt8

namespace PayloadReader

variable (sha256 : List UInt8 → List UInt8)

/-- `recvRawChunk`: the next chunk's payload with `x.err` set to nil, or nothing with `x.err` set
to the error that ends the stream. -/
def recvRawChunk (x : PayloadReader) : Option BuffersSlice × PayloadReader :=
  match x.chunks with
  | [] => (none, { x with err := some x.ending })
  | chunk :: rest => (some chunk, { x with chunks := rest, err := none })

-- `chunk.payload.WriteTo(x.payloadHashGot)` when checksums are verified.
def hashChunk (chunk : BuffersSlice) (x : PayloadReader) : PayloadReader :=
  if x.verifyChecksums then { x with payloadHashGot := x.payloadHashGot ++ chunk.writeTo.flatten } else x

/-- The turn of the readChunk loop on a non-empty chunk with `read` bytes already in a buffer of
length bufLen: the chunk is hashed, n of its bytes are copied, and what is left of it is
retained as the tail. -/
def copyChunk (bufLen read : Nat) (chunk : BuffersSlice) (x : PayloadReader) : Nat × List UInt8 × PayloadReader :=
  let x := x.hashChunk chunk
  let chunkLen := chunk.len
  let n := min (bufLen - read) chunkLen
  let cut := chunk.moveNextMethod n
  (n, cut.1.data, if n = chunkLen then x else { x with tail := cut.2.2 })

theorem recv_raw_chunk_chunks_lt {x x' : PayloadReader} {chunk : BuffersSlice}
    (received : x.recvRawChunk = (some chunk, x')) : x'.chunks.length < x.chunks.length := by
  unfold recvRawChunk at received
  split at received
  · cases received
  · rename_i rest split
    cases received
    simp [split]

theorem copy_chunk_chunks (bufLen read : Nat) (chunk : BuffersSlice) (x : PayloadReader) :
    (x.copyChunk bufLen read chunk).2.2.chunks = x.chunks := by
  simp only [copyChunk, hashChunk]
  split_ifs <;> rfl

set_option linter.unusedVariables false in
/-- The for loop of readChunk: it receives chunks, skipping empty ones, until the buffer is full
or the stream ends. It returns how many bytes are in the buffer, those bytes, and whether it
was filled. -/
def readChunkLoop (bufLen : Nat) (x : PayloadReader) (read : Nat) (copied : List UInt8) :
    (Nat × List UInt8 × Bool) × PayloadReader :=
  match received : x.recvRawChunk with
  | (none, x') => ((read, copied, false), x')
  | (some chunk, x') =>
      if chunk.len = 0 then x'.readChunkLoop bufLen read copied
      else
        match turn : x'.copyChunk bufLen read chunk with
        | (n, sub, x'') =>
            if read + n = bufLen then ((read + n, copied ++ sub, true), x'')
            else x''.readChunkLoop bufLen (read + n) (copied ++ sub)
termination_by x.chunks.length
decreasing_by
  · exact recv_raw_chunk_chunks_lt received
  · have same := copy_chunk_chunks bufLen read chunk x'
    rw [turn] at same
    rw [same]
    exact recv_raw_chunk_chunks_lt received

def readTail (bufLen : Nat) (x : PayloadReader) : Nat × List UInt8 × PayloadReader :=
  let tailLen := x.tail.len
  if 0 < tailLen then
    let read := min bufLen tailLen
    let cut := x.tail.moveNextMethod read
    (read, cut.1.data, if read = tailLen then { x with tail := BuffersSlice.zero } else { x with tail := cut.2.2 })
  else (0, [], x)

/-- `readChunk` into a buffer of length bufLen. -/
def readChunk (bufLen : Nat) (x : PayloadReader) : (Nat × List UInt8 × Bool) × PayloadReader :=
  match x.readTail bufLen with
  | (read, copied, x) => if bufLen = read then ((read, copied, true), x) else x.readChunkLoop bufLen read copied

def consumePayload (n : Nat) (x : PayloadReader) : Option IOError × PayloadReader :=
  if !x.enforcePayloadLen then (none, x)
  else
    let x := { x with remainingPayloadLen := x.remainingPayloadLen - Int64.ofNat n }
    if x.remainingPayloadLen < 0 then (some errPayloadSizeOverflow, x) else (none, x)

def close (ignoreEOF : Bool) (x : PayloadReader) : Option IOError × PayloadReader :=
  let x := { x with tail := BuffersSlice.zero }
  if x.err = some .eof then
    if ignoreEOF then (none, x)
    else if x.enforcePayloadLen && 0 < x.remainingPayloadLen then (some .unexpectedEOF, x)
    else if x.verifyChecksums && sha256 x.payloadHashGot != x.payloadHashCheck then (some errChecksumMismatch, x)
    else (x.err, x)
  else (x.err, x)

/-- `Read` into a buffer of length bufLen: the count, the bytes copied, and the error. -/
def read (bufLen : Nat) (x : PayloadReader) : (Nat × List UInt8 × Option IOError) × PayloadReader :=
  match x.readChunk bufLen with
  | ((n, copied, ok), x) =>
      match x.consumePayload n with
      | (consumeErr, x) =>
          if !ok then
            match x.close sha256 false with
            | (err, x) =>
                match consumeErr, err with
                | some consumeErr, _ => ((n, copied, some consumeErr), x)
                | none, some err => ((n, copied, some err), x)
                | none, none => ((n, copied, x.err), x)
          else ((n, copied, consumeErr), x)

/-- The WriteTo loop into w, with `written` bytes counted and `taken` the bytes w took so far; it
runs on fuel, since with a writer that reports more bytes than it was offered the code loops. -/
def writeToLoop {σ : Type} (w : Writer σ) :
    Nat → PayloadReader → σ → Nat → List UInt8 → Option ((Nat × List UInt8 × Option IOError) × PayloadReader × σ)
  | 0, _, _, _, _ => none
  | fuel + 1, x, s, written, taken =>
      let tailLen := x.tail.len
      if 0 < tailLen then
        match x.tail.writeToWriter w s with
        | (s, took, n, err) =>
            let x := { x with tail := (x.tail.moveNextMethod n).2.2 }
            let x := if x.tail.len = 0 then { x with tail := BuffersSlice.zero } else x
            match x.consumePayload n with
            | (some consumeErr, x) => some ((written + n, taken ++ took, some consumeErr), x, s)
            | (none, x) =>
                match (if err.isNone && n < tailLen then some IOError.shortWrite else err) with
                | some err => some ((written + n, taken ++ took, some err), x, s)
                | none => writeToLoop w fuel x s (written + n) (taken ++ took)
      else
        match x.recvRawChunk with
        | (none, x) =>
            match x.close sha256 false with
            | (err, x) =>
                if err = some IOError.eof then some ((written, taken, none), x, s)
                else some ((written, taken, err), x, s)
        | (some chunk, x) =>
            if chunk.len = 0 then writeToLoop w fuel x s written taken
            else
              let x := x.hashChunk chunk
              let payloadLen := chunk.len
              match chunk.writeToWriter w s with
              | (s, took, n, err) =>
                  let (x, err) :=
                    if n < payloadLen then
                      ({ x with tail := (chunk.moveNextMethod n).2.2 }, if err.isNone then some IOError.shortWrite else err)
                    else (x, err)
                  match x.consumePayload n with
                  | (some consumeErr, x) => some ((written + n, taken ++ took, some consumeErr), x, s)
                  | (none, x) =>
                      match err with
                      | some err => some ((written + n, taken ++ took, some err), x, s)
                      | none => writeToLoop w fuel x s (written + n) (taken ++ took)

/-- `Close`, less its statistics callback. -/
def closeReader (x : PayloadReader) : Option IOError × PayloadReader := x.close sha256 true

end PayloadReader

section Heading

-- What readHeader reads of the object header: its payload length and hash, and the keys of its
-- attributes, for isECPart.
structure HeaderPart where
  payloadLength : UInt64
  payloadHash : Option (List UInt8)
  attributeKeys : List String

-- `object.AttributeECRuleIndex` and `object.AttributeECPartIndex`.
def attributeECRuleIndex : String := "__NEOFS__EC_RULE_IDX"
def attributeECPartIndex : String := "__NEOFS__EC_PART_IDX"

def isECPart (hdr : HeaderPart) : Bool :=
  hdr.attributeKeys.contains attributeECRuleIndex && hdr.attributeKeys.contains attributeECPartIndex

/-- The first response as readHeader sees it: rejected with the error readHeader sets for it (Recv
failed, the status is an error, the part is a split info, a chunk or a nil init part), or an init
part with its object ID, its header and whether it carries a signature. -/
inductive Heading where
  | rejected (err : IOError)
  | init (objectId : Option ObjectID) (header : Option HeaderPart) (signed : Bool)

/-- `resolvedRangeLength`, or none where it dereferences a nil position. -/
def resolvedRangeLength (rng : Option Range) (extendedRange : Option ExtendedRange) (payloadLen : UInt64) :
    Option UInt64 :=
  match rng, extendedRange with
  | some r, _ => some r.length
  | none, none => none
  | none, some e =>
      match e.firstPos, e.lastPos with
      | some first, some last => some ((if last ≥ payloadLen then payloadLen - 1 else last) - first + 1)
      | some first, none => some (payloadLen - first)
      | none, some last => some (if last > payloadLen then payloadLen else last)
      | none, none => none

def newPayloadReader (objectID : ObjectID) (rng : Option Range) (extendedRange : Option ExtendedRange)
    (payloadOnly skipChecksumVerification : Bool) (chunks : List BuffersSlice) (ending : IOError) : PayloadReader :=
  let hasRange := rng.isSome || extendedRange.isSome
  { chunks, ending, err := none, tail := BuffersSlice.zero, rng, extendedRange,
    remainingPayloadLen := (rng.map fun r => r.length.toInt64).getD 0,
    enforcePayloadLen := !payloadOnly || rng.isSome,
    requestedOID := objectID, hasRange, payloadOnly,
    verifyChecksums := !skipChecksumVerification && !hasRange && !payloadOnly,
    payloadHashCheck := [], payloadHashGot := [] }

/-- `readHeader`, given the ID that oid.NewFromObjectHeaderBinary computes of the header and the
error that decoding the object into dst returns, neither of which this model computes; none
where the code panics. -/
def PayloadReader.readHeader (headerID : HeaderPart → ObjectID) (decodeErr : Option IOError) (heading : Heading)
    (x : PayloadReader) : Option (Bool × PayloadReader) :=
  match heading with
  | .rejected err => some (false, { x with err := some err })
  | .init none _ _ => some (false, { x with err := some (missingResponseField "object ID") })
  | .init (some _) none _ => some (false, { x with err := some (missingResponseField "header") })
  | .init (some _) (some hdr) signed =>
      if !signed && !isECPart hdr then some (false, { x with err := some (missingResponseField "signature") })
      else
        let remaining :=
          if !x.hasRange then some hdr.payloadLength.toInt64
          else (resolvedRangeLength x.rng x.extendedRange hdr.payloadLength).map UInt64.toInt64
        remaining.map fun remaining =>
          let x := { x with remainingPayloadLen := remaining, enforcePayloadLen := true, err := decodeErr }
          if decodeErr.isSome then (false, x)
          else if x.verifyChecksums then
            if headerID hdr ≠ x.requestedOID then (false, { x with err := some errHeaderMismatchesID })
            else
              match hdr.payloadHash with
              | none => (false, { x with err := some errMissingPayloadHash })
              | some sum => (true, { x with payloadHashGot := [], payloadHashCheck := sum })
          else (true, x)

end Heading

namespace PayloadReader

section ReadSpec

def chunksData (x : PayloadReader) : List UInt8 := (x.chunks.map BuffersSlice.data).flatten

def pending (x : PayloadReader) : List UInt8 := x.tail.data ++ x.chunksData

/-- The fields that reading leaves as they are. -/
structure Keeps (x x' : PayloadReader) : Prop where
  ending : x'.ending = x.ending
  enforce : x'.enforcePayloadLen = x.enforcePayloadLen
  verify : x'.verifyChecksums = x.verifyChecksums
  check : x'.payloadHashCheck = x.payloadHashCheck
  remaining : x'.remainingPayloadLen = x.remainingPayloadLen

theorem Keeps.refl (x : PayloadReader) : Keeps x x := ⟨rfl, rfl, rfl, rfl, rfl⟩

theorem Keeps.trans {x y z : PayloadReader} (first : Keeps x y) (second : Keeps y z) : Keeps x z :=
  ⟨second.ending.trans first.ending, second.enforce.trans first.enforce, second.verify.trans first.verify,
    second.check.trans first.check, second.remaining.trans first.remaining⟩

/-- What a read of at most `want` bytes did: it copied the first pending bytes, left the rest
pending, hashed what it received, and saw the end of the stream if it could not fill `want`. -/
structure ReadStep (x : PayloadReader) (want : Nat) (copied : List UInt8) (filled : Bool) (x' : PayloadReader) :
    Prop where
  copied_eq : copied = x.pending.take want
  pending_eq : x'.pending = x.pending.drop want
  filled_iff : filled = true ↔ want ≤ x.pending.length
  hashed : x.verifyChecksums = true → x'.payloadHashGot ++ x'.chunksData = x.payloadHashGot ++ x.chunksData
  ended : filled = false → x'.err = some x.ending
  keeps : Keeps x x'

@[simp]
theorem chunks_data_cons (x : PayloadReader) (chunk : BuffersSlice) (rest : List BuffersSlice) :
    chunksData { x with chunks := chunk :: rest } = chunk.data ++ chunksData { x with chunks := rest } := rfl

theorem recv_raw_chunk_none {x x' : PayloadReader} (received : x.recvRawChunk = (none, x')) :
    x.chunks = [] ∧ x' = { x with err := some x.ending } := by
  unfold recvRawChunk at received
  split at received
  · rename_i empty
    cases received
    exact ⟨empty, rfl⟩
  · cases received

theorem recv_raw_chunk_some {x x' : PayloadReader} {chunk : BuffersSlice} (received : x.recvRawChunk = (some chunk, x')) :
    ∃ rest, x.chunks = chunk :: rest ∧ x' = { x with chunks := rest, err := none } := by
  unfold recvRawChunk at received
  split at received
  · cases received
  · rename_i rest split
    cases received
    exact ⟨rest, split, rfl⟩

theorem Keeps.received (x : PayloadReader) (rest : List BuffersSlice) : Keeps x { x with chunks := rest, err := none } :=
  ⟨rfl, rfl, rfl, rfl, rfl⟩

theorem pending_of_drained {x : PayloadReader} (drained : x.tail.data = []) : x.pending = x.chunksData := by
  rw [pending, drained, List.nil_append]

theorem ReadStep.congr {x y z : PayloadReader} {want : Nat} {copied : List UInt8} {filled : Bool}
    (samePending : y.pending = x.pending) (sameChunks : y.chunksData = x.chunksData)
    (sameHash : y.payloadHashGot = x.payloadHashGot) (keeps : Keeps x y) (step : ReadStep y want copied filled z) :
    ReadStep x want copied filled z where
  copied_eq := samePending ▸ step.copied_eq
  pending_eq := samePending ▸ step.pending_eq
  filled_iff := samePending ▸ step.filled_iff
  hashed verify := by rw [step.hashed (keeps.verify.trans verify), sameChunks, sameHash]
  ended unfilled := by rw [step.ended unfilled, keeps.ending]
  keeps := keeps.trans step.keeps

theorem copy_chunk_spec {bufLen read : Nat} {chunk : BuffersSlice} {x x' : PayloadReader} {n : Nat} {sub : List UInt8}
    (turn : x.copyChunk bufLen read chunk = (n, sub, x')) :
    n = min (bufLen - read) chunk.data.length ∧ sub = chunk.data.take n ∧
      x'.tail.data = (if n = chunk.data.length then x.tail.data else chunk.data.drop n) ∧ x'.chunks = x.chunks ∧
      (x.verifyChecksums = true → x'.payloadHashGot = x.payloadHashGot ++ chunk.data) ∧ Keeps x x' := by
  have cut := BuffersSlice.move_next_method_of_le (x := chunk) (n := min (bufLen - read) chunk.len)
    (by rw [BuffersSlice.len_eq]; omega)
  simp only [copyChunk, Prod.mk.injEq] at turn
  obtain ⟨count, copied, updated⟩ := turn
  subst count copied updated
  rw [BuffersSlice.len_eq] at cut ⊢
  -- Hashing changes only the hash, and the cut only the tail.
  have hashed : ∀ y : PayloadReader, y = x.hashChunk chunk →
      y.tail = x.tail ∧ y.chunks = x.chunks ∧ (x.verifyChecksums = true → y.payloadHashGot = x.payloadHashGot ++ chunk.data) ∧
        Keeps x y := by
    rintro y rfl
    unfold hashChunk
    split_ifs with verify
    · exact ⟨rfl, rfl, fun _ => by rw [BuffersSlice.write_to_flatten], ⟨rfl, rfl, rfl, rfl, rfl⟩⟩
    · exact ⟨rfl, rfl, fun on => absurd on verify, Keeps.refl x⟩
  obtain ⟨sameTail, sameChunks, hashGot, keeps⟩ := hashed _ rfl
  refine ⟨rfl, cut.2.1, ?_, ?_, ?_, ?_⟩
  · split_ifs
    · rw [sameTail]
    · exact cut.2.2
  · split_ifs <;> exact sameChunks
  · split_ifs <;> exact hashGot
  · split_ifs
    · exact keeps
    · exact ⟨keeps.ending, keeps.enforce, keeps.verify, keeps.check, keeps.remaining⟩

/- The loop receives chunks until it has copied `bufLen - read` bytes or the stream ends; it is
   entered with the tail drained. The induction follows the loop's own recursion. -/
theorem read_chunk_loop_spec (bufLen : Nat) (x : PayloadReader) (read : Nat) (copied : List UInt8) :
    read < bufLen → x.tail.data = [] →
      ∃ new, (x.readChunkLoop bufLen read copied).1.2.1 = copied ++ new ∧
        (x.readChunkLoop bufLen read copied).1.1 = read + new.length ∧
        ReadStep x (bufLen - read) new (x.readChunkLoop bufLen read copied).1.2.2 (x.readChunkLoop bufLen read copied).2 := by
  fun_induction x.readChunkLoop bufLen read copied with
  | case1 x read copied x' received =>
      -- The stream has ended: nothing more is copied.
      intro short drained
      obtain ⟨empty, rfl⟩ := recv_raw_chunk_none received
      have nothing : x.pending = [] := by rw [pending_of_drained drained, chunksData, empty]; rfl
      refine ⟨[], by simp, by simp, ⟨?_, ?_, ?_, ?_, fun _ => rfl, ⟨rfl, rfl, rfl, rfl, rfl⟩⟩⟩
      · rw [nothing, List.take_nil]
      · rw [nothing]
        exact pending_of_drained drained ▸ (by simp [chunksData, empty])
      · rw [nothing]
        simp only [List.length_nil, Nat.le_zero, Bool.false_eq_true, false_iff]
        omega
      · intro _
        rfl
  | case2 x read copied chunk x' received empty ih =>
      -- An empty chunk is skipped.
      intro short drained
      obtain ⟨rest, split, rfl⟩ := recv_raw_chunk_some received
      obtain ⟨new, copiedEq, readEq, step⟩ := ih short drained
      have noBytes : chunk.data = [] := by rw [← List.length_eq_zero_iff, ← BuffersSlice.len_eq, empty]
      have sameChunks : chunksData { x with chunks := rest, err := none } = x.chunksData := by
        simp [chunksData, split, noBytes]
      refine ⟨new, copiedEq, readEq, step.congr ?_ sameChunks rfl (Keeps.received x rest)⟩
      rw [pending, pending, sameChunks]
  | case3 x read copied chunk x' received nonempty n sub x'' turn filled =>
      -- The chunk fills the buffer; what is left of it is retained.
      intro short drained
      obtain ⟨rest, split, rfl⟩ := recv_raw_chunk_some received
      obtain ⟨count, subEq, tailEq, chunksEq, hashEq, keeps⟩ := copy_chunk_spec turn
      have want : n = bufLen - read := by omega
      have fits : bufLen - read ≤ chunk.data.length := by omega
      have layout : x.pending = chunk.data ++ chunksData { x with chunks := rest, err := none } := by
        rw [pending_of_drained drained, chunksData, split]
        rfl
      have left : x''.pending = chunk.data.drop (bufLen - read) ++ chunksData { x with chunks := rest, err := none } := by
        rw [pending, chunksData, chunksEq, tailEq]
        split_ifs with whole
        · rw [drained, List.drop_eq_nil_of_le (by omega)]
          rfl
        · rw [want]
          rfl
      have counted : sub.length = n := by rw [subEq, List.length_take]; omega
      refine ⟨sub, rfl, by dsimp only; rw [counted], ⟨?_, ?_, ?_, ?_, (fun unfilled => by cases unfilled), ?_⟩⟩
      · rw [subEq, layout, List.take_append_of_le_length fits, want]
      · rw [left, layout, List.drop_append_of_le_length fits]
      · simp only [true_iff, layout, List.length_append]
        omega
      · intro verify
        rw [hashEq verify, chunksData, chunksEq, List.append_assoc]
        simp [chunksData, split]
      · exact (Keeps.received x rest).trans keeps
  | case4 x read copied chunk x' received nonempty n sub x'' turn unfilled ih =>
      -- The whole chunk is copied and the loop goes on.
      intro short drained
      obtain ⟨rest, split, rfl⟩ := recv_raw_chunk_some received
      obtain ⟨count, subEq, tailEq, chunksEq, hashEq, keeps⟩ := copy_chunk_spec turn
      have whole : n = chunk.data.length := by omega
      have stillDrained : x''.tail.data = [] := by rw [tailEq, if_pos whole, drained]
      obtain ⟨new, copiedEq, readEq, step⟩ := ih (by omega) stillDrained
      have subAll : sub = chunk.data := by rw [subEq, whole, List.take_length]
      have layout : x.pending = chunk.data ++ x''.pending := by
        rw [pending_of_drained drained, pending_of_drained stillDrained, chunksData, chunksData, chunksEq, split]
        rfl
      have later : bufLen - (read + n) = bufLen - read - chunk.data.length := by omega
      have takeAll : chunk.data.take (bufLen - read) = chunk.data := List.take_of_length_le (by omega)
      have dropAll : chunk.data.drop (bufLen - read) = [] := List.drop_eq_nil_of_le (by omega)
      refine ⟨sub ++ new, by rw [copiedEq, List.append_assoc], by rw [readEq, List.length_append, subAll, whole]; omega,
        ⟨?_, ?_, ?_, ?_, (fun ended => ?_), ?_⟩⟩
      · rw [step.copied_eq, later, layout, List.take_append, takeAll, subAll]
      · rw [step.pending_eq, later, layout, List.drop_append, dropAll, List.nil_append]
      · rw [step.filled_iff, later, layout, List.length_append]
        omega
      · intro verify
        rw [step.hashed (keeps.verify.trans verify), hashEq verify, List.append_assoc, ← pending_of_drained stillDrained,
          ← layout, pending_of_drained drained]
      · rw [step.ended ended, keeps.ending]
      · exact ((Keeps.received x rest).trans keeps).trans step.keeps

theorem read_tail_spec (bufLen : Nat) (x : PayloadReader) :
    (x.readTail bufLen).2.1 = x.tail.data.take bufLen ∧ (x.readTail bufLen).1 = (x.readTail bufLen).2.1.length ∧
      (x.readTail bufLen).2.2.tail.data = x.tail.data.drop bufLen ∧ (x.readTail bufLen).2.2.chunks = x.chunks ∧
      (x.readTail bufLen).2.2.payloadHashGot = x.payloadHashGot ∧ (x.readTail bufLen).2.2.err = x.err ∧
      Keeps x (x.readTail bufLen).2.2 := by
  dsimp only [readTail]
  rw [BuffersSlice.len_eq]
  split_ifs with some whole
  · -- The buffer takes the whole tail, which is dropped.
    have cut := BuffersSlice.move_next_method_of_le (x := x.tail) (n := min bufLen x.tail.data.length) (by omega)
    have covers : x.tail.data.length ≤ bufLen := by omega
    refine ⟨?_, ?_, ?_, rfl, rfl, rfl, ⟨rfl, rfl, rfl, rfl, rfl⟩⟩
    · rw [cut.2.1, whole, List.take_length, List.take_of_length_le covers]
    · rw [cut.2.1, List.length_take]
      omega
    · rw [List.drop_eq_nil_of_le covers]
      rfl
  · -- The buffer is shorter than the tail: the rest of the tail stays.
    have cut := BuffersSlice.move_next_method_of_le (x := x.tail) (n := min bufLen x.tail.data.length) (by omega)
    have within : min bufLen x.tail.data.length = bufLen := by omega
    refine ⟨?_, ?_, ?_, rfl, rfl, rfl, ⟨rfl, rfl, rfl, rfl, rfl⟩⟩
    · rw [cut.2.1, within]
    · rw [cut.2.1, List.length_take]
      omega
    · rw [cut.2.2, within]
  · -- No tail: nothing is copied.
    have nothing : x.tail.data = [] := List.eq_nil_of_length_eq_zero (by omega)
    simp only [nothing, List.take_nil, List.length_nil, List.drop_nil, true_and]
    exact Keeps.refl x

theorem read_chunk_spec (bufLen : Nat) (x : PayloadReader) :
    (x.readChunk bufLen).1.1 = (x.readChunk bufLen).1.2.1.length ∧
      ReadStep x bufLen (x.readChunk bufLen).1.2.1 (x.readChunk bufLen).1.2.2 (x.readChunk bufLen).2 := by
  obtain ⟨copiedEq, readEq, tailEq, chunksEq, hashEq, -, keeps⟩ := read_tail_spec bufLen x
  unfold readChunk
  rcases tail : x.readTail bufLen with ⟨read, copied, x'⟩
  rw [tail] at copiedEq readEq tailEq chunksEq hashEq keeps
  dsimp only at copiedEq readEq tailEq chunksEq hashEq keeps ⊢
  have sameChunks : x'.chunksData = x.chunksData := by rw [chunksData, chunksData, chunksEq]
  split_ifs with filled
  · -- The tail fills the buffer.
    have covers : bufLen ≤ x.tail.data.length := by
      rw [readEq, copiedEq, List.length_take] at filled
      omega
    refine ⟨readEq, ⟨?_, ?_, ?_, ?_, (fun unfilled => by cases unfilled), keeps⟩⟩
    · rw [copiedEq, pending, List.take_append_of_le_length covers]
    · rw [pending, pending, tailEq, sameChunks, List.drop_append_of_le_length covers]
    · simp only [true_iff, pending, List.length_append]
      omega
    · intro _
      rw [hashEq, sameChunks]
  · -- The tail is drained and the loop receives the rest.
    have short : x.tail.data.length < bufLen := by
      rw [readEq, copiedEq, List.length_take] at filled
      omega
    have drained : x'.tail.data = [] := by rw [tailEq, List.drop_eq_nil_of_le (by omega)]
    have wholeTail : copied = x.tail.data := by rw [copiedEq, List.take_of_length_le (by omega)]
    have counted : read = x.tail.data.length := by rw [readEq, wholeTail]
    obtain ⟨new, loopCopied, loopRead, step⟩ := read_chunk_loop_spec bufLen x' read copied (by omega) drained
    refine ⟨by rw [loopRead, loopCopied, List.length_append, readEq], ⟨?_, ?_, ?_, ?_, (fun ended => ?_), ?_⟩⟩
    · rw [loopCopied, step.copied_eq, pending_of_drained drained, sameChunks, counted, wholeTail, pending,
        List.take_append, List.take_of_length_le (l := x.tail.data) (by omega)]
    · have dropAll : x.tail.data.drop bufLen = [] := List.drop_eq_nil_of_le (by omega)
      rw [step.pending_eq, pending_of_drained drained, sameChunks, counted, pending, List.drop_append, dropAll,
        List.nil_append]
    · rw [step.filled_iff, pending_of_drained drained, sameChunks, counted, pending, List.length_append]
      omega
    · intro verify
      rw [step.hashed (keeps.verify.trans verify), hashEq, sameChunks]
    · rw [step.ended ended, keeps.ending]
    · exact keeps.trans step.keeps

end ReadSpec

section Delivery

variable (sha256 : List UInt8 → List UInt8)

/-- The reader has delivered `delivered` of the payload: the rest of it is pending, and with
checksums on, the hash and the chunks to come make up the whole payload. -/
structure Streamed (payload : List UInt8) (x : PayloadReader) (delivered : List UInt8) : Prop where
  rest : delivered ++ x.pending = payload
  hashed : x.verifyChecksums = true → x.payloadHashGot ++ x.chunksData = payload

def Counted (expected : Int64) (x : PayloadReader) (delivered : List UInt8) : Prop :=
  x.enforcePayloadLen = true → x.remainingPayloadLen = expected - Int64.ofNat delivered.length

/-- The settings that a whole run leaves as they are. -/
structure Settled (x x' : PayloadReader) : Prop where
  ending : x'.ending = x.ending
  enforce : x'.enforcePayloadLen = x.enforcePayloadLen
  verify : x'.verifyChecksums = x.verifyChecksums
  check : x'.payloadHashCheck = x.payloadHashCheck

theorem Settled.refl (x : PayloadReader) : Settled x x := ⟨rfl, rfl, rfl, rfl⟩

theorem Settled.trans {x y z : PayloadReader} (first : Settled x y) (second : Settled y z) : Settled x z :=
  ⟨second.ending.trans first.ending, second.enforce.trans first.enforce, second.verify.trans first.verify,
    second.check.trans first.check⟩

theorem Keeps.settled {x y : PayloadReader} (keeps : Keeps x y) : Settled x y :=
  ⟨keeps.ending, keeps.enforce, keeps.verify, keeps.check⟩

theorem ReadStep.streamed {payload : List UInt8} {x x' : PayloadReader} {delivered copied : List UInt8} {want : Nat}
    {filled : Bool} (streamed : Streamed payload x delivered) (step : ReadStep x want copied filled x') :
    Streamed payload x' (delivered ++ copied) where
  rest := by rw [List.append_assoc, step.pending_eq, step.copied_eq, List.take_append_drop, streamed.rest]
  hashed verify := by
    have on : x.verifyChecksums = true := step.keeps.verify.symm.trans verify
    rw [step.hashed on, streamed.hashed on]

theorem ReadStep.counted {expected : Int64} {x x' : PayloadReader} {delivered copied : List UInt8} {want : Nat}
    {filled : Bool} (counted : Counted expected x delivered) (step : ReadStep x want copied filled x') :
    Counted expected x' delivered := fun enforced => by
  rw [step.keeps.remaining, counted (step.keeps.enforce.symm.trans enforced)]

theorem consume_payload_spec (n : Nat) (x : PayloadReader) :
    (x.consumePayload n).2 = { x with remainingPayloadLen :=
        if x.enforcePayloadLen then x.remainingPayloadLen - Int64.ofNat n else x.remainingPayloadLen } ∧
      (x.consumePayload n).1 =
        if x.enforcePayloadLen = true ∧ x.remainingPayloadLen - Int64.ofNat n < 0 then some errPayloadSizeOverflow
        else none := by
  unfold consumePayload
  by_cases enforced : x.enforcePayloadLen = true
  · simp only [enforced, Bool.not_true, Bool.false_eq_true, if_false, if_true, true_and]
    split_ifs <;> simp
  · have skipped : (!x.enforcePayloadLen) = true := by simpa using enforced
    rw [if_pos skipped, if_neg enforced, if_neg (fun both => enforced both.1)]
    exact ⟨rfl, rfl⟩

theorem consume_payload_counted {expected : Int64} {x : PayloadReader} {delivered copied : List UInt8}
    (counted : Counted expected x delivered) :
    Counted expected (x.consumePayload copied.length).2 (delivered ++ copied) := fun enforced => by
  rw [(consume_payload_spec copied.length x).1] at enforced ⊢
  simp only at enforced ⊢
  rw [if_pos enforced, counted enforced, Int64.sub_sub, ← Int64.ofNat_add, List.length_append]

theorem close_spec (ignoreEOF : Bool) (x : PayloadReader) :
    (x.close sha256 ignoreEOF).2 = { x with tail := BuffersSlice.zero } ∧
      (x.close sha256 ignoreEOF).1 =
        if x.err = some .eof then
          if ignoreEOF then none
          else if x.enforcePayloadLen && decide (0 < x.remainingPayloadLen) then some .unexpectedEOF
          else if x.verifyChecksums && sha256 x.payloadHashGot != x.payloadHashCheck then some errChecksumMismatch
          else x.err
        else x.err := by
  by_cases eof : x.err = some .eof
  · simp only [close, eof, if_true]
    split_ifs <;> simp
  · simp only [close, eof, if_false, and_self]

/-- What Read returns as its error, by how much has been delivered in all and whether the buffer
was filled: an overflow of the expected length first; then, if the stream ended, what close
reports for its end. -/
def readOutcome (x : PayloadReader) (payload : List UInt8) (expected : Int64) (total : Nat) (filled : Bool) :
    Option IOError :=
  if x.enforcePayloadLen && decide (expected - Int64.ofNat total < 0) then some errPayloadSizeOverflow
  else if filled then none
  else if x.ending = .eof then
    if x.enforcePayloadLen && decide (0 < expected - Int64.ofNat total) then some .unexpectedEOF
    else if x.verifyChecksums && sha256 payload != x.payloadHashCheck then some errChecksumMismatch
    else some .eof
  else some x.ending

theorem consume_payload_streamed {payload delivered : List UInt8} {x : PayloadReader} (n : Nat)
    (streamed : Streamed payload x delivered) : Streamed payload (x.consumePayload n).2 delivered := by
  rw [(consume_payload_spec n x).1]
  exact ⟨streamed.rest, streamed.hashed⟩

theorem consume_payload_settled (n : Nat) (x : PayloadReader) : Settled x (x.consumePayload n).2 := by
  rw [(consume_payload_spec n x).1]
  exact ⟨rfl, rfl, rfl, rfl⟩

theorem consume_payload_error {expected : Int64} {x : PayloadReader} {delivered copied : List UInt8}
    (counted : Counted expected x delivered) :
    (x.consumePayload copied.length).1 =
      if x.enforcePayloadLen && decide (expected - Int64.ofNat (delivered ++ copied).length < 0) then
        some errPayloadSizeOverflow
      else none := by
  rw [(consume_payload_spec copied.length x).2]
  by_cases enforced : x.enforcePayloadLen = true
  · rw [counted enforced, Int64.sub_sub, ← Int64.ofNat_add, ← List.length_append]
    simp [enforced]
  · simp [enforced]

theorem consume_payload_fields (n : Nat) (x : PayloadReader) :
    (x.consumePayload n).2.err = x.err ∧ (x.consumePayload n).2.tail = x.tail ∧
      (x.consumePayload n).2.chunks = x.chunks ∧ (x.consumePayload n).2.payloadHashGot = x.payloadHashGot := by
  rw [(consume_payload_spec n x).1]
  exact ⟨rfl, rfl, rfl, rfl⟩

theorem close_at_end {payload : List UInt8} {expected : Int64} {x y : PayloadReader} {total : Nat}
    (ended : y.err = some x.ending) (settled : Settled x y)
    (remaining : x.enforcePayloadLen = true → y.remainingPayloadLen = expected - Int64.ofNat total)
    (hashAll : x.verifyChecksums = true → y.payloadHashGot = payload) :
    (y.close sha256 false).1 =
      if x.ending = .eof then
        if x.enforcePayloadLen && decide (0 < expected - Int64.ofNat total) then some .unexpectedEOF
        else if x.verifyChecksums && sha256 payload != x.payloadHashCheck then some errChecksumMismatch
        else some .eof
      else some x.ending := by
  have length : (y.enforcePayloadLen && decide (0 < y.remainingPayloadLen)) =
      (x.enforcePayloadLen && decide (0 < expected - Int64.ofNat total)) := by
    rw [settled.enforce]
    cases enforced : x.enforcePayloadLen
    · rw [Bool.false_and, Bool.false_and]
    · rw [remaining enforced]
  have checksum : (y.verifyChecksums && sha256 y.payloadHashGot != y.payloadHashCheck) =
      (x.verifyChecksums && sha256 payload != x.payloadHashCheck) := by
    rw [settled.verify, settled.check]
    cases verified : x.verifyChecksums
    · rw [Bool.false_and, Bool.false_and]
    · rw [hashAll verified]
  rw [(close_spec sha256 false y).2, ended, length, checksum]
  by_cases eof : x.ending = .eof
  · simp only [eof, if_true, Bool.false_eq_true, if_false]
  · simp only [eof, if_false, Option.some.injEq]

/-- One Read: it copies the first pending bytes, keeps both invariants, and returns the error
that readOutcome names. -/
theorem read_spec {payload : List UInt8} {expected : Int64} {x : PayloadReader} {delivered : List UInt8}
    (bufLen : Nat) (streamed : Streamed payload x delivered) (counted : Counted expected x delivered) :
    (x.read sha256 bufLen).1.2.1 = x.pending.take bufLen ∧
      (x.read sha256 bufLen).1.1 = (x.read sha256 bufLen).1.2.1.length ∧
      Streamed payload (x.read sha256 bufLen).2 (delivered ++ (x.read sha256 bufLen).1.2.1) ∧
      Counted expected (x.read sha256 bufLen).2 (delivered ++ (x.read sha256 bufLen).1.2.1) ∧
      Settled x (x.read sha256 bufLen).2 ∧
      (x.read sha256 bufLen).1.2.2 =
        readOutcome sha256 x payload expected (delivered ++ (x.read sha256 bufLen).1.2.1).length
          (decide (bufLen ≤ x.pending.length)) := by
  obtain ⟨counts, step⟩ := read_chunk_spec bufLen x
  unfold read
  rcases chunked : x.readChunk bufLen with ⟨⟨n, copied, filled⟩, x1⟩
  rw [chunked] at counts step
  dsimp only at counts step ⊢
  subst counts
  have streamed1 := step.streamed streamed
  have counted1 := step.counted counted
  have streamed2 := consume_payload_streamed copied.length streamed1
  have counted2 : Counted expected (x1.consumePayload copied.length).2 (delivered ++ copied) :=
    consume_payload_counted counted1
  have settled2 := step.keeps.settled.trans (consume_payload_settled copied.length x1)
  have overflow : (x1.consumePayload copied.length).1 =
      if x1.enforcePayloadLen && decide (expected - Int64.ofNat (delivered ++ copied).length < 0) then
        some errPayloadSizeOverflow
      else none :=
    consume_payload_error counted1
  rw [step.keeps.enforce] at overflow
  rcases consumed : x1.consumePayload copied.length with ⟨consumeErr, x2⟩
  rw [consumed] at streamed2 counted2 settled2 overflow
  dsimp only at streamed2 counted2 settled2 overflow
  cases filled with
  | true =>
      -- The buffer was filled: only the overflow check can fail.
      have fits : bufLen ≤ x.pending.length := step.filled_iff.mp rfl
      rw [if_neg (by decide)]
      refine ⟨step.copied_eq, rfl, streamed2, counted2, settled2, ?_⟩
      dsimp only
      rw [overflow, readOutcome]
      by_cases overflowed : (x.enforcePayloadLen && decide (expected - Int64.ofNat (delivered ++ copied).length < 0)) = true
      · rw [if_pos overflowed, if_pos overflowed]
      · rw [if_neg overflowed, if_neg overflowed, if_pos (decide_eq_true fits)]
  | false =>
      -- The stream ended: close reports its end, unless the overflow came first.
      have short : ¬bufLen ≤ x.pending.length := fun fits => by cases step.filled_iff.mpr fits
      have nothingLeft : x1.pending = [] := by rw [step.pending_eq, List.drop_eq_nil_of_le (by omega)]
      obtain ⟨errEq, tailEq, chunksEq, hashEq⟩ := consume_payload_fields copied.length x1
      rw [consumed] at errEq tailEq chunksEq hashEq
      dsimp only at errEq tailEq chunksEq hashEq
      have noChunks : x2.chunksData = [] := by
        rw [chunksData, chunksEq]
        exact (List.append_eq_nil_iff.mp nothingLeft).2
      have noPending : x2.pending = [] := by
        rw [pending, tailEq, noChunks, List.append_nil]
        exact (List.append_eq_nil_iff.mp nothingLeft).1
      have closing := @close_at_end sha256 payload expected x x2 (delivered ++ copied).length
        (errEq.trans (step.ended rfl)) settled2
        (fun enforced => counted2 (settled2.enforce.trans enforced))
        (fun verified => by
          have whole := streamed2.hashed (settled2.verify.trans verified)
          rwa [noChunks, List.append_nil] at whole)
      obtain ⟨closedState, -⟩ := close_spec sha256 false x2
      rw [if_pos (by decide)]
      rcases closed : x2.close sha256 false with ⟨err, x3⟩
      rw [closed] at closedState closing
      dsimp only at closedState closing
      subst closedState
      have streamed3 : Streamed payload { x2 with tail := BuffersSlice.zero } (delivered ++ copied) :=
        ⟨by
          rw [← streamed2.rest, noPending]
          show _ ++ (BuffersSlice.zero.data ++ x2.chunksData) = _
          rw [noChunks]
          rfl, streamed2.hashed⟩
      have settled3 : Settled x { x2 with tail := BuffersSlice.zero } :=
        ⟨settled2.ending, settled2.enforce, settled2.verify, settled2.check⟩
      have outcome : readOutcome sha256 x payload expected (delivered ++ copied).length false =
          if (x.enforcePayloadLen && decide (expected - Int64.ofNat (delivered ++ copied).length < 0)) = true then
            some errPayloadSizeOverflow
          else err := by
        rw [readOutcome, closing, if_neg Bool.false_ne_true]
      -- The error of the overflow check comes first; close's error is never nil here.
      by_cases overflowed :
          (x.enforcePayloadLen && decide (expected - Int64.ofNat (delivered ++ copied).length < 0)) = true
      · rw [if_pos overflowed] at overflow
        subst overflow
        dsimp only
        refine ⟨step.copied_eq, rfl, streamed3, counted2, settled3, ?_⟩
        rw [decide_eq_false short, outcome, if_pos overflowed]
      · rw [if_neg overflowed] at overflow
        subst overflow
        have closeErr : err ≠ none := by
          rw [closing]
          split_ifs <;> simp
        rcases err with _ | err
        · exact absurd rfl closeErr
        · dsimp only
          refine ⟨step.copied_eq, rfl, streamed3, counted2, settled3, ?_⟩
          rw [decide_eq_false short, outcome, if_neg overflowed]

/-- Read calls with the given buffer lengths, one after another. -/
def readAll : List Nat → PayloadReader → List (Nat × List UInt8 × Option IOError) × PayloadReader
  | [], x => ([], x)
  | bufLen :: rest, x =>
      match x.read sha256 bufLen with
      | (result, x') =>
          match readAll rest x' with
          | (results, x'') => (result :: results, x'')

theorem read_all_delivers {payload : List UInt8} {expected : Int64} (sizes : List Nat) :
    ∀ (x : PayloadReader) (delivered : List UInt8), Streamed payload x delivered → Counted expected x delivered →
      ((x.readAll sha256 sizes).1.map fun result => result.2.1).flatten = x.pending.take sizes.sum ∧
        Streamed payload (x.readAll sha256 sizes).2 (delivered ++ x.pending.take sizes.sum) ∧
        Counted expected (x.readAll sha256 sizes).2 (delivered ++ x.pending.take sizes.sum) ∧
        Settled x (x.readAll sha256 sizes).2 := by
  induction sizes with
  | nil =>
      intro x delivered streamed counted
      simp only [readAll, List.map_nil, List.flatten_nil, List.sum_nil, List.take_zero, List.append_nil, true_and]
      exact ⟨streamed, counted, Settled.refl x⟩
  | cons bufLen rest ih =>
      intro x delivered streamed counted
      obtain ⟨copiedEq, -, streamed1, counted1, settled1, -⟩ := read_spec sha256 bufLen streamed counted
      rcases reading : x.read sha256 bufLen with ⟨⟨n, copied, err⟩, x1⟩
      rw [reading] at copiedEq streamed1 counted1 settled1
      dsimp only at copiedEq streamed1 counted1 settled1
      -- What the later calls read from is what this call left.
      have left : x1.pending = x.pending.drop bufLen := by
        have whole := streamed1.rest.trans streamed.rest.symm
        rw [List.append_assoc, copiedEq] at whole
        have split := List.append_cancel_left whole
        exact List.append_cancel_left (split.trans (List.take_append_drop bufLen x.pending).symm)
      obtain ⟨later, streamed2, counted2, settled2⟩ := ih x1 (delivered ++ copied) streamed1 counted1
      have total : x.pending.take (bufLen + rest.sum) = copied ++ x1.pending.take rest.sum := by
        rw [List.take_add, copiedEq, left]
      simp only [readAll, reading, List.map_cons, List.flatten_cons, List.sum_cons]
      rw [total, later, ← List.append_assoc]
      exact ⟨rfl, streamed2, counted2, settled1.trans settled2⟩

theorem read_outcome_of_lengths (x : PayloadReader) (payload : List UInt8) (filled : Bool) {expected total : Nat}
    (expectedFits : expected < 2 ^ 63) (totalFits : total < 2 ^ 63) :
    readOutcome sha256 x payload (Int64.ofNat expected) total filled =
      if x.enforcePayloadLen && decide (expected < total) then some errPayloadSizeOverflow
      else if filled then none
      else if x.ending = .eof then
        if x.enforcePayloadLen && decide (total < expected) then some .unexpectedEOF
        else if x.verifyChecksums && sha256 payload != x.payloadHashCheck then some errChecksumMismatch
        else some .eof
      else some x.ending := by
  have overflow : decide (Int64.ofNat expected - Int64.ofNat total < 0) = decide (expected < total) :=
    decide_eq_decide.mpr (of_nat_sub_lt_zero_iff expectedFits totalFits)
  have short : decide (0 < Int64.ofNat expected - Int64.ofNat total) = decide (total < expected) :=
    decide_eq_decide.mpr (zero_lt_of_nat_sub_iff expectedFits totalFits)
  rw [readOutcome, overflow, short]

theorem read_overflow_of_negative {x : PayloadReader} (bufLen : Nat) (nothing : x.pending = [])
    (enforced : x.enforcePayloadLen = true) (negative : x.remainingPayloadLen < 0)
    (unhashed : x.verifyChecksums = true → x.payloadHashGot = []) :
    (x.read sha256 bufLen).1 = (0, [], some errPayloadSizeOverflow) := by
  have noChunks : x.chunksData = [] := (List.append_eq_nil_iff.mp nothing).2
  have zero : Int64.ofNat 0 = 0 := rfl
  have streamed : Streamed [] x [] := ⟨by rw [nothing]; rfl, fun verify => by rw [unhashed verify, noChunks]; rfl⟩
  have counted : Counted x.remainingPayloadLen x [] := fun _ => by
    rw [List.length_nil, zero, Int64.sub_zero]
  obtain ⟨copiedEq, countEq, -, -, -, outcome⟩ := read_spec sha256 bufLen streamed counted
  rw [nothing, List.take_nil] at copiedEq
  rw [copiedEq] at countEq outcome
  rw [List.append_nil, List.length_nil, readOutcome, enforced, zero, Int64.sub_zero,
    decide_eq_true negative, Bool.and_self, if_pos rfl] at outcome
  exact Prod.ext countEq (Prod.ext copiedEq outcome)

/- The expected length is the header's payload length converted with int(...), which wraps from
   2^63 on: such a header makes the first Read report an overflow although nothing has arrived. -/

theorem read_reports_overflow_on_wrapped_length (sha256 : List UInt8 → List UInt8) (headerID : HeaderPart → ObjectID) :
    ∃ x, (newPayloadReader ObjectID.zero none none false true [] .eof).readHeader headerID none
        (.init (some ObjectID.zero) (some ⟨9223372036854775808, none, []⟩) true) = some (true, x) ∧
      (x.read sha256 1).1 = (0, [], some errPayloadSizeOverflow) :=
  ⟨_, rfl, read_overflow_of_negative sha256 1 rfl rfl (by decide) (fun verify => by cases verify)⟩

end Delivery

end PayloadReader

end NeoFS.Client
