import NeoFS.Go.IO
import NeoFS.Go.Slice
import NeoFS.Proto.Encoding
import NeoFS.Crypto.Chain

set_option autoImplicit false

/- DefaultObjectWriter.ReadFrom of client/object_put.go. It reads the payload into one buffer
   behind a prefix reserved for the longest chunk field header, writes the chunk field's tag and
   length in place right in front of what it read, and signs those bytes as the request body. The
   meta and origin signatures are made once and reused for every chunk. The signer, the reader
   and the stream are parameters, and so are the encodings of meta and verification headers. -/
namespace NeoFS.Client

open Proto Crypto Go

-- `maxChunkLen = 3 << 20` and the chunk field of `PutRequest_Body`.
def maxChunkLen : Nat := 3 <<< 20
def fieldPutRequestBodyChunk : Nat := 2

def chunkProtoHeaderPrefixLen : Nat := sizeTag fieldPutRequestBodyChunk + sizeVarint maxChunkLen

-- `PutRequest_Body` with the chunk part, the only part ReadFrom sends.
structure PutRequestBody where
  chunk : List UInt8
deriving DecidableEq, Repr

def PutRequestBody.marshalStable (body : PutRequestBody) : List UInt8 :=
  marshalToBytes fieldPutRequestBodyChunk body.chunk

structure PutRequest where
  body : PutRequestBody
  metaHeader : MetaHeader
  verifyHeader : VerificationHeader

-- The fields of DefaultObjectWriter that ReadFrom reads. The meta header's other fields reach the
-- request only through its encoding.
structure DefaultObjectWriter where
  apiVersion : Option Version
  payloadSizeFromHeader : UInt64
  buf : List UInt8

-- `newMetaHeader`: no origin.
def DefaultObjectWriter.newMetaHeader (x : DefaultObjectWriter) : MetaHeader := [⟨x.apiVersion⟩]

def DefaultObjectWriter.chunkLen (x : DefaultObjectWriter) : Nat :=
  if 0 < x.payloadSizeFromHeader ∧ x.payloadSizeFromHeader < maxChunkLen.toUInt64 then x.payloadSizeFromHeader.toNat
  else maxChunkLen

-- What `sendRequest` makes of one request: sent, the stream closed by the server with no error,
-- or an error.
inductive SendOutcome (η : Type) where
  | sent
  | closed
  | failed (err : η)

structure PutStream (τ η : Type) where
  send : τ → PutRequest → τ × SendOutcome η

-- The errors ReadFrom returns: "sign meta: %w", "sign origin: %w", "sign body: %w", the error of
-- sendRequest, io.ErrShortWrite, and an error of the reader other than io.EOF.
inductive ReadFromError (ε η : Type) where
  | signMeta (cause : ε)
  | signOrigin (cause : ε)
  | signBody (cause : ε)
  | send (cause : η)
  | shortWrite
  | read (cause : IOError)

-- The reader's and the stream's states after ReadFrom, the requests it handed to the stream, and
-- the count and error it returns.
structure ReadFromResult (σ τ ε η : Type) where
  reader : σ
  stream : τ
  sent : List PutRequest
  written : Nat
  err : Option (ReadFromError ε η)

section ReadFrom

variable {σ τ ε η : Type}

-- `readFull(r, buf[start:start+len])` from n bytes on: the reader's state, the buffer, the count
-- and the error.
set_option linter.unusedVariables false in
def readFull (r : Reader σ) (s : σ) (buf : List UInt8) (start len n : Nat) :
    σ × List UInt8 × Nat × Option IOError :=
  if below : n < len then
    match h : r.read s (len - n) with
    | (s', data, some err) => (s', copyAt buf (start + n) data, n + data.length, some err)
    | (s', data, none) => readFull r s' (copyAt buf (start + n) data) start len (n + data.length)
  else (s, buf, n, none)
termination_by r.remaining s
decreasing_by
  have progress := r.progress s (len - n) (by omega)
  rw [h] at progress
  exact progress rfl

section ReadFull

variable {r : Reader σ} {s s' : σ} {buf : List UInt8} {start len n : Nat}

theorem read_full_remaining : ∀ {buf' : List UInt8} {n' : Nat}, readFull r s buf start len n = (s', buf', n', none) →
    r.remaining s' ≤ r.remaining s ∧ (n < len → r.remaining s' < r.remaining s) := by
  fun_induction readFull r s buf start len n with
  | case1 s buf n below s₁ data err read =>
      intro _ _ ran
      simp at ran
  | case2 s buf n below s₁ data read ih =>
      intro _ _ ran
      have fewer : r.remaining s₁ < r.remaining s := by
        have progress := r.progress s (len - n) (by omega)
        rw [read] at progress
        exact progress rfl
      have rest := (ih ran).1
      exact ⟨by omega, fun _ => by omega⟩
  | case3 s buf n full =>
      intro _ _ ran
      obtain ⟨rfl, -⟩ := Prod.mk.inj ran
      exact ⟨le_rfl, fun below => absurd below full⟩

-- What readFull leaves from n on: the buffer before start + n as it was, the stream's next bytes
-- read into the range after it, and no error only once the range is full.
structure FullRead (contents : σ → List UInt8) (s : σ) (buf : List UInt8) (start len n : Nat)
    (out : σ × List UInt8 × Nat × Option IOError) : Prop where
  length : out.2.1.length = buf.length
  count : n ≤ out.2.2.1 ∧ out.2.2.1 ≤ len
  kept : out.2.1.take (start + n) = buf.take (start + n)
  data : slice out.2.1 (start + n) (start + out.2.2.1) ++ contents out.1 = contents s
  full : out.2.2.2 = none → out.2.2.1 = len
  eof : out.2.2.2 = some .eof → contents out.1 = []

theorem full_read_copy {contents : σ → List UInt8} (streams : r.Streams contents) {data : List UInt8}
    {err : Option IOError} (read : r.read s (len - n) = (s', data, err)) (within : n ≤ len)
    (fits : start + len ≤ buf.length) :
    (copyAt buf (start + n) data).length = buf.length ∧ n + data.length ≤ len ∧
      (copyAt buf (start + n) data).take (start + n) = buf.take (start + n) ∧
      slice (copyAt buf (start + n) data) (start + n) (start + (n + data.length)) = data ∧
      contents s = data ++ contents s' ∧ (err = some .eof → contents s' = []) := by
  have bounded := r.bounded s (len - n)
  obtain ⟨next, eof⟩ := streams s (len - n)
  rw [read] at bounded next eof
  dsimp only at bounded next eof
  refine ⟨length_copy_at (by omega), by omega, take_copy_at (Nat.le_refl _) (by omega), ?_, next, eof⟩
  rw [← Nat.add_assoc]
  exact slice_copy_at_self (by omega)

theorem read_full_full {contents : σ → List UInt8} (streams : r.Streams contents) :
    n ≤ len → start + len ≤ buf.length →
      FullRead contents s buf start len n (readFull r s buf start len n) := by
  fun_induction readFull r s buf start len n with
  | case1 s buf n below s₁ data err read =>
      intro within fits
      obtain ⟨length, count, kept, copied, next, eof⟩ := full_read_copy streams read within fits
      exact ⟨length, ⟨Nat.le_add_right _ _, count⟩, kept, by rw [copied, next], (fun stopped => by cases stopped), eof⟩
  | case2 s buf n below s₁ data read ih =>
      intro within fits
      obtain ⟨length, count, kept, copied, next, -⟩ := full_read_copy streams read within fits
      have rest := ih count (by omega)
      -- the later reads leave the bytes of this one where they are
      have prefixKept := congrArg (List.take (start + n)) rest.kept
      rw [List.take_take, List.take_take, Nat.min_eq_left (by omega)] at prefixKept
      have first : slice (readFull r s₁ (copyAt buf (start + n) data) start len (n + data.length)).2.1
          (start + n) (start + (n + data.length)) = data := by
        rw [slice, rest.kept, ← slice, copied]
      refine ⟨rest.length.trans length, ⟨by have := rest.count.1; omega, rest.count.2⟩,
        prefixKept.trans kept, ?_, rest.full, rest.eof⟩
      rw [← slice_append_slice (by omega : start + n ≤ start + (n + data.length)) (by have := rest.count.1; omega),
        first, List.append_assoc, rest.data, next]
  | case3 s buf n full =>
      intro within _
      exact ⟨rfl, ⟨Nat.le_refl _, within⟩, rfl, by simp [slice], fun _ => by dsimp only; omega,
        fun stopped => by cases stopped⟩

end ReadFull

def chunkStart (actualRead : Nat) : Nat :=
  chunkProtoHeaderPrefixLen - sizeTag fieldPutRequestBodyChunk - sizeVarint actualRead

-- `protoHeader := buf[chunkStart:chunkStart]` and the two appends to it, which write the tag and
-- the length into buf itself.
def writeChunkHeader (buf : List UInt8) (actualRead : Nat) : List UInt8 :=
  let tag := putUvarint (encodeTag fieldPutRequestBodyChunk .bytes)
  appendInPlace (appendInPlace buf (chunkStart actualRead) 0 tag) (chunkStart actualRead) tag.length
    (putUvarint actualRead)

section ChunkHeader

theorem size_varint_max_chunk_len : sizeVarint maxChunkLen = 4 := by decide

theorem chunk_proto_header_prefix_len_eq : chunkProtoHeaderPrefixLen = 5 := by decide

theorem length_chunk_tag : (putUvarint (encodeTag fieldPutRequestBodyChunk .bytes)).length = 1 := by decide

theorem chunk_start_add {actualRead : Nat} (bounded : actualRead ≤ maxChunkLen) :
    chunkStart actualRead + (putUvarint (encodeTag fieldPutRequestBodyChunk .bytes)).length +
      (putUvarint actualRead).length = chunkProtoHeaderPrefixLen := by
  have fits : maxChunkLen < 2 ^ 64 := by decide
  have room : sizeVarint actualRead ≤ 4 := size_varint_max_chunk_len ▸ size_varint_mono bounded
  have tagSize : sizeTag fieldPutRequestBodyChunk = 1 := size_tag_of_lt (by decide)
  rw [length_chunk_tag, length_put_uvarint (by omega), chunkStart, chunk_proto_header_prefix_len_eq, tagSize]
  omega

theorem write_chunk_header_spec {buf : List UInt8} {actualRead : Nat} (positive : 0 < actualRead)
    (bounded : actualRead ≤ maxChunkLen) (fits : chunkProtoHeaderPrefixLen + actualRead ≤ buf.length) :
    (writeChunkHeader buf actualRead).length = buf.length ∧
      slice (writeChunkHeader buf actualRead) chunkProtoHeaderPrefixLen (chunkProtoHeaderPrefixLen + actualRead) =
        slice buf chunkProtoHeaderPrefixLen (chunkProtoHeaderPrefixLen + actualRead) ∧
      slice (writeChunkHeader buf actualRead) (chunkStart actualRead) (chunkProtoHeaderPrefixLen + actualRead) =
        PutRequestBody.marshalStable ⟨slice buf chunkProtoHeaderPrefixLen (chunkProtoHeaderPrefixLen + actualRead)⟩ := by
  have ends := chunk_start_add bounded
  have once : (copyAt buf (chunkStart actualRead) (putUvarint (encodeTag fieldPutRequestBodyChunk .bytes))).length =
      buf.length := length_copy_at (by omega)
  have header : writeChunkHeader buf actualRead =
      copyAt (copyAt buf (chunkStart actualRead) (putUvarint (encodeTag fieldPutRequestBodyChunk .bytes)))
        (chunkStart actualRead + (putUvarint (encodeTag fieldPutRequestBodyChunk .bytes)).length)
        (putUvarint actualRead) := by
    have inner : appendInPlace buf (chunkStart actualRead) 0 (putUvarint (encodeTag fieldPutRequestBodyChunk .bytes)) =
        copyAt buf (chunkStart actualRead + 0) (putUvarint (encodeTag fieldPutRequestBodyChunk .bytes)) :=
      append_in_place_of_fits (by omega)
    rw [writeChunkHeader, inner, Nat.add_zero, append_in_place_of_fits (by rw [once]; omega)]
  obtain ⟨kept, field⟩ := slice_copy_at_copy_at ends (Nat.le_add_right _ actualRead) fits
  have dataLength : (slice buf chunkProtoHeaderPrefixLen (chunkProtoHeaderPrefixLen + actualRead)).length =
      actualRead := by
    rw [length_slice]
    omega
  refine ⟨by rw [header, length_copy_at (by rw [once]; omega), once], by rw [header, kept], ?_⟩
  rw [header, field, PutRequestBody.marshalStable, marshalToBytes, dataLength, if_neg (Nat.pos_iff_ne_zero.mp positive)]

end ChunkHeader

inductive ChunkOutcome (τ ε η : Type) where
  | next (stream : τ) (buf : List UInt8) (sent : List PutRequest) (written : Nat)
  | stop (stream : τ) (sent : List PutRequest) (written : Nat) (err : ReadFromError ε η)

def ChunkOutcome.requests : ChunkOutcome τ ε η → List PutRequest
  | .next _ _ sent _ => sent
  | .stop _ sent _ _ => sent

-- The body of `if actualRead > 0`: sign the chunk field as the body and send the request.
def sendChunk (signer : Signer ε) (stream : PutStream τ η) (metaHeader : MetaHeader) (metaSig originSig : List UInt8)
    (t : τ) (buf : List UInt8) (actualRead written : Nat) : ChunkOutcome τ ε η :=
  if 0 < actualRead then
    let chunkEnd := chunkProtoHeaderPrefixLen + actualRead
    let buf := writeChunkHeader buf actualRead
    match signer.sign (slice buf (chunkStart actualRead) chunkEnd) with
    | .error cause => .stop t [] written (.signBody cause)
    | .ok bodySig =>
        let req : PutRequest := ⟨⟨slice buf chunkProtoHeaderPrefixLen chunkEnd⟩, metaHeader,
          [⟨some (signer.signature bodySig), some (signer.signature metaSig), some (signer.signature originSig)⟩]⟩
        match stream.send t req with
        | (t', .failed cause) => .stop t' [req] written (.send cause)
        | (t', .closed) => .stop t' [req] written .shortWrite
        | (t', .sent) => .next t' buf [req] (written + actualRead)
  else .next t buf [] written

theorem chunk_len_pos (x : DefaultObjectWriter) : 0 < x.chunkLen := by
  unfold DefaultObjectWriter.chunkLen
  split_ifs with declared
  · exact UInt64.lt_iff_toNat_lt.mp declared.1
  · decide

theorem chunk_len_le (x : DefaultObjectWriter) : x.chunkLen ≤ maxChunkLen := by
  unfold DefaultObjectWriter.chunkLen
  split_ifs with declared
  · have below := UInt64.lt_iff_toNat_lt.mp declared.2
    have fits : maxChunkLen.toUInt64.toNat = maxChunkLen := by decide
    omega
  · exact Nat.le_refl _

-- The loop of ReadFrom: readFull, the chunk if one was read, then the reader's error if any.
set_option linter.unusedVariables false in
def readFromLoop (x : DefaultObjectWriter) (r : Reader σ) (signer : Signer ε) (stream : PutStream τ η)
    (metaSig originSig : List UInt8) (s : σ) (t : τ) (buf : List UInt8) (written : Nat) (sent : List PutRequest) :
    ReadFromResult σ τ ε η :=
  match h : readFull r s buf chunkProtoHeaderPrefixLen x.chunkLen 0 with
  | (s', buf', actualRead, err) =>
      match sendChunk signer stream x.newMetaHeader metaSig originSig t buf' actualRead written with
      | .stop t' now written' cause => ⟨s', t', sent ++ now, written', some cause⟩
      | .next t' buf'' now written' =>
          -- `if err != nil`: io.EOF ends the loop with no error
          if failed : err.isSome then ⟨s', t', sent ++ now, written', if err = some .eof then none else err.map .read⟩
          else readFromLoop x r signer stream metaSig originSig s' t' buf'' written' (sent ++ now)
termination_by r.remaining s
decreasing_by
  rw [Option.not_isSome_iff_eq_none.mp failed] at h
  exact (read_full_remaining h).2 (chunk_len_pos x)

def readFrom (x : DefaultObjectWriter) (metaEncoding : MetaHeader → List UInt8) (signer : Signer ε) (r : Reader σ)
    (stream : PutStream τ η) (s : σ) (t : τ) : ReadFromResult σ τ ε η :=
  match signer.sign (metaEncoding x.newMetaHeader) with
  | .error cause => ⟨s, t, [], 0, some (.signMeta cause)⟩
  | .ok metaSig =>
      match signer.sign [] with
      | .error cause => ⟨s, t, [], 0, some (.signOrigin cause)⟩
      | .ok originSig =>
          let maxMessageSize := chunkProtoHeaderPrefixLen + x.chunkLen
          let buf := if x.buf.length < maxMessageSize then List.replicate maxMessageSize 0 else x.buf
          readFromLoop x r signer stream metaSig originSig s t buf 0 []

def putEncoding (metaEncoding : MetaHeader → List UInt8) (verificationEncoding : VerificationHeader → List UInt8) :
    Encoding PutRequestBody :=
  ⟨PutRequestBody.marshalStable, metaEncoding, verificationEncoding⟩

-- What every request ReadFrom sends must be: a chunk of 1 to chunkLen bytes, in a request the
-- verifier accepts.
structure Accepted {κ : Type} (keys : Keys κ) (enc : Encoding PutRequestBody) (chunkLen : Nat) (req : PutRequest) :
    Prop where
  nonempty : req.body.chunk ≠ []
  bounded : req.body.chunk.length ≤ chunkLen
  verified : verifyRequestWithBuffer keys enc req.body req.metaHeader req.verifyHeader = .ok ()

section Requests

variable {κ : Type} {keys : Keys κ} {signer : Signer ε} (verifies : signer.Verifies keys)
  {metaEncoding : MetaHeader → List UInt8} {verificationEncoding : VerificationHeader → List UInt8}
  (nilOrigin : verificationEncoding [] = [])

include verifies nilOrigin

theorem chunk_request_verified {version : Option Version} {body : PutRequestBody} {bodySig metaSig originSig : List UInt8}
    (bodySigned : signer.sign body.marshalStable = .ok bodySig)
    (metaSigned : signer.sign (metaEncoding [⟨version⟩]) = .ok metaSig) (originSigned : signer.sign [] = .ok originSig) :
    verifyRequestWithBuffer keys (putEncoding metaEncoding verificationEncoding) body [⟨version⟩]
      [⟨some (signer.signature bodySig), some (signer.signature metaSig), some (signer.signature originSig)⟩] = .ok () := by
  have signed : ∀ checkOrigin, HeaderSigned keys (putEncoding metaEncoding verificationEncoding) body
      [⟨version⟩] [] checkOrigin true
      ⟨some (signer.signature bodySig), some (signer.signature metaSig), some (signer.signature originSig)⟩ :=
    fun _ => ⟨verifies.check metaSigned _ _, fun _ => by
      show checkSignature keys _ (verificationEncoding []) _ _ = _
      rw [nilOrigin]
      exact verifies.check originSigned _ _, fun _ => verifies.check bodySigned _ _, nofun⟩
  apply RequestSigned.verify
  exact ⟨List.cons_ne_nil _ _, fun _ _ => verify_from_last keys _ body (signed false) rfl,
    fun _ => ⟨same_depth_single rfl _, fun _ => verify_from_last keys _ body (signed true) rfl⟩⟩

theorem send_chunk_spec {x : DefaultObjectWriter} (stream : PutStream τ η) {metaSig originSig : List UInt8}
    (metaSigned : signer.sign (metaEncoding x.newMetaHeader) = .ok metaSig) (originSigned : signer.sign [] = .ok originSig)
    (t : τ) {buf : List UInt8} {actualRead : Nat} (written : Nat) (bounded : actualRead ≤ x.chunkLen)
    (fits : chunkProtoHeaderPrefixLen + x.chunkLen ≤ buf.length) :
    (∀ req ∈ (sendChunk signer stream x.newMetaHeader metaSig originSig t buf actualRead written).requests,
        Accepted keys (putEncoding metaEncoding verificationEncoding) x.chunkLen req) ∧
      ∀ t' buf' now written', sendChunk signer stream x.newMetaHeader metaSig originSig t buf actualRead written =
          .next t' buf' now written' →
        buf'.length = buf.length ∧
          (now.map (·.body.chunk)).flatten =
            slice buf chunkProtoHeaderPrefixLen (chunkProtoHeaderPrefixLen + actualRead) ∧
          written' = written + actualRead := by
  unfold sendChunk
  by_cases positive : 0 < actualRead
  · obtain ⟨length, data, field⟩ :=
      @write_chunk_header_spec buf actualRead positive (bounded.trans (chunk_len_le x)) (by omega)
    have dataLength : (slice buf chunkProtoHeaderPrefixLen (chunkProtoHeaderPrefixLen + actualRead)).length =
        actualRead := by
      rw [length_slice]
      omega
    rw [if_pos positive]
    dsimp only
    split
    · exact ⟨fun _ none => absurd none List.not_mem_nil, fun _ _ _ _ stop => by cases stop⟩
    · next bodySig bodySigned =>
      -- the signed bytes are the body's encoding
      rw [field, ← data] at bodySigned
      have accepted : Accepted keys (putEncoding metaEncoding verificationEncoding) x.chunkLen
          ⟨⟨slice (writeChunkHeader buf actualRead) chunkProtoHeaderPrefixLen (chunkProtoHeaderPrefixLen + actualRead)⟩,
            x.newMetaHeader,
            [⟨some (signer.signature bodySig), some (signer.signature metaSig), some (signer.signature originSig)⟩]⟩ :=
        ⟨fun empty => by simp_all, by rw [data, dataLength]; exact bounded,
          chunk_request_verified verifies nilOrigin bodySigned metaSigned originSigned⟩
      -- the request goes to the stream whatever the stream makes of it
      split
      · exact ⟨fun _ mem => List.mem_singleton.mp mem ▸ accepted, fun _ _ _ _ next => by cases next⟩
      · exact ⟨fun _ mem => List.mem_singleton.mp mem ▸ accepted, fun _ _ _ _ next => by cases next⟩
      · refine ⟨fun _ mem => List.mem_singleton.mp mem ▸ accepted, fun _ _ _ _ next => ?_⟩
        cases next
        exact ⟨length, by rw [List.map_singleton, List.flatten_singleton, data], rfl⟩
  · rw [if_neg positive]
    refine ⟨fun _ none => absurd none List.not_mem_nil, fun _ _ _ _ next => ?_⟩
    cases next
    have zero : actualRead = 0 := by omega
    subst zero
    simp [slice]

theorem read_from_loop_sends {contents : σ → List UInt8} {r : Reader σ} (streams : r.Streams contents)
    {x : DefaultObjectWriter} {stream : PutStream τ η} {metaSig originSig : List UInt8}
    (metaSigned : signer.sign (metaEncoding x.newMetaHeader) = .ok metaSig) (originSigned : signer.sign [] = .ok originSig)
    {s : σ} {t : τ} {buf : List UInt8} {written : Nat} {sent : List PutRequest} :
    chunkProtoHeaderPrefixLen + x.chunkLen ≤ buf.length →
      (∀ req ∈ (readFromLoop x r signer stream metaSig originSig s t buf written sent).sent,
          req ∈ sent ∨ Accepted keys (putEncoding metaEncoding verificationEncoding) x.chunkLen req) ∧
        ((readFromLoop x r signer stream metaSig originSig s t buf written sent).err = none →
          ((readFromLoop x r signer stream metaSig originSig s t buf written sent).sent.map (·.body.chunk)).flatten =
              (sent.map (·.body.chunk)).flatten ++ contents s ∧
            (readFromLoop x r signer stream metaSig originSig s t buf written sent).written =
              written + (contents s).length) := by
  fun_induction readFromLoop x r signer stream metaSig originSig s t buf written sent with
  | case1 s t buf written sent s' buf' actualRead err h t' now written' cause stop =>
      intro fits
      simp only [h, stop]
      obtain ⟨readLength, count, -, -, -, -⟩ := read_full_full (s := s) streams (Nat.zero_le _) fits
      rw [h] at readLength count
      dsimp only at readLength count
      have chunk := send_chunk_spec verifies nilOrigin stream metaSigned originSigned t written count.2
        (by rw [readLength]; exact fits)
      rw [stop] at chunk
      refine ⟨fun req mem => ?_, nofun⟩
      rcases List.mem_append.mp mem with old | new
      · exact .inl old
      · exact .inr (chunk.1 req new)
  | case2 s t buf written sent s' buf' actualRead err h t' buf'' now written' next failed =>
      intro fits
      simp only [h, next, dif_pos failed]
      obtain ⟨readLength, count, -, data, -, eof⟩ := read_full_full (s := s) streams (Nat.zero_le _) fits
      rw [h] at readLength count data eof
      dsimp only at readLength count data eof
      have chunk := send_chunk_spec verifies nilOrigin stream metaSigned originSigned t written count.2
        (by rw [readLength]; exact fits)
      rw [next] at chunk
      obtain ⟨-, delivered, counted⟩ := chunk.2 _ _ _ _ rfl
      refine ⟨fun req mem => ?_, fun ended => ?_⟩
      · rcases List.mem_append.mp mem with old | new
        · exact .inl old
        · exact .inr (chunk.1 req new)
      · -- only io.EOF ends the loop with no error, and then the stream is used up
        have ended : err = some .eof := by
          by_contra other
          rw [if_neg other] at ended
          cases err with
          | none => cases failed
          | some e => cases ended
        rw [Nat.add_zero, eof ended, List.append_nil] at data
        refine ⟨by rw [List.map_append, List.flatten_append, delivered, data], ?_⟩
        rw [counted, ← data, length_slice]
        omega
  | case3 s t buf written sent s' buf' actualRead err h t' buf'' now written' next failed ih =>
      intro fits
      simp only [h, next, dif_neg failed]
      obtain ⟨readLength, count, -, data, -, -⟩ := read_full_full (s := s) streams (Nat.zero_le _) fits
      rw [h] at readLength count data
      dsimp only at readLength count data
      rw [Nat.add_zero] at data
      have chunk := send_chunk_spec verifies nilOrigin stream metaSigned originSigned t written count.2
        (by rw [readLength]; exact fits)
      rw [next] at chunk
      obtain ⟨length, delivered, counted⟩ := chunk.2 _ _ _ _ rfl
      obtain ⟨accepted, rest⟩ := ih (by rw [length, readLength]; exact fits)
      refine ⟨fun req mem => ?_, fun ended => ?_⟩
      · rcases accepted req mem with old | good
        · rcases List.mem_append.mp old with old | new
          · exact .inl old
          · exact .inr (chunk.1 req new)
        · exact .inr good
      · obtain ⟨sentAll, countAll⟩ := rest ended
        refine ⟨by rw [sentAll, List.map_append, List.flatten_append, delivered, List.append_assoc, data], ?_⟩
        rw [countAll, counted, ← data, List.length_append, length_slice]
        omega

end Requests

section Reliable

theorem read_full_error {r : Reader σ} {s s' : σ} {buf buf' : List UInt8} {start len n n' : Nat} {e : IOError} :
    readFull r s buf start len n = (s', buf', n', some e) → ∃ s₀ k, (r.read s₀ k).2.2 = some e := by
  fun_induction readFull r s buf start len n with
  | case1 s buf n below s₁ data err read =>
      intro ran
      simp only [Prod.mk.injEq, Option.some.injEq] at ran
      obtain ⟨-, -, -, rfl⟩ := ran
      exact ⟨s, len - n, by rw [read]⟩
  | case2 s buf n below s₁ data read ih => exact ih
  | case3 s buf n full => nofun

theorem send_chunk_reliable {signer : Signer ε} {stream : PutStream τ η} (signs : ∀ data, ∃ sig, signer.sign data = .ok sig)
    (sends : ∀ t req, (stream.send t req).2 = .sent) (metaHeader : MetaHeader) (metaSig originSig : List UInt8) (t : τ)
    (buf : List UInt8) (actualRead written : Nat) :
    ∃ t' buf' now written', sendChunk signer stream metaHeader metaSig originSig t buf actualRead written =
      .next t' buf' now written' := by
  unfold sendChunk
  split_ifs
  · dsimp only
    split
    · next cause failed =>
        obtain ⟨sig, signed⟩ := signs _
        rw [signed] at failed
        cases failed
    · split
      · next _ _ refused =>
          have taken := congrArg Prod.snd refused
          rw [sends] at taken
          cases taken
      · next _ closed =>
          have taken := congrArg Prod.snd closed
          rw [sends] at taken
          cases taken
      · exact ⟨_, _, _, _, rfl⟩
  · exact ⟨_, _, _, _, rfl⟩

theorem read_from_loop_ok {x : DefaultObjectWriter} {r : Reader σ} {signer : Signer ε} {stream : PutStream τ η}
    (signs : ∀ data, ∃ sig, signer.sign data = .ok sig) (sends : ∀ t req, (stream.send t req).2 = .sent)
    (eofOnly : ∀ s n e, (r.read s n).2.2 = some e → e = .eof) (metaSig originSig : List UInt8) (s : σ) (t : τ)
    (buf : List UInt8) (written : Nat) (sent : List PutRequest) :
    (readFromLoop x r signer stream metaSig originSig s t buf written sent).err = none := by
  fun_induction readFromLoop x r signer stream metaSig originSig s t buf written sent with
  | case1 s t buf written sent s' buf' actualRead err h t' now written' cause stop =>
      obtain ⟨_, _, _, _, next⟩ := send_chunk_reliable signs sends x.newMetaHeader metaSig originSig t buf' actualRead written
      rw [stop] at next
      cases next
  | case2 s t buf written sent s' buf' actualRead err h t' buf'' now written' next failed =>
      simp only [h, next, dif_pos failed]
      obtain ⟨e, rfl⟩ := Option.isSome_iff_exists.mp failed
      obtain ⟨s₀, k, read⟩ := read_full_error h
      rw [eofOnly s₀ k e read, if_pos rfl]
  | case3 s t buf written sent s' buf' actualRead err h t' buf'' now written' next failed ih =>
      simp only [h, next, dif_neg failed]
      exact ih

end Reliable

theorem readFrom_sends_verified_chunks {κ : Type} (x : DefaultObjectWriter) (keys : Keys κ) (signer : Signer ε)
    (verifies : signer.Verifies keys) (metaEncoding : MetaHeader → List UInt8)
    (verificationEncoding : VerificationHeader → List UInt8) (nilOrigin : verificationEncoding [] = [])
    (r : Reader σ) (contents : σ → List UInt8) (streams : r.Streams contents) (stream : PutStream τ η) (s : σ) (t : τ) :
    (∀ req ∈ (readFrom x metaEncoding signer r stream s t).sent,
        req.body.chunk ≠ [] ∧ req.body.chunk.length ≤ x.chunkLen ∧
          verifyRequestWithBuffer keys (putEncoding metaEncoding verificationEncoding) req.body req.metaHeader
            req.verifyHeader = .ok ()) ∧
      ((readFrom x metaEncoding signer r stream s t).err = none →
        ((readFrom x metaEncoding signer r stream s t).sent.map (·.body.chunk)).flatten = contents s ∧
          (readFrom x metaEncoding signer r stream s t).written = (contents s).length) ∧
      ((∀ data, ∃ sig, signer.sign data = .ok sig) → (∀ t req, (stream.send t req).2 = .sent) →
        (∀ s n e, (r.read s n).2.2 = some e → e = .eof) → (readFrom x metaEncoding signer r stream s t).err = none) := by
  unfold readFrom
  split
  · next cause metaFailed =>
      -- a signer that never fails signs the meta header too
      refine ⟨fun _ none => absurd none List.not_mem_nil, nofun, fun signs _ _ => ?_⟩
      obtain ⟨sig, signed⟩ := signs (metaEncoding x.newMetaHeader)
      rw [signed] at metaFailed
      cases metaFailed
  · next metaSig metaSigned =>
      split
      · next cause originFailed =>
          refine ⟨fun _ none => absurd none List.not_mem_nil, nofun, fun signs _ _ => ?_⟩
          obtain ⟨sig, signed⟩ := signs []
          rw [signed] at originFailed
          cases originFailed
      · next originSig originSigned =>
          dsimp only
          have fits : chunkProtoHeaderPrefixLen + x.chunkLen ≤
              (if x.buf.length < chunkProtoHeaderPrefixLen + x.chunkLen then
                List.replicate (chunkProtoHeaderPrefixLen + x.chunkLen) 0 else x.buf).length := by
            split_ifs with short
            · rw [List.length_replicate]
            · omega
          obtain ⟨accepted, delivered⟩ := read_from_loop_sends verifies nilOrigin streams metaSigned originSigned fits
          refine ⟨fun req mem => ?_, fun ended => by simpa using delivered ended,
            fun signs sends eofOnly => read_from_loop_ok signs sends eofOnly _ _ _ _ _ _ _⟩
          obtain ⟨nonempty, bounded, verified⟩ := (accepted req mem).resolve_left List.not_mem_nil
          exact ⟨nonempty, bounded, verified⟩

end ReadFrom

theorem readFrom_sends_two_pieces :
    echoSigner.Verifies echoKeys ∧ piecesReader.Streams List.flatten ∧
      (readFrom ⟨some ⟨2, 13⟩, 0, []⟩ (fun _ => []) echoSigner piecesReader
          (⟨fun _ _ => ((), .sent)⟩ : PutStream Unit Empty) [[1, 2, 3], [4]] ()).err = none ∧
      ((readFrom ⟨some ⟨2, 13⟩, 0, []⟩ (fun _ => []) echoSigner piecesReader
          (⟨fun _ _ => ((), .sent)⟩ : PutStream Unit Empty) [[1, 2, 3], [4]] ()).sent.map (·.body.chunk)).flatten =
        [1, 2, 3, 4] := by
  have sent := readFrom_sends_verified_chunks ⟨some ⟨2, 13⟩, 0, []⟩ echoKeys echoSigner echo_signer_verifies
    (fun _ => []) (fun _ => []) rfl piecesReader List.flatten pieces_reader_streams
    (⟨fun _ _ => ((), .sent)⟩ : PutStream Unit Empty) [[1, 2, 3], [4]] ()
  have ok := sent.2.2 (fun data => ⟨data, rfl⟩) (fun _ _ => rfl) pieces_reader_eof
  exact ⟨echo_signer_verifies, pieces_reader_streams, ok, (sent.2.1 ok).1⟩

end NeoFS.Client
