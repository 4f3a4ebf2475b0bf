import NeoFS.Object.SlicerPut

set_option autoImplicit false

/- The InitPut path (slicer.go, InitPut): the caller opens the writer, hands it the payload by
   Write and ReadFrom calls of its own choosing and closes it, as the package's tests do
   (slicer_test.go, testSlicerByHeaderType). For the collector the calls make no difference:
   the session stores what Put stores of the same bytes, and returns the same ID. -/
namespace NeoFS.Slicer

open NeoFS.Go NeoFS.Crypto Lib.Blocks

section Session

variable {σ ε τ₁ τ₂ β ρ : Type}

-- What a caller of InitPut does before Close: Write of a chunk, or ReadFrom of a reader's state.
inductive Call (ρ : Type) where
  | write (chunk : List UInt8)
  | readFrom (s : ρ)

def Call.bytes (contents : ρ → List UInt8) : Call ρ → List UInt8
  | .write chunk => chunk
  | .readFrom s => contents s

variable (issuer : τ₁ → UserID) (originalIssuer : τ₂ → UserID)

-- `InitPut` and `Put` of the package.
def initPut (stream : σ) (header : Object τ₁ τ₂) (opts : Options ε τ₁ τ₂ β) :
    Except (SlicerError ε) (PayloadWriter σ ε τ₁ τ₂ β) :=
  initPayloadStream issuer originalIssuer stream header opts

variable (ow : ObjectWriter σ ε τ₁ τ₂ β) (signer : Signer ε) (sha256 : List UInt8 → List UInt8)
  (calculateID : Header τ₁ τ₂ → ObjectID) (r : Reader ρ)

def put (stream : σ) (header : Object τ₁ τ₂) (opts : Options ε τ₁ τ₂ β) (s : ρ) :
    Except (Failure (SlicerError ε)) (ObjectID × σ) :=
  slice issuer originalIssuer ow signer sha256 calculateID r stream header opts s

-- The calls in turn, stopping at the first that returns an error, as the tests require each to
-- succeed; the counts they return are not looked at.
def PayloadWriter.calls (x : PayloadWriter σ ε τ₁ τ₂ β) :
    List (Call ρ) → Except (Failure (SlicerError ε)) (PayloadWriter σ ε τ₁ τ₂ β)
  | [] => .ok x
  | .write chunk :: rest =>
      match x.write ow signer sha256 calculateID chunk with
      | (y, _, none) => y.calls rest
      | (_, _, some e) => .error e
  | .readFrom s :: rest =>
      match x.readFrom ow signer sha256 calculateID r s with
      | (y, _, _, none) => y.calls rest
      | (_, _, _, some e) => .error e

def putSession (stream : σ) (header : Object τ₁ τ₂) (opts : Options ε τ₁ τ₂ β) (calls : List (Call ρ)) :
    Except (Failure (SlicerError ε)) (ObjectID × σ) := do
  let x ← (initPut issuer originalIssuer stream header opts).mapError .error
  let y ← x.calls ow signer sha256 calculateID r calls
  let z ← (y.close ow signer sha256 calculateID).mapError .error
  pure (z.rootID, z.stream)

end Session

section Collector

variable {ε τ₁ τ₂ β ρ : Type} {signer : Signer ε} {sha256 : List UInt8 → List UInt8}
  {calculateID : Header τ₁ τ₂ → ObjectID} {sign : List UInt8 → List UInt8}
  {issuer : τ₁ → UserID} {originalIssuer : τ₂ → UserID} {r : Reader ρ} {contents : ρ → List UInt8}
  (signs : ∀ data, signer.sign data = .ok (sign data))
  (streams : r.Streams contents) (eofOnly : ∀ s n e, (r.read s n).2.2 = some e → e = .eof)
include signs streams eofOnly

theorem PayloadWriter.Valid.calls_cons {x : PayloadWriter (Stored τ₁ τ₂) ε τ₁ τ₂ β} (call : Call ρ)
    (rest : List (Call ρ)) (valid : x.Valid) (plain : x.splitChainModifier = none)
    (linked : x.Linked signer sha256 calculateID sign)
    (fits : x.payloadSizeFixed = true → x.rootMeta.length + (call.bytes contents).length ≤ x.payloadSize) :
    ∃ y : PayloadWriter (Stored τ₁ τ₂) ε τ₁ τ₂ β, x.calls collector signer sha256 calculateID r (call :: rest) =
        y.calls collector signer sha256 calculateID r rest ∧ y.Valid ∧ y.Linked signer sha256 calculateID sign ∧
      y.blocks = feedAll x.payloadSizeLimit x.blocks (call.bytes contents) ∧ y.settings = x.settings ∧
      y.rootMeta.length = x.rootMeta.length + (call.bytes contents).length := by
  cases call with
  | write chunk =>
      obtain ⟨y, wrote, valid', linked', blocks, settings, rooted⟩ := valid.write_spec signs chunk plain linked fits
      exact ⟨y, by rw [PayloadWriter.calls, wrote], valid', linked', blocks, settings, rooted⟩
  | readFrom s =>
      obtain ⟨y, s', read, valid', linked', blocks, settings, rooted⟩ :=
        valid.read_from_loop_spec signs streams eofOnly s 0 plain linked fits
      exact ⟨y, by rw [PayloadWriter.calls, PayloadWriter.readFrom, read], valid', linked', blocks, settings, rooted⟩

theorem PayloadWriter.Valid.calls_spec {x : PayloadWriter (Stored τ₁ τ₂) ε τ₁ τ₂ β} (calls : List (Call ρ))
    (valid : x.Valid) (plain : x.splitChainModifier = none) (linked : x.Linked signer sha256 calculateID sign)
    (fits : x.payloadSizeFixed = true →
      x.rootMeta.length + (calls.flatMap (Call.bytes contents)).length ≤ x.payloadSize) :
    ∃ y, x.calls collector signer sha256 calculateID r calls = .ok y ∧ y.Valid ∧
      y.Linked signer sha256 calculateID sign ∧
      y.blocks = feedAll x.payloadSizeLimit x.blocks (calls.flatMap (Call.bytes contents)) ∧
      y.settings = x.settings ∧
      y.rootMeta.length = x.rootMeta.length + (calls.flatMap (Call.bytes contents)).length := by
  -- The induction is on the calls; the settings each call keeps carry the size bound to the rest.
  induction calls generalizing x with
  | nil => exact ⟨x, rfl, valid, linked, by rw [List.flatMap_nil, feedAll_nil], rfl, rfl⟩
  | cons call rest ih =>
      rw [List.flatMap_cons, List.length_append] at fits ⊢
      obtain ⟨y, called, valid', linked', blocks, settings, rooted⟩ :=
        valid.calls_cons signs streams eofOnly call rest plain linked fun fixed => by have := fits fixed; omega
      obtain ⟨-, -, -, limitY, fixedY, sizeY, modifierY⟩ := PayloadWriter.same_settings settings
      obtain ⟨z, run, valid'', linked'', blocks', settings', rooted'⟩ :=
        ih valid' (modifierY.trans plain) linked' fun fixed => by
          have := fits (fixedY ▸ fixed)
          rw [rooted, sizeY]
          omega
      refine ⟨z, called.trans run, valid'', linked'', ?_, settings'.trans settings, ?_⟩
      · rw [blocks', blocks, limitY, feed_all_append]
      · rw [rooted', rooted, Nat.add_assoc]

theorem PayloadWriter.Valid.calls_exceeded {x : PayloadWriter (Stored τ₁ τ₂) ε τ₁ τ₂ β} (calls : List (Call ρ))
    (valid : x.Valid) (plain : x.splitChainModifier = none) (linked : x.Linked signer sha256 calculateID sign)
    (fixed : x.payloadSizeFixed = true) (within : x.rootMeta.length ≤ x.payloadSize)
    (past : x.payloadSize < x.rootMeta.length + (calls.flatMap (Call.bytes contents)).length) :
    x.calls collector signer sha256 calculateID r calls = .error (.error errPayloadSizeExceeded) := by
  induction calls generalizing x with
  | nil =>
      rw [List.flatMap_nil, List.length_nil] at past
      omega
  | cons call rest ih =>
      rw [List.flatMap_cons, List.length_append] at past
      by_cases crossing : x.payloadSize < x.rootMeta.length + (call.bytes contents).length
      case pos =>
        -- This call crosses the size: Write refuses its chunk whole, ReadFrom stops at the read
        -- that crosses it.
        cases call with
        | write chunk =>
            have nonempty : chunk.length ≠ 0 := by
              simp only [Call.bytes] at crossing
              omega
            rw [PayloadWriter.calls, write_exceeded nonempty fixed crossing]
        | readFrom s =>
            obtain ⟨y, s', n, read⟩ :=
              valid.read_from_loop_exceeded signs streams eofOnly s 0 plain linked fixed within crossing
            rw [PayloadWriter.calls, PayloadWriter.readFrom, read]
      case neg =>
        obtain ⟨y, called, valid', linked', -, settings, rooted⟩ :=
          valid.calls_cons signs streams eofOnly call rest plain linked fun _ => Nat.le_of_not_lt crossing
        obtain ⟨-, -, -, -, fixedY, sizeY, modifierY⟩ := PayloadWriter.same_settings settings
        rw [called]
        exact ih valid' (modifierY.trans plain) linked' (fixedY.trans fixed) (by rw [rooted, sizeY]; omega)
          (by rw [rooted, sizeY]; omega)

variable {header : Object τ₁ τ₂} {opts : Options ε τ₁ τ₂ β} {calls : List (Call ρ)}
  {x : PayloadWriter (Stored τ₁ τ₂) ε τ₁ τ₂ β}

theorem put_session_spec (opened : initPayloadStream issuer originalIssuer ([] : Stored τ₁ τ₂) header opts = .ok x)
    (plain : opts.splitChainModifier = none)
    (sized : opts.payloadSizeFixed = true → (calls.flatMap (Call.bytes contents)).length = opts.payloadSize) :
    putSession issuer originalIssuer collector signer sha256 calculateID r [] header opts calls =
      (closeBlocks signer sha256 calculateID sign x.stubObject x.headerObject x.payloadSizeLimit
        (feedAll x.payloadSizeLimit start (calls.flatMap (Call.bytes contents)))).mapError .error := by
  obtain ⟨valid, -, -, -, -, started, empty, modifier, fixed, size⟩ := init_payload_stream_spec opened
  have linked : x.Linked signer sha256 calculateID sign := init_payload_stream_linked opened
  obtain ⟨y, run, valid', linked', blocks, settings, rooted⟩ :=
    valid.calls_spec signs streams eofOnly calls (modifier.trans plain) linked
      (fun fixedX => by rw [empty, Nat.zero_add, sized (fixed ▸ fixedX), size])
  obtain ⟨stub, kept, -, limit, fixedY, sizeY, modifierY⟩ := PayloadWriter.same_settings settings
  -- All the bytes have been written: a fixed size is reached exactly.
  have reached : y.payloadSizeFixed = true → y.payloadSize ≤ y.rootMeta.length := fun fixedY' => by
    rw [rooted, empty, Nat.zero_add, sizeY, size, sized (fixed ▸ fixedY ▸ fixedY')]
  have closed := valid'.close_spec signs (modifierY.trans (modifier.trans plain)) linked' reached
  rw [blocks, started, stub, kept, limit] at closed
  unfold putSession initPut
  rw [opened, Lib.Except.ok_map_error, Lib.Except.ok_bind, run, Lib.Except.ok_bind, ← closed]
  cases PayloadWriter.close collector signer sha256 calculateID y <;> rfl

theorem put_session_exceeded (opened : initPayloadStream issuer originalIssuer ([] : Stored τ₁ τ₂) header opts = .ok x)
    (plain : opts.splitChainModifier = none) (fixed : opts.payloadSizeFixed = true)
    (longer : opts.payloadSize < (calls.flatMap (Call.bytes contents)).length) :
    putSession issuer originalIssuer collector signer sha256 calculateID r [] header opts calls =
      .error (.error errPayloadSizeExceeded) := by
  obtain ⟨valid, -, -, -, -, -, empty, modifier, fixedX, size⟩ := init_payload_stream_spec opened
  have linked : x.Linked signer sha256 calculateID sign := init_payload_stream_linked opened
  have run := valid.calls_exceeded signs streams eofOnly calls (modifier.trans plain) linked (fixedX.trans fixed)
    (by rw [empty]; exact Nat.zero_le _) (by rw [empty, Nat.zero_add, size]; exact longer)
  unfold putSession initPut
  rw [opened, Lib.Except.ok_map_error, Lib.Except.ok_bind, run]
  rfl

theorem put_session_short (opened : initPayloadStream issuer originalIssuer ([] : Stored τ₁ τ₂) header opts = .ok x)
    (plain : opts.splitChainModifier = none) (fixed : opts.payloadSizeFixed = true)
    (shorter : (calls.flatMap (Call.bytes contents)).length < opts.payloadSize) :
    putSession issuer originalIssuer collector signer sha256 calculateID r [] header opts calls =
      .error (.error (.io .unexpectedEOF)) := by
  obtain ⟨valid, -, -, -, -, -, empty, modifier, fixedX, size⟩ := init_payload_stream_spec opened
  have linked : x.Linked signer sha256 calculateID sign := init_payload_stream_linked opened
  obtain ⟨y, run, -, -, -, settings, rooted⟩ :=
    valid.calls_spec signs streams eofOnly calls (modifier.trans plain) linked
      (fun _ => by rw [empty, Nat.zero_add, size]; exact Nat.le_of_lt shorter)
  obtain ⟨-, -, -, -, fixedY, sizeY, -⟩ := PayloadWriter.same_settings settings
  have incomplete : (y.payloadSizeFixed && decide (y.rootMeta.length < y.payloadSize)) = true := by
    rw [fixedY, sizeY, fixedX, fixed, rooted, empty, Nat.zero_add, size]
    simpa using shorter
  unfold putSession initPut
  rw [opened, Lib.Except.ok_map_error, Lib.Except.ok_bind, run, Lib.Except.ok_bind, PayloadWriter.close,
    if_pos incomplete]
  rfl

theorem putSession_cases (opened : initPayloadStream issuer originalIssuer ([] : Stored τ₁ τ₂) header opts = .ok x)
    (plain : opts.splitChainModifier = none) :
    putSession issuer originalIssuer collector signer sha256 calculateID r [] header opts calls =
      if opts.payloadSizeFixed = true ∧ opts.payloadSize < (calls.flatMap (Call.bytes contents)).length then
        .error (.error errPayloadSizeExceeded)
      else if opts.payloadSizeFixed = true ∧ (calls.flatMap (Call.bytes contents)).length < opts.payloadSize then
        .error (.error (.io .unexpectedEOF))
      else (closeBlocks signer sha256 calculateID sign x.stubObject x.headerObject x.payloadSizeLimit
        (feedAll x.payloadSizeLimit start (calls.flatMap (Call.bytes contents)))).mapError .error := by
  rcases fixed_size_cases opts (calls.flatMap (Call.bytes contents)).length with longer | shorter | sized
  · rw [if_pos longer]
    exact put_session_exceeded signs streams eofOnly opened plain longer.1 longer.2
  · rw [if_neg fun longer => by omega, if_pos shorter]
    exact put_session_short signs streams eofOnly opened plain shorter.1 shorter.2
  · rw [if_neg fun longer => by have := sized longer.1; omega,
      if_neg fun shorter => by have := sized shorter.1; omega]
    exact put_session_spec signs streams eofOnly opened plain sized

omit signs streams eofOnly in
theorem putSession_cases_short :
    putSession exampleIssuer exampleIssuer collector exampleSigner id exampleID piecesReader [] exampleHeader
        (exampleOptions 2 true 3) [.write [1], .readFrom [[2]]] =
      .error (.error (.io .unexpectedEOF)) := by
  rw [putSession_cases example_signer_signs pieces_reader_streams pieces_reader_eof rfl rfl]
  simp [exampleOptions, Call.bytes]

omit signs in
theorem putSession_agrees_with_put (deterministic : Deterministic signer sign) {s : ρ}
    (same : calls.flatMap (Call.bytes contents) = contents s)
    (plain : opts.splitChainModifier = none) :
    (putSession issuer originalIssuer collector signer sha256 calculateID r [] header opts calls).toOption =
      (put issuer originalIssuer collector signer sha256 calculateID r [] header opts s).toOption := by
  cases opened : initPayloadStream issuer originalIssuer ([] : Stored τ₁ τ₂) header opts with
  | error e =>
      -- Both stop at opening the writer.
      unfold putSession initPut put slice
      rw [opened]
      rfl
  | ok x =>
      rw [put]
      rcases fixed_size_cases opts (contents s).length with longer | shorter | sized
      · rw [put_session_exceeded deterministic streams eofOnly opened plain longer.1 (same ▸ longer.2),
          slice_exceeded deterministic streams eofOnly opened plain longer.1 longer.2]
      · rw [put_session_short deterministic streams eofOnly opened plain shorter.1 (same ▸ shorter.2),
          slice_short deterministic streams eofOnly opened plain shorter.1 shorter.2]
      · rw [put_session_spec deterministic streams eofOnly opened plain (same ▸ sized),
          slice_spec deterministic streams eofOnly opened plain sized, same]
        cases closeBlocks signer sha256 calculateID sign x.stubObject x.headerObject x.payloadSizeLimit
          (feedAll x.payloadSizeLimit start (contents s)) <;> rfl

omit signs streams eofOnly in
theorem putSession_agrees_on_write_then_readFrom :
    ([.write [1, 2, 3], .readFrom [[4], [5]]] : List (Call (List (List UInt8)))).flatMap (Call.bytes List.flatten) =
        List.flatten [[1, 2, 3], [4], [5]] ∧
      (putSession exampleIssuer exampleIssuer collector exampleSigner id exampleID piecesReader [] exampleHeader
          (exampleOptions 2 false 0) [.write [1, 2, 3], .readFrom [[4], [5]]]).toOption =
        (put exampleIssuer exampleIssuer collector exampleSigner id exampleID piecesReader [] exampleHeader
          (exampleOptions 2 false 0) [[1, 2, 3], [4], [5]]).toOption :=
  ⟨rfl, putSession_agrees_with_put pieces_reader_streams pieces_reader_eof example_signer_signs rfl rfl⟩

end Collector

end NeoFS.Slicer
