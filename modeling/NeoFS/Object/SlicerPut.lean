import NeoFS.Object.SlicerRun

set_option autoImplicit false

/- What slice stores in the collector, for a signer that signs every ID, no split chain modifier
   and a stream reader that fails only with io.EOF. slice is characterised whole: it fails exactly
   when a fixed size is missed, and otherwise stores what closeBlocks says of the stream's blocks,
   so what it stores depends only on the stream's bytes. A payload of one block is a single
   object; a longer one is stored as children over full blocks and a last one, chained by their
   previous IDs, with the link object after them; every object is sealed over its own payload. -/
namespace NeoFS.Slicer

open NeoFS.Go NeoFS.Crypto Lib.Blocks

section Put

variable {ε τ₁ τ₂ β ρ : Type} {signer : Signer ε} {sha256 : List UInt8 → List UInt8}
  {calculateID : Header τ₁ τ₂ → ObjectID} {sign : List UInt8 → List UInt8}
  {issuer : τ₁ → UserID} {originalIssuer : τ₂ → UserID}
  {header : Object τ₁ τ₂} {opts : Options ε τ₁ τ₂ β} {x : PayloadWriter (Stored τ₁ τ₂) ε τ₁ τ₂ β}

theorem limit_pos_or_empty {contents : List UInt8}
    (opened : initPayloadStream issuer originalIssuer ([] : Stored τ₁ τ₂) header opts = .ok x)
    (sized : opts.payloadSizeFixed = true → contents.length = opts.payloadSize) :
    0 < x.payloadSizeLimit ∨ contents = [] := by
  obtain ⟨valid, -, -, -, -, -, -, -, fixed, size⟩ := init_payload_stream_spec opened
  by_cases zero : x.payloadSizeLimit = 0
  case pos =>
    obtain ⟨fixedX, sizeX⟩ := valid.limit_pos zero
    exact .inr (List.eq_nil_of_length_eq_zero (by rw [sized (fixed ▸ fixedX), ← size, sizeX]))
  case neg => exact .inl (Nat.pos_of_ne_zero zero)

theorem stream_blocks {contents : List UInt8}
    (opened : initPayloadStream issuer originalIssuer ([] : Stored τ₁ τ₂) header opts = .ok x)
    (sized : opts.payloadSizeFixed = true → contents.length = opts.payloadSize) :
    (feedAll x.payloadSizeLimit start contents).Blocked x.payloadSizeLimit ∧
      (feedAll x.payloadSizeLimit start contents).contents = contents := by
  rcases limit_pos_or_empty opened sized with positive | empty
  · exact feed_all_start positive contents
  · rw [empty]
    exact ⟨start_blocked, rfl⟩

def exampleSign (_ : List UInt8) : List UInt8 := []

def exampleSigner : Signer Unit := ⟨0, [], fun data => .ok (exampleSign data)⟩

theorem example_signer_signs : ∀ data, exampleSigner.sign data = .ok (exampleSign data) := fun _ => rfl

def exampleIssuer (_ : Unit) : UserID := UserID.zero

def exampleID (_ : Header Unit Unit) : ObjectID := ObjectID.zero

def exampleHeader : Object Unit Unit :=
  (Object.zero.setContainerID ⟨List.replicate 32 1, rfl⟩).setOwner ⟨List.replicate 25 1, rfl⟩

def exampleOptions (limit : Nat) (fixed : Bool) (size : Nat) : Options Unit Unit Unit Unit :=
  { objectPayloadLimit := limit, currentNeoFSEpoch := 0, payloadBuffer := [], sessionToken := none,
    sessionTokenV2 := none, bearerToken := none, payloadSizeFixed := fixed, payloadSize := size,
    splitChainModifier := none }

theorem fixed_size_cases (opts : Options ε τ₁ τ₂ β) (n : Nat) :
    (opts.payloadSizeFixed = true ∧ opts.payloadSize < n) ∨ (opts.payloadSizeFixed = true ∧ n < opts.payloadSize) ∨
      (opts.payloadSizeFixed = true → n = opts.payloadSize) := by
  by_cases fixed : opts.payloadSizeFixed = true
  case pos =>
    rcases Nat.lt_trichotomy opts.payloadSize n with longer | sized | shorter
    · exact .inl ⟨fixed, longer⟩
    · exact .inr (.inr fun _ => sized.symm)
    · exact .inr (.inl ⟨fixed, shorter⟩)
  case neg => exact .inr (.inr fun fixed' => absurd fixed' fixed)

variable (signs : ∀ data, signer.sign data = .ok (sign data))
include signs

theorem slice_cases {r : Reader ρ} {contents : ρ → List UInt8} (streams : r.Streams contents)
    (eofOnly : ∀ s n e, (r.read s n).2.2 = some e → e = .eof) {s : ρ}
    (opened : initPayloadStream issuer originalIssuer ([] : Stored τ₁ τ₂) header opts = .ok x)
    (plain : opts.splitChainModifier = none) :
    slice issuer originalIssuer collector signer sha256 calculateID r [] header opts s =
      if opts.payloadSizeFixed = true ∧ opts.payloadSize < (contents s).length then
        .error (.error errPayloadSizeExceeded)
      else if opts.payloadSizeFixed = true ∧ (contents s).length < opts.payloadSize then
        .error (.error (.io .unexpectedEOF))
      else (closeBlocks signer sha256 calculateID sign x.stubObject x.headerObject x.payloadSizeLimit
        (feedAll x.payloadSizeLimit start (contents s))).mapError fun e => .error (.wrap "writer close" e) := by
  split_ifs with longer shorter
  · exact slice_exceeded signs streams eofOnly opened plain longer.1 longer.2
  · exact slice_short signs streams eofOnly opened plain shorter.1 shorter.2
  · refine slice_spec signs streams eofOnly opened plain fun fixed => ?_
    -- The stream is neither longer nor shorter than the fixed size.
    have notLonger := not_and.mp longer fixed
    have notShorter := not_and.mp shorter fixed
    omega

omit signs in
theorem slice_cases_short :
    slice exampleIssuer exampleIssuer collector exampleSigner id exampleID piecesReader [] exampleHeader
        (exampleOptions 2 true 3) [[1], [2]] =
      .error (.error (.io .unexpectedEOF)) := by
  rw [slice_cases example_signer_signs pieces_reader_streams pieces_reader_eof rfl rfl]
  simp [exampleOptions]

omit signs in
theorem slice_chunking_independent (deterministic : Deterministic signer sign) {ρ' : Type} {r₁ : Reader ρ}
    {r₂ : Reader ρ'} {contents₁ : ρ → List UInt8}
    {contents₂ : ρ' → List UInt8} (streams₁ : r₁.Streams contents₁) (streams₂ : r₂.Streams contents₂)
    (eofOnly₁ : ∀ s n e, (r₁.read s n).2.2 = some e → e = .eof)
    (eofOnly₂ : ∀ s n e, (r₂.read s n).2.2 = some e → e = .eof) {s₁ : ρ} {s₂ : ρ'}
    (opened : initPayloadStream issuer originalIssuer ([] : Stored τ₁ τ₂) header opts = .ok x)
    (plain : opts.splitChainModifier = none) (same : contents₁ s₁ = contents₂ s₂) :
    slice issuer originalIssuer collector signer sha256 calculateID r₁ [] header opts s₁ =
      slice issuer originalIssuer collector signer sha256 calculateID r₂ [] header opts s₂ := by
  rcases fixed_size_cases opts (contents₁ s₁).length with longer | shorter | sized
  · rw [slice_exceeded deterministic streams₁ eofOnly₁ opened plain longer.1 longer.2,
      slice_exceeded deterministic streams₂ eofOnly₂ opened plain longer.1 (same ▸ longer.2)]
  · rw [slice_short deterministic streams₁ eofOnly₁ opened plain shorter.1 shorter.2,
      slice_short deterministic streams₂ eofOnly₂ opened plain shorter.1 (same ▸ shorter.2)]
  · rw [slice_spec deterministic streams₁ eofOnly₁ opened plain sized,
      slice_spec deterministic streams₂ eofOnly₂ opened plain (same ▸ sized), same]

omit signs in
theorem slice_chunking_two_readers :
    List.flatten [[1, 2, 3]] = List.flatten [[1], [2, 3]] ∧
      slice exampleIssuer exampleIssuer collector exampleSigner id exampleID piecesReader [] exampleHeader
          (exampleOptions 2 false 0) [[1, 2, 3]] =
        slice exampleIssuer exampleIssuer collector exampleSigner id exampleID piecesReader [] exampleHeader
          (exampleOptions 2 false 0) [[1], [2, 3]] :=
  ⟨rfl, slice_chunking_independent example_signer_signs pieces_reader_streams pieces_reader_streams pieces_reader_eof
    pieces_reader_eof rfl rfl rfl⟩

theorem slice_single_object {r : Reader ρ} {contents : ρ → List UInt8} (streams : r.Streams contents)
    (eofOnly : ∀ s n e, (r.read s n).2.2 = some e → e = .eof) {s : ρ}
    (opened : initPayloadStream issuer originalIssuer ([] : Stored τ₁ τ₂) header opts = .ok x)
    (plain : opts.splitChainModifier = none)
    (sized : opts.payloadSizeFixed = true → (contents s).length = opts.payloadSize)
    (fits : (contents s).length ≤ x.payloadSizeLimit) :
    slice issuer originalIssuer collector signer sha256 calculateID r [] header opts s =
      .ok ((sealObject signer sha256 calculateID sign (metadataOf (contents s)) x.headerObject).id,
        [(sealObject signer sha256 calculateID sign (metadataOf (contents s)) x.headerObject, contents s)]) := by
  obtain ⟨blocked, stream⟩ := stream_blocks opened sized
  have single := blocked.closed_eq_nil_iff.mpr (by rw [stream]; exact fits)
  rw [slice_spec signs streams eofOnly opened plain sized, close_blocks_single single, stream]
  rfl

omit signs in
theorem slice_single_object_two_bytes :
    ∃ x, initPayloadStream exampleIssuer exampleIssuer ([] : Stored Unit Unit) exampleHeader
        (exampleOptions 2 false 0) = .ok x ∧
      slice exampleIssuer exampleIssuer collector exampleSigner id exampleID piecesReader [] exampleHeader
          (exampleOptions 2 false 0) [[1], [2]] =
        .ok ((sealObject exampleSigner id exampleID exampleSign (metadataOf [1, 2]) x.headerObject).id,
          [(sealObject exampleSigner id exampleID exampleSign (metadataOf [1, 2]) x.headerObject, [1, 2])]) :=
  ⟨_, rfl, slice_single_object example_signer_signs pieces_reader_streams pieces_reader_eof rfl rfl (by decide)
    (by decide)⟩

theorem slice_of_split {r : Reader ρ} {contents : ρ → List UInt8} (streams : r.Streams contents)
    (eofOnly : ∀ s n e, (r.read s n).2.2 = some e → e = .eof) {s : ρ}
    (opened : initPayloadStream issuer originalIssuer ([] : Stored τ₁ τ₂) header opts = .ok x)
    (plain : opts.splitChainModifier = none)
    (sized : opts.payloadSizeFixed = true → (contents s).length = opts.payloadSize)
    (longer : x.payloadSizeLimit < (contents s).length) {id : ObjectID} {stored : Stored τ₁ τ₂}
    (sliced : slice issuer originalIssuer collector signer sha256 calculateID r [] header opts s = .ok (id, stored)) :
    let blocks := feedAll x.payloadSizeLimit start (contents s)
    let root := sealObject signer sha256 calculateID sign (metadataOf (contents s)) x.headerObject
    let children := chain signer sha256 calculateID sign x.stubObject x.headerObject blocks.closed
    let child := ((childHeader x.stubObject x.headerObject true (children.head?.map (·.1.id))
      (children.getLast?.map (·.1.id))).setParentID root.id).setParent (some root)
    let written := children ++ [(sealObject signer sha256 calculateID sign (metadataOf blocks.pending) child, blocks.pending)]
    blocks.Blocked x.payloadSizeLimit ∧ blocks.contents = contents s ∧ blocks.closed ≠ [] ∧ id = root.id ∧
      (linkMarshal (written.map measured)).length ≤ x.payloadSizeLimit ∧
      stored = written ++ [(sealObject signer sha256 calculateID sign (metadataOf (linkMarshal (written.map measured)))
        (linkHeader child), linkMarshal (written.map measured))] := by
  intro blocks root children child written
  obtain ⟨blocked, stream⟩ := stream_blocks opened sized
  have split : blocks.closed ≠ [] := fun none => by
    have := blocked.closed_eq_nil_iff.mp none
    rw [stream] at this
    omega
  rw [slice_spec signs streams eofOnly opened plain sized] at sliced
  have closed := Lib.Except.map_error_ok sliced
  dsimp only [closeBlocks] at closed
  rw [if_neg split, stream] at closed
  split at closed
  case isTrue => cases closed
  case isFalse fits =>
    cases closed
    exact ⟨blocked, stream, split, rfl, Nat.le_of_not_lt fits, rfl⟩

theorem slice_split_layout {r : Reader ρ} {contents : ρ → List UInt8} (streams : r.Streams contents)
    (eofOnly : ∀ s n e, (r.read s n).2.2 = some e → e = .eof) {s : ρ}
    (opened : initPayloadStream issuer originalIssuer ([] : Stored τ₁ τ₂) header opts = .ok x)
    (plain : opts.splitChainModifier = none)
    (sized : opts.payloadSizeFixed = true → (contents s).length = opts.payloadSize)
    (longer : x.payloadSizeLimit < (contents s).length) {id : ObjectID} {stored : Stored τ₁ τ₂}
    (sliced : slice issuer originalIssuer collector signer sha256 calculateID r [] header opts s = .ok (id, stored)) :
    ∃ full last link, stored.map Prod.snd = full ++ [last, link] ∧ (full ++ [last]).flatten = contents s ∧
      full ≠ [] ∧ (∀ block ∈ full, block.length = x.payloadSizeLimit) ∧ 0 < last.length ∧
      last.length ≤ x.payloadSizeLimit ∧ link = linkMarshal (stored.dropLast.map measured) ∧
      link.length ≤ x.payloadSizeLimit := by
  obtain ⟨blocked, stream, split, -, fits, layout⟩ := slice_of_split signs streams eofOnly opened plain sized longer sliced
  have link := congrArg (fun entries => entries.dropLast.map measured) layout
  rw [List.dropLast_concat] at link
  refine ⟨(feedAll x.payloadSizeLimit start (contents s)).closed, (feedAll x.payloadSizeLimit start (contents s)).pending,
    linkMarshal (stored.dropLast.map measured), ?_, ?_, split, blocked.closed_full,
    List.length_pos_of_ne_nil (blocked.pending_ne split), blocked.pending_le, rfl, by rw [link]; exact fits⟩
  · rw [link, layout]
    simp only [List.map_append, List.map_cons, List.map_nil, map_snd_chain, List.append_assoc, List.singleton_append]
  · rw [List.flatten_append, List.flatten_singleton]
    exact stream

set_option maxRecDepth 20000 in
omit signs in
theorem slice_eighty_one :
    ∃ x rootID stored,
      initPayloadStream exampleIssuer exampleIssuer ([] : Stored Unit Unit) exampleHeader
          (exampleOptions 80 false 0) = .ok x ∧
      slice exampleIssuer exampleIssuer collector exampleSigner id exampleID piecesReader [] exampleHeader
          (exampleOptions 80 false 0) [List.replicate 81 0] = .ok (rootID, stored) ∧ x.payloadSizeLimit = 80 := by
  have opened : initPayloadStream exampleIssuer exampleIssuer ([] : Stored Unit Unit) exampleHeader
      (exampleOptions 80 false 0) = .ok _ := rfl
  have sliced : slice exampleIssuer exampleIssuer collector exampleSigner id exampleID piecesReader [] exampleHeader
      (exampleOptions 80 false 0) [List.replicate 81 0] = _ :=
    slice_spec example_signer_signs pieces_reader_streams pieces_reader_eof opened rfl (by decide)
  exact ⟨_, _, _, opened, sliced.trans rfl, rfl⟩

omit signs in
theorem slice_split_layout_eighty_one :
    ∃ x rootID stored,
      initPayloadStream exampleIssuer exampleIssuer ([] : Stored Unit Unit) exampleHeader
          (exampleOptions 80 false 0) = .ok x ∧
      slice exampleIssuer exampleIssuer collector exampleSigner id exampleID piecesReader [] exampleHeader
          (exampleOptions 80 false 0) [List.replicate 81 0] = .ok (rootID, stored) ∧
      ∃ full last link, stored.map Prod.snd = full ++ [last, link] ∧ (full ++ [last]).flatten = List.replicate 81 0 ∧
        full ≠ [] ∧ (∀ block ∈ full, block.length = x.payloadSizeLimit) ∧ 0 < last.length ∧
        last.length ≤ x.payloadSizeLimit ∧ link = linkMarshal (stored.dropLast.map measured) ∧
        link.length ≤ x.payloadSizeLimit := by
  obtain ⟨x, rootID, stored, opened, sliced, limit⟩ := slice_eighty_one
  exact ⟨x, rootID, stored, opened, sliced, slice_split_layout example_signer_signs pieces_reader_streams
    pieces_reader_eof opened rfl (by decide) (by rw [limit]; decide) sliced⟩

theorem slice_stores_sealed {r : Reader ρ} {contents : ρ → List UInt8} (streams : r.Streams contents)
    (eofOnly : ∀ s n e, (r.read s n).2.2 = some e → e = .eof) {s : ρ}
    (opened : initPayloadStream issuer originalIssuer ([] : Stored τ₁ τ₂) header opts = .ok x)
    (plain : opts.splitChainModifier = none)
    (sized : opts.payloadSizeFixed = true → (contents s).length = opts.payloadSize) {id : ObjectID}
    {stored : Stored τ₁ τ₂}
    (sliced : slice issuer originalIssuer collector signer sha256 calculateID r [] header opts s = .ok (id, stored)) :
    ∀ entry ∈ stored, Sealed signer sha256 calculateID sign entry := by
  by_cases fits : (contents s).length ≤ x.payloadSizeLimit
  case pos =>
    -- One block: the root object alone, over the whole stream.
    obtain ⟨blocked, stream⟩ := stream_blocks opened sized
    have single := blocked.closed_eq_nil_iff.mpr (by rw [stream]; exact fits)
    rw [slice_spec signs streams eofOnly opened plain sized, close_blocks_single single] at sliced
    cases sliced
    intro entry mem
    rw [List.mem_singleton.mp mem]
    exact sealed_seal_object _ _
  case neg =>
    obtain ⟨-, -, -, -, -, layout⟩ := slice_of_split signs streams eofOnly opened plain sized (by omega) sliced
    intro entry mem
    rw [layout, List.mem_append, List.mem_append, List.mem_singleton, List.mem_singleton] at mem
    rcases mem with (child | last) | link
    · exact chain_sealed _ _ _ entry child
    · rw [last]
      exact sealed_seal_object _ _
    · rw [link]
      exact sealed_seal_object _ _

omit signs in
theorem slice_stores_sealed_eighty_one :
    ∃ x rootID stored,
      initPayloadStream exampleIssuer exampleIssuer ([] : Stored Unit Unit) exampleHeader
          (exampleOptions 80 false 0) = .ok x ∧
      slice exampleIssuer exampleIssuer collector exampleSigner id exampleID piecesReader [] exampleHeader
          (exampleOptions 80 false 0) [List.replicate 81 0] = .ok (rootID, stored) ∧
      ∀ entry ∈ stored, Sealed exampleSigner id exampleID exampleSign entry := by
  obtain ⟨x, rootID, stored, opened, sliced, -⟩ := slice_eighty_one
  exact ⟨x, rootID, stored, opened, sliced, slice_stores_sealed example_signer_signs pieces_reader_streams
    pieces_reader_eof opened rfl (by decide) sliced⟩

theorem slice_children_linked {r : Reader ρ} {contents : ρ → List UInt8} (streams : r.Streams contents)
    (eofOnly : ∀ s n e, (r.read s n).2.2 = some e → e = .eof) {s : ρ}
    (opened : initPayloadStream issuer originalIssuer ([] : Stored τ₁ τ₂) header opts = .ok x)
    (plain : opts.splitChainModifier = none)
    (sized : opts.payloadSizeFixed = true → (contents s).length = opts.payloadSize)
    (longer : x.payloadSizeLimit < (contents s).length) {id : ObjectID} {stored : Stored τ₁ τ₂}
    (sliced : slice issuer originalIssuer collector signer sha256 calculateID r [] header opts s = .ok (id, stored)) :
    stored.dropLast.IsChain (fun before after => after.1.header.split.prev = before.1.id) ∧
      (∀ entry ∈ stored.dropLast.tail, stored.head?.map (·.1.id) = some entry.1.header.split.first) ∧
      stored.head?.map (·.1.header.split.parHdr) = some (some x.headerObject.header) ∧
      ∃ rootHeader, stored.dropLast.getLast?.map (·.1.header.split.parHdr) = some (some rootHeader) ∧
        stored.dropLast.getLast?.map (·.1.header.split.parID) = some id ∧ id = calculateID rootHeader := by
  obtain ⟨-, -, split, rooted, -, layout⟩ := slice_of_split signs streams eofOnly opened plain sized longer sliced
  rw [layout, List.dropLast_concat]
  generalize chained : chain signer sha256 calculateID sign x.stubObject x.headerObject
    (feedAll x.payloadSizeLimit start (contents s)).closed = children
  have isChain := chain_is_chain signer sha256 calculateID sign x.stubObject x.headerObject
    (feedAll x.payloadSizeLimit start (contents s)).closed
  have first := chain_first signer sha256 calculateID sign x.stubObject x.headerObject
    (feedAll x.payloadSizeLimit start (contents s)).closed
  have parent := chain_head_parent signer sha256 calculateID sign x.stubObject x.headerObject _ split
  rw [chained] at isChain first parent
  -- The chain is not empty: its payloads are the closed blocks.
  obtain ⟨head, rest, cons⟩ : ∃ head rest, children = head :: rest := by
    refine List.exists_cons_of_ne_nil fun none => split ?_
    rw [← map_snd_chain signer sha256 calculateID sign x.stubObject x.headerObject
      (feedAll x.payloadSizeLimit start (contents s)).closed, chained, none, List.map_nil]
  subst cons
  refine ⟨isChain.append (List.isChain_singleton _) fun before isLast after isNext => ?_, fun entry mem => ?_, ?_,
    ⟨_, by rw [List.getLast?_concat]; rfl, by rw [List.getLast?_concat, rooted]; rfl, rooted⟩⟩
  · rw [List.head?_singleton, Option.mem_some_iff] at isNext
    rw [← isNext, seal_object_split, Option.mem_def.mp isLast, Option.map_some]
    rfl
  · rw [List.cons_append, List.tail_cons, List.mem_append, List.mem_singleton] at mem
    rcases mem with old | last
    · rw [List.cons_append, List.cons_append]
      exact first entry old
    · rw [last, seal_object_split]
      rfl
  · rw [List.cons_append, List.cons_append]
    exact parent

omit signs in
theorem slice_children_linked_eighty_one :
    ∃ x rootID stored,
      initPayloadStream exampleIssuer exampleIssuer ([] : Stored Unit Unit) exampleHeader
          (exampleOptions 80 false 0) = .ok x ∧
      slice exampleIssuer exampleIssuer collector exampleSigner id exampleID piecesReader [] exampleHeader
          (exampleOptions 80 false 0) [List.replicate 81 0] = .ok (rootID, stored) ∧
      stored.dropLast.IsChain (fun before after => after.1.header.split.prev = before.1.id) ∧
      (∀ entry ∈ stored.dropLast.tail, stored.head?.map (·.1.id) = some entry.1.header.split.first) ∧
      stored.head?.map (·.1.header.split.parHdr) = some (some x.headerObject.header) ∧
      ∃ rootHeader, stored.dropLast.getLast?.map (·.1.header.split.parHdr) = some (some rootHeader) ∧
        stored.dropLast.getLast?.map (·.1.header.split.parID) = some rootID ∧ rootID = exampleID rootHeader := by
  obtain ⟨x, rootID, stored, opened, sliced, limit⟩ := slice_eighty_one
  exact ⟨x, rootID, stored, opened, sliced, slice_children_linked example_signer_signs pieces_reader_streams
    pieces_reader_eof opened rfl (by decide) (by rw [limit]; decide) sliced⟩

end Put

end NeoFS.Slicer
