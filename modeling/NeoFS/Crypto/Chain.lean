import NeoFS.Lib.Except
import NeoFS.Crypto.Proto

set_option autoImplicit false

/- Forwarding chains: the original sender signs a request, and every hop wraps the meta header
   it received in its own, signs, and puts its verification header over the one received.
   What the verifier then accepts, given signers whose signatures their schemes verify. -/
namespace NeoFS.Crypto

open Lib.Except

variable {β κ ε : Type}

def Signer.Verifies (keys : Keys κ) (signer : Signer ε) : Prop :=
  signer.publicKey ≠ [] ∧ ¬ signer.scheme < 0 ∧
    ∃ pubKey, keys.decodePublicKey signer.scheme signer.publicKey = .ok pubKey ∧
      ∀ data sign, signer.sign data = .ok sign → keys.verify pubKey data sign = true

theorem Signer.Verifies.check {keys : Keys κ} {signer : Signer ε} (verifies : signer.Verifies keys)
    {data sign : List UInt8} (signed : signer.sign data = .ok sign) (missing : HeaderError)
    (invalid : SignatureError → HeaderError) :
    checkSignature keys (some (signer.signature sign)) data missing invalid = .ok () := by
  obtain ⟨key, scheme, pubKey, decoded, accepts⟩ := verifies
  simp only [checkSignature, verifyMessageSignature, Signer.signature, if_neg key, if_neg scheme, decoded,
    accepts data sign signed, if_true]
  rfl

-- The signatures of one verification header: the meta header, the origin when `signedOrigin`,
-- the body exactly when `signedBody`.
structure HeaderSigned (keys : Keys κ) (enc : Encoding β) (body : β) (m : MetaHeader) (origin : VerificationHeader)
    (signedOrigin signedBody : Bool) (fields : VerifyFields) : Prop where
  metaSigned : checkSignature keys fields.metaSignature (enc.metaHeader m) .missingMetaSig .invalidMetaSig = .ok ()
  originSigned : signedOrigin = true →
    checkSignature keys fields.originSignature (enc.verification origin) .missingOriginSig .invalidOriginSig = .ok ()
  bodySigned : signedBody = true →
    checkSignature keys fields.bodySignature (enc.body body) .missingBodySig .invalidBodySig = .ok ()
  bodyAbsent : signedBody = false → fields.bodySignature = none

section Sign

variable (keys : Keys κ) (enc : Encoding β) (signer : Signer ε) (verifies : signer.Verifies keys)
include verifies

theorem signed_part {data : List UInt8} {wrap : ε → SignError ε} {signs : Bool} {part : Option (List UInt8)}
    (run : signer.signIf signs data wrap = .ok part)
    (missing : HeaderError) (invalid : SignatureError → HeaderError) :
    (signs = true → checkSignature keys (part.map signer.signature) data missing invalid = .ok ()) ∧
      (signs = false → part.map signer.signature = none) := by
  unfold Signer.signIf at run
  cases signs with
  | false =>
      cases run
      exact ⟨nofun, fun _ => rfl⟩
  | true =>
      obtain ⟨sign, signed, rfl⟩ := map_ok (map_error_ok run)
      exact ⟨fun _ => verifies.check signed missing invalid, nofun⟩

theorem sign_request_with_buffer_signed (body : β) (m : MetaHeader) (v result : VerificationHeader)
    (run : signRequestWithBuffer enc signer body m v = .ok result) :
    ∃ fields, result = fields :: v ∧
      HeaderSigned keys enc body m v (needsOriginSig m) (v = [] || !needsOriginSig m) fields := by
  unfold signRequestWithBuffer at run
  dsimp only at run
  obtain ⟨bs, bodyRun, run⟩ := bind_ok run
  obtain ⟨ms, metaRun, run⟩ := bind_ok run
  obtain ⟨vs, originRun, run⟩ := bind_ok run
  cases run
  have bodyPart := signed_part keys signer verifies bodyRun .missingBodySig .invalidBodySig
  have originPart := signed_part keys signer verifies originRun .missingOriginSig .invalidOriginSig
  exact ⟨_, rfl, verifies.check (map_error_ok metaRun) _ _, originPart.1, bodyPart.1, bodyPart.2⟩

theorem sign_response_with_buffer_signed (body : β) (m : MetaHeader) (v result : VerificationHeader)
    (run : signResponseWithBuffer enc signer body m v = .ok result) :
    ∃ fields, result = fields :: v ∧ HeaderSigned keys enc body m v true (v = []) fields := by
  unfold signResponseWithBuffer at run
  dsimp only at run
  obtain ⟨bs, bodyRun, run⟩ := bind_ok run
  obtain ⟨ms, metaRun, run⟩ := bind_ok run
  obtain ⟨vs, originRun, run⟩ := bind_ok run
  cases run
  have bodyPart := signed_part keys signer verifies bodyRun .missingBodySig .invalidBodySig
  exact ⟨_, rfl, verifies.check (map_error_ok metaRun) _ _, fun _ => verifies.check (map_error_ok originRun) _ _,
    bodyPart.1, bodyPart.2⟩

end Sign

section Verify

variable (keys : Keys κ) (enc : Encoding β) (body : β)

theorem verify_from_last {checkOrigin : Bool} {i : Nat} {m : MetaHeader} {fields : VerifyFields}
    {origin : VerificationHeader} (signed : HeaderSigned keys enc body m origin checkOrigin true fields)
    (last : (!checkOrigin || decide (origin = [])) = true) :
    verifyFrom keys enc body checkOrigin i m (fields :: origin) = .ok () := by
  cases checkOrigin with
  | false => simp [verifyFrom, signed.metaSigned, signed.bodySigned rfl, Except.mapError]
  | true =>
      obtain rfl : origin = [] := by simpa using last
      simp [verifyFrom, signed.metaSigned, signed.originSigned rfl, signed.bodySigned rfl, Except.mapError]

theorem verify_from_forwarded {i : Nat} {f : MetaFields} {m : MetaHeader} {fields : VerifyFields}
    {origin : VerificationHeader} (signed : HeaderSigned keys enc body (f :: m) origin true false fields)
    (forwarded : origin ≠ []) :
    verifyFrom keys enc body true i (f :: m) (fields :: origin) = verifyFrom keys enc body true (i + 1) m origin := by
  simp [verifyFrom, signed.metaSigned, signed.originSigned rfl, signed.bodyAbsent rfl, forwarded, Except.mapError]

theorem same_depth_single {m : MetaHeader} (single : m.tail = []) (fields : VerifyFields) : sameDepth m [fields] := by
  simp [sameDepth, single]

theorem same_depth_cons {f : MetaFields} {fields : VerifyFields} {m : MetaHeader} {v : VerificationHeader}
    (depth : sameDepth m v) (set : m ≠ []) (present : v ≠ []) : sameDepth (f :: m) (fields :: v) := by
  cases m with
  | nil => exact absurd rfl set
  | cons _ m =>
      cases v with
      | nil => exact absurd rfl present
      | cons _ v => simpa [sameDepth] using depth

-- What `VerifyRequestWithBuffer` needs of the chains: with origin signatures, chains of one
-- depth verifying at every level; without, the top header verifying.
structure RequestSigned (m : MetaHeader) (v : VerificationHeader) : Prop where
  present : v ≠ []
  unchecked : needsOriginSig m = false → ∀ i, verifyFrom keys enc body false i m v = .ok ()
  checked : needsOriginSig m = true → sameDepth m v ∧ ∀ i, verifyFrom keys enc body true i m v = .ok ()

structure ResponseSigned (m : MetaHeader) (v : VerificationHeader) : Prop where
  present : v ≠ []
  depth : sameDepth m v
  verified : ∀ i, verifyFrom keys enc body true i m v = .ok ()

variable {keys enc body}

theorem RequestSigned.verify {m : MetaHeader} {v : VerificationHeader} (signed : RequestSigned keys enc body m v) :
    verifyRequestWithBuffer keys enc body m v = .ok () := by
  unfold verifyRequestWithBuffer
  cases needs : needsOriginSig m with
  | false => simp [signed.present, signed.unchecked needs 0]
  | true =>
      obtain ⟨depth, verified⟩ := signed.checked needs
      simp [signed.present, depth, verified 0]

theorem ResponseSigned.verify {m : MetaHeader} {v : VerificationHeader} (signed : ResponseSigned keys enc body m v) :
    verifyResponseWithBuffer keys enc body m v = .ok () := by
  simp [verifyResponseWithBuffer, signed.present, signed.depth, signed.verified 0]

end Verify

/- The chain. A hop receives the request with meta header `m` and verification header `v`,
   sets its own meta fields over `m` and signs the request so wrapped. -/

structure Hop (ε : Type) where
  signer : Signer ε
  metaFields : MetaFields

section Chain

variable (enc : Encoding β) (body : β)

def forwardRequest (received : MetaHeader × VerificationHeader) (hop : Hop ε) :
    Except (SignError ε) (MetaHeader × VerificationHeader) :=
  (signRequestWithBuffer enc hop.signer body (hop.metaFields :: received.1) received.2).map
    fun v => (hop.metaFields :: received.1, v)

def forwardResponse (received : MetaHeader × VerificationHeader) (hop : Hop ε) :
    Except (SignError ε) (MetaHeader × VerificationHeader) :=
  (signResponseWithBuffer enc hop.signer body (hop.metaFields :: received.1) received.2).map
    fun v => (hop.metaFields :: received.1, v)

-- Signed by the sender `first` with meta header `m`, then forwarded by `hops` in order.
def signRequestChain (first : Signer ε) (m : MetaHeader) (hops : List (Hop ε)) :
    Except (SignError ε) (MetaHeader × VerificationHeader) := do
  let v ← signRequestWithBuffer enc first body m []
  hops.foldlM (forwardRequest enc body) (m, v)

def signResponseChain (first : Signer ε) (m : MetaHeader) (hops : List (Hop ε)) :
    Except (SignError ε) (MetaHeader × VerificationHeader) := do
  let v ← signResponseWithBuffer enc first body m []
  hops.foldlM (forwardResponse enc body) (m, v)

end Chain

def metaChain (m : MetaHeader) : List (Hop ε) → List MetaHeader
  | [] => [m]
  | hop :: hops => m :: metaChain (hop.metaFields :: m) hops

theorem mem_meta_chain (m : MetaHeader) (hops : List (Hop ε)) : m ∈ metaChain m hops := by
  cases hops <;> simp [metaChain]

def OriginSignedFirst (ms : List MetaHeader) : Prop :=
  ms.Pairwise fun a b => needsOriginSig a = false → needsOriginSig b = false

instance (ms : List MetaHeader) : Decidable (OriginSignedFirst ms) :=
  inferInstanceAs (Decidable (List.Pairwise _ ms))

theorem OriginSignedFirst.forward {m : MetaHeader} {hop : Hop ε} {hops : List (Hop ε)}
    (order : OriginSignedFirst (metaChain m (hop :: hops))) :
    (needsOriginSig (hop.metaFields :: m) = true → needsOriginSig m = true) ∧
      OriginSignedFirst (metaChain (hop.metaFields :: m) hops) := by
  rw [OriginSignedFirst, metaChain, List.pairwise_cons] at order
  obtain ⟨later, rest⟩ := order
  refine ⟨fun needs => ?_, rest⟩
  cases sender : needsOriginSig m with
  | false => simpa [needs] using later _ (mem_meta_chain _ hops) sender
  | true => rfl

section Forward

variable {keys : Keys κ} {enc : Encoding β} {body : β} {hop : Hop ε} (verifies : hop.signer.Verifies keys)
include verifies

theorem forward_request_signed {m : MetaHeader} {v : VerificationHeader} {result : MetaHeader × VerificationHeader}
    (signed : RequestSigned keys enc body m v) (set : m ≠ [])
    (order : needsOriginSig (hop.metaFields :: m) = true → needsOriginSig m = true)
    (run : forwardRequest enc body (m, v) hop = .ok result) :
    result.1 = hop.metaFields :: m ∧ RequestSigned keys enc body result.1 result.2 := by
  obtain ⟨v', signRun, rfl⟩ := map_ok run
  obtain ⟨fields, rfl, header⟩ := sign_request_with_buffer_signed keys enc hop.signer verifies body _ v v' signRun
  have forwarded : decide (v = []) = false := decide_eq_false signed.present
  refine ⟨rfl, List.cons_ne_nil _ _, fun needs i => ?_, fun needs => ?_⟩
  · -- a hop that needs no origin signatures signs the body itself
    rw [needs, forwarded] at header
    exact verify_from_last keys enc body header rfl
  · rw [needs, forwarded] at header
    obtain ⟨depth, below⟩ := signed.checked (order needs)
    refine ⟨same_depth_cons depth set signed.present, fun i => ?_⟩
    rw [verify_from_forwarded keys enc body header signed.present]
    exact below (i + 1)

theorem forward_response_signed {m : MetaHeader} {v : VerificationHeader} {result : MetaHeader × VerificationHeader}
    (signed : ResponseSigned keys enc body m v) (set : m ≠ [])
    (run : forwardResponse enc body (m, v) hop = .ok result) :
    result.1 = hop.metaFields :: m ∧ ResponseSigned keys enc body result.1 result.2 := by
  obtain ⟨v', signRun, rfl⟩ := map_ok run
  obtain ⟨fields, rfl, header⟩ := sign_response_with_buffer_signed keys enc hop.signer verifies body _ v v' signRun
  rw [decide_eq_false signed.present] at header
  refine ⟨rfl, List.cons_ne_nil _ _, same_depth_cons signed.depth set signed.present, fun i => ?_⟩
  rw [verify_from_forwarded keys enc body header signed.present]
  exact signed.verified (i + 1)

end Forward

section Run

variable {keys : Keys κ} {enc : Encoding β} {body : β} {first : Signer ε} (sound : first.Verifies keys)
include sound

theorem sent_request_signed {m : MetaHeader} (single : m.tail = []) {v : VerificationHeader}
    (run : signRequestWithBuffer enc first body m [] = .ok v) : RequestSigned keys enc body m v := by
  obtain ⟨fields, rfl, header⟩ := sign_request_with_buffer_signed keys enc first sound body m [] v run
  have header : HeaderSigned keys enc body m [] (needsOriginSig m) true fields := by simpa using header
  refine ⟨List.cons_ne_nil _ _, fun needs i => ?_, fun needs => ⟨same_depth_single single fields, fun i => ?_⟩⟩
  · exact verify_from_last keys enc body (needs ▸ header) (by simp)
  · exact verify_from_last keys enc body (needs ▸ header) (by simp)

theorem sent_response_signed {m : MetaHeader} (single : m.tail = []) {v : VerificationHeader}
    (run : signResponseWithBuffer enc first body m [] = .ok v) : ResponseSigned keys enc body m v := by
  obtain ⟨fields, rfl, header⟩ := sign_response_with_buffer_signed keys enc first sound body m [] v run
  have header : HeaderSigned keys enc body m [] true true fields := by simpa using header
  exact ⟨List.cons_ne_nil _ _, same_depth_single single fields, fun i => verify_from_last keys enc body header rfl⟩

-- The run lemmas: the invariant of the chain before `rest` is what the step lemmas need of it,
-- and `Lib.Except.foldl_m_ok_invariant` carries it over the hops.
theorem sign_request_chain_signed {m : MetaHeader} {hops : List (Hop ε)}
    (forwarders : ∀ hop ∈ hops, hop.signer.Verifies keys) (single : m.tail = []) (set : hops ≠ [] → m ≠ [])
    (order : OriginSignedFirst (metaChain m hops)) {final : MetaHeader × VerificationHeader}
    (run : signRequestChain enc body first m hops = .ok final) : RequestSigned keys enc body final.1 final.2 := by
  obtain ⟨v, sent, run⟩ := bind_ok run
  let P := fun (rest : List (Hop ε)) (s : MetaHeader × VerificationHeader) =>
    RequestSigned keys enc body s.1 s.2 ∧ (rest ≠ [] → s.1 ≠ []) ∧ OriginSignedFirst (metaChain s.1 rest) ∧
      ∀ hop ∈ rest, hop.signer.Verifies keys
  have step : ∀ hop rest s s', P (hop :: rest) s → forwardRequest enc body s hop = .ok s' → P rest s' := by
    rintro hop rest ⟨m, v⟩ s' ⟨signed, set, order, forwarders⟩ forwarded
    obtain ⟨before, later⟩ := order.forward
    obtain ⟨wrapped, signed⟩ :=
      forward_request_signed (forwarders hop List.mem_cons_self) signed (set (List.cons_ne_nil _ _)) before forwarded
    refine ⟨signed, fun _ => wrapped ▸ List.cons_ne_nil _ _, wrapped ▸ later, fun hop' mem => ?_⟩
    exact forwarders hop' (List.mem_cons_of_mem _ mem)
  exact (foldl_m_ok_invariant P step ⟨sent_request_signed sound single sent, set, order, forwarders⟩ run).1

theorem sign_response_chain_signed {m : MetaHeader} {hops : List (Hop ε)}
    (forwarders : ∀ hop ∈ hops, hop.signer.Verifies keys) (single : m.tail = []) (set : hops ≠ [] → m ≠ [])
    {final : MetaHeader × VerificationHeader}
    (run : signResponseChain enc body first m hops = .ok final) : ResponseSigned keys enc body final.1 final.2 := by
  obtain ⟨v, sent, run⟩ := bind_ok run
  let P := fun (rest : List (Hop ε)) (s : MetaHeader × VerificationHeader) =>
    ResponseSigned keys enc body s.1 s.2 ∧ (rest ≠ [] → s.1 ≠ []) ∧ ∀ hop ∈ rest, hop.signer.Verifies keys
  have step : ∀ hop rest s s', P (hop :: rest) s → forwardResponse enc body s hop = .ok s' → P rest s' := by
    rintro hop rest ⟨m, v⟩ s' ⟨signed, set, forwarders⟩ forwarded
    obtain ⟨wrapped, signed⟩ :=
      forward_response_signed (forwarders hop List.mem_cons_self) signed (set (List.cons_ne_nil _ _)) forwarded
    exact ⟨signed, fun _ => wrapped ▸ List.cons_ne_nil _ _, fun hop' mem => forwarders hop' (List.mem_cons_of_mem _ mem)⟩
  exact (foldl_m_ok_invariant P step ⟨sent_response_signed sound single sent, set, forwarders⟩ run).1

end Run

-- Signers of a scheme whose signature of data is the data, and encodings by length.
def echoKeys : Keys Unit := ⟨fun _ _ => .ok (), fun _ data sign => data == sign⟩

def echoSigner : Signer String := ⟨0, [1], .ok⟩

def depthEncoding : Encoding Unit := ⟨fun _ => [], fun m => [m.length.toUInt8], fun v => [v.length.toUInt8]⟩

theorem echo_signer_verifies : echoSigner.Verifies echoKeys := by
  refine ⟨by decide, by decide, (), rfl, fun data sign signed => ?_⟩
  cases signed
  simp [echoKeys]

-- A sender whose meta header already has an origin: its one verification header has none, and
-- both verifiers count the two chains apart.
theorem origin_meta_header_rejected :
    echoSigner.Verifies echoKeys ∧
      signRequestChain depthEncoding () echoSigner [⟨none⟩, ⟨none⟩] [] =
        .ok ([⟨none⟩, ⟨none⟩], [⟨some ⟨[1], [], 0⟩, some ⟨[1], [2], 0⟩, some ⟨[1], [0], 0⟩⟩]) ∧
      verifyRequestWithBuffer echoKeys depthEncoding () [⟨none⟩, ⟨none⟩]
        [⟨some ⟨[1], [], 0⟩, some ⟨[1], [2], 0⟩, some ⟨[1], [0], 0⟩⟩] = .error (.error .wrongVerifyHdrNum) ∧
      signResponseChain depthEncoding () echoSigner [⟨none⟩, ⟨none⟩] [] =
        .ok ([⟨none⟩, ⟨none⟩], [⟨some ⟨[1], [], 0⟩, some ⟨[1], [2], 0⟩, some ⟨[1], [0], 0⟩⟩]) ∧
      verifyResponseWithBuffer echoKeys depthEncoding () [⟨none⟩, ⟨none⟩]
        [⟨some ⟨[1], [], 0⟩, some ⟨[1], [2], 0⟩, some ⟨[1], [0], 0⟩⟩] = .error (.error .wrongVerifyHdrNum) :=
  ⟨echo_signer_verifies, by decide, by decide, by decide, by decide⟩

theorem signed_chain_verified (keys : Keys κ) (enc : Encoding β) (body : β) (first : Signer ε)
    (m : MetaHeader) (hops : List (Hop ε)) (sound : first.Verifies keys ∧ ∀ hop ∈ hops, hop.signer.Verifies keys)
    (single : m.tail = []) (set : hops ≠ [] → m ≠ []) :
    (OriginSignedFirst (metaChain m hops) → ∀ final, signRequestChain enc body first m hops = .ok final →
        verifyRequestWithBuffer keys enc body final.1 final.2 = .ok ()) ∧
      ∀ final, signResponseChain enc body first m hops = .ok final →
        verifyResponseWithBuffer keys enc body final.1 final.2 = .ok () := by
  obtain ⟨sender, forwarders⟩ := sound
  refine ⟨fun order final run => ?_, fun final run => ?_⟩
  · exact (sign_request_chain_signed sender forwarders single set order run).verify
  · exact (sign_response_chain_signed sender forwarders single set run).verify

-- Two hops, the second of version 2.25, which needs no origin signatures.
def versionedHops : List (Hop String) := [⟨echoSigner, ⟨none⟩⟩, ⟨echoSigner, ⟨some ⟨2, 25⟩⟩⟩]

theorem signed_chain_verified_two_hops :
    (echoSigner.Verifies echoKeys ∧ ∀ hop ∈ versionedHops, hop.signer.Verifies echoKeys) ∧
      ([⟨none⟩] : MetaHeader).tail = [] ∧ (versionedHops ≠ [] → ([⟨none⟩] : MetaHeader) ≠ []) ∧
      OriginSignedFirst (metaChain [⟨none⟩] versionedHops) ∧
      (signRequestChain depthEncoding () echoSigner [⟨none⟩] versionedHops).toBool = true ∧
      (signResponseChain depthEncoding () echoSigner [⟨none⟩] versionedHops).toBool = true ∧
      (OriginSignedFirst (metaChain [⟨none⟩] versionedHops) →
        ∀ final, signRequestChain depthEncoding () echoSigner [⟨none⟩] versionedHops = .ok final →
          verifyRequestWithBuffer echoKeys depthEncoding () final.1 final.2 = .ok ()) ∧
      ∀ final, signResponseChain depthEncoding () echoSigner [⟨none⟩] versionedHops = .ok final →
        verifyResponseWithBuffer echoKeys depthEncoding () final.1 final.2 = .ok () := by
  have sound : echoSigner.Verifies echoKeys ∧ ∀ hop ∈ versionedHops, hop.signer.Verifies echoKeys :=
    ⟨echo_signer_verifies, by simp [versionedHops, echo_signer_verifies]⟩
  exact ⟨sound, rfl, fun _ => List.cons_ne_nil _ _, by decide, by decide, by decide,
    signed_chain_verified echoKeys depthEncoding () echoSigner [⟨none⟩] versionedHops sound rfl
      (fun _ => List.cons_ne_nil _ _)⟩

end NeoFS.Crypto
