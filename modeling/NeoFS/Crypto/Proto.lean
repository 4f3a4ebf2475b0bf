import NeoFS.Go.Basic

set_option autoImplicit false

/- Signing and verification of NeoFS API requests and responses (crypto/proto.go). A meta
   header and a verification header are each a chain through `Origin`; a chain is the list of
   its headers from the top, the empty list being a nil header. The headers' other fields are
   only ever encoded, so a header keeps the fields the code reads and the encodings of whole
   chains are parameters, functions of the message as `MarshalStable` into a buffer of
   `MarshaledSize` bytes is. The registered key schemes (`decodePublicKey` and
   `PublicKey.Verify`) and the signers are parameters too. -/
namespace NeoFS.Crypto

structure Version where
  major : UInt32
  minor : UInt32
deriving DecidableEq, Repr

-- `RequestMetaHeader` and `ResponseMetaHeader` without their origin.
structure MetaFields where
  version : Option Version
deriving DecidableEq, Repr

abbrev MetaHeader := List MetaFields

structure Signature where
  key : List UInt8
  sign : List UInt8
  scheme : Int32
deriving DecidableEq, Repr

-- `RequestVerificationHeader` and `ResponseVerificationHeader` without their origin.
structure VerifyFields where
  bodySignature : Option Signature
  metaSignature : Option Signature
  originSignature : Option Signature
deriving DecidableEq, Repr

abbrev VerificationHeader := List VerifyFields

structure Encoding (β : Type) where
  body : β → List UInt8
  metaHeader : MetaHeader → List UInt8
  verification : VerificationHeader → List UInt8

structure Keys (κ : Type) where
  decodePublicKey : Int32 → List UInt8 → Except String κ
  verify : κ → List UInt8 → List UInt8 → Bool

-- A `neofscrypto.Signer`: its scheme, `PublicKeyBytes` of its public key, and `Sign`.
structure Signer (ε : Type) where
  scheme : Int32
  publicKey : List UInt8
  sign : List UInt8 → Except ε (List UInt8)

inductive SignError (ε : Type) where
  | body (cause : ε)
  | metaHeader (cause : ε)
  | origin (cause : ε)
deriving DecidableEq, Repr

inductive SignatureError where
  | missingPublicKey
  | negativeScheme (scheme : Int32)
  | decode (cause : String)
  | mismatch
deriving DecidableEq, Repr

inductive HeaderError where
  | missingMetaSig
  | invalidMetaSig (cause : SignatureError)
  | missingOriginSig
  | invalidOriginSig (cause : SignatureError)
  | missingBodySig
  | invalidBodySig (cause : SignatureError)
  | nonOriginBodySig
deriving DecidableEq, Repr

inductive VerifyError where
  | missingVerifyHdr
  | wrongVerifyHdrNum
  | invalidHeader (depth : Nat) (cause : HeaderError)
deriving DecidableEq, Repr

def SignatureError.message : SignatureError → String
  | .missingPublicKey => "missing public key"
  | .negativeScheme scheme => "negative scheme " ++ toString scheme
  | .decode cause => cause
  | .mismatch => "signature mismatch"

def HeaderError.message : HeaderError → String
  | .missingMetaSig => "missing meta header's signature"
  | .invalidMetaSig cause => "invalid meta header's signature: " ++ cause.message
  | .missingOriginSig => "missing verification header's origin signature"
  | .invalidOriginSig cause => "invalid verification header's origin signature: " ++ cause.message
  | .missingBodySig => "missing body signature"
  | .invalidBodySig cause => "invalid body signature: " ++ cause.message
  | .nonOriginBodySig => "body signature is set in non-origin verification header"

def VerifyError.message : VerifyError → String
  | .missingVerifyHdr => "missing verification header"
  | .wrongVerifyHdrNum => "incorrect number of verification headers"
  | .invalidHeader depth cause => "invalid verification header at depth " ++ toString depth ++ ": " ++ cause.message

def needsOriginSig : MetaHeader → Bool
  | [] => true
  | ⟨none⟩ :: _ => true
  | ⟨some v⟩ :: _ => v.major < 2 || (v.major == 2 && v.minor < 25)

def verifyMessageSignature {κ : Type} (keys : Keys κ) (data : List UInt8) (s : Signature) :
    Except SignatureError Unit :=
  if s.key = [] then .error .missingPublicKey
  else if s.scheme < 0 then .error (.negativeScheme s.scheme)
  else
    match keys.decodePublicKey s.scheme s.key with
    | .error cause => .error (.decode cause)
    | .ok pubKey => if keys.verify pubKey data s.sign then .ok () else .error .mismatch

section Signing

variable {β ε : Type} (enc : Encoding β) (signer : Signer ε)

def Signer.signature (sign : List UInt8) : Signature := ⟨signer.publicKey, sign, signer.scheme⟩

-- A part signed only when `signs`, as in `if signBody { ... }`.
def Signer.signIf (signs : Bool) (data : List UInt8) (wrap : ε → SignError ε) :
    Except (SignError ε) (Option (List UInt8)) :=
  if signs then (signer.sign data).map some |>.mapError wrap else .ok none

-- `SignRequestWithBuffer`: the new top verification header, whose origin is the old one.
def signRequestWithBuffer (body : β) (m : MetaHeader) (v : VerificationHeader) :
    Except (SignError ε) VerificationHeader := do
  let signedOrigin := needsOriginSig m
  let signBody := v = [] || !signedOrigin
  let bs ← signer.signIf signBody (enc.body body) .body
  let ms ← (signer.sign (enc.metaHeader m)).mapError .metaHeader
  let vs ← signer.signIf signedOrigin (enc.verification v) .origin
  .ok (⟨bs.map signer.signature, some (signer.signature ms), vs.map signer.signature⟩ :: v)

-- `SignResponseWithBuffer`: the origin is always signed.
def signResponseWithBuffer (body : β) (m : MetaHeader) (v : VerificationHeader) :
    Except (SignError ε) VerificationHeader := do
  let signBody := v = []
  let bs ← signer.signIf signBody (enc.body body) .body
  let ms ← (signer.sign (enc.metaHeader m)).mapError .metaHeader
  let vs ← (signer.sign (enc.verification v)).mapError .origin
  .ok (⟨bs.map signer.signature, some (signer.signature ms), some (signer.signature vs)⟩ :: v)

end Signing

section Verification

variable {β κ : Type} (keys : Keys κ) (enc : Encoding β) (body : β)

def checkSignature (present : Option Signature) (data : List UInt8) (missing : HeaderError)
    (invalid : SignatureError → HeaderError) : Except HeaderError Unit :=
  match present with
  | none => .error missing
  | some s => (verifyMessageSignature keys data s).mapError invalid

-- The loop of `VerifyRequestWithBufferN3` (with no N3 verifier) and of `VerifyResponseWithBuffer`
-- from depth `i` down.
-- The loop of `VerifyRequestWithBufferN3` (with no N3 verifier) and of
-- `VerifyResponseWithBuffer` from depth `i` down. A verification header with an origin is
-- checked further only when origin signatures are; the body is signed at the bottom.
def verifyFrom (checkOrigin : Bool) :
    Nat → MetaHeader → VerificationHeader → Except (Go.Failure VerifyError) Unit
  | _, _, [] => .error (.panic "runtime error: invalid memory address or nil pointer dereference")
  | i, m, v :: origin => do
      let atDepth := fun (check : Except HeaderError Unit) => check.mapError fun cause => .error (.invalidHeader i cause)
      atDepth (checkSignature keys v.metaSignature (enc.metaHeader m) .missingMetaSig .invalidMetaSig)
      if checkOrigin then
        atDepth (checkSignature keys v.originSignature (enc.verification origin) .missingOriginSig .invalidOriginSig)
      if !checkOrigin || origin = [] then
        atDepth (checkSignature keys v.bodySignature (enc.body body) .missingBodySig .invalidBodySig)
      else if v.bodySignature.isSome then .error (.error (.invalidHeader i .nonOriginBodySig))
      else
        match m with
        | [] => .error (.panic "runtime error: invalid memory address or nil pointer dereference")
        | _ :: mOrigin => verifyFrom checkOrigin (i + 1) mOrigin origin
termination_by structural _ _ v => v

-- The number of origins of both chains agree, as the first loop of both verifiers checks.
def sameDepth (m : MetaHeader) (v : VerificationHeader) : Bool :=
  m.tail.length == v.tail.length

def verifyRequestWithBuffer (m : MetaHeader) (v : VerificationHeader) : Except (Go.Failure VerifyError) Unit :=
  if v = [] then .error (.error .missingVerifyHdr)
  else
    let checkOrigin := needsOriginSig m
    if checkOrigin && !sameDepth m v then .error (.error .wrongVerifyHdrNum)
    else verifyFrom keys enc body checkOrigin 0 m v

def verifyResponseWithBuffer (m : MetaHeader) (v : VerificationHeader) : Except (Go.Failure VerifyError) Unit :=
  if v = [] then .error (.error .missingVerifyHdr)
  else if !sameDepth m v then .error (.error .wrongVerifyHdrNum)
  else verifyFrom keys enc body true 0 m v

end Verification

end NeoFS.Crypto
