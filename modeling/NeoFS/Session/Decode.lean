import NeoFS.Session.Token

set_option autoImplicit false

/- `Token.fromProtoMessage` (session/v2/token.go): a `SessionTokenV2` message decoded into a
   token that already has values. A message's origin chain is a list as a token's is; a message
   pointer is an `Option`, the getters of a nil one giving the zero value. What the decoder
   writes into the receiver before it fails is not modelled: a failed decoding is its error. -/
namespace NeoFS.Session

structure TargetMessage where
  -- the `Identifier` oneof: an `OwnerId` message pointer, or an NNS name
  identifier : Option (Sum (Option (List UInt8)) String)

structure ContextMessage where
  container : Option (List UInt8)
  verbs : List Int32

structure LifetimeMessage where
  iat : UInt64
  nbf : UInt64
  exp : UInt64

structure BodyMessage where
  version : UInt32
  appdata : List UInt8
  issuer : Option (List UInt8)
  subjects : List (Option TargetMessage)
  lifetime : Option LifetimeMessage
  contexts : List (Option ContextMessage)
  final : Bool

def BodyMessage.empty : BodyMessage := ⟨0, [], none, [], none, [], false⟩

structure SignatureMessage where
  key : List UInt8
  sign : List UInt8
  scheme : Int32

-- `SessionTokenV2` without its origin.
structure TokenMessage where
  body : Option BodyMessage
  signature : Option SignatureMessage

def Token.zero : Token :=
  ⟨⟨Time.zero, Time.zero, Time.zero⟩, 0, [], UserID.zero, [], [], false, false⟩

def Target.zero : Target := ⟨UserID.zero, ""⟩

section Decoding

variable (checksum : List UInt8 → List UInt8)

def Target.fromProtoMessage (t : Target) (m : TargetMessage) : Except String Target :=
  match m.identifier with
  | some (.inl none) => .error "nil owner ID in target"
  | some (.inl (some id)) => (UserID.fromProtoMessage checksum id).map fun ownerID => { t with ownerID := ownerID }
  | some (.inr "") => .error "empty NNS name in target"
  | some (.inr nnsName) => .ok { t with nnsName := nnsName }
  | none => .error "unknown target identifier type: <nil>"

def decodeVerbs : List Int32 → Except String (List Verb)
  | [] => .ok []
  | v :: rest => if v < 0 then .error ("negative verb " ++ toString v) else (decodeVerbs rest).map (v :: ·)

def Context.fromProtoMessage (c : Context) (m : ContextMessage) : Except String Context := do
  if m.container.isNone && m.verbs.isEmpty then throw "empty context"
  let container ← match m.container with
    | some id => (ContainerID.fromProtoMessage id).mapError ("invalid container: " ++ ·)
    | none => pure c.container
  let verbs ← decodeVerbs m.verbs
  pure ⟨container, verbs⟩

-- The loops over the repeated fields, from `index` on, each element decoded into a fresh value
-- as `make` leaves it.
def decodeSubjects : Nat → List (Option TargetMessage) → Except String (List Target)
  | _, [] => .ok []
  | i, none :: _ => .error ("nil subject at index " ++ toString i)
  | i, some m :: rest => do
      let t ← (Target.zero.fromProtoMessage checksum m).mapError
        ("invalid subject at index " ++ toString i ++ ": " ++ ·)
      let ts ← decodeSubjects (i + 1) rest
      pure (t :: ts)

def decodeContexts : Nat → List (Option ContextMessage) → Except String (List Context)
  | _, [] => .ok []
  | i, none :: _ => .error ("nil context at index " ++ toString i)
  | i, some m :: rest => do
      let c ← (Context.fromProtoMessage ⟨ContainerID.zero, []⟩ m).mapError
        ("invalid context at index " ++ toString i ++ ": " ++ ·)
      let cs ← decodeContexts (i + 1) rest
      pure (c :: cs)

def unixTime (s : UInt64) : Time := s.toInt64.toInt

def decodeBody (checkFieldPresence : Bool) (x : Token) (body : Option BodyMessage) : Except String Token := do
  if checkFieldPresence && body.isNone then throw "missing token body"
  let b := body.getD BodyMessage.empty
  let x := { x with version := b.version, appdata := b.appdata, final := b.final }
  let x ← match b.issuer with
    | some id => do
        let issuer ← (UserID.fromProtoMessage checksum id).mapError ("invalid issuer: " ++ ·)
        pure { x with issuer := issuer }
    | none => if checkFieldPresence then throw "missing issuer" else pure { x with issuer := UserID.zero }
  let x ← if b.subjects.isEmpty then
      (if checkFieldPresence then throw "missing subjects" else pure x)
    else (decodeSubjects checksum 0 b.subjects).map fun subjects => { x with subjects := subjects }
  if checkFieldPresence && b.lifetime.isNone then throw "missing token lifetime"
  let x := match b.lifetime with
    | some l => { x with lifetime := ⟨unixTime l.iat, unixTime l.nbf, unixTime l.exp⟩ }
    | none => x
  if b.contexts.isEmpty then
    (if checkFieldPresence then throw "missing contexts" else pure x)
  else (decodeContexts 0 b.contexts).map fun contexts => { x with contexts := contexts }

-- `neofscrypto.Signature.FromProtoMessage`: the checks; the signature's bytes are not kept.
def checkSignatureMessage (m : SignatureMessage) : Except String Unit := do
  if m.scheme < 0 then throw ("negative scheme " ++ toString m.scheme)
  if 1024 < m.key.length then throw ("verification script len " ++ toString m.key.length ++ " overflows limit 1024")
  if 1024 < m.sign.length then throw ("invocation script len " ++ toString m.sign.length ++ " overflows limit 1024")

def decodeSignature (checkFieldPresence : Bool) (x : Token) (signature : Option SignatureMessage) :
    Except String Token :=
  match signature with
  | some m => ((checkSignatureMessage m).mapError ("invalid body signature: " ++ ·)).map
      fun () => { x with sigSet := true }
  | none => if checkFieldPresence then .error "missing body signature" else .ok { x with sigSet := false }

-- `x.fromProtoMessage(m, checkFieldPresence)` of the token `x` with origin chain `origins`: the
-- decoded token and its origin chain.
def Token.fromProtoMessage (checkFieldPresence : Bool) : Token → List Token → TokenMessage → List TokenMessage →
    Except String (Token × List Token)
  | x, origins, m, [] => do
      let x ← decodeBody checksum checkFieldPresence x m.body
      let x ← decodeSignature checkFieldPresence x m.signature
      pure (x, origins)
  | x, _, m, mOrigin :: mOrigins => do
      let x ← decodeBody checksum checkFieldPresence x m.body
      let (origin, originOrigins) ← (Token.fromProtoMessage checkFieldPresence Token.zero [] mOrigin mOrigins).mapError
        ("invalid origin token: " ++ ·)
      let x ← decodeSignature checkFieldPresence x m.signature
      pure (x, origin :: originOrigins)

-- `Unmarshal` and `UnmarshalJSON`: the message as `neofsproto.UnmarshalMessage` (or its JSON
-- counterpart), given here as `decode`, reads it, then decoded without presence checks.
def Token.unmarshal (decode : List UInt8 → Except String (TokenMessage × List TokenMessage)) (x : Token)
    (origins : List Token) (data : List UInt8) : Except String (Token × List Token) := do
  let (m, mOrigins) ← decode data
  Token.fromProtoMessage checksum false x origins m mOrigins

end Decoding

-- What the receivers hold: a token with an origin.
def heldOrigin : Token :=
  ⟨⟨50, 50, 300⟩, 0, [], UserID.zero, [⟨UserID.zero, "root"⟩], [⟨ContainerID.zero, [1, 2]⟩], false, true⟩

def heldToken : Token :=
  ⟨⟨100, 100, 200⟩, 0, [], UserID.zero, [⟨UserID.zero, "alice"⟩], [⟨ContainerID.zero, [1]⟩], false, true⟩

def completeMessage (issuer : List UInt8) : TokenMessage :=
  ⟨some ⟨0, [], some issuer, [some ⟨some (.inr "bob")⟩], some ⟨100, 100, 200⟩,
    [some ⟨some (List.replicate 32 7), [2]⟩], false⟩, some ⟨[1], [1], 0⟩⟩

-- Decoding depends on the receiver: `Unmarshal` of the empty message keeps the receiver's
-- subjects, lifetime, contexts and origin, and `FromProtoMessage` of a complete message without
-- origin keeps the receiver's origin.
theorem fromProtoMessage_keeps_receiver (checksum : List UInt8 → List UInt8)
    (decode : List UInt8 → Except String (TokenMessage × List TokenMessage)) (issuerBytes : List UInt8)
    (issuer : UserID) (empty : decode [] = .ok (⟨none, none⟩, []))
    (decodes : UserID.fromProtoMessage checksum issuerBytes = .ok issuer) :
    (Token.unmarshal checksum decode Token.zero [] [] = .ok (Token.zero, []) ∧
      Token.unmarshal checksum decode heldToken [heldOrigin] [] = .ok ({ heldToken with sigSet := false }, [heldOrigin])) ∧
    (Token.fromProtoMessage checksum true Token.zero [] (completeMessage issuerBytes) [] =
        .ok (⟨⟨100, 100, 200⟩, 0, [], issuer, [⟨UserID.zero, "bob"⟩], [⟨⟨List.replicate 32 7, List.length_replicate⟩, [2]⟩], false, true⟩, []) ∧
      Token.fromProtoMessage checksum true heldToken [heldOrigin] (completeMessage issuerBytes) [] =
        .ok (⟨⟨100, 100, 200⟩, 0, [], issuer, [⟨UserID.zero, "bob"⟩], [⟨⟨List.replicate 32 7, List.length_replicate⟩, [2]⟩], false, true⟩,
          [heldOrigin])) := by
  refine ⟨⟨?_, ?_⟩, ?_, ?_⟩
  · rw [Token.unmarshal, empty]; rfl
  · rw [Token.unmarshal, empty]; rfl
  · simp [Token.fromProtoMessage, decodeBody, completeMessage, decodes]
    rfl
  · simp [Token.fromProtoMessage, decodeBody, completeMessage, decodes]
    rfl

def zeroChecksum (_ : List UInt8) : List UInt8 := [0, 0, 0, 0]

def emptyDecoder (data : List UInt8) : Except String (TokenMessage × List TokenMessage) :=
  if data = [] then .ok (⟨none, none⟩, []) else .error "proto: cannot parse invalid wire-format data"

def checksummedIssuer : List UInt8 := neo3Prefix :: List.replicate 20 1 ++ [0, 0, 0, 0]

theorem receiver_kept_on_decoding :
    emptyDecoder [] = .ok (⟨none, none⟩, []) ∧
    UserID.fromProtoMessage zeroChecksum checksummedIssuer = .ok ⟨checksummedIssuer, rfl⟩ ∧
    (Token.unmarshal zeroChecksum emptyDecoder Token.zero [] [] = .ok (Token.zero, []) ∧
      Token.unmarshal zeroChecksum emptyDecoder heldToken [heldOrigin] [] =
        .ok ({ heldToken with sigSet := false }, [heldOrigin])) ∧
    (Token.fromProtoMessage zeroChecksum true Token.zero [] (completeMessage checksummedIssuer) [] =
        .ok (⟨⟨100, 100, 200⟩, 0, [], ⟨checksummedIssuer, rfl⟩, [⟨UserID.zero, "bob"⟩],
          [⟨⟨List.replicate 32 7, List.length_replicate⟩, [2]⟩], false, true⟩, []) ∧
      Token.fromProtoMessage zeroChecksum true heldToken [heldOrigin] (completeMessage checksummedIssuer) [] =
        .ok (⟨⟨100, 100, 200⟩, 0, [], ⟨checksummedIssuer, rfl⟩, [⟨UserID.zero, "bob"⟩],
          [⟨⟨List.replicate 32 7, List.length_replicate⟩, [2]⟩], false, true⟩, [heldOrigin])) := by
  have decodes : UserID.fromProtoMessage zeroChecksum checksummedIssuer = .ok ⟨checksummedIssuer, rfl⟩ := by decide
  exact ⟨rfl, decodes,
    fromProtoMessage_keeps_receiver zeroChecksum emptyDecoder checksummedIssuer ⟨checksummedIssuer, rfl⟩ rfl decodes⟩

end NeoFS.Session
