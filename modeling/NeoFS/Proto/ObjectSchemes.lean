import NeoFS.Proto.Object
import NeoFS.Proto.ObjectMessages
import NeoFS.Proto.ScanSpec

set_option autoImplicit false

/- The schemes of protoscan/messages.go that ObjectScheme reaches, each named by a constructor
   of `SchemeName`, and the alias table of scheme.go. -/
namespace NeoFS.Proto

inductive SchemeName where
  | version
  | checksum
  | signature
  | tokenLifetime
  | containerID
  | objectID
  | userID
  | sessionSubject
  | sessionContext
  | sessionTokenBody
  | sessionToken
  | sessionV1Context
  | sessionV1ObjectContext
  | sessionV1ContainerContext
  | sessionV1TokenBody
  | sessionV1Token
  | objectAttribute
  | objectSplitHeader
  | objectHeader
  | object
deriving DecidableEq, Repr

def SchemeName.all : List SchemeName :=
  [.version, .checksum, .signature, .tokenLifetime, .containerID, .objectID, .userID, .sessionSubject,
    .sessionContext, .sessionTokenBody, .sessionToken, .sessionV1Context, .sessionV1ObjectContext,
    .sessionV1ContainerContext, .sessionV1TokenBody, .sessionV1Token, .objectAttribute, .objectSplitHeader,
    .objectHeader, .object]

theorem SchemeName.mem_all (s : SchemeName) : s ∈ SchemeName.all := by
  cases s <;> decide

-- A `MessageScheme` literal: each map by its entries, an omitted map nil, no recursive field zero.
structure SchemeTable where
  fields : List (Nat × MessageField)
  binaryFields : List (Nat × BinaryFieldKind) := []
  nestedMessageFields : List (Nat × SchemeName) := []
  nestedMessageAliases : List (Nat × UInt8) := []
  recursiveField : Nat := 0

def fieldMap {α : Type} (entries : List (Nat × α)) (num : Nat) : Option α := entries.lookup num

def SchemeTable.toScheme (t : SchemeTable) : MessageScheme SchemeName :=
  ⟨fieldMap t.fields, fieldMap t.binaryFields, fieldMap t.nestedMessageFields, fieldMap t.nestedMessageAliases,
    t.recursiveField⟩

def newSimpleFieldsScheme (fs : List (Nat × MessageField)) : SchemeTable := { fields := fs }

def versionScheme : SchemeTable :=
  newSimpleFieldsScheme [(fieldVersionMajor, ⟨"major", .uint32⟩), (fieldVersionMinor, ⟨"minor", .uint32⟩)]

def checksumScheme : SchemeTable :=
  newSimpleFieldsScheme [(fieldChecksumType, ⟨"type", .enum⟩), (fieldChecksumValue, ⟨"value", .bytes⟩)]

def signatureScheme : SchemeTable :=
  newSimpleFieldsScheme [(fieldSignatureKey, ⟨"key", .bytes⟩), (fieldSignatureValue, ⟨"value", .bytes⟩),
    (fieldSignatureScheme, ⟨"scheme", .enum⟩)]

def tokenLifetimeScheme : SchemeTable :=
  newSimpleFieldsScheme [(1, ⟨"exp", .uint64⟩), (2, ⟨"nbf", .uint64⟩), (3, ⟨"iat", .uint64⟩)]

def newIDScheme (kind : BinaryFieldKind) : SchemeTable :=
  { fields := [(1, ⟨"value", .bytes⟩)], binaryFields := [(1, kind)] }

def containerIDScheme : SchemeTable := newIDScheme .sha256
def objectIDScheme : SchemeTable := newIDScheme .sha256
def userIDScheme : SchemeTable := newIDScheme .neo3Address

def sessionSubjectScheme : SchemeTable where
  fields := [(1, ⟨"owner", .nestedMessage⟩), (2, ⟨"NNS name", .string⟩)]
  nestedMessageFields := [(1, .userID)]

def sessionContextScheme : SchemeTable where
  fields := [(1, ⟨"container", .nestedMessage⟩), (2, ⟨"verbs", .repeatedEnum⟩)]
  nestedMessageFields := [(1, .containerID)]

def sessionTokenBodyScheme : SchemeTable where
  fields := [(1, ⟨"version", .uint32⟩), (2, ⟨"appdata", .bytes⟩), (3, ⟨"issuer", .nestedMessage⟩),
    (4, ⟨"subject", .nestedMessage⟩), (5, ⟨"lifetime", .nestedMessage⟩), (6, ⟨"contexts", .nestedMessage⟩),
    (7, ⟨"final", .bool⟩)]
  nestedMessageFields := [(3, .userID), (4, .sessionSubject), (5, .tokenLifetime), (6, .sessionContext)]

def sessionTokenScheme : SchemeTable where
  fields := [(1, ⟨"body", .nestedMessage⟩), (2, ⟨"signature", .nestedMessage⟩), (3, ⟨"origin", .nestedMessage⟩)]
  nestedMessageFields := [(1, .sessionTokenBody), (2, .signature)]
  recursiveField := 3

def sessionV1ContextScheme : SchemeTable where
  fields := [(1, ⟨"container", .nestedMessage⟩), (2, ⟨"objects", .nestedMessage⟩)]
  nestedMessageFields := [(1, .containerID), (2, .objectID)]

def sessionV1ObjectContextScheme : SchemeTable where
  fields := [(1, ⟨"verb", .enum⟩), (2, ⟨"target", .nestedMessage⟩)]
  nestedMessageFields := [(2, .sessionV1Context)]

def sessionV1ContainerContextScheme : SchemeTable where
  fields := [(1, ⟨"verb", .enum⟩), (2, ⟨"wildcard", .bool⟩), (3, ⟨"container", .nestedMessage⟩)]
  nestedMessageFields := [(3, .containerID)]

def sessionV1TokenBodyScheme : SchemeTable where
  fields := [(1, ⟨"id", .bytes⟩), (2, ⟨"owner", .nestedMessage⟩), (3, ⟨"lifetime", .nestedMessage⟩),
    (4, ⟨"session key", .bytes⟩), (5, ⟨"object context", .nestedMessage⟩), (6, ⟨"container context", .nestedMessage⟩)]
  binaryFields := [(1, .uuidV4)]
  nestedMessageFields := [(2, .userID), (3, .tokenLifetime), (5, .sessionV1ObjectContext),
    (6, .sessionV1ContainerContext)]

def sessionV1TokenScheme : SchemeTable where
  fields := [(1, ⟨"body", .nestedMessage⟩), (2, ⟨"signature", .nestedMessage⟩)]
  nestedMessageFields := [(1, .sessionV1TokenBody), (2, .signature)]

def objectAttributeScheme : SchemeTable :=
  newSimpleFieldsScheme [(fieldAttributeKey, ⟨"key", .string⟩), (fieldAttributeValue, ⟨"value", .string⟩)]

-- `SchemeAliasObjectHeader`.
def schemeAliasObjectHeader : UInt8 := 1

def objectSplitHeaderScheme : SchemeTable where
  fields := [(1, ⟨"parent", .nestedMessage⟩), (2, ⟨"previous", .nestedMessage⟩),
    (3, ⟨"parent signature", .nestedMessage⟩), (4, ⟨"parent header", .nestedMessage⟩),
    (5, ⟨"children", .nestedMessage⟩), (6, ⟨"split ID", .bytes⟩), (7, ⟨"first", .nestedMessage⟩)]
  binaryFields := [(6, .uuidV4)]
  nestedMessageFields := [(1, .objectID), (2, .objectID), (3, .signature), (5, .objectID), (7, .objectID)]
  nestedMessageAliases := [(4, schemeAliasObjectHeader)]

def objectHeaderScheme : SchemeTable where
  fields := [(fieldHeaderVersion, ⟨"version", .nestedMessage⟩),
    (fieldHeaderContainerID, ⟨"container ID", .nestedMessage⟩), (fieldHeaderOwnerID, ⟨"owner ID", .nestedMessage⟩),
    (fieldHeaderCreationEpoch, ⟨"creation epoch", .uint64⟩), (fieldHeaderPayloadLength, ⟨"payload length", .uint64⟩),
    (fieldHeaderPayloadHash, ⟨"payload hash", .nestedMessage⟩), (fieldHeaderObjectType, ⟨"type", .enum⟩),
    (fieldHeaderHomomorphicHash, ⟨"homomorphic hash", .nestedMessage⟩),
    (fieldHeaderSessionToken, ⟨"session V1 token", .nestedMessage⟩),
    (fieldHeaderAttributes, ⟨"attribute", .nestedMessage⟩), (fieldHeaderSplit, ⟨"split", .nestedMessage⟩),
    (fieldHeaderSessionV2, ⟨"session token", .nestedMessage⟩)]
  nestedMessageFields := [(fieldHeaderVersion, .version), (fieldHeaderContainerID, .containerID),
    (fieldHeaderOwnerID, .userID), (fieldHeaderPayloadHash, .checksum), (fieldHeaderHomomorphicHash, .checksum),
    (fieldHeaderAttributes, .objectAttribute), (fieldHeaderSessionToken, .sessionV1Token),
    (fieldHeaderSplit, .objectSplitHeader), (fieldHeaderSessionV2, .sessionToken)]

def objectScheme : SchemeTable where
  fields := [(fieldObjectID, ⟨"ID", .nestedMessage⟩), (fieldObjectSignature, ⟨"signature", .nestedMessage⟩),
    (fieldObjectHeader, ⟨"header", .nestedMessage⟩), (fieldObjectPayload, ⟨"payload", .bytes⟩)]
  nestedMessageFields := [(fieldObjectID, .objectID), (fieldObjectSignature, .signature),
    (fieldObjectHeader, .objectHeader)]

def SchemeName.table : SchemeName → SchemeTable
  | .version => versionScheme
  | .checksum => checksumScheme
  | .signature => signatureScheme
  | .tokenLifetime => tokenLifetimeScheme
  | .containerID => containerIDScheme
  | .objectID => objectIDScheme
  | .userID => userIDScheme
  | .sessionSubject => sessionSubjectScheme
  | .sessionContext => sessionContextScheme
  | .sessionTokenBody => sessionTokenBodyScheme
  | .sessionToken => sessionTokenScheme
  | .sessionV1Context => sessionV1ContextScheme
  | .sessionV1ObjectContext => sessionV1ObjectContextScheme
  | .sessionV1ContainerContext => sessionV1ContainerContextScheme
  | .sessionV1TokenBody => sessionV1TokenBodyScheme
  | .sessionV1Token => sessionV1TokenScheme
  | .objectAttribute => objectAttributeScheme
  | .objectSplitHeader => objectSplitHeaderScheme
  | .objectHeader => objectHeaderScheme
  | .object => objectScheme

-- `resolveScheme`; an alias it does not know is the panic scanField raises on none.
def resolveScheme (schemeAlias : UInt8) : Option SchemeName :=
  if schemeAlias = schemeAliasObjectHeader then some .objectHeader else none

def messageSchemes : Schemes SchemeName := ⟨fun s => s.table.toScheme, resolveScheme⟩

section Closed

variable {σ : Type} (schemes : Schemes σ)

def nestedSchemeOf (scheme : σ) (num : Nat) : Option σ :=
  if num = (schemes.scheme scheme).recursiveField then some scheme
  else
    match (schemes.scheme scheme).nestedMessageFields num with
    | some inner => some inner
    | none => ((schemes.scheme scheme).nestedMessageAliases num).bind schemes.resolve

theorem NestedScheme.of_nested_scheme_of {scheme inner : σ} {num : Nat}
    (found : nestedSchemeOf schemes scheme num = some inner) : NestedScheme schemes scheme num inner := by
  unfold nestedSchemeOf at found
  split_ifs at found with same
  · cases found
    exact .recursive same
  · cases named : (schemes.scheme scheme).nestedMessageFields num with
    | some other =>
        simp only [named, Option.some.injEq] at found
        exact found ▸ .nested same named
    | none =>
        simp only [named] at found
        obtain ⟨schemeAlias, aliased, resolved⟩ := Option.bind_eq_some_iff.mp found
        exact .viaAlias same named aliased resolved

def knownFieldTypes : List FieldType :=
  [.uint32, .uint64, .enum, .repeatedEnum, .bool, .string, .bytes, .nestedMessage]

def knownBinaryKinds : List BinaryFieldKind := [.sha256, .neo3Address, .uuidV4]

/-- Schemes the scan never finds wanting: every field has a type scanField knows, every nested
message field a scheme to descend into, and every binary kind is one verifyBinaryField knows, on
a bytes field. On other schemes the scan fails with "unsupported field", "format of ... is not
specified", or a panic on an unknown kind or alias. -/
structure Schemes.Closed : Prop where
  known : ∀ s num f, (schemes.scheme s).fields num = some f → f.typ ∈ knownFieldTypes
  nested : ∀ s num, Declares schemes s num .nestedMessage → ∃ inner, NestedScheme schemes s num inner
  binary : ∀ s num k, (schemes.scheme s).binaryFields num = some k →
    Declares schemes s num .bytes ∧ k ∈ knownBinaryKinds

end Closed

theorem field_map_mem {α : Type} {entries : List (Nat × α)} {num : Nat} {v : α}
    (found : fieldMap entries num = some v) : (num, v) ∈ entries := by
  obtain ⟨before, after, rfl, -⟩ := List.lookup_eq_some_iff.mp found
  simp

theorem tables_checked : ∀ s ∈ SchemeName.all,
    (∀ p ∈ s.table.fields, p.2.typ ∈ knownFieldTypes ∧
      (p.2.typ = .nestedMessage → (nestedSchemeOf messageSchemes s p.1).isSome)) ∧
    (∀ p ∈ s.table.binaryFields,
      (fieldMap s.table.fields p.1).map MessageField.typ = some .bytes ∧ p.2 ∈ knownBinaryKinds) := by
  decide

theorem message_schemes_closed : messageSchemes.Closed where
  known s num f field := ((tables_checked s (SchemeName.mem_all s)).1 _ (field_map_mem field)).1
  nested s num declared := by
    obtain ⟨name, field⟩ := declared
    have resolves := ((tables_checked s (SchemeName.mem_all s)).1 _ (field_map_mem field)).2 rfl
    obtain ⟨inner, found⟩ := Option.isSome_iff_exists.mp resolves
    exact ⟨inner, NestedScheme.of_nested_scheme_of messageSchemes found⟩
  binary s num k kind := by
    obtain ⟨bytes, known⟩ := (tables_checked s (SchemeName.mem_all s)).2 _ (field_map_mem kind)
    obtain ⟨⟨name, typ⟩, field, rfl⟩ := Option.map_eq_some_iff.mp bytes
    exact ⟨⟨name, field⟩, known⟩

end NeoFS.Proto
