import NeoFS.Go.Basic
import NeoFS.Refs

set_option autoImplicit false

/- Session token V2 (session/v2/token.go): the fields of a token, `Validate` over its
   delegation chain, and the checks of what a token authorizes. A token's origin chain is the
   list of the tokens it was delegated from, its origin first. A `time.Time` is the whole number
   of seconds from the Unix epoch, as every setter truncates it. The signature is kept as whether
   it is set: nothing here reads its bytes. The model does not tell a nil slice from an empty
   one; where Go does (the origin's wildcard verbs), only which error is returned differs. -/
namespace NeoFS.Session

open NeoFS.Go

abbrev Verb := Int32

def Verb.unspecified : Verb := 0
def Verb.objectPut : Verb := 1
def Verb.objectGet : Verb := 2
def Verb.objectHead : Verb := 3
def Verb.objectSearch : Verb := 4
def Verb.objectDelete : Verb := 5
def Verb.objectRange : Verb := 6
def Verb.objectRangeHash : Verb := 7
def Verb.containerPut : Verb := 8
def Verb.containerDelete : Verb := 9
def Verb.containerSetEACL : Verb := 10
def Verb.containerSetAttribute : Verb := 11
def Verb.containerRemoveAttribute : Verb := 12

def Verb.string (v : Verb) : String :=
  match v.toInt with
  | 1 => "OBJECT_PUT"
  | 2 => "OBJECT_GET"
  | 3 => "OBJECT_HEAD"
  | 4 => "OBJECT_SEARCH"
  | 5 => "OBJECT_DELETE"
  | 6 => "OBJECT_RANGE"
  | 7 => "OBJECT_RANGE_HASH"
  | 8 => "CONTAINER_PUT"
  | 9 => "CONTAINER_DELETE"
  | 10 => "CONTAINER_SET_EACL"
  | 11 => "CONTAINER_SET_ATTRIBUTE"
  | 12 => "CONTAINER_REMOVE_ATTRIBUTE"
  | _ => "UNSPECIFIED"

def tokenCurrentVersion : UInt32 := 0
def maxSubjectsPerToken : Nat := 8
def maxContextsPerToken : Nat := 16
def maxVerbsPerContext : Nat := 12
def maxDelegationDepth : Nat := 4
def maxAppDataSize : Nat := 1024

abbrev Time := Int

-- `time.Time{}`, January 1 of year 1 UTC.
def Time.zero : Time := -62135596800

def Time.isZero (t : Time) : Bool := t == Time.zero

structure Lifetime where
  iat : Time
  nbf : Time
  exp : Time
deriving DecidableEq, Repr

-- `Lifetime.ValidAt`: issued, started and not expired at t.
def Lifetime.validAt (l : Lifetime) (t : Time) : Bool :=
  !decide (t < l.iat) && !decide (l.exp < t) && !decide (t < l.nbf)

structure Target where
  ownerID : UserID
  nnsName : String
deriving DecidableEq

def Target.isUserID (t : Target) : Bool := !t.ownerID.isZero
def Target.isNNS (t : Target) : Bool := t.nnsName != ""
def Target.isZero (t : Target) : Bool := t.ownerID.isZero && t.nnsName == ""

structure Context where
  container : ContainerID
  verbs : List Verb
deriving DecidableEq

-- A token without its origin.
structure Token where
  lifetime : Lifetime
  version : UInt32
  appdata : List UInt8
  issuer : UserID
  subjects : List Target
  contexts : List Context
  final : Bool
  sigSet : Bool

structure NNSResolver where
  hasUser : String → UserID → Except String Bool

inductive FieldError where
  | version (got : UInt32)
  | appDataSize
  | noIssuer
  | noSubjects
  | tooManySubjects (got : Nat)
  | emptySubject (index : Nat)
  | noIat
  | noNbf
  | noExp
  | nbfAfterExp
  | iatAfterExp
  | noContexts
  | tooManyContexts (got : Nat)
  | noVerbs (index : Nat)
  | tooManyVerbs (index got : Nat)
  | unsortedVerbs (index : Nat) (verb : Verb) (position : Nat) (previous : Verb) (previousPosition : Nat)
  | unsortedContexts (index : Nat) (container : ContainerID) (previousIndex : Nat) (previous : ContainerID)
  | duplicateContainer (index : Nat) (container : ContainerID)
  | wildcardVerbs (index : Nat)
  | notSigned
deriving DecidableEq

inductive ChainError where
  | unauthorizedVerb (container : ContainerID) (index : Nat) (verb : Verb)
  | notInOrigin (container : ContainerID) (index : Nat)
deriving DecidableEq

inductive ValidateError where
  | nilResolver
  | tooDeep
  | invalidFields (depth : Nat) (cause : FieldError)
  | finalOrigin (depth : Nat)
  | invalidOrigin (depth : Nat) (cause : ChainError)
  | resolution (depth : Nat) (name : String) (cause : String)
  | issuerNotInSubjects (depth : Nat)
  | lifetime (depth : Nat)
deriving DecidableEq

section Messages

-- `cid.ID.String`, the base58 text of the ID.
variable (cidString : ContainerID → String)

def FieldError.message : FieldError → String
  | .version got => "invalid token version: expected 0, got " ++ toString got
  | .appDataSize => "app data size exceeds maximum of 1024 bytes"
  | .noIssuer => "issuer is not set"
  | .noSubjects => "no subjects specified"
  | .tooManySubjects got => "too many subjects: expected max 8, got " ++ toString got
  | .emptySubject index => "subject at index " ++ toString index ++ " is empty"
  | .noIat => "issued at (iat) is not set"
  | .noNbf => "not valid before (nbf) is not set"
  | .noExp => "expiration (exp) is not set"
  | .nbfAfterExp => "not before (nbf) is after expiration (exp)"
  | .iatAfterExp => "issued at (iat) is after expiration (exp)"
  | .noContexts => "no contexts specified"
  | .tooManyContexts got => "too many contexts: expected max 16, got " ++ toString got
  | .noVerbs index => "context at index " ++ toString index ++ " has no verbs"
  | .tooManyVerbs index got =>
      "context at index " ++ toString index ++ " has too many verbs: expected max 12, got " ++ toString got
  | .unsortedVerbs index verb position previous previousPosition =>
      "context at index " ++ toString index ++ ": verbs must be sorted in ascending order (verb " ++
        toString verb ++ " at index " ++ toString position ++ " <= verb " ++ toString previous ++
        " at index " ++ toString previousPosition ++ ")"
  | .unsortedContexts index container previousIndex previous =>
      "contexts must be sorted by container ID: index " ++ toString index ++ " (" ++ cidString container ++
        ") < previous index " ++ toString previousIndex ++ " (" ++ cidString previous ++ ")"
  | .duplicateContainer index container =>
      "duplicate container at index " ++ toString index ++ ": " ++
        (if container.isZero then "wildcard" else cidString container)
  | .wildcardVerbs index =>
      "context at index " ++ toString index ++ ": explicit container cannot have the same verbs as wildcard"
  | .notSigned => "token is not signed"

def ChainError.message : ChainError → String
  | .unauthorizedVerb container index verb =>
      "container " ++ cidString container ++ ", context " ++ toString index ++ ": verb " ++ verb.string ++
        " not authorized by origin"
  | .notInOrigin container index =>
      "container " ++ cidString container ++ " at context " ++ toString index ++ " not found in origin"

-- `%q` of a name is written here as the name in double quotes, which it is for a name without
-- quotes, backslashes or control characters.
def ValidateError.message : ValidateError → String
  | .nilResolver => "NNS resolver must not be nil"
  | .tooDeep => "delegation chain exceeds maximum depth of 4"
  | .invalidFields depth cause => "depth " ++ toString depth ++ ": invalid fields: " ++ cause.message cidString
  | .finalOrigin depth => "depth " ++ toString depth ++ ": final token cannot be used as origin (further delegated)"
  | .invalidOrigin depth cause => "depth " ++ toString depth ++ ": invalid origin chain: " ++ cause.message cidString
  | .resolution depth name cause =>
      "depth " ++ toString depth ++ ": NNS resolution error for name \"" ++ name ++ "\": " ++ cause
  | .issuerNotInSubjects depth => "depth " ++ toString depth ++ ": token issuer is not in this origin token's subjects"
  | .lifetime depth => "depth " ++ toString depth ++ ": origin token lifetime is outside this token's lifetime"

end Messages

-- The loop over a context's verbs from `position`: each above the one before it.
def checkVerbsSorted (index : Nat) : Nat → List Verb → Except FieldError Unit
  | position, previous :: verb :: rest =>
      if verb ≤ previous then .error (.unsortedVerbs index verb position previous (position - 1))
      else checkVerbsSorted index (position + 1) (verb :: rest)
  | _, _ => .ok ()

-- The checks of the context at `index`, after the one of container `previous`.
def checkContext (wildcardVerbs : Option (List Verb)) (index : Nat) (previous : Option ContainerID)
    (ctx : Context) : Except FieldError Unit := do
  if ctx.verbs.length = 0 then throw (.noVerbs index)
  if maxVerbsPerContext < ctx.verbs.length then throw (.tooManyVerbs index ctx.verbs.length)
  checkVerbsSorted index 1 ctx.verbs
  match previous with
  | none => pure ()
  | some previous =>
      match compareBytes previous.bytes ctx.container.bytes with
      | .gt => throw (.unsortedContexts index ctx.container (index - 1) previous)
      | .eq => throw (.duplicateContainer index ctx.container)
      | .lt => if wildcardVerbs = some ctx.verbs then throw (.wildcardVerbs index)

def checkContexts (wildcardVerbs : Option (List Verb)) : Nat → Option ContainerID → List Context →
    Except FieldError Unit
  | _, _, [] => .ok ()
  | index, previous, ctx :: rest => do
      checkContext wildcardVerbs index previous ctx
      checkContexts wildcardVerbs (index + 1) (some ctx.container) rest

def wildcardVerbsOf (contexts : List Context) : Option (List Verb) :=
  match contexts with
  | ctx :: _ => if ctx.container.isZero then some ctx.verbs else none
  | [] => none

def Token.validateFields (x : Token) : Except FieldError Unit := do
  if x.version ≠ tokenCurrentVersion then throw (.version x.version)
  if maxAppDataSize < x.appdata.length then throw .appDataSize
  if x.issuer.isZero then throw .noIssuer
  if x.subjects.length = 0 then throw .noSubjects
  if maxSubjectsPerToken < x.subjects.length then throw (.tooManySubjects x.subjects.length)
  if let some i := x.subjects.findIdx? Target.isZero then throw (.emptySubject i)
  if x.lifetime.iat.isZero then throw .noIat
  if x.lifetime.nbf.isZero then throw .noNbf
  if x.lifetime.exp.isZero then throw .noExp
  if x.lifetime.exp < x.lifetime.nbf then throw .nbfAfterExp
  if x.lifetime.exp < x.lifetime.iat then throw .iatAfterExp
  if x.contexts.length = 0 then throw .noContexts
  if maxContextsPerToken < x.contexts.length then throw (.tooManyContexts x.contexts.length)
  checkContexts (wildcardVerbsOf x.contexts) 0 none x.contexts
  if !x.sigSet then throw .notSigned

-- The merge over `required` and `available`: the first required verb that it does not meet.
def findUnauthorizedVerb : List Verb → List Verb → Option Verb
  | [], _ => none
  | verb :: _, [] => some verb
  | verb :: required, other :: available =>
      if verb = other then findUnauthorizedVerb required available
      else if verb < other then some verb
      else findUnauthorizedVerb (verb :: required) available

-- The origin verbs a delegated context of `container` is checked against, with the origin's
-- contexts from the index on: those of the context at the index if it is of the container,
-- else the origin's wildcard verbs.
def originVerbs (wildcard : Option (List Verb)) (container : ContainerID) : List Context → Option (List Verb)
  | ctx :: _ => if container = ctx.container then some ctx.verbs else wildcard
  | [] => wildcard

-- The loop over the delegated contexts from `index` on; `origins` are the origin's contexts
-- from `originIdx` on, which moves past those of smaller containers.
def checkDelegated (wildcard : Option (List Verb)) : Nat → List Context → List Context → Except ChainError Unit
  | _, _, [] => .ok ()
  | index, origins, ctx :: rest =>
      let origins := origins.dropWhile fun o => compareBytes o.container.bytes ctx.container.bytes == .lt
      match originVerbs wildcard ctx.container origins with
      | none => .error (.notInOrigin ctx.container index)
      | some verbs =>
          match findUnauthorizedVerb ctx.verbs verbs with
          | some verb => .error (.unauthorizedVerb ctx.container index verb)
          | none => checkDelegated wildcard (index + 1) origins rest

def validateDelegatedContexts (x origin : Token) : Except ChainError Unit :=
  checkDelegated (wildcardVerbsOf origin.contexts) 0 origin.contexts x.contexts

/- The subjects' loop, in `validate` (with a resolver) and in `AssertAuthority` (whose resolver
   may be nil, and then NNS subjects are skipped): whether a subject is the user, by ID or by an
   NNS name the resolver maps to it. A resolution error carries the name. -/
def findSubject (resolver : Option NNSResolver) (user : UserID) : List Target → Except (String × String) Bool
  | [] => .ok false
  | subj :: rest =>
      if subj.isUserID && subj.ownerID == user then .ok true
      else
        match resolver, subj.isNNS with
        | some resolver, true =>
            match resolver.hasUser subj.nnsName user with
            | .error cause => .error (subj.nnsName, cause)
            | .ok true => .ok true
            | .ok false => findSubject resolver user rest
        | _, _ => findSubject resolver user rest

def Token.assertAuthority (x : Token) (user : UserID) (resolver : Option NNSResolver) : Except String Bool :=
  (findSubject resolver user x.subjects).mapError (·.2)

/- `validate`: the checks of one token at `depth`, then those of it against its origin. -/

def checkLevel (depth : Nat) (x : Token) : Except ValidateError Unit := do
  if maxDelegationDepth < depth then throw .tooDeep
  x.validateFields.mapError (.invalidFields depth)
  if x.final && 0 < depth then throw (.finalOrigin depth)

def checkOrigin (resolver : NNSResolver) (depth : Nat) (x origin : Token) : Except ValidateError Unit := do
  (validateDelegatedContexts x origin).mapError (.invalidOrigin depth)
  let found ← (findSubject (some resolver) x.issuer origin.subjects).mapError
    fun (name, cause) => .resolution depth name cause
  if !found then throw (.issuerNotInSubjects depth)
  if x.lifetime.nbf < origin.lifetime.nbf || x.lifetime.exp > origin.lifetime.exp then throw (.lifetime depth)

def validateFrom (resolver : NNSResolver) : Nat → Token → List Token → Except ValidateError Unit
  | depth, x, [] => checkLevel depth x
  | depth, x, origin :: rest => do
      checkLevel depth x
      checkOrigin resolver depth x origin
      validateFrom resolver (depth + 1) origin rest

-- `x.Validate(resolver)` of the token `x` whose origin chain is `origins`.
def Token.validate (x : Token) (origins : List Token) (resolver : Option NNSResolver) : Except ValidateError Unit :=
  match resolver with
  | none => .error .nilResolver
  | some resolver => validateFrom resolver 0 x origins

-- `AssertVerb`: a context of the container, or a wildcard one, lists the verb.
def Token.assertVerb (x : Token) (verb : Verb) (container : ContainerID) : Bool :=
  x.contexts.any fun ctx => (ctx.container.isZero || ctx.container == container) && ctx.verbs.contains verb

def isContainerVerb (verb : Verb) : Bool :=
  [Verb.containerPut, Verb.containerDelete, Verb.containerSetEACL, Verb.containerSetAttribute,
    Verb.containerRemoveAttribute].contains verb

-- `AssertContainer`: a container verb, and then the loop of `AssertVerb`.
def Token.assertContainer (x : Token) (verb : Verb) (container : ContainerID) : Bool :=
  isContainerVerb verb && x.assertVerb verb container

end NeoFS.Session
