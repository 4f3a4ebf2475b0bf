import Mathlib.Data.List.Basic

set_option autoImplicit false

namespace NeoFS

/-- `cid.ID`, a `[32]byte` array. -/
structure ContainerID where
  bytes : List UInt8
  length_eq : bytes.length = 32
deriving DecidableEq

/-- `cid.ID.IsZero`: the zero ID, which session contexts read as the wildcard container. -/
def ContainerID.isZero (x : ContainerID) : Bool :=
  x.bytes.all (· == 0)

def ContainerID.zero : ContainerID :=
  ⟨List.replicate 32 0, by simp⟩

/-- `oid.ID`, a `[32]byte` array. -/
structure ObjectID where
  bytes : List UInt8
  length_eq : bytes.length = 32
deriving DecidableEq

def ObjectID.zero : ObjectID :=
  ⟨List.replicate 32 0, by simp⟩

def ObjectID.isZero (x : ObjectID) : Bool :=
  x.bytes.all (· == 0)

/-- `user.ID`, a `[25]byte` array. -/
structure UserID where
  bytes : List UInt8
  length_eq : bytes.length = 25
deriving DecidableEq

def UserID.isZero (x : UserID) : Bool :=
  x.bytes.all (· == 0)

def UserID.zero : UserID :=
  ⟨List.replicate 25 0, by simp⟩

-- `address.NEO3Prefix` of neo-go.
def neo3Prefix : UInt8 := 0x35

-- `%X` of a byte.
def hexUpper (b : UInt8) : String :=
  String.ofList ((Nat.toDigits 16 b.toNat).map Char.toUpper)

/-- `user.ID.decodeBytes`; `checksum` is neo-go's `hash.Checksum`, the first four bytes of the
double SHA-256 of its input. -/
def UserID.decodeBytes (checksum : List UInt8 → List UInt8) (b : List UInt8) : Except String UserID :=
  if h : b.length = 25 then
    if b.head? ≠ some neo3Prefix then .error ("invalid prefix byte 0x" ++ hexUpper (b.headD 0) ++ ", expected 0x35")
    else if b.drop 21 ≠ checksum (b.take 21) then .error "checksum mismatch"
    else .ok ⟨b, h⟩
  else .error ("invalid length " ++ toString b.length ++ ", expected 25")

def UserID.fromProtoMessage (checksum : List UInt8 → List UInt8) (value : List UInt8) : Except String UserID :=
  match UserID.decodeBytes checksum value with
  | .error e => .error e
  | .ok id => if id.isZero then .error "zero user ID" else .ok id

def ContainerID.decode (src : List UInt8) : Except String ContainerID :=
  if h : src.length = 32 then .ok ⟨src, h⟩ else .error ("invalid length " ++ toString src.length)

def ContainerID.fromProtoMessage (value : List UInt8) : Except String ContainerID :=
  match ContainerID.decode value with
  | .error e => .error e
  | .ok id => if id.isZero then .error "zero container ID" else .ok id

end NeoFS
