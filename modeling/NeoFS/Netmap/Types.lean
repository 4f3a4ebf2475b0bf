import NeoFS.Go.Basic
import NeoFS.Refs

set_option autoImplicit false

/- The placement policy and network map of package netmap: netmap.go, node_info.go, policy.go
   and ec.go. Fields that no modelled function reads (node state and addresses, the epoch) are
   left out. -/
namespace NeoFS.Netmap

/-- `FilterOp`, an `int32` with named values; other values can come from protobuf. -/
inductive FilterOp where
  | unspecified | eq | ne | gt | ge | lt | le | or | and
  | unknown (code : Int32)
deriving DecidableEq, Repr

/-- `FilterOp.String`. -/
def FilterOp.string : FilterOp → String
  | .eq => "EQ" | .ne => "NE" | .gt => "GT" | .ge => "GE" | .lt => "LT" | .le => "LE"
  | .or => "OR" | .and => "AND"
  | _ => "UNKNOWN"

/-- `protonetmap.Clause`. -/
inductive Clause where
  | unspecified | same | distinct
  | unknown (code : Int32)
deriving DecidableEq, Repr

structure Filter where
  name : String
  key : String
  op : FilterOp
  val : String
  subs : List Filter
deriving Repr

mutual
def Filter.decEq : (a b : Filter) → Decidable (a = b)
  | ⟨name, key, op, val, subs⟩, ⟨name', key', op', val', subs'⟩ =>
      if fields : name = name' ∧ key = key' ∧ op = op' ∧ val = val' then
        match Filter.decEqList subs subs' with
        | isTrue same => isTrue (by obtain ⟨rfl, rfl, rfl, rfl⟩ := fields; rw [same])
        | isFalse different => isFalse fun equal => different (Filter.mk.inj equal).2.2.2.2
      else isFalse fun equal => by
        obtain ⟨rfl, rfl, rfl, rfl, -⟩ := Filter.mk.inj equal
        exact fields ⟨rfl, rfl, rfl, rfl⟩
def Filter.decEqList : (a b : List Filter) → Decidable (a = b)
  | [], [] => isTrue rfl
  | [], f :: fs => isFalse (List.cons_ne_nil f fs).symm
  | f :: fs, [] => isFalse (List.cons_ne_nil f fs)
  | f :: fs, f' :: fs' =>
      match Filter.decEq f f', Filter.decEqList fs fs' with
      | isTrue head, isTrue tail => isTrue (by rw [head, tail])
      | isFalse head, _ => isFalse fun equal => head (List.cons.inj equal).1
      | _, isFalse tail => isFalse fun equal => tail (List.cons.inj equal).2
end

instance : DecidableEq Filter := Filter.decEq

structure Selector where
  name : String
  count : UInt32
  clause : Clause
  attr : String
  filter : String
deriving DecidableEq, Repr

structure ReplicaDescriptor where
  count : UInt32
  selector : String
deriving DecidableEq, Repr

structure ECRule where
  selector : String
  dataPartNum : UInt32
  parityPartNum : UInt32
deriving DecidableEq, Repr

structure InitialPlacementPolicy where
  replicaLimits : List UInt32
  maxReplicas : UInt32
  preferLocal : Bool
deriving DecidableEq, Repr

structure PlacementPolicy where
  backupFactor : UInt32
  filters : List Filter
  selectors : List Selector
  replicas : List ReplicaDescriptor
  ecRules : List ECRule
  initial : Option InitialPlacementPolicy
deriving DecidableEq, Repr

/-- `NodeInfo`: the public key, which `Hash` reads, and the attribute list. -/
structure NodeInfo where
  pub : List UInt8
  attrs : List (String × String)
deriving DecidableEq, Repr

structure NetMap where
  nodes : List NodeInfo
deriving DecidableEq, Repr

/-- `mainFilterName`, the filter that points to the whole netmap. -/
def mainFilterName : String := "*"

def defaultContainerBackupFactor : UInt32 := 3

/-- `NodeInfo.Attribute`: the value of the first attribute with the key, or the empty string. -/
def NodeInfo.attribute (x : NodeInfo) (key : String) : String :=
  match x.attrs.find? (·.1 == key) with
  | some attr => attr.2
  | none => ""

/-- `NodeInfo.Price`: a missing or non-numeric attribute reads as zero, and a number past 2^64 - 1
   as 2^64 - 1, the value strconv.ParseUint returns with the range error Price drops. -/
def NodeInfo.price (x : NodeInfo) : Nat :=
  Go.parseUintValue (x.attribute "Price") 64

def NodeInfo.capacity (x : NodeInfo) : Nat :=
  Go.parseUintValue (x.attribute "Capacity") 64

def Selector.isSame (s : Selector) : Bool :=
  s.clause == .same

/-- `calcNodesCount`: the number of buckets and the minimum number of nodes in each. -/
def calcNodesCount (s : Selector) : Nat × Nat :=
  if s.isSame then (1, s.count.toNat) else (s.count.toNat, 1)

/-- `flattenNodes`. -/
def flattenNodes (ns : List (List NodeInfo)) : List NodeInfo :=
  ns.flatten

end NeoFS.Netmap
