import Mathlib.Logic.Function.Basic
import NeoFS.Netmap.Types

set_option autoImplicit false

/- The context of a placement build (context.go) and the filter pass over it (filter.go).
   Go maps are functions to `Option`; `Function.update` is the map assignment. -/
namespace NeoFS.Netmap

inductive FilterError where
  | invalidFilterName
  | unnamedTopFilter
  | filterNotFound
  | nonEmptyFilters
  | invalidNumber (value : String)
  | invalidFilterOp (op : FilterOp)
  | inner (index : Nat) (cause : FilterError)
deriving DecidableEq, Repr

def FilterError.message : FilterError → String
  | .invalidFilterName => "filter name is invalid: '*' is reserved"
  | .unnamedTopFilter => "unnamed top-level filter"
  | .filterNotFound => "filter not found"
  | .nonEmptyFilters => "simple filter contains sub-filters"
  | .invalidNumber value => "invalid number: '" ++ value ++ "'"
  | .invalidFilterOp op => "invalid filter operation: " ++ op.string
  | .inner index cause => "process inner filter #" ++ toString index ++ ": " ++ cause.message

-- The errors of a placement build; `notEnoughNodes` wraps the exported `ErrNotEnoughNodes`.
inductive NetmapError where
  | processFilter (index : Nat) (name : String) (cause : FilterError)
  | filterNotFound (filter : String)
  | notEnoughNodes (selector : String)
  | replicaSelectorNotFound (selector : String)
  | ecSelectorNotFound (selector : String)
deriving DecidableEq, Repr

def NetmapError.message : NetmapError → String
  | .processFilter index name cause =>
      "process filter #" ++ toString index ++ " (" ++ name ++ "): " ++ cause.message
  | .filterNotFound filter => "filter not found: SELECT FROM '" ++ filter ++ "'"
  | .notEnoughNodes selector => "not enough nodes to SELECT from: '" ++ selector ++ "'"
  | .replicaSelectorNotFound selector => "selector not found: REPLICA '" ++ selector ++ "'"
  | .ecSelectorNotFound selector => "selector not found: EC '" ++ selector ++ "'"

-- The weighting function and the seed's hash are read only by the HRW sorts, which the
-- selection takes as parameters (see `Arrangement`), so they are not fields here.
structure Context where
  netMap : NetMap
  processedFilters : String → Option Filter
  processedSelectors : String → Option Selector
  selections : String → Option (List (List NodeInfo))
  numCache : String → Option Nat
  hrwSeed : List UInt8
  cbf : UInt32

def newContext (nm : NetMap) : Context where
  netMap := nm
  processedFilters := fun _ => none
  processedSelectors := fun _ => none
  selections := fun _ => none
  numCache := fun _ => none
  hrwSeed := []
  cbf := 0

def Context.setPivot (c : Context) (pivot : List UInt8) : Context :=
  if pivot ≠ [] then { c with hrwSeed := pivot } else c

def Context.setCBF (c : Context) (cbf : UInt32) : Context :=
  { c with cbf := if cbf = 0 then defaultContainerBackupFactor else cbf }

mutual
def processFilter (c : Context) : Filter → Bool → Except FilterError Context
  | f@⟨fName, _, op, val, inner⟩, top =>
      if fName = mainFilterName then .error .invalidFilterName
      else if top ∧ fName = "" then .error .unnamedTopFilter
      else if !top ∧ fName ≠ "" ∧ c.processedFilters fName = none then .error .filterNotFound
      else
        let processed : Except FilterError Context :=
          match op with
          | .and | .or => processInnerFilters c 0 inner
          | _ =>
              if inner ≠ [] then .error .nonEmptyFilters
              -- a named reference is only checked to exist
              else if !top ∧ fName ≠ "" then .ok c
              else
                match op with
                | .eq | .ne => .ok c
                | .gt | .ge | .lt | .le =>
                    match Go.parseUint val 64 with
                    | none => .error (.invalidNumber val)
                    | some n => .ok { c with numCache := Function.update c.numCache val (some n) }
                | op => .error (.invalidFilterOp op)
        processed.bind fun c =>
          if top then .ok { c with processedFilters := Function.update c.processedFilters fName (some f) }
          else .ok c
def processInnerFilters (c : Context) (index : Nat) : List Filter → Except FilterError Context
  | [] => .ok c
  | f :: rest =>
      match processFilter c f false with
      | .error cause => .error (.inner index cause)
      | .ok c => processInnerFilters c (index + 1) rest
end

def processFiltersFrom (c : Context) (index : Nat) : List Filter → Except NetmapError Context
  | [] => .ok c
  | f :: rest =>
      match processFilter c f true with
      | .error cause => .error (.processFilter index f.name cause)
      | .ok c => processFiltersFrom c (index + 1) rest

def processFilters (c : Context) (p : PlacementPolicy) : Except NetmapError Context :=
  processFiltersFrom c 0 p.filters

-- `matchKeyValue`: the numeric comparisons read the filter value from the cache that
-- processing filled, a missing entry reading as zero like a Go map.
def matchKeyValue (c : Context) (f : Filter) (b : NodeInfo) : Bool :=
  match f.op with
  | .eq => b.attribute f.key == f.val
  | .ne => b.attribute f.key != f.val
  | op =>
      let attr : Option Nat :=
        if f.key = "Price" then some b.price
        else if f.key = "Capacity" then some b.capacity
        else Go.parseUint (b.attribute f.key) 64
      match attr with
      | none => false
      | some attr =>
          let bound := (c.numCache f.val).getD 0
          match op with
          | .gt => decide (attr > bound)
          | .ge => decide (attr ≥ bound)
          | .lt => decide (attr < bound)
          | .le => decide (attr ≤ bound)
          | _ => false

def subFilterRef (c : Context) (sub : Filter) : Option Filter :=
  if sub.name ≠ "" then c.processedFilters sub.name else some sub

def matchSubFilters (c : Context) (op : FilterOp) (recurse : Option Filter → Option Bool) :
    List Filter → Option Bool
  | [] => some (op == .and)
  | sub :: rest =>
      (recurse (subFilterRef c sub)).bind fun ok =>
        if ok == (op == .or) then some ok else matchSubFilters c op recurse rest

-- `context.match`.
-- `context.match`. The references through `processedFilters` need not be well founded, so the
-- recursion runs on fuel; `none` is a call that has not returned within it.
def matchFilter (c : Context) : Nat → Option Filter → NodeInfo → Option Bool
  | 0, _, _ => none
  | _ + 1, none, _ => some false
  | fuel + 1, some f, b =>
      match f.op with
      | .and | .or => matchSubFilters c f.op (fun sub => matchFilter c fuel sub b) f.subs
      | _ => some (matchKeyValue c f b)

end NeoFS.Netmap
