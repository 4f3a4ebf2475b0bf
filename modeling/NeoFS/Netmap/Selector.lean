import Mathlib.Data.List.Sort
import NeoFS.Lib.Grouping
import NeoFS.Lib.RoundRobin
import NeoFS.Netmap.Filter

set_option autoImplicit false

/- Selection of node buckets (selector.go) and the placement of a container (`ContainerNodes`,
   netmap.go). Go's `int` is 64 bits wide, so the bound `nodesInBucket * int(cbf)` is an
   `Int64` product that can wrap. -/
namespace NeoFS.Netmap

open Lib.Grouping Lib.RoundRobin

structure NodeAttrPair where
  attr : String
  nodes : List NodeInfo
deriving DecidableEq, Repr

-- What the selection takes from code outside package netmap, each only reordering its
-- input: the iteration order of a Go map, `hrw.SortWeighted` over the nodes of a bucket and
-- over the buckets (with the weights and seed of the context), and `slices.SortFunc` by the
-- hash of the first node, used when there is no seed.
structure Arrangement where
  mapOrder : List (String × List NodeInfo) → List (String × List NodeInfo)
  mapOrder_perm : ∀ groups, (mapOrder groups).Perm groups
  sortNodes : List NodeInfo → List NodeInfo
  sortNodes_perm : ∀ ns, (sortNodes ns).Perm ns
  sortBuckets : List (List NodeInfo) → List (List NodeInfo)
  sortBuckets_perm : ∀ buckets, (sortBuckets buckets).Perm buckets
  sortByHash : List NodeAttrPair → List NodeAttrPair
  sortByHash_perm : ∀ pairs, (sortByHash pairs).Perm pairs

-- `slices.SortFunc` by attribute: the attributes of the buckets are distinct map keys.
def sortByAttr (pairs : List NodeAttrPair) : List NodeAttrPair :=
  pairs.mergeSort fun a b => decide (a.attr ≤ b.attr)

def selectMatching (test : NodeInfo → Option Bool) : List NodeInfo → Option (List NodeInfo)
  | [] => some []
  | n :: rest =>
      (test n).bind fun ok => (selectMatching test rest).map fun kept => if ok then n :: kept else kept

def groupPairs (arr : Arrangement) (attr : String) (matching : List NodeInfo) : List NodeAttrPair :=
  if attr = "" then
    -- the default attribute is a transparent identifier, different for every node
    matching.map fun n => ⟨"", [n]⟩
  else (arr.mapOrder (groupBy (·.attribute attr) matching)).map fun g => ⟨g.1, g.2⟩

-- `isMain || c.match(f, node)` of `getSelectionBase`.
def Context.selects (c : Context) (fuel : Nat) (s : Selector) (n : NodeInfo) : Option Bool :=
  if s.filter = mainFilterName then some true else matchFilter c fuel (c.processedFilters s.filter) n

def getSelectionBase (arr : Arrangement) (fuel : Nat) (c : Context) (s : Selector) :
    Option (List NodeAttrPair) :=
  (selectMatching (c.selects fuel s) c.netMap.nodes).map
    fun matching =>
      let result := groupPairs arr s.attr matching
      if c.hrwSeed ≠ [] then result.map fun p => { p with nodes := arr.sortNodes p.nodes } else result

def orderBuckets (arr : Arrangement) (c : Context) (s : Selector) (buckets : List NodeAttrPair) :
    List NodeAttrPair :=
  if c.hrwSeed = [] then (if s.attr = "" then arr.sortByHash buckets else sortByAttr buckets) else buckets

abbrev Selection := Except (Go.Failure NetmapError)

-- The loop that keeps full buckets cut to `maxNodesInBucket` and the smaller ones with at
-- least `nodesInBucket` nodes as fallback; a negative bound is a slice panic.
def splitBuckets (maxNodesInBucket : Int64) (nodesInBucket : Nat) :
    List NodeAttrPair → Selection (List (List NodeInfo) × List (List NodeInfo))
  | [] => .ok ([], [])
  | b :: rest =>
      if maxNodesInBucket.toInt ≤ b.nodes.length then
        if maxNodesInBucket.toInt < 0 then
          .error (.panic ("runtime error: slice bounds out of range [:" ++ toString maxNodesInBucket.toInt ++ "]"))
        else (splitBuckets maxNodesInBucket nodesInBucket rest).map fun split =>
          (b.nodes.take maxNodesInBucket.toInt.toNat :: split.1, split.2)
      else if nodesInBucket ≤ b.nodes.length then
        (splitBuckets maxNodesInBucket nodesInBucket rest).map fun split => (split.1, b.nodes :: split.2)
      else splitBuckets maxNodesInBucket nodesInBucket rest

def useFallback (s : Selector) (bucketCount : Nat) (res fallback : List (List NodeInfo)) :
    Selection (List (List NodeInfo)) :=
  if res.length < bucketCount then
    if (res ++ fallback).length < bucketCount then .error (.error (.notEnoughNodes s.name))
    else .ok (res ++ fallback)
  else .ok res

-- Without a bucket attribute the buckets past the first `bucketCount` are spread over those
-- until one of them is full.
def redistribute (s : Selector) (bucketCount : Nat) (maxNodesInBucket : Int64) (res : List (List NodeInfo)) :
    Selection (List (List NodeInfo)) :=
  if s.attr = "" then
    match roundRobin bucketCount (fun b => decide (maxNodesInBucket.toInt ≤ b.length)) 0
        (res.take bucketCount) (res.drop bucketCount) with
    | none => .error (.panic "runtime error: integer divide by zero")
    | some res => .ok res
  else .ok res

-- `nodesInBucket * int(c.cbf)`, a product of Go ints.
def maxNodesInBucket (nodesInBucket : Nat) (cbf : UInt32) : Int64 :=
  Int64.ofNat nodesInBucket * Int64.ofNat cbf.toNat

def getSelection (arr : Arrangement) (fuel : Nat) (c : Context) (s : Selector) :
    Selection (List (List NodeInfo)) := do
  let (bucketCount, nodesInBucket) := calcNodesCount s
  let some buckets := getSelectionBase arr fuel c s | .error .exhausted
  if buckets.length < bucketCount then .error (.error (.notEnoughNodes s.name))
  else
    let maxNodesInBucket := maxNodesInBucket nodesInBucket c.cbf
    let split ← splitBuckets maxNodesInBucket nodesInBucket (orderBuckets arr c s buckets)
    let res ← useFallback s bucketCount split.1 split.2
    let res := if c.hrwSeed ≠ [] then arr.sortBuckets res else res
    let res ← redistribute s bucketCount maxNodesInBucket res
    .ok (res.take bucketCount)

def processSelectorsFrom (arr : Arrangement) (fuel : Nat) (c : Context) : List Selector → Selection Context
  | [] => .ok c
  | s :: rest =>
      if s.filter ≠ mainFilterName ∧ c.processedFilters s.filter = none then
        .error (.error (.filterNotFound s.filter))
      else
        let c := { c with processedSelectors := Function.update c.processedSelectors s.name (some s) }
        (getSelection arr fuel c s).bind fun result =>
          processSelectorsFrom arr fuel { c with selections := Function.update c.selections s.name (some result) } rest

def processSelectors (arr : Arrangement) (fuel : Nat) (c : Context) (p : PlacementPolicy) : Selection Context :=
  processSelectorsFrom arr fuel c p.selectors

-- The selector `ContainerNodes` builds for a rule without a selector in a policy without any.
def implicitSelector (count : UInt32) : Selector :=
  ⟨"", count, .unspecified, "", mainFilterName⟩

def ruleNodes (arr : Arrangement) (fuel : Nat) (c : Context) (p : PlacementPolicy) (sName : String)
    (count : UInt32) (notFound : String → NetmapError) : Selection (List NodeInfo) :=
  if sName = "" then
    let named := (p.selectors.map fun s => flattenNodes ((c.selections s.name).getD [])).flatten
    if p.selectors = [] then (getSelection arr fuel c (implicitSelector count)).map fun ns => flattenNodes ns ++ named
    else .ok named
  else
    match c.selections sName with
    | none => .error (.error (notFound sName))
    | some nodes => .ok (flattenNodes nodes)

def containerNodes (arr : Arrangement) (fuel : Nat) (m : NetMap) (p : PlacementPolicy)
    (containerID : ContainerID) : Selection (List (List NodeInfo)) := do
  let c := ((newContext m).setCBF p.backupFactor).setPivot containerID.bytes
  let c ← (processFilters c p).mapError .error
  let c ← processSelectors arr fuel c p
  let replicas ← p.replicas.mapM fun r => ruleNodes arr fuel c p r.selector r.count .replicaSelectorNotFound
  let ecRules ← p.ecRules.mapM fun r =>
    ruleNodes arr fuel c p r.selector (r.dataPartNum + r.parityPartNum) .ecSelectorNotFound
  .ok (replicas ++ ecRules)

end NeoFS.Netmap

namespace NeoFS.Netmap.Arrangement

variable (arr : Arrangement)

@[simp] theorem sortNodes_nil : arr.sortNodes [] = [] := List.perm_nil.mp (arr.sortNodes_perm [])
@[simp] theorem sortNodes_singleton (n : NodeInfo) : arr.sortNodes [n] = [n] :=
  List.perm_singleton.mp (arr.sortNodes_perm [n])
@[simp] theorem sortBuckets_nil : arr.sortBuckets [] = [] := List.perm_nil.mp (arr.sortBuckets_perm [])
@[simp] theorem sortBuckets_singleton (b : List NodeInfo) : arr.sortBuckets [b] = [b] :=
  List.perm_singleton.mp (arr.sortBuckets_perm [b])
@[simp] theorem mapOrder_nil : arr.mapOrder [] = [] := List.perm_nil.mp (arr.mapOrder_perm [])
@[simp] theorem mapOrder_singleton (g : String × List NodeInfo) : arr.mapOrder [g] = [g] :=
  List.perm_singleton.mp (arr.mapOrder_perm [g])

end NeoFS.Netmap.Arrangement
