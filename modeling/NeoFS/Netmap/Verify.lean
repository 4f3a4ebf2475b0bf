import NeoFS.Lib.Except
import NeoFS.Netmap.Types

set_option autoImplicit false

/- `PlacementPolicy.Verify` (policy.go) with `ECRule.verify` (ec.go) and
   `InitialPlacementPolicy.verify`. Counts and sums are `uint32` in Go and wrap the same way
   here; errors are their Go texts. -/
namespace NeoFS.Netmap

open Lib.Except

def maxObjectReplicasPerSet : UInt32 := 8
def maxContainerNodesInSet : UInt32 := 64
def maxREPRules : Nat := 256
def maxContainerNodes : UInt32 := 512
def maxECRules : Nat := 4
def maxTotalECParts : UInt32 := maxContainerNodesInSet

-- `%q` of a name without control characters.
def quote (s : String) : String :=
  "\"" ++ String.join (s.toList.map fun c => if c = '"' ∨ c = '\\' then "\\" ++ c.toString else c.toString) ++ "\""

def ECRule.verify (x : ECRule) : Except String Unit :=
  if x.dataPartNum = 0 then .error "zero data part num"
  else if x.parityPartNum = 0 then .error "zero parity part num"
  else if x.dataPartNum > maxTotalECParts ∨ x.parityPartNum > maxTotalECParts ∨
      x.dataPartNum + x.parityPartNum > maxTotalECParts then
    .error ("more than " ++ toString maxTotalECParts ++ " total parts")
  else .ok ()

def ruleNodesInSet (ss : List Selector) (bf : UInt32) (rule : String) (index : Nat) (sName : String)
    (ownCount : UInt32) : Except String UInt32 :=
  if sName ≠ "" then
    match ss.find? (·.name = sName) with
    | none => .error ("invalid " ++ rule ++ " rule #" ++ toString index ++ ": missing selector " ++ quote sName)
    | some s => .ok (bf * s.count)
  else .ok (bf * ownCount)

def addRuleNodes (rule : String) (index : Nat) (nodesInSet total : UInt32) : Except String UInt32 :=
  if nodesInSet > maxContainerNodesInSet then
    .error ("invalid " ++ rule ++ " rule #" ++ toString index ++ ": more than " ++
      toString maxContainerNodesInSet ++ " nodes")
  else if total + nodesInSet > maxContainerNodes then
    .error ("more than " ++ toString maxContainerNodes ++ " nodes in total")
  else .ok (total + nodesInSet)

def verifyReplicas (ss : List Selector) (bf : UInt32) : Nat → UInt32 → List ReplicaDescriptor → Except String UInt32
  | _, total, [] => .ok total
  | i, total, r :: rest =>
      if r.count > maxObjectReplicasPerSet then
        .error ("invalid REP rule #" ++ toString i ++ ": more than " ++ toString maxObjectReplicasPerSet ++
          " object replicas")
      else do
        let nodesInSet ← ruleNodesInSet ss bf "REP" i r.selector r.count
        let total ← addRuleNodes "REP" i nodesInSet total
        verifyReplicas ss bf (i + 1) total rest

def verifyECRules (ss : List Selector) (bf : UInt32) : Nat → UInt32 → List ECRule → Except String UInt32
  | _, total, [] => .ok total
  | i, total, r :: rest =>
      match r.verify with
      | .error cause => .error ("invalid EC rule #" ++ toString i ++ ": " ++ cause)
      | .ok () => do
          let nodesInSet ← ruleNodesInSet ss bf "EC" i r.selector (r.dataPartNum + r.parityPartNum)
          let total ← addRuleNodes "EC" i nodesInSet total
          verifyECRules ss bf (i + 1) total rest

-- The loop over `ReplicaLimits`: their `uint32` sum and whether any differs from its rule.
def replicaLimitsSum (repRules : List ReplicaDescriptor) : Nat → UInt32 → Bool → List UInt32 →
    Except String (UInt32 × Bool)
  | _, sum, differs, [] => .ok (sum, differs)
  | i, sum, differs, limit :: rest =>
      match repRules[i]? with
      | some r =>
          if limit > r.count then
            .error ("invalid ReplicaLimits element #" ++ toString i ++ ": value " ++ toString limit ++
              " overflows main REP rule " ++ toString r.count)
          else replicaLimitsSum repRules (i + 1) (sum + limit) (differs || decide (limit < r.count)) rest
      | none =>
          if limit > 1 then
            .error ("invalid ReplicaLimits element #" ++ toString i ++ ": EC limit is neither 0 nor 1")
          else replicaLimitsSum repRules (i + 1) (sum + limit) (differs || limit == 0) rest

def InitialPlacementPolicy.verify (x : InitialPlacementPolicy) (repRules : List ReplicaDescriptor)
    (ecRules : List ECRule) : Except String Unit := do
  let sumReplicas ←
    if x.replicaLimits ≠ [] then
      if x.replicaLimits.length ≠ repRules.length + ecRules.length then
        .error ("ReplicaLimits has len " ++ toString x.replicaLimits.length ++ " while main policy has " ++
          toString repRules.length ++ " REP and " ++ toString ecRules.length ++ " EC rules")
      else do
        let (sum, differs) ← replicaLimitsSum repRules 0 0 false x.replicaLimits
        if sum = 0 then .error "ReplicaLimits is all zeros"
        else if !differs && x.maxReplicas == 0 then .error "does not differ from main policy"
        else .ok sum
    else .ok (repRules.foldl (fun sum r => sum + r.count) 0 + ecRules.length.toUInt32)
  if x.maxReplicas > 0 then
    if x.maxReplicas > sumReplicas then
      .error ("MaxReplicas " ++ toString x.maxReplicas ++ " overflows sum limit " ++ toString sumReplicas)
    else .ok ()
  else if x.replicaLimits = [] then .error "missing both ReplicaLimits and MaxReplicas"
  else if x.preferLocal then .error "PreferLocal is set without MaxReplicas"
  else .ok ()

def PlacementPolicy.verify (p : PlacementPolicy) : Except String Unit := do
  if p.replicas.length > maxREPRules then .error ("more than " ++ toString maxREPRules ++ " REP rules")
  else if p.ecRules.length > maxECRules then .error ("more than " ++ toString maxECRules ++ " EC rules")
  else
    let bf := if p.backupFactor = 0 then defaultContainerBackupFactor else p.backupFactor
    let total ← verifyReplicas p.selectors bf 0 0 p.replicas
    let _ ← verifyECRules p.selectors bf 0 total p.ecRules
    match p.initial with
    | none => .ok ()
    | some initial =>
        match initial.verify p.replicas p.ecRules with
        | .error cause => .error ("invalid initial: " ++ cause)
        | .ok () => .ok ()

theorem add_rule_nodes_ok {rule : String} {index : Nat} {nodesInSet total total' : UInt32}
    (added : addRuleNodes rule index nodesInSet total = .ok total') (bounded : total ≤ maxContainerNodes) :
    nodesInSet.toNat ≤ 64 ∧ total'.toNat = total.toNat + nodesInSet.toNat ∧ total'.toNat ≤ 512 := by
  unfold addRuleNodes at added
  by_cases large : nodesInSet > maxContainerNodesInSet
  · rw [if_pos large] at added
    cases added
  · rw [if_neg large] at added
    have small : nodesInSet.toNat ≤ 64 := by
      simpa [maxContainerNodesInSet, UInt32.le_iff_toNat_le] using large
    have within : total.toNat ≤ 512 := by simpa [maxContainerNodes, UInt32.le_iff_toNat_le] using bounded
    have sum : (total + nodesInSet).toNat = total.toNat + nodesInSet.toNat := by
      rw [UInt32.toNat_add]
      omega
    by_cases exceeds : total + nodesInSet > maxContainerNodes
    · rw [if_pos exceeds] at added
      cases added
    · rw [if_neg exceeds] at added
      cases added
      have : (total + nodesInSet).toNat ≤ 512 := by
        simpa [maxContainerNodes, UInt32.le_iff_toNat_le] using exceeds
      omega

theorem verify_replicas_total {ss : List Selector} {bf : UInt32} :
    ∀ {i : Nat} {total total' : UInt32} {rs : List ReplicaDescriptor},
      verifyReplicas ss bf i total rs = .ok total' → total ≤ maxContainerNodes →
        total.toNat ≤ total'.toNat ∧ total'.toNat ≤ 512
  | i, total, total', [], verified, bounded => by
      cases verified
      have := (UInt32.le_iff_toNat_le).mp bounded
      exact ⟨le_rfl, by simpa [maxContainerNodes] using this⟩
  | i, total, total', r :: rest, verified, bounded => by
      unfold verifyReplicas at verified
      by_cases many : r.count > maxObjectReplicasPerSet
      · rw [if_pos many] at verified
        cases verified
      · rw [if_neg many] at verified
        obtain ⟨nodesInSet, -, added⟩ := bind_ok verified
        obtain ⟨next, stepped, later⟩ := bind_ok added
        obtain ⟨small, grown, within⟩ := add_rule_nodes_ok stepped bounded
        have nextBounded : next ≤ maxContainerNodes := by
          rw [UInt32.le_iff_toNat_le]
          simpa [maxContainerNodes] using within
        have rest := verify_replicas_total later nextBounded
        omega

-- Only the products wrap: a backup factor of 2^31 times a REP count of 2 is 2^32 over the
-- integers and 0 in uint32, which passes the bound of 64 nodes.
theorem verify_accepts_wrapped_backup_product :
    (⟨2147483648, [], [], [⟨2, ""⟩], [], none⟩ : PlacementPolicy).verify = .ok () ∧
      (2147483648 : UInt32) * 2 = 0 ∧ (2147483648 : UInt32).toNat * (2 : UInt32).toNat = 2 ^ 32 := by
  decide

end NeoFS.Netmap
