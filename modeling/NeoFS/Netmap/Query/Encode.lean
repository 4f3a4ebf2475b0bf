import NeoFS.Netmap.Types

set_option autoImplicit false

/- `PlacementPolicy.WriteStringTo` and `writeFilterStringTo` (policy.go) into a writer that
   never fails, as `strings.Builder`: the text written. -/
namespace NeoFS.Netmap.Query

mutual
def writeFilterStringTo : Filter → String
  | ⟨name, key, op, val, subs⟩ =>
      let head :=
        if key ≠ "" then key ++ " " ++ op.string ++ " " ++ val
        else if op = .unspecified ∧ name ≠ "" then "@" ++ name
        else ""
      let tail := if name ≠ "" ∧ op ≠ .unspecified then " AS " ++ name else ""
      head ++ writeInnerFilters op true subs ++ tail
def writeInnerFilters (op : FilterOp) : Bool → List Filter → String
  | _, [] => ""
  | first, f :: rest =>
      (if first then "" else " " ++ op.string ++ " ") ++ writeFilterStringTo f ++ writeInnerFilters op false rest
end

def writeReplica (r : ReplicaDescriptor) : String :=
  if r.selector ≠ "" then "REP " ++ toString r.count ++ " IN " ++ r.selector else "REP " ++ toString r.count

def writeECRule (r : ECRule) : String :=
  let parts := "EC " ++ toString r.dataPartNum ++ "/" ++ toString r.parityPartNum
  if r.selector ≠ "" then parts ++ " IN " ++ r.selector else parts

def writeSelector (s : Selector) : String :=
  let clause := match s.clause with
    | .same => "SAME "
    | .distinct => "DISTINCT "
    | _ => ""
  "SELECT " ++ toString s.count ++
    (if s.attr ≠ "" then " IN " ++ clause ++ s.attr else "") ++
    (if s.filter ≠ "" then " FROM " ++ s.filter else "") ++
    (if s.name ≠ "" then " AS " ++ s.name else "")

-- One line a rule, the backup factor when set, a selector or a filter, as `writeLnIfNeeded`
-- puts a line break before all but the first.
def writeStringTo (p : PlacementPolicy) : String :=
  "\n".intercalate <|
    p.replicas.map writeReplica ++ p.ecRules.map writeECRule ++
      (if p.backupFactor > 0 then ["CBF " ++ toString p.backupFactor] else []) ++
      p.selectors.map writeSelector ++ p.filters.map fun f => "FILTER " ++ writeFilterStringTo f

end NeoFS.Netmap.Query
