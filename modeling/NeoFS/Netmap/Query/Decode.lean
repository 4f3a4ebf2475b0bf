import NeoFS.Netmap.Verify
import NeoFS.Netmap.Query.Parser

set_option autoImplicit false

/- `PlacementPolicy.DecodeString` (policy.go, ec.go): the visitor over the parse tree and the
   checks around it. The visitor builds protobuf messages and converts them with
   `fromProtoMessage`; the filter and selector messages are the structures here field for
   field, and their conversions only reject negative enum values, which the visitor never
   makes, so the conversion is left out for them. -/
namespace NeoFS.Netmap.Query

inductive DecodeError where
  | syntaxError
  | invalidNumber
  | unexpectedType (type : String)
  | unknownFilter (filter : String)
  | unknownSelector (selector : String)
deriving DecidableEq, Repr

-- ANTLR's messages after "policy: syntax error: " name a line, a column and what was expected;
-- they are not modelled.
def DecodeError.message : DecodeError → String
  | .syntaxError => "policy: syntax error"
  | .invalidNumber => "invalid number"
  | .unexpectedType type => "unexpected parsed instance type " ++ type
  | .unknownFilter filter => "invalid policy: filter not found: '" ++ filter ++ "'"
  | .unknownSelector selector => "invalid policy: policy: selector not found: '" ++ selector ++ "'"

abbrev Decoding := Except (Go.Failure DecodeError)

-- `strconv.ParseUint(text, 10, 32)` of a number token.
def parseCount (t : Token) : Decoding UInt32 :=
  match Go.parseUint t.text 32 with
  | some n => .ok n.toUInt32
  | none => .error (.error .invalidNumber)

def clauseFromString : String → Decoding Clause
  | "CLAUSE_UNSPECIFIED" => .ok .unspecified
  | "SAME" => .ok .same
  | "DISTINCT" => .ok .distinct
  | s => .error (.panic ("BUG: invalid clause: " ++ s))

def operationFromString : String → Decoding FilterOp
  | "OPERATION_UNSPECIFIED" => .ok .unspecified
  | "EQ" => .ok .eq
  | "NE" => .ok .ne
  | "GT" => .ok .gt
  | "GE" => .ok .ge
  | "LT" => .ok .lt
  | "LE" => .ok .le
  | "OR" => .ok .or
  | "AND" => .ok .and
  | s => .error (.panic ("BUG: invalid operation: " ++ s))

-- `str[1 : len(str)-1]`: the quotes go, the escapes stay as written.
def unquote (s : String) : String :=
  String.ofList (s.toList.drop 1).dropLast

-- `VisitFilterKey` and `VisitFilterValue`.
def tokenValue (t : Token) : String :=
  if t.type = .STRING then unquote t.text else t.text

def visitFilterExpr : FilterExpr → Decoding Filter
  | .paren inner => visitFilterExpr inner
  | .ref filter => .ok ⟨filter.text, "", .unspecified, "", []⟩
  | .compare key op value => do
      let op ← operationFromString op.text
      .ok ⟨"", tokenValue key, op, tokenValue value, []⟩
  | .binary f1 op f2 => do
      let op ← operationFromString op.text
      let f1 ← visitFilterExpr f1
      let f2 ← visitFilterExpr f2
      -- a left operand of the same operation is merged: AND and OR take any number of filters
      if f1.op = op then .ok ⟨"", "", op, "", f1.subs ++ [f2]⟩ else .ok ⟨"", "", op, "", [f1, f2]⟩

-- `VisitFilterStmt` names the expression's filter, whatever name it had.
def visitFilterStmt (s : FilterStmt) : Decoding Filter := do
  let f ← visitFilterExpr s.expr
  .ok { f with name := s.name.text }

def visitSelectStmt (s : SelectStmt) : Decoding Selector := do
  let count ← parseCount s.count
  let clause ← match s.clause with
    | some t => clauseFromString t.text
    | none => .ok .unspecified
  .ok ⟨(s.name.map (·.text)).getD "", count, clause, (s.bucket.map (·.text)).getD "", s.filter.text⟩

-- The rule statements in order, split into the REP and the EC rules.
-- The rule statements in order, split into the REP and the EC rules. An EC rule that fails its
-- check makes `VisitPolicy` return the error as its result, which `DecodeString` then reports as
-- a result of the wrong type.
def visitRules : List RuleStmt → Decoding (List ReplicaDescriptor × List ECRule)
  | [] => .ok ([], [])
  | .rep count selector :: rest => do
      let count ← parseCount count
      let (replicas, ecRules) ← visitRules rest
      .ok (⟨count, (selector.map (·.text)).getD ""⟩ :: replicas, ecRules)
  | .ec dataPartNum parityPartNum selector :: rest => do
      let dataPartNum ← parseCount dataPartNum
      let parityPartNum ← parseCount parityPartNum
      let rule : ECRule := ⟨(selector.map (·.text)).getD "", dataPartNum, parityPartNum⟩
      match rule.verify with
      | .error _ => .error (.error (.unexpectedType "*fmt.wrapError"))
      | .ok () => do
          let (replicas, ecRules) ← visitRules rest
          .ok (replicas, rule :: ecRules)

def visitPolicy (tree : PolicyTree) : Decoding PlacementPolicy := do
  let (replicas, ecRules) ← visitRules tree.rules
  let cbf ← match tree.cbf with
    | some t => parseCount t
    | none => .ok 0
  let selectors ← tree.selects.mapM visitSelectStmt
  let filters ← tree.filters.mapM visitFilterStmt
  .ok ⟨cbf, filters, selectors, replicas, ecRules, none⟩

def validatePolicy (p : PlacementPolicy) : Except DecodeError Unit :=
  match p.selectors.find? fun s => s.filter ≠ mainFilterName ∧ s.filter ∉ p.filters.map (·.name) with
  | some s => .error (.unknownFilter s.filter)
  | none =>
      match p.replicas.find? fun r => r.selector ≠ "" ∧ r.selector ∉ p.selectors.map (·.name) with
      | some r => .error (.unknownSelector r.selector)
      | none => .ok ()

-- `p.DecodeString(s)`: the policy it stores in `p` on success.
-- `p.DecodeString(s)`: the policy it stores in `p` on success. The check runs on `*p` before
-- the decoded policy is stored, that is on the receiver's previous value.
def decodeString (p : PlacementPolicy) (s : String) : Decoding PlacementPolicy :=
  match (tokenize s.toList).bind parse with
  | none => .error (.error .syntaxError)
  | some tree => do
      let parsed ← visitPolicy tree
      match validatePolicy p with
      | .error e => .error (.error e)
      | .ok () => .ok parsed

-- A string whose SELECT names a filter it does not define decodes into the zero policy, and the
-- policy it gives then makes a string that passes the check fail to decode.
theorem decodeString_checks_receiver :
    (decodeString ⟨0, [], [], [], [], none⟩ "REP 1 IN X\nSELECT 1 FROM F AS X" =
        .ok ⟨0, [], [⟨"X", 1, .unspecified, "", "F"⟩], [⟨1, "X"⟩], [], none⟩ ∧
      validatePolicy ⟨0, [], [⟨"X", 1, .unspecified, "", "F"⟩], [⟨1, "X"⟩], [], none⟩ =
        .error (.unknownFilter "F")) ∧
    (decodeString ⟨0, [], [⟨"X", 1, .unspecified, "", "F"⟩], [⟨1, "X"⟩], [], none⟩ "REP 1" =
        .error (.error (.unknownFilter "F")) ∧
      validatePolicy ⟨0, [], [], [⟨1, ""⟩], [], none⟩ = .ok ()) := by
  decide +kernel

end NeoFS.Netmap.Query
