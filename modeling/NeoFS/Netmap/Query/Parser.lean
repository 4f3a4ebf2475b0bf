import NeoFS.Netmap.Query.Lexer

set_option autoImplicit false

/- The parser of the placement-policy language (parser/Query.g4) and the parse trees it
   builds, with the tokens the visitor reads. Every decision of the grammar is taken on the
   next token, as ANTLR's prediction does for it: the alternatives of each decision start with
   different tokens. The left-recursive `filterExpr` is ANTLR's precedence loop, `AND` (the first
   alternative) binding tighter than `OR`, both to the left. A syntax error makes `DecodeString`
   fail, so a parser returns `none` then; the loops run on fuel, which the caller sizes from the
   number of tokens. -/
namespace NeoFS.Netmap.Query

inductive FilterExpr where
  | binary (f1 : FilterExpr) (op : Token) (f2 : FilterExpr)
  | paren (inner : FilterExpr)
  | ref (filter : Token)
  | compare (key : Token) (op : Token) (value : Token)
deriving DecidableEq, Repr

inductive RuleStmt where
  | rep (count : Token) (selector : Option Token)
  | ec (dataPartNum parityPartNum : Token) (selector : Option Token)
deriving DecidableEq, Repr

structure SelectStmt where
  count : Token
  clause : Option Token
  bucket : Option Token
  filter : Token
  name : Option Token
deriving DecidableEq, Repr

structure FilterStmt where
  expr : FilterExpr
  name : Token
deriving DecidableEq, Repr

structure PolicyTree where
  rules : List RuleStmt
  cbf : Option Token
  selects : List SelectStmt
  filters : List FilterStmt
deriving DecidableEq, Repr

abbrev Parser (α : Type) := List Token → Option (α × List Token)

-- `keyword : REP | IN | AS | SELECT | FROM | FILTER | EC` and `ident : keyword | IDENT`.
def identTypes : List TokenType := [.REP, .IN, .AS, .SELECT, .FROM, .FILTER, .EC, .IDENT]

def expect (type : TokenType) : Parser Token
  | t :: rest => if t.type = type then some (t, rest) else none
  | [] => none

def oneOf (types : List TokenType) : Parser Token
  | t :: rest => if t.type ∈ types then some (t, rest) else none
  | [] => none

def ident : Parser Token := oneOf identTypes

def identWC : Parser Token := oneOf (.WILDCARD :: identTypes)

-- `(T p)?`: entered on the token `T`.
def optionalAfter {α : Type} (type : TokenType) (p : Parser α) : Parser (Option α)
  | t :: rest => if t.type = type then (p rest).map fun (x, rest) => (some x, rest) else some (none, t :: rest)
  | [] => some (none, [])

def repStmt : Parser RuleStmt := fun ts => do
  let (_, ts) ← expect .REP ts
  let (count, ts) ← expect .NUMBER1 ts
  let (selector, ts) ← optionalAfter .IN ident ts
  pure (.rep count selector, ts)

def ecStmt : Parser RuleStmt := fun ts => do
  let (_, ts) ← expect .EC ts
  let (dataPartNum, ts) ← expect .NUMBER1 ts
  let (_, ts) ← expect .EC_SEP ts
  let (parityPartNum, ts) ← expect .NUMBER1 ts
  let (selector, ts) ← optionalAfter .IN ident ts
  pure (.ec dataPartNum parityPartNum selector, ts)

def ruleStmt : Parser RuleStmt
  | [] => none
  | t :: rest => if t.type = .EC then ecStmt (t :: rest) else repStmt (t :: rest)

-- `(IN clause? Bucket = ident)?`
def bucketClause : Parser (Option Token × Option Token) := fun ts =>
  (optionalAfter .IN (fun ts => do
      let (clause, ts) ←
        match ts with
        | t :: rest =>
            if t.type = .CLAUSE_SAME ∨ t.type = .CLAUSE_DISTINCT then some (some t, rest) else some (none, t :: rest)
        | [] => some (none, [])
      let (bucket, ts) ← ident ts
      pure ((clause, bucket), ts)) ts).map fun (found, ts) =>
    match found with
    | some (clause, bucket) => ((clause, some bucket), ts)
    | none => ((none, none), ts)

def selectStmt : Parser SelectStmt := fun ts => do
  let (_, ts) ← expect .SELECT ts
  let (count, ts) ← expect .NUMBER1 ts
  let ((clause, bucket), ts) ← bucketClause ts
  let (_, ts) ← expect .FROM ts
  let (filter, ts) ← identWC ts
  let (name, ts) ← optionalAfter .AS ident ts
  pure (⟨count, clause, bucket, filter, name⟩, ts)

def expr : Parser FilterExpr
  | [] => none
  | t :: rest =>
      if t.type = .AT then (ident rest).map fun (filter, rest) => (.ref filter, rest)
      else do
        let (key, ts) ← oneOf (.STRING :: identTypes) (t :: rest)
        let (op, ts) ← expect .SIMPLE_OP ts
        let (value, ts) ← oneOf (.ZERO :: .NUMBER1 :: .STRING :: identTypes) ts
        pure (.compare key op value, ts)

mutual
def filterExpr : Nat → Nat → Parser FilterExpr
  | 0, _ => fun _ => none
  | fuel + 1, prec => fun ts => do
      let (lhs, ts) ← filterPrimary fuel ts
      filterLoop fuel prec lhs ts
def filterPrimary : Nat → Parser FilterExpr
  | 0 => fun _ => none
  | fuel + 1 => fun ts =>
      match ts with
      | t :: rest =>
          if t.type = .L_PAREN then do
            let (inner, ts) ← filterExpr fuel 0 rest
            let (_, ts) ← expect .R_PAREN ts
            pure (.paren inner, ts)
          else expr ts
      | [] => none
def filterLoop : Nat → Nat → FilterExpr → Parser FilterExpr
  | 0, _, _ => fun _ => none
  | fuel + 1, prec, lhs => fun ts =>
      match ts with
      | t :: rest =>
          if t.type = .AND_OP ∧ prec ≤ 4 then do
            let (rhs, ts) ← filterExpr fuel 5 rest
            filterLoop fuel prec (.binary lhs t rhs) ts
          else if t.type = .OR_OP ∧ prec ≤ 3 then do
            let (rhs, ts) ← filterExpr fuel 4 rest
            filterLoop fuel prec (.binary lhs t rhs) ts
          else some (lhs, t :: rest)
      | [] => some (lhs, [])
end

def filterStmt (fuel : Nat) : Parser FilterStmt := fun ts => do
  let (_, ts) ← expect .FILTER ts
  let (e, ts) ← filterExpr fuel 0 ts
  let (_, ts) ← expect .AS ts
  let (name, ts) ← ident ts
  pure (⟨e, name⟩, ts)

-- `p*` while the next token is one `p` starts with.
def many {α : Type} (starts : TokenType → Bool) (p : Parser α) : Nat → Parser (List α)
  | 0 => fun _ => none
  | fuel + 1 => fun ts =>
      match ts with
      | t :: rest =>
          if starts t.type then do
            let (x, ts) ← p (t :: rest)
            let (xs, ts) ← many starts p fuel ts
            pure (x :: xs, ts)
          else some ([], t :: rest)
      | [] => some ([], [])

def policy (fuel : Nat) (ts : List Token) : Option PolicyTree := do
  let (rules, ts) ← many (fun type => type = .REP ∨ type = .EC) ruleStmt fuel ts
  if rules = [] then none
  else
    let (cbf, ts) ← optionalAfter .CBF (expect .NUMBER1) ts
    let (selects, ts) ← many (· = .SELECT) selectStmt fuel ts
    let (filters, ts) ← many (· = .FILTER) (filterStmt fuel) fuel ts
    if ts = [] then some ⟨rules, cbf, selects, filters⟩ else none

-- Fuel for a token list: every loop round and every nesting reads a token.
def parse (ts : List Token) : Option PolicyTree :=
  policy (2 * ts.length + 2) ts

end NeoFS.Netmap.Query
