
set_option autoImplicit false

/- The lexer of the placement-policy language (parser/QueryLexer.g4). ANTLR takes the longest
   match at every position and, between matches of one length, the rule written first: a word
   is a keyword token when it spells one and an `IDENT` otherwise. Whitespace is skipped; a
   character no rule matches is a recognition error, which makes `DecodeString` fail, so the
   lexer returns `none` then. -/
namespace NeoFS.Netmap.Query

inductive TokenType where
  | AND_OP | OR_OP | SIMPLE_OP
  | REP | IN | AS | CBF | SELECT | FROM | FILTER | WILDCARD | EC
  | CLAUSE_SAME | CLAUSE_DISTINCT
  | L_PAREN | R_PAREN | AT | EC_SEP
  | IDENT | NUMBER1 | ZERO | STRING
deriving DecidableEq, Repr

structure Token where
  type : TokenType
  text : String
deriving DecidableEq, Repr

def isDigit (c : Char) : Bool := '0' ≤ c && c ≤ '9'

def isNondigit (c : Char) : Bool := ('a' ≤ c && c ≤ 'z') || ('A' ≤ c && c ≤ 'Z') || c == '_'

def isWordChar (c : Char) : Bool := isDigit c || isNondigit c

def isHex (c : Char) : Bool := isDigit c || ('a' ≤ c && c ≤ 'f') || ('A' ≤ c && c ≤ 'F')

def isWS (c : Char) : Bool := c == ' ' || c == '\t' || c == '\n' || c == '\r'

def wordType : String → TokenType
  | "AND" => .AND_OP
  | "OR" => .OR_OP
  | "EQ" | "NE" | "GE" | "GT" | "LT" | "LE" => .SIMPLE_OP
  | "REP" => .REP
  | "IN" => .IN
  | "AS" => .AS
  | "CBF" => .CBF
  | "SELECT" => .SELECT
  | "FROM" => .FROM
  | "FILTER" => .FILTER
  | "EC" => .EC
  | "SAME" => .CLAUSE_SAME
  | "DISTINCT" => .CLAUSE_DISTINCT
  | _ => .IDENT

def punctuation : Char → Option TokenType
  | '*' => some .WILDCARD
  | '(' => some .L_PAREN
  | ')' => some .R_PAREN
  | '@' => some .AT
  | '/' => some .EC_SEP
  | _ => none

-- Where the lexer stands inside a token: ANTLR's DFA for this grammar, with the characters
-- of the token read so far.
inductive LexState where
  | start
  | word (acc : List Char)
  | number (acc : List Char)
  | string (quote : Char) (acc : List Char)
  | escape (quote : Char) (acc : List Char)
  | unicode (quote : Char) (acc : List Char) (hexLeft : Nat)
deriving DecidableEq, Repr

def wordToken (acc : List Char) : Token := ⟨wordType (String.ofList acc), String.ofList acc⟩

def startWith (c : Char) : Option (List Token × LexState) :=
  if isWS c then some ([], .start)
  else if isNondigit c then some ([], .word [c])
  else if c = '0' then some ([⟨.ZERO, "0"⟩], .start)
  else if isDigit c then some ([], .number [c])
  else if c = '"' ∨ c = '\'' then some ([], .string c [c])
  else match punctuation c with
    | some type => some ([⟨type, c.toString⟩], .start)
    | none => none

-- One character: the tokens it completes and the state after it.
def step : LexState → Char → Option (List Token × LexState)
  | .start, c => startWith c
  | .word acc, c =>
      if isWordChar c then some ([], .word (acc ++ [c]))
      else (startWith c).map fun (ts, s) => (wordToken acc :: ts, s)
  | .number acc, c =>
      if isDigit c then some ([], .number (acc ++ [c]))
      else (startWith c).map fun (ts, s) => (⟨.NUMBER1, String.ofList acc⟩ :: ts, s)
  | .string quote acc, c =>
      if c = quote then some ([⟨.STRING, String.ofList (acc ++ [c])⟩], .start)
      else if c = '\\' then some ([], .escape quote (acc ++ [c]))
      else if c.toNat < 0x20 then none
      else some ([], .string quote (acc ++ [c]))
  | .escape quote acc, c =>
      if c ∈ ['\'', '"', '\\', '/', 'b', 'f', 'n', 'r', 't'] then some ([], .string quote (acc ++ [c]))
      else if c = 'u' then some ([], .unicode quote (acc ++ [c]) 4)
      else none
  | .unicode quote acc hexLeft, c =>
      if !isHex c then none
      else if hexLeft ≤ 1 then some ([], .string quote (acc ++ [c]))
      else some ([], .unicode quote (acc ++ [c]) (hexLeft - 1))

-- The end of the input completes a word or a number; it cannot end a string.
def finish : LexState → Option (List Token)
  | .start => some []
  | .word acc => some [wordToken acc]
  | .number acc => some [⟨.NUMBER1, String.ofList acc⟩]
  | _ => none

def lexFrom : LexState → List Char → Option (List Token)
  | s, [] => finish s
  | s, c :: rest =>
      match step s c with
      | none => none
      | some (ts, s') => (lexFrom s' rest).map (ts ++ ·)

def tokenize (cs : List Char) : Option (List Token) :=
  lexFrom .start cs

example : tokenize "REP 1 IN X".toList =
    some [⟨.REP, "REP"⟩, ⟨.NUMBER1, "1"⟩, ⟨.IN, "IN"⟩, ⟨.IDENT, "X"⟩] := by decide

end NeoFS.Netmap.Query
