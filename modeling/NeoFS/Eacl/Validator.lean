import NeoFS.Go.Basic

set_option autoImplicit false

/- The eACL validator of eacl/validator.go. CalculateAction scans a table's records for the first
   one that applies to a request: its operation, then its targets against the request's role, key
   and account, then its filters against the headers a TypedHeaderSource gives for each header
   type. The enums are the code's int32 values, so a record decoded from the wire may hold any. -/
namespace NeoFS.Eacl

open Go

abbrev Action := Int32
def Action.allow : Action := 1
def Action.deny : Action := 2

abbrev Operation := Int32

abbrev Role := Int32
def Role.system : Role := 2

abbrev Match := Int32
def Match.stringEqual : Match := 1
def Match.stringNotEqual : Match := 2
def Match.notPresent : Match := 3
def Match.numGT : Match := 4
def Match.numGE : Match := 5
def Match.numLT : Match := 6
def Match.numLE : Match := 7

abbrev FilterHeaderType := Int32

structure Header where
  key : String
  value : String
deriving DecidableEq

structure Filter where
  headerType : FilterHeaderType
  matcher : Match
  key : String
  value : String

structure Target where
  role : Role
  subjs : List (List UInt8)

structure Record where
  action : Action
  operation : Operation
  filters : List Filter
  targets : List Target

structure Table where
  records : List Record

/-- A request to check. `hdrSrc` is HeadersOfType: the headers of a type, nil ones included, none
where they cannot be composed (its false result), or an error. -/
structure ValidationUnit (ε : Type) where
  role : Role
  op : Operation
  hdrSrc : FilterHeaderType → Except ε (Option (List (Option Header)))
  key : List UInt8
  account : List UInt8
  table : Table

-- `big.Int.SetString(s, 10)`: an optional sign, then one or more decimal digits, of any size.
def decimalValue : List Char → Option Int
  | [] => none
  | digits => (digits.foldlM (fun acc c => (digitValue c).map (acc * 10 + ·)) 0).map Int.ofNat

def setString (s : String) : Option Int :=
  match s.toList with
  | '-' :: digits => (decimalValue digits).map (- ·)
  | '+' :: digits => decimalValue digits
  | digits => decimalValue digits

example : setString "-12" = some (-12) := by decide
example : setString "+" = none := by decide

section Targets

-- `Target.binaryKeys` and `Target.Accounts`: the subjects of 33 and of 25 bytes.
def Target.binaryKeys (t : Target) : List (List UInt8) := t.subjs.filter (·.length = 33)
def Target.accounts (t : Target) : List (List UInt8) := t.subjs.filter (·.length = 25)

-- The loop of targetMatches; checkRole stays set only for a target with neither keys nor accounts.
def targetMatchesLoop (role : Role) (key account : List UInt8) : List Target → Bool
  | [] => false
  | target :: targets =>
      if target.role = Role.system then targetMatchesLoop role key account targets
      else
        let checkRole := target.binaryKeys.isEmpty && target.accounts.isEmpty
        if target.binaryKeys.contains key then true
        else if target.accounts.contains account then true
        else if checkRole && role == target.role then true
        else targetMatchesLoop role key account targets

def targetMatches {ε : Type} (unit : ValidationUnit ε) (record : Record) : Bool :=
  targetMatchesLoop unit.role unit.key unit.account record.targets

end Targets

section Filters

-- How the loop over one filter's headers ends: `matched++; break`, `continue nextFilter` on a
-- header a NOT_PRESENT filter names, or out of headers.
inductive HeaderScan where
  | matched
  | present
  | exhausted
deriving DecidableEq, Repr

def Match.isNumeric (m : Match) : Bool :=
  m == Match.numGT || m == Match.numGE || m == Match.numLT || m == Match.numLE

def cmpMatches (m : Match) : Ordering → Bool
  | .lt => !(m == Match.numGT || m == Match.numGE)
  | .eq => !(m == Match.numGT || m == Match.numLT)
  | .gt => !(m == Match.numLT || m == Match.numLE)

-- The switch on the matcher for a header with the filter's key; `nf` is the filter's value as
-- parsed for a numeric matcher, and any other matcher takes the default branch.
def headerMatches (filter : Filter) (nf : Int) (header : Header) : Bool :=
  if filter.matcher = Match.stringEqual then header.value == filter.value
  else if filter.matcher = Match.stringNotEqual then header.value != filter.value
  else if filter.matcher.isNumeric then
    match setString header.value with
    | none => false
    | some nv => cmpMatches filter.matcher (compare nv nf)
  else false

def scanHeaders (filter : Filter) (nf : Int) : List (Option Header) → HeaderScan
  | [] => .exhausted
  | none :: headers => scanHeaders filter nf headers
  | some header :: headers =>
      if header.key ≠ filter.key then scanHeaders filter nf headers
      else if filter.matcher = Match.notPresent then .present
      else if headerMatches filter nf header then .matched
      else scanHeaders filter nf headers

-- What one filter adds to matched once its headers are obtained: a numeric filter whose value is
-- no number is skipped, and NOT_PRESENT counts after the loop unless it left by continue nextFilter.
-- The reused nf is read only after it was set for this filter.
def filterMatched (filter : Filter) (headers : List (Option Header)) : Int :=
  if filter.matcher.isNumeric && (setString filter.value).isNone then 0
  else
    match scanHeaders filter ((setString filter.value).getD 0) headers with
    | .matched => 1
    | .present => 0
    | .exhausted => if filter.matcher = Match.notPresent then 1 else 0

-- The loop of matchFilters: -1 as soon as a filter's headers cannot be composed, and otherwise the
-- number of filters that found no suitable header.
def matchFiltersLoop {ε : Type} (hdrSrc : FilterHeaderType → Except ε (Option (List (Option Header))))
    (total : Int) : Int → List Filter → Except ε Int
  | matched, [] => .ok (total - matched)
  | matched, filter :: filters =>
      match hdrSrc filter.headerType with
      | .error err => .error err
      | .ok none => .ok (-1)
      | .ok (some headers) => matchFiltersLoop hdrSrc total (matched + filterMatched filter headers) filters

def matchFilters {ε : Type} (hdrSrc : FilterHeaderType → Except ε (Option (List (Option Header))))
    (filters : List Filter) : Except ε Int :=
  matchFiltersLoop hdrSrc filters.length 0 filters

end Filters

def calculateActionLoop {ε : Type} (unit : ValidationUnit ε) : List Record → Action × Bool × Option ε
  | [] => (Action.allow, true, none)
  | record :: records =>
      if record.operation ≠ unit.op then calculateActionLoop unit records
      else if !targetMatches unit record then calculateActionLoop unit records
      else
        match matchFilters unit.hdrSrc record.filters with
        | .error err => (Action.deny, false, some err)
        | .ok val =>
            if val < 0 then (Action.allow, false, none)
            else if val = 0 then (record.action, true, none)
            else calculateActionLoop unit records

def calculateAction {ε : Type} (unit : ValidationUnit ε) : Action × Bool × Option ε :=
  calculateActionLoop unit unit.table.records

section Reference

def numericHolds (m : Match) (nv nf : Int) : Bool :=
  if m = Match.numGT then nf < nv
  else if m = Match.numGE then nf ≤ nv
  else if m = Match.numLT then nv < nf
  else nv ≤ nf

def filterHolds (headers : List Header) (filter : Filter) : Bool :=
  let named := headers.filter (·.key == filter.key)
  if filter.matcher = Match.notPresent then named.isEmpty
  else if filter.matcher = Match.stringEqual then named.any (·.value == filter.value)
  else if filter.matcher = Match.stringNotEqual then named.any (·.value != filter.value)
  else if filter.matcher.isNumeric then
    match setString filter.value with
    | none => false
    | some nf => named.any fun header => (setString header.value).any fun nv => numericHolds filter.matcher nv nf
  else false

def targetNames (role : Role) (key account : List UInt8) (target : Target) : Bool :=
  target.role != Role.system &&
    if target.binaryKeys.isEmpty && target.accounts.isEmpty then role == target.role
    else target.binaryKeys.contains key || target.accounts.contains account

def firstMatch (headersOf : FilterHeaderType → Option (List Header)) (role : Role) (op : Operation)
    (key account : List UInt8) : List Record → Action × Bool
  | [] => (Action.allow, true)
  | record :: records =>
      if record.operation = op ∧ record.targets.any (targetNames role key account) then
        if record.filters.any fun filter => (headersOf filter.headerType).isNone then (Action.allow, false)
        else if record.filters.all fun filter => filterHolds ((headersOf filter.headerType).getD []) filter then
          (record.action, true)
        else firstMatch headersOf role op key account records
      else firstMatch headersOf role op key account records

end Reference

section Refinement

theorem target_matches_loop_eq (role : Role) (key account : List UInt8) (targets : List Target) :
    targetMatchesLoop role key account targets = targets.any (targetNames role key account) := by
  induction targets with
  | nil => rfl
  | cons target targets ih =>
      rw [targetMatchesLoop, List.any_cons, ← ih]
      by_cases system : target.role = Role.system
      · simp [targetNames, system]
      · -- checkRole is set exactly when the target lists neither keys nor accounts
        have notSystem : (target.role != Role.system) = true := bne_iff_ne.mpr system
        by_cases noSubjects : target.binaryKeys = [] ∧ target.accounts = []
        · simp [targetNames, system, notSystem, noSubjects.1, noSubjects.2, Bool.beq_eq_decide_eq]
        · have checkRole : (target.binaryKeys.isEmpty && target.accounts.isEmpty) = false := by
            simpa using noSubjects
          simp only [targetNames, system, checkRole, notSystem, Bool.false_and, Bool.false_eq_true, if_false,
            Bool.true_and, Bool.or_assoc]
          cases target.binaryKeys.contains key <;> simp

theorem scan_headers_eq (filter : Filter) (nf : Int) (headers : List (Option Header)) :
    scanHeaders filter nf headers =
      if filter.matcher = Match.notPresent then
        (if headers.reduceOption.any (·.key == filter.key) then .present else .exhausted)
      else if (headers.reduceOption.filter (·.key == filter.key)).any (headerMatches filter nf) then .matched
      else .exhausted := by
  induction headers with
  | nil => simp [scanHeaders]
  | cons header headers ih =>
      cases header with
      | none => rw [scanHeaders, List.reduceOption_cons_of_none, ih]
      | some header =>
          rw [scanHeaders, List.reduceOption_cons_of_some, ih]
          by_cases named : header.key = filter.key
          · by_cases absent : filter.matcher = Match.notPresent
            · simp [named, absent]
            · by_cases found : headerMatches filter nf header <;> simp [named, absent, found]
          · simp [named]

theorem numeric_cases {m : Match} (numeric : m.isNumeric = true) :
    m = Match.numGT ∨ m = Match.numGE ∨ m = Match.numLT ∨ m = Match.numLE := by
  simpa [Match.isNumeric, Bool.or_assoc] using numeric

theorem cmp_matches_compare {m : Match} (numeric : m.isNumeric = true) (nv nf : Int) :
    cmpMatches m (compare nv nf) = numericHolds m nv nf := by
  rcases lt_trichotomy nv nf with less | same | greater
  · rw [compare_lt_iff_lt.mpr less]
    rcases numeric_cases numeric with rfl | rfl | rfl | rfl <;>
      simp [cmpMatches, numericHolds, Match.numGT, Match.numGE, Match.numLT, Match.numLE, less, lt_asymm less,
        not_le.mpr less, less.le]
  · rw [compare_eq_iff_eq.mpr same]
    rcases numeric_cases numeric with rfl | rfl | rfl | rfl <;>
      simp [cmpMatches, numericHolds, Match.numGT, Match.numGE, Match.numLT, Match.numLE, same]
  · rw [compare_gt_iff_gt.mpr greater]
    rcases numeric_cases numeric with rfl | rfl | rfl | rfl <;>
      simp [cmpMatches, numericHolds, Match.numGT, Match.numGE, Match.numLT, Match.numLE, greater,
        lt_asymm greater, not_le.mpr greater, greater.le]

theorem header_matches_numeric {filter : Filter} (numeric : filter.matcher.isNumeric = true) (nf : Int) :
    headerMatches filter nf = fun header => (setString header.value).any fun nv => numericHolds filter.matcher nv nf := by
  have notString : filter.matcher ≠ Match.stringEqual ∧ filter.matcher ≠ Match.stringNotEqual := by
    rcases numeric_cases numeric with same | same | same | same <;>
      simp [same, Match.stringEqual, Match.stringNotEqual, Match.numGT, Match.numGE, Match.numLT, Match.numLE]
  funext header
  rw [headerMatches, if_neg notString.1, if_neg notString.2, if_pos numeric]
  cases setString header.value with
  | none => rfl
  | some nv => exact cmp_matches_compare numeric nv nf

theorem header_matches_string_equal {filter : Filter} (stringEqual : filter.matcher = Match.stringEqual) (nf : Int) :
    headerMatches filter nf = fun header => header.value == filter.value := by
  funext header
  rw [headerMatches, if_pos stringEqual]

theorem header_matches_string_not_equal {filter : Filter} (stringNotEqual : filter.matcher = Match.stringNotEqual)
    (nf : Int) : headerMatches filter nf = fun header => header.value != filter.value := by
  have notEqual : filter.matcher ≠ Match.stringEqual := by
    simp [stringNotEqual, Match.stringNotEqual, Match.stringEqual]
  funext header
  rw [headerMatches, if_neg notEqual, if_pos stringNotEqual]

theorem filter_matched_of_scanned {filter : Filter} (absent : filter.matcher ≠ Match.notPresent)
    (parsed : (filter.matcher.isNumeric && (setString filter.value).isNone) = false) (headers : List (Option Header)) :
    filterMatched filter headers =
      if (headers.reduceOption.filter (·.key == filter.key)).any
          (headerMatches filter ((setString filter.value).getD 0)) then 1 else 0 := by
  rw [filterMatched, scan_headers_eq, parsed, if_neg Bool.false_ne_true, if_neg absent]
  by_cases scanned : (headers.reduceOption.filter (·.key == filter.key)).any
      (headerMatches filter ((setString filter.value).getD 0))
  · rw [if_pos scanned, if_pos scanned]
  · rw [if_neg scanned, if_neg scanned, if_neg absent]

theorem filter_matched_eq (filter : Filter) (headers : List (Option Header)) :
    filterMatched filter headers = if filterHolds headers.reduceOption filter then 1 else 0 := by
  by_cases absent : filter.matcher = Match.notPresent
  · -- NOT_PRESENT counts exactly when the loop runs out of headers
    have notNumeric : filter.matcher.isNumeric = false := by
      simp [absent, Match.isNumeric, Match.notPresent, Match.numGT, Match.numGE, Match.numLT, Match.numLE]
    rw [filterMatched, scan_headers_eq]
    cases found : headers.reduceOption.any (·.key == filter.key)
    · have none : headers.reduceOption.filter (·.key == filter.key) = [] :=
        List.filter_eq_nil_iff.mpr (List.any_eq_false.mp found)
      simp only [filterHolds, if_pos absent, notNumeric, none, Bool.false_and, Bool.false_eq_true,
        if_false, if_true, List.isEmpty_nil]
    · have some : (headers.reduceOption.filter (·.key == filter.key)).isEmpty = false := by
        obtain ⟨header, mem, named⟩ := List.any_eq_true.mp found
        exact List.isEmpty_eq_false_iff_exists_mem.mpr ⟨header, List.mem_filter.mpr ⟨mem, named⟩⟩
      simp only [filterHolds, if_pos absent, notNumeric, some, Bool.false_and, Bool.false_eq_true,
        if_false, if_true]
  by_cases stringEqual : filter.matcher = Match.stringEqual
  · have notNumeric : filter.matcher.isNumeric = false := by
      simp [stringEqual, Match.isNumeric, Match.stringEqual, Match.numGT, Match.numGE, Match.numLT, Match.numLE]
    rw [filter_matched_of_scanned absent (by rw [notNumeric, Bool.false_and]), header_matches_string_equal stringEqual]
    simp only [filterHolds, if_neg absent, if_pos stringEqual]
  by_cases stringNotEqual : filter.matcher = Match.stringNotEqual
  · have notNumeric : filter.matcher.isNumeric = false := by
      simp [stringNotEqual, Match.isNumeric, Match.stringNotEqual, Match.numGT, Match.numGE, Match.numLT,
        Match.numLE]
    rw [filter_matched_of_scanned absent (by rw [notNumeric, Bool.false_and]),
      header_matches_string_not_equal stringNotEqual]
    simp only [filterHolds, if_neg absent, if_neg stringEqual, if_pos stringNotEqual]
  by_cases numeric : filter.matcher.isNumeric
  · -- a filter value that is no number is skipped before the headers are looked at
    cases parsed : setString filter.value with
    | none => simp [filterMatched, filterHolds, absent, stringEqual, stringNotEqual, numeric, parsed]
    | some nf =>
        rw [filter_matched_of_scanned absent (by rw [parsed, Option.isNone_some, Bool.and_false]), parsed,
          Option.getD_some, header_matches_numeric numeric]
        simp only [filterHolds, if_neg absent, if_neg stringEqual, if_neg stringNotEqual, if_pos numeric, parsed]
  · -- any other matcher takes the default branch for every header
    have notNumeric : filter.matcher.isNumeric = false := by simpa using numeric
    rw [filter_matched_of_scanned absent (by rw [notNumeric, Bool.false_and])]
    simp [filterHolds, headerMatches, absent, stringEqual, stringNotEqual, numeric]

section Source

variable {ε : Type} {hdrSrc : FilterHeaderType → Except ε (Option (List (Option Header)))}
  {headersOf : FilterHeaderType → Option (List (Option Header))}

theorem match_filters_loop_eq (noErrors : ∀ headerType, hdrSrc headerType = .ok (headersOf headerType)) (total : Int)
    (filters : List Filter) (matched : Int) :
    matchFiltersLoop hdrSrc total matched filters =
      if filters.any (fun filter => (headersOf filter.headerType).isNone) then .ok (-1)
      else .ok (total - matched -
        filters.countP fun filter => filterHolds (((headersOf filter.headerType).map List.reduceOption).getD []) filter) := by
  induction filters generalizing matched with
  | nil => simp [matchFiltersLoop]
  | cons filter filters ih =>
      rw [matchFiltersLoop, noErrors]
      cases obtained : headersOf filter.headerType with
      | none => simp [obtained]
      | some headers =>
          simp only [ih, filter_matched_eq, List.any_cons, obtained, Option.isNone_some, Bool.false_or,
            List.countP_cons, Option.map_some, Option.getD_some]
          split_ifs <;> simp only [Except.ok.injEq] <;> push_cast <;> ring

theorem match_filters_eq (noErrors : ∀ headerType, hdrSrc headerType = .ok (headersOf headerType))
    (filters : List Filter) :
    matchFilters hdrSrc filters =
      if filters.any (fun filter => (headersOf filter.headerType).isNone) then .ok (-1)
      else .ok (filters.countP fun filter =>
        !filterHolds (((headersOf filter.headerType).map List.reduceOption).getD []) filter) := by
  rw [matchFilters, match_filters_loop_eq noErrors, List.length_eq_countP_add_countP
    (fun filter => filterHolds (((headersOf filter.headerType).map List.reduceOption).getD []) filter)]
  split_ifs
  · rfl
  · simp only [Except.ok.injEq, Bool.not_eq_true, Bool.decide_eq_false]
    push_cast
    ring

end Source

end Refinement

theorem calculateAction_first_match {ε : Type} (unit : ValidationUnit ε)
    (headersOf : FilterHeaderType → Option (List (Option Header)))
    (noErrors : ∀ headerType, unit.hdrSrc headerType = .ok (headersOf headerType)) :
    calculateAction unit =
      ((firstMatch (fun headerType => (headersOf headerType).map List.reduceOption) unit.role unit.op unit.key
          unit.account unit.table.records).1,
        (firstMatch (fun headerType => (headersOf headerType).map List.reduceOption) unit.role unit.op unit.key
          unit.account unit.table.records).2, none) := by
  rw [calculateAction]
  generalize unit.table.records = records
  induction records with
  | nil => rfl
  | cons record records ih =>
      rw [calculateActionLoop, firstMatch]
      by_cases applies : record.operation = unit.op ∧ record.targets.any (targetNames unit.role unit.key unit.account)
      · have named : targetMatches unit record = true := by
          rw [targetMatches, target_matches_loop_eq]
          exact applies.2
        rw [if_neg (not_not.mpr applies.1), named, Bool.not_true, if_neg Bool.false_ne_true, match_filters_eq noErrors,
          if_pos applies]
        simp only [Option.isNone_map]
        by_cases missing : record.filters.any fun filter => (headersOf filter.headerType).isNone
        · -- the headers of some filter's type cannot be composed: val is -1
          rw [if_pos missing, if_pos missing]
          rfl
        · rw [if_neg missing, if_neg missing]
          by_cases allHold : record.filters.all fun filter =>
              filterHolds (((headersOf filter.headerType).map List.reduceOption).getD []) filter
          · -- no filter fails: val is 0 and the record decides
            have none : (record.filters.countP fun filter =>
                !filterHolds (((headersOf filter.headerType).map List.reduceOption).getD []) filter) = 0 := by
              rw [List.countP_eq_zero]
              simpa using allHold
            simp only [if_pos allHold, none]
            rfl
          · -- some filter fails: val is positive and the scan goes on
            have some : 0 < (record.filters.countP fun filter =>
                !filterHolds (((headersOf filter.headerType).map List.reduceOption).getD []) filter) := by
              rw [List.countP_pos_iff]
              simpa using allHold
            simp only [if_neg allHold]
            rw [if_neg (by omega), if_neg (by omega), ih]
      · by_cases sameOp : record.operation = unit.op
        · have unmatched : targetMatches unit record = false := by
            rw [targetMatches, target_matches_loop_eq]
            simpa [sameOp] using applies
          rw [if_neg (not_not.mpr sameOp), unmatched, Bool.not_false, if_pos rfl, if_neg applies, ih]
        · rw [if_pos sameOp, if_neg applies, ih]

-- A GET by an Others party, under a record that denies objects whose size attribute is above 7.
def sizeRuleUnit : ValidationUnit String where
  role := 3
  op := 1
  hdrSrc := fun _ => .ok (some [none, some ⟨"size", "42"⟩])
  key := []
  account := []
  table := ⟨[⟨Action.deny, 1, [⟨2, Match.numGT, "size", "7"⟩], [⟨3, []⟩]⟩]⟩

theorem calculateAction_denies_by_size :
    (∀ headerType, sizeRuleUnit.hdrSrc headerType = .ok (some [none, some ⟨"size", "42"⟩])) ∧
      calculateAction sizeRuleUnit = (Action.deny, true, none) :=
  ⟨fun _ => rfl,
    (calculateAction_first_match sizeRuleUnit (fun _ => some [none, some ⟨"size", "42"⟩]) (fun _ => rfl)).trans
      (by decide)⟩

end NeoFS.Eacl
