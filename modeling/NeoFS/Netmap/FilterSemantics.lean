import NeoFS.Lib.Except
import NeoFS.Netmap.Filter
import NeoFS.Netmap.Query.Decode

set_option autoImplicit false

/- The filters of a placement policy read as formulas over a node, and what `context.match`
   computes of them. Processing (filter.go) checks each top-level filter against the names
   registered before it and keeps the last filter of each name; when the names are distinct the
   references are therefore well founded, and match returns, with enough fuel, the value of the
   formula in which a named sub-filter stands for the top-level filter of that name. When two
   filters share a name, the later one can refer back through the earlier references, and match
   then follows a cycle. -/
namespace NeoFS.Netmap

def IsNumeric (op : FilterOp) : Prop := op = .gt ∨ op = .ge ∨ op = .lt ∨ op = .le

def leafHolds (f : Filter) (b : NodeInfo) : Bool :=
  match f.op with
  | .eq => b.attribute f.key == f.val
  | .ne => b.attribute f.key != f.val
  | op =>
      let attr : Option Nat :=
        if f.key = "Price" then some b.price
        else if f.key = "Capacity" then some b.capacity
        else Go.parseUint (b.attribute f.key) 64
      match attr, Go.parseUint f.val 64 with
      | some attr, some bound =>
          match op with
          | .gt => decide (attr > bound)
          | .ge => decide (attr ≥ bound)
          | .lt => decide (attr < bound)
          | .le => decide (attr ≤ bound)
          | _ => false
      | _, _ => false

mutual
def Filter.holds (env : String → Option Bool) (b : NodeInfo) : Filter → Bool
  | ⟨name, key, op, val, subs⟩ =>
      match op with
      | .and => Filter.holdsAll env b subs
      | .or => Filter.holdsAny env b subs
      | _ => leafHolds ⟨name, key, op, val, subs⟩ b
def Filter.holdsAll (env : String → Option Bool) (b : NodeInfo) : List Filter → Bool
  | [] => true
  | sub :: rest => (if sub.name ≠ "" then (env sub.name).getD false else Filter.holds env b sub) &&
      Filter.holdsAll env b rest
def Filter.holdsAny (env : String → Option Bool) (b : NodeInfo) : List Filter → Bool
  | [] => false
  | sub :: rest => (if sub.name ≠ "" then (env sub.name).getD false else Filter.holds env b sub) ||
      Filter.holdsAny env b rest
end

def Filter.refHolds (env : String → Option Bool) (b : NodeInfo) (sub : Filter) : Bool :=
  if sub.name ≠ "" then (env sub.name).getD false else sub.holds env b

theorem holds_all_eq (env : String → Option Bool) (b : NodeInfo) (subs : List Filter) :
    Filter.holdsAll env b subs = subs.all (Filter.refHolds env b) := by
  induction subs with
  | nil => rfl
  | cons sub rest ih => rw [Filter.holdsAll, ih, List.all_cons, Filter.refHolds]

theorem holds_any_eq (env : String → Option Bool) (b : NodeInfo) (subs : List Filter) :
    Filter.holdsAny env b subs = subs.any (Filter.refHolds env b) := by
  induction subs with
  | nil => rfl
  | cons sub rest ih => rw [Filter.holdsAny, ih, List.any_cons, Filter.refHolds]

def policyEnv (b : NodeInfo) (filters : List Filter) : String → Option Bool :=
  filters.foldl (fun env f => Function.update env f.name (some (f.holds env b))) fun _ => none

def CacheSound (c : Context) : Prop := ∀ v k, c.numCache v = some k → Go.parseUint v 64 = some k

theorem match_key_value_eq (c : Context) (f : Filter) (b : NodeInfo) (sound : CacheSound c)
    (cached : IsNumeric f.op → ∃ k, c.numCache f.val = some k) : matchKeyValue c f b = leafHolds f b := by
  obtain ⟨name, key, op, val, subs⟩ := f
  by_cases numeric : IsNumeric op
  · obtain ⟨k, hk⟩ := cached numeric
    have parsed := sound val k hk
    unfold matchKeyValue leafHolds
    dsimp only at hk parsed ⊢
    -- both read the attribute the same way; only the bound comes from different places
    generalize (if key = "Price" then some b.price else if key = "Capacity" then some b.capacity
      else Go.parseUint (b.attribute key) 64) = attr
    rcases numeric with rfl | rfl | rfl | rfl <;>
      · simp only [hk, parsed, Option.getD_some]
        cases attr <;> rfl
  · unfold matchKeyValue leafHolds
    generalize (if key = "Price" then some b.price else if key = "Capacity" then some b.capacity
      else Go.parseUint (b.attribute key) 64) = attr
    cases op <;> simp only [IsNumeric, true_or, or_true, not_true_eq_false] at numeric <;>
      first | rfl | (cases attr <;> cases Go.parseUint val 64 <;> rfl)

mutual
def Filter.Checked (scope : String → Option Filter) (cache : String → Option Nat) : Filter → Prop
  | ⟨_, _, op, val, subs⟩ =>
      match op with
      | .and | .or => Filter.SubsChecked scope cache subs
      | op => IsNumeric op → ∃ k, cache val = some k
def Filter.SubsChecked (scope : String → Option Filter) (cache : String → Option Nat) : List Filter → Prop
  | [] => True
  | sub :: rest => (if sub.name ≠ "" then scope sub.name ≠ none else Filter.Checked scope cache sub) ∧
      Filter.SubsChecked scope cache rest
end

theorem match_sub_filters_and (c : Context) (recurse : Option Filter → Option Bool) (v : Filter → Bool) :
    ∀ subs : List Filter, (∀ sub ∈ subs, recurse (subFilterRef c sub) = some (v sub)) →
      matchSubFilters c .and recurse subs = some (subs.all v)
  | [], _ => rfl
  | sub :: rest, each => by
      rw [matchSubFilters, each sub List.mem_cons_self, Option.bind_some, List.all_cons]
      cases v sub with
      | false => rfl
      | true => exact match_sub_filters_and c recurse v rest fun s mem => each s (List.mem_cons_of_mem _ mem)

theorem match_sub_filters_or (c : Context) (recurse : Option Filter → Option Bool) (v : Filter → Bool) :
    ∀ subs : List Filter, (∀ sub ∈ subs, recurse (subFilterRef c sub) = some (v sub)) →
      matchSubFilters c .or recurse subs = some (subs.any v)
  | [], _ => rfl
  | sub :: rest, each => by
      rw [matchSubFilters, each sub List.mem_cons_self, Option.bind_some, List.any_cons]
      cases v sub with
      | true => rfl
      | false => exact match_sub_filters_or c recurse v rest fun s mem => each s (List.mem_cons_of_mem _ mem)

theorem match_filter_leaf (c : Context) (fuel : Nat) (f : Filter) (b : NodeInfo) (notAnd : f.op ≠ .and)
    (notOr : f.op ≠ .or) : matchFilter c (fuel + 1) (some f) b = some (matchKeyValue c f b) := by
  rw [matchFilter]
  split
  · contradiction
  · contradiction
  · rfl

theorem holds_leaf (env : String → Option Bool) (b : NodeInfo) (f : Filter) (notAnd : f.op ≠ .and)
    (notOr : f.op ≠ .or) : f.holds env b = leafHolds f b := by
  obtain ⟨name, key, op, val, subs⟩ := f
  cases op <;> first | rfl | contradiction

theorem checked_leaf {scope : String → Option Filter} {cache : String → Option Nat} {f : Filter}
    (notAnd : f.op ≠ .and) (notOr : f.op ≠ .or) (checked : f.Checked scope cache) :
    IsNumeric f.op → ∃ k, cache f.val = some k := by
  obtain ⟨name, key, op, val, subs⟩ := f
  cases op <;> first | contradiction | exact checked

section Evaluation

set_option linter.unusedSectionVars false

variable (c : Context) (b : NodeInfo) (env : String → Option Bool) (scope : String → Option Filter)
  (sound : CacheSound c)
  (resolves : ∀ n, scope n ≠ none →
    ∃ F, ∀ fuel ≥ F, matchFilter c fuel (c.processedFilters n) b = some ((env n).getD false))
include sound resolves

mutual
theorem match_filter_holds : ∀ t : Filter, t.Checked scope c.numCache →
    ∃ F, ∀ fuel ≥ F, matchFilter c fuel (some t) b = some (t.holds env b)
  | ⟨name, key, op, val, subs⟩, checked => by
      by_cases isAnd : op = .and
      · subst isAnd
        obtain ⟨F, each⟩ := sub_filters_holds subs checked
        refine ⟨F + 1, fun fuel enough => ?_⟩
        obtain ⟨k, rfl⟩ : ∃ k, fuel = k + 1 := ⟨fuel - 1, by omega⟩
        rw [matchFilter, match_sub_filters_and c _ (Filter.refHolds env b) subs (each k (by omega)),
          Filter.holds, holds_all_eq]
      · by_cases isOr : op = .or
        · subst isOr
          obtain ⟨F, each⟩ := sub_filters_holds subs checked
          refine ⟨F + 1, fun fuel enough => ?_⟩
          obtain ⟨k, rfl⟩ : ∃ k, fuel = k + 1 := ⟨fuel - 1, by omega⟩
          rw [matchFilter, match_sub_filters_or c _ (Filter.refHolds env b) subs (each k (by omega)),
            Filter.holds, holds_any_eq]
        · refine ⟨1, fun fuel enough => ?_⟩
          obtain ⟨k, rfl⟩ : ∃ k, fuel = k + 1 := ⟨fuel - 1, by omega⟩
          rw [match_filter_leaf c k _ b isAnd isOr, holds_leaf env b _ isAnd isOr,
            match_key_value_eq c _ b sound (checked_leaf isAnd isOr checked)]
theorem sub_filters_holds : ∀ subs : List Filter, Filter.SubsChecked scope c.numCache subs →
    ∃ F, ∀ fuel ≥ F, ∀ sub ∈ subs, matchFilter c fuel (subFilterRef c sub) b = some (sub.refHolds env b)
  | [], _ => ⟨0, fun _ _ _ mem => absurd mem List.not_mem_nil⟩
  | sub :: rest, ⟨here, later⟩ => by
      have first : ∃ F, ∀ fuel ≥ F, matchFilter c fuel (subFilterRef c sub) b = some (sub.refHolds env b) := by
        by_cases named : sub.name ≠ ""
        · rw [if_pos named] at here
          obtain ⟨F, resolved⟩ := resolves sub.name here
          refine ⟨F, fun fuel enough => ?_⟩
          rw [subFilterRef, if_pos named, Filter.refHolds, if_pos named]
          exact resolved fuel enough
        · rw [if_neg named] at here
          obtain ⟨F, evaluated⟩ := match_filter_holds sub here
          refine ⟨F, fun fuel enough => ?_⟩
          rw [subFilterRef, if_neg named, Filter.refHolds, if_neg named]
          exact evaluated fuel enough
      obtain ⟨F₁, head⟩ := first
      obtain ⟨F₂, others⟩ := sub_filters_holds rest later
      refine ⟨max F₁ F₂, fun fuel enough s mem => ?_⟩
      rcases List.mem_cons.mp mem with rfl | deeper
      · exact head fuel (le_of_max_le_left enough)
      · exact others fuel (le_of_max_le_right enough) s deeper
end

end Evaluation

def CacheExtends (c c' : Context) : Prop := ∀ v k, c.numCache v = some k → c'.numCache v = some k

theorem CacheExtends.trans {c₁ c₂ c₃ : Context} (first : CacheExtends c₁ c₂) (second : CacheExtends c₂ c₃) :
    CacheExtends c₁ c₃ := fun v k found => second v k (first v k found)

theorem cache_update_sound {c : Context} (sound : CacheSound c) {val : String} {n : Nat}
    (parsed : Go.parseUint val 64 = some n) :
    CacheSound { c with numCache := Function.update c.numCache val (some n) } ∧
      CacheExtends c { c with numCache := Function.update c.numCache val (some n) } := by
  constructor
  · intro v k found
    dsimp only at found
    by_cases same : v = val
    · subst same
      simp only [Function.update_self, Option.some.injEq] at found
      rw [← found, parsed]
    · rw [Function.update_of_ne same] at found
      exact sound v k found
  · intro v k found
    dsimp only
    by_cases same : v = val
    · subst same
      have : some k = some n := (sound v k found).symm.trans parsed
      simp only [Function.update_self]
      exact this.symm ▸ rfl
    · exact (Function.update_of_ne same _ _).trans found

mutual
theorem Filter.Checked.mono {scope : String → Option Filter} {cache cache' : String → Option Nat}
    (grows : ∀ v k, cache v = some k → cache' v = some k) :
    ∀ f : Filter, f.Checked scope cache → f.Checked scope cache'
  | ⟨name, key, op, val, subs⟩, checked => by
      cases op
      case and => exact Filter.SubsChecked.mono grows subs checked
      case or => exact Filter.SubsChecked.mono grows subs checked
      all_goals exact fun numeric => (checked numeric).imp fun k found => grows val k found
theorem Filter.SubsChecked.mono {scope : String → Option Filter} {cache cache' : String → Option Nat}
    (grows : ∀ v k, cache v = some k → cache' v = some k) :
    ∀ subs : List Filter, Filter.SubsChecked scope cache subs → Filter.SubsChecked scope cache' subs
  | [], _ => trivial
  | sub :: rest, ⟨here, later⟩ => by
      refine ⟨?_, Filter.SubsChecked.mono grows rest later⟩
      by_cases named : sub.name ≠ ""
      · rw [if_pos named] at here ⊢
        exact here
      · rw [if_neg named] at here ⊢
        exact Filter.Checked.mono grows sub here
end

def Processed (c c₁ : Context) (f : Filter) (top : Bool) : Prop :=
  CacheSound c₁ ∧ CacheExtends c c₁ ∧ c₁.processedFilters = c.processedFilters ∧
    (top = true ∨ f.name = "" → f.Checked c.processedFilters c₁.numCache)

theorem processed_same {c : Context} {f : Filter} {top : Bool} (sound : CacheSound c)
    (checked : top = true ∨ f.name = "" → f.Checked c.processedFilters c.numCache) : Processed c c f top :=
  ⟨sound, fun _ _ found => found, rfl, checked⟩

mutual
theorem process_filter_spec : ∀ (c : Context) (f : Filter) (top : Bool) (c' : Context), CacheSound c →
    processFilter c f top = .ok c' →
      CacheSound c' ∧ CacheExtends c c' ∧
        c'.processedFilters = (if top then Function.update c.processedFilters f.name (some f) else c.processedFilters) ∧
        (top = false → f.name ≠ "" → c.processedFilters f.name ≠ none) ∧
        (top = true ∨ f.name = "" → f.Checked c.processedFilters c'.numCache)
  | c, ⟨fName, key, op, val, inner⟩, top, c', sound, run => by
      unfold processFilter at run
      by_cases reserved : fName = mainFilterName
      · rw [if_pos reserved] at run
        cases run
      rw [if_neg reserved] at run
      by_cases unnamedTop : top = true ∧ fName = ""
      · rw [if_pos unnamedTop] at run
        cases run
      rw [if_neg unnamedTop] at run
      by_cases missing : (!top) = true ∧ fName ≠ "" ∧ c.processedFilters fName = none
      · rw [if_pos missing] at run
        cases run
      rw [if_neg missing] at run
      have defined : top = false → fName ≠ "" → c.processedFilters fName ≠ none := fun inner named none =>
        missing ⟨by simp [inner], named, none⟩
      dsimp only at run
      obtain ⟨c₁, processedOk, registered⟩ := Lib.Except.bind_ok run
      -- the sub-filters, or the leaf, before the filter is registered
      have processed : Processed c c₁ ⟨fName, key, op, val, inner⟩ top := by
        cases op
        case and =>
          obtain ⟨sound₁, grows, same, checked⟩ := process_inner_filters_spec c 0 inner c₁ sound processedOk
          exact ⟨sound₁, grows, same, fun _ => checked⟩
        case or =>
          obtain ⟨sound₁, grows, same, checked⟩ := process_inner_filters_spec c 0 inner c₁ sound processedOk
          exact ⟨sound₁, grows, same, fun _ => checked⟩
        all_goals
          dsimp only at processedOk
          by_cases nonEmpty : inner ≠ []
          · rw [if_pos nonEmpty] at processedOk
            cases processedOk
          rw [if_neg nonEmpty] at processedOk
          by_cases named : (!top) = true ∧ fName ≠ ""
          · -- a named reference is only checked to exist
            rw [if_pos named] at processedOk
            cases processedOk
            refine processed_same sound fun unnamed => absurd unnamed ?_
            simp_all
          rw [if_neg named] at processedOk
          first
            | (cases processedOk; exact processed_same sound fun _ numeric => by simp [IsNumeric] at numeric)
            | cases processedOk
            | (cases parsed : Go.parseUint val 64 with
                | none => rw [parsed] at processedOk; cases processedOk
                | some n =>
                    rw [parsed] at processedOk
                    cases processedOk
                    obtain ⟨sound₁, grows⟩ := cache_update_sound sound parsed
                    exact ⟨sound₁, grows, rfl, fun _ _ => ⟨n, Function.update_self ..⟩⟩)
      obtain ⟨sound₁, grows, same, checked⟩ := processed
      cases top
      · cases registered
        exact ⟨sound₁, grows, same, defined, checked⟩
      · cases registered
        exact ⟨sound₁, grows, by rw [if_pos rfl, ← same], (fun nope => nomatch nope), checked⟩
theorem process_inner_filters_spec : ∀ (c : Context) (index : Nat) (subs : List Filter) (c' : Context),
    CacheSound c → processInnerFilters c index subs = .ok c' →
      CacheSound c' ∧ CacheExtends c c' ∧ c'.processedFilters = c.processedFilters ∧
        Filter.SubsChecked c.processedFilters c'.numCache subs
  | c, _, [], c', sound, run => by
      cases run
      exact ⟨sound, fun _ _ found => found, rfl, trivial⟩
  | c, index, sub :: rest, c', sound, run => by
      unfold processInnerFilters at run
      cases first : processFilter c sub false with
      | error cause => rw [first] at run; cases run
      | ok c₁ =>
          rw [first] at run
          obtain ⟨sound₁, grows₁, same₁, defined, checked⟩ := process_filter_spec c sub false c₁ sound first
          obtain ⟨sound', grows', same', later⟩ := process_inner_filters_spec c₁ (index + 1) rest c' sound₁ run
          rw [if_neg (by simp)] at same₁
          refine ⟨sound', grows₁.trans grows', same'.trans same₁, ?_, same₁ ▸ later⟩
          by_cases named : sub.name ≠ ""
          · rw [if_pos named]
            exact defined rfl named
          · rw [if_neg named]
            exact Filter.Checked.mono grows' sub (checked (.inr (by simpa using named)))
end

def registered (scope : String → Option Filter) (filters : List Filter) : String → Option Filter :=
  filters.foldl (fun s f => Function.update s f.name (some f)) scope

theorem foldl_update_of_not_mem {α β : Type} (key : α → String) (value : (String → Option β) → α → β) :
    ∀ (xs : List α) (s : String → Option β) (n : String), n ∉ xs.map key →
      xs.foldl (fun s x => Function.update s (key x) (some (value s x))) s n = s n
  | [], _, _, _ => rfl
  | x :: rest, s, n, absent => by
      simp only [List.map_cons, List.mem_cons, not_or] at absent
      rw [List.foldl_cons, foldl_update_of_not_mem key value rest _ n absent.2, Function.update_of_ne absent.1]

theorem registered_append_singleton (scope : String → Option Filter) (pre : List Filter) (f : Filter) :
    registered scope (pre ++ [f]) = Function.update (registered scope pre) f.name (some f) := by
  rw [registered, List.foldl_append]
  rfl

theorem policy_env_append_singleton (b : NodeInfo) (pre : List Filter) (f : Filter) :
    policyEnv b (pre ++ [f]) = Function.update (policyEnv b pre) f.name (some (f.holds (policyEnv b pre) b)) := by
  rw [policyEnv, List.foldl_append]
  rfl

theorem registered_of_not_mem (scope : String → Option Filter) (pre post : List Filter) {n : String}
    (absent : n ∉ post.map (·.name)) : registered scope (pre ++ post) n = registered scope pre n := by
  rw [registered, List.foldl_append]
  exact foldl_update_of_not_mem (·.name) (fun _ f => f) post _ n absent

theorem policy_env_of_not_mem (b : NodeInfo) (pre post : List Filter) {n : String}
    (absent : n ∉ post.map (·.name)) : policyEnv b (pre ++ post) n = policyEnv b pre n := by
  rw [policyEnv, List.foldl_append]
  exact foldl_update_of_not_mem (·.name) (fun env f => f.holds env b) post _ n absent

theorem registered_ne_none {pre : List Filter} {n : String} (found : registered (fun _ => none) pre n ≠ none) :
    n ∈ pre.map (·.name) := by
  by_contra absent
  have unchanged := registered_of_not_mem (fun _ => none) [] pre absent
  rw [List.nil_append] at unchanged
  exact found unchanged

theorem process_filters_from_spec : ∀ (c : Context) (index : Nat) (fs : List Filter) (c' : Context), CacheSound c →
    processFiltersFrom c index fs = .ok c' →
      CacheSound c' ∧ CacheExtends c c' ∧ c'.processedFilters = registered c.processedFilters fs ∧
        ∀ pre f post, fs = pre ++ f :: post → f.Checked (registered c.processedFilters pre) c'.numCache
  | c, _, [], c', sound, run => by
      cases run
      refine ⟨sound, fun _ _ found => found, rfl, fun pre f post split => ?_⟩
      cases pre <;> cases split
  | c, index, f :: rest, c', sound, run => by
      unfold processFiltersFrom at run
      cases first : processFilter c f true with
      | error cause => rw [first] at run; cases run
      | ok c₁ =>
          rw [first] at run
          obtain ⟨sound₁, grows₁, same₁, -, checked₁⟩ := process_filter_spec c f true c₁ sound first
          obtain ⟨sound', grows', same', later⟩ := process_filters_from_spec c₁ (index + 1) rest c' sound₁ run
          rw [if_pos rfl] at same₁
          refine ⟨sound', grows₁.trans grows', by rw [same', same₁]; rfl, fun pre g post split => ?_⟩
          cases pre with
          | nil =>
              obtain ⟨rfl, -⟩ := List.cons.inj split
              exact Filter.Checked.mono grows' f (checked₁ (.inl rfl))
          | cons h pre =>
              obtain ⟨rfl, tail⟩ := List.cons.inj split
              have checked := later pre g post tail
              rwa [same₁] at checked

section Policy

set_option linter.unusedSectionVars false

variable (c : Context) (fs : List Filter) (b : NodeInfo) (distinct : (fs.map (·.name)).Nodup)
  (sound : CacheSound c) (scopeEq : c.processedFilters = registered (fun _ => none) fs)
  (checked : ∀ pre f post, fs = pre ++ f :: post → f.Checked (registered (fun _ => none) pre) c.numCache)
include distinct sound scopeEq checked

theorem prefix_evaluated : ∀ k ≤ fs.length, ∀ n, registered (fun _ => none) (fs.take k) n ≠ none →
    ∃ F, ∀ fuel ≥ F, matchFilter c fuel (c.processedFilters n) b = some ((policyEnv b (fs.take k) n).getD false)
  | 0, _ => fun n found => absurd rfl found
  | k + 1, within => by
      have below := prefix_evaluated k (by omega)
      obtain ⟨f, grown, split⟩ : ∃ f, fs.take (k + 1) = fs.take k ++ [f] ∧ fs = fs.take k ++ f :: fs.drop (k + 1) :=
        ⟨fs[k], by simp, by simp⟩
      -- the names after the k-th filter differ from every name up to it
      have later : f.name ∉ (fs.drop (k + 1)).map (·.name) := by
        have nodup := distinct
        rw [split, List.map_append, List.map_cons, List.nodup_append, List.nodup_cons] at nodup
        exact nodup.2.1.1
      obtain ⟨F, evaluated⟩ := match_filter_holds c b (policyEnv b (fs.take k)) (registered (fun _ => none) (fs.take k))
        sound below f (checked _ _ _ split)
      intro n found
      rw [grown, registered_append_singleton] at found
      rw [grown, policy_env_append_singleton]
      by_cases same : n = f.name
      · subst same
        have stored : c.processedFilters f.name = some f := by
          rw [scopeEq, split, ← List.singleton_append, ← List.append_assoc,
            registered_of_not_mem _ _ _ later, registered_append_singleton, Function.update_self]
        refine ⟨F, fun fuel enough => ?_⟩
        rw [stored, Function.update_self, Option.getD_some]
        exact evaluated fuel enough
      · rw [Function.update_of_ne same] at found ⊢
        exact below n found

theorem filter_evaluated {f : Filter} (mem : f ∈ fs) :
    c.processedFilters f.name = some f ∧ policyEnv b fs f.name = some (f.holds (policyEnv b fs) b) ∧
      ∃ F, ∀ fuel ≥ F, matchFilter c fuel (some f) b = some (f.holds (policyEnv b fs) b) := by
  obtain ⟨pre, post, split⟩ := List.append_of_mem mem
  have nodup := distinct
  rw [split, List.map_append, List.map_cons, List.nodup_append, List.nodup_cons] at nodup
  have later : f.name ∉ post.map (·.name) := nodup.2.1.1
  have whole : fs = (pre ++ [f]) ++ post := by simp [split]
  have prefixEq : fs.take pre.length = pre := by simp [split]
  have below := prefix_evaluated c fs b distinct sound scopeEq checked pre.length (by simp [split])
  rw [prefixEq] at below
  -- the whole environment agrees with the one of the filters before f on their names
  have agree : ∀ n, registered (fun _ => none) pre n ≠ none → policyEnv b fs n = policyEnv b pre n := by
    intro n found
    have before := registered_ne_none found
    have absent : n ∉ (f :: post).map (·.name) := fun after =>
      List.disjoint_of_nodup_append (by rw [← List.map_append, ← split]; exact distinct) before after
    rw [split, policy_env_of_not_mem b _ _ absent]
  obtain ⟨F₁, own⟩ := match_filter_holds c b (policyEnv b pre) _ sound below f (checked _ _ _ split)
  obtain ⟨F₂, whole'⟩ := match_filter_holds c b (policyEnv b fs) (registered (fun _ => none) pre) sound
    (fun n found => by rw [agree n found]; exact below n found) f (checked _ _ _ split)
  -- both environments give f the value match computes
  have sameValue : f.holds (policyEnv b pre) b = f.holds (policyEnv b fs) b := by
    have := (own (max F₁ F₂) (le_max_left _ _)).symm.trans (whole' (max F₁ F₂) (le_max_right _ _))
    simpa using this
  refine ⟨?_, ?_, F₂, whole'⟩
  · rw [scopeEq, whole, registered_of_not_mem _ _ _ later, registered_append_singleton, Function.update_self]
  · rw [whole, policy_env_of_not_mem b _ _ later, policy_env_append_singleton, Function.update_self, sameValue,
      ← whole]

end Policy

theorem match_agrees_with_formula (c₀ : Context) (p : PlacementPolicy) (c : Context)
    (fresh : ∀ n, c₀.processedFilters n = none) (sound₀ : CacheSound c₀)
    (distinct : (p.filters.map (·.name)).Nodup) (processed : processFilters c₀ p = .ok c) (b : NodeInfo) :
    ∀ f ∈ p.filters, c.processedFilters f.name = some f ∧
      policyEnv b p.filters f.name = some (f.holds (policyEnv b p.filters) b) ∧
      ∃ F, ∀ fuel ≥ F, matchFilter c fuel (some f) b = some (f.holds (policyEnv b p.filters) b) := by
  obtain ⟨sound, -, scopeEq, checked⟩ := process_filters_from_spec c₀ 0 p.filters c sound₀ processed
  have empty : c₀.processedFilters = fun _ => none := funext fresh
  rw [empty] at scopeEq checked
  intro f mem
  exact filter_evaluated c p.filters b distinct sound scopeEq checked mem

-- A filter of nodes cheaper than 10, and one of those of them in DE that refers to it.
def cheapInGermany : PlacementPolicy :=
  ⟨0, [⟨"Cheap", "Price", .lt, "10", []⟩,
    ⟨"Main", "", .and, "", [⟨"Cheap", "", .unspecified, "", []⟩, ⟨"", "Country", .eq, "DE", []⟩]⟩],
    [], [⟨1, ""⟩], [], none⟩

example :
    (∀ n, (newContext ⟨[]⟩).processedFilters n = none) ∧ CacheSound (newContext ⟨[]⟩) ∧
      (cheapInGermany.filters.map (·.name)).Nodup ∧
      ∃ c, processFilters (newContext ⟨[]⟩) cheapInGermany = .ok c ∧
        ∀ f ∈ cheapInGermany.filters, c.processedFilters f.name = some f ∧
          policyEnv ⟨[1], [("Price", "5"), ("Country", "DE")]⟩ cheapInGermany.filters f.name =
            some (f.holds (policyEnv ⟨[1], [("Price", "5"), ("Country", "DE")]⟩ cheapInGermany.filters)
              ⟨[1], [("Price", "5"), ("Country", "DE")]⟩) ∧
          ∃ F, ∀ fuel ≥ F, matchFilter c fuel (some f) ⟨[1], [("Price", "5"), ("Country", "DE")]⟩ =
            some (f.holds (policyEnv ⟨[1], [("Price", "5"), ("Country", "DE")]⟩ cheapInGermany.filters)
              ⟨[1], [("Price", "5"), ("Country", "DE")]⟩) :=
  ⟨fun _ => rfl, (fun _ _ found => by cases found), by decide, _, rfl,
    match_agrees_with_formula _ cheapInGermany _ (fun _ => rfl) (fun _ _ found => by cases found) (by decide) rfl _⟩

theorem match_filter_of_cycle (c : Context) (b : NodeInfo) (S : Filter → Prop)
    (closed : ∀ f, S f → (f.op = .and ∨ f.op = .or) ∧
      ∃ sub rest g, f.subs = sub :: rest ∧ subFilterRef c sub = some g ∧ S g) :
    ∀ fuel f, S f → matchFilter c fuel (some f) b = none
  | 0, _, _ => rfl
  | fuel + 1, ⟨name, key, op, val, subs⟩, member => by
      obtain ⟨andOr, sub, rest, g, first, resolved, next⟩ := closed _ member
      have loops := match_filter_of_cycle c b S closed fuel g next
      dsimp only at andOr first
      subst first
      rcases andOr with rfl | rfl <;> simp [matchFilter, matchSubFilters, resolved, loops]

-- A filter A, a filter B that refers to A, and a second filter A that refers to B.
def shadowedA : Filter := ⟨"A", "", .and, "", [⟨"B", "", .unspecified, "", []⟩, ⟨"", "k", .eq, "v", []⟩]⟩
def referringB : Filter := ⟨"B", "", .and, "", [⟨"A", "", .unspecified, "", []⟩, ⟨"", "k", .eq, "v", []⟩]⟩

def shadowingPolicy : PlacementPolicy :=
  ⟨0, [⟨"A", "k", .eq, "v", []⟩, referringB, shadowedA], [], [⟨1, ""⟩], [], none⟩

def shadowingContext (m : NetMap) : Context :=
  { newContext m with
    processedFilters := Function.update (Function.update (Function.update (fun _ => none) "A"
      (some ⟨"A", "k", .eq, "v", []⟩)) "B" (some referringB)) "A" (some shadowedA) }

theorem match_never_returns_on_shadowed_name (m : NetMap) (b : NodeInfo) :
    Query.decodeString ⟨0, [], [], [], [], none⟩
        "REP 1\nFILTER k EQ v AS A\nFILTER @A AND k EQ v AS B\nFILTER @B AND k EQ v AS A" = .ok shadowingPolicy ∧
      shadowingPolicy.verify = .ok () ∧ processFilters (newContext m) shadowingPolicy = .ok (shadowingContext m) ∧
      ∀ fuel, matchFilter (shadowingContext m) fuel ((shadowingContext m).processedFilters "A") b = none := by
  refine ⟨by decide +kernel, by decide, rfl, fun fuel => ?_⟩
  have stored : (shadowingContext m).processedFilters "A" = some shadowedA := by simp [shadowingContext]
  have storedB : (shadowingContext m).processedFilters "B" = some referringB := by
    simp [shadowingContext]
  rw [stored]
  refine match_filter_of_cycle _ b (fun f => f = shadowedA ∨ f = referringB) ?_ fuel shadowedA (.inl rfl)
  rintro f (rfl | rfl)
  · exact ⟨.inl rfl, _, _, referringB, rfl, by simpa [subFilterRef] using storedB, .inr rfl⟩
  · exact ⟨.inl rfl, _, _, shadowedA, rfl, by simpa [subFilterRef] using stored, .inl rfl⟩

-- A second filter A that refers to the first one by name, and so, once it replaces it, to itself.
def selfReferringA : Filter := ⟨"A", "", .and, "", [⟨"A", "", .unspecified, "", []⟩, ⟨"", "k", .eq, "v", []⟩]⟩

def selfReferringPolicy : PlacementPolicy :=
  ⟨0, [⟨"A", "k", .eq, "v", []⟩, selfReferringA], [], [⟨1, ""⟩], [], none⟩

def selfReferringContext (m : NetMap) : Context :=
  { newContext m with
    processedFilters := Function.update (Function.update (fun _ => none) "A" (some ⟨"A", "k", .eq, "v", []⟩)) "A"
      (some selfReferringA) }

theorem match_loops_on_self_reference :
    processFilters (newContext ⟨[]⟩) selfReferringPolicy = .ok (selfReferringContext ⟨[]⟩) ∧
      ∀ fuel, matchFilter (selfReferringContext ⟨[]⟩) fuel ((selfReferringContext ⟨[]⟩).processedFilters "A")
        ⟨[], [("k", "v")]⟩ = none := by
  refine ⟨rfl, fun fuel => ?_⟩
  have stored : (selfReferringContext ⟨[]⟩).processedFilters "A" = some selfReferringA := by
    simp [selfReferringContext]
  rw [stored]
  refine match_filter_of_cycle _ _ (· = selfReferringA) ?_ fuel selfReferringA rfl
  rintro f rfl
  exact ⟨.inl rfl, _, _, selfReferringA, rfl, by simpa [subFilterRef] using stored, rfl⟩

end NeoFS.Netmap
