import NeoFS.Lib.Except
import NeoFS.Netmap.Selection
import NeoFS.Netmap.Verify

set_option autoImplicit false

/- The placement of a container (`NetMap.ContainerNodes`, netmap.go): the context it builds
   with the filter pass and the selector pass, what each pass leaves alone, and the selections
   the context keeps by selector name. -/
namespace NeoFS.Netmap

open Lib.Except

-- What the filter pass leaves alone.
structure Context.FilterFrame (c c' : Context) : Prop where
  netMap : c'.netMap = c.netMap
  selections : c'.selections = c.selections
  hrwSeed : c'.hrwSeed = c.hrwSeed
  cbf : c'.cbf = c.cbf

theorem Context.FilterFrame.refl (c : Context) : c.FilterFrame c := ⟨rfl, rfl, rfl, rfl⟩

theorem Context.FilterFrame.trans {c c' c'' : Context} (first : c.FilterFrame c') (second : c'.FilterFrame c'') :
    c.FilterFrame c'' :=
  ⟨second.netMap.trans first.netMap, second.selections.trans first.selections,
    second.hrwSeed.trans first.hrwSeed, second.cbf.trans first.cbf⟩

mutual
theorem process_filter_frame (c : Context) (f : Filter) (top : Bool) (c' : Context)
    (run : processFilter c f top = .ok c') : c.FilterFrame c' := by
  obtain ⟨fName, key, op, val, inner⟩ := f
  unfold processFilter at run
  by_cases reserved : fName = mainFilterName
  · rw [if_pos reserved] at run
    cases run
  by_cases unnamed : top = true ∧ fName = ""
  · rw [if_neg reserved, if_pos unnamed] at run
    cases run
  by_cases missing : (!top) = true ∧ fName ≠ "" ∧ c.processedFilters fName = none
  · rw [if_neg reserved, if_neg unnamed, if_pos missing] at run
    cases run
  rw [if_neg reserved, if_neg unnamed, if_neg missing] at run
  dsimp only at run
  obtain ⟨c1, processed, recorded⟩ := bind_ok run
  have kept : c1.FilterFrame c' := by
    split at recorded <;> cases recorded <;> exact ⟨rfl, rfl, rfl, rfl⟩
  refine Context.FilterFrame.trans ?_ kept
  split at processed
  · exact process_inner_filters_frame c 0 inner c1 processed
  · exact process_inner_filters_frame c 0 inner c1 processed
  · -- a simple filter leaves the context as it is or caches its number
    repeat' split at processed
    all_goals (cases processed <;> exact ⟨rfl, rfl, rfl, rfl⟩)
theorem process_inner_filters_frame (c : Context) (index : Nat) (fs : List Filter) (c' : Context)
    (run : processInnerFilters c index fs = .ok c') : c.FilterFrame c' := by
  cases fs with
  | nil =>
      cases run
      exact .refl c
  | cons f rest =>
      unfold processInnerFilters at run
      split at run
      · cases run
      · next c1 first =>
          exact (process_filter_frame c f false c1 first).trans (process_inner_filters_frame c1 (index + 1) rest c' run)
end

theorem process_filters_from_frame (c : Context) (index : Nat) (fs : List Filter) (c' : Context)
    (run : processFiltersFrom c index fs = .ok c') : c.FilterFrame c' := by
  induction fs generalizing c index with
  | nil =>
      cases run
      exact .refl _
  | cons f rest ih =>
      unfold processFiltersFrom at run
      split at run
      · cases run
      · next c1 first => exact (process_filter_frame c f true c1 first).trans (ih c1 (index + 1) run)

-- What a selection reads.
structure Context.SameInput (c c' : Context) : Prop where
  netMap : c'.netMap = c.netMap
  processedFilters : c'.processedFilters = c.processedFilters
  numCache : c'.numCache = c.numCache
  hrwSeed : c'.hrwSeed = c.hrwSeed
  cbf : c'.cbf = c.cbf

theorem Context.SameInput.refl (c : Context) : c.SameInput c := ⟨rfl, rfl, rfl, rfl, rfl⟩

theorem Context.SameInput.trans {c c' c'' : Context} (first : c.SameInput c') (second : c'.SameInput c'') :
    c.SameInput c'' :=
  ⟨second.netMap.trans first.netMap, second.processedFilters.trans first.processedFilters,
    second.numCache.trans first.numCache, second.hrwSeed.trans first.hrwSeed, second.cbf.trans first.cbf⟩

theorem Context.SameInput.of_selectors (c : Context) (processed : String → Option Selector)
    (selections : String → Option (List (List NodeInfo))) :
    c.SameInput { c with processedSelectors := processed, selections := selections } :=
  ⟨rfl, rfl, rfl, rfl, rfl⟩

theorem match_sub_filters_congr (c c' : Context) (filters : c'.processedFilters = c.processedFilters)
    (op : FilterOp) (recurse recurse' : Option Filter → Option Bool) (same : ∀ f, recurse' f = recurse f)
    (subs : List Filter) : matchSubFilters c' op recurse' subs = matchSubFilters c op recurse subs := by
  induction subs with
  | nil => rfl
  | cons sub rest ih => simp only [matchSubFilters, subFilterRef, filters, same, ih]

theorem match_filter_congr (c c' : Context) (filters : c'.processedFilters = c.processedFilters)
    (cache : c'.numCache = c.numCache) (fuel : Nat) (f : Option Filter) (n : NodeInfo) :
    matchFilter c' fuel f n = matchFilter c fuel f n := by
  induction fuel generalizing f with
  | zero => simp [matchFilter]
  | succ fuel ih =>
      cases f with
      | none => simp [matchFilter]
      | some f =>
          simp only [matchFilter]
          split
          · exact match_sub_filters_congr c c' filters _ _ _ (fun sub => ih sub) f.subs
          · exact match_sub_filters_congr c c' filters _ _ _ (fun sub => ih sub) f.subs
          · simp only [matchKeyValue, cache]

section SameInput

variable {c c' : Context} (same : c.SameInput c')
include same

theorem Context.selects_same_input (fuel : Nat) (s : Selector) : c'.selects fuel s = c.selects fuel s := by
  funext n
  simp only [Context.selects, same.processedFilters, match_filter_congr c c' same.processedFilters same.numCache]

theorem get_selection_base_same_input (arr : Arrangement) (fuel : Nat) (s : Selector) :
    getSelectionBase arr fuel c' s = getSelectionBase arr fuel c s := by
  simp only [getSelectionBase, Context.selects_same_input same, same.netMap, same.hrwSeed]

theorem get_selection_same_input (arr : Arrangement) (fuel : Nat) (s : Selector) :
    getSelection arr fuel c' s = getSelection arr fuel c s := by
  simp only [getSelection, get_selection_base_same_input same, orderBuckets, same.hrwSeed, same.cbf]

theorem candidates_same_input (fuel : Nat) (s : Selector) : candidates fuel c' s = candidates fuel c s := by
  simp only [candidates, Context.selects_same_input same, same.netMap]

theorem SelectionSpec.sameInput {fuel : Nat} {s : Selector} {sel : List (List NodeInfo)}
    (spec : SelectionSpec fuel c s sel) : SelectionSpec fuel c' s sel where
  length := spec.length
  sizes := by
    rw [same.cbf]
    exact spec.sizes
  drawn := by
    rw [candidates_same_input same]
    exact spec.drawn

end SameInput

theorem process_selectors_from_cons_ok (arr : Arrangement) (fuel : Nat) (c : Context) (s : Selector)
    (rest : List Selector) (c' : Context) (run : processSelectorsFrom arr fuel c (s :: rest) = .ok c') :
    ∃ result, getSelection arr fuel c s = .ok result ∧
      processSelectorsFrom arr fuel
        { c with processedSelectors := Function.update c.processedSelectors s.name (some s),
                 selections := Function.update c.selections s.name (some result) } rest = .ok c' := by
  rw [processSelectorsFrom] at run
  split at run
  · cases run
  · obtain ⟨result, found, later⟩ := bind_ok run
    rw [get_selection_same_input (Context.SameInput.of_selectors c _ c.selections)] at found
    exact ⟨result, found, later⟩

theorem process_selectors_from_same_input (arr : Arrangement) (fuel : Nat) (c : Context) (sels : List Selector)
    (c' : Context) (run : processSelectorsFrom arr fuel c sels = .ok c') : c.SameInput c' := by
  induction sels generalizing c with
  | nil =>
      cases run
      exact .refl _
  | cons s rest ih =>
      obtain ⟨result, -, later⟩ := process_selectors_from_cons_ok arr fuel c s rest c' run
      exact (Context.SameInput.of_selectors c _ _).trans (ih _ later)

theorem process_selectors_from_untouched (arr : Arrangement) (fuel : Nat) (c : Context) (sels : List Selector)
    (c' : Context) (run : processSelectorsFrom arr fuel c sels = .ok c') (name : String)
    (absent : ∀ s ∈ sels, s.name ≠ name) : c'.selections name = c.selections name := by
  induction sels generalizing c with
  | nil => cases run; rfl
  | cons s rest ih =>
      obtain ⟨result, -, later⟩ := process_selectors_from_cons_ok arr fuel c s rest c' run
      rw [ih _ later fun s' mem => absent s' (List.mem_cons_of_mem s mem)]
      exact Function.update_of_ne (absent s List.mem_cons_self).symm _ _

-- `s` is the last selector of its name: `c.selections` is keyed by name, so a later
-- selector of the same name would replace its selection.
def LastOfName (sels : List Selector) (s : Selector) : Prop :=
  ∃ pre post, sels = pre ++ s :: post ∧ ∀ s' ∈ post, s'.name ≠ s.name

theorem process_selectors_from_last (arr : Arrangement) (fuel : Nat) (c : Context) (sels : List Selector)
    (c' : Context) (run : processSelectorsFrom arr fuel c sels = .ok c') (s : Selector)
    (last : LastOfName sels s) :
    ∃ sel, c'.selections s.name = some sel ∧ getSelection arr fuel c s = .ok sel := by
  obtain ⟨pre, post, rfl, later⟩ := last
  -- induction on the selectors before `s`: each only changes what a selection does not read
  induction pre generalizing c with
  | nil =>
      obtain ⟨result, found, rest⟩ := process_selectors_from_cons_ok arr fuel c s post c' run
      refine ⟨result, ?_, found⟩
      rw [process_selectors_from_untouched arr fuel _ post c' rest s.name later]
      exact Function.update_self _ _ _
  | cons p pre ih =>
      obtain ⟨result, -, rest⟩ := process_selectors_from_cons_ok arr fuel c p (pre ++ s :: post) c' run
      obtain ⟨sel, kept, found⟩ := ih _ rest
      rw [get_selection_same_input (Context.SameInput.of_selectors c _ _)] at found
      exact ⟨sel, kept, found⟩

-- The context `ContainerNodes` has built when it reads the rules.
def placementContext (arr : Arrangement) (fuel : Nat) (m : NetMap) (p : PlacementPolicy)
    (containerID : ContainerID) : Selection Context := do
  let c := ((newContext m).setCBF p.backupFactor).setPivot containerID.bytes
  let c ← (processFilters c p).mapError .error
  processSelectors arr fuel c p

theorem container_nodes_ok (arr : Arrangement) (fuel : Nat) (m : NetMap) (p : PlacementPolicy)
    (containerID : ContainerID) (result : List (List NodeInfo))
    (run : containerNodes arr fuel m p containerID = .ok result) :
    ∃ c, placementContext arr fuel m p containerID = .ok c ∧
      (∃ replicas, p.replicas.mapM (fun r => ruleNodes arr fuel c p r.selector r.count .replicaSelectorNotFound) =
        .ok replicas) ∧
      ∃ ecRules, p.ecRules.mapM (fun r => ruleNodes arr fuel c p r.selector (r.dataPartNum + r.parityPartNum)
        .ecSelectorNotFound) = .ok ecRules := by
  obtain ⟨c1, filtered, run⟩ := bind_ok run
  obtain ⟨c, selected, run⟩ := bind_ok run
  obtain ⟨replicas, replicated, run⟩ := bind_ok run
  obtain ⟨ecRules, coded, -⟩ := bind_ok run
  refine ⟨c, ?_, ⟨replicas, replicated⟩, ecRules, coded⟩
  unfold placementContext
  dsimp only
  rw [filtered]
  exact selected

theorem placement_context_ok (arr : Arrangement) (fuel : Nat) (m : NetMap) (p : PlacementPolicy)
    (containerID : ContainerID) (c : Context) (run : placementContext arr fuel m p containerID = .ok c) :
    c.netMap = m ∧ c.cbf = (if p.backupFactor = 0 then defaultContainerBackupFactor else p.backupFactor) ∧
      ∃ c1, processFilters (((newContext m).setCBF p.backupFactor).setPivot containerID.bytes) p = .ok c1 ∧
        processSelectors arr fuel c1 p = .ok c := by
  obtain ⟨c1, filtered, selected⟩ := bind_ok run
  have filters := process_filters_from_frame _ 0 p.filters c1 (map_error_ok filtered)
  have selectors := process_selectors_from_same_input arr fuel c1 p.selectors c selected
  refine ⟨?_, ?_, c1, map_error_ok filtered, selected⟩
  · rw [selectors.netMap, filters.netMap]
    unfold Context.setPivot
    split <;> rfl
  · rw [selectors.cbf, filters.cbf]
    unfold Context.setPivot
    split <;> rfl

theorem placement_context_cbf_ne_zero (arr : Arrangement) (fuel : Nat) (m : NetMap) (p : PlacementPolicy)
    (containerID : ContainerID) (c : Context) (run : placementContext arr fuel m p containerID = .ok c) :
    c.cbf ≠ 0 := by
  rw [(placement_context_ok arr fuel m p containerID c run).2.1]
  split
  · decide
  · assumption

theorem rule_nodes_implicit (arr : Arrangement) (fuel : Nat) (c : Context) (p : PlacementPolicy) (count : UInt32)
    (notFound : String → NetmapError) (nodes : List NodeInfo) (none : p.selectors = [])
    (run : ruleNodes arr fuel c p "" count notFound = .ok nodes) :
    ∃ sel, getSelection arr fuel c (implicitSelector count) = .ok sel := by
  simp only [ruleNodes, if_true, none] at run
  obtain ⟨sel, found, -⟩ := map_ok run
  exact ⟨sel, found⟩

theorem placement_context_selections (arr : Arrangement) (fuel : Nat) (m : NetMap) (p : PlacementPolicy)
    (containerID : ContainerID) (c : Context) (run : placementContext arr fuel m p containerID = .ok c)
    (s : Selector) (last : LastOfName p.selectors s) :
    ∃ sel, c.selections s.name = some sel ∧ SelectionSpec fuel c s sel := by
  obtain ⟨-, -, c1, -, selected⟩ := placement_context_ok arr fuel m p containerID c run
  have same := process_selectors_from_same_input arr fuel c1 p.selectors c selected
  obtain ⟨sel, kept, found⟩ := process_selectors_from_last arr fuel c1 p.selectors c selected s last
  have positive : c1.cbf ≠ 0 := by
    rw [← same.cbf]
    exact placement_context_cbf_ne_zero arr fuel m p containerID c run
  exact ⟨sel, kept, (get_selection_spec arr fuel c1 s sel positive found).sameInput same⟩

theorem placement_context_implicit (arr : Arrangement) (fuel : Nat) (m : NetMap) (p : PlacementPolicy)
    (containerID : ContainerID) (c : Context) (run : placementContext arr fuel m p containerID = .ok c)
    (count : UInt32) (notFound : String → NetmapError) (nodes : List NodeInfo) (none : p.selectors = [])
    (placed : ruleNodes arr fuel c p "" count notFound = .ok nodes) :
    ∃ sel, getSelection arr fuel c (implicitSelector count) = .ok sel ∧
      SelectionSpec fuel c (implicitSelector count) sel := by
  obtain ⟨sel, found⟩ := rule_nodes_implicit arr fuel c p count notFound nodes none placed
  exact ⟨sel, found, get_selection_spec arr fuel c _ sel (placement_context_cbf_ne_zero arr fuel m p containerID c run) found⟩

-- The arrangement that keeps every order: on a netmap of one node it is what the HRW sorts
-- and the map iteration do, there being a single order.
def Arrangement.identity : Arrangement where
  mapOrder := id
  mapOrder_perm _ := .refl _
  sortNodes := id
  sortNodes_perm _ := .refl _
  sortBuckets := id
  sortBuckets_perm _ := .refl _
  sortByHash := id
  sortByHash_perm _ := .refl _

theorem containerNodes_selection_contract :
    (∀ (arr : Arrangement) (fuel : Nat) (m : NetMap) (p : PlacementPolicy) (containerID : ContainerID)
        (result : List (List NodeInfo)), containerNodes arr fuel m p containerID = .ok result →
      ∃ c, placementContext arr fuel m p containerID = .ok c ∧ c.netMap = m ∧
        c.cbf = (if p.backupFactor = 0 then defaultContainerBackupFactor else p.backupFactor) ∧
        (∀ s, LastOfName p.selectors s → ∃ sel, c.selections s.name = some sel ∧ SelectionSpec fuel c s sel) ∧
        (p.selectors = [] →
          (∀ r ∈ p.replicas, r.selector = "" → ∃ sel, getSelection arr fuel c (implicitSelector r.count) = .ok sel ∧
            SelectionSpec fuel c (implicitSelector r.count) sel) ∧
          ∀ r ∈ p.ecRules, r.selector = "" → ∃ sel,
            getSelection arr fuel c (implicitSelector (r.dataPartNum + r.parityPartNum)) = .ok sel ∧
              SelectionSpec fuel c (implicitSelector (r.dataPartNum + r.parityPartNum)) sel)) ∧
    ∀ (arr : Arrangement) (fuel : Nat) (c : Context) (s : Selector) (buckets : List NodeAttrPair),
      c.cbf ≠ 0 → getSelectionBase arr fuel c s = some buckets → (calcNodesCount s).2 * c.cbf.toNat < 2 ^ 63 →
      (getSelection arr fuel c s = .error (.error (.notEnoughNodes s.name)) ↔
        bigGroupCount s.attr (candidates fuel c s) (calcNodesCount s).2 < (calcNodesCount s).1) := by
  refine ⟨?_, fun arr fuel c s buckets positive base small => get_selection_not_enough_iff arr fuel c s buckets positive base small⟩
  intro arr fuel m p containerID result run
  obtain ⟨c, placed, ⟨replicas, replicated⟩, ecRules, coded⟩ := container_nodes_ok arr fuel m p containerID result run
  obtain ⟨netMap, cbf, -⟩ := placement_context_ok arr fuel m p containerID c placed
  refine ⟨c, placed, netMap, cbf, placement_context_selections arr fuel m p containerID c placed, fun none => ⟨?_, ?_⟩⟩
  · intro r mem unnamed
    obtain ⟨nodes, rule⟩ := map_m_ok replicated r mem
    rw [unnamed] at rule
    exact placement_context_implicit arr fuel m p containerID c placed _ _ nodes none rule
  · intro r mem unnamed
    obtain ⟨nodes, rule⟩ := map_m_ok coded r mem
    rw [unnamed] at rule
    exact placement_context_implicit arr fuel m p containerID c placed _ _ nodes none rule

theorem selection_contract_one_node :
    (∃ c, placementContext Arrangement.identity 0 ⟨[⟨[2], []⟩]⟩
        ⟨0, [], [⟨"X", 1, .unspecified, "", mainFilterName⟩], [⟨1, "X"⟩], [], none⟩ ContainerID.zero = .ok c ∧
      ∃ sel, c.selections "X" = some sel ∧ SelectionSpec 0 c ⟨"X", 1, .unspecified, "", mainFilterName⟩ sel) ∧
    (getSelection Arrangement.identity 0 (((newContext ⟨[⟨[2], []⟩]⟩).setCBF 0).setPivot ContainerID.zero.bytes)
        ⟨"X", 2, .unspecified, "", mainFilterName⟩ = .error (.error (.notEnoughNodes "X")) ↔
      bigGroupCount "" (candidates 0 (((newContext ⟨[⟨[2], []⟩]⟩).setCBF 0).setPivot ContainerID.zero.bytes)
        ⟨"X", 2, .unspecified, "", mainFilterName⟩) 1 < 2) := by
  obtain ⟨c, placed, -, -, last, -⟩ := containerNodes_selection_contract.1 Arrangement.identity 0 ⟨[⟨[2], []⟩]⟩
    ⟨0, [], [⟨"X", 1, .unspecified, "", mainFilterName⟩], [⟨1, "X"⟩], [], none⟩ ContainerID.zero
    [[⟨[2], []⟩]] (by decide)
  exact ⟨⟨c, placed, last _ ⟨[], [], rfl, by simp⟩⟩,
    containerNodes_selection_contract.2 Arrangement.identity 0 _ _ [⟨"", [⟨[2], []⟩]⟩] (by decide) (by decide)
      (by decide)⟩

-- Two selectors of one name: the second replaces the selection of the first, which asks for two
-- buckets. The netmap holds one node twice, so every arrangement is the identity on it.
theorem duplicate_selector_name_replaced :
    containerNodes Arrangement.identity 0 ⟨[⟨[2], []⟩, ⟨[2], []⟩]⟩
        ⟨1, [], [⟨"X", 2, .unspecified, "", mainFilterName⟩, ⟨"X", 1, .unspecified, "", mainFilterName⟩],
          [⟨1, "X"⟩], [], none⟩ ContainerID.zero = .ok [[⟨[2], []⟩]] ∧
      (placementContext Arrangement.identity 0 ⟨[⟨[2], []⟩, ⟨[2], []⟩]⟩
        ⟨1, [], [⟨"X", 2, .unspecified, "", mainFilterName⟩, ⟨"X", 1, .unspecified, "", mainFilterName⟩],
          [⟨1, "X"⟩], [], none⟩ ContainerID.zero).map (fun c => (c.selections "X").map List.length) = .ok (some 1) ∧
      (calcNodesCount ⟨"X", 2, .unspecified, "", mainFilterName⟩).1 = 2 := by
  decide

theorem set_pivot_net_map (c : Context) (pivot : List UInt8) : (c.setPivot pivot).netMap = c.netMap := by
  unfold Context.setPivot
  split <;> rfl

theorem set_pivot_cbf (c : Context) (pivot : List UInt8) : (c.setPivot pivot).cbf = c.cbf := by
  unfold Context.setPivot
  split <;> rfl

-- `REP 0 CBF 1`: a rule for no copy of the object, with the smallest backup factor.
def zeroReplicaPolicy : PlacementPolicy := ⟨1, [], [], [⟨0, ""⟩], [], none⟩

-- `REP 1 IN X CBF 4294967295 SELECT 4294967295 IN SAME FROM * AS X`: the bound
-- `nodesInBucket * int(cbf)` is `(2 ^ 32 - 1) ^ 2`, past the largest Go int.
def wrappingPolicy : PlacementPolicy :=
  ⟨4294967295, [], [⟨"X", 4294967295, .same, "", mainFilterName⟩], [⟨1, "X"⟩], [], none⟩

theorem container_nodes_zero_replica (arr : Arrangement) (fuel : Nat) (m : NetMap) (containerID : ContainerID)
    (occupied : m.nodes ≠ []) :
    containerNodes arr fuel m zeroReplicaPolicy containerID = .error (.panic "runtime error: integer divide by zero") := by
  have panics := get_selection_zero_buckets arr fuel (((newContext m).setCBF 1).setPivot containerID.bytes)
    (implicitSelector 0) rfl rfl rfl (by decide) (by rw [set_pivot_cbf]; rfl)
    (by rw [set_pivot_net_map]; exact occupied)
  simp [containerNodes, zeroReplicaPolicy, processFilters, processFiltersFrom, processSelectors,
    processSelectorsFrom, ruleNodes, panics, Except.map, bind, Except.bind, Except.mapError]

theorem process_selectors_from_error (arr : Arrangement) (fuel : Nat) (c : Context) (s : Selector)
    (rest : List Selector) (e : Go.Failure NetmapError) (main : s.filter = mainFilterName)
    (failed : getSelection arr fuel c s = .error e) : processSelectorsFrom arr fuel c (s :: rest) = .error e := by
  rw [processSelectorsFrom, if_neg (by simp [main])]
  dsimp only
  rw [get_selection_same_input (Context.SameInput.of_selectors c _ c.selections) arr fuel s, failed]
  rfl

theorem container_nodes_error (arr : Arrangement) (fuel : Nat) (m : NetMap) (p : PlacementPolicy)
    (containerID : ContainerID) (e : Go.Failure NetmapError)
    (failed : placementContext arr fuel m p containerID = .error e) :
    containerNodes arr fuel m p containerID = .error e := by
  unfold placementContext at failed
  unfold containerNodes
  dsimp only at failed ⊢
  cases filtered : (processFilters (((newContext m).setCBF p.backupFactor).setPivot containerID.bytes) p).mapError
      Go.Failure.error with
  | error e' =>
      rw [filtered] at failed
      cases failed
      rfl
  | ok c =>
      rw [filtered] at failed
      change processSelectors arr fuel c p = .error e at failed
      change (processSelectors arr fuel c p).bind _ = _
      rw [failed]
      rfl

theorem container_nodes_wrapping_bound (arr : Arrangement) (fuel : Nat) (m : NetMap) (containerID : ContainerID)
    (occupied : m.nodes ≠ []) :
    containerNodes arr fuel m wrappingPolicy containerID =
      .error (.panic "runtime error: slice bounds out of range [:-8589934591]") := by
  apply container_nodes_error
  let c := ((newContext m).setCBF 4294967295).setPivot containerID.bytes
  have base := get_selection_base_unnamed_main arr fuel c ⟨"X", 4294967295, .same, "", mainFilterName⟩ rfl rfl
  have nodes : c.netMap.nodes = m.nodes := by
    rw [set_pivot_net_map]
    rfl
  have cbf : c.cbf = 4294967295 := by
    rw [set_pivot_cbf]
    rfl
  have panics := get_selection_negative_bound arr fuel c _ _ base
    (by simpa [calcNodesCount, Selector.isSame, nodes] using
      Nat.one_le_iff_ne_zero.mpr (List.length_pos_of_ne_nil occupied).ne')
    (by simpa [nodes] using occupied) (by rw [cbf]; decide)
  have message : toString (maxNodesInBucket (calcNodesCount ⟨"X", 4294967295, .same, "", mainFilterName⟩).2
      c.cbf).toInt = "-8589934591" := by
    rw [cbf]
    decide
  rw [message] at panics
  exact process_selectors_from_error arr fuel c _ [] _ rfl panics

-- Both policies pass `Verify`, and `ContainerNodes` panics on them over every netmap with a
-- node, for every container and whatever order the HRW sorts and Go maps give.
theorem containerNodes_panics_on_verified_policies (arr : Arrangement) (fuel : Nat) (m : NetMap)
    (containerID : ContainerID) (occupied : m.nodes ≠ []) :
    (zeroReplicaPolicy.verify = .ok () ∧
      containerNodes arr fuel m zeroReplicaPolicy containerID = .error (.panic "runtime error: integer divide by zero")) ∧
    (wrappingPolicy.verify = .ok () ∧
      containerNodes arr fuel m wrappingPolicy containerID =
        .error (.panic "runtime error: slice bounds out of range [:-8589934591]")) :=
  ⟨⟨by decide, container_nodes_zero_replica arr fuel m containerID occupied⟩,
    ⟨by decide, container_nodes_wrapping_bound arr fuel m containerID occupied⟩⟩

theorem panics_on_one_node :
    (⟨[⟨[2], []⟩]⟩ : NetMap).nodes ≠ [] ∧
      containerNodes Arrangement.identity 0 ⟨[⟨[2], []⟩]⟩ zeroReplicaPolicy ContainerID.zero =
        .error (.panic "runtime error: integer divide by zero") :=
  ⟨by simp, (containerNodes_panics_on_verified_policies Arrangement.identity 0 ⟨[⟨[2], []⟩]⟩ ContainerID.zero
    (by simp)).1.2⟩

end NeoFS.Netmap
