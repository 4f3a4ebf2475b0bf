import Mathlib.Data.List.Flatten
import Mathlib.Tactic.Ring
import Mathlib.Tactic.Positivity
import NeoFS.Netmap.SelectionBase

set_option autoImplicit false

/- What `getSelection` returns. The result is drawn from the attribute groups of the nodes
   the selector takes: no node twice, one group per bucket, a different group for every
   bucket. -/
namespace NeoFS.Netmap

open Lib.RoundRobin

structure Drawn (attr : String) (m : List NodeInfo) (sel : List (List NodeInfo)) : Prop where
  subperm : sel.flatten.Subperm m
  same : attr ≠ "" → ∀ b ∈ sel, ∀ n ∈ b, ∀ n' ∈ b, n.attribute attr = n'.attribute attr
  distinct : attr ≠ "" → sel.Pairwise fun b b' => ∀ n ∈ b, ∀ n' ∈ b', n.attribute attr ≠ n'.attribute attr

section Drawn

variable {attr : String} {m : List NodeInfo}

theorem BucketsOf.drawn {buckets : List NodeAttrPair} (base : BucketsOf attr m buckets) :
    Drawn attr m (buckets.map (·.nodes)) := by
  refine ⟨base.flatten.subperm, ?_, ?_⟩
  · intro named b mem n nMem n' nMem'
    obtain ⟨p, pMem, rfl⟩ := List.mem_map.mp mem
    rw [base.attr_eq named p pMem n nMem, base.attr_eq named p pMem n' nMem']
  · intro named
    have attrs := List.pairwise_map.mp (base.attrs_nodup named)
    refine List.pairwise_map.mpr (attrs.imp_of_mem fun pMem qMem different => ?_)
    intro n nMem n' nMem' same
    rw [base.attr_eq named _ pMem n nMem, base.attr_eq named _ qMem n' nMem'] at same
    exact different same

theorem Drawn.perm {sel sel' : List (List NodeInfo)} (drawn : Drawn attr m sel) (reordered : sel'.Perm sel) :
    Drawn attr m sel' where
  subperm := reordered.flatten.subperm.trans drawn.subperm
  same named b mem := drawn.same named b (reordered.subset mem)
  distinct named := (drawn.distinct named).perm reordered.symm
    fun apart n nMem n' nMem' same => apart n' nMem' n nMem same.symm

theorem Drawn.sublist {sel sel' : List (List NodeInfo)} (drawn : Drawn attr m sel) (part : sel'.Sublist sel) :
    Drawn attr m sel' where
  subperm := part.flatten.subperm.trans drawn.subperm
  same named b mem := drawn.same named b (part.subset mem)
  distinct named := (drawn.distinct named).sublist part

theorem flatten_map_sublist (f : List NodeInfo → List NodeInfo) (sel : List (List NodeInfo))
    (shrinks : ∀ b ∈ sel, (f b).Sublist b) : (sel.map f).flatten.Sublist sel.flatten := by
  induction sel with
  | nil => exact .slnil
  | cons b rest ih =>
      simp only [List.map_cons, List.flatten_cons]
      exact (shrinks b List.mem_cons_self).append (ih fun b' mem => shrinks b' (List.mem_cons_of_mem b mem))

theorem Drawn.shrink {sel : List (List NodeInfo)} (drawn : Drawn attr m sel) (f : List NodeInfo → List NodeInfo)
    (shrinks : ∀ b ∈ sel, (f b).Sublist b) : Drawn attr m (sel.map f) := by
  refine ⟨(flatten_map_sublist f sel shrinks).subperm.trans drawn.subperm, ?_, ?_⟩
  · intro named _ mem n nMem n' nMem'
    obtain ⟨b, bMem, rfl⟩ := List.mem_map.mp mem
    exact drawn.same named b bMem n ((shrinks b bMem).subset nMem) n' ((shrinks b bMem).subset nMem')
  · intro named
    refine List.pairwise_map.mpr ((drawn.distinct named).imp_of_mem fun bMem bMem' apart => ?_)
    intro n nMem n' nMem'
    exact apart n ((shrinks _ bMem).subset nMem) n' ((shrinks _ bMem').subset nMem')

end Drawn

theorem bmod_of_lt (x : Nat) (bound : x < 2 ^ 63) : (x : Int).bmod 18446744073709551616 = x := by
  rw [Int.bmod_def, Int.emod_eq_of_lt (by omega) (by omega), if_pos (by omega)]

theorem product_lt (nodesInBucket : Nat) (cbf : UInt32) (bound : nodesInBucket < 2 ^ 32) :
    nodesInBucket * cbf.toNat < 2 ^ 64 :=
  calc nodesInBucket * cbf.toNat < 2 ^ 32 * 2 ^ 32 := Nat.mul_lt_mul'' bound cbf.toNat_lt
    _ = 2 ^ 64 := by norm_num

theorem max_nodes_in_bucket_to_int (nodesInBucket : Nat) (cbf : UInt32) (bound : nodesInBucket < 2 ^ 32) :
    (maxNodesInBucket nodesInBucket cbf).toInt =
      if nodesInBucket * cbf.toNat < 2 ^ 63 then (nodesInBucket * cbf.toNat : Int)
      else nodesInBucket * cbf.toNat - 2 ^ 64 := by
  have product := product_lt nodesInBucket cbf bound
  rw [maxNodesInBucket, Int64.toInt_mul, Int64.toInt_ofNat', Int64.toInt_ofNat', Int64.size,
    bmod_of_lt nodesInBucket (by omega), bmod_of_lt cbf.toNat (by have := cbf.toNat_lt; omega), Int.bmod_def]
  have exact : ((nodesInBucket : Int) * cbf.toNat) % ((2 ^ 64 : Nat) : Int) = nodesInBucket * cbf.toNat := by
    apply Int.emod_eq_of_lt (by positivity)
    exact_mod_cast product
  rw [exact]
  by_cases small : nodesInBucket * cbf.toNat < 2 ^ 63
  · rw [if_pos (by exact_mod_cast (by omega : nodesInBucket * cbf.toNat < (2 ^ 64 + 1) / 2)), if_pos small]
  · rw [if_neg (by push_cast; omega), if_neg small]
    push_cast
    ring

theorem max_nodes_in_bucket_of_nonneg (nodesInBucket : Nat) (cbf : UInt32) (bound : nodesInBucket < 2 ^ 32)
    (nonneg : 0 ≤ (maxNodesInBucket nodesInBucket cbf).toInt) :
    (maxNodesInBucket nodesInBucket cbf).toInt = nodesInBucket * cbf.toNat := by
  rw [max_nodes_in_bucket_to_int _ _ bound] at nonneg ⊢
  by_cases small : nodesInBucket * cbf.toNat < 2 ^ 63
  · rw [if_pos small]
  · rw [if_neg small] at nonneg
    have := product_lt nodesInBucket cbf bound
    omega

theorem calc_nodes_count_snd_lt (s : Selector) : (calcNodesCount s).2 < 2 ^ 32 := by
  unfold calcNodesCount
  split
  · exact s.count.toNat_lt
  · simp

theorem order_buckets_perm (arr : Arrangement) (c : Context) (s : Selector) (buckets : List NodeAttrPair) :
    (orderBuckets arr c s buckets).Perm buckets := by
  unfold orderBuckets
  split
  · split
    · exact arr.sortByHash_perm buckets
    · exact List.mergeSort_perm buckets _
  · exact .refl _

-- The two lists the loop of `getSelection` fills, for a non-negative bound.
def fullBuckets (mx : Int) (L : List (List NodeInfo)) : List (List NodeInfo) :=
  (L.filter fun ns => decide (mx ≤ ns.length)).map (·.take mx.toNat)

def fallbackBuckets (mx : Int) (nodesInBucket : Nat) (L : List (List NodeInfo)) : List (List NodeInfo) :=
  L.filter fun ns => !decide (mx ≤ ns.length) && decide (nodesInBucket ≤ ns.length)

theorem split_buckets_of_nonneg (maxNodes : Int64) (nodesInBucket : Nat) (buckets : List NodeAttrPair)
    (nonneg : 0 ≤ maxNodes.toInt) :
    splitBuckets maxNodes nodesInBucket buckets =
      .ok (fullBuckets maxNodes.toInt (buckets.map (·.nodes)),
        fallbackBuckets maxNodes.toInt nodesInBucket (buckets.map (·.nodes))) := by
  induction buckets with
  | nil => rfl
  | cons b rest ih =>
      simp only [fullBuckets, fallbackBuckets] at ih ⊢
      by_cases full : maxNodes.toInt ≤ b.nodes.length
      · rw [splitBuckets, if_pos full, if_neg (by omega), ih]
        simp [full, Except.map]
      · by_cases enough : nodesInBucket ≤ b.nodes.length
        · rw [splitBuckets, if_neg full, if_pos enough, ih]
          simp [full, enough, Except.map]
        · rw [splitBuckets, if_neg full, if_neg enough, ih]
          simp [full, enough]

theorem split_buckets_of_neg (maxNodes : Int64) (nodesInBucket : Nat) (b : NodeAttrPair) (rest : List NodeAttrPair)
    (negative : maxNodes.toInt < 0) :
    splitBuckets maxNodes nodesInBucket (b :: rest) =
      .error (.panic ("runtime error: slice bounds out of range [:" ++ toString maxNodes.toInt ++ "]")) := by
  rw [splitBuckets, if_pos (by omega), if_pos negative]

theorem split_filters_perm (L : List (List NodeInfo)) (mx : Int) (nodesInBucket : Nat) :
    ((L.filter fun ns => decide (mx ≤ ns.length)) ++
        L.filter fun ns => !decide (mx ≤ ns.length) && decide (nodesInBucket ≤ ns.length)).Perm
      (L.filter fun ns => decide (mx ≤ ns.length) || decide (nodesInBucket ≤ ns.length)) := by
  induction L with
  | nil => exact .refl _
  | cons ns rest ih =>
      by_cases full : mx ≤ ns.length
      · simpa [List.filter_cons, full] using ih
      · by_cases enough : nodesInBucket ≤ ns.length
        · simp only [List.filter_cons, full, enough, decide_true, decide_false, Bool.not_false, Bool.and_true,
            Bool.false_or, if_true, Bool.false_eq_true, if_false]
          exact List.perm_middle.trans (ih.cons ns)
        · simpa [List.filter_cons, full, enough] using ih

theorem split_length (L : List (List NodeInfo)) (mx : Int) (nodesInBucket : Nat) (below : nodesInBucket ≤ mx) :
    (fullBuckets mx L ++ fallbackBuckets mx nodesInBucket L).length = L.countP fun ns => nodesInBucket ≤ ns.length := by
  have together := (split_filters_perm L mx nodesInBucket).length_eq
  simp only [fullBuckets, fallbackBuckets, List.length_append, List.length_map] at together ⊢
  rw [together, List.countP_eq_length_filter]
  congr 1
  apply List.filter_congr
  intro ns _
  by_cases full : mx ≤ ns.length
  · have : nodesInBucket ≤ ns.length := by omega
    simp [full, this]
  · simp [full]

theorem split_drawn {attr : String} {m : List NodeInfo} (L : List (List NodeInfo)) (drawn : Drawn attr m L)
    (mx : Int) (nodesInBucket : Nat) : Drawn attr m (fullBuckets mx L ++ fallbackBuckets mx nodesInBucket L) := by
  -- one shrinking map covers both lists: it cuts the full buckets and keeps the others
  let cut : List NodeInfo → List NodeInfo := fun ns => if mx ≤ ns.length then ns.take mx.toNat else ns
  have rewritten : fullBuckets mx L ++ fallbackBuckets mx nodesInBucket L =
      ((L.filter fun ns => decide (mx ≤ ns.length)) ++
        L.filter fun ns => !decide (mx ≤ ns.length) && decide (nodesInBucket ≤ ns.length)).map cut := by
    rw [List.map_append, fullBuckets, fallbackBuckets]
    congr 1
    · apply List.map_congr_left
      intro ns mem
      simp [cut, of_decide_eq_true (List.mem_filter.mp mem).2]
    · conv => lhs; rw [← List.map_id (List.filter _ L)]
      apply List.map_congr_left
      intro ns mem
      have kept := (List.mem_filter.mp mem).2
      simp only [Bool.and_eq_true, Bool.not_eq_true', decide_eq_false_iff_not] at kept
      simp [cut, kept.1]
  rw [rewritten]
  apply Drawn.shrink ((drawn.sublist List.filter_sublist).perm (split_filters_perm L mx nodesInBucket)) cut
  intro ns _
  by_cases full : mx ≤ ns.length
  · simpa [cut, full] using List.take_sublist mx.toNat ns
  · simp [cut, full]

theorem split_sizes (L : List (List NodeInfo)) (mx : Int) (nodesInBucket : Nat) (below : nodesInBucket ≤ mx) :
    ∀ b ∈ fullBuckets mx L ++ fallbackBuckets mx nodesInBucket L, nodesInBucket ≤ b.length ∧ b.length ≤ mx.toNat := by
  intro b mem
  rcases List.mem_append.mp mem with full | fallback
  · obtain ⟨ns, nsMem, rfl⟩ := List.mem_map.mp full
    have long := of_decide_eq_true (List.mem_filter.mp nsMem).2
    rw [List.length_take]
    omega
  · have kept := (List.mem_filter.mp fallback).2
    simp only [Bool.and_eq_true, Bool.not_eq_true', decide_eq_false_iff_not, decide_eq_true_eq] at kept
    omega

theorem split_short (L : List (List NodeInfo)) (mx : Int) (nodesInBucket : Nat) (short : ∀ b ∈ L, b.length = 1) :
    ∀ b ∈ fullBuckets mx L ++ fallbackBuckets mx nodesInBucket L, b.length ≤ 1 := by
  intro b mem
  rcases List.mem_append.mp mem with full | fallback
  · obtain ⟨ns, nsMem, rfl⟩ := List.mem_map.mp full
    rw [List.length_take, short ns (List.mem_filter.mp nsMem).1]
    omega
  · exact (short b (List.mem_filter.mp fallback).1).le

theorem use_fallback_ok (s : Selector) (bucketCount : Nat) (res fallback chosen : List (List NodeInfo))
    (run : useFallback s bucketCount res fallback = .ok chosen) :
    bucketCount ≤ chosen.length ∧ chosen.Sublist (res ++ fallback) := by
  unfold useFallback at run
  split at run
  · split at run
    · cases run
    · cases run
      exact ⟨by omega, .refl _⟩
  · cases run
    exact ⟨by omega, List.sublist_append_left _ _⟩

theorem use_fallback_not_enough_iff (s : Selector) (bucketCount : Nat) (res fallback : List (List NodeInfo)) :
    useFallback s bucketCount res fallback = .error (.error (.notEnoughNodes s.name)) ↔
      (res ++ fallback).length < bucketCount := by
  unfold useFallback
  by_cases short : res.length < bucketCount
  · simp [short]
  · simp only [short, if_false, List.length_append, reduceCtorEq, false_iff]
    omega

theorem redistribute_unnamed (s : Selector) (bucketCount : Nat) (maxNodes : Int64) (res spread : List (List NodeInfo))
    (unnamed : s.attr = "") (run : redistribute s bucketCount maxNodes res = .ok spread) :
    roundRobin bucketCount (fun b => decide (maxNodes.toInt ≤ b.length)) 0 (res.take bucketCount)
      (res.drop bucketCount) = some spread := by
  rw [redistribute, if_pos unnamed] at run
  split at run
  · cases run
  · next spread' found =>
      cases run
      exact found

theorem redistribute_named (s : Selector) (bucketCount : Nat) (maxNodes : Int64) (res : List (List NodeInfo))
    (named : s.attr ≠ "") : redistribute s bucketCount maxNodes res = .ok res := by
  rw [redistribute, if_neg named]

theorem Drawn.unnamed {m : List NodeInfo} {sel : List (List NodeInfo)} (subperm : sel.flatten.Subperm m) :
    Drawn "" m sel :=
  ⟨subperm, fun named => absurd rfl named, fun named => absurd rfl named⟩

theorem redistribute_spec {m : List NodeInfo} (s : Selector) (bucketCount nodesInBucket : Nat) (maxNodes : Int64)
    (res spread : List (List NodeInfo)) (enough : bucketCount ≤ res.length) (drawn : Drawn s.attr m res)
    (sizes : ∀ b ∈ res, nodesInBucket ≤ b.length ∧ b.length ≤ maxNodes.toInt.toNat)
    (short : s.attr = "" → ∀ b ∈ res, b.length ≤ 1)
    (run : redistribute s bucketCount maxNodes res = .ok spread) :
    bucketCount ≤ spread.length ∧ Drawn s.attr m spread ∧
      ∀ b ∈ spread, nodesInBucket ≤ b.length ∧ b.length ≤ maxNodes.toInt.toNat := by
  by_cases unnamed : s.attr = ""
  · have spreadEq := redistribute_unnamed s bucketCount maxNodes res spread unnamed run
    have kept : (res.take bucketCount).length = bucketCount := by simp [enough]
    refine ⟨by rw [round_robin_length _ _ _ _ _ _ spreadEq, kept], ?_, ?_⟩
    · -- the round robin moves nodes between buckets and loses none of the order
      have moved := round_robin_subperm _ _ _ _ _ _ spreadEq kept.symm
      rw [← List.flatten_append, List.take_append_drop] at moved
      rw [unnamed] at drawn ⊢
      exact Drawn.unnamed (moved.trans drawn.subperm)
    · apply round_robin_forall _ _ _ _ _ _ _ spreadEq (fun b mem => sizes b (List.mem_of_mem_take mem))
      intro b item within notFull mem
      have one := short unnamed item (List.mem_of_mem_drop mem)
      simp only [decide_eq_false_iff_not, not_le] at notFull
      rw [List.length_append]
      omega
  · rw [redistribute_named s bucketCount maxNodes res unnamed] at run
    cases run
    exact ⟨enough, drawn, sizes⟩

theorem get_selection_ok (arr : Arrangement) (fuel : Nat) (c : Context) (s : Selector) (sel : List (List NodeInfo))
    (run : getSelection arr fuel c s = .ok sel) :
    ∃ buckets split chosen spread,
      getSelectionBase arr fuel c s = some buckets ∧ (calcNodesCount s).1 ≤ buckets.length ∧
      splitBuckets (maxNodesInBucket (calcNodesCount s).2 c.cbf) (calcNodesCount s).2
        (orderBuckets arr c s buckets) = .ok split ∧
      useFallback s (calcNodesCount s).1 split.1 split.2 = .ok chosen ∧
      redistribute s (calcNodesCount s).1 (maxNodesInBucket (calcNodesCount s).2 c.cbf)
        (if c.hrwSeed ≠ [] then arr.sortBuckets chosen else chosen) = .ok spread ∧
      sel = spread.take (calcNodesCount s).1 := by
  rcases counts : calcNodesCount s with ⟨k, n⟩
  simp only [getSelection, counts] at run ⊢
  cases base : getSelectionBase arr fuel c s with
  | none => simp [base] at run
  | some buckets =>
      simp only [base] at run
      split at run
      · cases run
      · next enough =>
          cases splitEq : splitBuckets (maxNodesInBucket n c.cbf) n (orderBuckets arr c s buckets) with
          | error e => simp only [splitEq, bind, Except.bind, reduceCtorEq] at run
          | ok split =>
              cases chosenEq : useFallback s k split.1 split.2 with
              | error e => simp only [splitEq, chosenEq, bind, Except.bind, reduceCtorEq] at run
              | ok chosen =>
                  cases spreadEq : redistribute s k (maxNodesInBucket n c.cbf)
                      (if c.hrwSeed ≠ [] then arr.sortBuckets chosen else chosen) with
                  | error e => simp only [splitEq, chosenEq, spreadEq, bind, Except.bind, reduceCtorEq] at run
                  | ok spread =>
                      simp only [splitEq, chosenEq, spreadEq, bind, Except.bind, Except.ok.injEq] at run
                      exact ⟨buckets, split, chosen, spread, rfl, by omega, splitEq, chosenEq, spreadEq, run.symm⟩

theorem Drawn.nil {attr : String} {m : List NodeInfo} : Drawn attr m [] :=
  ⟨List.nil_subperm, by simp, by simp⟩

theorem split_buckets_nonneg (maxNodes : Int64) (nodesInBucket : Nat) (buckets : List NodeAttrPair)
    (split : List (List NodeInfo) × List (List NodeInfo)) (nonempty : buckets ≠ [])
    (run : splitBuckets maxNodes nodesInBucket buckets = .ok split) : 0 ≤ maxNodes.toInt := by
  obtain ⟨b, rest, rfl⟩ := List.exists_cons_of_ne_nil nonempty
  by_contra negative
  rw [split_buckets_of_neg _ _ _ _ (by omega)] at run
  cases run

-- What a successful selection is: `calcNodesCount s` buckets, each with between
-- `nodesInBucket` and `nodesInBucket * cbf` nodes, drawn from the attribute groups of the nodes
-- the selector's filter takes.
structure SelectionSpec (fuel : Nat) (c : Context) (s : Selector) (sel : List (List NodeInfo)) : Prop where
  length : sel.length = (calcNodesCount s).1
  sizes : ∀ b ∈ sel, (calcNodesCount s).2 ≤ b.length ∧ b.length ≤ (calcNodesCount s).2 * c.cbf.toNat
  drawn : Drawn s.attr (candidates fuel c s) sel

theorem get_selection_spec (arr : Arrangement) (fuel : Nat) (c : Context) (s : Selector) (sel : List (List NodeInfo))
    (positive : c.cbf ≠ 0) (run : getSelection arr fuel c s = .ok sel) : SelectionSpec fuel c s sel := by
  obtain ⟨buckets, split, chosen, spread, base, enough, splitEq, chosenEq, spreadEq, rfl⟩ :=
    get_selection_ok arr fuel c s sel run
  rcases counts : calcNodesCount s with ⟨k, n⟩
  have small : n < 2 ^ 32 := by simpa [counts] using calc_nodes_count_snd_lt s
  rw [counts] at enough splitEq chosenEq spreadEq
  simp only at enough splitEq chosenEq spreadEq
  have ordered := (get_selection_base_buckets arr fuel c s buckets base).perm (order_buckets_perm arr c s buckets)
  by_cases empty : buckets = []
  · -- no group at all: the selector asks for no bucket
    subst empty
    have none : k = 0 := by simpa using enough
    subst none
    exact ⟨by simp [counts], by simp, by simpa using Drawn.nil⟩
  -- a negative bound would have panicked on the first bucket, so it is the exact product
  have nonempty : orderBuckets arr c s buckets ≠ [] := fun nil =>
    empty (List.eq_nil_of_length_eq_zero (by rw [← (order_buckets_perm arr c s buckets).length_eq, nil]; rfl))
  have nonneg := split_buckets_nonneg _ _ _ _ nonempty splitEq
  have exact := max_nodes_in_bucket_of_nonneg n c.cbf small nonneg
  have below : (n : Int) ≤ (maxNodesInBucket n c.cbf).toInt := by
    have : c.cbf.toNat ≠ 0 := fun zero => positive (UInt32.toNat_inj.mp (by simpa using zero))
    rw [exact]
    exact_mod_cast Nat.le_mul_of_pos_right n (by omega)
  have bound : (maxNodesInBucket n c.cbf).toInt.toNat = n * c.cbf.toNat := by
    rw [exact]
    rfl
  rw [split_buckets_of_nonneg _ _ _ nonneg] at splitEq
  cases splitEq
  -- the split buckets, then the chosen ones, then their HRW order
  set L := (orderBuckets arr c s buckets).map (·.nodes)
  have splitShort : s.attr = "" → ∀ b ∈ fullBuckets (maxNodesInBucket n c.cbf).toInt L ++
      fallbackBuckets (maxNodesInBucket n c.cbf).toInt n L, b.length ≤ 1 := fun unnamed =>
    split_short L _ n fun b mem => by
      obtain ⟨p, pMem, rfl⟩ := List.mem_map.mp mem
      exact ordered.singleton unnamed p pMem
  obtain ⟨chosenEnough, part⟩ := use_fallback_ok s k _ _ chosen chosenEq
  have sorted : (if c.hrwSeed ≠ [] then arr.sortBuckets chosen else chosen).Perm chosen := by
    split
    · exact arr.sortBuckets_perm chosen
    · exact .refl _
  have within : ∀ b ∈ (if c.hrwSeed ≠ [] then arr.sortBuckets chosen else chosen),
      b ∈ fullBuckets (maxNodesInBucket n c.cbf).toInt L ++ fallbackBuckets (maxNodesInBucket n c.cbf).toInt n L :=
    fun b mem => part.subset (sorted.subset mem)
  obtain ⟨spreadEnough, spreadDrawn, spreadSizes⟩ :=
    redistribute_spec s k n _ _ spread (by rw [sorted.length_eq]; exact chosenEnough)
      (((split_drawn L ordered.drawn _ n).sublist part).perm sorted)
      (fun b mem => split_sizes L _ n below b (within b mem))
      (fun unnamed b mem => splitShort unnamed b (within b mem)) spreadEq
  refine ⟨by simp [counts, spreadEnough], ?_, ?_⟩
  · intro b mem
    rw [counts, ← bound]
    exact spreadSizes b (List.mem_of_mem_take mem)
  · exact spreadDrawn.sublist (List.take_sublist k spread)

theorem redistribute_ne_error (s : Selector) (bucketCount : Nat) (maxNodes : Int64) (res : List (List NodeInfo))
    (e : NetmapError) : redistribute s bucketCount maxNodes res ≠ .error (.error e) := by
  unfold redistribute
  split
  · split <;> simp
  · simp

theorem use_fallback_error (s : Selector) (bucketCount : Nat) (res fallback : List (List NodeInfo))
    (e : Go.Failure NetmapError) (run : useFallback s bucketCount res fallback = .error e) :
    e = .error (.notEnoughNodes s.name) := by
  unfold useFallback at run
  split at run
  · split at run
    · cases run
      rfl
    · cases run
  · cases run

theorem get_selection_not_enough_iff (arr : Arrangement) (fuel : Nat) (c : Context) (s : Selector)
    (buckets : List NodeAttrPair) (positive : c.cbf ≠ 0) (base : getSelectionBase arr fuel c s = some buckets)
    (small : (calcNodesCount s).2 * c.cbf.toNat < 2 ^ 63) :
    getSelection arr fuel c s = .error (.error (.notEnoughNodes s.name)) ↔
      bigGroupCount s.attr (candidates fuel c s) (calcNodesCount s).2 < (calcNodesCount s).1 := by
  have bucketsOf := get_selection_base_buckets arr fuel c s buckets base
  have ordered := bucketsOf.perm (order_buckets_perm arr c s buckets)
  have bound := calc_nodes_count_snd_lt s
  rcases counts : calcNodesCount s with ⟨k, n⟩
  rw [counts] at small bound
  simp only [getSelection, counts, base]
  by_cases few : buckets.length < k
  · -- fewer groups than buckets: every group count is below the number of groups
    have atMost : bigGroupCount s.attr (candidates fuel c s) n ≤ buckets.length := by
      rw [← bucketsOf.count n]
      have atMostLength : (buckets.map (·.nodes)).countP (fun ns => decide (n ≤ ns.length)) ≤
          (buckets.map (·.nodes)).length := List.countP_le_length
      simpa using atMostLength
    simp only [if_pos few, true_iff]
    omega
  · have exact : (maxNodesInBucket n c.cbf).toInt = n * c.cbf.toNat := by
      rw [max_nodes_in_bucket_to_int _ _ bound, if_pos small]
    have nonneg : 0 ≤ (maxNodesInBucket n c.cbf).toInt := by
      rw [exact]
      positivity
    have below : (n : Int) ≤ (maxNodesInBucket n c.cbf).toInt := by
      have : c.cbf.toNat ≠ 0 := fun zero => positive (UInt32.toNat_inj.mp (by simpa using zero))
      rw [exact]
      exact_mod_cast Nat.le_mul_of_pos_right n (by omega)
    have groups := split_length ((orderBuckets arr c s buckets).map (·.nodes)) _ n below
    rw [ordered.count n] at groups
    rw [if_neg few, split_buckets_of_nonneg _ _ _ nonneg]
    simp only [bind, Except.bind]
    cases chosenEq : useFallback s k (fullBuckets (maxNodesInBucket n c.cbf).toInt
        ((orderBuckets arr c s buckets).map (·.nodes)))
        (fallbackBuckets (maxNodesInBucket n c.cbf).toInt n ((orderBuckets arr c s buckets).map (·.nodes))) with
    | error e =>
        have notEnough := use_fallback_error s k _ _ e chosenEq
        subst notEnough
        rw [use_fallback_not_enough_iff, groups] at chosenEq
        simp only [chosenEq]
    | ok chosen =>
        -- a fallback that succeeds has enough buckets, and the spreading never fails with an error
        have enough : ¬ (fullBuckets (maxNodesInBucket n c.cbf).toInt ((orderBuckets arr c s buckets).map (·.nodes)) ++
            fallbackBuckets (maxNodesInBucket n c.cbf).toInt n
              ((orderBuckets arr c s buckets).map (·.nodes))).length < k := by
          rw [← use_fallback_not_enough_iff s, chosenEq]
          simp
        rw [groups] at enough
        simp only [enough, iff_false]
        cases spreadEq : redistribute s k (maxNodesInBucket n c.cbf)
            (if c.hrwSeed ≠ [] then arr.sortBuckets chosen else chosen) with
        | error e =>
            intro failed
            cases failed
            exact redistribute_ne_error s k _ _ _ spreadEq
        | ok spread => simp

theorem get_selection_negative_bound (arr : Arrangement) (fuel : Nat) (c : Context) (s : Selector)
    (buckets : List NodeAttrPair) (base : getSelectionBase arr fuel c s = some buckets)
    (enough : (calcNodesCount s).1 ≤ buckets.length) (nonempty : buckets ≠ [])
    (negative : (maxNodesInBucket (calcNodesCount s).2 c.cbf).toInt < 0) :
    getSelection arr fuel c s = .error (.panic ("runtime error: slice bounds out of range [:" ++
      toString (maxNodesInBucket (calcNodesCount s).2 c.cbf).toInt ++ "]")) := by
  have ordered : orderBuckets arr c s buckets ≠ [] := fun nil => nonempty
    (List.eq_nil_of_length_eq_zero (by rw [← (order_buckets_perm arr c s buckets).length_eq, nil]; rfl))
  obtain ⟨b, rest, reordered⟩ := List.exists_cons_of_ne_nil ordered
  rcases counts : calcNodesCount s with ⟨k, n⟩
  simp only [counts] at enough negative ⊢
  simp only [getSelection, counts, base, if_neg (Nat.not_lt.mpr enough), reordered,
    split_buckets_of_neg _ _ b rest negative]
  rfl

theorem get_selection_zero_buckets (arr : Arrangement) (fuel : Nat) (c : Context) (s : Selector)
    (unnamed : s.attr = "") (main : s.filter = mainFilterName) (none : s.count = 0) (different : s.clause ≠ .same)
    (small : c.cbf.toNat ≤ 1) (occupied : c.netMap.nodes ≠ []) :
    getSelection arr fuel c s = .error (.panic "runtime error: integer divide by zero") := by
  have counts : calcNodesCount s = (0, 1) := by
    simp [calcNodesCount, Selector.isSame, different, none]
  have exact : (maxNodesInBucket 1 c.cbf).toInt = c.cbf.toNat := by
    rw [max_nodes_in_bucket_to_int 1 c.cbf (by norm_num), if_pos (by omega)]
    simp
  have nonneg : 0 ≤ (maxNodesInBucket 1 c.cbf).toInt := by
    rw [exact]
    positivity
  set L := (orderBuckets arr c s (c.netMap.nodes.map fun n => ⟨"", [n]⟩)).map (·.nodes)
  -- every bucket holds one node and is full
  have singletons : ∀ ns ∈ L, ns.length = 1 := by
    intro ns mem
    obtain ⟨p, pMem, rfl⟩ := List.mem_map.mp mem
    obtain ⟨n, -, rfl⟩ := List.mem_map.mp ((order_buckets_perm arr c s _).subset pMem)
    rfl
  have full : fullBuckets (maxNodesInBucket 1 c.cbf).toInt L ≠ [] := by
    have lengths : L.length = c.netMap.nodes.length := by
      simp [L, (order_buckets_perm arr c s _).length_eq]
    have kept : L.filter (fun ns => decide ((maxNodesInBucket 1 c.cbf).toInt ≤ ns.length)) = L :=
      List.filter_eq_self.mpr fun ns mem => by simp [singletons ns mem, exact]; omega
    simp only [fullBuckets, kept, ne_eq, List.map_eq_nil_iff]
    exact fun nil => occupied (List.eq_nil_of_length_eq_zero (by rw [← lengths, nil]; rfl))
  have sortedNonempty : ∀ chosen : List (List NodeInfo), chosen ≠ [] →
      (if c.hrwSeed ≠ [] then arr.sortBuckets chosen else chosen) ≠ [] := by
    intro chosen nonempty
    split
    · exact fun nil => nonempty (List.perm_nil.mp (nil ▸ (arr.sortBuckets_perm chosen).symm))
    · exact nonempty
  simp only [getSelection, counts, get_selection_base_unnamed_main arr fuel c s unnamed main, Nat.not_lt_zero,
    if_false, split_buckets_of_nonneg _ _ _ nonneg, useFallback, bind, Except.bind]
  rw [redistribute, if_pos unnamed, List.take_zero, List.drop_zero,
    (round_robin_none_iff _ _ _ _ _).mpr ⟨rfl, sortedNonempty _ full⟩]

end NeoFS.Netmap
