import Mathlib

set_option autoImplicit false

/- The weighted sampler of pool/sampler.go (Vose's alias method) and adjustWeights of
   pool/pool.go, with float64 read as exact arithmetic in an ordered field. newSampler scales the
   probabilities by n, pairs each index below 1 (small) with one at or above 1 (large), which
   gives up the missing mass, and sets every leftover to 1. The work lists are stacks: the slice's
   last element is the list's head. -/
namespace NeoFS.Pool

variable {α : Type} [Field α] [LinearOrder α]

def adjustWeights (weights : List α) : List α :=
  if weights.sum > 0 then weights.map (· / weights.sum) else List.replicate weights.length 0

-- `aliasIndex` is the sampler's alias table (alias is a Lean keyword).
structure Sampler (α : Type) where
  probabilities : ℕ → α
  aliasIndex : ℕ → ℕ
  n : ℕ

structure AliasState (α : Type) where
  p : ℕ → α
  probabilities : ℕ → α
  aliasIndex : ℕ → ℕ
  small : List ℕ
  large : List ℕ

def classify (p : ℕ → α) (indices : List ℕ) : List ℕ × List ℕ :=
  indices.foldl (fun lists i => if p i < 1 then (i :: lists.1, lists.2) else (lists.1, i :: lists.2)) ([], [])

-- One pairing of the main loop: the small index l takes its own mass and the large index g as
-- alias, and g keeps the rest of its mass and goes back to the list that mass belongs to.
def pairStep (s : AliasState α) (l g : ℕ) (small large : List ℕ) : AliasState α :=
  let pg := s.p g + s.p l - 1
  { p := Function.update s.p g pg
    probabilities := Function.update s.probabilities l (s.p l)
    aliasIndex := Function.update s.aliasIndex l g
    small := if pg < 1 then g :: small else small
    large := if pg < 1 then large else g :: large }

theorem length_pair_step (s : AliasState α) (l g : ℕ) (small large : List ℕ) :
    (pairStep s l g small large).small.length + (pairStep s l g small large).large.length =
      small.length + large.length + 1 := by
  simp only [pairStep]
  split_ifs <;> simp only [List.length_cons] <;> omega

set_option linter.unusedVariables false in
def aliasLoop (s : AliasState α) : AliasState α :=
  match hs : s.small, hl : s.large with
  | l :: small, g :: large => aliasLoop (pairStep s l g small large)
  | _, _ => s
termination_by s.small.length + s.large.length
decreasing_by
  rw [length_pair_step, hs, hl, List.length_cons, List.length_cons]
  omega

-- The two loops that set every index left in a work list to probability 1.
def finishLoop (probabilities : ℕ → α) : List ℕ → ℕ → α
  | [] => probabilities
  | i :: rest => finishLoop (Function.update probabilities i 1) rest

-- The first two loops of newSampler: scale by n and sort the indices into the work lists.
def scaledState (probabilities : List α) : AliasState α :=
  let n := probabilities.length
  let p : ℕ → α := fun i => probabilities.getD i 0 * n
  let lists := classify p (List.range n)
  ⟨p, fun _ => 0, fun _ => 0, lists.1, lists.2⟩

def newSampler (probabilities : List α) : Sampler α :=
  let s := aliasLoop (scaledState probabilities)
  ⟨finishLoop (finishLoop s.probabilities s.large) s.small, s.aliasIndex, probabilities.length⟩

def Sampler.nextProbability (s : Sampler α) (j : ℕ) : α :=
  ((List.range s.n).map fun i =>
    (if i = j then s.probabilities i else 0) + (if s.aliasIndex i = j then 1 - s.probabilities i else 0)).sum / s.n

section Lists

theorem classify_eq (p : ℕ → α) (indices : List ℕ) :
    classify p indices = ((indices.filter (p · < 1)).reverse, (indices.filter fun i => ¬ p i < 1).reverse) := by
  -- the fold prepends each index to its list
  have general : ∀ (lists : List ℕ × List ℕ), indices.foldl
      (fun lists i => if p i < 1 then (i :: lists.1, lists.2) else (lists.1, i :: lists.2)) lists =
        ((indices.filter (p · < 1)).reverse ++ lists.1, (indices.filter fun i => ¬ p i < 1).reverse ++ lists.2) := by
    induction indices with
    | nil => intro lists; rfl
    | cons i indices ih =>
        intro lists
        rw [List.foldl_cons, ih]
        by_cases below : p i < 1
        · simp [below]
        · simp [below, le_of_not_gt below]
  rw [classify, general]
  simp

omit [LinearOrder α] in
theorem finish_loop_apply (probabilities : ℕ → α) (indices : List ℕ) (i : ℕ) :
    finishLoop probabilities indices i = if i ∈ indices then 1 else probabilities i := by
  induction indices generalizing probabilities with
  | nil => simp [finishLoop]
  | cons head indices ih =>
      rw [finishLoop, ih]
      by_cases same : i = head <;> simp [same, Function.update]

omit [LinearOrder α] in
theorem sum_ite_eq_of_mem {f : ℕ → α} {j : ℕ} :
    ∀ {indices : List ℕ}, indices.Nodup → j ∈ indices → (indices.map fun i => if i = j then f i else 0).sum = f j
  | [], _, mem => absurd mem List.not_mem_nil
  | i :: indices, nodup, mem => by
      obtain ⟨fresh, nodup⟩ := List.nodup_cons.mp nodup
      rw [List.map_cons, List.sum_cons]
      by_cases same : i = j
      · subst same
        have rest : (indices.map fun k => if k = i then f k else 0).sum = 0 :=
          List.sum_eq_zero fun x mem => by
            obtain ⟨k, kMem, rfl⟩ := List.mem_map.mp mem
            rw [if_neg (fun (eq : k = i) => fresh (eq ▸ kMem))]
        rw [if_pos rfl, rest, add_zero]
      · rw [if_neg same, zero_add]
        exact sum_ite_eq_of_mem nodup ((List.mem_cons.mp mem).resolve_left (Ne.symm same))

variable [IsStrictOrderedRing α]

theorem eq_one_of_sum_eq_length {f : ℕ → α} :
    ∀ {indices : List ℕ}, (∀ i ∈ indices, 1 ≤ f i) → (indices.map f).sum = indices.length → ∀ i ∈ indices, f i = 1
  | [], _, _ => fun _ mem => absurd mem List.not_mem_nil
  | i :: rest, atLeast, total => by
      have restAtLeast : ∀ k ∈ rest, 1 ≤ f k := fun k mem => atLeast k (List.mem_cons_of_mem _ mem)
      have lower : (rest.length : α) ≤ (rest.map f).sum := by
        simpa using List.sum_le_sum (f := fun _ => (1 : α)) (g := f) restAtLeast
      rw [List.map_cons, List.sum_cons, List.length_cons, Nat.cast_succ] at total
      have head := atLeast i List.mem_cons_self
      have headEq : f i = 1 := by linarith
      have restEq : (rest.map f).sum = rest.length := by linarith
      intro k mem
      rcases List.mem_cons.mp mem with rfl | mem
      · exact headEq
      · exact eq_one_of_sum_eq_length restAtLeast restEq k mem

theorem sum_lt_length {f : ℕ → α} {indices : List ℕ} (below : ∀ i ∈ indices, f i < 1) (nonempty : indices ≠ []) :
    (indices.map f).sum < indices.length := by
  obtain ⟨i, mem⟩ := List.exists_mem_of_ne_nil indices nonempty
  simpa using List.sum_lt_sum f (fun _ => (1 : α)) (fun k kMem => (below k kMem).le) ⟨i, mem, below i mem⟩

end Lists

section Invariant

/- The invariant of the pairing loop. finished holds the indices already paired, in the order the
   loop took them from small; every index below n is in exactly one of finished, small and
   large. The scaled mass left on the work lists is their length, and the mass target j is split
   between j itself and the indices that name j as alias. -/
structure AliasInv (n : ℕ) (target : ℕ → α) (finished : List ℕ) (s : AliasState α) : Prop where
  perm : (finished ++ (s.small ++ s.large)).Perm (List.range n)
  small_mass : ∀ i ∈ s.small, 0 ≤ s.p i ∧ s.p i < 1
  large_mass : ∀ i ∈ s.large, 1 ≤ s.p i
  mass : ((s.small ++ s.large).map s.p).sum = (s.small ++ s.large).length
  finished_prob : ∀ i ∈ finished, 0 ≤ s.probabilities i ∧ s.probabilities i < 1
  alias_lt : ∀ i, s.aliasIndex i < n
  conserved : ∀ j, target j = (if j ∈ finished then s.probabilities j else s.p j) +
    (finished.map fun i => if s.aliasIndex i = j then 1 - s.probabilities i else 0).sum

theorem worklists_pair_step (s : AliasState α) (l g : ℕ) (small large : List ℕ) :
    ((pairStep s l g small large).small ++ (pairStep s l g small large).large).Perm (g :: (small ++ large)) := by
  simp only [pairStep]
  split_ifs
  · exact List.Perm.refl _
  · exact List.perm_middle

theorem AliasInv.nodup {n : ℕ} {target : ℕ → α} {finished : List ℕ} {s : AliasState α}
    (inv : AliasInv n target finished s) : (finished ++ (s.small ++ s.large)).Nodup :=
  inv.perm.nodup_iff.mpr List.nodup_range

theorem AliasInv.lt {n : ℕ} {target : ℕ → α} {finished : List ℕ} {s : AliasState α}
    (inv : AliasInv n target finished s) {i : ℕ} (mem : i ∈ finished ++ (s.small ++ s.large)) : i < n :=
  List.mem_range.mp (inv.perm.subset mem)

@[simp] theorem pairStep_p (s : AliasState α) (l g : ℕ) (small large : List ℕ) :
    (pairStep s l g small large).p = Function.update s.p g (s.p g + s.p l - 1) := rfl

@[simp] theorem pairStep_probabilities (s : AliasState α) (l g : ℕ) (small large : List ℕ) :
    (pairStep s l g small large).probabilities = Function.update s.probabilities l (s.p l) := rfl

@[simp] theorem pairStep_aliasIndex (s : AliasState α) (l g : ℕ) (small large : List ℕ) :
    (pairStep s l g small large).aliasIndex = Function.update s.aliasIndex l g := rfl

@[simp] theorem mem_pairStep_small (s : AliasState α) (l g : ℕ) (small large : List ℕ) (i : ℕ) :
    i ∈ (pairStep s l g small large).small ↔ i = g ∧ s.p g + s.p l - 1 < 1 ∨ i ∈ small := by
  simp only [pairStep]
  split_ifs with below <;> simp [below]

@[simp] theorem mem_pairStep_large (s : AliasState α) (l g : ℕ) (small large : List ℕ) (i : ℕ) :
    i ∈ (pairStep s l g small large).large ↔ i = g ∧ ¬ s.p g + s.p l - 1 < 1 ∨ i ∈ large := by
  simp only [pairStep]
  split_ifs with below <;> simp [below]

section Step

variable {n : ℕ} {target : ℕ → α} {finished : List ℕ} {s : AliasState α} {l g : ℕ} {small large : List ℕ}

theorem AliasInv.pair_fresh (inv : AliasInv n target finished s) (hs : s.small = l :: small)
    (hl : s.large = g :: large) : l ≠ g ∧ l ∉ finished ∧ g ∉ finished ∧ g ∉ small ++ large := by
  have nodup := inv.nodup
  rw [hs, hl] at nodup
  simp only [List.nodup_append, List.nodup_cons, List.mem_append, List.mem_cons] at nodup
  obtain ⟨-, ⟨-, ⟨gLarge, -⟩, across⟩, apart⟩ := nodup
  refine ⟨across l (.inl rfl) g (.inl rfl), fun mem => apart l mem l (.inl (.inl rfl)) rfl,
    fun mem => apart g mem g (.inr (.inl rfl)) rfl, ?_⟩
  rw [List.mem_append]
  rintro (mem | mem)
  · exact across g (.inr mem) g (.inl rfl) rfl
  · exact gLarge mem

variable [IsStrictOrderedRing α]

theorem AliasInv.pairStep (inv : AliasInv n target finished s) (hs : s.small = l :: small)
    (hl : s.large = g :: large) : AliasInv n target (l :: finished) (pairStep s l g small large) := by
  obtain ⟨lg, lDone, gDone, gRest⟩ := inv.pair_fresh hs hl
  have lMass := inv.small_mass l (by simp [hs])
  have gMass := inv.large_mass g (by simp [hl])
  refine ⟨?perm, ?small_mass, ?large_mass, ?mass, ?finished_prob, ?alias_lt, ?conserved⟩
  case perm =>
    have before := inv.perm
    rw [hs, hl] at before
    have middle : (finished ++ (l :: small ++ g :: large)).Perm (l :: (finished ++ g :: (small ++ large))) :=
      List.perm_middle.trans (List.Perm.cons l (List.Perm.append_left finished List.perm_middle))
    exact (((worklists_pair_step s l g small large).append_left finished).cons l).trans (middle.symm.trans before)
  case small_mass =>
    intro i mem
    rcases (mem_pairStep_small s l g small large i).mp mem with ⟨rfl, below⟩ | mem
    · rw [pairStep_p, Function.update_self]
      exact ⟨by linarith [lMass.1], below⟩
    · rw [pairStep_p, Function.update_of_ne (ne_of_mem_of_not_mem (List.mem_append_left large mem) gRest)]
      exact inv.small_mass i (by simp [hs, mem])
  case large_mass =>
    intro i mem
    rcases (mem_pairStep_large s l g small large i).mp mem with ⟨rfl, atLeast⟩ | mem
    · rw [pairStep_p, Function.update_self]
      exact le_of_not_gt atLeast
    · rw [pairStep_p, Function.update_of_ne (ne_of_mem_of_not_mem (List.mem_append_right small mem) gRest)]
      exact inv.large_mass i (by simp [hl, mem])
  case mass =>
    -- the pair held |small| + |large| + 2 and g keeps all of it but one
    have before := inv.mass
    rw [hs, hl] at before
    simp only [List.map_cons, List.map_append, List.sum_cons, List.sum_append, List.length_cons,
      List.length_append, Nat.cast_add, Nat.cast_succ] at before
    have rest : ((small ++ large).map (Function.update s.p g (s.p g + s.p l - 1))).sum =
        ((small ++ large).map s.p).sum :=
      congrArg List.sum (List.map_congr_left fun i mem =>
        Function.update_of_ne (ne_of_mem_of_not_mem mem gRest) _ _)
    rw [((worklists_pair_step s l g small large).map _).sum_eq, List.length_append, length_pair_step,
      pairStep_p, List.map_cons, List.sum_cons, Function.update_self, rest, List.map_append, List.sum_append]
    push_cast
    linarith
  case finished_prob =>
    intro i mem
    rcases List.mem_cons.mp mem with rfl | mem
    · rw [pairStep_probabilities, Function.update_self]
      exact lMass
    · rw [pairStep_probabilities, Function.update_of_ne (ne_of_mem_of_not_mem mem lDone)]
      exact inv.finished_prob i mem
  case alias_lt =>
    intro i
    by_cases same : i = l
    · rw [pairStep_aliasIndex, same, Function.update_self]
      exact inv.lt (by simp [hl])
    · rw [pairStep_aliasIndex, Function.update_of_ne same]
      exact inv.alias_lt i
  case conserved =>
    intro j
    -- only the new term for l changes the alias sum; the pair's own masses move between l and g
    have rest : (finished.map fun i => if Function.update s.aliasIndex l g i = j then
          1 - Function.update s.probabilities l (s.p l) i else 0).sum =
        (finished.map fun i => if s.aliasIndex i = j then 1 - s.probabilities i else 0).sum :=
      congrArg List.sum (List.map_congr_left fun i mem => by
        rw [Function.update_of_ne (ne_of_mem_of_not_mem mem lDone),
          Function.update_of_ne (ne_of_mem_of_not_mem mem lDone)])
    rw [pairStep_aliasIndex, pairStep_probabilities, pairStep_p, List.map_cons, List.sum_cons, rest,
      inv.conserved j, Function.update_self, Function.update_self]
    by_cases jl : j = l
    · subst jl
      simp [lDone, Ne.symm lg]
    · by_cases done : j ∈ finished
      · have jg : j ≠ g := ne_of_mem_of_not_mem done gDone
        simp [done, jl, Ne.symm jg]
      · by_cases jg : j = g
        · subst jg
          simp [done, jl]
          ring
        · simp [done, jl, jg, Ne.symm jg]

-- The run lemma: the loop keeps the invariant until one work list is empty.
theorem AliasInv.run (inv : AliasInv n target finished s) :
    ∃ done, AliasInv n target done (aliasLoop s) ∧ ((aliasLoop s).small = [] ∨ (aliasLoop s).large = []) := by
  fun_induction aliasLoop s generalizing finished with
  | case1 s l small g large hs hl ih => exact ih (inv.pairStep hs hl)
  | case2 s stopped =>
      refine ⟨finished, inv, ?_⟩
      cases hs : s.small with
      | nil => exact .inl rfl
      | cons l small =>
          cases hl : s.large with
          | nil => exact .inr rfl
          | cons g large => exact (stopped l small g large hs hl).elim

theorem AliasInv.leftover_exact (inv : AliasInv n target finished s) (stopped : s.small = [] ∨ s.large = []) :
    s.small = [] ∧ ∀ i ∈ s.large, s.p i = 1 := by
  have small_nil : s.small = [] := by
    rcases stopped with stopped | stopped
    · exact stopped
    · by_contra nonempty
      have mass := inv.mass
      rw [stopped, List.append_nil] at mass
      exact absurd mass (ne_of_lt (sum_lt_length (fun i mem => (inv.small_mass i mem).2) nonempty))
  refine ⟨small_nil, ?_⟩
  have mass := inv.mass
  rw [small_nil, List.nil_append] at mass
  exact eq_one_of_sum_eq_length inv.large_mass mass

end Step

end Invariant

section Tables

/- What the tables of a sampler over n indices must satisfy for next to return j with probability
   mass j: probabilities in [0, 1], aliases among the indices, and the mass of j made of its own
   probability and the remainders of the indices that name it as alias. -/
structure AliasTable (s : Sampler α) (mass : ℕ → α) : Prop where
  probabilities_mem : ∀ i < s.n, 0 ≤ s.probabilities i ∧ s.probabilities i ≤ 1
  alias_lt : ∀ i < s.n, s.aliasIndex i < s.n
  split : ∀ j < s.n, (s.probabilities j + ((List.range s.n).map fun i =>
    if s.probabilities i < 1 ∧ s.aliasIndex i = j then 1 - s.probabilities i else 0).sum) / s.n = mass j

theorem AliasTable.next_probability_eq {s : Sampler α} {mass : ℕ → α} (table : AliasTable s mass) {j : ℕ}
    (lt : j < s.n) : s.nextProbability j = mass j := by
  have remainders : ((List.range s.n).map fun i => if s.aliasIndex i = j then 1 - s.probabilities i else 0) =
      (List.range s.n).map fun i =>
        if s.probabilities i < 1 ∧ s.aliasIndex i = j then 1 - s.probabilities i else 0 := by
    refine List.map_congr_left fun i mem => ?_
    by_cases below : s.probabilities i < 1
    · simp [below]
    · have one : s.probabilities i = 1 :=
        le_antisymm (table.probabilities_mem i (List.mem_range.mp mem)).2 (le_of_not_gt below)
      simp [one]
  rw [← table.split j lt, Sampler.nextProbability, List.sum_map_add,
    sum_ite_eq_of_mem List.nodup_range (List.mem_range.mpr lt), remainders]

variable [IsStrictOrderedRing α]

-- Once the loop has stopped, the two finishing loops turn the invariant into the tables.
theorem AliasInv.table {n : ℕ} {target : ℕ → α} {finished : List ℕ} {s : AliasState α}
    (inv : AliasInv n target finished s) (small_nil : s.small = []) (exact : ∀ i ∈ s.large, s.p i = 1) :
    AliasTable ⟨finishLoop (finishLoop s.probabilities s.large) s.small, s.aliasIndex, n⟩ (fun j => target j / n) := by
  have final : ∀ i, finishLoop (finishLoop s.probabilities s.large) s.small i =
      if i ∈ s.large then 1 else s.probabilities i := by
    intro i
    simp [finish_loop_apply, small_nil]
  have perm : (finished ++ s.large).Perm (List.range n) := by
    simpa [small_nil] using inv.perm
  have apart : ∀ i ∈ finished, i ∉ s.large := by
    have nodup := inv.nodup
    rw [small_nil, List.nil_append, List.nodup_append] at nodup
    exact fun i mem large => nodup.2.2 i mem i large rfl
  -- every index is finished or left on large
  have cover : ∀ i < n, i ∈ finished ∨ i ∈ s.large := fun i lt =>
    List.mem_append.mp (perm.symm.subset (List.mem_range.mpr lt))
  refine ⟨?probabilities_mem, fun i _ => inv.alias_lt i, ?split⟩
  case probabilities_mem =>
    intro i lt
    dsimp only at lt ⊢
    rw [final]
    rcases cover i lt with done | large
    · rw [if_neg (apart i done)]
      exact ⟨(inv.finished_prob i done).1, (inv.finished_prob i done).2.le⟩
    · rw [if_pos large]
      exact ⟨zero_le_one, le_rfl⟩
  case split =>
    intro j lt
    dsimp only at lt ⊢
    have own : (if j ∈ finished then s.probabilities j else s.p j) =
        finishLoop (finishLoop s.probabilities s.large) s.small j := by
      rw [final]
      rcases cover j lt with done | large
      · rw [if_pos done, if_neg (apart j done)]
      · rw [if_neg (fun done => apart j done large), if_pos large, exact j large]
    -- the indices left on large hold probability 1 and add nothing
    have remainders : ((List.range n).map fun i =>
          if finishLoop (finishLoop s.probabilities s.large) s.small i < 1 ∧ s.aliasIndex i = j then
            1 - finishLoop (finishLoop s.probabilities s.large) s.small i else 0).sum =
        (finished.map fun i => if s.aliasIndex i = j then 1 - s.probabilities i else 0).sum := by
      rw [← (perm.map _).sum_eq, List.map_append, List.sum_append]
      have onLarge : (s.large.map fun i =>
            if finishLoop (finishLoop s.probabilities s.large) s.small i < 1 ∧ s.aliasIndex i = j then
              1 - finishLoop (finishLoop s.probabilities s.large) s.small i else 0).sum = 0 :=
        List.sum_eq_zero fun x mem => by
          obtain ⟨i, large, rfl⟩ := List.mem_map.mp mem
          simp [final, large]
      have onFinished : (finished.map fun i =>
            if finishLoop (finishLoop s.probabilities s.large) s.small i < 1 ∧ s.aliasIndex i = j then
              1 - finishLoop (finishLoop s.probabilities s.large) s.small i else 0) =
          finished.map fun i => if s.aliasIndex i = j then 1 - s.probabilities i else 0 :=
        List.map_congr_left fun i done => by
          simp [final, apart i done, (inv.finished_prob i done).2]
      rw [onLarge, onFinished, add_zero]
    rw [remainders, ← own, ← inv.conserved j]

end Tables

section Scaled

omit [LinearOrder α] in
theorem get_d_nonneg [LinearOrder α] {q : List α} (nonneg : ∀ x ∈ q, 0 ≤ x) (i : ℕ) : 0 ≤ q.getD i 0 := by
  rw [List.getD_eq_getElem?_getD]
  cases h : q[i]? with
  | none => exact le_rfl
  | some x => exact nonneg x (List.mem_of_getElem? h)

omit [LinearOrder α] in
theorem map_get_d_range (q : List α) : (List.range q.length).map (fun i => q.getD i 0) = q :=
  List.ext_getElem (by simp) fun i _ lt => by simp [List.getElem?_eq_getElem lt]

@[simp] theorem scaledState_p (q : List α) : (scaledState q).p = fun i => q.getD i 0 * q.length := rfl

@[simp] theorem scaledState_probabilities (q : List α) : (scaledState q).probabilities = fun _ => 0 := rfl

@[simp] theorem scaledState_aliasIndex (q : List α) : (scaledState q).aliasIndex = fun _ => 0 := rfl

theorem scaled_state_lists (q : List α) :
    (scaledState q).small = ((List.range q.length).filter fun i => q.getD i 0 * q.length < 1).reverse ∧
      (scaledState q).large = ((List.range q.length).filter fun i => ¬ q.getD i 0 * q.length < 1).reverse := by
  simp [scaledState, classify_eq]

theorem alias_loop_of_large_nil {s : AliasState α} (stopped : s.large = []) : aliasLoop s = s := by
  rw [aliasLoop]
  split
  · next hl => exact absurd (hl.symm.trans stopped) (List.cons_ne_nil _ _)
  · rfl

variable [IsStrictOrderedRing α]

-- A probability vector gives a scaled state that holds the invariant, with target n · q.
theorem scaled_state_inv (q : List α) (nonneg : ∀ x ∈ q, 0 ≤ x) (total : q.sum = 1) :
    AliasInv q.length (scaledState q).p [] (scaledState q) := by
  obtain ⟨small, large⟩ := scaled_state_lists q
  have nonempty : q ≠ [] := by
    rintro rfl
    simp at total
  have perm : ((scaledState q).small ++ (scaledState q).large).Perm (List.range q.length) := by
    rw [small, large]
    simpa only [decide_not] using ((List.reverse_perm _).append (List.reverse_perm _)).trans
      (List.filter_append_perm (fun i => decide (q.getD i 0 * q.length < 1)) (List.range q.length))
  refine ⟨perm, ?small_mass, ?large_mass, ?mass, fun _ none => absurd none List.not_mem_nil,
    fun _ => List.length_pos_of_ne_nil nonempty, fun j => by simp⟩
  case small_mass =>
    intro i mem
    rw [small, List.mem_reverse, List.mem_filter, decide_eq_true_iff] at mem
    exact ⟨mul_nonneg (get_d_nonneg nonneg i) (Nat.cast_nonneg _), mem.2⟩
  case large_mass =>
    intro i mem
    rw [large, List.mem_reverse, List.mem_filter, decide_eq_true_iff] at mem
    exact le_of_not_gt mem.2
  case mass =>
    -- the scaled masses add up to n · Σ q = n
    rw [(perm.map _).sum_eq, perm.length_eq, List.length_range, scaledState_p,
      List.sum_map_mul_right, map_get_d_range, total, one_mul]

theorem new_sampler_table (q : List α) (nonneg : ∀ x ∈ q, 0 ≤ x) (total : q.sum = 1) :
    AliasTable (newSampler q) (fun j => q.getD j 0) := by
  obtain ⟨done, inv, stopped⟩ := (scaled_state_inv q nonneg total).run
  obtain ⟨small_nil, exact⟩ := inv.leftover_exact stopped
  have table := inv.table small_nil exact
  have positive : (q.length : α) ≠ 0 := by
    rintro zero
    rw [Nat.cast_eq_zero, List.length_eq_zero_iff] at zero
    simp [zero] at total
  have mass : (fun j => (scaledState q).p j / q.length) = fun j => q.getD j 0 :=
    funext fun j => by rw [scaledState_p, mul_div_cancel_right₀ _ positive]
  rw [mass] at table
  exact table

theorem new_sampler_replicate_zero (n : ℕ) (positive : 0 < n) :
    AliasTable (newSampler (List.replicate n (0 : α))) (fun _ => 1 / n) := by
  obtain ⟨small, large⟩ := scaled_state_lists (List.replicate n (0 : α))
  have large_nil : (scaledState (List.replicate n (0 : α))).large = [] := by
    simp [large]
  have sampler : newSampler (List.replicate n (0 : α)) = ⟨fun i => if i < n then 1 else 0, fun _ => 0, n⟩ := by
    simp only [newSampler, alias_loop_of_large_nil large_nil, small, large_nil, scaledState_probabilities,
      scaledState_aliasIndex, List.length_replicate]
    congr 1
    funext i
    simp [finish_loop_apply]
  rw [sampler]
  refine ⟨fun i lt => ?_, fun _ _ => positive, fun j lt => ?_⟩
  · simp [lt]
  · have zero : ((List.range n).map fun i =>
        if (if i < n then (1 : α) else 0) < 1 ∧ (0 : ℕ) = j then 1 - (if i < n then (1 : α) else 0) else 0).sum = 0 :=
      List.sum_eq_zero fun x mem => by
        obtain ⟨i, range, rfl⟩ := List.mem_map.mp mem
        simp [List.mem_range.mp range]
    dsimp only at lt ⊢
    rw [if_pos lt, zero, add_zero]

end Scaled

section Weights

theorem adjust_weights_of_pos {w : List α} (pos : 0 < w.sum) : adjustWeights w = w.map (· / w.sum) :=
  if_pos pos

theorem length_adjust_weights (w : List α) : (adjustWeights w).length = w.length := by
  rw [adjustWeights]
  split_ifs <;> simp

variable [IsStrictOrderedRing α]

theorem adjust_weights_probability {w : List α} (nonneg : ∀ x ∈ w, 0 ≤ x) (pos : 0 < w.sum) :
    (∀ x ∈ adjustWeights w, 0 ≤ x) ∧ (adjustWeights w).sum = 1 := by
  rw [adjust_weights_of_pos pos]
  refine ⟨?_, ?_⟩
  · intro x mem
    obtain ⟨weight, weightMem, rfl⟩ := List.mem_map.mp mem
    exact div_nonneg (nonneg weight weightMem) pos.le
  · simp only [div_eq_mul_inv, List.sum_map_mul_right, List.map_id']
    exact mul_inv_cancel₀ pos.ne'

theorem newSampler_samples_weights (w : List α) (nonempty : w ≠ []) (nonneg : ∀ x ∈ w, 0 ≤ x) :
    (newSampler (adjustWeights w)).n = w.length ∧
      AliasTable (newSampler (adjustWeights w))
        (fun j => if w.sum = 0 then (1 : α) / w.length else w.getD j 0 / w.sum) ∧
      ∀ j < w.length, (newSampler (adjustWeights w)).nextProbability j =
        if w.sum = 0 then (1 : α) / w.length else w.getD j 0 / w.sum := by
  have length : (newSampler (adjustWeights w)).n = w.length := length_adjust_weights w
  have table : AliasTable (newSampler (adjustWeights w))
      (fun j => if w.sum = 0 then (1 : α) / w.length else w.getD j 0 / w.sum) := by
    by_cases zero : w.sum = 0
    · -- adjustWeights leaves every weight 0
      rw [adjustWeights, if_neg (by rw [zero]; exact lt_irrefl 0)]
      simp only [zero, if_true]
      exact new_sampler_replicate_zero w.length (List.length_pos_of_ne_nil nonempty)
    · have pos : 0 < w.sum := lt_of_le_of_ne (List.sum_nonneg nonneg) (Ne.symm zero)
      obtain ⟨adjustedNonneg, total⟩ := adjust_weights_probability nonneg pos
      have mass : (fun j => (adjustWeights w).getD j 0) = fun j => w.getD j 0 / w.sum := by
        funext j
        rw [adjust_weights_of_pos pos, List.getD_eq_getElem?_getD, List.getD_eq_getElem?_getD, List.getElem?_map]
        cases w[j]? <;> simp
      have table := new_sampler_table (adjustWeights w) adjustedNonneg total
      rw [mass] at table
      simpa only [zero, if_false] using table
  refine ⟨length, table, fun j lt => table.next_probability_eq ?_⟩
  rw [length]
  exact lt

theorem newSampler_weights_one_three :
    ([1, 3] : List ℚ) ≠ [] ∧ (∀ x ∈ ([1, 3] : List ℚ), 0 ≤ x) ∧
      (newSampler (adjustWeights ([1, 3] : List ℚ))).nextProbability 1 = 3 / 4 := by
  have sampled := newSampler_samples_weights ([1, 3] : List ℚ) (by simp) (by norm_num)
  refine ⟨by simp, by norm_num, ?_⟩
  rw [sampled.2.2 1 (by decide)]
  norm_num

end Weights

end NeoFS.Pool
