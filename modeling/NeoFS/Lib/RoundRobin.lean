import Mathlib.Data.List.Perm.Subperm

set_option autoImplicit false

/- Round-robin distribution of extra items over `k` buckets that stops at the first bucket
   found full: the loop `for i := range extra { j := i % k; if full(res[j]) { break };
   res[j] = append(res[j], extra[i]...) }`. A zero `k` with a non-empty `extra` is the integer
   division by zero of the loop, reported as `none`. -/
namespace Lib.RoundRobin

variable {α : Type}

def roundRobin (k : Nat) (full : List α → Bool) : Nat → List (List α) → List (List α) → Option (List (List α))
  | _, buckets, [] => some buckets
  | i, buckets, item :: rest =>
      if k = 0 then none
      else if full (buckets.getD (i % k) []) then some buckets
      else roundRobin k full (i + 1) (buckets.modify (i % k) (· ++ item)) rest

theorem modify_forall (Q : List α → Prop) (buckets : List (List α)) (i : Nat) (f : List α → List α)
    (kept : ∀ b ∈ buckets, Q b) (changed : ∀ h : i < buckets.length, Q (f buckets[i])) :
    ∀ b ∈ buckets.modify i f, Q b := by
  intro b mem
  obtain ⟨j, bound, rfl⟩ := List.mem_iff_getElem.mp mem
  rw [List.getElem_modify]
  split
  · next same =>
      subst same
      exact changed (by simpa using bound)
  · exact kept _ (List.getElem_mem _)

theorem modify_append_flatten (buckets : List (List α)) (i : Nat) (item : List α) (bound : i < buckets.length) :
    (buckets.modify i (· ++ item)).flatten.Perm (buckets.flatten ++ item) := by
  induction buckets generalizing i with
  | nil => simp at bound
  | cons head rest ih =>
      cases i with
      | zero =>
          simp only [List.modify_zero_cons, List.flatten_cons, List.append_assoc]
          exact .append_left head List.perm_append_comm
      | succ i =>
          simp only [List.modify_succ_cons, List.flatten_cons, List.append_assoc]
          exact .append_left head (ih i (by simpa using bound))

theorem round_robin_none_iff (k : Nat) (full : List α → Bool) (i : Nat) (buckets extra : List (List α)) :
    roundRobin k full i buckets extra = none ↔ k = 0 ∧ extra ≠ [] := by
  induction extra generalizing i buckets with
  | nil => simp [roundRobin]
  | cons item rest ih =>
      by_cases zero : k = 0
      · simp [roundRobin, zero]
      · by_cases stop : full (buckets.getD (i % k) []) = true
        · simp only [roundRobin, if_neg zero, if_pos stop]
          simp [zero]
        · simp only [roundRobin, if_neg zero, stop, Bool.false_eq_true, if_false]
          simpa [zero] using ih (i + 1) (buckets.modify (i % k) (· ++ item))

theorem round_robin_length (k : Nat) (full : List α → Bool) (i : Nat) (buckets extra result : List (List α))
    (run : roundRobin k full i buckets extra = some result) : result.length = buckets.length := by
  induction extra generalizing i buckets with
  | nil =>
      simp only [roundRobin, Option.some.injEq] at run
      rw [run]
  | cons item rest ih =>
      simp only [roundRobin] at run
      split at run
      · cases run
      · split at run
        · simp only [Option.some.injEq] at run
          rw [run]
        · rw [ih _ _ run, List.length_modify]

/-- The invariant rule of the loop: a property of every bucket that survives appending an extra
item to a bucket that is not full holds of every bucket at the end. -/
theorem round_robin_forall (Q : List α → Prop) (k : Nat) (full : List α → Bool) (i : Nat)
    (buckets extra result : List (List α)) (run : roundRobin k full i buckets extra = some result)
    (initial : ∀ b ∈ buckets, Q b) (step : ∀ b item, Q b → full b = false → item ∈ extra → Q (b ++ item)) :
    ∀ b ∈ result, Q b := by
  induction extra generalizing i buckets with
  | nil =>
      simp only [roundRobin, Option.some.injEq] at run
      exact run ▸ initial
  | cons item rest ih =>
      simp only [roundRobin] at run
      split at run
      · cases run
      · split at run
        · next =>
            simp only [Option.some.injEq] at run
            exact run ▸ initial
        · next notFull =>
            refine ih _ _ run ?_ (fun b e hb hfull mem => step b e hb hfull (List.mem_cons_of_mem _ mem))
            apply modify_forall Q buckets _ _ initial
            intro bound
            have present := initial _ (List.getElem_mem bound)
            have open_ : full buckets[i % k] = false := by
              simpa [List.getD_eq_getElem?_getD, List.getElem?_eq_getElem bound] using notFull
            exact step _ item present open_ List.mem_cons_self

theorem round_robin_subperm (k : Nat) (full : List α → Bool) (i : Nat) (buckets extra result : List (List α))
    (run : roundRobin k full i buckets extra = some result) (sized : k = buckets.length) :
    result.flatten.Subperm (buckets.flatten ++ extra.flatten) := by
  induction extra generalizing i buckets with
  | nil =>
      simp only [roundRobin, Option.some.injEq] at run
      simpa [run] using List.Subperm.refl _
  | cons item rest ih =>
      simp only [roundRobin] at run
      split at run
      · cases run
      · next nonzero =>
          split at run
          · simp only [Option.some.injEq] at run
            subst run
            exact (List.sublist_append_left _ _).subperm
          · have bound : i % k < buckets.length := sized ▸ Nat.mod_lt i (Nat.pos_of_ne_zero nonzero)
            have sized' : k = (buckets.modify (i % k) (· ++ item)).length := by
              rw [List.length_modify]
              exact sized
            refine (ih _ _ run sized').trans ?_
            have moved := (modify_append_flatten buckets (i % k) item bound).append_right rest.flatten
            rw [List.flatten_cons, ← List.append_assoc]
            exact moved.subperm

end Lib.RoundRobin
