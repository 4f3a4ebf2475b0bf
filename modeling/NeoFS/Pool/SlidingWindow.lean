import Mathlib.Data.List.Basic
import Mathlib.Logic.Relation
import Mathlib.Tactic.Ring

set_option autoImplicit false

/- The error-rate window of pool/slidingwindow.go under concurrent calls of Allow. Each call
   is a program counter over the atomic operations it performs: the loads, stores and Add on the
   counters and the window start, and Lock and Unlock of the rotation mutex. A run interleaves
   the calls' operations in any order. Go's int64 is Int here: the counters count calls and the
   clock readings only pick branches, so no proof depends on a wrap. -/
namespace NeoFS.Pool

structure SlidingWindow where
  windowSize : Int
  limit : Int
  prevCount : Int
  currCount : Int
  windowStart : Int
  rotationMu : Bool

-- The atomic operation a call of Allow performs next, with what it has loaded for it.
inductive Pc where
  | advanceLoad
  | lock
  | reload
  | loadCurr
  | storePrev (curr : Int)
  | resetPrev
  | resetCurr
  | storeStart
  | unlock
  | add
  | loadCurrent
  | loadPrev (curr : Int)
  | loadStart (curr prev : Int)
  | done (allowed : Bool)
deriving DecidableEq, Repr

-- A call of Allow with its clock reading.
structure Call where
  now : Int
  pc : Pc
deriving DecidableEq, Repr

-- The operations between Lock and the deferred Unlock of advance.
def Pc.critical : Pc → Bool
  | .reload | .loadCurr | .storePrev _ | .resetPrev | .resetCurr | .storeStart | .unlock => true
  | _ => false

def Pc.added : Pc → Bool
  | .loadCurrent | .loadPrev _ | .loadStart _ _ | .done _ => true
  | _ => false

def allowed (sw : SlidingWindow) (now curr prev start : Int) : Bool :=
  let elapsed := now - start
  if elapsed ≥ sw.windowSize then decide (curr < sw.limit)
  else decide (curr + (prev * (sw.windowSize - elapsed)).tdiv sw.windowSize < sw.limit)

def Call.step (sw : SlidingWindow) (c : Call) : Option (SlidingWindow × Pc) :=
  match c.pc with
  | .advanceLoad => some (sw, if c.now - sw.windowStart < sw.windowSize then .add else .lock)
  | .lock => if sw.rotationMu then none else some ({ sw with rotationMu := true }, .reload)
  | .reload =>
      let elapsed := c.now - sw.windowStart
      some (sw, if elapsed < sw.windowSize then .unlock
        else if elapsed < sw.windowSize * 2 then .loadCurr else .resetPrev)
  | .loadCurr => some (sw, .storePrev sw.currCount)
  | .storePrev curr => some ({ sw with prevCount := curr }, .resetCurr)
  | .resetPrev => some ({ sw with prevCount := 0 }, .resetCurr)
  | .resetCurr => some ({ sw with currCount := 0 }, .storeStart)
  | .storeStart => some ({ sw with windowStart := c.now - c.now.tmod sw.windowSize }, .unlock)
  | .unlock => some ({ sw with rotationMu := false }, .add)
  | .add => some ({ sw with currCount := sw.currCount + 1 }, .loadCurrent)
  | .loadCurrent => some (sw, .loadPrev sw.currCount)
  | .loadPrev curr => some (sw, .loadStart curr sw.prevCount)
  | .loadStart curr prev => some (sw, .done (allowed sw c.now curr prev sw.windowStart))
  | .done _ => none

-- The window and the calls under way.
structure Sys where
  sw : SlidingWindow
  calls : List Call

def Sys.stepAt (s : Sys) (i : Nat) : Option Sys :=
  if h : i < s.calls.length then
    (s.calls[i].step s.sw).map fun r => ⟨r.1, s.calls.set i { s.calls[i] with pc := r.2 }⟩
  else none

def Sys.Step (s s' : Sys) : Prop := ∃ i, s.stepAt i = some s'

def Sys.run (s : Sys) : List Nat → Option Sys
  | [] => some s
  | i :: schedule => (s.stepAt i).bind fun s' => s'.run schedule

-- A fresh window at `start` with calls that have not begun.
def Sys.start (windowSize limit start : Int) (clocks : List Int) : Sys :=
  ⟨⟨windowSize, limit, 0, 0, start, false⟩, clocks.map fun now => ⟨now, .advanceLoad⟩⟩

def Sys.finished (s : Sys) : Bool := s.calls.all fun c => c.pc matches .done _

def Sys.added (s : Sys) : Int := s.calls.countP (·.pc.added)

def Sys.rotating (s : Sys) : Nat := s.calls.countP (·.pc.critical)

theorem Sys.run_step {s s' : Sys} {schedule : List Nat} (ran : s.run schedule = some s') :
    Relation.ReflTransGen Sys.Step s s' := by
  induction schedule generalizing s with
  | nil =>
      cases ran
      exact .refl
  | cons i schedule ih =>
      simp only [Sys.run, Option.bind_eq_some_iff] at ran
      obtain ⟨next, stepped, rest⟩ := ran
      exact .head ⟨i, stepped⟩ (ih rest)

section Counting

-- What the counters hold against `added`, by the operation the rotating call performs next.
def Owed (sw : SlidingWindow) (added : Int) : Pc → Prop
  | .storePrev curr => 0 ≤ curr ∧ curr ≤ added ∧ sw.prevCount + sw.currCount ≤ added
  | .resetCurr => sw.prevCount ≤ added
  | _ => sw.prevCount + sw.currCount ≤ added

structure Counted (s : Sys) : Prop where
  prev_nonneg : 0 ≤ s.sw.prevCount
  curr_nonneg : 0 ≤ s.sw.currCount
  exclusive : s.rotating ≤ 1
  locked : s.sw.rotationMu = true ↔ s.rotating = 1
  owed : ∀ c ∈ s.calls, c.pc.critical = true → Owed s.sw s.added c.pc
  free : s.rotating = 0 → s.sw.prevCount + s.sw.currCount ≤ s.added

theorem count_p_le_one_eq {α : Type} {p : α → Bool} {l : List α} (atMostOne : l.countP p ≤ 1) {a b : α}
    (aMem : a ∈ l) (aHolds : p a = true) (bMem : b ∈ l) (bHolds : p b = true) : a = b := by
  induction l with
  | nil => cases aMem
  | cons x rest ih =>
      rw [List.countP_cons] at atMostOne
      rcases List.mem_cons.mp aMem with rfl | aRest <;> rcases List.mem_cons.mp bMem with rfl | bRest
      · rfl
      · have := List.countP_pos_iff.mpr ⟨b, bRest, bHolds⟩
        simp only [aHolds, if_true] at atMostOne
        omega
      · have := List.countP_pos_iff.mpr ⟨a, aRest, aHolds⟩
        simp only [bHolds, if_true] at atMostOne
        omega
      · exact ih (by split at atMostOne <;> omega) aRest bRest

theorem Call.step_cases {sw sw' : SlidingWindow} {c : Call} {pc : Pc} (stepped : c.step sw = some (sw', pc)) :
    (sw' = sw ∧ c.pc.critical = false ∧ pc.critical = false ∧ pc.added = c.pc.added) ∨
      (c.pc = .reload ∧ sw' = sw ∧ (pc = .unlock ∨ pc = .loadCurr ∨ pc = .resetPrev)) ∨
      (c.pc = .loadCurr ∧ sw' = sw ∧ pc = .storePrev sw.currCount) ∨
      (c.pc = .lock ∧ sw.rotationMu = false ∧ sw' = { sw with rotationMu := true } ∧ pc = .reload) ∨
      (c.pc = .unlock ∧ sw' = { sw with rotationMu := false } ∧ pc = .add) ∨
      (c.pc = .add ∧ sw' = { sw with currCount := sw.currCount + 1 } ∧ pc = .loadCurrent) ∨
      (∃ curr, c.pc = .storePrev curr ∧ sw' = { sw with prevCount := curr } ∧ pc = .resetCurr) ∨
      (c.pc = .resetPrev ∧ sw' = { sw with prevCount := 0 } ∧ pc = .resetCurr) ∨
      (c.pc = .resetCurr ∧ sw' = { sw with currCount := 0 } ∧ pc = .storeStart) ∨
      (c.pc = .storeStart ∧ sw' = { sw with windowStart := c.now - c.now.tmod sw.windowSize } ∧ pc = .unlock) := by
  obtain ⟨now, pc₀⟩ := c
  cases pc₀ with
  | advanceLoad =>
      simp only [Call.step, Option.some.injEq, Prod.mk.injEq] at stepped
      obtain ⟨rfl, rfl⟩ := stepped
      left
      split_ifs <;> exact ⟨rfl, rfl, rfl, rfl⟩
  | lock =>
      simp only [Call.step] at stepped
      split_ifs at stepped with held
      simp only [Option.some.injEq, Prod.mk.injEq] at stepped
      obtain ⟨rfl, rfl⟩ := stepped
      exact .inr (.inr (.inr (.inl ⟨rfl, by simpa using held, rfl, rfl⟩)))
  | reload =>
      simp only [Call.step, Option.some.injEq, Prod.mk.injEq] at stepped
      obtain ⟨rfl, rfl⟩ := stepped
      refine .inr (.inl ⟨rfl, rfl, ?_⟩)
      split_ifs
      · exact .inl rfl
      · exact .inr (.inl rfl)
      · exact .inr (.inr rfl)
  | loadCurr =>
      simp only [Call.step, Option.some.injEq, Prod.mk.injEq] at stepped
      obtain ⟨rfl, rfl⟩ := stepped
      exact .inr (.inr (.inl ⟨rfl, rfl, rfl⟩))
  | storePrev curr =>
      simp only [Call.step, Option.some.injEq, Prod.mk.injEq] at stepped
      obtain ⟨rfl, rfl⟩ := stepped
      exact .inr (.inr (.inr (.inr (.inr (.inr (.inl ⟨curr, rfl, rfl, rfl⟩))))))
  | resetPrev =>
      simp only [Call.step, Option.some.injEq, Prod.mk.injEq] at stepped
      obtain ⟨rfl, rfl⟩ := stepped
      exact .inr (.inr (.inr (.inr (.inr (.inr (.inr (.inl ⟨rfl, rfl, rfl⟩)))))))
  | resetCurr =>
      simp only [Call.step, Option.some.injEq, Prod.mk.injEq] at stepped
      obtain ⟨rfl, rfl⟩ := stepped
      exact .inr (.inr (.inr (.inr (.inr (.inr (.inr (.inr (.inl ⟨rfl, rfl, rfl⟩))))))))
  | storeStart =>
      simp only [Call.step, Option.some.injEq, Prod.mk.injEq] at stepped
      obtain ⟨rfl, rfl⟩ := stepped
      exact .inr (.inr (.inr (.inr (.inr (.inr (.inr (.inr (.inr ⟨rfl, rfl, rfl⟩))))))))
  | unlock =>
      simp only [Call.step, Option.some.injEq, Prod.mk.injEq] at stepped
      obtain ⟨rfl, rfl⟩ := stepped
      exact .inr (.inr (.inr (.inr (.inl ⟨rfl, rfl, rfl⟩))))
  | add =>
      simp only [Call.step, Option.some.injEq, Prod.mk.injEq] at stepped
      obtain ⟨rfl, rfl⟩ := stepped
      exact .inr (.inr (.inr (.inr (.inr (.inl ⟨rfl, rfl, rfl⟩)))))
  | loadCurrent =>
      simp only [Call.step, Option.some.injEq, Prod.mk.injEq] at stepped
      obtain ⟨rfl, rfl⟩ := stepped
      exact .inl ⟨rfl, rfl, rfl, rfl⟩
  | loadPrev curr =>
      simp only [Call.step, Option.some.injEq, Prod.mk.injEq] at stepped
      obtain ⟨rfl, rfl⟩ := stepped
      exact .inl ⟨rfl, rfl, rfl, rfl⟩
  | loadStart curr prev =>
      simp only [Call.step, Option.some.injEq, Prod.mk.injEq] at stepped
      obtain ⟨rfl, rfl⟩ := stepped
      exact .inl ⟨rfl, rfl, rfl, rfl⟩
  | done allowed => cases stepped

theorem Sys.step_at_some {s s' : Sys} {i : Nat} (stepped : s.stepAt i = some s') :
    ∃ (within : i < s.calls.length) (pc : Pc), s.calls[i].step s.sw = some (s'.sw, pc) ∧
      s'.calls = s.calls.set i { s.calls[i] with pc := pc } := by
  unfold Sys.stepAt at stepped
  split_ifs at stepped with within
  obtain ⟨⟨sw', pc⟩, step, rfl⟩ := Option.map_eq_some_iff.mp stepped
  exact ⟨within, pc, step, rfl⟩

theorem Owed.bound {sw : SlidingWindow} {added : Int} {pc : Pc} (owed : Owed sw added pc)
    (notStore : ∀ curr, pc ≠ .storePrev curr) (notReset : pc ≠ .resetCurr) : sw.prevCount + sw.currCount ≤ added := by
  cases pc with
  | storePrev curr => exact absurd rfl (notStore curr)
  | resetCurr => exact absurd rfl notReset
  | _ => exact owed

theorem Owed.add {sw : SlidingWindow} {added : Int} {pc : Pc} (owed : Owed sw added pc) :
    Owed { sw with currCount := sw.currCount + 1 } (added + 1) pc := by
  cases pc with
  | storePrev curr =>
      obtain ⟨nonneg, below, bound⟩ := owed
      exact ⟨nonneg, by omega, by simp only; omega⟩
  | resetCurr =>
      simp only [Owed] at owed ⊢
      omega
  | _ =>
      simp only [Owed] at owed ⊢
      omega

theorem Counted.outside {s s' : Sys} (counted : Counted s) (sameRotating : s'.rotating = s.rotating)
    (sameMu : s'.sw.rotationMu = s.sw.rotationMu) (nonneg : 0 ≤ s'.sw.prevCount ∧ 0 ≤ s'.sw.currCount)
    (members : ∀ d ∈ s'.calls, d.pc.critical = true → d ∈ s.calls)
    (keeps : ∀ pc, Owed s.sw s.added pc → Owed s'.sw s'.added pc) : Counted s' where
  prev_nonneg := nonneg.1
  curr_nonneg := nonneg.2
  exclusive := sameRotating ▸ counted.exclusive
  locked := by rw [sameMu, sameRotating]; exact counted.locked
  owed d mem holds := keeps d.pc (counted.owed d (members d mem holds) holds)
  -- with no rotating call the bound is what any operation outside the mutex is owed
  free none := keeps .add (counted.free (sameRotating ▸ none))

theorem Counted.holder {s s' : Sys} (counted : Counted s) (rotating : s.rotating = 1) (sameRotating : s'.rotating = 1)
    (sameMu : s'.sw.rotationMu = s.sw.rotationMu) (nonneg : 0 ≤ s'.sw.prevCount ∧ 0 ≤ s'.sw.currCount)
    {holder : Call} (alone : ∀ d ∈ s'.calls, d.pc.critical = true → d = holder)
    (owed : Owed s'.sw s'.added holder.pc) : Counted s' where
  prev_nonneg := nonneg.1
  curr_nonneg := nonneg.2
  exclusive := by omega
  locked := by
    rw [sameMu, sameRotating]
    exact ⟨fun _ => rfl, fun _ => counted.locked.mpr rotating⟩
  owed d mem holds := alone d mem holds ▸ owed
  free none := absurd none (by omega)

theorem count_p_set_pc {p : Pc → Bool} {calls : List Call} {i : Nat} (within : i < calls.length) (pc : Pc) :
    (calls.set i { calls[i] with pc := pc }).countP (fun c => p c.pc) + (if p calls[i].pc then 1 else 0) =
      calls.countP (fun c => p c.pc) + (if p pc then 1 else 0) := by
  rw [List.countP_set within]
  by_cases holds : p calls[i].pc = true
  · have pos : 0 < calls.countP (fun c => p c.pc) :=
      List.countP_pos_iff.mpr ⟨calls[i], List.getElem_mem within, holds⟩
    simp only [holds, if_true]
    omega
  · simp only [holds, Bool.false_eq_true, if_false]
    omega

theorem Counted.step {s s' : Sys} (counted : Counted s) (stepped : Sys.Step s s') : Counted s' := by
  obtain ⟨i, stepped⟩ := stepped
  obtain ⟨within, pc, step, callsEq⟩ := Sys.step_at_some stepped
  have cMem : s.calls[i] ∈ s.calls := List.getElem_mem within
  have movedMem : { s.calls[i] with pc := pc } ∈ s'.calls := by
    rw [callsEq]
    exact List.mem_set within _
  have rotating : s'.rotating + (if s.calls[i].pc.critical then 1 else 0) = s.rotating + (if pc.critical then 1 else 0) := by
    rw [Sys.rotating, Sys.rotating, callsEq]
    exact count_p_set_pc within pc
  have added : s'.added + (if s.calls[i].pc.added then 1 else 0) = s.added + (if pc.added then 1 else 0) := by
    simp only [Sys.added, callsEq]
    exact_mod_cast congrArg (Nat.cast : Nat → Int) (count_p_set_pc (p := Pc.added) within pc)
  have members : ∀ d ∈ s'.calls, d = { s.calls[i] with pc := pc } ∨ d ∈ s.calls := fun d mem => by
    rw [callsEq] at mem
    exact (List.mem_or_eq_of_mem_set mem).symm
  -- after a step that ends under the mutex, the moved call is the only one there
  have alone : pc.critical = true → s'.rotating ≤ 1 → ∀ d ∈ s'.calls, d.pc.critical = true →
      d = { s.calls[i] with pc := pc } := fun critical atMostOne d mem holds =>
    count_p_le_one_eq atMostOne mem holds movedMem critical
  -- a step outside the mutex moves no call that holds it
  have outsideMembers : pc.critical = false → ∀ d ∈ s'.calls, d.pc.critical = true → d ∈ s.calls :=
    fun quiet d mem holds => (members d mem).resolve_left fun moved => by rw [moved] at holds; simp_all
  have heldOne : s.calls[i].pc.critical = true → s.rotating = 1 := fun critical =>
    le_antisymm counted.exclusive (List.countP_pos_iff.mpr ⟨_, cMem, critical⟩)
  have cOwed := counted.owed _ cMem
  rcases Call.step_cases step with
    ⟨swEq, quiet, quiet', sameAdded⟩ | ⟨pcEq, swEq, next⟩ | ⟨pcEq, swEq, rfl⟩ | ⟨pcEq, free, swEq, rfl⟩ |
      ⟨pcEq, swEq, rfl⟩ | ⟨pcEq, swEq, rfl⟩ | ⟨curr, pcEq, swEq, rfl⟩ | ⟨pcEq, swEq, rfl⟩ | ⟨pcEq, swEq, rfl⟩ |
      ⟨pcEq, swEq, rfl⟩
  · -- a read outside the mutex
    simp only [quiet, quiet', Bool.false_eq_true, if_false] at rotating
    rw [sameAdded] at added
    refine counted.outside (by omega) (by rw [swEq]) (by rw [swEq]; exact ⟨counted.prev_nonneg, counted.curr_nonneg⟩)
      (outsideMembers quiet') fun pc owed => ?_
    rw [swEq, show s'.added = s.added by omega]
    exact owed
  · -- the reread of the window start under the mutex
    rw [pcEq] at cOwed rotating added heldOne
    have critical : pc.critical = true := by rcases next with rfl | rfl | rfl <;> rfl
    have notAdded : pc.added = false := by rcases next with rfl | rfl | rfl <;> rfl
    have one := heldOne rfl
    rw [critical] at rotating
    rw [notAdded] at added
    simp only [Pc.critical, Pc.added, if_true, Bool.false_eq_true, if_false] at rotating added
    have bound := (cOwed rfl).bound (fun _ => nofun) nofun
    refine counted.holder one (by omega) (by rw [swEq]) (by rw [swEq]; exact ⟨counted.prev_nonneg, counted.curr_nonneg⟩)
      (alone critical (by omega)) ?_
    rw [swEq, show s'.added = s.added by omega]
    rcases next with rfl | rfl | rfl <;> exact bound
  · -- the load of the count that becomes the previous window's
    rw [pcEq] at cOwed rotating added heldOne
    have one := heldOne rfl
    simp only [Pc.critical, Pc.added, if_true, Bool.false_eq_true, if_false] at rotating added
    have bound := (cOwed rfl).bound (fun _ => nofun) nofun
    have prevNonneg := counted.prev_nonneg
    refine counted.holder one (by omega) (by rw [swEq]) (by rw [swEq]; exact ⟨counted.prev_nonneg, counted.curr_nonneg⟩)
      (alone rfl (by omega)) ?_
    rw [swEq, show s'.added = s.added by omega]
    exact ⟨counted.curr_nonneg, by omega, bound⟩
  · -- Lock: no call held the mutex, and the locking call is now the only one under it
    rw [pcEq] at rotating added
    simp only [Pc.critical, Pc.added, if_true, Bool.false_eq_true, if_false] at rotating added
    have none : s.rotating = 0 := by
      have := counted.exclusive
      have := counted.locked.not.mp (by rw [free]; exact Bool.false_ne_true)
      omega
    refine ⟨by rw [swEq]; exact counted.prev_nonneg, by rw [swEq]; exact counted.curr_nonneg, by omega,
      by rw [swEq]; exact ⟨fun _ => by omega, fun _ => rfl⟩, fun d mem holds => ?_, fun zero => absurd zero (by omega)⟩
    rw [alone rfl (by omega) d mem holds, swEq, show s'.added = s.added by omega]
    exact counted.free none
  · -- Unlock: no call is left under the mutex
    rw [pcEq] at cOwed rotating added heldOne
    have one := heldOne rfl
    simp only [Pc.critical, Pc.added, if_true, Bool.false_eq_true, if_false] at rotating added
    have bound := (cOwed rfl).bound (fun _ => nofun) nofun
    refine ⟨by rw [swEq]; exact counted.prev_nonneg, by rw [swEq]; exact counted.curr_nonneg, by omega,
      iff_of_false (by rw [swEq]; exact Bool.false_ne_true) (by omega), fun d mem holds => ?_, fun _ => ?_⟩
    · have : 0 < s'.rotating := List.countP_pos_iff.mpr ⟨d, mem, holds⟩
      omega
    · rw [swEq, show s'.added = s.added by omega]
      exact bound
  · -- Add: the count and the calls that have added grow together
    rw [pcEq] at rotating added
    simp only [Pc.critical, Pc.added, if_true, Bool.false_eq_true, if_false] at rotating added
    have currNonneg := counted.curr_nonneg
    refine counted.outside (by omega) (by rw [swEq]) (by rw [swEq]; exact ⟨counted.prev_nonneg, by simp only; omega⟩)
      (outsideMembers rfl) fun pc owed => ?_
    rw [swEq, show s'.added = s.added + 1 by omega]
    exact owed.add
  · -- the store of the loaded count as the previous window's
    rw [pcEq] at cOwed rotating added heldOne
    have one := heldOne rfl
    simp only [Pc.critical, Pc.added, if_true, Bool.false_eq_true, if_false] at rotating added
    obtain ⟨nonneg, below, -⟩ := cOwed rfl
    refine counted.holder one (by omega) (by rw [swEq]) (by rw [swEq]; exact ⟨nonneg, counted.curr_nonneg⟩)
      (alone rfl (by omega)) ?_
    rw [swEq, show s'.added = s.added by omega]
    exact below
  · -- the reset of the previous window's count after a long pause
    rw [pcEq] at rotating added heldOne
    have one := heldOne rfl
    simp only [Pc.critical, Pc.added, if_true, Bool.false_eq_true, if_false] at rotating added
    refine counted.holder one (by omega) (by rw [swEq]) (by rw [swEq]; exact ⟨le_refl 0, counted.curr_nonneg⟩)
      (alone rfl (by omega)) ?_
    rw [swEq, show s'.added = s.added by omega]
    exact Int.natCast_nonneg _
  · -- the reset of the current count
    rw [pcEq] at cOwed rotating added heldOne
    have one := heldOne rfl
    simp only [Pc.critical, Pc.added, if_true, Bool.false_eq_true, if_false] at rotating added
    have below : s.sw.prevCount ≤ s.added := cOwed rfl
    refine counted.holder one (by omega) (by rw [swEq]) (by rw [swEq]; exact ⟨counted.prev_nonneg, le_refl 0⟩)
      (alone rfl (by omega)) ?_
    rw [swEq, show s'.added = s.added by omega]
    show s.sw.prevCount + 0 ≤ s.added
    omega
  · -- the store of the new window start
    rw [pcEq] at cOwed rotating added heldOne
    have one := heldOne rfl
    simp only [Pc.critical, Pc.added, if_true, Bool.false_eq_true, if_false] at rotating added
    have bound := (cOwed rfl).bound (fun _ => nofun) nofun
    refine counted.holder one (by omega) (by rw [swEq]) (by rw [swEq]; exact ⟨counted.prev_nonneg, counted.curr_nonneg⟩)
      (alone rfl (by omega)) ?_
    rw [swEq, show s'.added = s.added by omega]
    exact bound

theorem Sys.rotating_start (windowSize limit start : Int) (clocks : List Int) :
    (Sys.start windowSize limit start clocks).rotating = 0 :=
  List.countP_eq_zero.mpr fun c mem => by
    simp only [Sys.start, List.mem_map] at mem
    obtain ⟨now, -, rfl⟩ := mem
    exact Bool.false_ne_true

theorem Counted.start (windowSize limit start : Int) (clocks : List Int) :
    Counted (Sys.start windowSize limit start clocks) where
  prev_nonneg := le_refl 0
  curr_nonneg := le_refl 0
  exclusive := by rw [Sys.rotating_start]; omega
  locked := by rw [Sys.rotating_start]; exact iff_of_false Bool.false_ne_true (by omega)
  owed c mem holds := by
    simp only [Sys.start, List.mem_map] at mem
    obtain ⟨now, -, rfl⟩ := mem
    cases holds
  free _ := by
    show (0 : Int) + 0 ≤ _
    simp only [Int.add_zero]
    exact Int.natCast_nonneg _

theorem Counted.reachable {s s' : Sys} (counted : Counted s) (run : Relation.ReflTransGen Sys.Step s s') :
    Counted s' := by
  induction run with
  | refl => exact counted
  | tail _ stepped ih => exact ih.step stepped

theorem Sys.length_reachable {s s' : Sys} (run : Relation.ReflTransGen Sys.Step s s') :
    s'.calls.length = s.calls.length := by
  induction run with
  | refl => rfl
  | tail _ stepped ih =>
      obtain ⟨i, stepped⟩ := stepped
      obtain ⟨within, pc, -, callsEq⟩ := Sys.step_at_some stepped
      rw [callsEq, List.length_set, ih]

theorem allow_never_counts_twice (windowSize limit start : Int) (clocks : List Int) {s : Sys}
    (run : Relation.ReflTransGen Sys.Step (Sys.start windowSize limit start clocks) s) (finished : s.finished = true) :
    s.sw.prevCount + s.sw.currCount ≤ clocks.length := by
  have counted := (Counted.start windowSize limit start clocks).reachable run
  have allDone : ∀ c ∈ s.calls, ∃ allowed, c.pc = .done allowed := fun c mem => by
    have := List.all_eq_true.mp finished c mem
    revert this
    cases c.pc <;> simp
  have none : s.rotating = 0 := List.countP_eq_zero.mpr fun c mem => by
    obtain ⟨allowed, done⟩ := allDone c mem
    rw [done]
    exact Bool.false_ne_true
  have bounded : s.added ≤ clocks.length := by
    have := List.countP_le_length (p := fun c : Call => c.pc.added) (l := s.calls)
    rw [Sys.length_reachable run] at this
    simp only [Sys.start, List.length_map] at this
    simp only [Sys.added]
    exact_mod_cast this
  exact le_trans (counted.free none) bounded

end Counting

/- A window of 10 ns from 0 and two errors counted at 5 and at 10 ns, both within [0, 20). The
   call at 10 rotates the window: it copies the count 0, and the call at 5 adds its error before the
   rotation resets the count, so that error is in neither counter. -/

def lostUpdateSchedule : List Nat := [0, 1, 1, 1, 1, 1, 0, 1, 1, 1, 1, 1, 1, 1, 0, 0, 0]

theorem allow_loses_error_across_rotation :
    ∃ s, (Sys.start 10 100 0 [5, 10]).run lostUpdateSchedule = some s ∧ s.finished = true ∧
      s.sw.prevCount + s.sw.currCount = 1 :=
  ⟨_, rfl, rfl, rfl⟩

example : ((Sys.start 10 100 0 [5, 10]).run [0, 0, 0, 0, 0, 1, 1, 1, 1, 1, 1, 1, 1, 1, 1, 1, 1]).map
    (fun s => s.sw.prevCount + s.sw.currCount) = some 2 := rfl

end NeoFS.Pool
