import Mathlib.Data.List.Basic

set_option autoImplicit false

/- A stream cut into blocks of one size by a buffer that closes a full block only when the next
   element arrives. A writer that must know, when it emits a block, whether that block is the
   last one keeps the last block of its stream open; so no block is empty and the last one holds
   between one element and a whole block. The buffer is fed element by element: a writer that
   takes its input in pieces refines feeding the pieces' elements, and what it emits then
   depends only on the stream, not on how the stream was cut. -/
namespace Lib.Blocks

variable {α : Type}

structure State (α : Type) where
  closed : List (List α)
  pending : List α

def start : State α := ⟨[], []⟩

def feed (size : Nat) (s : State α) (a : α) : State α :=
  if s.pending.length < size then ⟨s.closed, s.pending ++ [a]⟩ else ⟨s.closed ++ [s.pending], [a]⟩

def feedAll (size : Nat) (s : State α) (xs : List α) : State α := xs.foldl (feed size) s

def State.contents (s : State α) : List α := s.closed.flatten ++ s.pending

-- What the blocks must look like: each closed block is full, the open one holds at most a
-- block, and it is empty only while no block has been closed.
structure State.Blocked (size : Nat) (s : State α) : Prop where
  closed_full : ∀ b ∈ s.closed, b.length = size
  pending_le : s.pending.length ≤ size
  pending_ne : s.closed ≠ [] → s.pending ≠ []

section Feeding

variable {size : Nat} {s : State α} {xs ys : List α}

@[simp] theorem feedAll_nil : feedAll size s [] = s := rfl

theorem feed_all_cons (a : α) : feedAll size s (a :: xs) = feedAll size (feed size s a) xs := rfl

theorem feed_all_append : feedAll size s (xs ++ ys) = feedAll size (feedAll size s xs) ys :=
  List.foldl_append

theorem contents_feed (a : α) : (feed size s a).contents = s.contents ++ [a] := by
  unfold feed
  split <;> simp [State.contents]

theorem contents_feed_all : (feedAll size s xs).contents = s.contents ++ xs := by
  induction xs generalizing s with
  | nil => simp
  | cons a rest ih => rw [feed_all_cons, ih, contents_feed, List.append_assoc, List.singleton_append]

@[simp] theorem contents_start : (start : State α).contents = [] := rfl

theorem contents_of_closed (none : s.closed = []) : s.contents = s.pending := by
  rw [State.contents, none, List.flatten_nil, List.nil_append]

theorem feed_all_of_fits (fits : s.pending.length + xs.length ≤ size) :
    feedAll size s xs = ⟨s.closed, s.pending ++ xs⟩ := by
  induction xs generalizing s with
  | nil => simp
  | cons a rest ih =>
      have room : s.pending.length < size := by
        simp only [List.length_cons] at fits
        omega
      rw [feed_all_cons, feed, if_pos room, ih (s := ⟨s.closed, s.pending ++ [a]⟩)
        (by simp only [List.length_append, List.length_cons, List.length_nil] at fits ⊢; omega)]
      simp

theorem feed_all_of_overflow (positive : 0 < size) {n : Nat} (fill : s.pending.length + n = size)
    (overflows : n < xs.length) :
    feedAll size s xs = feedAll size ⟨s.closed ++ [s.pending ++ xs.take n], []⟩ (xs.drop n) := by
  obtain ⟨a, rest, dropped⟩ : ∃ a rest, xs.drop n = a :: rest :=
    List.exists_cons_of_ne_nil (by simp only [ne_eq, List.drop_eq_nil_iff]; omega)
  have filled : (s.pending ++ xs.take n).length = size := by
    simp only [List.length_append, List.length_take]
    omega
  calc feedAll size s xs = feedAll size (feedAll size s (xs.take n)) (a :: rest) := by
        rw [← dropped, ← feed_all_append, List.take_append_drop]
    _ = feedAll size ⟨s.closed ++ [s.pending ++ xs.take n], [a]⟩ rest := by
        have fits : feedAll size s (xs.take n) = ⟨s.closed, s.pending ++ xs.take n⟩ :=
          feed_all_of_fits (by simp only [List.length_take]; omega)
        rw [fits, feed_all_cons, feed, if_neg (by dsimp only; omega)]
    _ = feedAll size ⟨s.closed ++ [s.pending ++ xs.take n], []⟩ (xs.drop n) := by
        rw [dropped, feed_all_cons, feed, if_pos (by simpa using positive)]
        rfl

end Feeding

section Invariant

variable {size : Nat} {s : State α}

theorem start_blocked : (start : State α).Blocked size :=
  ⟨fun _ none => (by cases none), Nat.zero_le _, fun nonempty => absurd rfl nonempty⟩

theorem State.Blocked.feed (positive : 0 < size) (blocked : s.Blocked size) (a : α) :
    (Blocks.feed size s a).Blocked size := by
  unfold Blocks.feed
  split
  case isTrue room =>
    refine ⟨blocked.closed_full, by simp only [List.length_append, List.length_singleton]; omega, fun _ => ?_⟩
    simp
  case isFalse full =>
    refine ⟨fun b mem => ?_, positive, fun _ => List.cons_ne_nil a []⟩
    rcases List.mem_append.mp mem with old | last
    · exact blocked.closed_full b old
    · rw [List.mem_singleton.mp last]
      exact Nat.le_antisymm blocked.pending_le (Nat.le_of_not_lt full)

theorem State.Blocked.feedAll (positive : 0 < size) (blocked : s.Blocked size) (xs : List α) :
    (Blocks.feedAll size s xs).Blocked size := by
  induction xs generalizing s with
  | nil => exact blocked
  | cons a rest ih => exact ih (blocked.feed positive a)

theorem feed_all_start (positive : 0 < size) (xs : List α) :
    (Blocks.feedAll size start xs).Blocked size ∧ (Blocks.feedAll size start xs).contents = xs :=
  ⟨start_blocked.feedAll positive xs, by rw [contents_feed_all, contents_start, List.nil_append]⟩

theorem length_flatten_of_full {bs : List (List α)} (full : ∀ b ∈ bs, b.length = size) :
    bs.flatten.length = size * bs.length := by
  induction bs with
  | nil => simp
  | cons b rest ih =>
      rw [List.flatten_cons, List.length_append, full b List.mem_cons_self,
        ih (fun c mem => full c (List.mem_cons_of_mem b mem)), List.length_cons, Nat.mul_succ, Nat.add_comm]

theorem State.Blocked.length_contents (blocked : s.Blocked size) :
    s.contents.length = size * s.closed.length + s.pending.length := by
  rw [State.contents, List.length_append, length_flatten_of_full blocked.closed_full]

theorem State.Blocked.closed_eq_nil_iff (blocked : s.Blocked size) :
    s.closed = [] ↔ s.contents.length ≤ size := by
  rw [blocked.length_contents]
  constructor
  · intro none
    rw [none, List.length_nil, Nat.mul_zero, Nat.zero_add]
    exact blocked.pending_le
  · intro short
    by_contra some_closed
    have pending := List.length_pos_of_ne_nil (blocked.pending_ne some_closed)
    have closed := List.length_pos_of_ne_nil some_closed
    have : size * 1 ≤ size * s.closed.length := Nat.mul_le_mul_left size closed
    omega

end Invariant

end Lib.Blocks
