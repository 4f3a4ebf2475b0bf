import Mathlib

set_option autoImplicit false

/- Sources of items that a parser reads from the front. A source feeds its items to a consumer
   until the consumer stops, or cuts off a prefix of a given length; a list is the plainest
   such source. Another source refines a list when each of its operations does to the items it
   has left what the list's operation does, so that a parser written against any source reads
   from it what it reads from that list. -/
namespace Lib

namespace Reader

variable {α σ τ : Type}

def feedList (f : σ → α → σ ⊕ τ) : σ → List α → σ ⊕ (τ × List α)
  | s, [] => .inl s
  | s, a :: rest =>
      match f s a with
      | .inl s' => feedList f s' rest
      | .inr r => .inr (r, rest)

def splitList (xs : List α) (n : Nat) : Option (List α × List α) :=
  if n ≤ xs.length then some (xs.take n, xs.drop n) else none

theorem feed_list_append (f : σ → α → σ ⊕ τ) (s : σ) (xs ys : List α) :
    feedList f s (xs ++ ys) =
      match feedList f s xs with
      | .inl s' => feedList f s' ys
      | .inr (r, rest) => .inr (r, rest ++ ys) := by
  induction xs generalizing s with
  | nil => rfl
  | cons a rest ih =>
      simp only [List.cons_append, feedList]
      cases f s a with
      | inl s' => exact ih s'
      | inr r => rfl

theorem feed_list_stop_length {f : σ → α → σ ⊕ τ} {s : σ} {xs rest : List α} {r : τ}
    (stop : feedList f s xs = .inr (r, rest)) : rest.length < xs.length := by
  induction xs generalizing s with
  | nil => cases stop
  | cons a others ih =>
      simp only [feedList] at stop
      cases step : f s a with
      | inl s' =>
          rw [step] at stop
          have := ih stop
          simp only [List.length_cons]
          omega
      | inr r' =>
          rw [step] at stop
          cases stop
          simp

theorem feed_list_cons_inl {f : σ → α → σ ⊕ τ} {s s' : σ} {a : α} (rest : List α)
    (step : f s a = .inl s') : feedList f s (a :: rest) = feedList f s' rest := by
  rw [feedList, step]

theorem feed_list_cons_inr {f : σ → α → σ ⊕ τ} {s : σ} {r : τ} {a : α} (rest : List α)
    (step : f s a = .inr r) : feedList f s (a :: rest) = .inr (r, rest) := by
  rw [feedList, step]

end Reader

variable {α : Type}

class Reader (ρ : Type) (α : outParam Type) where
  feed {σ τ : Type} : ρ → (σ → α → σ ⊕ τ) → σ → σ ⊕ (τ × ρ)
  split : ρ → Nat → Option (ρ × ρ)
  contents : ρ → List α
  isEmpty : ρ → Bool
  length : ρ → Nat

namespace Reader

instance : Reader (List α) α where
  feed xs f s := feedList f s xs
  split := splitList
  contents xs := xs
  isEmpty xs := xs.isEmpty
  length xs := xs.length

section List

variable {σ τ : Type}

@[simp] theorem feed_list (xs : List α) (f : σ → α → σ ⊕ τ) (s : σ) : Reader.feed xs f s = feedList f s xs := rfl
@[simp] theorem split_list (xs : List α) (n : Nat) : Reader.split xs n = splitList xs n := rfl
@[simp] theorem contents_list (xs : List α) : Reader.contents xs = xs := rfl
@[simp] theorem isEmpty_list (xs : List α) : Reader.isEmpty xs = xs.isEmpty := rfl
@[simp] theorem length_list (xs : List α) : Reader.length xs = xs.length := rfl

end List

/-- Each operation of a source acts on the items it has left, given by `items`, as the list
operation does. -/
structure Refines {ρ : Type} [Reader ρ α] (items : ρ → List α) : Prop where
  feed : ∀ {σ τ : Type} (x : ρ) (f : σ → α → σ ⊕ τ) (s : σ),
    (Reader.feed x f s).map id (Prod.map id items) = feedList f s (items x)
  split : ∀ (x : ρ) (n : Nat),
    (Reader.split x n).map (Prod.map items items) = splitList (items x) n
  contents : ∀ x : ρ, Reader.contents x = items x
  isEmpty : ∀ x : ρ, Reader.isEmpty x = (items x).isEmpty
  length : ∀ x : ρ, Reader.length x = (items x).length

/-- A property of sources that feeding and cutting keep. -/
structure Preserves {ρ : Type} [Reader ρ α] (P : ρ → Prop) : Prop where
  feed : ∀ {σ τ : Type} (x : ρ) (f : σ → α → σ ⊕ τ) (s : σ) (r : τ) (x' : ρ),
    P x → Reader.feed x f s = .inr (r, x') → P x'
  split : ∀ (x : ρ) (n : Nat) (sub rest : ρ), P x → Reader.split x n = some (sub, rest) → P sub ∧ P rest

theorem Refines.list : Refines (ρ := List α) id where
  feed xs f s := by
    change Sum.map id (Prod.map id id) (feedList f s xs) = feedList f s xs
    cases feedList f s xs with
    | inl s' => rfl
    | inr p => rfl
  split xs n := by
    change Option.map (Prod.map id id) (splitList xs n) = splitList xs n
    cases splitList xs n with
    | none => rfl
    | some p => rfl
  contents _ := rfl
  isEmpty _ := rfl
  length _ := rfl

end Reader

end Lib
