import NeoFS.Lib.Reader
import NeoFS.Go.IO

set_option autoImplicit false

/- The BuffersSlice of proto/protobuf/buffers.go: a list of buffers of which the first is read
   from firstOff and the last up to lastTo. A buffer stands for its ReadOnlyData. The bytes
   that such a slice has left are what buffersSeq2 yields, one view of a buffer after another;
   every operation below acts on those bytes as the list operation does, whatever the split. -/
namespace NeoFS.Proto

open Lib Lib.Reader

structure BuffersSlice where
  buffers : List (List UInt8)
  firstOff : Nat
  lastTo : Nat
deriving DecidableEq, Repr

namespace BuffersSlice

-- The zero BuffersSlice, which holds no data.
def zero : BuffersSlice := ⟨[], 0, 0⟩

def new (buffers : List (List UInt8)) : BuffersSlice :=
  match buffers.getLast? with
  | none => zero
  | some last => ⟨buffers, 0, last.length⟩

def cutLast (lastTo : Nat) : List (List UInt8) → List (List UInt8)
  | [] => []
  | [b] => [b.take lastTo]
  | b :: c :: rest => b :: cutLast lastTo (c :: rest)

-- `buffersSeq2`: the views it yields, in order.
def views (x : BuffersSlice) : List (List UInt8) :=
  match x.buffers with
  | [] => []
  | [b] => [(b.take x.lastTo).drop x.firstOff]
  | b :: c :: rest => b.drop x.firstOff :: cutLast x.lastTo (c :: rest)

def data (x : BuffersSlice) : List UInt8 := x.views.flatten

def isEmpty (x : BuffersSlice) : Bool := x.views.all List.isEmpty

def len (x : BuffersSlice) : Nat := (x.views.map List.length).sum

def readOnlyData (x : BuffersSlice) : List UInt8 :=
  match x.buffers with
  | [b] => (b.take x.lastTo).drop x.firstOff
  | _ => x.views.flatten

-- `WriteTo` into a writer that takes everything: the byte strings of its Write calls.
def writeTo (x : BuffersSlice) : List (List UInt8) := x.views

section BytesSeq

variable {σ τ : Type}

-- The consumer of `bytesSeq` fed from one view, the first byte having index j.
def feedView (f : σ → UInt8 → σ ⊕ τ) : σ → Nat → List UInt8 → σ ⊕ (τ × Nat)
  | s, _, [] => .inl s
  | s, j, b :: rest =>
      match f s b with
      | .inl s' => feedView f s' (j + 1) rest
      | .inr r => .inr (r, j)

def feedViews (f : σ → UInt8 → σ ⊕ τ) : σ → Nat → List (List UInt8) → σ ⊕ (τ × Nat × Nat × Nat)
  | s, _, [] => .inl s
  | s, i, b :: rest =>
      match feedView f s 0 b with
      | .inl s' => feedViews f s' (i + 1) rest
      | .inr (r, j) => .inr (r, i, j, b.length)

-- Where `bytesSeq` leaves x when yield refuses byte j of the i-th view, of length len.
def stopAt (x : BuffersSlice) (i j len : Nat) : BuffersSlice :=
  if j = len - 1 then ⟨x.buffers.drop (i + 1), 0, x.lastTo⟩
  else if 0 < i then ⟨x.buffers.drop i, j + 1, x.lastTo⟩
  else ⟨x.buffers, x.firstOff + j + 1, x.lastTo⟩

/-- `bytesSeq` run with a consumer that either takes the byte and goes on or refuses it with a
result: x is moved right after the refused byte, and left as it is when no byte is refused. -/
def bytesSeq (x : BuffersSlice) (f : σ → UInt8 → σ ⊕ τ) (s : σ) : σ ⊕ (τ × BuffersSlice) :=
  match feedViews f s 0 x.views with
  | .inl s' => .inl s'
  | .inr (r, i, j, len) => .inr (r, x.stopAt i j len)

end BytesSeq

-- The loop of `MoveNext` from the i-th view on, with n bytes still to cut.
def moveFrom (x : BuffersSlice) : Nat → Nat → List (List UInt8) → Option (BuffersSlice × BuffersSlice)
  | _, _, [] => none
  | i, n, b :: rest =>
      if b.length < n then x.moveFrom (i + 1) (n - b.length) rest
      else
        let lastTo := if (x.buffers.take (i + 1)).length = 1 then n + x.firstOff else n
        some (⟨x.buffers.take (i + 1), x.firstOff, lastTo⟩, ⟨x.buffers.drop i, lastTo, x.lastTo⟩)

/-- `MoveNext`: the cut prefix and the slice left after it, or none when fewer than n bytes
remain. -/
def moveNext (x : BuffersSlice) (n : Nat) : Option (BuffersSlice × BuffersSlice) :=
  match x.buffers with
  | [] => if n = 0 then some (zero, x) else none
  | _ :: _ => x.moveFrom 0 n x.views

-- `x.MoveNext(n)` as a method: the cut slice, whether it succeeded, and the receiver after the
-- call, which the loop only writes once it has found the cut.
def moveNextMethod (x : BuffersSlice) (n : Nat) : BuffersSlice × Bool × BuffersSlice :=
  match x.moveNext n with
  | some (sub, rest) => (sub, true, rest)
  | none => (zero, false, x)

instance : Reader BuffersSlice UInt8 where
  feed x f s := x.bytesSeq f s
  split := moveNext
  contents := readOnlyData
  isEmpty := isEmpty
  length := len

theorem views_eq (x : BuffersSlice) :
    x.views = (cutLast x.lastTo x.buffers).modifyHead (·.drop x.firstOff) := by
  match x with
  | ⟨[], _, _⟩ => rfl
  | ⟨[_], _, _⟩ => rfl
  | ⟨_ :: _ :: _, _, _⟩ => rfl

theorem length_cut_last (t : Nat) (bs : List (List UInt8)) : (cutLast t bs).length = bs.length := by
  induction bs with
  | nil => rfl
  | cons b rest ih =>
      cases rest with
      | nil => rfl
      | cons c rest => simp only [cutLast, List.length_cons] at ih ⊢; omega

theorem cut_last_drop (t : Nat) (bs : List (List UInt8)) (k : Nat) :
    (cutLast t bs).drop k = cutLast t (bs.drop k) := by
  induction bs generalizing k with
  | nil => simp [cutLast]
  | cons b rest ih =>
      cases k with
      | zero => rfl
      | succ k =>
          cases rest with
          | nil => simp [cutLast]
          | cons c rest => exact ih k

theorem cut_last_append_singleton (t : Nat) (ys : List (List UInt8)) (y : List UInt8) :
    cutLast t (ys ++ [y]) = ys ++ [y.take t] := by
  induction ys with
  | nil => rfl
  | cons b rest ih =>
      cases rest with
      | nil => rfl
      | cons c rest =>
          simp only [List.cons_append] at ih ⊢
          rw [cutLast, ih]

theorem cut_last_take (t : Nat) (bs : List (List UInt8)) (k : Nat) (short : k < bs.length) :
    (cutLast t bs).take k = bs.take k := by
  induction bs generalizing k with
  | nil => simp at short
  | cons b rest ih =>
      cases k with
      | zero => rfl
      | succ k =>
          cases rest with
          | nil => simp at short
          | cons c rest =>
              simp only [List.length_cons] at short
              simp only [cutLast, List.take_succ_cons]
              rw [ih k (by simpa using short)]

theorem cut_last_head {t : Nat} {d c : List UInt8} {rest R : List (List UInt8)}
    (yielded : cutLast t (d :: rest) = c :: R) : c = d ∨ c = d.take t := by
  cases rest with
  | nil =>
      cases yielded
      exact .inr rfl
  | cons e rest =>
      cases yielded
      exact .inl rfl

theorem views_of_offset (bs : List (List UInt8)) (off t : Nat) :
    views ⟨bs, off, t⟩ = (cutLast t bs).modifyHead (·.drop off) :=
  views_eq ⟨bs, off, t⟩

theorem views_of_zero_offset (bs : List (List UInt8)) (t : Nat) : views ⟨bs, 0, t⟩ = cutLast t bs := by
  rw [views_of_offset]
  cases cutLast t bs with
  | nil => rfl
  | cons c R => simp

theorem drop_succ_modify_head {β : Type} (g : β → β) (W : List β) (k : Nat) :
    (W.modifyHead g).drop (k + 1) = W.drop (k + 1) := by
  cases W <;> rfl

theorem take_modify_head {β : Type} (g : β → β) (W : List β) (k : Nat) :
    (W.modifyHead g).take k = (W.take k).modifyHead g := by
  cases W with
  | nil => simp
  | cons a W => cases k <;> simp

theorem modify_head_append_of_ne_nil {β : Type} (g : β → β) {ys : List β} (zs : List β) (nonempty : ys ≠ []) :
    (ys ++ zs).modifyHead g = ys.modifyHead g ++ zs := by
  cases ys with
  | nil => contradiction
  | cons y ys => rfl

theorem take_succ_of_drop {β : Type} {l : List β} {k : Nat} {d : β} {r : List β}
    (h : l.drop k = d :: r) : l.take (k + 1) = l.take k ++ [d] := by
  have whole := List.take_append_drop k l
  rw [h] at whole
  have short : (l.take k).length = k := by
    have : k < l.length := by
      have := congrArg List.length h
      simp only [List.length_drop, List.length_cons] at this
      omega
    simp; omega
  conv_lhs => rw [← whole]
  rw [List.take_append, short]
  simp

section BytesSeq

variable {σ τ : Type} (f : σ → UInt8 → σ ⊕ τ)

theorem feed_view_spec (v : List UInt8) (s : σ) (j : Nat) :
    match feedView f s j v with
    | .inl s' => feedList f s v = .inl s'
    | .inr (r, j') => ∃ k, j' = j + k ∧ k < v.length ∧ feedList f s v = .inr (r, v.drop (k + 1)) := by
  induction v generalizing s j with
  | nil => rfl
  | cons b rest ih =>
      simp only [feedView, feedList]
      cases step : f s b with
      | inl s' =>
          have next := ih s' (j + 1)
          dsimp only
          cases inRest : feedView f s' (j + 1) rest with
          | inl s'' =>
              rw [inRest] at next
              exact next
          | inr p =>
              obtain ⟨r, j'⟩ := p
              rw [inRest] at next
              obtain ⟨k, rfl, short, fed⟩ := next
              exact ⟨k + 1, by omega, by simpa using short, by simpa using fed⟩
      | inr r => exact ⟨0, rfl, by simp, rfl⟩

theorem feed_views_spec (V : List (List UInt8)) (s : σ) (i : Nat) :
    match feedViews f s i V with
    | .inl s' => feedList f s V.flatten = .inl s'
    | .inr (r, i', j, len) => ∃ k w post, i' = i + k ∧ V.drop k = w :: post ∧ len = w.length ∧
        j < w.length ∧ feedList f s V.flatten = .inr (r, w.drop (j + 1) ++ post.flatten) := by
  induction V generalizing s i with
  | nil => rfl
  | cons v rest ih =>
      simp only [feedViews, List.flatten_cons, feed_list_append]
      have first := feed_view_spec f v s 0
      cases inView : feedView f s 0 v with
      | inl s' =>
          rw [inView] at first
          dsimp only
          rw [first]
          have next := ih s' (i + 1)
          cases inRest : feedViews f s' (i + 1) rest with
          | inl s'' =>
              rw [inRest] at next
              exact next
          | inr p =>
              obtain ⟨r, i', j, len⟩ := p
              rw [inRest] at next
              obtain ⟨k, w, post, rfl, dropped, rfl, short, fed⟩ := next
              exact ⟨k + 1, w, post, by omega, by simpa using dropped, rfl, short, fed⟩
      | inr p =>
          obtain ⟨r, j⟩ := p
          rw [inView] at first
          obtain ⟨k, rfl, short, fed⟩ := first
          dsimp only
          rw [fed]
          exact ⟨0, v, rest, rfl, rfl, rfl, by simpa using short, by simp⟩

theorem data_stop_at (x : BuffersSlice) {i j : Nat} {w : List UInt8} {post : List (List UInt8)}
    (dropped : x.views.drop i = w :: post) (short : j < w.length) :
    (x.stopAt i j w.length).data = w.drop (j + 1) ++ post.flatten := by
  have afterward : x.views.drop (i + 1) = post := by
    rw [← List.drop_drop, dropped]; rfl
  unfold stopAt
  split
  · rename_i last
    rw [data, views_of_zero_offset, ← cut_last_drop, ← drop_succ_modify_head (·.drop x.firstOff),
      ← views_eq, afterward, List.drop_eq_nil_of_le (by omega)]
    rfl
  · split
    · rename_i later
      obtain ⟨i, rfl⟩ : ∃ i', i = i' + 1 := ⟨i - 1, by omega⟩
      rw [views_eq, drop_succ_modify_head, cut_last_drop] at dropped
      rw [data, views_of_offset, dropped]
      rfl
    · have first : i = 0 := by omega
      subst first
      rw [views_eq, List.drop_zero] at dropped
      rw [data, views_of_offset]
      cases yielded : cutLast x.lastTo x.buffers with
      | nil => rw [yielded] at dropped; cases dropped
      | cons c R =>
          rw [yielded, List.modifyHead_cons] at dropped
          cases dropped
          simp [List.drop_drop, Nat.add_assoc]

theorem bytes_seq_data (x : BuffersSlice) (s : σ) :
    (x.bytesSeq f s).map id (Prod.map id data) = feedList f s x.data := by
  have fed := feed_views_spec f x.views s 0
  unfold bytesSeq
  cases inViews : feedViews f s 0 x.views with
  | inl s' =>
      rw [inViews] at fed
      dsimp only at fed ⊢
      rw [data, fed]
      rfl
  | inr p =>
      obtain ⟨r, i, j, len⟩ := p
      rw [inViews] at fed
      obtain ⟨k, w, post, rfl, dropped, rfl, short, fed⟩ := fed
      dsimp only
      rw [data, fed, Nat.zero_add]
      simp only [Sum.map_inr, Prod.map_apply, id]
      rw [data_stop_at x dropped short]

end BytesSeq

theorem cut_last_of_views_drop {x : BuffersSlice} {k : Nat} {b : List UInt8} {rest : List (List UInt8)}
    (dropped : x.views.drop (k + 1) = b :: rest) : cutLast x.lastTo (x.buffers.drop (k + 1)) = b :: rest := by
  rw [views_eq, drop_succ_modify_head, cut_last_drop] at dropped
  exact dropped

theorem take_of_cut {d b : List UInt8} {t n : Nat} (cut : b = d ∨ b = d.take t) (fits : n ≤ b.length) :
    d.take n = b.take n := by
  rcases cut with rfl | rfl
  · rfl
  · simp only [List.length_take] at fits
    rw [List.take_take, Nat.min_eq_left (by omega)]

theorem data_move_from_rest (x : BuffersSlice) {k n : Nat} {b : List UInt8} {rest : List (List UInt8)}
    (dropped : x.views.drop k = b :: rest) :
    data ⟨x.buffers.drop k, if (x.buffers.take (k + 1)).length = 1 then n + x.firstOff else n, x.lastTo⟩ =
      b.drop n ++ rest.flatten := by
  cases k with
  | zero =>
      rw [List.drop_zero, views_eq] at dropped
      cases yielded : cutLast x.lastTo x.buffers with
      | nil => rw [yielded] at dropped; cases dropped
      | cons c R =>
          rw [yielded, List.modifyHead_cons] at dropped
          cases dropped
          have single : (x.buffers.take 1).length = 1 := by
            cases buffered : x.buffers with
            | nil => rw [buffered] at yielded; cases yielded
            | cons d ds => rfl
          rw [if_pos single, List.drop_zero, data, views_of_offset, yielded]
          simp [List.drop_drop, Nat.add_comm]
  | succ k =>
      have several : (x.buffers.take (k + 2)).length ≠ 1 := by
        have := congrArg List.length (cut_last_of_views_drop dropped)
        simp only [length_cut_last, List.length_drop, List.length_cons] at this
        simp; omega
      rw [if_neg several, data, views_of_offset, cut_last_of_views_drop dropped]
      rfl

theorem data_move_from_cut (x : BuffersSlice) {k n : Nat} {b : List UInt8} {rest : List (List UInt8)}
    (dropped : x.views.drop k = b :: rest) (fits : n ≤ b.length) :
    data ⟨x.buffers.take (k + 1), x.firstOff,
        if (x.buffers.take (k + 1)).length = 1 then n + x.firstOff else n⟩ =
      (x.views.take k).flatten ++ b.take n := by
  cases k with
  | zero =>
      rw [List.drop_zero, views_eq] at dropped
      cases buffered : x.buffers with
      | nil => rw [buffered] at dropped; cases dropped
      | cons d ds =>
          rw [buffered] at dropped
          cases yielded : cutLast x.lastTo (d :: ds) with
          | nil => rw [yielded] at dropped; cases dropped
          | cons c R =>
              rw [yielded, List.modifyHead_cons] at dropped
              cases dropped
              have cut := cut_last_head yielded
              simp only [List.take_succ_cons, List.take_zero, List.length_singleton, if_true]
              rw [data, views_of_offset]
              simp only [cutLast, List.modifyHead_cons, List.flatten_cons, List.flatten_nil,
                List.append_nil, List.nil_append]
              rw [List.drop_take, Nat.add_sub_cancel]
              refine @take_of_cut _ _ (x.lastTo - x.firstOff) n ?_ fits
              rcases cut with rfl | rfl
              · exact .inl rfl
              · exact .inr List.drop_take
  | succ k =>
      have yielded := cut_last_of_views_drop dropped
      obtain ⟨d, ds, tail⟩ : ∃ d ds, x.buffers.drop (k + 1) = d :: ds := by
        cases buffered : x.buffers.drop (k + 1) with
        | nil => rw [buffered] at yielded; cases yielded
        | cons d ds => exact ⟨d, ds, rfl⟩
      rw [tail] at yielded
      have long : k + 1 < x.buffers.length := by
        have := congrArg List.length tail
        simp only [List.length_drop, List.length_cons] at this
        omega
      have several : (x.buffers.take (k + 2)).length ≠ 1 := by rw [List.length_take]; omega
      have first : x.buffers.take (k + 1) ≠ [] := by
        rw [← List.length_pos_iff, List.length_take]; omega
      rw [if_neg several, data, views_of_offset, take_succ_of_drop tail, cut_last_append_singleton,
        modify_head_append_of_ne_nil _ _ first, views_eq, take_modify_head,
        cut_last_take _ _ _ (by omega)]
      simp only [List.flatten_append, List.flatten_cons, List.flatten_nil, List.append_nil]
      rw [take_of_cut (cut_last_head yielded) fits]

theorem move_from_data (x : BuffersSlice) (L : List (List UInt8)) (k n : Nat)
    (dropped : x.views.drop k = L) (left : 0 < n ∨ L ≠ []) :
    (x.moveFrom k n L).map (Prod.map data data) =
      (splitList L.flatten n).map (Prod.map ((x.views.take k).flatten ++ ·) id) := by
  induction L generalizing k n with
  | nil =>
      have positive : 0 < n := by simpa using left
      simp only [moveFrom, splitList, List.flatten_nil, List.length_nil]
      rw [if_neg (by omega)]
      rfl
  | cons b rest ih =>
      have later : x.views.drop (k + 1) = rest := by rw [← List.drop_drop, dropped]; rfl
      have upTo : x.views.take (k + 1) = x.views.take k ++ [b] := take_succ_of_drop dropped
      by_cases short : b.length < n
      · rw [moveFrom, if_pos short, ih (k + 1) (n - b.length) later (.inl (by omega)), upTo]
        unfold splitList
        simp only [List.flatten_cons, List.length_append]
        by_cases fits : n - b.length ≤ rest.flatten.length
        · rw [if_pos fits, if_pos (by omega)]
          simp [List.take_append, List.drop_append, List.take_of_length_le (Nat.le_of_lt short),
            List.drop_eq_nil_of_le (Nat.le_of_lt short)]
        · rw [if_neg fits, if_neg (by omega)]
          rfl
      · have fits : n ≤ b.length := by omega
        have within : n ≤ (b :: rest).flatten.length := by
          simp only [List.flatten_cons, List.length_append]; omega
        rw [moveFrom, if_neg short, splitList, if_pos within]
        simp only [Option.map_some, Prod.map_apply, id, data_move_from_rest x dropped,
          data_move_from_cut x dropped fits, List.flatten_cons, List.take_append_of_le_length fits,
          List.drop_append_of_le_length fits]

theorem length_views (x : BuffersSlice) : x.views.length = x.buffers.length := by
  rw [views_eq, List.length_modifyHead, length_cut_last]

theorem move_next_data (x : BuffersSlice) (n : Nat) :
    (x.moveNext n).map (Prod.map data data) = splitList x.data n := by
  unfold moveNext
  split
  · rename_i empty
    have nothing : x.data = [] := by simp [data, views, empty]
    rw [nothing, splitList]
    by_cases zero : n = 0
    · simp only [zero, if_true, Option.map_some, Prod.map_apply, nothing]
      rfl
    · simp [zero]
  · rename_i b bs buffered
    have nonempty : x.views ≠ [] := by
      rw [← List.length_pos_iff, length_views, buffered]
      simp
    rw [move_from_data x x.views 0 n rfl (.inr nonempty)]
    show _ = splitList x.views.flatten n
    cases splitList x.views.flatten n <;> rfl

theorem read_only_data_eq (x : BuffersSlice) : x.readOnlyData = x.data := by
  unfold readOnlyData data views
  split <;> simp_all

theorem all_is_empty (L : List (List UInt8)) : L.all List.isEmpty = L.flatten.isEmpty := by
  induction L with
  | nil => rfl
  | cons v rest ih =>
      rw [List.all_cons, ih, List.flatten_cons]
      cases v <;> rfl

theorem is_empty_eq (x : BuffersSlice) : x.isEmpty = x.data.isEmpty := all_is_empty x.views

theorem len_eq (x : BuffersSlice) : x.len = x.data.length := by
  simp [len, data, List.length_flatten]

theorem refines : Reader.Refines data where
  feed x f s := bytes_seq_data f x s
  split := move_next_data
  contents := read_only_data_eq
  isEmpty := is_empty_eq
  length := len_eq

theorem cut_last_of_get_last {t : Nat} {bs : List (List UInt8)} {last : List UInt8}
    (isLast : bs.getLast? = some last) (whole : last.length ≤ t) : cutLast t bs = bs := by
  induction bs with
  | nil => cases isLast
  | cons b rest ih =>
      cases rest with
      | nil =>
          simp only [List.getLast?_singleton, Option.some.injEq] at isLast
          subst isLast
          simp [cutLast, List.take_of_length_le whole]
      | cons c rest =>
          rw [cutLast, ih (by simpa using isLast)]

theorem data_new (buffers : List (List UInt8)) : (new buffers).data = buffers.flatten := by
  unfold new
  split
  · rename_i noLast
    rw [List.getLast?_eq_none_iff.mp noLast]
    rfl
  · rename_i last isLast
    rw [data, views_of_zero_offset, cut_last_of_get_last isLast le_rfl]

/-- The bounds every slice of the code keeps: lastTo within the last buffer and firstOff within
the first view, so that none of the slice expressions of buffers.go panics. -/
def Valid (x : BuffersSlice) : Prop :=
  (∀ last ∈ x.buffers.getLast?, x.lastTo ≤ last.length) ∧
    ∀ first ∈ (cutLast x.lastTo x.buffers).head?, x.firstOff ≤ first.length

theorem valid_new (buffers : List (List UInt8)) : (new buffers).Valid := by
  unfold new
  split
  · exact ⟨by simp [zero], by simp [zero, cutLast]⟩
  · rename_i last isLast
    refine ⟨?_, by simp⟩
    intro last' mem
    simp only [isLast, Option.mem_def, Option.some.injEq] at mem
    subst mem
    exact le_rfl

theorem get_last?_drop_of_lt {β : Type} {l : List β} {k : Nat} (short : k < l.length) :
    (l.drop k).getLast? = l.getLast? := by
  rw [List.getLast?_drop, if_neg (by omega)]

theorem lt_length_of_views_drop {x : BuffersSlice} {k : Nat} {w : List UInt8} {post : List (List UInt8)}
    (dropped : x.views.drop k = w :: post) : k < x.buffers.length := by
  have := congrArg List.length dropped
  rw [List.length_drop, length_views, List.length_cons] at this
  omega

theorem views_head {x : BuffersSlice} {w : List UInt8} {post : List (List UInt8)}
    (dropped : x.views.drop 0 = w :: post) :
    ∃ c, cutLast x.lastTo x.buffers = c :: post ∧ w = c.drop x.firstOff := by
  rw [List.drop_zero, views_eq] at dropped
  cases yielded : cutLast x.lastTo x.buffers with
  | nil => rw [yielded] at dropped; cases dropped
  | cons c R =>
      rw [yielded, List.modifyHead_cons] at dropped
      cases dropped
      exact ⟨c, rfl, rfl⟩

theorem valid_stop_at {x : BuffersSlice} (valid : x.Valid) {i j : Nat} {w : List UInt8}
    {post : List (List UInt8)} (dropped : x.views.drop i = w :: post) (short : j < w.length) :
    (x.stopAt i j w.length).Valid := by
  have inside := lt_length_of_views_drop dropped
  unfold stopAt
  split
  · refine ⟨?_, by simp⟩
    intro last mem
    rw [List.getLast?_drop] at mem
    split at mem
    · cases mem
    · exact valid.1 last mem
  · split
    · rename_i later
      refine ⟨fun last mem => valid.1 last (by rwa [get_last?_drop_of_lt inside] at mem), ?_⟩
      obtain ⟨i, rfl⟩ : ∃ i', i = i' + 1 := ⟨i - 1, by omega⟩
      intro first mem
      rw [cut_last_of_views_drop dropped] at mem
      cases mem
      dsimp only
      omega
    · have first : i = 0 := by omega
      subst first
      obtain ⟨c, yielded, rfl⟩ := views_head dropped
      refine ⟨valid.1, ?_⟩
      intro first mem
      rw [yielded] at mem
      cases mem
      simp only [List.length_drop] at short
      dsimp only
      omega

theorem valid_bytes_seq {σ τ : Type} {x : BuffersSlice} (valid : x.Valid) {f : σ → UInt8 → σ ⊕ τ} {s : σ}
    {r : τ} {x' : BuffersSlice} (stopped : x.bytesSeq f s = .inr (r, x')) : x'.Valid := by
  have fed := feed_views_spec f x.views s 0
  unfold bytesSeq at stopped
  cases inViews : feedViews f s 0 x.views with
  | inl s' => rw [inViews] at stopped; cases stopped
  | inr p =>
      obtain ⟨r', i, j, len⟩ := p
      rw [inViews] at fed stopped
      cases stopped
      obtain ⟨k, w, post, rfl, dropped, rfl, short, -⟩ := fed
      rw [Nat.zero_add]
      exact valid_stop_at valid dropped short

theorem head_cut_last_of_two {t : Nat} {bs : List (List UInt8)} (two : 2 ≤ bs.length) :
    (cutLast t bs).head? = bs.head? := by
  match bs, two with
  | _ :: _ :: _, _ => rfl

theorem valid_move_from_rest {x : BuffersSlice} (valid : x.Valid) {k n : Nat} {b : List UInt8}
    {rest : List (List UInt8)} (dropped : x.views.drop k = b :: rest) (fits : n ≤ b.length) :
    (⟨x.buffers.drop k, if (x.buffers.take (k + 1)).length = 1 then n + x.firstOff else n, x.lastTo⟩ :
      BuffersSlice).Valid := by
  have inside := lt_length_of_views_drop dropped
  refine ⟨fun last mem => valid.1 last (by rwa [get_last?_drop_of_lt inside] at mem), ?_⟩
  intro first mem
  cases k with
  | zero =>
      obtain ⟨c, yielded, rfl⟩ := views_head dropped
      have single : (x.buffers.take 1).length = 1 := by rw [List.length_take]; omega
      have within := valid.2 c (by rw [yielded]; rfl)
      rw [List.drop_zero, yielded] at mem
      cases mem
      simp only [List.length_drop] at fits
      dsimp only
      rw [if_pos single]
      omega
  | succ k =>
      have several : (x.buffers.take (k + 2)).length ≠ 1 := by rw [List.length_take]; omega
      rw [cut_last_of_views_drop dropped] at mem
      cases mem
      dsimp only
      rw [if_neg several]
      exact fits

theorem valid_move_from_cut {x : BuffersSlice} (valid : x.Valid) {k n : Nat} {b : List UInt8}
    {rest : List (List UInt8)} (dropped : x.views.drop k = b :: rest) (fits : n ≤ b.length) :
    (⟨x.buffers.take (k + 1), x.firstOff,
        if (x.buffers.take (k + 1)).length = 1 then n + x.firstOff else n⟩ : BuffersSlice).Valid := by
  have inside := lt_length_of_views_drop dropped
  cases k with
  | zero =>
      obtain ⟨c, yielded, rfl⟩ := views_head dropped
      have within := valid.2 c (by rw [yielded]; rfl)
      simp only [List.length_drop] at fits
      cases buffered : x.buffers with
      | nil => rw [buffered] at inside; cases inside
      | cons d ds =>
          rw [buffered] at yielded
          have shorter : c.length ≤ d.length := by
            rcases cut_last_head yielded with rfl | rfl
            · exact le_rfl
            · rw [List.length_take]; omega
          simp only [List.take_succ_cons, List.take_zero, List.length_singleton, if_true]
          refine ⟨?_, ?_⟩
          · intro last mem
            simp only [List.getLast?_singleton, Option.mem_def, Option.some.injEq] at mem
            subst mem
            dsimp only
            omega
          · intro first mem
            cases mem
            simp only [List.length_take]
            omega
  | succ k =>
      have yielded := cut_last_of_views_drop dropped
      obtain ⟨d, ds, tail⟩ : ∃ d ds, x.buffers.drop (k + 1) = d :: ds := by
        cases buffered : x.buffers.drop (k + 1) with
        | nil => rw [buffered] at yielded; cases yielded
        | cons d ds => exact ⟨d, ds, rfl⟩
      rw [tail] at yielded
      have long : k + 1 < x.buffers.length := by
        have := congrArg List.length tail
        simp only [List.length_drop, List.length_cons] at this
        omega
      have several : (x.buffers.take (k + 2)).length ≠ 1 := by rw [List.length_take]; omega
      have shorter : b.length ≤ d.length := by
        rcases cut_last_head yielded with rfl | rfl
        · exact le_rfl
        · rw [List.length_take]; omega
      rw [if_neg several]
      refine ⟨?_, ?_⟩
      · intro last mem
        rw [take_succ_of_drop tail, List.getLast?_append_of_ne_nil _ (by simp)] at mem
        simp only [List.getLast?_singleton, Option.mem_def, Option.some.injEq] at mem
        subst mem
        dsimp only
        omega
      · intro first mem
        have two : 2 ≤ (x.buffers.take (k + 2)).length := by rw [List.length_take]; omega
        rw [head_cut_last_of_two two, List.head?_take, if_neg (by omega),
          ← head_cut_last_of_two (t := x.lastTo) (by omega)] at mem
        exact valid.2 first mem

theorem valid_move_from {x : BuffersSlice} (valid : x.Valid) (L : List (List UInt8)) (k n : Nat)
    (dropped : x.views.drop k = L) {sub rest : BuffersSlice} (moved : x.moveFrom k n L = some (sub, rest)) :
    sub.Valid ∧ rest.Valid := by
  induction L generalizing k n with
  | nil => cases moved
  | cons b others ih =>
      have later : x.views.drop (k + 1) = others := by rw [← List.drop_drop, dropped]; rfl
      by_cases short : b.length < n
      · rw [moveFrom, if_pos short] at moved
        exact ih (k + 1) (n - b.length) later moved
      · rw [moveFrom, if_neg short] at moved
        cases moved
        have fits : n ≤ b.length := by omega
        exact ⟨valid_move_from_cut valid dropped fits, valid_move_from_rest valid dropped fits⟩

theorem valid_move_next {x : BuffersSlice} (valid : x.Valid) {n : Nat} {sub rest : BuffersSlice}
    (moved : x.moveNext n = some (sub, rest)) : sub.Valid ∧ rest.Valid := by
  unfold moveNext at moved
  split at moved
  · split at moved
    · cases moved
      exact ⟨⟨by simp [zero], by simp [zero, cutLast]⟩, valid⟩
    · cases moved
  · exact valid_move_from valid x.views 0 n rfl moved

/-- `WriteTo` into any writer: each view is written in turn until a write fails. -/
def writeToWriter {σ : Type} (x : BuffersSlice) (w : Go.Writer σ) (s : σ) : σ × List UInt8 × Nat × Option Go.IOError :=
  Go.writeEach w s x.views

theorem write_to_flatten (x : BuffersSlice) : x.writeTo.flatten = x.data := rfl

theorem move_next_method_of_le {x : BuffersSlice} {n : Nat} (fits : n ≤ x.data.length) :
    (x.moveNextMethod n).2.1 = true ∧ (x.moveNextMethod n).1.data = x.data.take n ∧
      (x.moveNextMethod n).2.2.data = x.data.drop n := by
  have split := move_next_data x n
  rw [splitList, if_pos fits] at split
  rcases moved : x.moveNext n with _ | ⟨sub, rest⟩
  · rw [moved] at split
    cases split
  · rw [moved] at split
    simp only [Option.map_some, Prod.map_apply, Option.some.injEq, Prod.mk.injEq] at split
    simp only [moveNextMethod, moved, split, and_self]

end BuffersSlice

end NeoFS.Proto
