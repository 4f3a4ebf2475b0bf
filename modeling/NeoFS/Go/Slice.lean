import Mathlib.Data.List.TakeDrop

set_option autoImplicit false

/- Go slices of one backing array, as the list of the array's elements: a slice expression
   s[lo:hi] reads a range of it, copy writes into a range, and append writes in place while the
   capacity lasts. -/
namespace NeoFS.Go

variable {α : Type}

-- `copy(dst[off:], src)`: as many elements of src as fit are written from off on.
def copyAt (dst : List α) (off : Nat) (src : List α) : List α :=
  dst.take off ++ src.take (dst.length - off) ++ dst.drop (off + src.length)

-- The elements of `s[lo:hi]`.
def slice (xs : List α) (lo hi : Nat) : List α := (xs.take hi).drop lo

-- `append(buf[start:start+len], src...)` where the slice's capacity runs to the end of buf: the
-- elements go into buf when they fit, and otherwise into a new array, leaving buf as it was.
def appendInPlace (buf : List α) (start len : Nat) (src : List α) : List α :=
  if start + len + src.length ≤ buf.length then copyAt buf (start + len) src else buf

section Lemmas

variable {dst src xs : List α} {off lo hi : Nat}

theorem copy_at_of_fits (fits : off + src.length ≤ dst.length) :
    copyAt dst off src = dst.take off ++ src ++ dst.drop (off + src.length) := by
  rw [copyAt, List.take_of_length_le (l := src) (by omega)]

theorem length_copy_at (inside : off ≤ dst.length) : (copyAt dst off src).length = dst.length := by
  simp only [copyAt, List.length_append, List.length_take, List.length_drop]
  omega

theorem length_slice : (slice xs lo hi).length = min hi xs.length - lo := by
  simp [slice]

theorem take_copy_at {k : Nat} (before : k ≤ off) (inside : off ≤ dst.length) :
    (copyAt dst off src).take k = dst.take k := by
  rw [copyAt, List.append_assoc, List.take_append_of_le_length (by simp; omega), List.take_take,
    Nat.min_eq_left before]

theorem slice_eq_take_drop : slice xs lo hi = (xs.drop lo).take (hi - lo) :=
  List.drop_take

theorem slice_append_slice {mid : Nat} (first : lo ≤ mid) (second : mid ≤ hi) :
    slice xs lo mid ++ slice xs mid hi = slice xs lo hi := by
  have shift : xs.drop mid = (xs.drop lo).drop (mid - lo) := by
    rw [List.drop_drop, Nat.add_sub_cancel' first]
  rw [slice_eq_take_drop, slice_eq_take_drop, slice_eq_take_drop, shift, ← List.take_add]
  congr 1
  omega

theorem slice_append_of_le {ys : List α} (after : xs.length ≤ lo) :
    slice (xs ++ ys) lo hi = slice ys (lo - xs.length) (hi - xs.length) := by
  rw [slice_eq_take_drop, slice_eq_take_drop, List.drop_append, List.drop_eq_nil_of_le after, List.nil_append]
  congr 1
  omega

theorem slice_copy_at_self (fits : off + src.length ≤ dst.length) :
    slice (copyAt dst off src) off (off + src.length) = src := by
  have front : (dst.take off).length = off := by
    rw [List.length_take]
    omega
  rw [copy_at_of_fits fits, slice_eq_take_drop, List.append_assoc, List.drop_left' front,
    Nat.add_sub_cancel_left, List.take_left' rfl]

theorem slice_copy_at_of_le (before : hi ≤ off) (inside : off ≤ dst.length) :
    slice (copyAt dst off src) lo hi = slice dst lo hi := by
  rw [slice, slice, take_copy_at before inside]

theorem slice_copy_at_of_ge (fits : off + src.length ≤ dst.length) (after : off + src.length ≤ lo) :
    slice (copyAt dst off src) lo hi = slice dst lo hi := by
  have front : (dst.take off ++ src).length = off + src.length := by
    simp only [List.length_append, List.length_take]
    omega
  have split : dst = dst.take (off + src.length) ++ dst.drop (off + src.length) :=
    (List.take_append_drop _ _).symm
  have frontLength : (dst.take (off + src.length)).length = off + src.length := by
    simp only [List.length_take]
    omega
  rw [copy_at_of_fits fits, slice_append_of_le (by omega), front]
  conv_rhs => rw [split, slice_append_of_le (by omega), frontLength]

theorem slice_copy_at_copy_at {first second : List α} {start stop : Nat}
    (ends : start + first.length + second.length = off) (inside : off ≤ stop) (fits : stop ≤ dst.length) :
    slice (copyAt (copyAt dst start first) (start + first.length) second) off stop = slice dst off stop ∧
      slice (copyAt (copyAt dst start first) (start + first.length) second) start stop =
        first ++ second ++ slice dst off stop := by
  have once : (copyAt dst start first).length = dst.length := length_copy_at (by omega)
  have kept : slice (copyAt (copyAt dst start first) (start + first.length) second) off stop = slice dst off stop := by
    rw [slice_copy_at_of_ge (by omega) (by omega), slice_copy_at_of_ge (by omega) (by omega)]
  have firstPart : slice (copyAt (copyAt dst start first) (start + first.length) second) start
      (start + first.length) = first := by
    rw [slice_copy_at_of_le (Nat.le_refl _) (by omega), slice_copy_at_self (by omega)]
  have secondPart : slice (copyAt (copyAt dst start first) (start + first.length) second) (start + first.length)
      off = second := by
    rw [← ends, slice_copy_at_self (by omega)]
  refine ⟨kept, ?_⟩
  rw [← slice_append_slice (by omega : start ≤ start + first.length) (by omega : start + first.length ≤ stop),
    ← slice_append_slice (by omega : start + first.length ≤ off) inside, firstPart, secondPart, kept,
    List.append_assoc]

theorem append_in_place_of_fits {buf : List α} {start len : Nat} (fits : start + len + src.length ≤ buf.length) :
    appendInPlace buf start len src = copyAt buf (start + len) src :=
  if_pos fits

end Lemmas

end NeoFS.Go
