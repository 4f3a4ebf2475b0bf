import NeoFS.Lib.Varint
import NeoFS.Proto.Buffers
import NeoFS.Proto.Parsers

set_option autoImplicit false

/- What a BuffersSlice reads agrees with the byte-slice functions of the package: MoveNext cuts
   the bytes as a list is cut, and parseUvarint, which follows binary.Uvarint, reads the value
   ParseVarint (protowire.ConsumeVarint) reads. They fail on the same inputs, but not always
   in the same way: after ten bytes that all have the continuation bit, parseUvarint reports
   the end of the data where ConsumeVarint reports an overflow. -/
namespace NeoFS.Proto

open Lib.Reader Lib.Varint

-- What parseUvarint's loop returns, and what ConsumeVarint from byte k reads: the value and the
-- bytes after it, or nothing on a failure of either kind.
def uvarintResult : UvarintState ⊕ (Except String UInt64 × List UInt8) → Option (UInt64 × List UInt8)
  | .inr (.ok u, rest) => some (u, rest)
  | _ => none

def consumedFrom (k : Nat) (bs : List UInt8) (r : UInt64 × Int) : Option (UInt64 × List UInt8) :=
  if r.2 < 0 then none else some (r.1, bs.drop (r.2.toNat - k))

theorem consume_varint_from_count : ∀ (bs : List UInt8) (k : Nat) (v : UInt64),
    (consumeVarintFrom k v bs).2 < 0 ∨ k + 1 ≤ (consumeVarintFrom k v bs).2
  | [], _, _ => .inl (by simp [consumeVarintFrom, errCodeTruncated])
  | y :: rest, k, v => by
      unfold consumeVarintFrom
      by_cases last : k = 9
      · rw [if_pos last]
        split_ifs
        · exact .inr (by dsimp only; omega)
        · exact .inl (by decide)
      · rw [if_neg last]
        dsimp only
        split_ifs
        · exact .inr (by dsimp only; omega)
        · rcases consume_varint_from_count rest (k + 1) (v + y.toUInt64 <<< (7 * k).toUInt64 - 0x80 <<< (7 * k).toUInt64) with
            failed | counted
          · exact .inl failed
          · exact .inr (by omega)

theorem consumed_from_cons {k : Nat} {y : UInt8} {rest : List UInt8} {r : UInt64 × Int}
    (count : r.2 < 0 ∨ k + 1 + 1 ≤ r.2) : consumedFrom k (y :: rest) r = consumedFrom (k + 1) rest r := by
  unfold consumedFrom
  split_ifs with failed
  · rfl
  · have : r.2.toNat - k = (r.2.toNat - (k + 1)) + 1 := by omega
    rw [this, List.drop_succ_cons]

theorem uvarint_tenth_fails (u : UInt64) (s : Nat) (rest : List UInt8) :
    uvarintResult (feedList uvarintStep ⟨u, s, 10⟩ rest) = none := by
  cases rest with
  | nil => rfl
  | cons z more => rfl

theorem byte_to_nat_lt (y : UInt8) : y.toUInt64.toNat < 2 ^ 8 := by
  have := y.toNat_lt
  simpa using this

theorem continuation_or_to_nat {u : UInt64} {y : UInt8} {s : Nat} (shift : s + 8 ≤ 64) (low : u.toNat < 2 ^ s)
    (high : ¬ y < 0x80) :
    (u ||| (y &&& 0x7f).toUInt64 <<< s.toUInt64).toNat = u.toNat + (y.toNat - 128) * 2 ^ s := by
  have big : 128 ≤ y.toNat := by simpa [UInt8.lt_iff_toNat_lt] using high
  have seven : (y &&& 0x7f).toUInt64.toNat = y.toNat - 128 := by
    simp only [UInt8.toNat_toUInt64, UInt8.toNat_and]
    rw [show (0x7f : UInt8).toNat = 2 ^ 7 - 1 from rfl, Nat.and_two_pow_sub_one_eq_mod]
    have := y.toNat_lt
    omega
  have lowFits : u.toNat + (y &&& 0x7f).toUInt64.toNat * 2 ^ s < 2 ^ (s + 7) :=
    add_mul_pow_lt low (by rw [seven]; have := y.toNat_lt; omega)
  rw [(or_shift_left_to_nat (by omega) low (lt_of_lt_of_le lowFits (Nat.pow_le_pow_right (by omega) (by omega)))).1,
    seven]

theorem continuation_step {u : UInt64} {y : UInt8} {s : Nat} (shift : s + 8 ≤ 64) (low : u.toNat < 2 ^ s)
    (high : ¬ y < 0x80) :
    u + y.toUInt64 <<< s.toUInt64 - 0x80 <<< s.toUInt64 = u ||| (y &&& 0x7f).toUInt64 <<< s.toUInt64 ∧
      (u ||| (y &&& 0x7f).toUInt64 <<< s.toUInt64).toNat < 2 ^ (s + 7) := by
  have big : 128 ≤ y.toNat := by simpa [UInt8.lt_iff_toNat_lt] using high
  have yNat : y.toUInt64.toNat = y.toNat := by simp
  have joined := continuation_or_to_nat shift low high
  have sumFits : u.toNat + y.toUInt64.toNat * 2 ^ s < 2 ^ 64 :=
    lt_of_lt_of_le (add_mul_pow_lt low (byte_to_nat_lt y)) (Nat.pow_le_pow_right (by omega) shift)
  have below : 128 * 2 ^ s ≤ y.toNat * 2 ^ s := Nat.mul_le_mul_right _ big
  have sum : (u + y.toUInt64 <<< s.toUInt64).toNat = u.toNat + y.toNat * 2 ^ s := by
    rw [(or_shift_left_to_nat (by omega) low sumFits).2, yNat]
  have bit : ((0x80 : UInt64) <<< s.toUInt64).toNat = 128 * 2 ^ s :=
    shift_left_to_nat 0x80 (by omega) (by rw [yNat] at sumFits; exact lt_of_le_of_lt (by simp; omega) sumFits)
  refine ⟨UInt64.toNat_inj.mp ?_, ?_⟩
  · rw [UInt64.toNat_sub_of_le _ _ (UInt64.le_iff_toNat_le.mpr (by rw [sum, bit]; omega)), sum, bit, joined,
      Nat.sub_mul]
    omega
  · rw [joined]
    exact add_mul_pow_lt low (by have := y.toNat_lt; omega)

theorem uvarint_step_done {st : UvarintState} {y : UInt8} (short : st.i ≠ maxVarintLen64) (last : y < 0x80)
    (fits : ¬ (st.i = maxVarintLen64 - 1 ∧ 1 < y)) :
    uvarintStep st y = .inr (.ok (st.u ||| y.toUInt64 <<< st.s.toUInt64)) := by
  rw [uvarintStep, if_neg short, if_pos last, if_neg fits]

theorem uvarint_step_continue {st : UvarintState} {y : UInt8} (short : st.i ≠ maxVarintLen64) (more : ¬ y < 0x80) :
    uvarintStep st y = .inl ⟨st.u ||| (y &&& 0x7f).toUInt64 <<< st.s.toUInt64, st.s + 7, st.i + 1⟩ := by
  rw [uvarintStep, if_neg short, if_neg more]

theorem uvarint_loop_agrees : ∀ (bs : List UInt8) (i : Nat) (u : UInt64), i ≤ 9 → u.toNat < 2 ^ (7 * i) →
    uvarintResult (feedList uvarintStep ⟨u, 7 * i, i⟩ bs) = consumedFrom i bs (consumeVarintFrom i u bs)
  | [], i, u, _, _ => by simp [uvarintResult, feedList, consumedFrom, consumeVarintFrom, errCodeTruncated]
  | y :: rest, i, u, within, low => by
      have short : i ≠ maxVarintLen64 := by unfold maxVarintLen64; omega
      by_cases tenth : i = 9
      · subst tenth
        by_cases bit : y < 2
        · -- a last byte of 0 or 1 ends the number
          have last : y < 0x80 := UInt8.lt_iff_toNat_lt.mpr (lt_trans (UInt8.lt_iff_toNat_lt.mp bit) (by decide))
          have fits : ¬ (9 = maxVarintLen64 - 1 ∧ 1 < y) := fun tooBig =>
            absurd (UInt8.lt_iff_toNat_lt.mp bit) (by have := UInt8.lt_iff_toNat_lt.mp tooBig.2; simp at this ⊢; omega)
          have bitNat : y.toUInt64.toNat < 2 ^ 1 := by
            have := UInt8.lt_iff_toNat_lt.mp bit
            simp at this ⊢
            omega
          have sum := or_shift_left_to_nat (s := 63) (c := y.toUInt64) (by omega) low
            (lt_of_lt_of_le (add_mul_pow_lt low bitNat) (by norm_num))
          rw [feed_list_cons_inr rest (uvarint_step_done short last fits), consumeVarintFrom, if_pos rfl, if_pos bit]
          simp only [uvarintResult, consumedFrom]
          have same : u ||| y.toUInt64 <<< (7 * 9).toUInt64 = u + y.toUInt64 <<< 63 :=
            UInt64.toNat_inj.mp (sum.1.trans sum.2.symm)
          rw [same]
          rfl
        · rw [consumeVarintFrom, if_pos rfl, if_neg bit]
          simp only [consumedFrom]
          rw [if_pos (by decide)]
          by_cases last : y < 0x80
          · have tooBig : 9 = maxVarintLen64 - 1 ∧ 1 < y := ⟨rfl, by
              have := UInt8.lt_iff_toNat_lt.not.mp bit
              exact UInt8.lt_iff_toNat_lt.mpr (by simp at this ⊢; omega)⟩
            rw [feed_list_cons_inr rest (by rw [uvarintStep, if_neg short, if_pos last, if_pos tooBig])]
            rfl
          · rw [feed_list_cons_inl rest (uvarint_step_continue short last)]
            exact uvarint_tenth_fails _ _ rest
      · have earlier : i + 1 ≤ 9 := by omega
        have fits : ¬ (i = maxVarintLen64 - 1 ∧ 1 < y) := fun tooBig =>
          tenth (by have nine := tooBig.1; unfold maxVarintLen64 at nine; omega)
        rw [consumeVarintFrom, if_neg tenth]
        dsimp only
        by_cases last : y < 0x80
        · -- a byte without the high bit ends the number
          have sum := or_shift_left_to_nat (s := 7 * i) (c := y.toUInt64) (by omega) low
            (lt_of_lt_of_le (add_mul_pow_lt low (byte_to_nat_lt y)) (Nat.pow_le_pow_right (by omega) (by omega)))
          rw [feed_list_cons_inr rest (uvarint_step_done short last fits), if_pos last]
          simp only [uvarintResult, consumedFrom]
          rw [if_neg (by omega), show ((i : Int) + 1).toNat - i = 1 by omega, List.drop_one, List.tail_cons,
            UInt64.toNat_inj.mp (sum.1.trans sum.2.symm)]
        · -- a byte with the high bit goes on with the next one
          obtain ⟨same, below⟩ := continuation_step (s := 7 * i) (by omega) low last
          rw [feed_list_cons_inl rest (uvarint_step_continue short last), if_neg last, same,
            consumed_from_cons ?_, show 7 * i + 7 = 7 * (i + 1) by ring]
          · exact uvarint_loop_agrees rest (i + 1) _ earlier (by rw [show 7 * (i + 1) = 7 * i + 7 by ring]; exact below)
          · rcases consume_varint_from_count rest (i + 1) (u ||| (y &&& 0x7f).toUInt64 <<< (7 * i).toUInt64) with
              failed | counted
            · exact .inl failed
            · exact .inr (by omega)

theorem parse_uvarint_to_option (bs : List UInt8) :
    (parseUvarint bs).toOption = uvarintResult (feedList uvarintStep ⟨0, 0, 0⟩ bs) := by
  unfold parseUvarint
  rw [feed_list]
  cases feedList uvarintStep ⟨0, 0, 0⟩ bs with
  | inl s => rfl
  | inr p =>
      obtain ⟨r, rest⟩ := p
      cases r <;> rfl

theorem parse_varint_to_option (bs : List UInt8) :
    (parseVarint bs).toOption.map (fun r => (r.1, bs.drop r.2)) = consumedFrom 0 bs (consumeVarint bs) := by
  unfold parseVarint consumedFrom
  obtain ⟨u, n⟩ := consumeVarint bs
  dsimp only
  split_ifs <;> rfl

theorem parse_uvarint_agrees (bs : List UInt8) :
    (parseUvarint bs).toOption = (parseVarint bs).toOption.map fun r => (r.1, bs.drop r.2) := by
  rw [parse_uvarint_to_option, parse_varint_to_option]
  exact uvarint_loop_agrees bs 0 0 (by omega) (by decide)

theorem to_option_map {ε α β : Type} (e : Except ε α) (f : α → β) : (e.map f).toOption = e.toOption.map f := by
  cases e <;> rfl

theorem moveNext_parseUvarint_spec (x : BuffersSlice) (valid : x.Valid) (n : Nat) :
    ((x.moveNextMethod n).2.1 = true ↔ n ≤ x.len) ∧
      ((x.moveNextMethod n).2.1 = true → (x.moveNextMethod n).1.data = x.data.take n ∧
        (x.moveNextMethod n).2.2.data = x.data.drop n ∧ (x.moveNextMethod n).1.Valid ∧
        (x.moveNextMethod n).2.2.Valid) ∧
      ((x.moveNextMethod n).2.1 = false → (x.moveNextMethod n).2.2 = x) ∧
      (parseUvarint x).toOption.map (Prod.map id BuffersSlice.data) =
        (parseVarint x.data).toOption.map fun r => (r.1, x.data.drop r.2) := by
  have cut := BuffersSlice.move_next_data x n
  have reads : (parseUvarint x).toOption.map (Prod.map id BuffersSlice.data) =
      (parseVarint x.data).toOption.map fun r => (r.1, x.data.drop r.2) := by
    rw [← to_option_map, parse_uvarint_refines BuffersSlice.refines, parse_uvarint_agrees]
  unfold BuffersSlice.moveNextMethod
  cases moved : x.moveNext n with
  | none =>
      rw [moved, Option.map_none, splitList] at cut
      split_ifs at cut with enough
      refine ⟨?_, (fun nope => by cases nope), fun _ => rfl, reads⟩
      rw [BuffersSlice.len_eq]
      simp only [Bool.false_eq_true, false_iff]
      exact enough
  | some parts =>
      obtain ⟨sub, rest⟩ := parts
      rw [moved, Option.map_some, splitList] at cut
      split_ifs at cut with enough
      simp only [Prod.map, Option.some.injEq, Prod.mk.injEq] at cut
      obtain ⟨subValid, restValid⟩ := BuffersSlice.valid_move_next valid moved
      refine ⟨by simpa [BuffersSlice.len_eq] using enough, fun _ => ⟨cut.1, cut.2, subValid, restValid⟩,
        (fun nope => by cases nope), reads⟩

theorem moveNext_parseUvarint_two_buffers :
    (BuffersSlice.new [[0x96, 0x01], [7]]).Valid ∧
      ((((BuffersSlice.new [[0x96, 0x01], [7]]).moveNextMethod 2).2.1 = true ↔ 2 ≤ (BuffersSlice.new [[0x96, 0x01], [7]]).len) ∧
        (((BuffersSlice.new [[0x96, 0x01], [7]]).moveNextMethod 2).2.1 = true →
          ((BuffersSlice.new [[0x96, 0x01], [7]]).moveNextMethod 2).1.data = (BuffersSlice.new [[0x96, 0x01], [7]]).data.take 2 ∧
          ((BuffersSlice.new [[0x96, 0x01], [7]]).moveNextMethod 2).2.2.data = (BuffersSlice.new [[0x96, 0x01], [7]]).data.drop 2 ∧
          ((BuffersSlice.new [[0x96, 0x01], [7]]).moveNextMethod 2).1.Valid ∧
          ((BuffersSlice.new [[0x96, 0x01], [7]]).moveNextMethod 2).2.2.Valid) ∧
        (((BuffersSlice.new [[0x96, 0x01], [7]]).moveNextMethod 2).2.1 = false →
          ((BuffersSlice.new [[0x96, 0x01], [7]]).moveNextMethod 2).2.2 = BuffersSlice.new [[0x96, 0x01], [7]]) ∧
        (parseUvarint (BuffersSlice.new [[0x96, 0x01], [7]])).toOption.map (Prod.map id BuffersSlice.data) =
          (parseVarint (BuffersSlice.new [[0x96, 0x01], [7]]).data).toOption.map
            fun r => (r.1, (BuffersSlice.new [[0x96, 0x01], [7]]).data.drop r.2)) :=
  ⟨BuffersSlice.valid_new _, moveNext_parseUvarint_spec _ (BuffersSlice.valid_new _) 2⟩

-- Ten bytes with the continuation bit and nothing after them: parseUvarint runs out of data,
-- while ConsumeVarint rejects the tenth byte as an overflow.
theorem parseUvarint_eof_where_parseVarint_overflows :
    parseUvarint (BuffersSlice.new [List.replicate 10 0x80]) = .error errUnexpectedEOF ∧
      parseVarint (BuffersSlice.new [List.replicate 10 0x80]).data = .error (protowireParseError errCodeOverflow) ∧
      errUnexpectedEOF ≠ protowireParseError errCodeOverflow := by
  decide

end NeoFS.Proto
