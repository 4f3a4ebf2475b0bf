import NeoFS.Client.PayloadReader

set_option autoImplicit false

/- What a requested range selects of a payload, against what resolvedRangeLength computes in
   uint64. A suffix range always agrees; a range from a position, or between two positions,
   agrees until its start lies past the end of what it selects, where the subtraction wraps and
   the reader's int(...) of the length turns negative. -/
namespace NeoFS.Client

open Proto Go

-- The payload bytes an extended range selects of a payload of `payloadLen` bytes: the positions
-- from `first` to `last` that exist, every position from `first` on, or the last `last` bytes.
def selectedLength (first last : Option Nat) (payloadLen : Nat) : Option Nat :=
  match first, last with
  | some first, some last => some (if payloadLen = 0 then 0 else min last (payloadLen - 1) + 1 - first)
  | some first, none => some (payloadLen - first)
  | none, some last => some (min last payloadLen)
  | none, none => none

theorem resolved_range_length_suffix (last payloadLen : UInt64) :
    (resolvedRangeLength none (some ⟨none, some last⟩) payloadLen).map UInt64.toNat =
      selectedLength none (some last.toNat) payloadLen.toNat := by
  simp only [resolvedRangeLength, selectedLength, Option.map_some, Option.some.injEq]
  split_ifs with longer
  · have := UInt64.lt_iff_toNat_lt.mp longer
    omega
  · have := UInt64.lt_iff_toNat_lt.not.mp longer
    omega

theorem resolved_range_length_from (first payloadLen : UInt64) :
    (resolvedRangeLength none (some ⟨some first, none⟩) payloadLen).map UInt64.toNat =
        selectedLength (some first.toNat) none payloadLen.toNat ↔ first ≤ payloadLen := by
  simp only [resolvedRangeLength, selectedLength, Option.map_some, Option.some.injEq, UInt64.toNat_sub,
    UInt64.le_iff_toNat_le]
  have firstFits := first.toNat_lt
  have lenFits := payloadLen.toNat_lt
  constructor
  · intro same
    by_contra past
    -- past the end the difference wraps to a positive number where nothing is selected
    rw [Nat.mod_eq_of_lt (by omega)] at same
    omega
  · intro within
    rw [show 2 ^ 64 - first.toNat + payloadLen.toNat = (payloadLen.toNat - first.toNat) + 2 ^ 64 by omega,
      Nat.add_mod_right, Nat.mod_eq_of_lt (by omega)]

theorem last_pos_to_nat {last payloadLen : UInt64} (nonempty : payloadLen ≠ 0) :
    (if last ≥ payloadLen then payloadLen - 1 else last).toNat = min last.toNat (payloadLen.toNat - 1) := by
  have positive : 0 < payloadLen.toNat := by
    have := UInt64.toNat_inj.not.mpr nonempty
    simp only [UInt64.toNat_zero] at this
    omega
  split_ifs with longer
  · rw [UInt64.toNat_sub_of_le _ _ (UInt64.le_iff_toNat_le.mpr (by rw [UInt64.toNat_one]; omega))]
    have := UInt64.le_iff_toNat_le.mp longer
    simp only [UInt64.toNat_one]
    omega
  · have := UInt64.le_iff_toNat_le.not.mp longer
    omega

theorem resolved_range_length_bounds (first last payloadLen : UInt64) :
    (resolvedRangeLength none (some ⟨some first, some last⟩) payloadLen).map UInt64.toNat =
        selectedLength (some first.toNat) (some last.toNat) payloadLen.toNat ↔
      if payloadLen = 0 then first = 0 else first.toNat ≤ min last.toNat (payloadLen.toNat - 1) + 1 := by
  simp only [resolvedRangeLength, selectedLength, Option.map_some, Option.some.injEq]
  have firstFits := first.toNat_lt
  by_cases empty : payloadLen = 0
  · -- the last position is 0 - 1, and the length 2^64 - first wraps to 0 only from position 0
    subst empty
    have top : ((0 : UInt64) - 1).toNat = 2 ^ 64 - 1 := by decide
    rw [if_pos (UInt64.zero_le : (0 : UInt64) ≤ last), if_pos rfl, UInt64.toNat_zero, if_pos rfl, UInt64.toNat_add, UInt64.toNat_sub, top,
      UInt64.toNat_one, ← UInt64.toNat_inj, UInt64.toNat_zero]
    omega
  · rw [if_neg empty, UInt64.toNat_add, UInt64.toNat_sub, last_pos_to_nat empty, UInt64.toNat_one]
    have lenFits := payloadLen.toNat_lt
    have lastBelow : min last.toNat (payloadLen.toNat - 1) ≤ payloadLen.toNat - 1 := Nat.min_le_right _ _
    have nonzero : payloadLen.toNat ≠ 0 := fun zero => empty (UInt64.toNat_inj.mp (by simpa using zero))
    simp only [nonzero, if_false]
    omega

theorem read_header_remaining_payload_len {headerID : HeaderPart → ObjectID} {decodeErr : Option IOError}
    {x x' : PayloadReader} {objectId : ObjectID} {hdr : HeaderPart} {signed : Bool} (ranged : x.hasRange = true)
    (read : x.readHeader headerID decodeErr (.init (some objectId) (some hdr) signed) = some (true, x')) :
    ∃ n, resolvedRangeLength x.rng x.extendedRange hdr.payloadLength = some n ∧ x'.remainingPayloadLen = n.toInt64 := by
  unfold PayloadReader.readHeader at read
  simp only [ranged, Bool.not_true, Bool.false_eq_true, if_false] at read
  cases resolved : resolvedRangeLength x.rng x.extendedRange hdr.payloadLength with
  | none => split_ifs at read <;> simp [resolved] at read
  | some n =>
      refine ⟨n, rfl, ?_⟩
      simp only [resolved, Option.map_some] at read
      -- only the two outcomes that return true are left, and both keep the length they set
      split_ifs at read <;> (try split at read) <;>
        simp only [Option.some.injEq, Prod.mk.injEq, Bool.false_eq_true, false_and, true_and] at read <;>
        rw [← read]

/- A range that starts past the end of a 10-byte payload selects nothing, but its resolved length
   is 2^64 - 10, which the reader holds as -10: the stream then ends without payload, as it should,
   and the first Read reports an overflow. -/

theorem readHeader_wraps_range_past_end (sha256 : List UInt8 → List UInt8) (headerID : HeaderPart → ObjectID) :
    resolvedRangeLength none (some ⟨some 20, some 30⟩) 10 = some 18446744073709551606 ∧
      selectedLength (some 20) (some 30) 10 = some 0 ∧
      ∃ x, (newPayloadReader ObjectID.zero none (some ⟨some 20, some 30⟩) false false [] .eof).readHeader headerID none
          (.init (some ObjectID.zero) (some ⟨10, none, []⟩) true) = some (true, x) ∧
        x.remainingPayloadLen < 0 ∧ (x.read sha256 1).1 = (0, [], some errPayloadSizeOverflow) :=
  ⟨rfl, rfl, _, rfl, by decide,
    PayloadReader.read_overflow_of_negative sha256 1 rfl rfl (by decide) (fun verify => by cases verify)⟩

end NeoFS.Client
