import NeoFS.Proto.Scan
import NeoFS.Proto.SliceReads

set_option autoImplicit false

/- The bytes protoscan accepts, written as a grammar of their own: varints as decoders read
   them, a field as a tag and a value of the type its scheme declares, a message as fields one
   after another, nested messages under the scheme their field names. Each parser of
   parsers.go succeeds exactly on the bytes the grammar gives its value. -/
namespace NeoFS.Proto

open Lib Lib.Reader Lib.Varint

section Tokens

def Uvarint (v : Nat) (bs : List UInt8) : Prop := Encodes v bs ∧ bs.length ≤ maxVarintLen64 ∧ v < 2 ^ 64

def Tag (num typ : Nat) (bs : List UInt8) : Prop :=
  typ < 8 ∧ isValidNumber num = true ∧ Uvarint (num * 8 + typ) bs

end Tokens

section Varints

theorem feed_list_uvarint_encodes {v : Nat} {bs : List UInt8} (token : Encodes v bs) (rest : List UInt8) :
    ∀ (i : Nat) (u : UInt64), i + bs.length ≤ maxVarintLen64 → u.toNat < 2 ^ (7 * i) →
      u.toNat + v * 2 ^ (7 * i) < 2 ^ 64 →
      feedList uvarintStep ⟨u, 7 * i, i⟩ (bs ++ rest) = .inr (.ok (UInt64.ofNat (u.toNat + v * 2 ^ (7 * i))), rest) := by
  induction token with
  | @last b small =>
      intro i u within low fits
      simp only [List.length_singleton, maxVarintLen64] at within
      have short : i ≠ maxVarintLen64 := by unfold maxVarintLen64; omega
      have last : b < 0x80 := UInt8.lt_iff_toNat_lt.mpr small
      -- the tenth byte may only carry the top bit
      have topBit : ¬ (i = maxVarintLen64 - 1 ∧ 1 < b) := by
        rintro ⟨nine, big⟩
        have two : 2 ≤ b.toNat := UInt8.lt_iff_toNat_lt.mp big
        unfold maxVarintLen64 at nine
        subst nine
        have : 2 * 2 ^ 63 ≤ b.toNat * 2 ^ (7 * 9) := Nat.mul_le_mul_right _ two
        omega
      have byte : b.toUInt64.toNat = b.toNat := by simp
      have sum := (or_shift_left_to_nat (s := 7 * i) (c := b.toUInt64) (by omega) low (by rw [byte]; exact fits)).1
      rw [List.singleton_append, feed_list_cons_inr rest (uvarint_step_done short last topBit)]
      congr
      apply UInt64.toNat_inj.mp
      rw [sum, byte, UInt64.toNat_ofNat_of_lt' fits]
  | @more b v bs big token ih =>
      intro i u within low fits
      have inner := token.length_pos
      simp only [List.length_cons, maxVarintLen64] at within
      have short : i ≠ maxVarintLen64 := by unfold maxVarintLen64; omega
      have high : ¬ b < 0x80 := fun small => by have := UInt8.lt_iff_toNat_lt.mp small; simp at this; omega
      obtain ⟨-, below⟩ := continuation_step (s := 7 * i) (by omega) low high
      have joined := continuation_or_to_nat (s := 7 * i) (by omega) low high
      have shift : 2 ^ (7 * (i + 1)) = 128 * 2 ^ (7 * i) := by rw [Nat.mul_succ, pow_add]; ring
      -- the value on top of the continuation byte is the rest of the number, seven bits up
      have total : (u ||| (b &&& 0x7f).toUInt64 <<< (7 * i).toUInt64).toNat + v * 2 ^ (7 * (i + 1)) =
          u.toNat + (b.toNat - 128 + 128 * v) * 2 ^ (7 * i) := by
        rw [joined, shift]
        ring
      rw [List.cons_append, feed_list_cons_inl _ (uvarint_step_continue short high),
        show 7 * i + 7 = 7 * (i + 1) by ring, ih (i + 1) _ (by unfold maxVarintLen64; omega)
          (by rw [show 7 * (i + 1) = 7 * i + 7 by ring]; exact below) (by rw [total]; exact fits), total]

theorem feed_list_uvarint_ok : ∀ (xs rest : List UInt8) (i : Nat) (u w : UInt64), i < maxVarintLen64 →
    u.toNat < 2 ^ (7 * i) → feedList uvarintStep ⟨u, 7 * i, i⟩ xs = .inr (.ok w, rest) →
      ∃ bs v, xs = bs ++ rest ∧ Encodes v bs ∧ i + bs.length ≤ maxVarintLen64 ∧
        u.toNat + v * 2 ^ (7 * i) < 2 ^ 64 ∧ w.toNat = u.toNat + v * 2 ^ (7 * i)
  | [], _, _, _, _, _, _, ran => by cases ran
  | y :: ys, rest, i, u, w, within, low, ran => by
      have short : i ≠ maxVarintLen64 := by omega
      unfold maxVarintLen64 at within
      by_cases last : y < 0x80
      · by_cases topBit : i = maxVarintLen64 - 1 ∧ 1 < y
        · rw [feed_list_cons_inr ys (by rw [uvarintStep, if_neg short, if_pos last, if_pos topBit])] at ran
          cases ran
        · -- a last byte ends the number
          rw [feed_list_cons_inr ys (uvarint_step_done short last topBit)] at ran
          simp only [Sum.inr.injEq, Prod.mk.injEq, Except.ok.injEq] at ran
          obtain ⟨rfl, rfl⟩ := ran
          have small : y.toNat < 128 := by simpa [UInt8.lt_iff_toNat_lt] using last
          have fits : u.toNat + y.toNat * 2 ^ (7 * i) < 2 ^ 64 := by
            by_cases nine : i = 9
            · subst nine
              have bit : y.toNat ≤ 1 := by
                have := UInt8.lt_iff_toNat_lt.not.mp (fun big => topBit ⟨rfl, big⟩)
                simp at this
                omega
              have : y.toNat * 2 ^ (7 * 9) ≤ 1 * 2 ^ 63 := Nat.mul_le_mul_right _ bit
              omega
            · exact lt_of_lt_of_le (add_mul_pow_lt (t := 7) low small)
                (Nat.pow_le_pow_right (by omega) (by omega))
          have byte : y.toUInt64.toNat = y.toNat := by simp
          have sum := (or_shift_left_to_nat (s := 7 * i) (c := y.toUInt64) (by omega) low (by rw [byte]; exact fits)).1
          exact ⟨[y], y.toNat, rfl, .last small, by simp [maxVarintLen64]; omega, fits, by rw [sum, byte]⟩
      · rw [feed_list_cons_inl ys (uvarint_step_continue short last)] at ran
        by_cases nine : i = 9
        · -- after ten bytes with the high bit the loop stops on the next one, or runs out
          subst nine
          cases ys with
          | nil => cases ran
          | cons z zs =>
              rw [feed_list_cons_inr (r := .error errVarintOverflow) zs (by simp [uvarintStep, maxVarintLen64])] at ran
              cases ran
        · have big : 128 ≤ y.toNat := by simpa [UInt8.lt_iff_toNat_lt] using last
          obtain ⟨-, below⟩ := continuation_step (s := 7 * i) (by omega) low last
          have joined := continuation_or_to_nat (s := 7 * i) (by omega) low last
          rw [show 7 * i + 7 = 7 * (i + 1) by ring] at ran below
          obtain ⟨bs, v, split, token, fitsLength, fits, value⟩ :=
            feed_list_uvarint_ok ys rest (i + 1) _ w (by unfold maxVarintLen64; omega) below ran
          have shift : 2 ^ (7 * (i + 1)) = 128 * 2 ^ (7 * i) := by rw [Nat.mul_succ, pow_add]; ring
          have total : (u ||| (y &&& 0x7f).toUInt64 <<< (7 * i).toUInt64).toNat + v * 2 ^ (7 * (i + 1)) =
              u.toNat + (y.toNat - 128 + 128 * v) * 2 ^ (7 * i) := by
            rw [joined, shift]
            ring
          refine ⟨y :: bs, y.toNat - 128 + 128 * v, by rw [split, List.cons_append], .more big token,
            by simp only [List.length_cons]; omega, by rw [← total]; exact fits, by rw [value, total]⟩

theorem parse_uvarint_ok_iff {xs rest : List UInt8} {w : UInt64} :
    parseUvarint xs = .ok (w, rest) ↔ ∃ bs v, xs = bs ++ rest ∧ Uvarint v bs ∧ w.toNat = v := by
  constructor
  · intro ok
    unfold parseUvarint at ok
    rw [feed_list] at ok
    cases ran : feedList uvarintStep ⟨0, 0, 0⟩ xs with
    | inl s => rw [ran] at ok; cases ok
    | inr p =>
        obtain ⟨r, y⟩ := p
        rw [ran] at ok
        cases r with
        | error e => cases ok
        | ok u =>
            simp only [pure, Except.pure, Except.ok.injEq, Prod.mk.injEq] at ok
            obtain ⟨rfl, rfl⟩ := ok
            obtain ⟨bs, v, split, token, within, fits, value⟩ :=
              feed_list_uvarint_ok xs y 0 0 u (by decide) (by decide) ran
            simp only [UInt64.toNat_zero, Nat.mul_zero, pow_zero, Nat.mul_one, Nat.zero_add] at fits value within
            exact ⟨bs, v, split, ⟨token, within, fits⟩, value⟩
  · rintro ⟨bs, v, rfl, ⟨token, within, fits⟩, value⟩
    have ran := feed_list_uvarint_encodes token rest 0 0 (by simpa using within) (by decide) (by simpa using fits)
    simp only [UInt64.toNat_zero, Nat.mul_zero, pow_zero, Nat.mul_one, Nat.zero_add] at ran
    have same : UInt64.ofNat v = w := UInt64.toNat_inj.mp (by rw [value, UInt64.toNat_ofNat_of_lt' fits])
    unfold parseUvarint
    rw [feed_list, show (⟨0, 0, 0⟩ : UvarintState) = ⟨0, 7 * 0, 0⟩ from rfl, ran, same]
    rfl

theorem Uvarint.parseUvarint {v : Nat} {bs : List UInt8} (token : Uvarint v bs) (rest : List UInt8) :
    parseUvarint (bs ++ rest) = .ok (UInt64.ofNat v, rest) :=
  parse_uvarint_ok_iff.mpr ⟨bs, v, rfl, token, UInt64.toNat_ofNat_of_lt' token.2.2⟩

end Varints

section Parsers

variable {xs rest : List UInt8} {num typ : Nat}

end Parsers

section Messages

variable {σ : Type} (schemes : Schemes σ) (utf8Valid : List UInt8 → Bool) (checksum : List UInt8 → List UInt8)

def Declares (scheme : σ) (num : Nat) (t : FieldType) : Prop :=
  ∃ name, (schemes.scheme scheme).fields num = some ⟨name, t⟩

-- The scheme a nested message field is scanned under: the scheme itself for its recursive
-- field, then the nested schemes, then the aliases.
inductive NestedScheme (scheme : σ) (num : Nat) : σ → Prop
  | recursive (same : num = (schemes.scheme scheme).recursiveField) : NestedScheme scheme num scheme
  | nested {inner : σ} (other : num ≠ (schemes.scheme scheme).recursiveField)
      (named : (schemes.scheme scheme).nestedMessageFields num = some inner) : NestedScheme scheme num inner
  | viaAlias {inner : σ} {schemeAlias : UInt8} (other : num ≠ (schemes.scheme scheme).recursiveField)
      (unnamed : (schemes.scheme scheme).nestedMessageFields num = none)
      (aliased : (schemes.scheme scheme).nestedMessageAliases num = some schemeAlias)
      (resolved : schemes.resolve schemeAlias = some inner) : NestedScheme scheme num inner

end Messages

end NeoFS.Proto
