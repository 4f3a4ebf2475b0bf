import Mathlib.Data.Nat.Log
import Mathlib.Data.Nat.Bitwise
import Mathlib.Tactic.Ring

set_option autoImplicit false

/- Base-128 varints (LEB128, unsigned): a value as its seven-bit groups from the lowest, each
   byte but the last with its high bit set. The encoder runs on fuel; `n + 1` steps are always
   enough, so that `encode` is total and structural. -/
namespace Lib.Varint

def encodeF : Nat → Nat → List UInt8
  | 0, _ => []
  | fuel + 1, n => if n < 128 then [n.toUInt8] else (n % 128 + 128).toUInt8 :: encodeF fuel (n / 128)

def encode (n : Nat) : List UInt8 := encodeF (n + 1) n

theorem encode_f_ne_nil {fuel : Nat} (n : Nat) (enough : 0 < fuel) : encodeF fuel n ≠ [] := by
  cases fuel with
  | zero => cases enough
  | succ fuel =>
      unfold encodeF
      split <;> simp

theorem encode_ne_nil (n : Nat) : encode n ≠ [] := encode_f_ne_nil n (Nat.succ_pos n)

theorem encode_f_enough : ∀ (fuel fuel' n : Nat), n < fuel → n < fuel' → encodeF fuel n = encodeF fuel' n
  | 0, _, _, short, _ => absurd short (Nat.not_lt_zero _)
  | _ + 1, 0, _, _, short => absurd short (Nat.not_lt_zero _)
  | fuel + 1, fuel' + 1, n, enough, enough' => by
      unfold encodeF
      split
      · rfl
      · rw [encode_f_enough fuel fuel' (n / 128) (by omega) (by omega)]

theorem encode_of_lt {n : Nat} (small : n < 128) : encode n = [n.toUInt8] := by
  simp [encode, encodeF, small]

theorem encode_of_le {n : Nat} (big : 128 ≤ n) : encode n = (n % 128 + 128).toUInt8 :: encode (n / 128) := by
  unfold encode
  rw [encodeF, if_neg (by omega), encode_f_enough n (n / 128 + 1) (n / 128) (by omega) (by omega)]

theorem log2_div_128 {n : Nat} (big : 128 ≤ n) : Nat.log2 (n / 128) = Nat.log2 n - 7 := by
  have ne : n ≠ 0 := by omega
  have seven : 7 ≤ Nat.log2 n := (Nat.le_log2 ne).mpr big
  obtain ⟨low, high⟩ := (Nat.log2_eq_iff ne).mp rfl
  have shift : ∀ k, 7 ≤ k → 2 ^ (k - 7) * 128 = 2 ^ k := fun k enough => by
    rw [show (128 : Nat) = 2 ^ 7 from rfl, ← pow_add, Nat.sub_add_cancel enough]
  apply (Nat.log2_eq_iff (by omega)).mpr
  constructor
  · rw [Nat.le_div_iff_mul_le (by norm_num), shift _ seven]
    exact low
  · rw [Nat.div_lt_iff_lt_mul (by norm_num), show Nat.log2 n - 7 + 1 = Nat.log2 n + 1 - 7 by omega,
      shift _ (by omega)]
    exact high

theorem encode_length_log2 (n : Nat) : (encode n).length = Nat.log2 n / 7 + 1 := by
  by_cases small : n < 128
  · rw [encode_of_lt small]
    have below : Nat.log2 n < 7 := by
      by_cases zero : n = 0
      · subst zero
        simp
      · exact (Nat.log2_lt zero).mpr small
    simp only [List.length_singleton]
    omega
  · have seven : 7 ≤ Nat.log2 n := (Nat.le_log2 (by omega)).mpr (by omega)
    rw [encode_of_le (by omega), List.length_cons, encode_length_log2 (n / 128), log2_div_128 (by omega)]
    omega
termination_by n
decreasing_by omega

/- What a decoder reads as a varint: the groups of the value from the lowest, every byte but the
   last with the high bit set. Groups of zeros on top are allowed, so a value has many such
   encodings, of which `encode` writes the shortest. -/
inductive Encodes : Nat → List UInt8 → Prop
  | last {b : UInt8} (small : b.toNat < 128) : Encodes b.toNat [b]
  | more {b : UInt8} {v : Nat} {bs : List UInt8} (big : 128 ≤ b.toNat) (rest : Encodes v bs) :
      Encodes (b.toNat - 128 + 128 * v) (b :: bs)

example : Encodes 0 [0x80, 0x00] := by
  have token := Encodes.more (b := 0x80) (by decide) (Encodes.last (b := 0x00) (by decide))
  rwa [show (0x80 : UInt8).toNat - 128 + 128 * (0x00 : UInt8).toNat = 0 from rfl] at token

theorem Encodes.length_pos {v : Nat} {bs : List UInt8} (token : Encodes v bs) : 0 < bs.length := by
  cases token <;> simp

theorem add_mul_pow_lt {a c s t : Nat} (low : a < 2 ^ s) (high : c < 2 ^ t) : a + c * 2 ^ s < 2 ^ (s + t) :=
  calc a + c * 2 ^ s < 2 ^ s + c * 2 ^ s := by omega
    _ = (c + 1) * 2 ^ s := by ring
    _ ≤ 2 ^ t * 2 ^ s := Nat.mul_le_mul_right _ (by omega)
    _ = 2 ^ (s + t) := by rw [pow_add, mul_comm]

theorem shift_left_to_nat (c : UInt64) {s : Nat} (shift : s < 64) (fits : c.toNat * 2 ^ s < 2 ^ 64) :
    (c <<< s.toUInt64).toNat = c.toNat * 2 ^ s := by
  have amount : s.toUInt64.toNat % 64 = s := by
    rw [Nat.toUInt64_eq, UInt64.toNat_ofNat', Nat.mod_eq_of_lt (by omega : s < 2 ^ 64), Nat.mod_eq_of_lt shift]
  rw [UInt64.toNat_shiftLeft, amount, Nat.shiftLeft_eq, Nat.mod_eq_of_lt fits]

theorem or_shift_left_to_nat {u c : UInt64} {s : Nat} (shift : s < 64) (low : u.toNat < 2 ^ s)
    (fits : u.toNat + c.toNat * 2 ^ s < 2 ^ 64) :
    (u ||| c <<< s.toUInt64).toNat = u.toNat + c.toNat * 2 ^ s ∧
      (u + c <<< s.toUInt64).toNat = u.toNat + c.toNat * 2 ^ s := by
  have shifted := shift_left_to_nat c shift (by omega)
  constructor
  · rw [UInt64.toNat_or, shifted, ← Nat.shiftLeft_eq, Nat.lor_comm, ← Nat.shiftLeft_add_eq_or_of_lt low,
      Nat.shiftLeft_eq, Nat.add_comm]
  · rw [UInt64.toNat_add, shifted, Nat.mod_eq_of_lt fits]

end Lib.Varint
