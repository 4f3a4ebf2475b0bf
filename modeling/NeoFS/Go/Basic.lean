import Mathlib

set_option autoImplicit false

/- The parts of Go and its standard library that the modelled code relies on: how a call ends
   when it does not return normally, `strconv.ParseUint` and `bytes.Compare`. -/
namespace NeoFS.Go

/-- A call that does not return normally: it returns a non-nil error, the runtime panics, or
the model's fuel runs out before the call returns. -/
inductive Failure (ε : Type) where
  | error (err : ε)
  | panic (message : String)
  | exhausted
deriving DecidableEq, Repr

def digitValue (c : Char) : Option Nat :=
  if c.isDigit then some (c.toNat - '0'.toNat) else none

/-- `strconv.ParseUint(s, 10, bitSize)`: one or more decimal digits, no sign, no underscores,
and a value below `2 ^ bitSize`; otherwise the syntax or range error, here `none`. -/
def parseUint (s : String) (bitSize : Nat) : Option Nat :=
  match s.toList with
  | [] => none
  | digits =>
      (digits.foldlM (fun acc c => (digitValue c).map (acc * 10 + ·)) 0).bind fun v =>
        if v < 2 ^ bitSize then some v else none

example : parseUint "18446744073709551615" 64 = some 18446744073709551615 := by decide
example : parseUint "18446744073709551616" 64 = none := by decide

-- The value strconv.ParseUint returns beside its error, which a caller that drops the error reads:
-- zero on a syntax error, the largest bitSize-bit value on a range error.
def parseUintValue (s : String) (bitSize : Nat) : Nat :=
  match s.toList with
  | [] => 0
  | digits =>
      match digits.foldlM (fun acc c => (digitValue c).map (acc * 10 + ·)) 0 with
      | none => 0
      | some v => if v < 2 ^ bitSize then v else 2 ^ bitSize - 1

example : parseUintValue "18446744073709551616" 64 = 18446744073709551615 := by decide
example : parseUintValue "12a" 64 = 0 := by decide
example : parseUint "+1" 64 = none := by decide

/-- `bytes.Compare`: lexicographic order of byte strings. -/
def compareBytes : List UInt8 → List UInt8 → Ordering
  | [], [] => .eq
  | [], _ :: _ => .lt
  | _ :: _, [] => .gt
  | a :: as, b :: bs => if a < b then .lt else if b < a then .gt else compareBytes as bs

theorem to_int_of_nat_sub {a b : Nat} (aFits : a < 2 ^ 63) (bFits : b < 2 ^ 63) :
    (Int64.ofNat a - Int64.ofNat b).toInt = a - b := by
  rw [Int64.toInt_sub, Int64.toInt_ofNat_of_lt aFits, Int64.toInt_ofNat_of_lt bFits]
  apply Int.bmod_eq_of_le <;> omega

theorem of_nat_sub_lt_zero_iff {a b : Nat} (aFits : a < 2 ^ 63) (bFits : b < 2 ^ 63) :
    Int64.ofNat a - Int64.ofNat b < 0 ↔ a < b := by
  rw [Int64.lt_iff_toInt_lt, to_int_of_nat_sub aFits bFits, Int64.toInt_zero]
  omega

theorem zero_lt_of_nat_sub_iff {a b : Nat} (aFits : a < 2 ^ 63) (bFits : b < 2 ^ 63) :
    0 < Int64.ofNat a - Int64.ofNat b ↔ b < a := by
  rw [Int64.lt_iff_toInt_lt, to_int_of_nat_sub aFits bFits, Int64.toInt_zero]
  omega

end NeoFS.Go
