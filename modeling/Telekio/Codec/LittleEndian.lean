import Mathlib.Algebra.Order.Ring.Nat
import Mathlib.Tactic.Ring
import Telekio.Codec.Reader

/-!
# Little-endian words

A number in a fixed number of bytes, the least significant byte first.
-/

namespace Telekio.Codec

/-- The lowest `width` bytes of a number. -/
def leBytes : Nat → Nat → List UInt8
  | 0, _ => []
  | width + 1, value =>
      UInt8.ofNat value :: leBytes width (value / 256)

def ofLeBytes : List UInt8 → Nat
  | [] => 0
  | byte :: rest => byte.toNat + 256 * ofLeBytes rest

@[simp]
theorem length_leBytes (width value : Nat) :
    (leBytes width value).length = width := by
  induction width generalizing value with
  | zero => rfl
  | succ width inductionHypothesis =>
      rw [leBytes, List.length_cons, inductionHypothesis]

theorem ofLeBytes_lt (bytes : List UInt8) :
    ofLeBytes bytes < 256 ^ bytes.length := by
  induction bytes with
  | nil => exact Nat.one_pos
  | cons byte rest inductionHypothesis =>
      have small := byte.toNat_lt
      rw [ofLeBytes, List.length_cons, Nat.pow_succ]
      omega

theorem ofLeBytes_leBytes {width value : Nat}
    (small : value < 256 ^ width) :
    ofLeBytes (leBytes width value) = value := by
  induction width generalizing value with
  | zero =>
      rw [Nat.pow_zero, Nat.lt_one_iff] at small
      rw [small]
      rfl
  | succ width inductionHypothesis =>
      have rest : value / 256 < 256 ^ width := by
        rw [Nat.pow_succ] at small
        omega
      rw [leBytes, ofLeBytes, inductionHypothesis rest,
        UInt8.toNat_ofNat']
      omega

theorem leBytes_ofLeBytes (bytes : List UInt8) :
    leBytes bytes.length (ofLeBytes bytes) = bytes := by
  induction bytes with
  | nil => rfl
  | cons byte rest inductionHypothesis =>
      have small := byte.toNat_lt
      have first : UInt8.ofNat (byte.toNat + 256 * ofLeBytes rest) =
          byte := by
        apply UInt8.toNat_inj.mp
        rw [UInt8.toNat_ofNat']
        omega
      have later : (byte.toNat + 256 * ofLeBytes rest) / 256 =
          ofLeBytes rest := by
        omega
      rw [ofLeBytes, List.length_cons, leBytes, first, later,
        inductionHypothesis]

end Telekio.Codec
