import Mathlib.Data.List.Basic
import Mathlib.Tactic.Ring

/-!
# Bytes on a wire

Whole numbers are sent as bytes of a fixed number, the most significant one first.  Reading takes
bytes off the front of a stream, and a masked text is masked again to get it back.
-/

namespace RemoteBrowser.Wire

/-! ## Streams -/

/-- Take exactly `count` bytes off a stream. -/
def readFull (count : Nat) (stream : List UInt8) : Option (List UInt8 × List UInt8) :=
  if count ≤ stream.length then some (stream.take count, stream.drop count) else none

theorem readFull_append {count : Nat} {bytes : List UInt8} (whole : bytes.length = count)
    (rest : List UInt8) : readFull count (bytes ++ rest) = some (bytes, rest) := by
  unfold readFull
  rw [if_pos, List.take_left' whole, List.drop_left' whole]
  rw [List.length_append, whole]
  exact Nat.le_add_right _ _

/-! ## Numbers -/

/-- The last `width` bytes of a number, the most significant one first. -/
def bigEndianBytes : Nat → Nat → List UInt8
  | 0, _ => []
  | width + 1, value => UInt8.ofNat (value / 256 ^ width) :: bigEndianBytes width value

def bigEndian (bytes : List UInt8) : Nat :=
  bytes.foldl (fun value byte => 256 * value + byte.toNat) 0

@[simp] theorem length_bigEndianBytes (width value : Nat) :
    (bigEndianBytes width value).length = width := by
  induction width with
  | zero => rfl
  | succ width ih => rw [bigEndianBytes, List.length_cons, ih]

theorem foldl_bigEndianBytes (width value front : Nat) :
    (bigEndianBytes width value).foldl (fun value byte => 256 * value + byte.toNat) front =
      256 ^ width * front + value % 256 ^ width := by
  induction width generalizing front with
  | zero => simp [bigEndianBytes, Nat.mod_one]
  | succ width ih =>
      have step := @Nat.mod_pow_succ value 256 width
      have byte : 2 ^ 8 = 256 := rfl
      rw [bigEndianBytes, List.foldl_cons, ih, UInt8.toNat_ofNat', byte, step, Nat.pow_succ]
      ring

theorem bigEndian_bigEndianBytes (width value : Nat) :
    bigEndian (bigEndianBytes width value) = value % 256 ^ width := by
  rw [bigEndian, foldl_bigEndianBytes, Nat.mul_zero, Nat.zero_add]

theorem foldl_lt (bytes : List UInt8) (front : Nat) :
    bytes.foldl (fun value byte => 256 * value + byte.toNat) front <
      256 ^ bytes.length * (front + 1) := by
  induction bytes generalizing front with
  | nil => simp
  | cons byte rest ih =>
      have small := byte.toNat_lt
      calc (byte :: rest).foldl (fun value byte => 256 * value + byte.toNat) front
          < 256 ^ rest.length * (256 * front + byte.toNat + 1) := ih _
        _ ≤ 256 ^ rest.length * (256 * (front + 1)) := Nat.mul_le_mul_left _ (by omega)
        _ = 256 ^ (byte :: rest).length * (front + 1) := by
            rw [List.length_cons, Nat.pow_succ]
            ring

theorem bigEndian_lt (bytes : List UInt8) : bigEndian bytes < 256 ^ bytes.length := by
  have bound := foldl_lt bytes 0
  rwa [Nat.zero_add, Nat.mul_one] at bound

/-! ## Masks -/

/-- Combine every byte with the byte of the key at its position, from the start over and over. -/
def mask (key payload : List UInt8) : List UInt8 :=
  payload.mapIdx fun position byte => byte ^^^ key.getD (position % 4) 0

@[simp] theorem length_mask (key payload : List UInt8) :
    (mask key payload).length = payload.length := List.length_mapIdx

theorem mask_mask (key payload : List UInt8) : mask key (mask key payload) = payload := by
  rw [mask, mask, List.mapIdx_mapIdx]
  apply List.ext_getElem
  · rw [List.length_mapIdx]
  · intro position _ _
    rw [List.getElem_mapIdx, Function.comp_apply, UInt8.xor_assoc, UInt8.xor_self, UInt8.xor_zero]

end RemoteBrowser.Wire
