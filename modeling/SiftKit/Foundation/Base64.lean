import Mathlib.Data.List.Basic

/-! # Base64

Three bytes are four sextets; one or two bytes at the end are two or three of them, the last filled up with zero bits.
-/

namespace SiftKit.Base64

def sextets : List UInt8 → List Nat
  | first :: second :: third :: rest =>
    (first.toNat / 4) :: (first.toNat % 4 * 16 + second.toNat / 16) :: (second.toNat % 16 * 4 + third.toNat / 64) ::
      (third.toNat % 64) :: sextets rest
  | [first, second] => [first.toNat / 4, first.toNat % 4 * 16 + second.toNat / 16, second.toNat % 16 * 4]
  | [first] => [first.toNat / 4, first.toNat % 4 * 16]
  | [] => []

/-- The bytes of some sextets; what is left over of them is dropped. -/
def octets : List Nat → List UInt8
  | first :: second :: third :: fourth :: rest =>
    .ofNat (first * 4 + second / 16) :: .ofNat (second % 16 * 16 + third / 4) :: .ofNat (third % 4 * 64 + fourth) ::
      octets rest
  | [first, second, third] => [.ofNat (first * 4 + second / 16), .ofNat (second % 16 * 16 + third / 4)]
  | [first, second] => [.ofNat (first * 4 + second / 16)]
  | _ => []

theorem ofNat_eq {byte : UInt8} {number : Nat} (same : number = byte.toNat) : UInt8.ofNat number = byte := by
  rw [same, UInt8.ofNat_toNat]

theorem octets_sextets (bytes : List UInt8) : octets (sextets bytes) = bytes := by
  fun_induction sextets bytes with
  | case1 first second third rest ih =>
    have secondBound := second.toNat_lt
    have thirdBound := third.toNat_lt
    rw [octets, ih, @ofNat_eq first _ (by omega), @ofNat_eq second _ (by omega),
      @ofNat_eq third _ (by omega)]
  | case2 first second =>
    have secondBound := second.toNat_lt
    rw [octets, @ofNat_eq first _ (by omega), @ofNat_eq second _ (by omega)]
  | case3 first => rw [octets, @ofNat_eq first _ (by omega)]
  | case4 => rfl

theorem sextets_lt {bytes : List UInt8} {sextet : Nat} (member : sextet ∈ sextets bytes) : sextet < 64 := by
  fun_induction sextets bytes with
  | case1 first second third rest ih =>
    have firstBound := first.toNat_lt
    have secondBound := second.toNat_lt
    have thirdBound := third.toNat_lt
    simp only [List.mem_cons] at member
    obtain rfl | rfl | rfl | rfl | later := member
    · omega
    · omega
    · omega
    · omega
    · exact ih later
  | case2 first second =>
    have firstBound := first.toNat_lt
    have secondBound := second.toNat_lt
    simp only [List.mem_cons, List.not_mem_nil, or_false] at member
    omega
  | case3 first =>
    have firstBound := first.toNat_lt
    simp only [List.mem_cons, List.not_mem_nil, or_false] at member
    omega
  | case4 => cases member

end SiftKit.Base64
