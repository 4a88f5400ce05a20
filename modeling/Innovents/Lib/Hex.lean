import Mathlib.Data.List.Basic
import Mathlib.Data.UInt

namespace Innovents.Lib

abbrev Bytes := List UInt8

namespace Hex

def digit (d : ℕ) : Char := "0123456789abcdef".toList.getD d '0'

def value? (c : Char) : Option ℕ :=
  if '0' ≤ c ∧ c ≤ '9' then some (c.toNat - 48)
  else if 'a' ≤ c ∧ c ≤ 'f' then some (c.toNat - 87)
  else if 'A' ≤ c ∧ c ≤ 'F' then some (c.toNat - 55)
  else none

def encode : Bytes → List Char
  | [] => []
  | b :: bs => digit (b.toNat / 16) :: digit (b.toNat % 16) :: encode bs

/-- Decoding ends at the first two characters that are no digits. -/
def decode : List Char → Bytes
  | a :: b :: rest =>
    match value? a, value? b with
    | some x, some y => UInt8.ofNat (16 * x + y) :: decode rest
    | _, _ => []
  | _ => []

variable {bs : Bytes}

theorem value?_digit : ∀ d < 16, value? (digit d) = some d := by decide

theorem digit_ne_colon : ∀ d < 16, digit d ≠ ':' := by decide

theorem decode_encode (bs : Bytes) : decode (encode bs) = bs := by
  induction bs with
  | nil => rfl
  | cons b bs ih =>
    have hb := b.toNat_lt
    rw [encode, decode, value?_digit _ (by omega), value?_digit _ (by omega)]
    dsimp only
    rw [ih, Nat.div_add_mod, UInt8.ofNat_toNat]

theorem length_encode (bs : Bytes) : (encode bs).length = 2 * bs.length := by
  induction bs with
  | nil => rfl
  | cons b bs ih =>
    rw [encode, List.length_cons, List.length_cons, List.length_cons, ih]
    omega

theorem encode_eq_nil : encode bs = [] ↔ bs = [] := by
  rw [← List.length_eq_zero_iff, ← List.length_eq_zero_iff, length_encode]
  omega

theorem colon_notMem_encode (bs : Bytes) : ':' ∉ encode bs := by
  induction bs with
  | nil => exact List.not_mem_nil
  | cons b bs ih =>
    have hb := b.toNat_lt
    rw [encode, List.mem_cons, List.mem_cons, not_or, not_or]
    exact ⟨(digit_ne_colon _ (by omega)).symm, (digit_ne_colon _ (by omega)).symm, ih⟩

end Hex

end Innovents.Lib
