import Innovents.Lib.Hex
import Mathlib.Data.Char

namespace Innovents.Lib

/-- A text as its UTF-16 code units, which need not come in pairs. -/
abbrev Utf16 := List UInt16

namespace Utf16

def isHigh (u : UInt16) : Bool := decide (0xD800 ≤ u.toNat ∧ u.toNat < 0xDC00)

def isLow (u : UInt16) : Bool := decide (0xDC00 ≤ u.toNat ∧ u.toNat < 0xE000)

def isSurrogate (u : UInt16) : Bool := isHigh u || isLow u

/-- The character of a unit; a surrogate on its own is replaced. -/
def single (u : UInt16) : Char :=
  if isSurrogate u then Char.ofNat 0xFFFD else Char.ofNat u.toNat

/-- The character of a surrogate pair. -/
def paired (u v : UInt16) : Char :=
  Char.ofNat (0x10000 + (u.toNat - 0xD800) * 0x400 + (v.toNat - 0xDC00))

def toChars : Utf16 → List Char
  | [] => []
  | [u] => [single u]
  | u :: v :: rest =>
    if isHigh u && isLow v then paired u v :: toChars rest else single u :: toChars (v :: rest)

def ofChar (c : Char) : Utf16 :=
  if c.toNat < 0x10000 then [UInt16.ofNat c.toNat]
  else [UInt16.ofNat (0xD800 + (c.toNat - 0x10000) / 0x400),
    UInt16.ofNat (0xDC00 + (c.toNat - 0x10000) % 0x400)]

def ofChars (cs : List Char) : Utf16 := cs.flatMap ofChar

/-- No surrogate stands on its own. -/
def isWellFormed : Utf16 → Bool
  | [] => true
  | [u] => !isSurrogate u
  | u :: v :: rest =>
    if isHigh u && isLow v then isWellFormed rest else !isSurrogate u && isWellFormed (v :: rest)

/-- `Buffer.from(text, 'utf8')` -/
def utf8 (us : Utf16) : Bytes := (toChars us).flatMap String.utf8EncodeChar

/-- The text of the bytes, where `lossy` tells what is made of bytes that are not UTF-8. -/
def ofUtf8 (lossy : Bytes → Utf16) (bs : Bytes) : Utf16 :=
  match bs.toByteArray.utf8Decode? with
  | some cs => ofChars cs.toList
  | none => lossy bs

/-- The white space and the line terminators. -/
def isWhiteSpace (u : UInt16) : Bool :=
  [0x9, 0xA, 0xB, 0xC, 0xD, 0x20, 0xA0, 0x1680, 0x2028, 0x2029, 0x202F, 0x205F, 0x3000,
    0xFEFF].contains u.toNat || decide (0x2000 ≤ u.toNat ∧ u.toNat ≤ 0x200A)

/-- `text.trim()` -/
def trim (us : Utf16) : Utf16 :=
  ((us.dropWhile isWhiteSpace).reverse.dropWhile isWhiteSpace).reverse

variable {u v : UInt16} {us : Utf16}

theorem ofChars_cons (c : Char) (cs : List Char) : ofChars (c :: cs) = ofChar c ++ ofChars cs := rfl

theorem ofUtf8_utf8 (lossy : Bytes → Utf16) (us : Utf16) :
    ofUtf8 lossy (utf8 us) = ofChars (toChars us) := by
  have hdecode : (utf8 us).toByteArray.utf8Decode? = some (toChars us).toArray :=
    List.utf8Decode?_utf8Encode
  rw [ofUtf8, hdecode]

theorem utf8_eq_nil : utf8 us = [] ↔ us = [] := by
  constructor
  · intro h
    cases hchars : toChars us with
    | nil =>
      cases us with
      | nil => rfl
      | cons u us =>
        cases us with
        | nil => cases hchars
        | cons v rest =>
          rw [toChars] at hchars
          split_ifs at hchars
    | cons c cs =>
      rw [utf8, hchars, List.flatMap_cons, List.append_eq_nil_iff, ← List.length_eq_zero_iff,
        String.length_utf8EncodeChar] at h
      exact absurd h.1 c.utf8Size_pos.ne'
  · rintro rfl
    rfl

theorem toNat_ofNat_valid {n : ℕ} (h : n.isValidChar) : (Char.ofNat n).toNat = n := by
  rw [Char.ofNat, dif_pos h]
  rfl

theorem ofChar_single (h : isSurrogate u = false) : ofChar (single u) = [u] := by
  have hu := u.toNat_lt
  simp only [isSurrogate, isHigh, isLow, Bool.or_eq_false_iff, decide_eq_false_iff_not] at h
  have hvalid : u.toNat.isValidChar := by
    unfold Nat.isValidChar
    omega
  rw [single, if_neg (by simp [isSurrogate, isHigh, isLow, h]), ofChar, toNat_ofNat_valid hvalid,
    if_pos hu, UInt16.ofNat_toNat]

theorem ofChar_surrogate (h : isSurrogate u = true) : ofChar (single u) = [0xFFFD] := by
  rw [single, if_pos h]
  rfl

theorem surrogate_ne (h : isSurrogate u = true) : (0xFFFD : UInt16) ≠ u := by
  rintro rfl
  revert h
  decide

theorem ofChar_paired (hu : isHigh u = true) (hv : isLow v = true) : ofChar (paired u v) = [u, v] := by
  obtain ⟨hu, hu'⟩ := of_decide_eq_true hu
  obtain ⟨hv, hv'⟩ := of_decide_eq_true hv
  have hvalid : (0x10000 + (u.toNat - 0xD800) * 0x400 + (v.toNat - 0xDC00)).isValidChar := by
    unfold Nat.isValidChar
    omega
  have hhigh : 0xD800 + (0x10000 + (u.toNat - 0xD800) * 0x400 + (v.toNat - 0xDC00) - 0x10000) / 0x400 =
      u.toNat := by omega
  have hlow : 0xDC00 + (0x10000 + (u.toNat - 0xD800) * 0x400 + (v.toNat - 0xDC00) - 0x10000) % 0x400 =
      v.toNat := by omega
  rw [paired, ofChar, toNat_ofNat_valid hvalid, if_neg (by omega), hhigh, hlow, UInt16.ofNat_toNat,
    UInt16.ofNat_toNat]

/-- A text survives the way over its characters if it is well-formed. -/
theorem ofChars_toChars : ofChars (toChars us) = us ↔ isWellFormed us = true := by
  fun_induction toChars us with
  | case1 => exact ⟨fun _ ↦ rfl, fun _ ↦ rfl⟩
  | case2 u =>
    rw [isWellFormed, ofChars_cons]
    cases h : isSurrogate u with
    | false => simp [ofChar_single h, ofChars]
    | true =>
      rw [ofChar_surrogate h]
      exact ⟨fun he ↦ absurd (List.cons.inj he).1 (surrogate_ne h), nofun⟩
  | case3 u v rest hpair ih =>
    obtain ⟨hu, hv⟩ := Bool.and_eq_true_iff.mp hpair
    rw [isWellFormed, if_pos hpair, ofChars_cons, ofChar_paired hu hv, ← ih]
    simp
  | case4 u v rest hpair ih =>
    rw [isWellFormed, if_neg hpair, ofChars_cons, Bool.and_eq_true, ← ih]
    cases h : isSurrogate u with
    | false => simp [ofChar_single h]
    | true =>
      rw [ofChar_surrogate h]
      exact ⟨fun he ↦ absurd (List.cons.inj he).1 (surrogate_ne h), fun he ↦ nomatch he.1⟩

end Utf16

end Innovents.Lib
