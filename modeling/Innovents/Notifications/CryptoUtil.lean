import Innovents.Lib.Utf16

namespace Innovents.Notifications

open Innovents.Lib

/-- The functions of the module `crypto`, and what is made of bytes that are not UTF-8. -/
structure Cipher where
  sha256 : Bytes → Bytes
  gcmEncrypt : (key iv text : Bytes) → Bytes × Bytes
  gcmDecrypt : (key iv authTag encrypted : Bytes) → Option Bytes
  lossy : Bytes → Utf16

/-- The cipher decrypts what it has encrypted, as many bytes as it was given, with a tag of 16
bytes. -/
structure Cipher.Lawful (c : Cipher) : Prop where
  decrypts : ∀ key iv text, c.gcmDecrypt key iv (c.gcmEncrypt key iv text).2 (c.gcmEncrypt key iv text).1 = some text
  length : ∀ key iv text, (c.gcmEncrypt key iv text).1.length = text.length
  tagLength : ∀ key iv text, (c.gcmEncrypt key iv text).2.length = 16

abbrev Iv := { iv : Bytes // iv.length = 12 }

namespace CryptoUtil

def sha256 (c : Cipher) (data : Utf16) : String := String.ofList (Hex.encode (c.sha256 data.utf8))

def encrypt (c : Cipher) (iv : Iv) (text secretKey : Utf16) : String :=
  let key := c.sha256 secretKey.utf8
  let (encrypted, authTag) := c.gcmEncrypt key iv text.utf8
  String.ofList (Hex.encode iv ++ ':' :: (Hex.encode authTag ++ ':' :: Hex.encode encrypted))

def decrypt (c : Cipher) (ciphertext : String) (secretKey : Utf16) : Except String Utf16 :=
  match ciphertext.toList.splitOn ':' with
  | [ivHex, authTagHex, encryptedHex] =>
    if ivHex = [] ∨ authTagHex = [] ∨ encryptedHex = [] then
      .error "Invalid ciphertext components"
    else
      let key := c.sha256 secretKey.utf8
      match c.gcmDecrypt key (Hex.decode ivHex) (Hex.decode authTagHex) (Hex.decode encryptedHex) with
      | some decrypted => .ok (Utf16.ofUtf8 c.lossy decrypted)
      | none => .error "Unsupported state or unable to authenticate data"
  | _ => .error "Invalid ciphertext format"

variable {c : Cipher} {iv : Iv} {text secretKey : Utf16}

theorem splitOn_three {a b d : List Char} (ha : ':' ∉ a) (hb : ':' ∉ b) (hd : ':' ∉ d) :
    (a ++ ':' :: (b ++ ':' :: d)).splitOn ':' = [a, b, d] := by
  rw [List.splitOn_append_cons_self, List.splitOn_append_cons_self, List.splitOn_eq_singleton ha,
    List.splitOn_eq_singleton hb, List.splitOn_eq_singleton hd]
  rfl

/-- The empty text is refused, and every other one comes back from its UTF-8. -/
theorem decrypt_encrypt (hc : c.Lawful) : decrypt c (encrypt c iv text secretKey) secretKey =
    if text = [] then .error "Invalid ciphertext components"
    else .ok (Utf16.ofChars text.toChars) := by
  have hiv : Hex.encode iv ≠ [] := by
    rw [Ne, Hex.encode_eq_nil]
    intro h
    have hlength := iv.2
    rw [h] at hlength
    cases hlength
  have htag : Hex.encode (c.gcmEncrypt (c.sha256 secretKey.utf8) iv text.utf8).2 ≠ [] := by
    rw [Ne, Hex.encode_eq_nil]
    intro h
    have hlength := hc.tagLength (c.sha256 secretKey.utf8) iv text.utf8
    rw [h] at hlength
    cases hlength
  have hempty : Hex.encode (c.gcmEncrypt (c.sha256 secretKey.utf8) iv text.utf8).1 = [] ↔ text = [] := by
    rw [Hex.encode_eq_nil, ← List.length_eq_zero_iff, hc.length, List.length_eq_zero_iff,
      Utf16.utf8_eq_nil]
  rw [decrypt, encrypt]
  dsimp only
  rw [String.toList_ofList, splitOn_three (Hex.colon_notMem_encode _) (Hex.colon_notMem_encode _)
    (Hex.colon_notMem_encode _)]
  dsimp only
  simp only [hiv, htag, hempty, false_or]
  split_ifs with htext
  · rfl
  · rw [Hex.decode_encode, Hex.decode_encode, Hex.decode_encode, hc.decrypts]
    dsimp only
    rw [Utf16.ofUtf8_utf8]

/-- A text comes back as it was if it is not empty and well-formed. -/
theorem decrypt_encrypt_eq (hc : c.Lawful) :
    decrypt c (encrypt c iv text secretKey) secretKey = .ok text ↔
      text ≠ [] ∧ text.isWellFormed = true := by
  rw [decrypt_encrypt hc, ← Utf16.ofChars_toChars]
  split_ifs with h
  · exact ⟨nofun, fun hne ↦ absurd h hne.1⟩
  · exact ⟨fun he ↦ ⟨h, Except.ok.inj he⟩, fun he ↦ congrArg Except.ok he.2⟩

end CryptoUtil

end Innovents.Notifications
