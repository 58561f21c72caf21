/-
Text that comes as bytes.

Well-formed UTF-8 is read back as what it is. A character is encoded by the bits of
its number, cut into groups of six; the decoder puts the groups together again
(`decodeFrom_encoded`), and the bounds that it sets to the second byte hold of
every character there is, because the forms that they shut out are overlong,
surrogates or beyond the last character. So nothing of a text is replaced
(`decode_encoded`), and a text that is no longer than the limit is not cut
(`decodeUpTo_text`).
-/
import HookRules.Text.Utf8
import Mathlib

namespace HookRules

namespace Text

/-- The bytes of a text. -/
def bytes (s : String) : List UInt8 := s.toUTF8.data.toList

theorem bytes_eq (s : String) :
    bytes s = s.toList.flatMap String.utf8EncodeChar := by
  unfold bytes String.toUTF8
  rw [← String.ofList_toList (s := s), String.toByteArray_ofList,
    String.ofList_toList]
  exact List.toList_data_toByteArray

-- ============================================================ one character

theorem byte_toNat {b : Nat} (h : b < 256) : (UInt8.ofNat b).toNat = b :=
  UInt8.toNat_ofNat_of_lt' h

/-- Six bits more complete a character. -/
theorem decodeFrom_last {value low high n : Nat} (hlow : low ≤ n % 64 + 128)
    (hhigh : n % 64 + 128 ≤ high) (rest : List UInt8) :
    decodeFrom (some ⟨1, value, low, high⟩) (UInt8.ofNat (n % 64 + 128) :: rest)
      = Char.ofNat (value * 64 + n % 64) :: decodeFrom none rest := by
  have hbyte : (UInt8.ofNat (n % 64 + 128)).toNat = n % 64 + 128 :=
    byte_toNat (by omega)
  rw [decodeFrom]
  simp only [hbyte]
  rw [if_pos ⟨hlow, hhigh⟩, if_pos (le_refl 1), Nat.add_sub_cancel]

/-- Six bits more leave a character with one byte less to come. -/
theorem decodeFrom_more {missing value low high n : Nat}
    (hlow : low ≤ n % 64 + 128) (hhigh : n % 64 + 128 ≤ high)
    (rest : List UInt8) :
    decodeFrom (some ⟨missing + 2, value, low, high⟩)
        (UInt8.ofNat (n % 64 + 128) :: rest)
      = decodeFrom (some ⟨missing + 1, value * 64 + n % 64, 0x80, 0xBF⟩)
          rest := by
  have hbyte : (UInt8.ofNat (n % 64 + 128)).toNat = n % 64 + 128 :=
    byte_toNat (by omega)
  rw [decodeFrom]
  simp only [hbyte]
  rw [if_pos ⟨hlow, hhigh⟩, if_neg (by omega), Nat.add_sub_cancel]
  rfl

/-- The first byte of a character that is not complete with it. -/
theorem decodeFrom_start {b : Nat} (hb : b < 256) {p : Partial}
    (h : start b = ([], some p)) (rest : List UInt8) :
    decodeFrom none (UInt8.ofNat b :: rest) = decodeFrom (some p) rest := by
  rw [decodeFrom, byte_toNat hb, h]
  rfl

/-- The first of two bytes. -/
theorem start_of_two {n : Nat} (hlow : 0x80 ≤ n) (hhigh : n < 0x800) :
    start (n / 64 + 192) = ([], some ⟨1, n / 64, 0x80, 0xBF⟩) := by
  unfold start
  rw [if_neg (by omega), if_neg (by omega), if_pos (by omega),
    Nat.add_sub_cancel]
  rfl

/-- The first of three bytes. The bounds that it sets to the second one hold. -/
theorem start_of_three {n : Nat} (hlow : 0x800 ≤ n) (hhigh : n < 0x10000)
    (hvalid : n < 0xD800 ∨ 0xDFFF < n) :
    ∃ low high, start (n / 4096 + 224) = ([], some ⟨2, n / 4096, low, high⟩)
      ∧ low ≤ n / 64 % 64 + 128 ∧ n / 64 % 64 + 128 ≤ high := by
  unfold start
  rw [if_neg (by omega), if_neg (by omega), if_neg (by omega)]
  by_cases hfirst : n / 4096 = 0
  · refine ⟨0xA0, 0xBF, ?_, by omega, by omega⟩
    rw [hfirst, if_pos rfl]
  · rw [if_neg (by omega)]
    by_cases hsurrogate : n / 4096 = 13
    · refine ⟨0x80, 0x9F, ?_, by omega, by omega⟩
      rw [hsurrogate, if_pos rfl]
    · refine ⟨0x80, 0xBF, ?_, by omega, by omega⟩
      rw [if_neg (by omega), if_pos (by omega), Nat.add_sub_cancel]
      rfl

/-- The first of four bytes. -/
theorem start_of_four {n : Nat} (hlow : 0x10000 ≤ n) (hhigh : n < 0x110000) :
    ∃ low high, start (n / 262144 + 240) = ([], some ⟨3, n / 262144, low, high⟩)
      ∧ low ≤ n / 4096 % 64 + 128 ∧ n / 4096 % 64 + 128 ≤ high := by
  unfold start
  rw [if_neg (by omega), if_neg (by omega), if_neg (by omega),
    if_neg (by omega), if_neg (by omega), if_neg (by omega)]
  by_cases hfirst : n / 262144 = 0
  · refine ⟨0x90, 0xBF, ?_, by omega, by omega⟩
    rw [hfirst, if_pos rfl]
  · rw [if_neg (by omega)]
    by_cases hlast : n / 262144 = 4
    · refine ⟨0x80, 0x8F, ?_, by omega, by omega⟩
      rw [hlast, if_neg (by omega), if_pos rfl]
    · refine ⟨0x80, 0xBF, ?_, by omega, by omega⟩
      rw [if_pos (by omega), Nat.add_sub_cancel]
      rfl

/-- The bytes of the character with a number. -/
def bytesOf (n : Nat) : List UInt8 :=
  if n ≤ 127 then [UInt8.ofNat n]
  else if n ≤ 2047 then
    [UInt8.ofNat (n / 64 % 32 + 192), UInt8.ofNat (n % 64 + 128)]
  else if n ≤ 65535 then
    [UInt8.ofNat (n / 4096 % 16 + 224), UInt8.ofNat (n / 64 % 64 + 128),
      UInt8.ofNat (n % 64 + 128)]
  else
    [UInt8.ofNat (n / 262144 % 8 + 240), UInt8.ofNat (n / 4096 % 64 + 128),
      UInt8.ofNat (n / 64 % 64 + 128), UInt8.ofNat (n % 64 + 128)]

theorem utf8EncodeChar_eq (c : Char) :
    String.utf8EncodeChar c = bytesOf c.toNat := rfl

/-- A number that some character has is read back from its bytes, whatever comes
behind them. -/
theorem decodeFrom_bytesOf {n : Nat}
    (h : n < 0xD800 ∨ 0xDFFF < n ∧ n < 0x110000) (rest : List UInt8) :
    decodeFrom none (bytesOf n ++ rest)
      = Char.ofNat n :: decodeFrom none rest := by
  unfold bytesOf
  split
  · rw [List.singleton_append, decodeFrom, byte_toNat (by omega), start,
      if_pos (by omega)]
    rfl
  · split
    · rw [Nat.mod_eq_of_lt (by omega : n / 64 < 32), List.cons_append,
        decodeFrom_start (by omega) (start_of_two (by omega) (by omega)),
        List.singleton_append, decodeFrom_last (by omega) (by omega)]
      congr 2
      omega
    · split
      · obtain ⟨low, high, hstart, hlow, hhigh⟩ :=
          start_of_three (n := n) (by omega) (by omega) (by omega)
        rw [Nat.mod_eq_of_lt (by omega : n / 4096 < 16), List.cons_append,
          decodeFrom_start (by omega) hstart, List.cons_append,
          decodeFrom_more hlow hhigh, List.singleton_append,
          decodeFrom_last (by omega) (by omega)]
        congr 2
        omega
      · obtain ⟨low, high, hstart, hlow, hhigh⟩ :=
          start_of_four (n := n) (by omega) (by omega)
        rw [Nat.mod_eq_of_lt (by omega : n / 262144 < 8), List.cons_append,
          decodeFrom_start (by omega) hstart, List.cons_append,
          decodeFrom_more hlow hhigh, List.cons_append,
          decodeFrom_more (by omega) (by omega), List.singleton_append,
          decodeFrom_last (by omega) (by omega)]
        congr 2
        omega

/-- A character is read back from its bytes. -/
theorem decodeFrom_encoded (c : Char) (rest : List UInt8) :
    decodeFrom none (String.utf8EncodeChar c ++ rest)
      = c :: decodeFrom none rest := by
  have hvalid : c.toNat < 0xD800 ∨ 0xDFFF < c.toNat ∧ c.toNat < 0x110000 :=
    c.valid
  rw [utf8EncodeChar_eq, decodeFrom_bytesOf hvalid, Char.ofNat_toNat]

-- ================================================================ whole texts

/-- A text is read back from its bytes. -/
theorem decode_encoded (cs : List Char) :
    decode (cs.flatMap String.utf8EncodeChar) = cs := by
  unfold decode
  induction cs with
  | nil => rfl
  | cons c rest ih => rw [List.flatMap_cons, decodeFrom_encoded, ih]

/-- A text that fits into a limit is read back as it is. -/
theorem decodeUpTo_text {limit : Nat} {s : String}
    (h : s.utf8ByteSize ≤ limit) :
    decodeUpTo limit (bytes s) = (s, false) := by
  unfold decodeUpTo
  rw [bytes_eq, decode_encoded, String.ofList_toList]
  exact if_pos h

end Text

end HookRules
