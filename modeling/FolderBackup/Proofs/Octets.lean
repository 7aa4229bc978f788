import FolderBackup.Shell.Octets

/-! Texts and their bytes.

A text keeps its characters on the way into the shell and out of it: the bytes of a text spell that
text again (`Shell.Octets.toText_ofText`), the bytes of a text put together are those of its parts
put together (`Shell.Octets.ofText_append`), and a text of ASCII is its own bytes
(`Shell.Octets.ofText_eq_of_ascii`). -/
namespace FolderBackup

/-! ### Bytes of characters -/

theorem toList_loop_eq (bytes : ByteArray) (place : Nat) (before : List UInt8) :
    ByteArray.toList.loop bytes place before =
      before.reverse ++ bytes.data.toList.drop place := by
  fun_induction ByteArray.toList.loop bytes place before with
  | case1 place before h ih =>
    have hplace : place < bytes.data.toList.length := by simpa using h
    rw [ih, List.drop_eq_getElem_cons hplace]
    simp [ByteArray.get!, h]
  | case2 place before h =>
    rw [List.drop_eq_nil_of_le (by simpa using Nat.le_of_not_lt h)]
    simp

/-- The bytes of a text are those of its characters, one after the other. -/
theorem toList_toUTF8 (text : String) :
    text.toUTF8.toList = text.toList.flatMap String.utf8EncodeChar := by
  have hbytes : text.toUTF8 = text.toList.utf8Encode := by
    rw [String.toUTF8, ← String.toByteArray_ofList, String.ofList_toList]
  rw [hbytes, ByteArray.toList, toList_loop_eq, List.drop_zero]
  exact List.toList_data_toByteArray

/-- A character of ASCII is one byte. -/
theorem utf8EncodeChar_of_ascii {c : Char} (h : c.toNat < 128) :
    String.utf8EncodeChar c = [UInt8.ofNat c.toNat] := by
  have hcode : c.val.toNat ≤ 127 := Nat.le_of_lt_succ h
  rw [String.utf8EncodeChar, if_pos hcode]
  rfl

namespace Text

theorem toNat_ofNat {n : Nat} (h : n < 256) : (UInt8.ofNat n).toNat = n :=
  UInt8.toNat_ofNat_of_lt' h

/-- `leadOf` in terms of numbers. -/
theorem leadOf_ofNat {n : Nat} (h : n < 256) :
    leadOf (UInt8.ofNat n) =
      if n < 0x80 then some (0, 0, 0)
      else if 0xC2 ≤ n ∧ n ≤ 0xDF then some (1, 0x80, 0xBF)
      else if n = 0xE0 then some (2, 0xA0, 0xBF)
      else if n = 0xED then some (2, 0x80, 0x9F)
      else if 0xE1 ≤ n ∧ n ≤ 0xEF then some (2, 0x80, 0xBF)
      else if n = 0xF0 then some (3, 0x90, 0xBF)
      else if 0xF1 ≤ n ∧ n ≤ 0xF3 then some (3, 0x80, 0xBF)
      else if n = 0xF4 then some (3, 0x80, 0x8F)
      else none := by
  simp only [leadOf, UInt8.lt_iff_toNat_lt, UInt8.le_iff_toNat_le, ← UInt8.toNat_inj,
    toNat_ofNat h]
  rfl

/-- The bytes after the first, as numbers: the second one between its bounds, and those after it
between the usual ones. -/
def Continues (low high : UInt8) : List Nat → Prop
  | [] => True
  | n :: rest => n < 256 ∧ low.toNat ≤ n ∧ n ≤ high.toNat ∧ Continues 0x80 0xBF rest

theorem continuation_append {low high : UInt8} {numbers : List Nat} (rest : List UInt8)
    (h : Continues low high numbers) :
    continuation numbers.length low high (numbers.map UInt8.ofNat ++ rest) =
      numbers.map UInt8.ofNat := by
  induction numbers generalizing low high with
  | nil => rfl
  | cons n later ih =>
    obtain ⟨hn, hlow, hhigh, hlater⟩ := h
    have hbounds : low ≤ UInt8.ofNat n ∧ UInt8.ofNat n ≤ high := by
      rw [UInt8.le_iff_toNat_le, UInt8.le_iff_toNat_le, toNat_ofNat hn]
      exact ⟨hlow, hhigh⟩
    rw [List.map_cons, List.cons_append, List.length_cons, continuation, if_pos hbounds,
      ih hlater]

/-- The code of a character from its first byte and those after it, as numbers. -/
def codeOf (first : Nat) (numbers : List Nat) : Nat :=
  let start := match numbers.length with
    | 0 => first
    | 1 => first % 32
    | 2 => first % 16
    | _ => first % 8
  numbers.foldl (fun code n => 64 * code + n % 64) start

theorem charOf_eq_ofNat {low high : UInt8} {first : Nat} {numbers : List Nat}
    (hfirst : first < 256) (h : Continues low high numbers) :
    charOf (UInt8.ofNat first) (numbers.map UInt8.ofNat) = Char.ofNat (codeOf first numbers) := by
  have hfold (code : Nat) :
      (numbers.map UInt8.ofNat).foldl (fun code byte => 64 * code + byte.toNat % 64) code =
        numbers.foldl (fun code n => 64 * code + n % 64) code := by
    induction numbers generalizing low high code with
    | nil => rfl
    | cons n later ih =>
      rw [List.map_cons, List.foldl_cons, List.foldl_cons, toNat_ofNat h.1, ih h.2.2.2]
  rw [charOf, List.length_map, hfold, toNat_ofNat hfirst]
  rfl

/-- A first byte and the bytes that it asks for are read as one character. -/
theorem charsOfBytes_of_lead (fuel : Nat) {first : Nat} {numbers : List Nat} (rest : List UInt8)
    {low high : UInt8} (hfirst : first < 256)
    (hlead : leadOf (UInt8.ofNat first) = some (numbers.length, low, high))
    (h : Continues low high numbers) :
    charsOfBytes (fuel + 1) (UInt8.ofNat first :: (numbers.map UInt8.ofNat ++ rest)) =
      Char.ofNat (codeOf first numbers) :: charsOfBytes fuel rest := by
  simp [charsOfBytes, hlead, continuation_append rest h, charOf_eq_ofNat hfirst h]

/-- The bytes of a character, with any others after them, are read as that character. -/
theorem charsOfBytes_utf8EncodeChar_append (fuel : Nat) (c : Char) (rest : List UInt8) :
    charsOfBytes (fuel + 1) (String.utf8EncodeChar c ++ rest) = c :: charsOfBytes fuel rest := by
  obtain ⟨n, hn⟩ : ∃ n, n = c.val.toNat := ⟨_, rfl⟩
  have hvalid : n < 0xD800 ∨ 0xDFFF < n ∧ n < 0x110000 := hn ▸ c.valid
  have hchar : c = Char.ofNat n := hn ▸ (Char.ofNat_toNat c).symm
  rw [String.utf8EncodeChar, ← hn, hchar]
  have hsame {first : Nat} {numbers : List Nat} {low high : UInt8} (hfirst : first < 256)
      (hlead : leadOf (UInt8.ofNat first) = some (numbers.length, low, high))
      (h : Continues low high numbers) (hcode : codeOf first numbers = n) :
      charsOfBytes (fuel + 1) (UInt8.ofNat first :: (numbers.map UInt8.ofNat ++ rest)) =
        Char.ofNat n :: charsOfBytes fuel rest :=
    hcode ▸ charsOfBytes_of_lead fuel rest hfirst hlead h
  -- one case for each number of bytes
  by_cases hone : n ≤ 127
  · have hlead : leadOf (UInt8.ofNat n) = some (0, 0, 0) := by
      rw [leadOf_ofNat (by omega), if_pos (by omega)]
    rw [if_pos hone]
    exact @hsame n [] _ _ (by omega) hlead trivial rfl
  by_cases htwo : n ≤ 2047
  · have hlead : leadOf (UInt8.ofNat (n / 64 % 32 + 192)) = some (1, 0x80, 0xBF) := by
      rw [leadOf_ofNat (by omega), if_neg (by omega), if_pos (by omega)]
    rw [if_neg hone, if_pos htwo]
    refine @hsame _ [n % 64 + 128] _ _ (by omega) hlead ?_ ?_
    · simp [Continues]
      omega
    · simp [codeOf]
      omega
  by_cases hthree : n ≤ 65535
  · obtain ⟨low, high, hlead, hlow, hhigh⟩ : ∃ low high,
        leadOf (UInt8.ofNat (n / 4096 % 16 + 224)) = some (2, low, high) ∧
        low.toNat ≤ n / 64 % 64 + 128 ∧ n / 64 % 64 + 128 ≤ high.toNat := by
      rw [leadOf_ofNat (by omega), if_neg (by omega), if_neg (by omega)]
      split
      · exact ⟨_, _, rfl, by simp; omega, by simp; omega⟩
      split
      · exact ⟨_, _, rfl, by simp, by simp; omega⟩
      rw [if_pos (by omega)]
      exact ⟨_, _, rfl, by simp, by simp; omega⟩
    rw [if_neg hone, if_neg htwo, if_pos hthree]
    refine @hsame _ [n / 64 % 64 + 128, n % 64 + 128] _ _ (by omega) hlead ?_ ?_
    · simp [Continues]
      omega
    · simp [codeOf]
      omega
  · obtain ⟨low, high, hlead, hlow, hhigh⟩ : ∃ low high,
        leadOf (UInt8.ofNat (n / 262144 % 8 + 240)) = some (3, low, high) ∧
        low.toNat ≤ n / 4096 % 64 + 128 ∧ n / 4096 % 64 + 128 ≤ high.toNat := by
      rw [leadOf_ofNat (by omega), if_neg (by omega), if_neg (by omega), if_neg (by omega),
        if_neg (by omega), if_neg (by omega)]
      split
      · exact ⟨_, _, rfl, by simp; omega, by simp; omega⟩
      split
      · exact ⟨_, _, rfl, by simp, by simp; omega⟩
      rw [if_pos (by omega)]
      exact ⟨_, _, rfl, by simp, by simp; omega⟩
    rw [if_neg hone, if_neg htwo, if_neg hthree]
    refine @hsame _ [n / 4096 % 64 + 128, n / 64 % 64 + 128, n % 64 + 128] _ _ (by omega)
      hlead ?_ ?_
    · simp [Continues]
      omega
    · simp [codeOf]
      omega

/-- The bytes of characters are read as those characters. -/
theorem charsOfBytes_flatMap_utf8EncodeChar {fuel : Nat} {chars : List Char}
    (h : chars.length ≤ fuel) :
    charsOfBytes fuel (chars.flatMap String.utf8EncodeChar) = chars := by
  induction chars generalizing fuel with
  | nil => cases fuel <;> rfl
  | cons c rest ih =>
    obtain ⟨fuel, rfl⟩ := Nat.exists_eq_add_of_le' (Nat.le_trans (by simp) h : 1 ≤ fuel)
    rw [List.flatMap_cons, charsOfBytes_utf8EncodeChar_append, ih (by simpa using h)]

end Text

/-! ### Octets -/

namespace Shell.Octets

/-- The octets of a character. -/
def ofChar (c : Char) : List Char :=
  (String.utf8EncodeChar c).map fun byte => Char.ofNat byte.toNat

theorem toList_ofText (text : String) : (ofText text).toList = text.toList.flatMap ofChar := by
  rw [ofText, String.toList_ofList, toList_toUTF8, List.map_flatMap]
  rfl

theorem toNat_ofNat_toNat (byte : UInt8) : (Char.ofNat byte.toNat).toNat = byte.toNat := by
  have hlt := byte.toNat_lt
  rw [Char.ofNat, dif_pos (.inl (by omega))]
  rfl

theorem bytes_flatMap_ofChar (chars : List Char) :
    bytes (chars.flatMap ofChar) = chars.flatMap String.utf8EncodeChar := by
  rw [bytes, List.map_flatMap]
  congr 1
  funext c
  rw [ofChar, List.map_map]
  refine (List.map_congr_left fun byte _ => ?_).trans (List.map_id _)
  simp [toNat_ofNat_toNat]

theorem length_le_length_bytes (chars : List Char) :
    chars.length ≤ (chars.flatMap String.utf8EncodeChar).length := by
  induction chars with
  | nil => exact Nat.le_refl _
  | cons c rest ih =>
    rw [List.flatMap_cons, List.length_append, String.length_utf8EncodeChar, List.length_cons]
    have hpos := c.utf8Size_pos
    omega

/-- A text comes out of the shell as it went in. -/
theorem toText_ofText (text : String) : toText (ofText text) = text := by
  rw [toText, toList_ofText, bytes_flatMap_ofChar, Text.ofBytes,
    Text.charsOfBytes_flatMap_utf8EncodeChar (length_le_length_bytes text.toList),
    String.ofList_toList]

theorem ofText_injective {first second : String} (h : ofText first = ofText second) :
    first = second := by
  rw [← toText_ofText first, h, toText_ofText]

theorem ofText_append (first second : String) :
    ofText (first ++ second) = ofText first ++ ofText second := by
  apply String.toList_injective
  simp [toList_ofText]

theorem ofChar_of_ascii {c : Char} (h : c.toNat < 128) : ofChar c = [c] := by
  rw [ofChar, utf8EncodeChar_of_ascii h, List.map_singleton, Text.toNat_ofNat (by omega)]
  exact congrArg (fun c => [c]) (Char.ofNat_toNat c)

theorem ofChar_ne_nil (c : Char) : ofChar c ≠ [] := by
  simp [ofChar, String.utf8EncodeChar_ne_nil]

/-- The octets of a character that is not in ASCII are none of ASCII. -/
theorem mem_ofChar {c octet : Char} (h : octet ∈ ofChar c) : octet = c ∨ 128 ≤ octet.toNat := by
  by_cases hascii : c.toNat < 128
  · rw [ofChar_of_ascii hascii] at h
    exact .inl (List.mem_singleton.mp h)
  · refine .inr ?_
    have hcode : ¬ c.val.toNat ≤ 127 := fun hle => hascii (Nat.lt_succ_of_le hle)
    obtain ⟨byte, hbyte, rfl⟩ := List.mem_map.mp h
    rw [toNat_ofNat_toNat]
    rw [String.utf8EncodeChar, if_neg hcode] at hbyte
    have hlarge (n : Nat) (hn : 128 ≤ n) (hlt : n < 256) : 128 ≤ (UInt8.ofNat n).toNat := by
      rw [Text.toNat_ofNat hlt]
      exact hn
    split at hbyte
    · simp only [List.mem_cons, List.not_mem_nil, or_false] at hbyte
      rcases hbyte with rfl | rfl <;> exact hlarge _ (by omega) (by omega)
    split at hbyte
    · simp only [List.mem_cons, List.not_mem_nil, or_false] at hbyte
      rcases hbyte with rfl | rfl | rfl <;> exact hlarge _ (by omega) (by omega)
    · simp only [List.mem_cons, List.not_mem_nil, or_false] at hbyte
      rcases hbyte with rfl | rfl | rfl | rfl <;> exact hlarge _ (by omega) (by omega)

/-- A text starts with a character of ASCII if its octets do. -/
theorem head?_ofText_eq_iff {text : String} {c : Char} (h : c.toNat < 128) :
    (ofText text).toList.head? = some c ↔ text.toList.head? = some c := by
  rw [toList_ofText]
  cases text.toList with
  | nil => rfl
  | cons d rest =>
    rw [List.flatMap_cons]
    constructor
    · intro hhead
      cases hoctets : ofChar d with
      | nil => exact absurd hoctets (ofChar_ne_nil d)
      | cons octet more =>
        rw [hoctets] at hhead
        obtain rfl : octet = c := Option.some.inj hhead
        rcases mem_ofChar (hoctets ▸ List.mem_cons_self) with rfl | hlarge
        · rfl
        · omega
    · intro hhead
      obtain rfl : d = c := Option.some.inj hhead
      rw [ofChar_of_ascii h]
      rfl

theorem flatMap_ofChar_of_ascii {chars : List Char} (h : ∀ c ∈ chars, c.toNat < 128) :
    chars.flatMap ofChar = chars := by
  induction chars with
  | nil => rfl
  | cons c rest ih =>
    rw [List.flatMap_cons, ofChar_of_ascii (h c List.mem_cons_self),
      ih fun other hother => h other (List.mem_cons_of_mem _ hother)]
    rfl

/-- A text of ASCII is its own octets. -/
theorem ofText_eq_of_ascii {text : String} (h : ∀ c ∈ text.toList, c.toNat < 128) :
    ofText text = text := by
  apply String.toList_injective
  rw [toList_ofText, flatMap_ofChar_of_ascii h]

end Shell.Octets

end FolderBackup
