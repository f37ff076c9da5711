/-
  CrudQueries.Proofs.Text.Utf8 — a text is read back from its bytes.

  The bytes of one character are a sequence of its own: its first byte says how many follow and in which range
  the next one is (`continuation_three`, `continuation_four`), and the payloads of all of them make the character
  again (`decodeFrom_char`). By induction on the characters so it is with a whole text (`decode_encode`).
-/

import CrudQueries.Text.Utf8

namespace CrudQueries.Text.Utf8

/-! ## Sequences -/

theorem toNat_byte {n : Nat} (h : n < 256) : (UInt8.ofNat n).toNat = n := UInt8.toNat_ofNat_of_lt' h

theorem continuation_two : ∀ n < 32, 2 ≤ n → continuation (UInt8.ofNat (n + 0xC0)) = some (1, 0x80, 0xBF) := by
  decide

/-- The byte after the first of three makes the character long enough, and no surrogate. -/
theorem continuation_three : ∀ n < 16, continuation (UInt8.ofNat (n + 0xE0)) =
    some (2, UInt8.ofNat (if n = 0 then 0xA0 else 0x80), UInt8.ofNat (if n = 13 then 0x9F else 0xBF)) := by
  decide

/-- The byte after the first of four makes the character long enough, and not too large. -/
theorem continuation_four : ∀ n < 5, continuation (UInt8.ofNat (n + 0xF0)) =
    some (3, UInt8.ofNat (if n = 0 then 0x90 else 0x80), UInt8.ofNat (if n = 4 then 0x8F else 0xBF)) := by
  decide

/-- A byte in the range that is due goes on with the sequence. -/
theorem continueWith_cons {more code low high n : Nat} {seen rest : List UInt8} (hn : n < 64) (hlow : low ≤ n + 0x80)
    (hhigh : n + 0x80 ≤ high) (h : high < 256) :
    continueWith (more + 1) (UInt8.ofNat low) (UInt8.ofNat high) code seen (UInt8.ofNat (n + 0x80) :: rest) =
      continueWith more 0x80 0xBF (code * 64 + n) (UInt8.ofNat (n + 0x80) :: seen) rest := by
  have hb : (UInt8.ofNat (n + 0x80)).toNat = n + 0x80 := toNat_byte (by omega)
  have hin : (UInt8.ofNat low ≤ UInt8.ofNat (n + 0x80) && UInt8.ofNat (n + 0x80) ≤ UInt8.ofNat high) = true := by
    rw [Bool.and_eq_true, decide_eq_true_iff, decide_eq_true_iff, UInt8.le_iff_toNat_le, UInt8.le_iff_toNat_le, hb,
      toNat_byte h, toNat_byte (by omega : low < 256)]
    exact ⟨hlow, hhigh⟩
  have hpayload : (n + 0x80) % 64 = n := by omega
  rw [continueWith, if_pos hin, hb, hpayload]

theorem continueWith_next {more code n : Nat} {seen rest : List UInt8} (hn : n < 64) :
    continueWith (more + 1) 0x80 0xBF code seen (UInt8.ofNat (n + 0x80) :: rest) =
      continueWith more 0x80 0xBF (code * 64 + n) (UInt8.ofNat (n + 0x80) :: seen) rest :=
  @continueWith_cons more code 0x80 0xBF n seen rest hn (by omega) (by omega) (by omega)

/-! ## Characters -/

variable {fuel position a b c d : Nat} {rest : List UInt8} {read : List Char}

theorem decodeFrom_lead {lead low high : UInt8} {more code : Nat} {bs : List UInt8} (hlead : 0x80 ≤ lead.toNat)
    (hc : continuation lead = some (more, low, high))
    (hw : continueWith more low high (leadPayload more lead) [lead] bs = .ok (code, rest)) :
    decodeFrom (fuel + 1) position (lead :: bs) read =
      decodeFrom fuel (position + 1 + more) rest (Char.ofNat code :: read) := by
  have hlong : ¬ lead < 0x80 := by
    rw [UInt8.lt_iff_toNat_lt]
    exact Nat.not_lt.mpr hlead
  rw [decodeFrom, if_neg hlong]
  simp only [hc, hw]

theorem decodeFrom_one (ha : a < 0x80) :
    decodeFrom (fuel + 1) position (UInt8.ofNat a :: rest) read =
      decodeFrom fuel (position + 1) rest (Char.ofNat a :: read) := by
  have hbyte : (UInt8.ofNat a).toNat = a := toNat_byte (by omega)
  have hshort : UInt8.ofNat a < 0x80 := UInt8.lt_iff_toNat_lt.mpr (by rw [hbyte]; exact ha)
  rw [decodeFrom, if_pos hshort, hbyte]

theorem decodeFrom_two (ha : a < 32) (hlong : 2 ≤ a) (hb : b < 64) :
    decodeFrom (fuel + 1) position (UInt8.ofNat (a + 0xC0) :: UInt8.ofNat (b + 0x80) :: rest) read =
      decodeFrom fuel (position + 1 + 1) rest (Char.ofNat (a * 64 + b) :: read) := by
  have hlead : (UInt8.ofNat (a + 0xC0)).toNat = a + 0xC0 := toNat_byte (by omega)
  have hpayload : leadPayload 1 (UInt8.ofNat (a + 0xC0)) = a := by
    rw [leadPayload, hlead, if_pos rfl]
    omega
  refine decodeFrom_lead (by omega) (continuation_two a ha hlong) ?_
  rw [hpayload, continueWith_next hb, continueWith]

theorem decodeFrom_three (ha : a < 16) (hb : b < 64) (hc : c < 64) (hlong : a = 0 → 32 ≤ b) (hplane : a = 13 → b < 32) :
    decodeFrom (fuel + 1) position
        (UInt8.ofNat (a + 0xE0) :: UInt8.ofNat (b + 0x80) :: UInt8.ofNat (c + 0x80) :: rest) read =
      decodeFrom fuel (position + 1 + 2) rest (Char.ofNat ((a * 64 + b) * 64 + c) :: read) := by
  have hlead : (UInt8.ofNat (a + 0xE0)).toNat = a + 0xE0 := toNat_byte (by omega)
  have hpayload : leadPayload 2 (UInt8.ofNat (a + 0xE0)) = a := by
    rw [leadPayload, hlead, if_neg (by decide), if_pos rfl]
    omega
  refine decodeFrom_lead (by omega) (continuation_three a ha) ?_
  rw [hpayload, continueWith_cons hb (by split <;> omega) (by split <;> omega) (by split <;> omega), continueWith_next hc,
    continueWith]

theorem decodeFrom_four (ha : a < 5) (hb : b < 64) (hc : c < 64) (hd : d < 64) (hlong : a = 0 → 16 ≤ b)
    (hsmall : a = 4 → b < 16) :
    decodeFrom (fuel + 1) position
        (UInt8.ofNat (a + 0xF0) :: UInt8.ofNat (b + 0x80) :: UInt8.ofNat (c + 0x80) :: UInt8.ofNat (d + 0x80) :: rest) read =
      decodeFrom fuel (position + 1 + 3) rest (Char.ofNat (((a * 64 + b) * 64 + c) * 64 + d) :: read) := by
  have hlead : (UInt8.ofNat (a + 0xF0)).toNat = a + 0xF0 := toNat_byte (by omega)
  have hpayload : leadPayload 3 (UInt8.ofNat (a + 0xF0)) = a := by
    rw [leadPayload, hlead, if_neg (by decide), if_neg (by decide)]
    omega
  refine decodeFrom_lead (by omega) (continuation_four a ha) ?_
  rw [hpayload, continueWith_cons hb (by split <;> omega) (by split <;> omega) (by split <;> omega), continueWith_next hc,
    continueWith_next hd, continueWith]

/-- The bytes of a character are read as that character. -/
theorem decodeFrom_char (c : Char) : ∃ next, decodeFrom (fuel + 1) position (String.utf8EncodeChar c ++ rest) read =
    decodeFrom fuel next rest (c :: read) := by
  have hback : Char.ofNat c.val.toNat = c := Char.ofNat_toNat c
  have hvalid : c.val.toNat < 0xD800 ∨ 0xDFFF < c.val.toNat ∧ c.val.toNat < 0x110000 := c.valid
  unfold String.utf8EncodeChar
  generalize c.val.toNat = v at hback hvalid
  dsimp only
  rw [← hback]
  split
  · exact ⟨_, decodeFrom_one (by omega)⟩
  · split
    · have hcode : v / 64 % 32 * 64 + v % 64 = v := by omega
      exact ⟨_, (decodeFrom_two (by omega) (by omega) (by omega)).trans (by rw [hcode]; rfl)⟩
    · split
      · have hcode : (v / 4096 % 16 * 64 + v / 64 % 64) * 64 + v % 64 = v := by omega
        exact ⟨_, (decodeFrom_three (by omega) (by omega) (by omega) (by omega) (by omega)).trans (by rw [hcode]; rfl)⟩
      · have hcode : ((v / 262144 % 8 * 64 + v / 4096 % 64) * 64 + v / 64 % 64) * 64 + v % 64 = v := by omega
        exact ⟨_, (decodeFrom_four (by omega) (by omega) (by omega) (by omega) (by omega) (by omega)).trans
          (by rw [hcode]; rfl)⟩

/-! ## Texts -/

theorem decodeFrom_chars (cs : List Char) (hfuel : (cs.flatMap String.utf8EncodeChar).length ≤ fuel) :
    decodeFrom fuel position (cs.flatMap String.utf8EncodeChar) read = .ok (read.reverse ++ cs) := by
  induction cs generalizing fuel position read with
  | nil => rw [List.flatMap_nil, decodeFrom, List.append_nil]
  | cons c cs ih =>
    rw [List.flatMap_cons, List.length_append, String.length_utf8EncodeChar] at hfuel
    have hpos := c.utf8Size_pos
    obtain ⟨fuel, rfl⟩ := Nat.exists_eq_add_one.mpr (by omega : 0 < fuel)
    obtain ⟨next, hnext⟩ : ∃ next, decodeFrom (fuel + 1) position
        (String.utf8EncodeChar c ++ cs.flatMap String.utf8EncodeChar) read =
      decodeFrom fuel next (cs.flatMap String.utf8EncodeChar) (c :: read) := decodeFrom_char c
    rw [List.flatMap_cons, hnext, ih (by omega), List.reverse_cons, List.append_assoc, List.singleton_append]

theorem toList_loop (bytes : ByteArray) (i : Nat) (read : List UInt8) :
    ByteArray.toList.loop bytes i read = read.reverse ++ bytes.data.toList.drop i := by
  fun_induction ByteArray.toList.loop bytes i read with
  | case1 i read hi ih =>
    have hi : i < bytes.data.toList.length := hi
    have hget : bytes.get! i = bytes.data.toList[i] := by
      rw [ByteArray.get!, getElem!_pos bytes.data i hi]
      rfl
    rw [ih, hget, List.drop_eq_getElem_cons hi, List.reverse_cons, List.append_assoc, List.singleton_append]
  | case2 i read hi =>
    have hi : bytes.data.toList.length ≤ i := Nat.le_of_not_lt hi
    rw [List.drop_eq_nil_of_le hi, List.append_nil]

theorem toList_encode (s : String) : (encode s).toList = s.toList.flatMap String.utf8EncodeChar := by
  have hbytes : encode s = (s.toList.flatMap String.utf8EncodeChar).toByteArray := String.utf8Encode_toList.symm
  rw [hbytes, ByteArray.toList, toList_loop, List.reverse_nil, List.nil_append, List.drop_zero,
    List.toList_data_toByteArray]

theorem size_encode (s : String) : (encode s).size = (s.toList.flatMap String.utf8EncodeChar).length := by
  have hbytes : encode s = (s.toList.flatMap String.utf8EncodeChar).toByteArray := String.utf8Encode_toList.symm
  rw [hbytes, ByteArray.size, ← Array.length_toList, List.toList_data_toByteArray]

/-- A text is read back from its bytes. -/
theorem decode_encode (s : String) : decode (encode s) = .ok s := by
  rw [decode, toList_encode, decodeFrom_chars s.toList (Nat.le_of_eq (size_encode s).symm)]
  exact congrArg Except.ok s.ofList_toList

end CrudQueries.Text.Utf8
