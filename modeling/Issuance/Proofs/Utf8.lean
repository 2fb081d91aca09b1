import Issuance.Text.Utf8

/-! Text is read back from its bytes as it was; ASCII text has one byte for each character. -/

namespace Issuance.Utf8

/-- The bytes of characters, one for each. -/
def bytesOf (cs : List Char) : Bytes := cs.map fun c => UInt8.ofNat c.toNat

/-- Characters that are one byte each. -/
def Ascii (cs : List Char) : Prop := ∀ c ∈ cs, c.toNat < 128

instance (cs : List Char) : Decidable (Ascii cs) := List.decidableBAll _ cs

/-- Text is written piece by piece. -/
theorem encode_append (first second : String) :
    encode (first ++ second) = encode first ++ encode second := by
  simp [encode]

/-- An ASCII character is one byte. -/
theorem utf8EncodeChar_of_ascii {c : Char} (ascii : c.toNat < 128) :
    String.utf8EncodeChar c = [UInt8.ofNat c.toNat] := by
  -- The encoding of a character starts with a test for this range.
  have low : c.val.toNat ≤ 127 := Nat.le_of_lt_succ ascii
  exact if_pos low

/-- ASCII characters are written as one byte each. -/
theorem flatMap_of_ascii {cs : List Char} (ascii : Ascii cs) :
    cs.flatMap String.utf8EncodeChar = bytesOf cs := by
  unfold bytesOf
  rw [List.map_eq_flatMap, List.flatMap_def, List.flatMap_def,
    List.map_congr_left fun c member => utf8EncodeChar_of_ascii (ascii c member)]

/-- ASCII text is written as its characters. -/
theorem encode_of_ascii {s : String} (ascii : Ascii s.toList) : encode s = bytesOf s.toList :=
  flatMap_of_ascii ascii

/-- The byte of an ASCII character has that character's code. -/
theorem toNat_of_ascii {c : Char} (ascii : c.toNat < 128) : (UInt8.ofNat c.toNat).toNat = c.toNat :=
  UInt8.toNat_ofNat_of_lt (Nat.lt_trans ascii (by decide))

/-- The byte of an ASCII character is read as that character. -/
theorem next_of_ascii {c : Char} (ascii : c.toNat < 128) (rest : Bytes) :
    next (UInt8.ofNat c.toNat) rest = (some c, rest) := by
  have low : UInt8.ofNat c.toNat < 0x80 := by
    rw [UInt8.lt_iff_toNat_lt, toNat_of_ascii ascii]
    exact ascii
  unfold next lead?
  -- A byte below 128 leads nothing that follows it.
  rw [if_pos low]
  simp only [follow, toNat_of_ascii ascii, Char.ofNat_toNat]

/-- A first byte of two; the least two of them would lead what one byte is enough for. -/
theorem lead?_two : ∀ bits < 32, lead? (UInt8.ofNat (bits + 0xC0)) =
    if bits < 2 then none else some (1, bits, 0x80, 0xBF) := by decide

/-- A first byte of three; the span behind it keeps out shorter characters and surrogates. -/
theorem lead?_three : ∀ bits < 16, lead? (UInt8.ofNat (bits + 0xE0)) =
    some (2, bits, if bits = 0 then 0xA0 else 0x80, if bits = 13 then 0x9F else 0xBF) := by decide

/-- A first byte of four; the span behind it keeps out shorter characters and codes of none. -/
theorem lead?_four : ∀ bits < 5, lead? (UInt8.ofNat (bits + 0xF0)) =
    some (3, bits, if bits = 0 then 0x90 else 0x80, if bits = 4 then 0x8F else 0xBF) := by decide

/-- A byte in the span allowed at its place adds its low six bits to the code. -/
theorem follow_within {bits : Nat} {low high : UInt8} (small : bits < 64)
    (least : low.toNat ≤ bits + 128) (most : bits + 128 ≤ high.toNat) (count code : Nat)
    (rest : Bytes) :
    follow (count + 1) code low high (UInt8.ofNat (bits + 128) :: rest) =
      follow count (64 * code + bits) 0x80 0xBF rest := by
  have value : (UInt8.ofNat (bits + 128)).toNat = bits + 128 :=
    UInt8.toNat_ofNat_of_lt (Nat.lt_of_lt_of_le (Nat.add_lt_add_right small 128) (by decide))
  have within : low ≤ UInt8.ofNat (bits + 128) ∧ UInt8.ofNat (bits + 128) ≤ high := by
    rw [UInt8.le_iff_toNat_le, UInt8.le_iff_toNat_le, value]
    exact ⟨least, most⟩
  have own : (bits + 128) % 64 = bits := by omega
  simp only [follow, continuation?, if_pos within, value, own]

/-- Behind the second byte, every byte that continues a character is in the span. -/
theorem follow_further {bits : Nat} (small : bits < 64) (count code : Nat) (rest : Bytes) :
    follow (count + 1) code 0x80 0xBF (UInt8.ofNat (bits + 128) :: rest) =
      follow count (64 * code + bits) 0x80 0xBF rest := by
  have most : bits + 128 ≤ (0xBF : UInt8).toNat :=
    Nat.add_le_add_right (Nat.le_of_lt_succ small) 128
  exact follow_within small (Nat.le_add_left ..) most count code rest

section Lengths

variable {code : Nat} (rest : Bytes)

/-- The two bytes of a code are read as its character. -/
theorem next_of_two (least : 0x80 ≤ code) (short : code < 0x800) :
    next (UInt8.ofNat (code / 64 % 32 + 0xC0)) (UInt8.ofNat (code % 64 + 0x80) :: rest) =
      (some (Char.ofNat code), rest) := by
  have lead := lead?_two _ (Nat.mod_lt (code / 64) (by decide))
  rw [if_neg (by omega)] at lead
  have whole : 64 * (code / 64 % 32) + code % 64 = code := by omega
  simp only [next, lead]
  rw [follow_further (by omega), follow, whole]

/-- The three bytes of a code are read as its character, unless it is a surrogate. -/
theorem next_of_three (least : 0x800 ≤ code) (short : code < 0x10000)
    (valid : code < 0xD800 ∨ 0xDFFF < code) :
    next (UInt8.ofNat (code / 4096 % 16 + 0xE0))
        (UInt8.ofNat (code / 64 % 64 + 0x80) :: UInt8.ofNat (code % 64 + 0x80) :: rest) =
      (some (Char.ofNat code), rest) := by
  have lead := lead?_three _ (Nat.mod_lt (code / 4096) (by decide))
  have whole : 64 * (64 * (code / 4096 % 16) + code / 64 % 64) + code % 64 = code := by omega
  -- Below the first code of three bytes, and among surrogates, there is no character.
  have low : (if code / 4096 % 16 = 0 then 0xA0 else 0x80 : UInt8).toNat ≤
      code / 64 % 64 + 128 := by
    split
    · show 160 ≤ _
      omega
    · exact Nat.le_add_left ..
  have high : code / 64 % 64 + 128 ≤
      (if code / 4096 % 16 = 13 then 0x9F else 0xBF : UInt8).toNat := by
    split
    · show _ ≤ 159
      omega
    · show _ ≤ 191
      omega
  simp only [next, lead]
  rw [follow_within (by omega) low high, follow_further (by omega), follow, whole]

/-- The four bytes of a code are read as its character. -/
theorem next_of_four (least : 0x10000 ≤ code) (short : code < 0x110000) :
    next (UInt8.ofNat (code / 262144 % 8 + 0xF0))
        (UInt8.ofNat (code / 4096 % 64 + 0x80) :: UInt8.ofNat (code / 64 % 64 + 0x80) ::
          UInt8.ofNat (code % 64 + 0x80) :: rest) =
      (some (Char.ofNat code), rest) := by
  have lead := lead?_four (code / 262144 % 8) (by omega)
  have whole : 64 * (64 * (64 * (code / 262144 % 8) + code / 4096 % 64) + code / 64 % 64) +
      code % 64 = code := by omega
  -- Below the first code of four bytes, and above the last one, there is none either.
  have low : (if code / 262144 % 8 = 0 then 0x90 else 0x80 : UInt8).toNat ≤
      code / 4096 % 64 + 128 := by
    split
    · show 144 ≤ _
      omega
    · exact Nat.le_add_left ..
  have high : code / 4096 % 64 + 128 ≤
      (if code / 262144 % 8 = 4 then 0x8F else 0xBF : UInt8).toNat := by
    split
    · show _ ≤ 143
      omega
    · show _ ≤ 191
      omega
  simp only [next, lead]
  rw [follow_within (by omega) low high, follow_further (by omega), follow_further (by omega),
    follow, whole]

end Lengths

/-- A character is read from its bytes, whatever stands behind them. -/
theorem next_utf8EncodeChar (c : Char) (rest : Bytes) : ∃ byte others,
    String.utf8EncodeChar c = byte :: others ∧ next byte (others ++ rest) = (some c, rest) := by
  have valid : c.val.toNat < 0xD800 ∨ 0xDFFF < c.val.toNat ∧ c.val.toNat < 0x110000 := c.valid
  have own : Char.ofNat c.val.toNat = c := Char.ofNat_toNat c
  -- One case for each length: the second byte lies in the span that the first one leaves it.
  fun_cases String.utf8EncodeChar c with
  | case1 code short => exact ⟨_, _, rfl, next_of_ascii (Nat.lt_succ_of_le short) rest⟩
  | case2 code notOne short =>
    have read := next_of_two rest (Nat.lt_of_not_le notOne) (Nat.lt_succ_of_le short)
    exact ⟨_, _, rfl, by rw [← own]; exact read⟩
  | case3 code notOne notTwo short =>
    have read := next_of_three rest (Nat.lt_of_not_le notTwo) (Nat.lt_succ_of_le short)
      (valid.imp_right And.left)
    exact ⟨_, _, rfl, by rw [← own]; exact read⟩
  | case4 code notOne notTwo notThree =>
    have read := next_of_four rest (Nat.lt_of_not_le notThree) (by omega)
    exact ⟨_, _, rfl, by rw [← own]; exact read⟩

/-- The bytes of characters are read as those characters. -/
theorem pieces_flatMap (cs : List Char) :
    pieces (cs.flatMap String.utf8EncodeChar) = cs.map some := by
  induction cs with
  | nil => simp [pieces]
  | cons c cs ih =>
    obtain ⟨byte, others, bytes, read⟩ :=
      next_utf8EncodeChar c (cs.flatMap String.utf8EncodeChar)
    rw [List.flatMap_cons, bytes, List.cons_append, pieces, read, ih]
    rfl

theorem decodeList?_flatMap (cs : List Char) :
    decodeList? (cs.flatMap String.utf8EncodeChar) = some cs := by
  -- Every piece is a character, so that the whole is text.
  rw [decodeList?, pieces_flatMap, List.mapM_map]
  exact List.mapM_pure.trans (congrArg some (List.map_id cs))

/-- Text is read back as it was. -/
theorem decode?_encode (s : String) : decode? (encode s) = some s := by
  rw [decode?, encode, decodeList?_flatMap, Option.map_some, String.ofList_toList]

theorem decodeList?_of_ascii {cs : List Char} (ascii : Ascii cs) :
    decodeList? (bytesOf cs) = some cs := by
  rw [← flatMap_of_ascii ascii, decodeList?_flatMap]

/-- ASCII text is read back as it was. -/
theorem decode?_of_ascii {s : String} (ascii : Ascii s.toList) :
    decode? (bytesOf s.toList) = some s := by
  rw [← encode_of_ascii ascii, decode?_encode]

/-- Bytes are the codes of ASCII characters exactly if they are the bytes of these. -/
theorem map_ofNat_eq_iff {bytes : Bytes} {cs : List Char} (ascii : Ascii cs) :
    (bytes.map fun byte => Char.ofNat byte.toNat) = cs ↔ bytes = bytesOf cs := by
  constructor
  · rintro rfl
    -- Every byte is the code of a character.
    have own (byte : UInt8) : UInt8.ofNat (Char.ofNat byte.toNat).toNat = byte := by
      have valid : byte.toNat.isValidChar := .inl (Nat.lt_trans byte.toNat_lt (by decide))
      rw [Char.ofNat, dif_pos valid]
      exact UInt8.ofNat_toNat
    rw [bytesOf, List.map_map]
    exact ((List.map_congr_left fun byte _ => own byte).trans (List.map_id' bytes)).symm
  · rintro rfl
    rw [bytesOf, List.map_map]
    conv => rhs; rw [← List.map_id cs]
    refine List.map_congr_left fun c member => ?_
    rw [Function.comp_apply, toNat_of_ascii (ascii c member), Char.ofNat_toNat, id]

end Issuance.Utf8
