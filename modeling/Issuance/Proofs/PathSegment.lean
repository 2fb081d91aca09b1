import Issuance.Proofs.Utf8
import Issuance.Text.PathSegment

/-! A path segment holds unreserved characters and escapes alone, and its text is read back from it. -/

namespace Issuance.PathSegment

/-- A character that stands for itself in a segment: a digit, a letter, or one of four marks. -/
def Unreserved (c : Char) : Prop :=
  ('0' ≤ c ∧ c ≤ '9') ∨ ('A' ≤ c ∧ c ≤ 'Z') ∨ ('a' ≤ c ∧ c ≤ 'z') ∨ c ∈ ['_', '.', '-', '~']

instance (c : Char) : Decidable (Unreserved c) :=
  inferInstanceAs (Decidable
    (('0' ≤ c ∧ c ≤ '9') ∨ ('A' ≤ c ∧ c ≤ 'Z') ∨ ('a' ≤ c ∧ c ≤ 'z') ∨ c ∈ ['_', '.', '-', '~']))

/-- A digit of an escape. -/
def Digit (c : Char) : Prop := ('0' ≤ c ∧ c ≤ '9') ∨ ('A' ≤ c ∧ c ≤ 'F')

instance (c : Char) : Decidable (Digit c) :=
  inferInstanceAs (Decidable (('0' ≤ c ∧ c ≤ '9') ∨ ('A' ≤ c ∧ c ≤ 'F')))

/-- Characters of a segment: unreserved ones, and percent signs with two digits behind them. -/
inductive Escaped : List Char → Prop where
  | nil : Escaped []
  | unreserved {c : Char} {cs : List Char} : Unreserved c → Escaped cs → Escaped (c :: cs)
  | escape {high low : Char} {cs : List Char} :
      Digit high → Digit low → Escaped cs → Escaped ('%' :: high :: low :: cs)

/-- A digit in upper case is one of an escape. -/
theorem digit_toUpper_hexDigit : ∀ value < 16, Digit (Text.hexDigit value).toUpper := by decide

/-- A byte that stands for itself is the code of an unreserved character. -/
theorem unreserved_ofNat : ∀ code < 256, isUnreserved (UInt8.ofNat code) = true →
    Unreserved (Char.ofNat code) ∧ (Char.ofNat code).toNat = code := by decide +kernel

/-- A byte is written as its unreserved character, or as an escape with its two digits. -/
theorem encodeByte_cases (byte : UInt8) :
    (∃ c, Unreserved c ∧ UInt8.ofNat c.toNat = byte ∧ encodeByte byte = [c]) ∨
      ∃ high < 16, ∃ low < 16, UInt8.ofNat (16 * high + low) = byte ∧
        encodeByte byte =
          ['%', (Text.hexDigit high).toUpper, (Text.hexDigit low).toUpper] := by
  have bound : byte.toNat < 256 := byte.toNat_lt
  unfold encodeByte
  split
  -- What is unreserved is told by one check over all bytes, and any other byte is split in two halves.
  · next itself =>
    refine .inl ⟨Char.ofNat byte.toNat, ?_⟩
    rw [← UInt8.ofNat_toNat (x := byte)] at itself
    obtain ⟨plain, code⟩ := unreserved_ofNat byte.toNat bound itself
    exact ⟨plain, by rw [code, UInt8.ofNat_toNat], rfl⟩
  · refine .inr ⟨byte.toNat / 16 % 16, Nat.mod_lt _ (by decide), byte.toNat % 16,
      Nat.mod_lt _ (by decide), ?_, rfl⟩
    have whole : 16 * (byte.toNat / 16 % 16) + byte.toNat % 16 = byte.toNat := by omega
    rw [whole, UInt8.ofNat_toNat]

/-- The characters of a byte start a segment. -/
theorem escaped_encodeByte (byte : UInt8) {cs : List Char} (escaped : Escaped cs) :
    Escaped (encodeByte byte ++ cs) := by
  -- The two ways to write a byte are the two ways for a segment to start.
  rcases encodeByte_cases byte with ⟨c, plain, _, written⟩ |
    ⟨high, small, low, small', _, written⟩
  · rw [written]
    exact .unreserved plain escaped
  · rw [written]
    exact .escape (digit_toUpper_hexDigit high small) (digit_toUpper_hexDigit low small') escaped

/-- A text is written without any other characters. -/
theorem escaped_encode (s : String) : Escaped (encode s).toList := by
  -- The induction is on the bytes of the text, each of which is written by itself.
  rw [encode, String.toList_ofList]
  induction Utf8.encode s with
  | nil => exact .nil
  | cons byte bytes ih => exact escaped_encodeByte byte ih

/-- There is no slash in a segment. -/
theorem Escaped.not_mem_slash {cs : List Char} (escaped : Escaped cs) : '/' ∉ cs := by
  induction escaped with
  | nil => exact List.not_mem_nil
  | unreserved plain _ ih =>
    intro member
    rcases List.mem_cons.mp member with rfl | behind
    · exact absurd plain (by decide)
    · exact ih behind
  | escape high low _ ih =>
    -- Neither the percent sign nor a digit is one.
    intro member
    simp only [List.mem_cons, show ('/' : Char) ≠ '%' by decide, false_or] at member
    rcases member with rfl | rfl | behind
    · exact absurd high (by decide)
    · exact absurd low (by decide)
    · exact ih behind

/-- Unreserved characters are ASCII. -/
theorem Unreserved.ascii {c : Char} (plain : Unreserved c) : c.toNat < 128 := by
  have below {last : Char} (le : c ≤ last) : c.toNat ≤ last.toNat := UInt32.le_iff_toNat_le.mp le
  -- Every range ends below 128, and so does the list of marks.
  rcases plain with digit | upper | lower | mark
  · exact Nat.lt_of_le_of_lt (below digit.2) (by decide)
  · exact Nat.lt_of_le_of_lt (below upper.2) (by decide)
  · exact Nat.lt_of_le_of_lt (below lower.2) (by decide)
  · simp only [List.mem_cons, List.not_mem_nil, or_false] at mark
    rcases mark with rfl | rfl | rfl | rfl <;> decide

/-- An unreserved character is read as the byte of its code. -/
theorem decodeBytes?_unreserved {c : Char} (plain : Unreserved c) (cs : List Char) :
    decodeBytes? (c :: cs) = (decodeBytes? cs).map (UInt8.ofNat c.toNat :: ·) := by
  -- It is read by itself, as only a percent sign takes digits along.
  have other : c ≠ '%' := by
    rintro rfl
    exact absurd plain (by decide)
  rw [decodeBytes?]
  · rw [if_pos ⟨plain.ascii, other⟩]
  · intro high low rest percent
    exact absurd percent other

theorem decodeBytes?_encodeByte (byte : UInt8) (cs : List Char) :
    decodeBytes? (encodeByte byte ++ cs) = (decodeBytes? cs).map (byte :: ·) := by
  -- A character gives the byte back as its code, and an escape as the two halves it was split in.
  rcases encodeByte_cases byte with ⟨c, plain, rfl, written⟩ |
    ⟨high, small, low, small', rfl, written⟩
  · rw [written]
    exact decodeBytes?_unreserved plain cs
  · rw [written]
    simp only [List.cons_append, List.nil_append, decodeBytes?,
      Text.hexValue?_toUpper_hexDigit high small, Text.hexValue?_toUpper_hexDigit low small']
    cases decodeBytes? cs <;> rfl

/-- A text is read back from its segment as it was. -/
theorem decode?_encode (s : String) : decode? (encode s) = some s := by
  -- The bytes come back one by one, and what they say is up to their encoding.
  have bytes : decodeBytes? (encode s).toList = some (Utf8.encode s) := by
    rw [encode, String.toList_ofList]
    induction Utf8.encode s with
    | nil => rfl
    | cons byte bytes ih => rw [List.flatMap_cons, decodeBytes?_encodeByte, ih, Option.map_some]
  rw [decode?, bytes]
  exact Utf8.decode?_encode s

/-- Different texts are different segments. -/
theorem encode_inj {s t : String} : encode s = encode t ↔ s = t :=
  ⟨fun same => Option.some.inj (by rw [← decode?_encode s, same, decode?_encode]),
    congrArg encode⟩

end Issuance.PathSegment
