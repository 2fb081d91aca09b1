import Issuance.Encoding.Base64

/-! Strict base64 takes back exactly what was written, and nothing else. -/

namespace Issuance.Base64

/-- A digit has the bits it stands for. -/
theorem bits?_digit : ∀ bits < 64, bits? (digit bits) = some bits := by decide

/-- No digit is padding. -/
theorem digit_ne_padding : ∀ bits < 64, digit bits ≠ '=' := by decide

/-- What is written are digits and padding. -/
theorem of_mem_encode {bytes : Bytes} {c : Char} (member : c ∈ encode bytes) :
    c = '=' ∨ ∃ bits < 64, c = digit bits := by
  -- The groups of three bytes give four digits each, and only the last group may be padded.
  fun_induction encode bytes with
  | case1 => simp at member
  | case2 a bits =>
    have small := a.toNat_lt
    simp only [List.mem_cons, List.not_mem_nil, or_false] at member
    rcases member with rfl | rfl | rfl | rfl
    · exact .inr ⟨_, by omega, rfl⟩
    · exact .inr ⟨_, by omega, rfl⟩
    · exact .inl rfl
    · exact .inl rfl
  | case3 a b bits =>
    have small := a.toNat_lt
    have small' := b.toNat_lt
    simp only [List.mem_cons, List.not_mem_nil, or_false] at member
    rcases member with rfl | rfl | rfl | rfl
    · exact .inr ⟨_, by omega, rfl⟩
    · exact .inr ⟨_, by omega, rfl⟩
    · exact .inr ⟨_, by omega, rfl⟩
    · exact .inl rfl
  | case4 a b third rest bits ih =>
    have small := a.toNat_lt
    have small' := b.toNat_lt
    have small'' := third.toNat_lt
    simp only [List.mem_cons] at member
    rcases member with rfl | rfl | rfl | rfl | member
    · exact .inr ⟨_, by omega, rfl⟩
    · exact .inr ⟨_, by omega, rfl⟩
    · exact .inr ⟨_, by omega, rfl⟩
    · exact .inr ⟨_, by omega, rfl⟩
    · exact ih member

/-- Reading what was written gives the same bytes. -/
theorem decode?_encode (bytes : Bytes) : decode? (encode bytes) = some bytes := by
  fun_induction encode bytes with
  | case1 => rfl
  | case2 a bits =>
    have small := a.toNat_lt
    -- Two digits have room for twelve bits, the last four of which are zero.
    have whole : bits / 64 * 64 + bits % 64 = a.toNat * 16 := by omega
    simp only [decode?, bits?_digit (bits / 64) (by omega), bits?_digit (bits % 64) (by omega),
      Option.bind_eq_bind, Option.bind_some, whole]
    rw [if_pos (by omega), Nat.mul_div_cancel _ (by decide), UInt8.ofNat_toNat]
  | case3 a b bits =>
    have small := a.toNat_lt
    have small' := b.toNat_lt
    -- Three digits have room for eighteen bits, the last two of which are zero.
    have whole : (bits / 4096 * 64 + bits / 64 % 64) * 64 + bits % 64 = bits := by omega
    have first : bits / 1024 = a.toNat := by omega
    have second : bits / 4 % 256 = b.toNat := by omega
    rw [decode?]
    · simp only [bits?_digit (bits / 4096) (by omega), bits?_digit (bits / 64 % 64) (by omega),
        bits?_digit (bits % 64) (by omega), Option.bind_eq_bind, Option.bind_some, whole]
      rw [if_pos (by omega), first, second, UInt8.ofNat_toNat, UInt8.ofNat_toNat]
    · exact digit_ne_padding (bits % 64) (by omega)
  | case4 a b c rest bits ih =>
    have small := a.toNat_lt
    have small' := b.toNat_lt
    have small'' := c.toNat_lt
    -- Four digits have room for just the bits of three bytes.
    have whole : ((bits / 262144 * 64 + bits / 4096 % 64) * 64 + bits / 64 % 64) * 64 + bits % 64 =
        bits := by omega
    have first : bits / 65536 = a.toNat := by omega
    have second : bits / 256 % 256 = b.toNat := by omega
    have third : bits % 256 = c.toNat := by omega
    rw [decode?]
    · simp only [bits?_digit (bits / 262144) (by omega), bits?_digit (bits / 4096 % 64) (by omega),
        bits?_digit (bits / 64 % 64) (by omega), bits?_digit (bits % 64) (by omega), ih,
        Option.bind_eq_bind, Option.bind_some, whole, first, second, third, UInt8.ofNat_toNat]
      rfl
    -- A group of four digits is not one of the padded groups.
    · exact fun pad _ => absurd pad (digit_ne_padding (bits / 64 % 64) (by omega))
    · exact fun pad _ => absurd pad (digit_ne_padding (bits % 64) (by omega))

/-- A character of a range is the one at its distance from the first. -/
theorem ofNat_distance {first c : Char} (behind : first ≤ c) :
    Char.ofNat (first.toNat + (c.toNat - first.toNat)) = c := by
  have codes : first.toNat ≤ c.toNat := UInt32.le_iff_toNat_le.mp behind
  rw [Nat.add_sub_cancel' codes, Char.ofNat_toNat]

/-- What has bits is the digit for them. -/
theorem bits?_eq_some {c : Char} {bits : Nat} (found : bits? c = some bits) :
    bits < 64 ∧ digit bits = c := by
  -- The five cases are those of the digits: two kinds of letters, figures and two marks.
  have order {first last : Char} : first ≤ last ↔ first.toNat ≤ last.toNat :=
    UInt32.le_iff_toNat_le
  have codes : 'A'.toNat = 65 ∧ 'Z'.toNat = 90 ∧ 'a'.toNat = 97 ∧ 'z'.toNat = 122 ∧
    '0'.toNat = 48 ∧ '9'.toNat = 57 := by decide
  unfold bits? at found
  split at found
  · next upper =>
    cases found
    have last := order.mp upper.2
    refine ⟨by omega, ?_⟩
    rw [digit, if_pos (by omega), ofNat_distance upper.1]
  · split at found
    · next lower =>
      cases found
      have last := order.mp lower.2
      refine ⟨by omega, ?_⟩
      rw [digit, if_neg (by omega), if_pos (by omega), Nat.add_sub_cancel, ofNat_distance lower.1]
    · split at found
      · next figure =>
        cases found
        have last := order.mp figure.2
        refine ⟨by omega, ?_⟩
        rw [digit, if_neg (by omega), if_neg (by omega), if_pos (by omega), Nat.add_sub_cancel,
          ofNat_distance figure.1]
      · split at found
        · next plus =>
          cases found
          exact ⟨by decide, plus.symm⟩
        · split at found
          · next slash =>
            cases found
            exact ⟨by decide, slash.symm⟩
          · cases found

section Groups

variable {first second third fourth : Nat} (smallW : first < 64) (smallX : second < 64)
  (smallY : third < 64) (smallZ : fourth < 64)

include smallW smallX

/-- One byte is written as the two digits that make it, if the bits left over are zero. -/
theorem encode_two (whole : (first * 64 + second) % 16 = 0) :
    encode [UInt8.ofNat ((first * 64 + second) / 16)] = [digit first, digit second, '=', '='] := by
  have top : (UInt8.ofNat ((first * 64 + second) / 16)).toNat =
      (first * 64 + second) / 16 := UInt8.toNat_ofNat_of_lt (by show _ < 256; omega)
  have firsts : (first * 64 + second) / 16 * 16 / 64 = first := by omega
  have seconds : (first * 64 + second) / 16 * 16 % 64 = second := by omega
  simp only [encode, top, firsts, seconds]

include smallY

/-- Two bytes are written as the three digits that make them, if the bits left over are zero. -/
theorem encode_three {bits : Nat} (group : bits = (first * 64 + second) * 64 + third)
    (whole : bits % 4 = 0) :
    encode [UInt8.ofNat (bits / 1024), UInt8.ofNat (bits / 4 % 256)] =
      [digit first, digit second, digit third, '='] := by
  have top : (UInt8.ofNat (bits / 1024)).toNat = bits / 1024 :=
    UInt8.toNat_ofNat_of_lt (by show _ < 256; omega)
  have middle : (UInt8.ofNat (bits / 4 % 256)).toNat = bits / 4 % 256 :=
    UInt8.toNat_ofNat_of_lt (by show _ < 256; omega)
  have firsts : (bits / 1024 * 256 + bits / 4 % 256) * 4 / 4096 = first := by omega
  have seconds : (bits / 1024 * 256 + bits / 4 % 256) * 4 / 64 % 64 = second := by omega
  have thirds : (bits / 1024 * 256 + bits / 4 % 256) * 4 % 64 = third := by omega
  simp only [encode, top, middle, firsts, seconds, thirds]

include smallZ

/-- Three bytes are written as the four digits that make them, with nothing left over. -/
theorem encode_four {bits : Nat} (group : bits = ((first * 64 + second) * 64 + third) * 64 + fourth)
    (rest : Bytes) :
    encode (UInt8.ofNat (bits / 65536) :: UInt8.ofNat (bits / 256 % 256) ::
        UInt8.ofNat (bits % 256) :: rest) =
      digit first :: digit second :: digit third :: digit fourth :: encode rest := by
  have top : (UInt8.ofNat (bits / 65536)).toNat = bits / 65536 :=
    UInt8.toNat_ofNat_of_lt (by show _ < 256; omega)
  have middle : (UInt8.ofNat (bits / 256 % 256)).toNat = bits / 256 % 256 :=
    UInt8.toNat_ofNat_of_lt (by show _ < 256; omega)
  have bottom : (UInt8.ofNat (bits % 256)).toNat = bits % 256 :=
    UInt8.toNat_ofNat_of_lt (by show _ < 256; omega)
  have whole : (bits / 65536 * 256 + bits / 256 % 256) * 256 + bits % 256 = bits := by omega
  have firsts : bits / 262144 = first := by omega
  have seconds : bits / 4096 % 64 = second := by omega
  have thirds : bits / 64 % 64 = third := by omega
  have fourths : bits % 64 = fourth := by omega
  simp only [encode, top, middle, bottom, whole, firsts, seconds, thirds, fourths]

end Groups

/-- Digits are read only if they are what writing gives for the bytes that they are read as. -/
theorem encode_of_decode? {cs : List Char} {bytes : Bytes} (read : decode? cs = some bytes) :
    encode bytes = cs := by
  -- The groups are those of the reader; in each of them the bits of the digits make whole bytes.
  fun_induction decode? cs generalizing bytes with
  | case1 =>
    cases read
    rfl
  | case2 w x =>
    simp only [Option.bind_eq_bind, Option.bind_eq_some_iff] at read
    obtain ⟨first, foundW, second, foundX, read⟩ := read
    obtain ⟨smallW, rfl⟩ := bits?_eq_some foundW
    obtain ⟨smallX, rfl⟩ := bits?_eq_some foundX
    split at read
    · next whole =>
      cases read
      exact encode_two smallW smallX whole
    · cases read
  | case3 w x y padded =>
    simp only [Option.bind_eq_bind, Option.bind_eq_some_iff] at read
    obtain ⟨first, foundW, second, foundX, third, foundY, read⟩ := read
    obtain ⟨smallW, rfl⟩ := bits?_eq_some foundW
    obtain ⟨smallX, rfl⟩ := bits?_eq_some foundX
    obtain ⟨smallY, rfl⟩ := bits?_eq_some foundY
    split at read
    · next whole =>
      cases read
      exact encode_three smallW smallX smallY rfl whole
    · cases read
  | case4 w x y z rest padded padded' ih =>
    simp only [Option.bind_eq_bind, Option.bind_eq_some_iff, Option.pure_def,
      Option.some.injEq] at read
    obtain ⟨first, foundW, second, foundX, third, foundY, fourth, foundZ, others, further, rfl⟩ :=
      read
    obtain ⟨smallW, rfl⟩ := bits?_eq_some foundW
    obtain ⟨smallX, rfl⟩ := bits?_eq_some foundX
    obtain ⟨smallY, rfl⟩ := bits?_eq_some foundY
    obtain ⟨smallZ, rfl⟩ := bits?_eq_some foundZ
    rw [encode_four smallW smallX smallY smallZ rfl, ih further]
  | case5 => cases read

/-- Exactly what writing gives for bytes is read as them. -/
theorem decode?_eq_some_iff {cs : List Char} {bytes : Bytes} :
    decode? cs = some bytes ↔ cs = encode bytes := by
  constructor
  · exact fun read => (encode_of_decode? read).symm
  · rintro rfl
    exact decode?_encode bytes

end Issuance.Base64
