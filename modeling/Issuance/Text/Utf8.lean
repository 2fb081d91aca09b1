/-! UTF-8: writing, strict reading, and reading that marks each broken part. -/

namespace Issuance

/-- A string of bytes. -/
abbrev Bytes := List UInt8

namespace Utf8

/-- The bytes of a text. -/
def encode (s : String) : Bytes := s.toList.flatMap String.utf8EncodeChar

/-- The low six bits of a byte that continues a character, if it lies in the span allowed at its place. -/
def continuation? (low high : UInt8) : Bytes → Option (Nat × Bytes)
  | [] => none
  | byte :: rest => if low ≤ byte ∧ byte ≤ high then some (byte.toNat % 64, rest) else none

/-- How many bytes follow a first byte, its own bits, and the span of the byte after it. -/
def lead? (byte : UInt8) : Option (Nat × Nat × UInt8 × UInt8) :=
  -- The span of the second byte keeps out long forms, surrogates and codes above the last one.
  if byte < 0x80 then some (0, byte.toNat, 0, 0)
  else if byte < 0xC2 then none
  else if byte < 0xE0 then some (1, byte.toNat % 32, 0x80, 0xBF)
  else if byte = 0xE0 then some (2, 0, 0xA0, 0xBF)
  else if byte = 0xED then some (2, 13, 0x80, 0x9F)
  else if byte < 0xF0 then some (2, byte.toNat % 16, 0x80, 0xBF)
  else if byte = 0xF0 then some (3, 0, 0x90, 0xBF)
  else if byte < 0xF4 then some (3, byte.toNat % 8, 0x80, 0xBF)
  else if byte = 0xF4 then some (3, 4, 0x80, 0x8F)
  else none

/-- Reads the bytes that follow; none with the unread rest where one is missing or wrong. -/
def follow : Nat → Nat → UInt8 → UInt8 → Bytes → Option Char × Bytes
  | 0, code, _, _, bytes => (some (Char.ofNat code), bytes)
  | count + 1, code, low, high, bytes =>
    match continuation? low high bytes with
    -- The byte that does not fit is left in place, where a new character may start.
    | none => (none, bytes)
    | some (bits, rest) => follow count (64 * code + bits) 0x80 0xBF rest

/-- Reads one character that starts with the given byte, or the longest broken part in its place. -/
def next (byte : UInt8) (rest : Bytes) : Option Char × Bytes :=
  match lead? byte with
  | none => (none, rest)
  | some (count, code, low, high) => follow count code low high rest

theorem follow_length (count code : Nat) (low high : UInt8) (bytes : Bytes) :
    (follow count code low high bytes).2.length ≤ bytes.length := by
  induction count generalizing code low high bytes with
  | zero => simp [follow]
  | succ count ih =>
    unfold follow
    cases bytes with
    | nil => simp [continuation?]
    | cons byte rest =>
      simp only [continuation?]
      split <;> rename_i found
      · simp
      · split at found
        · cases found
          exact Nat.le_trans (ih ..) (by simp)
        · simp at found

theorem next_length (byte : UInt8) (rest : Bytes) : (next byte rest).2.length ≤ rest.length := by
  unfold next
  split
  · exact Nat.le_refl _
  · exact follow_length ..

/-- The characters of a byte string in order, none for each broken part. -/
def pieces : Bytes → List (Option Char)
  | [] => []
  | byte :: rest => (next byte rest).1 :: pieces (next byte rest).2
termination_by bytes => bytes.length
decreasing_by exact Nat.lt_succ_of_le (next_length byte rest)

/-- The characters of a byte string without broken parts. -/
def decodeList? (bytes : Bytes) : Option (List Char) := (pieces bytes).mapM id

/-- The text of a byte string without broken parts. -/
def decode? (bytes : Bytes) : Option String := (decodeList? bytes).map String.ofList

/-- The text of a byte string, with a replacement character for each broken part. -/
def decodeLossy (bytes : Bytes) : String :=
  String.ofList ((pieces bytes).map (·.getD '\uFFFD'))

end Utf8

end Issuance
