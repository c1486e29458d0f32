import Rabb1tClaw.Foundations.Utf8

namespace Foundations

/-!
# Decoding UTF-8

`fromUtf8Lossy` reads any bytes, valid or not: each maximal start of a
sequence that breaks off becomes one replacement character.  `fromUtf8`
accepts exactly the bytes that are the encoding of a text.  Decoding undoes
encoding, which is all that a protocol needs of a decoder on bytes it has
encoded itself.
-/

namespace Text

/-- A sequence that has begun: how many bytes it still needs, its value so
far, and the range in which the next byte has to lie. -/
structure Sequence where
  missing : Nat
  value : Nat
  low : Nat
  high : Nat

/-- `char::REPLACEMENT_CHARACTER`. -/
def replacement : Char := Char.ofNat 0xFFFD

/-- The first byte of a sequence: a character, the start of a longer sequence,
or nothing valid.  The ranges of the second byte exclude overlong forms,
surrogates and values beyond the last character. -/
def leadByte (byte : Nat) : Char ⊕ Sequence :=
  if byte < 0x80 then .inl (Char.ofNat byte)
  else if byte < 0xC2 then .inl replacement
  else if byte < 0xE0 then .inr ⟨1, byte - 0xC0, 0x80, 0xBF⟩
  else if byte = 0xE0 then .inr ⟨2, 0x0, 0xA0, 0xBF⟩
  else if byte = 0xED then .inr ⟨2, 0xD, 0x80, 0x9F⟩
  else if byte < 0xF0 then .inr ⟨2, byte - 0xE0, 0x80, 0xBF⟩
  else if byte = 0xF0 then .inr ⟨3, 0, 0x90, 0xBF⟩
  else if byte < 0xF4 then .inr ⟨3, byte - 0xF0, 0x80, 0xBF⟩
  else if byte = 0xF4 then .inr ⟨3, 4, 0x80, 0x8F⟩
  else .inl replacement

/-- Decode bytes behind a sequence that may have begun.  A sequence that
breaks off becomes one replacement character, and the byte that breaks it is
read again as a first byte. -/
def decodeFrom : Option Sequence → List UInt8 → Text
  | none, [] => []
  | some _, [] => [replacement]
  | none, byte :: bytes =>
      match leadByte byte.toNat with
      | .inl char => char :: decodeFrom none bytes
      | .inr sequence => decodeFrom (some sequence) bytes
  | some sequence, byte :: bytes =>
      if sequence.low ≤ byte.toNat ∧ byte.toNat ≤ sequence.high then
        let value := sequence.value * 64 + (byte.toNat - 0x80)
        if sequence.missing = 1 then
          Char.ofNat value :: decodeFrom none bytes
        else
          decodeFrom (some ⟨sequence.missing - 1, value, 0x80, 0xBF⟩) bytes
      else
        match leadByte byte.toNat with
        | .inl char => replacement :: char :: decodeFrom none bytes
        | .inr next => replacement :: decodeFrom (some next) bytes

/-- `String::from_utf8_lossy`. -/
def fromUtf8Lossy (bytes : List UInt8) : Text :=
  decodeFrom none bytes

/-- `String::from_utf8`: bytes that are the encoding of a text. -/
def fromUtf8 (bytes : List UInt8) : Option Text :=
  if (fromUtf8Lossy bytes).bytes = bytes then some (fromUtf8Lossy bytes) else none

/-! ## Decoding an encoding -/

theorem toNat_ofNat_byte {byte : Nat} (fits : byte < 256) : (UInt8.ofNat byte).toNat = byte := by
  rw [UInt8.toNat_ofNat']
  exact Nat.mod_eq_of_lt fits

/-- A first byte that starts a longer sequence. -/
theorem decodeFrom_lead {byte : Nat} {sequence : Sequence} (rest : List UInt8) (fits : byte < 256)
    (starts : leadByte byte = .inr sequence) :
    decodeFrom none (UInt8.ofNat byte :: rest) = decodeFrom (some sequence) rest := by
  rw [decodeFrom, toNat_ofNat_byte fits, starts]

/-- A byte inside a sequence. -/
theorem decodeFrom_inner {missing value low high byte : Nat} (rest : List UInt8)
    (fits : byte < 256) (inside : low ≤ byte ∧ byte ≤ high) (more : missing ≠ 1) :
    decodeFrom (some ⟨missing, value, low, high⟩) (UInt8.ofNat byte :: rest) =
      decodeFrom (some ⟨missing - 1, value * 64 + (byte - 0x80), 0x80, 0xBF⟩) rest := by
  rw [decodeFrom, toNat_ofNat_byte fits, if_pos inside, if_neg more]

/-- The last byte of a sequence. -/
theorem decodeFrom_last {value low high byte : Nat} (rest : List UInt8) (fits : byte < 256)
    (inside : low ≤ byte ∧ byte ≤ high) :
    decodeFrom (some ⟨1, value, low, high⟩) (UInt8.ofNat byte :: rest) =
      Char.ofNat (value * 64 + (byte - 0x80)) :: decodeFrom none rest := by
  rw [decodeFrom, toNat_ofNat_byte fits, if_pos inside, if_pos rfl]

theorem leadByte_two (top : Nat) (bounds : 2 ≤ top ∧ top < 32) :
    leadByte (top + 192) = .inr ⟨1, top, 0x80, 0xBF⟩ := by
  unfold leadByte
  rw [if_neg (by omega), if_neg (by omega), if_pos (by omega), Nat.add_sub_cancel]

/-- The second byte of a sequence of three: not overlong, not a surrogate. -/
theorem leadByte_three (top second : Nat) (bounds : top < 16)
    (continues : 0x80 ≤ second ∧ second ≤ 0xBF) (notShort : top = 0 → 0xA0 ≤ second)
    (notSurrogate : top = 13 → second ≤ 0x9F) :
    ∃ low high, leadByte (top + 224) = .inr ⟨2, top, low, high⟩ ∧ low ≤ second ∧ second ≤ high := by
  unfold leadByte
  rw [if_neg (by omega), if_neg (by omega), if_neg (by omega)]
  by_cases first : top = 0
  · exact ⟨0xA0, 0xBF, by rw [if_pos (by omega), first], notShort first, continues.2⟩
  · rw [if_neg (by omega)]
    by_cases surrogates : top = 13
    · exact ⟨0x80, 0x9F, by rw [if_pos (by omega), surrogates], continues.1, notSurrogate surrogates⟩
    · rw [if_neg (by omega), if_pos (by omega), Nat.add_sub_cancel]
      exact ⟨0x80, 0xBF, rfl, continues⟩

/-- The second byte of a sequence of four: not overlong, not too large. -/
theorem leadByte_four (top second : Nat) (bounds : top < 5)
    (continues : 0x80 ≤ second ∧ second ≤ 0xBF) (notShort : top = 0 → 0x90 ≤ second)
    (notLarge : top = 4 → second ≤ 0x8F) :
    ∃ low high, leadByte (top + 240) = .inr ⟨3, top, low, high⟩ ∧ low ≤ second ∧ second ≤ high := by
  unfold leadByte
  rw [if_neg (by omega), if_neg (by omega), if_neg (by omega), if_neg (by omega), if_neg (by omega),
    if_neg (by omega)]
  by_cases first : top = 0
  · exact ⟨0x90, 0xBF, by rw [if_pos (by omega), first], notShort first, continues.2⟩
  · rw [if_neg (by omega)]
    by_cases largest : top = 4
    · exact ⟨0x80, 0x8F, by rw [if_neg (by omega), if_pos (by omega), largest], continues.1,
        notLarge largest⟩
    · rw [if_pos (by omega), Nat.add_sub_cancel]
      exact ⟨0x80, 0xBF, rfl, continues⟩

/-- The encoding of a character is decoded to that character. -/
theorem decodeFrom_utf8EncodeChar (char : Char) (rest : List UInt8) :
    decodeFrom none (String.utf8EncodeChar char ++ rest) = char :: decodeFrom none rest := by
  have valid : char.val.toNat < 0xD800 ∨ 0xDFFF < char.val.toNat ∧ char.val.toNat < 0x110000 :=
    char.valid
  have isChar : Char.ofNat char.val.toNat = char := Char.ofNat_toNat char
  unfold String.utf8EncodeChar
  generalize char.val.toNat = value at valid isChar
  simp only
  split
  · rw [List.singleton_append, decodeFrom, toNat_ofNat_byte (by omega), leadByte, if_pos (by omega)]
    simp only [isChar]
  · split
    · have starts := leadByte_two (value / 64 % 32) (by omega)
      have whole : value / 64 % 32 * 64 + (value % 64 + 128 - 0x80) = value := by omega
      rw [List.cons_append, decodeFrom_lead _ (by omega) starts, List.singleton_append,
        decodeFrom_last _ (by omega) (by omega), whole, isChar]
    · split
      · rcases leadByte_three (value / 4096 % 16) (value / 64 % 64 + 128) (by omega)
          (by omega) (by omega) (by omega) with ⟨low, high, starts, inside⟩
        have whole : (value / 4096 % 16 * 64 + (value / 64 % 64 + 128 - 0x80)) * 64 +
            (value % 64 + 128 - 0x80) = value := by omega
        rw [List.cons_append, decodeFrom_lead _ (by omega) starts, List.cons_append,
          decodeFrom_inner _ (by omega) inside (by omega), List.singleton_append,
          decodeFrom_last _ (by omega) (by omega), whole, isChar]
      · rcases leadByte_four (value / 262144 % 8) (value / 4096 % 64 + 128) (by omega)
          (by omega) (by omega) (by omega) with ⟨low, high, starts, inside⟩
        have whole : ((value / 262144 % 8 * 64 + (value / 4096 % 64 + 128 - 0x80)) * 64 +
            (value / 64 % 64 + 128 - 0x80)) * 64 + (value % 64 + 128 - 0x80) = value := by omega
        rw [List.cons_append, decodeFrom_lead _ (by omega) starts, List.cons_append,
          decodeFrom_inner _ (by omega) inside (by omega), List.cons_append,
          decodeFrom_inner _ (by omega) (by omega) (by omega), List.singleton_append,
          decodeFrom_last _ (by omega) (by omega), whole, isChar]

/-- The encoding of a text in front is decoded to that text. -/
theorem fromUtf8Lossy_bytes_append (text : Text) (rest : List UInt8) :
    fromUtf8Lossy (text.bytes ++ rest) = text ++ fromUtf8Lossy rest := by
  induction text with
  | nil => rfl
  | cons char text inductionHypothesis =>
      rw [fromUtf8Lossy, bytes_cons, List.append_assoc, decodeFrom_utf8EncodeChar]
      exact congrArg (char :: ·) inductionHypothesis

/-- Decoding undoes encoding. -/
theorem fromUtf8Lossy_bytes (text : Text) : fromUtf8Lossy text.bytes = text := by
  have decoded := fromUtf8Lossy_bytes_append text []
  rwa [List.append_nil, show fromUtf8Lossy [] = [] from rfl, List.append_nil] at decoded

theorem fromUtf8_bytes (text : Text) : fromUtf8 text.bytes = some text := by
  rw [fromUtf8, fromUtf8Lossy_bytes, if_pos rfl]

theorem fromUtf8_eq_some_iff {bytes : List UInt8} {text : Text} :
    fromUtf8 bytes = some text ↔ text.bytes = bytes := by
  constructor
  · intro decoded
    rcases Option.ite_none_right_eq_some.mp decoded with ⟨valid, same⟩
    rw [← Option.some.inj same, valid]
  · rintro rfl
    exact fromUtf8_bytes text

/-- A text is its bytes. -/
theorem bytes_injective {first second : Text} (same : first.bytes = second.bytes) : first = second := by
  rw [← fromUtf8Lossy_bytes first, same, fromUtf8Lossy_bytes]

/-- Bytes at the start of a text that are the encoding of a text end on a
character boundary. -/
theorem prefix_of_bytes_prefix {initial text : Text} (starts : initial.bytes <+: text.bytes) :
    initial <+: text := by
  rcases starts with ⟨rest, whole⟩
  refine ⟨fromUtf8Lossy rest, ?_⟩
  rw [← fromUtf8Lossy_bytes_append, whole, fromUtf8Lossy_bytes]

end Text

end Foundations
