import Rabb1tClaw.Foundations.Substring

namespace Foundations

/-!
# Text with byte offsets

A Rust `str` is a sequence of Unicode scalar values whose positions are byte
offsets into the UTF-8 encoding.  Here a text is the list of its characters,
and every operation that the language states in bytes is stated in bytes: a
slice exists only between offsets that are in order, inside the text and on
character boundaries, and is `none` where the language would panic.

Nothing above this module computes with offsets.  A slice taken at the byte
length of a prefix is the corresponding suffix (`sliceFrom_append`), and a
byte compared with an ASCII byte is a character compared with a character
(`byteAt_append_cons`).
-/

/-- The characters of a string. -/
abbrev Text := List Char

namespace Text

/-- Length in bytes. -/
def len : Text → Nat
  | [] => 0
  | char :: rest => char.utf8Size + len rest

/-- The UTF-8 encoding. -/
def bytes (text : Text) : List UInt8 :=
  text.flatMap String.utf8EncodeChar

/-- `&text[offset..]`, or `none` where the slice would panic. -/
def sliceFrom : Text → Nat → Option Text
  | text, 0 => some text
  | [], _ + 1 => none
  | char :: rest, offset + 1 =>
      if char.utf8Size ≤ offset + 1 then sliceFrom rest (offset + 1 - char.utf8Size) else none

/-- `&text[..offset]`, or `none` where the slice would panic. -/
def sliceTo : Text → Nat → Option Text
  | _, 0 => some []
  | [], _ + 1 => none
  | char :: rest, offset + 1 =>
      if char.utf8Size ≤ offset + 1 then
        (sliceTo rest (offset + 1 - char.utf8Size)).map (char :: ·)
      else none

/-- `&text[start..stop]`.  A start beyond the stop panics as well. -/
def slice (text : Text) (start stop : Nat) : Option Text :=
  (sliceTo text stop).bind fun initial => sliceFrom initial start

/-- `text.as_bytes()[offset]`, or `none` where the index is out of bounds. -/
def byteAt (text : Text) (offset : Nat) : Option UInt8 :=
  (bytes text)[offset]?

/-- `text.find(pattern)`: the byte offset of the first occurrence. -/
def find (pattern text : Text) : Option Nat :=
  (cut pattern text).map fun parts => len parts.1

/-- `text.rfind(pattern)`: the byte offset of the last occurrence. -/
def rfind (pattern text : Text) : Option Nat :=
  (cut pattern.reverse text.reverse).map fun parts => len parts.2

/-- `char::is_whitespace`: the Unicode property `White_Space`. -/
def isWhitespace (char : Char) : Bool :=
  let code := char.val.toNat
  (9 ≤ code && code ≤ 13) || code == 0x20 || code == 0x85 || code == 0xA0 || code == 0x1680 ||
    (0x2000 ≤ code && code ≤ 0x200A) || code == 0x2028 || code == 0x2029 || code == 0x202F ||
    code == 0x205F || code == 0x3000

def trimStart (text : Text) : Text :=
  text.dropWhile isWhitespace

def trimEnd (text : Text) : Text :=
  (text.reverse.dropWhile isWhitespace).reverse

def trim (text : Text) : Text :=
  trimEnd (trimStart text)

/-- `text.strip_prefix(initial)`. -/
def stripPrefix (text initial : Text) : Option Text :=
  if initial.isPrefixOf text then some (text.drop initial.length) else none

/-! ## Prefixes -/

theorem stripPrefix_eq_some {initial text later : Text} :
    stripPrefix text initial = some later ↔ initial ++ later = text := by
  unfold stripPrefix
  split
  · rename_i starts
    have whole := List.prefix_iff_eq_append.mp (List.isPrefixOf_iff_prefix.mp starts)
    rw [Option.some.injEq]
    constructor
    · rintro rfl
      exact whole
    · intro same
      rw [← same, List.drop_left]
  · rename_i differs
    constructor
    · intro impossible
      cases impossible
    · intro same
      exact absurd (List.isPrefixOf_iff_prefix.mpr ⟨later, same⟩) differs

theorem stripPrefix_eq_none {text initial : Text} (differs : ¬ initial <+: text) :
    stripPrefix text initial = none := by
  rw [stripPrefix, if_neg (fun same => differs (List.isPrefixOf_iff_prefix.mp same))]

/-! ## Byte lengths -/

@[simp] theorem len_nil : len [] = 0 := rfl

@[simp] theorem len_cons (char : Char) (rest : Text) :
    len (char :: rest) = char.utf8Size + len rest := rfl

@[simp] theorem len_append (first second : Text) :
    len (first ++ second) = len first + len second := by
  induction first with
  | nil => simp
  | cons char rest inductionHypothesis =>
      simp only [List.cons_append, len_cons, inductionHypothesis, Nat.add_assoc]

theorem len_eq_zero_iff {text : Text} : len text = 0 ↔ text = [] := by
  cases text with
  | nil => simp
  | cons char rest =>
      have positive := char.utf8Size_pos
      simp only [len_cons, reduceCtorEq, iff_false]
      omega

@[simp] theorem length_bytes (text : Text) : (bytes text).length = len text := by
  induction text with
  | nil => rfl
  | cons char rest inductionHypothesis =>
      simp only [bytes, List.flatMap_cons, List.length_append, String.length_utf8EncodeChar,
        len_cons]
      exact congrArg _ inductionHypothesis

@[simp] theorem bytes_append (first second : Text) :
    bytes (first ++ second) = bytes first ++ bytes second := by
  simp [bytes]

@[simp] theorem bytes_cons (char : Char) (rest : Text) :
    bytes (char :: rest) = String.utf8EncodeChar char ++ bytes rest := by
  simp [bytes]

/-! ## Slices at the ends of prefixes -/

@[simp] theorem sliceFrom_zero (text : Text) : sliceFrom text 0 = some text := by
  cases text <;> rfl

@[simp] theorem sliceTo_zero (text : Text) : sliceTo text 0 = some [] := by
  cases text <;> rfl

/-- The byte length of a prefix is a legal offset and names its suffix. -/
theorem sliceFrom_append (before after : Text) :
    sliceFrom (before ++ after) (len before) = some after := by
  induction before with
  | nil => simp
  | cons char rest inductionHypothesis =>
      have positive := char.utf8Size_pos
      obtain ⟨size, width⟩ : ∃ size, len (char :: rest) = size + 1 :=
        Nat.exists_eq_succ_of_ne_zero (by simp only [len_cons]; omega)
      have fits : char.utf8Size ≤ size + 1 := by rw [← width]; simp
      have left : size + 1 - char.utf8Size = len rest := by rw [← width]; simp
      rw [List.cons_append, width, sliceFrom, if_pos fits, left, inductionHypothesis]

theorem sliceTo_append (before after : Text) :
    sliceTo (before ++ after) (len before) = some before := by
  induction before with
  | nil => simp
  | cons char rest inductionHypothesis =>
      have positive := char.utf8Size_pos
      obtain ⟨size, width⟩ : ∃ size, len (char :: rest) = size + 1 :=
        Nat.exists_eq_succ_of_ne_zero (by simp only [len_cons]; omega)
      have fits : char.utf8Size ≤ size + 1 := by rw [← width]; simp
      have left : size + 1 - char.utf8Size = len rest := by rw [← width]; simp
      rw [List.cons_append, width, sliceTo, if_pos fits, left, inductionHypothesis]
      rfl

theorem slice_append (before middle after : Text) :
    slice (before ++ (middle ++ after)) (len before) (len before + len middle) = some middle := by
  rw [slice, ← List.append_assoc, ← len_append, sliceTo_append]
  exact sliceFrom_append before middle

theorem sliceFrom_of_lt {text : Text} {start : Nat} (beyond : len text < start) :
    sliceFrom text start = none := by
  induction text generalizing start with
  | nil =>
      rcases Nat.exists_eq_succ_of_ne_zero (Nat.ne_of_gt beyond) with ⟨more, rfl⟩
      rfl
  | cons char rest inductionHypothesis =>
      rcases Nat.exists_eq_succ_of_ne_zero (Nat.ne_zero_of_lt beyond) with ⟨more, rfl⟩
      rw [len_cons] at beyond
      rw [sliceFrom, if_pos (by omega)]
      exact inductionHypothesis (by omega)

/-- A slice that starts beyond its end panics, wherever its end lies. -/
theorem slice_of_lt (before after : Text) {start : Nat} (inverted : len before < start) :
    slice (before ++ after) start (len before) = none := by
  rw [slice, sliceTo_append]
  exact sliceFrom_of_lt inverted

/-- A slice to an offset is a prefix of that length. -/
theorem eq_append_of_sliceTo {text initial : Text} {stop : Nat} (taken : sliceTo text stop = some initial) :
    ∃ after, text = initial ++ after ∧ stop = len initial := by
  induction text generalizing stop initial with
  | nil =>
      cases stop with
      | zero =>
          rcases Option.some.inj taken with rfl
          exact ⟨[], rfl, rfl⟩
      | succ stop => cases taken
  | cons char rest inductionHypothesis =>
      cases stop with
      | zero =>
          rcases Option.some.inj taken with rfl
          exact ⟨char :: rest, rfl, rfl⟩
      | succ stop =>
          rcases Option.ite_none_right_eq_some.mp taken with ⟨fits, mapped⟩
          rcases Option.map_eq_some_iff.mp mapped with ⟨later, inner, rfl⟩
          rcases inductionHypothesis inner with ⟨after, rfl, width⟩
          refine ⟨after, rfl, ?_⟩
          rw [len_cons, ← width]
          omega

/-- A slice from an offset is the suffix behind a prefix of that length. -/
theorem eq_append_of_sliceFrom {text final : Text} {start : Nat} (taken : sliceFrom text start = some final) :
    ∃ before, text = before ++ final ∧ start = len before := by
  induction text generalizing start with
  | nil =>
      cases start with
      | zero =>
          rcases Option.some.inj taken with rfl
          exact ⟨[], rfl, rfl⟩
      | succ start => cases taken
  | cons char rest inductionHypothesis =>
      cases start with
      | zero =>
          rcases Option.some.inj taken with rfl
          exact ⟨[], rfl, rfl⟩
      | succ start =>
          rcases Option.ite_none_right_eq_some.mp taken with ⟨fits, inner⟩
          rcases inductionHypothesis inner with ⟨before, rfl, width⟩
          refine ⟨char :: before, rfl, ?_⟩
          rw [len_cons, ← width]
          omega

/-- What a slice is: a stretch of the text between two prefixes of the given
lengths. -/
theorem slice_eq_some_iff {text middle : Text} {start stop : Nat} :
    slice text start stop = some middle ↔ ∃ before after,
      text = before ++ (middle ++ after) ∧ start = len before ∧ stop = start + len middle := by
  constructor
  · intro taken
    rcases Option.bind_eq_some_iff.mp taken with ⟨initial, first, second⟩
    rcases eq_append_of_sliceTo first with ⟨after, rfl, rfl⟩
    rcases eq_append_of_sliceFrom second with ⟨before, rfl, rfl⟩
    exact ⟨before, after, List.append_assoc _ _ _, rfl, len_append _ _⟩
  · rintro ⟨before, after, rfl, rfl, rfl⟩
    exact slice_append before middle after

/-- More text does not change a slice. -/
theorem slice_append_of_some {text middle : Text} {start stop : Nat}
    (taken : slice text start stop = some middle) (more : Text) :
    slice (text ++ more) start stop = some middle := by
  rcases slice_eq_some_iff.mp taken with ⟨before, after, rfl, first, last⟩
  refine slice_eq_some_iff.mpr ⟨before, after ++ more, ?_, first, last⟩
  simp only [List.append_assoc]

/-! ## Searching for a character -/

@[simp] theorem len_reverse (text : Text) : len text.reverse = len text := by
  induction text with
  | nil => rfl
  | cons char rest inductionHypothesis =>
      rw [List.reverse_cons, len_append, inductionHypothesis, len_cons, len_cons, len_nil, Nat.add_comm]
      rfl

theorem find_char {before : Text} {char : Char} (absent : char ∉ before) (after : Text) :
    find [char] (before ++ char :: after) = some (len before) := by
  rw [find, cut_of_not_mem absent after, Option.map_some]

theorem rfind_char (before : Text) {char : Char} {after : Text} (absent : char ∉ after) :
    rfind [char] (before ++ char :: after) = some (len before) := by
  have reversed : (before ++ char :: after).reverse = after.reverse ++ char :: before.reverse := by simp
  rw [rfind, reversed, List.reverse_singleton, cut_of_not_mem (mt List.mem_reverse.mp absent), Option.map_some,
    len_reverse]

theorem find_char_eq_none {char : Char} {text : Text} (absent : char ∉ text) : find [char] text = none := by
  have nowhere : ¬ [char] <:+: text := fun occurs => absent (occurs.subset List.mem_cons_self)
  rw [find, cut_eq_none_iff.mpr nowhere, Option.map_none]

theorem rfind_char_eq_none {char : Char} {text : Text} (absent : char ∉ text) : rfind [char] text = none := by
  have nowhere : ¬ [char].reverse <:+: text.reverse := by
    rw [List.reverse_infix]
    exact fun occurs => absent (occurs.subset List.mem_cons_self)
  rw [rfind, cut_eq_none_iff.mpr nowhere, Option.map_none]

theorem trim_infix (text : Text) : trim text <:+: text := by
  have back : trim text <+: trimStart text := by
    rw [trim, trimEnd, ← List.reverse_suffix, List.reverse_reverse]
    exact List.dropWhile_suffix _
  exact back.isInfix.trans (List.dropWhile_suffix _).isInfix

/-! ## Bytes and ASCII characters -/

/-- An ASCII byte occurs only in the encoding of its own character. -/
theorem val_eq_of_mem_utf8EncodeChar {char : Char} {byte : UInt8}
    (member : byte ∈ String.utf8EncodeChar char) (ascii : byte.toNat < 128) :
    char.val.toNat = byte.toNat := by
  unfold String.utf8EncodeChar at member
  simp only at member
  split at member
  · rw [List.mem_singleton] at member
    rw [member, UInt8.toNat_ofNat']
    omega
  · exfalso
    split at member
    · simp only [List.mem_cons, List.not_mem_nil, or_false] at member
      rcases member with rfl | rfl <;> rw [UInt8.toNat_ofNat'] at ascii <;> omega
    · split at member
      · simp only [List.mem_cons, List.not_mem_nil, or_false] at member
        rcases member with rfl | rfl | rfl <;> rw [UInt8.toNat_ofNat'] at ascii <;> omega
      · simp only [List.mem_cons, List.not_mem_nil, or_false] at member
        rcases member with rfl | rfl | rfl | rfl <;> rw [UInt8.toNat_ofNat'] at ascii <;> omega

/-- The encoding of an ASCII character is that one byte. -/
theorem utf8EncodeChar_of_ascii {char : Char} (ascii : char.val.toNat < 128) :
    String.utf8EncodeChar char = [UInt8.ofNat char.val.toNat] := by
  unfold String.utf8EncodeChar
  exact if_pos (Nat.le_of_lt_succ ascii)

theorem eq_of_utf8EncodeChar_mem {char ascii : Char} (isAscii : ascii.val.toNat < 128)
    (member : UInt8.ofNat ascii.val.toNat ∈ String.utf8EncodeChar char) : char = ascii := by
  have value : (UInt8.ofNat ascii.val.toNat).toNat = ascii.val.toNat := by
    rw [UInt8.toNat_ofNat']
    omega
  have same := val_eq_of_mem_utf8EncodeChar member (by omega)
  exact Char.ext (UInt32.toNat_inj.mp (same.trans value))

/-- The byte of a newline. -/
def newlineByte : UInt8 := 10

theorem newlineByte_mem_iff (char : Char) :
    newlineByte ∈ String.utf8EncodeChar char ↔ char = '\n' := by
  constructor
  · exact fun member => eq_of_utf8EncodeChar_mem (by decide) member
  · rintro rfl
    decide

/-- Any byte offset inside a character reads a byte of its encoding. -/
theorem byteAt_inside (before : Text) (char : Char) (after : Text) {offset : Nat}
    (inside : offset < char.utf8Size) :
    ∃ byte ∈ String.utf8EncodeChar char,
      byteAt (before ++ char :: after) (len before + offset) = some byte := by
  have bound : offset < (String.utf8EncodeChar char).length := by
    rwa [String.length_utf8EncodeChar]
  refine ⟨(String.utf8EncodeChar char)[offset], List.getElem_mem bound, ?_⟩
  rw [byteAt, bytes_append, bytes_cons, ← length_bytes, List.getElem?_append_right (by omega),
    Nat.add_sub_cancel_left, List.getElem?_append_left bound, List.getElem?_eq_getElem bound]

/-- Testing the byte at a character's offset for a newline tests the
character. -/
theorem byteAt_append_cons (before : Text) (char : Char) (after : Text) :
    ∃ byte, byteAt (before ++ char :: after) (len before) = some byte ∧
      (byte = newlineByte ↔ char = '\n') := by
  rcases byteAt_inside before char after char.utf8Size_pos with ⟨byte, member, read⟩
  refine ⟨byte, read, ?_, ?_⟩
  · intro isNewline
    exact (newlineByte_mem_iff char).mp (isNewline ▸ member)
  · rintro rfl
    exact List.mem_singleton.mp member

/-- Testing the byte just before an offset for a newline tests the last
character before it. -/
theorem byteAt_append_pred (before : Text) (char : Char) (after : Text) :
    ∃ byte, byteAt (before ++ char :: after) (len (before ++ [char]) - 1) = some byte ∧
      (byte = newlineByte ↔ char = '\n') := by
  have positive := char.utf8Size_pos
  rcases byteAt_inside before char after (Nat.sub_one_lt_of_lt positive) with ⟨byte, member, read⟩
  have offset : len (before ++ [char]) - 1 = len before + (char.utf8Size - 1) := by
    simp only [len_append, len_cons, len_nil]
    omega
  refine ⟨byte, offset ▸ read, ?_, ?_⟩
  · intro isNewline
    exact (newlineByte_mem_iff char).mp (isNewline ▸ member)
  · rintro rfl
    exact List.mem_singleton.mp member

/-- A byte suffix that encodes ASCII text starts on a character boundary:
it is the encoding of a suffix of the text. -/
theorem eq_append_of_bytes_eq {text final : Text} {initial : List UInt8}
    (ascii : ∀ char ∈ final, char.val.toNat < 128) (split : bytes text = initial ++ bytes final) :
    ∃ before, text = before ++ final ∧ bytes before = initial := by
  obtain ⟨reversed, rfl⟩ : ∃ reversed : Text, final = reversed.reverse :=
    ⟨final.reverse, final.reverse_reverse.symm⟩
  induction reversed generalizing text with
  | nil => exact ⟨text, by simp, by simpa [bytes] using split⟩
  | cons last reversed inductionHypothesis =>
      rw [List.reverse_cons] at ascii split ⊢
      have lastAscii : last.val.toNat < 128 := ascii last (by simp)
      have lastBytes : bytes [last] = [UInt8.ofNat last.val.toNat] := by
        rw [bytes_cons, utf8EncodeChar_of_ascii lastAscii]
        rfl
      rw [bytes_append, lastBytes, ← List.append_assoc] at split
      rcases List.eq_nil_or_concat text with rfl | ⟨shorter, char, rfl⟩
      · exact absurd (congrArg List.length split) (by simp [bytes])
      · have lastByte : UInt8.ofNat last.val.toNat ∈ String.utf8EncodeChar char := by
          have ends := congrArg List.getLast? split
          rw [List.getLast?_concat, List.concat_eq_append, bytes_append, bytes_cons,
            List.getLast?_append, List.getLast?_append,
            List.getLast?_eq_some_getLast String.utf8EncodeChar_ne_nil] at ends
          simp only [bytes, List.flatMap_nil, List.getLast?_nil, Option.none_or, Option.some_or,
            Option.some.injEq] at ends
          exact ends ▸ List.getLast_mem _
        rcases eq_of_utf8EncodeChar_mem lastAscii lastByte with rfl
        rw [List.concat_eq_append, bytes_append, lastBytes] at split
        rcases inductionHypothesis (fun char member => ascii char (by simp [List.mem_reverse.mp member]))
          (List.append_cancel_right split) with ⟨before, same, encoded⟩
        exact ⟨before, by rw [List.concat_eq_append, same, List.append_assoc], encoded⟩

end Text
end Foundations
