import Rabb1tClaw.Foundations.Splices
import Rabb1tClaw.Foundations.Words

namespace Foundations

/-!
# JSON values and their texts

A value has many texts.  A serializer may put whitespace between tokens, it
may write a character of a string as it is or as an escape, and it may order
the members of an object as it likes.  `Serializes` is the relation between
values and texts that the grammar of JSON gives, so that a statement about all
texts of a value is one about every conforming serializer.

The members of an object are in the order of the text, and a number is kept as
its literal.
-/

inductive Json where
  | null
  | bool (value : Bool)
  | number (literal : Text)
  | string (content : Text)
  | array (elements : List Json)
  | object (members : List (Text × Json))

namespace Json

/-! ## Tokens -/

/-- Whitespace between tokens. -/
def Gap (text : Text) : Prop := ∀ char ∈ text, char = ' ' ∨ char = '\t' ∨ char = '\n' ∨ char = '\r'

def Digits (text : Text) : Prop := ∀ char ∈ text, '0' ≤ char ∧ char ≤ '9'

inductive IntegerPart : Text → Prop
  | zero : IntegerPart ['0']
  | nonzero {first : Char} {rest : Text} (bounds : '1' ≤ first ∧ first ≤ '9') (digits : Digits rest) :
      IntegerPart (first :: rest)

inductive FractionPart : Text → Prop
  | absent : FractionPart []
  | present {digits : Text} (isDigits : Digits digits) (nonempty : digits ≠ []) : FractionPart ('.' :: digits)

inductive ExponentPart : Text → Prop
  | absent : ExponentPart []
  | present {letter : Char} {sign digits : Text} (isLetter : letter = 'e' ∨ letter = 'E')
      (isSign : sign = [] ∨ sign = ['+'] ∨ sign = ['-']) (isDigits : Digits digits) (nonempty : digits ≠ []) :
      ExponentPart (letter :: (sign ++ digits))

inductive NumberLiteral : Text → Prop
  | literal {sign whole fraction exponent : Text} (isSign : sign = [] ∨ sign = ['-'])
      (isWhole : IntegerPart whole) (isFraction : FractionPart fraction) (isExponent : ExponentPart exponent) :
      NumberLiteral (sign ++ (whole ++ (fraction ++ exponent)))

/-- The value of a hexadecimal digit. -/
def hexDigit (char : Char) : Option Nat :=
  let code := char.val.toNat
  if 48 ≤ code ∧ code ≤ 57 then some (code - 48)
  else if 97 ≤ code ∧ code ≤ 102 then some (code - 87)
  else if 65 ≤ code ∧ code ≤ 70 then some (code - 55)
  else none

/-- The value of hexadecimal digits behind a value. -/
def hexFrom : Nat → Text → Option Nat
  | value, [] => some value
  | value, char :: rest => (hexDigit char).bind fun digit => hexFrom (value * 16 + digit) rest

/-- Four hexadecimal digits have a value. -/
def Hex4 (digits : Text) (value : Nat) : Prop := digits.length = 4 ∧ hexFrom 0 digits = some value

/-- The escapes of one letter. -/
def shortEscapes : List (Char × Char) :=
  [('"', '"'), ('\\', '\\'), ('/', '/'), ('\x08', 'b'), ('\x0c', 'f'), ('\n', 'n'), ('\r', 'r'), ('\t', 't')]

/-- How a character of a string may be written. -/
inductive SpellsChar : Char → Text → Prop
  | plain {char : Char} (visible : 0x20 ≤ char.val.toNat) (quote : char ≠ '"') (backslash : char ≠ '\\') :
      SpellsChar char [char]
  | short {char letter : Char} (listed : (char, letter) ∈ shortEscapes) : SpellsChar char ['\\', letter]
  | unicode {char : Char} {digits : Text} (value : Hex4 digits char.val.toNat) :
      SpellsChar char ('\\' :: 'u' :: digits)
  | surrogates {char : Char} {high low : Text} {above : Nat} (beyond : char.val.toNat = 0x10000 + above)
      (isHigh : Hex4 high (0xD800 + above / 0x400)) (isLow : Hex4 low (0xDC00 + above % 0x400)) :
      SpellsChar char ('\\' :: 'u' :: (high ++ '\\' :: 'u' :: low))

inductive SpellsChars : Text → Text → Prop
  | nil : SpellsChars [] []
  | cons {char : Char} {content spelled rest : Text} (first : SpellsChar char spelled)
      (later : SpellsChars content rest) : SpellsChars (char :: content) (spelled ++ rest)

/-- A string with its quotes. -/
def SpellsString (content text : Text) : Prop :=
  ∃ spelled, SpellsChars content spelled ∧ text = '"' :: (spelled ++ ['"'])

/-! ## Values -/

mutual

/-- The text is one of the value. -/
inductive Serializes : Json → Text → Prop
  | null : Serializes .null "null".toList
  | true : Serializes (.bool true) "true".toList
  | false : Serializes (.bool false) "false".toList
  | number {literal : Text} (isNumber : NumberLiteral literal) : Serializes (.number literal) literal
  | string {content text : Text} (spells : SpellsString content text) : Serializes (.string content) text
  | emptyArray {gap : Text} (isGap : Gap gap) : Serializes (.array []) ('[' :: (gap ++ [']']))
  | array {elements : List Json} {inner : Text} (spells : SerializesElements elements inner) :
      Serializes (.array elements) ('[' :: (inner ++ [']']))
  | emptyObject {gap : Text} (isGap : Gap gap) : Serializes (.object []) ('{' :: (gap ++ ['}']))
  | object {members : List (Text × Json)} {inner : Text} (spells : SerializesMembers members inner) :
      Serializes (.object members) ('{' :: (inner ++ ['}']))

/-- The elements of an array, with commas between them. -/
inductive SerializesElements : List Json → Text → Prop
  | last {value : Json} {gap text behind : Text} (isGap : Gap gap) (spells : Serializes value text)
      (isGapBehind : Gap behind) : SerializesElements [value] (gap ++ (text ++ behind))
  | cons {value : Json} {values : List Json} {gap text behind more : Text} (isGap : Gap gap)
      (spells : Serializes value text) (isGapBehind : Gap behind) (later : SerializesElements values more) :
      SerializesElements (value :: values) (gap ++ (text ++ (behind ++ ',' :: more)))

/-- The members of an object, with commas between them. -/
inductive SerializesMembers : List (Text × Json) → Text → Prop
  | last {key : Text} {value : Json} {gap name behindKey beforeValue text behind : Text} (isGap : Gap gap)
      (spellsKey : SpellsString key name) (isGapKey : Gap behindKey) (isGapValue : Gap beforeValue)
      (spells : Serializes value text) (isGapBehind : Gap behind) :
      SerializesMembers [(key, value)] (gap ++ (name ++ (behindKey ++ ':' :: (beforeValue ++ (text ++ behind)))))
  | cons {key : Text} {value : Json} {members : List (Text × Json)}
      {gap name behindKey beforeValue text behind more : Text}
      (isGap : Gap gap) (spellsKey : SpellsString key name) (isGapKey : Gap behindKey) (isGapValue : Gap beforeValue)
      (spells : Serializes value text) (isGapBehind : Gap behind) (later : SerializesMembers members more) :
      SerializesMembers ((key, value) :: members)
        (gap ++ (name ++ (behindKey ++ ':' :: (beforeValue ++ (text ++ (behind ++ ',' :: more))))))

end

mutual

/-- The strings of a value, the names of members among them. -/
def strings : Json → List Text
  | .null => []
  | .bool _ => []
  | .number _ => []
  | .string content => [content]
  | .array elements => elementStrings elements
  | .object members => memberStrings members

def elementStrings : List Json → List Text
  | [] => []
  | value :: values => strings value ++ elementStrings values

def memberStrings : List (Text × Json) → List Text
  | [] => []
  | (key, value) :: members => key :: (strings value ++ memberStrings members)

end

/-- An object begins and ends with its braces. -/
theorem Serializes.braces {members : List (Text × Json)} {text : Text}
    (serializes : Serializes (.object members) text) : ∃ inner, text = '{' :: (inner ++ ['}']) := by
  cases serializes with
  | emptyObject => exact ⟨_, rfl⟩
  | object => exact ⟨_, rfl⟩

/-- No character needs an escape. -/
def Unescaped (text : Text) : Prop := ∀ char ∈ text, 0x20 ≤ char.val.toNat ∧ char ≠ '"' ∧ char ≠ '\\'

instance (text : Text) : Decidable (Unescaped text) :=
  List.decidableBAll (fun char : Char => 0x20 ≤ char.val.toNat ∧ char ≠ '"' ∧ char ≠ '\\') text

/-- A string that needs no escapes may be written as it is. -/
theorem SpellsString.of_plain {content : Text} (plain : Unescaped content) :
    SpellsString content ('"' :: (content ++ ['"'])) := by
  refine ⟨content, ?_, rfl⟩
  induction content with
  | nil => exact .nil
  | cons char content inductionHypothesis =>
      rcases List.forall_mem_cons.mp plain with ⟨⟨visible, quote, backslash⟩, later⟩
      exact .cons (.plain visible quote backslash) (inductionHypothesis later)

/-! ## Characters that only strings have -/

/-- A character of the tokens other than strings, or of an escape. -/
def IsToken (char : Char) : Prop :=
  48 ≤ char.val.toNat ∧ char.val.toNat ≤ 57 ∨ 65 ≤ char.val.toNat ∧ char.val.toNat ≤ 90 ∨
    97 ≤ char.val.toNat ∧ char.val.toNat ≤ 122 ∨ char ∈ " \t\n\r[]\x7b\x7d,:\"\\/+-.".toList

instance (char : Char) : Decidable (IsToken char) := inferInstanceAs (Decidable (_ ∨ _))

/-- A text of such characters. -/
def Tokens (text : Text) : Prop := ∀ char ∈ text, IsToken char

instance (text : Text) : Decidable (Tokens text) := List.decidableBAll IsToken text

theorem tokens_cons_iff {char : Char} {text : Text} : Tokens (char :: text) ↔ IsToken char ∧ Tokens text :=
  List.forall_mem_cons

theorem tokens_append_iff {first second : Text} : Tokens (first ++ second) ↔ Tokens first ∧ Tokens second :=
  List.forall_mem_append

section

variable {mark : Char} {count : Nat}

/-- A run of a mark does not cross into a text that begins with another
character. -/
theorem run_of_append {front back : Text} (clean : back.head? ≠ some mark)
    (occurs : List.replicate (count + 1) mark <:+: front ++ back) :
    List.replicate (count + 1) mark <:+: front ∨ List.replicate (count + 1) mark <:+: back := by
  rcases infix_append_iff.mp occurs with inFront | inBack | ⟨tail, head, _, nonempty, whole, _, begins⟩
  · exact .inl inFront
  · exact .inr inBack
  · rcases List.exists_cons_of_ne_nil nonempty with ⟨char, rest, rfl⟩
    have isMark : char = mark := List.eq_of_mem_replicate (whole ▸ List.mem_append_right tail List.mem_cons_self)
    rcases begins with ⟨more, rfl⟩
    exact absurd (congrArg some isMark) clean

/-- A run of a mark begins behind a text without it. -/
theorem run_behind {front back : Text} (absent : mark ∉ front)
    (occurs : List.replicate (count + 1) mark <:+: front ++ back) :
    List.replicate (count + 1) mark <:+: back := by
  have first : mark ∈ List.replicate (count + 1) mark := List.mem_replicate.mpr ⟨Nat.succ_ne_zero count, rfl⟩
  rcases infix_append_iff.mp occurs with inFront | inBack | ⟨tail, head, nonempty, _, whole, ends, _⟩
  · exact absurd (inFront.subset first) absent
  · exact inBack
  · rcases List.exists_cons_of_ne_nil nonempty with ⟨char, rest, rfl⟩
    have isMark : char = mark := List.eq_of_mem_replicate (whole ▸ List.mem_append_left head List.mem_cons_self)
    exact absurd (ends.subset (isMark ▸ List.mem_cons_self)) absent

theorem no_run {text : Text} (absent : mark ∉ text) : ¬ List.replicate (count + 1) mark <:+: text := fun occurs =>
  absent (occurs.subset (List.mem_replicate.mpr ⟨Nat.succ_ne_zero count, rfl⟩))

theorem not_mem_of_tokens (foreign : ¬ IsToken mark) {text : Text} (tokens : Tokens text) :
    mark ∉ text := fun member => foreign (tokens mark member)

theorem Gap.tokens {gap : Text} (isGap : Gap gap) : Tokens gap := by
  intro char member
  rcases isGap char member with rfl | rfl | rfl | rfl <;> decide

theorem Digits.tokens {digits : Text} (isDigits : Digits digits) : Tokens digits := by
  intro char member
  rcases isDigits char member with ⟨least, most⟩
  exact .inl ⟨least, most⟩

theorem hexDigit_token {char : Char} {value : Nat} (isDigit : hexDigit char = some value) : IsToken char := by
  rw [hexDigit] at isDigit
  split at isDigit
  · rename_i bounds
    exact .inl bounds
  · split at isDigit
    · exact .inr (.inr (.inl (by omega)))
    · split at isDigit
      · exact .inr (.inl (by omega))
      · cases isDigit

theorem hexFrom_tokens {start value : Nat} {digits : Text} (isHex : hexFrom start digits = some value) :
    Tokens digits := by
  induction digits generalizing start with
  | nil => exact fun char member => absurd member List.not_mem_nil
  | cons first rest inductionHypothesis =>
      rcases Option.bind_eq_some_iff.mp isHex with ⟨digit, isDigit, later⟩
      intro char member
      rcases List.mem_cons.mp member with rfl | inRest
      · exact hexDigit_token isDigit
      · exact inductionHypothesis later char inRest

/-- A character stands for itself or is escaped with characters of tokens. -/
theorem SpellsChar.plain_or_tokens {char : Char} {spelled : Text} (spells : SpellsChar char spelled) :
    spelled = [char] ∨ spelled ≠ [] ∧ Tokens spelled := by
  cases spells with
  | plain => exact .inl rfl
  | short listed =>
      refine .inr ⟨List.cons_ne_nil _ _, ?_⟩
      have isToken : ∀ escape ∈ shortEscapes, IsToken escape.2 := by decide
      intro other member
      rcases List.mem_cons.mp member with rfl | isLetter
      · decide
      · exact List.mem_singleton.mp isLetter ▸ isToken _ listed
  | unicode value =>
      refine .inr ⟨List.cons_ne_nil _ _, ?_⟩
      simp only [tokens_cons_iff]
      exact ⟨by decide, by decide, hexFrom_tokens value.2⟩
  | surrogates _ isHigh isLow =>
      refine .inr ⟨List.cons_ne_nil _ _, ?_⟩
      simp only [tokens_cons_iff, tokens_append_iff]
      exact ⟨by decide, by decide, hexFrom_tokens isHigh.2, by decide, by decide, hexFrom_tokens isLow.2⟩

/-- A run of marks at the start of a spelled string is one of the string. -/
theorem SpellsChars.run_starts (foreign : ¬ IsToken mark) {content spelled : Text}
    (spells : SpellsChars content spelled) (starts : List.replicate count mark <+: spelled) :
    List.replicate count mark <+: content := by
  induction spells generalizing count with
  | nil => exact starts
  | cons first later inductionHypothesis =>
      cases count with
      | zero => exact List.nil_prefix
      | succ count =>
          rcases first.plain_or_tokens with rfl | ⟨nonempty, tokens⟩
          · rcases List.cons_prefix_cons.mp starts with ⟨isMark, more⟩
            exact List.cons_prefix_cons.mpr ⟨isMark, inductionHypothesis more⟩
          · rcases List.exists_cons_of_ne_nil nonempty with ⟨letter, more, rfl⟩
            have isMark : mark = letter := (List.cons_prefix_cons.mp starts).1
            exact absurd (isMark ▸ tokens letter List.mem_cons_self) foreign

theorem SpellsChars.run_within (foreign : ¬ IsToken mark) {content spelled : Text}
    (spells : SpellsChars content spelled) (occurs : List.replicate (count + 1) mark <:+: spelled) :
    List.replicate (count + 1) mark <:+: content := by
  induction spells with
  | nil => exact occurs
  | cons first later inductionHypothesis =>
      rcases first.plain_or_tokens with rfl | ⟨_, tokens⟩
      · rcases List.infix_cons_iff.mp occurs with starts | inRest
        · exact ((SpellsChars.cons first later).run_starts foreign starts).isInfix
        · exact List.infix_cons (inductionHypothesis inRest)
      · exact List.infix_cons (inductionHypothesis (run_behind (not_mem_of_tokens foreign tokens) occurs))

/-- A run of marks between delimiters. -/
theorem run_between (foreign : ¬ IsToken mark) {first last : Char} {inner : Text}
    (isToken : IsToken first ∧ IsToken last)
    (occurs : List.replicate (count + 1) mark <:+: first :: (inner ++ [last])) :
    List.replicate (count + 1) mark <:+: inner := by
  have absent : mark ∉ [first] := not_mem_of_tokens foreign (List.forall_mem_singleton.mpr isToken.1)
  have absent' : mark ∉ [last] := not_mem_of_tokens foreign (List.forall_mem_singleton.mpr isToken.2)
  have clean : [last].head? ≠ some mark := fun same => absent' (Option.some.inj same ▸ List.mem_cons_self)
  rcases run_of_append clean (run_behind absent occurs) with inside | outside
  · exact inside
  · exact absurd outside (no_run absent')

theorem SpellsString.run_within (foreign : ¬ IsToken mark) {content text : Text}
    (spells : SpellsString content text) (occurs : List.replicate (count + 1) mark <:+: text) :
    List.replicate (count + 1) mark <:+: content := by
  rcases spells with ⟨spelled, chars, rfl⟩
  exact chars.run_within foreign (run_between foreign (by decide) occurs)

/-- A run of marks before a gap. -/
theorem run_before_gap (foreign : ¬ IsToken mark) {front gap : Text} (isGap : Gap gap)
    (occurs : List.replicate (count + 1) mark <:+: front ++ gap) : List.replicate (count + 1) mark <:+: front := by
  have absent := not_mem_of_tokens foreign isGap.tokens
  have clean : gap.head? ≠ some mark := fun first => absent (List.mem_of_mem_head? first)
  rcases run_of_append clean occurs with inFront | inGap
  · exact inFront
  · exact absurd inGap (no_run absent)

/-- A run of marks before or behind a separator. -/
theorem run_around_separator (foreign : ¬ IsToken mark) {front gap more : Text} {separator : Char}
    (isGap : Gap gap) (isToken : IsToken separator)
    (occurs : List.replicate (count + 1) mark <:+: front ++ (gap ++ separator :: more)) :
    List.replicate (count + 1) mark <:+: front ∨ List.replicate (count + 1) mark <:+: more := by
  have absent : mark ∉ gap ++ [separator] := by
    refine not_mem_of_tokens foreign ?_
    exact tokens_append_iff.mpr ⟨isGap.tokens, List.forall_mem_singleton.mpr isToken⟩
  have regroup : gap ++ separator :: more = (gap ++ [separator]) ++ more := by simp
  have clean : (gap ++ separator :: more).head? ≠ some mark := by
    intro first
    apply absent
    cases gap with
    | nil => exact List.mem_singleton.mpr (Option.some.inj first).symm
    | cons char gap => exact Option.some.inj first ▸ List.mem_cons_self
  rcases run_of_append clean occurs with inFront | behind
  · exact .inl inFront
  · rw [regroup] at behind
    exact .inr (run_behind absent behind)

theorem NumberLiteral.tokens {literal : Text} (isNumber : NumberLiteral literal) :
    Tokens literal := by
  cases isNumber with
  | literal isSign isWhole isFraction isExponent =>
      simp only [tokens_append_iff]
      refine ⟨?_, ?_, ?_, ?_⟩
      · rcases isSign with rfl | rfl <;> decide
      · cases isWhole with
        | zero => decide
        | nonzero bounds digits =>
            rw [tokens_cons_iff]
            exact ⟨.inl ⟨Nat.le_of_succ_le bounds.1, bounds.2⟩, digits.tokens⟩
      · cases isFraction with
        | absent => exact fun char member => absurd member List.not_mem_nil
        | present isDigits =>
            rw [tokens_cons_iff]
            exact ⟨by decide, isDigits.tokens⟩
      · cases isExponent with
        | absent => exact fun char member => absurd member List.not_mem_nil
        | present isLetter isSign isDigits =>
            rw [tokens_cons_iff, tokens_append_iff]
            refine ⟨?_, ?_, isDigits.tokens⟩
            · rcases isLetter with rfl | rfl <;> decide
            · rcases isSign with rfl | rfl | rfl <;> decide

mutual

/-- A run of marks in the text of a value is in one of its strings. -/
theorem Serializes.run_within (foreign : ¬ IsToken mark) {value : Json} {text : Text}
    (serializes : Serializes value text) (occurs : List.replicate (count + 1) mark <:+: text) :
    ∃ content ∈ strings value, List.replicate (count + 1) mark <:+: content := by
  cases serializes with
  | null => exact absurd occurs (no_run (not_mem_of_tokens foreign (by decide)))
  | true => exact absurd occurs (no_run (not_mem_of_tokens foreign (by decide)))
  | false => exact absurd occurs (no_run (not_mem_of_tokens foreign (by decide)))
  | number isNumber => exact absurd occurs (no_run (not_mem_of_tokens foreign isNumber.tokens))
  | string spells => exact ⟨_, List.mem_singleton.mpr rfl, spells.run_within foreign occurs⟩
  | emptyArray isGap =>
      have inside := run_between foreign (by decide) occurs
      exact absurd inside (no_run (not_mem_of_tokens foreign isGap.tokens))
  | array spells => exact spells.run_within foreign (run_between foreign (by decide) occurs)
  | emptyObject isGap =>
      have inside := run_between foreign (by decide) occurs
      exact absurd inside (no_run (not_mem_of_tokens foreign isGap.tokens))
  | object spells => exact spells.run_within foreign (run_between foreign (by decide) occurs)

theorem SerializesElements.run_within (foreign : ¬ IsToken mark) {values : List Json} {text : Text}
    (serializes : SerializesElements values text) (occurs : List.replicate (count + 1) mark <:+: text) :
    ∃ content ∈ elementStrings values, List.replicate (count + 1) mark <:+: content := by
  cases serializes with
  | last isGap spells isGap' =>
      have behind := run_behind (not_mem_of_tokens foreign isGap.tokens) occurs
      rcases spells.run_within foreign (run_before_gap foreign isGap' behind) with ⟨content, member, inside⟩
      exact ⟨content, List.mem_append_left _ member, inside⟩
  | cons isGap spells isGap' later =>
      have behind := run_behind (not_mem_of_tokens foreign isGap.tokens) occurs
      rcases run_around_separator foreign isGap' (by decide) behind with here | there
      · rcases spells.run_within foreign here with ⟨content, member, inside⟩
        exact ⟨content, List.mem_append_left _ member, inside⟩
      · rcases later.run_within foreign there with ⟨content, member, inside⟩
        exact ⟨content, List.mem_append_right _ member, inside⟩

theorem SerializesMembers.run_within (foreign : ¬ IsToken mark) {members : List (Text × Json)} {text : Text}
    (serializes : SerializesMembers members text) (occurs : List.replicate (count + 1) mark <:+: text) :
    ∃ content ∈ memberStrings members, List.replicate (count + 1) mark <:+: content := by
  cases serializes with
  | last isGap spellsKey isGap' isGap'' spells isGap''' =>
      have behind := run_behind (not_mem_of_tokens foreign isGap.tokens) occurs
      rcases run_around_separator foreign isGap' (by decide) behind with here | there
      · exact ⟨_, List.mem_cons_self, spellsKey.run_within foreign here⟩
      · have inValue := run_behind (not_mem_of_tokens foreign isGap''.tokens) there
        rcases spells.run_within foreign (run_before_gap foreign isGap''' inValue) with ⟨content, member, inside⟩
        exact ⟨content, List.mem_cons_of_mem _ (List.mem_append_left _ member), inside⟩
  | cons isGap spellsKey isGap' isGap'' spells isGap''' later =>
      have behind := run_behind (not_mem_of_tokens foreign isGap.tokens) occurs
      rcases run_around_separator foreign isGap' (by decide) behind with here | there
      · exact ⟨_, List.mem_cons_self, spellsKey.run_within foreign here⟩
      · have inValue := run_behind (not_mem_of_tokens foreign isGap''.tokens) there
        rcases run_around_separator foreign isGap''' (by decide) inValue with here' | there'
        · rcases spells.run_within foreign here' with ⟨content, member, inside⟩
          exact ⟨content, List.mem_cons_of_mem _ (List.mem_append_left _ member), inside⟩
        · rcases later.run_within foreign there' with ⟨content, member, inside⟩
          exact ⟨content, List.mem_cons_of_mem _ (List.mem_append_right _ member), inside⟩

end

end

end Json

end Foundations
