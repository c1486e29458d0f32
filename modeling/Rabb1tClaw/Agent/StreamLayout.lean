import Rabb1tClaw.Agent.BlockLayout

namespace Rabb1tClaw
namespace Agent

open Foundations

/-!
# The live filter against its layout

The filter sees a growing response, so its correctness is a statement about
what is still to come.  `shownFrom` is the text that a filter in a given mode
will show of the unsent remainder.  A drain is correct when, for every
continuation, the slices it returns followed by what the new mode shows of
the new remainder are what the old mode showed (`Drains`).  That is a
property of one pass, it composes over passes and chunks, and at the end of
the stream it leaves exactly the flush.

The hold-back is the only place where bytes matter.  `safeEmitEnd` compares
byte suffixes with the markers; as the markers are ASCII, these suffixes are
suffixes of the text.
-/

/-! ## The text a filter still shows -/

/-- What a filter shows of the text that it has not committed. -/
def shownFrom (eating : Bool) (rest : Text) : Text :=
  if eating then
    match cut blockClose rest with
    | none => []
    | some (_, behind) => shown (scan streamDelimiters (dropNewline behind).2)
  else
    shown (scan streamDelimiters rest)

theorem shownFrom_of_no_closer {rest : Text} (closes : cut blockClose rest = none) :
    shownFrom true rest = [] := by
  simp [shownFrom, closes]

theorem shownFrom_of_closer {rest body behind : Text}
    (closes : cut blockClose rest = some (body, behind)) :
    shownFrom true rest = shownFrom false (dropNewline behind).2 := by
  simp [shownFrom, closes]

theorem shownFrom_of_no_opener {rest : Text} (opens : cut dispatchOpen rest = none) :
    shownFrom false rest = rest := by
  have laid : Laid streamDelimiters rest (.plain rest) := .plain opens
  simp [shownFrom, laid.scan_eq, shown]

/-- A gap is its kept text and the newline that goes with the block. -/
theorem exists_chopped (gap : Text) :
    ∃ newline : Text, (newline = [] ∨ newline = ['\n']) ∧ gap = chopNewline gap ++ newline := by
  rcases List.eq_nil_or_concat gap with rfl | ⟨kept, char, rfl⟩
  · exact ⟨[], Or.inl rfl, rfl⟩
  · rw [List.concat_eq_append]
    by_cases same : char = '\n'
    · rw [same, chopNewline_concat_newline]
      exact ⟨['\n'], Or.inr rfl, rfl⟩
    · rw [chopNewline_concat_of_ne kept same]
      exact ⟨[], Or.inl rfl, (List.append_nil _).symm⟩

/-- The opener without the newline that ends it. -/
def openerHead : Text := ['@', '@', 'd', 'i', 's', 'p', 'a', 't', 'c', 'h']

theorem dispatchOpen_eq : dispatchOpen = openerHead ++ ['\n'] := by decide

theorem blockClose_eq : blockClose = ['\n', '@', '@', 'e', 'n', 'd'] := by decide

/-- No closing marker starts in an opener before its final newline, nor at a
newline directly before the opener. -/
theorem avoids_blockClose_openerHead {newline : Text} (rest : Text)
    (single : newline = [] ∨ newline = ['\n']) :
    Avoids blockClose (newline ++ openerHead) rest := by
  rw [blockClose_eq]
  rcases single with rfl | rfl <;> simp [openerHead]

/-- The filter searches the closing marker from the newline in front of the
block; up to the newline that ends the opener there is none. -/
theorem cut_blockClose_opener {newline : Text} (after : Text)
    (single : newline = [] ∨ newline = ['\n']) :
    cut blockClose (newline ++ (dispatchOpen ++ after)) =
      (cut blockClose ('\n' :: after)).map fun parts =>
        (newline ++ openerHead ++ parts.1, parts.2) := by
  have split : newline ++ (dispatchOpen ++ after) = (newline ++ openerHead) ++ ('\n' :: after) := by
    simp [dispatchOpen_eq]
  rw [split]
  exact cut_append_of_avoids _ (avoids_blockClose_openerHead _ single)

/-- At an opener the filter shows the gap and starts to eat at the newline
that goes with the block. -/
theorem shownFrom_of_opener {rest gap after newline : Text}
    (opens : cut dispatchOpen rest = some (gap, after))
    (single : newline = [] ∨ newline = ['\n']) :
    shownFrom false rest = chopNewline gap ++ shownFrom true (newline ++ (dispatchOpen ++ after)) := by
  cases closes : cut blockClose ('\n' :: after) with
  | none =>
      have laid : Laid streamDelimiters rest (.unclosed gap after) := .unclosed opens closes
      have eaten := cut_blockClose_opener after single
      rw [closes, Option.map_none] at eaten
      rw [shownFrom_of_no_closer eaten]
      simp [shownFrom, laid.scan_eq, shown]
  | some parts =>
      have laid : Laid streamDelimiters rest (.block gap parts.1 (dropNewline parts.2).1
          (scan streamDelimiters (dropNewline parts.2).2)) :=
        .block opens closes (scan_laid _ _)
      have eaten := cut_blockClose_opener after single
      rw [closes, Option.map_some] at eaten
      rw [shownFrom_of_closer eaten]
      simp [shownFrom, laid.scan_eq, shown]

/-- Text without an opener is shown as it is, unless it ends with the newline
of an opener directly behind it. -/
theorem shownFrom_append {front : Text} (rest : Text) (avoids : Avoids dispatchOpen front rest)
    (apart : dispatchOpen <+: rest → front.getLast? ≠ some '\n') :
    shownFrom false (front ++ rest) = front ++ shownFrom false rest := by
  have found := cut_append_of_avoids rest avoids
  cases opens : cut dispatchOpen rest with
  | none =>
      rw [opens, Option.map_none] at found
      rw [shownFrom_of_no_opener found, shownFrom_of_no_opener opens]
  | some parts =>
      rw [opens, Option.map_some] at found
      rw [shownFrom_of_opener found (Or.inl rfl), shownFrom_of_opener opens (Or.inl rfl),
        chopNewline_append, List.append_assoc]
      by_cases empty : parts.1 = []
      · refine Or.inr (apart ⟨parts.2, ?_⟩)
        rw [(cut_sound opens).1, empty, List.nil_append]
      · exact Or.inl empty

/-! ## The hold-back -/

/-- A marker is ASCII text. -/
def AsciiText (text : Text) : Prop :=
  ∀ char ∈ text, char.val.toNat < 128

instance (text : Text) : Decidable (AsciiText text) :=
  List.decidableBAll (fun char : Char => char.val.toNat < 128) text

theorem heldStart_eq_some {marker bytes : List UInt8} {bound start : Nat}
    (found : heldStart marker bytes bound = some start) :
    ∃ length, 0 < length ∧ length ≤ bound ∧ start = bytes.length - length ∧
      bytes.drop start <+: marker ∧
      ∀ longer, length < longer → longer ≤ bound → ¬ bytes.drop (bytes.length - longer) <+: marker := by
  induction bound with
  | zero => cases found
  | succ bound inductionHypothesis =>
      rw [heldStart] at found
      by_cases here : bytes.drop (bytes.length - (bound + 1)) <+: marker
      · rw [if_pos (List.isPrefixOf_iff_prefix.mpr here), Option.some.injEq] at found
        subst found
        exact ⟨bound + 1, Nat.succ_pos _, Nat.le_refl _, rfl, here, fun longer above within => by omega⟩
      · rw [if_neg (fun same => here (List.isPrefixOf_iff_prefix.mp same))] at found
        rcases inductionHypothesis found with ⟨length, positive, within, same, held, longest⟩
        refine ⟨length, positive, Nat.le_succ_of_le within, same, held, ?_⟩
        intro longer above bounded
        rcases Nat.lt_or_eq_of_le bounded with shorter | rfl
        · exact longest longer above (Nat.le_of_lt_succ shorter)
        · exact here

theorem heldStart_eq_none {marker bytes : List UInt8} {bound : Nat}
    (missing : heldStart marker bytes bound = none) :
    ∀ length, 0 < length → length ≤ bound → ¬ bytes.drop (bytes.length - length) <+: marker := by
  induction bound with
  | zero => intro length positive within; omega
  | succ bound inductionHypothesis =>
      rw [heldStart] at missing
      by_cases here : bytes.drop (bytes.length - (bound + 1)) <+: marker
      · rw [if_pos (List.isPrefixOf_iff_prefix.mpr here)] at missing
        cases missing
      · rw [if_neg (fun same => here (List.isPrefixOf_iff_prefix.mp same))] at missing
        intro length positive within
        rcases Nat.lt_or_eq_of_le within with shorter | rfl
        · exact inductionHypothesis missing length positive (Nat.le_of_lt_succ shorter)
        · exact here

theorem bytes_take_of_ascii {text : Text} (ascii : AsciiText text) (count : Nat) :
    text.bytes.take count = Text.bytes (text.take count) := by
  induction text generalizing count with
  | nil => simp [Text.bytes]
  | cons char rest inductionHypothesis =>
      have single := Text.utf8EncodeChar_of_ascii (ascii char List.mem_cons_self)
      cases count with
      | zero => rfl
      | succ count =>
          rw [Text.bytes_cons, single, List.singleton_append, List.take_succ_cons, List.take_succ_cons,
            inductionHypothesis (fun later member => ascii later (List.mem_cons_of_mem _ member)),
            Text.bytes_cons, single]
          rfl

/-- A suffix of the text that starts a marker is a byte suffix that starts
the marker's bytes. -/
theorem bytes_drop_of_suffix {marker rest suffix : Text} (ends : suffix <:+ rest)
    (starts : suffix <+: marker) :
    rest.bytes.drop (rest.bytes.length - suffix.len) <+: marker.bytes := by
  rcases ends with ⟨front, rfl⟩
  rcases starts with ⟨remaining, rfl⟩
  have width : (Text.bytes (front ++ suffix)).length - suffix.len = (Text.bytes front).length := by
    simp
  rw [width, Text.bytes_append, List.drop_left, Text.bytes_append]
  exact List.prefix_append _ _

theorem len_le_bound {marker rest suffix : Text} (ends : suffix <:+ rest)
    (starts : suffix <+: marker) :
    suffix.len ≤ min marker.bytes.length rest.bytes.length := by
  rcases ends with ⟨before, rfl⟩
  rcases starts with ⟨after, rfl⟩
  simp only [Text.length_bytes, Text.len_append, Nat.le_min]
  omega

/-- The suffix that a marker makes the filter hold back: it starts the
marker, and no longer suffix does. -/
structure HeldBy (marker rest front held : Text) : Prop where
  split : rest = front ++ held
  nonempty : held ≠ []
  starts : held <+: marker
  longest : ∀ suffix : Text, suffix <:+ rest → suffix <+: marker → suffix.len ≤ held.len

theorem heldStart_some {marker rest : Text} {start : Nat} (ascii : AsciiText marker)
    (found : heldStart marker.bytes rest.bytes (min marker.bytes.length rest.bytes.length) = some start) :
    ∃ front held, HeldBy marker rest front held ∧ start = front.len := by
  rcases heldStart_eq_some found with ⟨length, positive, within, same, begins, longest⟩
  have bounds : length ≤ marker.len ∧ length ≤ rest.len := by
    simpa only [Text.length_bytes, Nat.le_min] using within
  have ends : rest.bytes.drop start = Text.bytes (marker.take length) := by
    have width : (rest.bytes.drop start).length = length := by
      rw [List.length_drop, Text.length_bytes, same, Text.length_bytes]
      omega
    rw [← bytes_take_of_ascii ascii, List.prefix_iff_eq_take.mp begins, width]
  rcases Text.eq_append_of_bytes_eq (fun char member => ascii char (List.mem_of_mem_take member))
    (show rest.bytes = rest.bytes.take start ++ Text.bytes (marker.take length) by
      rw [← ends, List.take_append_drop]) with ⟨front, split, encoded⟩
  have frontLen : start = front.len := by
    rw [← Text.length_bytes, encoded, List.length_take, Text.length_bytes, same, Text.length_bytes]
    omega
  have heldLen : Text.len (marker.take length) = length := by
    have total := congrArg Text.len split
    rw [Text.len_append, ← frontLen, same, Text.length_bytes] at total
    omega
  refine ⟨front, marker.take length, ⟨split, ?_, List.take_prefix _ _, ?_⟩, frontLen⟩
  · intro empty
    rw [empty, Text.len_nil] at heldLen
    omega
  · intro suffix isSuffix isPrefix
    rw [heldLen]
    apply Nat.le_of_not_lt
    intro longer
    exact longest _ longer (len_le_bound isSuffix isPrefix)
      (bytes_drop_of_suffix isSuffix isPrefix)

theorem heldStart_none {marker rest : Text}
    (missing : heldStart marker.bytes rest.bytes (min marker.bytes.length rest.bytes.length) = none)
    {suffix : Text} (isSuffix : suffix <:+ rest) (isPrefix : suffix <+: marker) : suffix = [] := by
  rcases Nat.eq_zero_or_pos suffix.len with empty | positive
  · exact Text.len_eq_zero_iff.mp empty
  · exact absurd (bytes_drop_of_suffix isSuffix isPrefix)
      (heldStart_eq_none missing _ positive (len_le_bound isSuffix isPrefix))

/-- What `safeEmitEnd` withholds of a remainder, in terms of text. -/
inductive Withheld (rest front held : Text) : Prop
  | newline (by_marker : HeldBy ('\n' :: dispatchOpen) rest front held)
  | opener (no_newline : ∀ suffix : Text, suffix <:+ rest → suffix <+: '\n' :: dispatchOpen → suffix = [])
      (by_marker : HeldBy dispatchOpen rest front held)
  | nothing (no_newline : ∀ suffix : Text, suffix <:+ rest → suffix <+: '\n' :: dispatchOpen → suffix = [])
      (no_opener : ∀ suffix : Text, suffix <:+ rest → suffix <+: dispatchOpen → suffix = [])
      (all : rest = front) (none_held : held = [])

theorem safeEmitEnd_withheld (rest : Text) :
    ∃ front held, safeEmitEnd rest = front.len ∧ rest = front ++ held ∧ Withheld rest front held := by
  have asciiNewline : AsciiText ('\n' :: dispatchOpen) := by decide
  have asciiOpener : AsciiText dispatchOpen := by decide
  cases newline : heldStart (Text.bytes ('\n' :: dispatchOpen)) rest.bytes
      (min (Text.bytes ('\n' :: dispatchOpen)).length rest.bytes.length) with
  | some start =>
      rcases heldStart_some asciiNewline newline with ⟨front, held, heldBy, rfl⟩
      refine ⟨front, held, ?_, heldBy.split, .newline heldBy⟩
      rw [safeEmitEnd, List.findSome?_cons, newline]
      rfl
  | none =>
      have noNewline := fun suffix ends starts => @heldStart_none _ _ newline suffix ends starts
      cases opener : heldStart (Text.bytes dispatchOpen) rest.bytes
          (min (Text.bytes dispatchOpen).length rest.bytes.length) with
      | some start =>
          rcases heldStart_some asciiOpener opener with ⟨front, held, heldBy, rfl⟩
          refine ⟨front, held, ?_, heldBy.split, .opener noNewline heldBy⟩
          rw [safeEmitEnd, List.findSome?_cons, newline]
          simp only [List.findSome?_cons, opener, Option.getD_some]
      | none =>
          refine ⟨rest, [], ?_, (List.append_nil rest).symm,
            .nothing noNewline (fun suffix ends starts => heldStart_none opener ends starts) rfl rfl⟩
          rw [safeEmitEnd, List.findSome?_cons, newline]
          simp only [List.findSome?_cons, opener, List.findSome?_nil]
          exact Text.length_bytes rest

theorem newline_not_mem_openerHead : '\n' ∉ openerHead := by decide

/-- A proper prefix of the opener has no newline. -/
theorem newline_not_mem_of_prefix {text : Text} (starts : text <+: dispatchOpen)
    (proper : ¬ dispatchOpen <+: text) : '\n' ∉ text := by
  rw [dispatchOpen_eq] at starts proper
  rcases List.prefix_concat_iff.mp starts with same | inside
  · exact absurd (same ▸ List.prefix_rfl) proper
  · exact fun member => newline_not_mem_openerHead (inside.subset member)

section HoldBack

variable {rest front held : Text}

/-- No opener can start in the text that is sent, whatever arrives next. -/
theorem Withheld.avoids (withheld : Withheld rest front held) (split : rest = front ++ held)
    (absent : ¬ dispatchOpen <:+: rest) (more : Text) :
    Avoids dispatchOpen front (held ++ more) := by
  apply Avoids.of_suffixes
  intro suffix ends nonempty occurs
  rcases ends with ⟨before, same⟩
  have inRest : suffix ++ held <:+ rest :=
    ⟨before, by rw [← List.append_assoc, same, ← split]⟩
  rw [← List.append_assoc] at occurs
  have notWhole : ¬ dispatchOpen <+: suffix ++ held := fun whole =>
    absent (whole.isInfix.trans inRest.isInfix)
  have started : suffix ++ held <+: dispatchOpen :=
    (List.prefix_or_prefix_of_prefix occurs (List.prefix_append _ more)).resolve_left notWhole
  have longer : held.len < Text.len (suffix ++ held) := by
    have positive := Nat.pos_of_ne_zero (fun zero => nonempty (Text.len_eq_zero_iff.mp zero))
    rw [Text.len_append]
    omega
  cases withheld with
  | newline heldBy =>
      -- The held text starts with the newline, which no proper prefix of the opener contains.
      rcases List.exists_cons_of_ne_nil heldBy.nonempty with ⟨char, tail, isCons⟩
      have isNewline : char = '\n' := (List.cons_prefix_cons.mp (isCons ▸ heldBy.starts)).1
      apply newline_not_mem_of_prefix started notWhole
      rw [isCons, isNewline]
      simp
  | opener _ heldBy =>
      have := heldBy.longest _ inRest started
      omega
  | nothing _ noOpener _ _ =>
      have empty := noOpener _ inRest started
      simp [nonempty] at empty

/-- If the held text and what follows it start with an opener, then the text
sent before it does not end with the newline of that block. -/
theorem Withheld.no_newline (withheld : Withheld rest front held) (split : rest = front ++ held)
    (absent : ¬ dispatchOpen <:+: rest) {more : Text} (starts : dispatchOpen <+: held ++ more) :
    front.getLast? ≠ some '\n' := by
  intro isNewline
  rcases List.getLast?_eq_some_iff.mp isNewline with ⟨before, same⟩
  have inRest : '\n' :: held <:+ rest := ⟨before, by rw [split, same]; simp⟩
  have heldInRest : held <:+: rest := ((List.suffix_cons _ _).trans inRest).isInfix
  have started : held <+: dispatchOpen :=
    (List.prefix_or_prefix_of_prefix starts (List.prefix_append _ more)).resolve_left
      (fun whole => absent (whole.isInfix.trans heldInRest))
  have withNewline : '\n' :: held <+: '\n' :: dispatchOpen := List.cons_prefix_cons.mpr ⟨rfl, started⟩
  cases withheld with
  | newline heldBy =>
      have bound := heldBy.longest _ inRest withNewline
      have positive := Char.utf8Size_pos '\n'
      rw [Text.len_cons] at bound
      omega
  | opener noNewline _ => exact List.cons_ne_nil _ _ (noNewline _ inRest withNewline)
  | nothing noNewline _ _ _ => exact List.cons_ne_nil _ _ (noNewline _ inRest withNewline)

/-- Sending the text in front of the held part changes nothing of what is
shown in the end. -/
theorem Withheld.shownFrom_eq (withheld : Withheld rest front held) (split : rest = front ++ held)
    (absent : ¬ dispatchOpen <:+: rest) (more : Text) :
    shownFrom false (rest ++ more) = front ++ shownFrom false (held ++ more) := by
  rw [split, List.append_assoc]
  exact shownFrom_append _ (withheld.avoids split absent more) (withheld.no_newline split absent)

theorem Withheld.starts_marker (withheld : Withheld rest front held) :
    held <+: '\n' :: dispatchOpen ∨ held <+: dispatchOpen := by
  cases withheld with
  | newline heldBy => exact Or.inl heldBy.starts
  | opener _ heldBy => exact Or.inr heldBy.starts
  | nothing _ _ _ empty => exact Or.inl (by rw [empty]; exact List.nil_prefix)

end HoldBack

/-! ## Passes of the draining loop -/

section Passes

variable {full before rest gap after body behind : Text} (deltas : List Text)

theorem drainBody_of_empty (whole : full = before) (eating : Bool) :
    drainBody full ⟨⟨before.len, eating⟩, deltas⟩ = some (.done ⟨⟨before.len, eating⟩, deltas⟩) := by
  have here := sliceFrom_of_eq (show full = before ++ [] by rw [whole, List.append_nil]) rfl
  simp [drainBody, here]

theorem drainBody_of_no_closer (whole : full = before ++ rest) (nonempty : rest ≠ [])
    (closes : cut blockClose rest = none) :
    drainBody full ⟨⟨before.len, true⟩, deltas⟩ = some (.done ⟨⟨before.len, true⟩, deltas⟩) := by
  simp [drainBody, sliceFrom_of_eq whole rfl, nonempty, find_eq_none_of_cut closes]

theorem drainBody_of_closer_at_end (whole : full = before ++ rest)
    (closes : cut blockClose rest = some (body, [])) :
    drainBody full ⟨⟨before.len, true⟩, deltas⟩ = some (.done ⟨⟨before.len, true⟩, deltas⟩) := by
  have split : rest = body ++ blockClose := by simpa using (cut_sound closes).1
  have nonempty : rest ≠ [] := by simp [split, blockClose_eq]
  have atEnd : body.len + blockClose.len = rest.len := by rw [split, Text.len_append]
  simp [drainBody, sliceFrom_of_eq whole rfl, nonempty, find_of_cut closes, atEnd]

theorem drainBody_of_closer (whole : full = before ++ rest)
    (closes : cut blockClose rest = some (body, behind)) (more : behind ≠ []) :
    drainBody full ⟨⟨before.len, true⟩, deltas⟩ =
      some (.next ⟨⟨(before ++ body ++ blockClose ++ (dropNewline behind).1).len, false⟩, deltas⟩) := by
  have split : rest = (body ++ blockClose) ++ behind := by
    rw [(cut_sound closes).1, List.append_assoc]
  rcases List.exists_cons_of_ne_nil more with ⟨char, tail, same⟩
  have nonempty : rest ≠ [] := by simp [split, blockClose_eq]
  have notEnd : ¬ body.len + blockClose.len = rest.len := by
    have width := char.utf8Size_pos
    rw [split, same, Text.len_append, Text.len_append, Text.len_cons]
    omega
  rcases Text.byteAt_append_cons (body ++ blockClose) char tail with ⟨byte, read, isNewline⟩
  have byteHere : rest.byteAt (body.len + blockClose.len) = some byte := by
    rw [split, same, ← Text.len_append]
    exact read
  by_cases newline : char = '\n'
  · have isByte := isNewline.mpr newline
    subst newline
    have width : Char.utf8Size '\n' = 1 := by decide
    simp [drainBody, sliceFrom_of_eq whole rfl, nonempty, find_of_cut closes, notEnd, byteHere,
      isByte, same, dropNewline, width, Nat.add_assoc]
  · have notByte : ¬ byte = Text.newlineByte := fun isByte => newline (isNewline.mp isByte)
    simp [drainBody, sliceFrom_of_eq whole rfl, nonempty, find_of_cut closes, notEnd, byteHere,
      notByte, same, dropNewline_of_ne tail newline, Nat.add_assoc]

/-- The offset found for a block is the length of the text kept before it. -/
theorem findDispatchStart_of_cut (opens : cut dispatchOpen rest = some (gap, after)) :
    findDispatchStart rest = some (some (chopNewline gap).len) := by
  rw [findDispatchStart, find_of_cut opens]
  rcases List.eq_nil_or_concat gap with rfl | ⟨kept, char, rfl⟩
  · rfl
  · rw [List.concat_eq_append] at opens ⊢
    have positive : 0 < Text.len (kept ++ [char]) := by
      have width := char.utf8Size_pos
      simp only [Text.len_append, Text.len_cons, Text.len_nil]
      omega
    have split : rest = kept ++ char :: (dispatchOpen ++ after) := by
      rw [(cut_sound opens).1, List.append_assoc, List.singleton_append]
    rcases Text.byteAt_append_pred kept char (dispatchOpen ++ after) with ⟨byte, read, isNewline⟩
    rw [← split] at read
    simp only [if_pos positive, read, Option.map_some]
    by_cases newline : char = '\n'
    · rw [if_pos (isNewline.mpr newline), newline, chopNewline_concat_newline]
      have width : Char.utf8Size '\n' = 1 := by decide
      simp [width]
    · rw [if_neg (fun isByte => newline (isNewline.mp isByte)),
        chopNewline_concat_of_ne kept newline]

theorem findDispatchStart_of_no_opener (opens : cut dispatchOpen rest = none) :
    findDispatchStart rest = some none := by
  rw [findDispatchStart, find_eq_none_of_cut opens]

/-- A slice is sent unless it is empty. -/
def sendable (slice : Text) : List Text :=
  if slice = [] then [] else [slice]

@[simp] theorem flatten_sendable (slice : Text) : (sendable slice).flatten = slice := by
  unfold sendable
  split <;> simp_all

theorem drainBody_of_opener (whole : full = before ++ rest)
    (opens : cut dispatchOpen rest = some (gap, after)) :
    drainBody full ⟨⟨before.len, false⟩, deltas⟩ =
      some (.next ⟨⟨(before ++ chopNewline gap).len, true⟩, deltas ++ sendable (chopNewline gap)⟩) := by
  rcases exists_chopped gap with ⟨newline, _, chopped⟩
  have split : rest = chopNewline gap ++ (newline ++ (dispatchOpen ++ after)) := by
    rw [← List.append_assoc, ← chopped]
    exact (cut_sound opens).1
  have nonempty : rest ≠ [] := by simp [(cut_sound opens).1, dispatchOpen_eq]
  have initial : rest.sliceTo (chopNewline gap).len = some (chopNewline gap) := by
    conv => lhs; rw [split]
    exact Text.sliceTo_append _ _
  by_cases empty : chopNewline gap = []
  · simp [drainBody, sliceFrom_of_eq whole rfl, nonempty, findDispatchStart_of_cut opens, empty,
      sendable]
  · have positive := Nat.pos_of_ne_zero (fun zero => empty (Text.len_eq_zero_iff.mp zero))
    simp [drainBody, sliceFrom_of_eq whole rfl, nonempty, findDispatchStart_of_cut opens, empty,
      sendable, positive, initial]

theorem drainBody_of_no_opener {front held : Text} (whole : full = before ++ rest)
    (nonempty : rest ≠ []) (opens : cut dispatchOpen rest = none) (split : rest = front ++ held)
    (safe : safeEmitEnd rest = front.len) :
    drainBody full ⟨⟨before.len, false⟩, deltas⟩ =
      some (.done ⟨⟨(before ++ front).len, false⟩, deltas ++ sendable front⟩) := by
  have initial : rest.sliceTo front.len = some front := by
    rw [split]
    exact Text.sliceTo_append _ _
  by_cases empty : front = []
  · simp [drainBody, sliceFrom_of_eq whole rfl, nonempty, findDispatchStart_of_no_opener opens, safe,
      empty, sendable]
  · have positive := Nat.pos_of_ne_zero (fun zero => empty (Text.len_eq_zero_iff.mp zero))
    simp [drainBody, sliceFrom_of_eq whole rfl, nonempty, findDispatchStart_of_no_opener opens, safe,
      sendable, empty, positive, initial]

end Passes

/-! ## Draining -/

/-- A filter that has drained its remainder: while eating it shows nothing of
it, and otherwise it holds back no more than the start of an opener. -/
structure Drained (eating : Bool) (rest : Text) : Prop where
  hidden : eating = true → shownFrom true rest = []
  closed : eating = false → ¬ dispatchOpen <:+: rest
  held : eating = false → rest <+: '\n' :: dispatchOpen ∨ rest <+: dispatchOpen

/-- The effect of draining on the text still to be shown, and what it leaves
behind. -/
structure Drains (eating : Bool) (rest : Text) (sent : List Text) (eating' : Bool) (rest' : Text) :
    Prop where
  shows : ∀ more, shownFrom eating (rest ++ more) = sent.flatten ++ shownFrom eating' (rest' ++ more)
  drained : Drained eating' rest'
  nonempty : ∀ delta ∈ sent, delta ≠ []
  clean : ∀ delta ∈ sent, ¬ dispatchOpen <:+: delta

theorem mem_sendable {slice delta : Text} (member : delta ∈ sendable slice) :
    delta = slice ∧ slice ≠ [] := by
  unfold sendable at member
  split at member
  · cases member
  · rename_i nonempty
    exact ⟨List.mem_singleton.mp member, nonempty⟩

/-- Two consecutive stretches of a drain compose. -/
theorem Drains.trans {eating middle final : Bool} {rest between rest' : Text}
    {sent later : List Text}
    (first : ∀ more, shownFrom eating (rest ++ more) = sent.flatten ++ shownFrom middle (between ++ more))
    (nonempty : ∀ delta ∈ sent, delta ≠ []) (clean : ∀ delta ∈ sent, ¬ dispatchOpen <:+: delta)
    (second : Drains middle between later final rest') :
    Drains eating rest (sent ++ later) final rest' where
  shows := by
    intro more
    rw [first, second.shows, List.flatten_append, List.append_assoc]
  drained := second.drained
  nonempty := by
    intro delta member
    rcases List.mem_append.mp member with early | late
    · exact nonempty delta early
    · exact second.nonempty delta late
  clean := by
    intro delta member
    rcases List.mem_append.mp member with early | late
    · exact clean delta early
    · exact second.clean delta late

/-- A filter that sends nothing and stays where it is. -/
theorem Drains.stay {eating : Bool} {rest : Text} (drained : Drained eating rest) :
    Drains eating rest [] eating rest :=
  ⟨fun _ => rfl, drained, fun _ member => absurd member List.not_mem_nil,
    fun _ member => absurd member List.not_mem_nil⟩

theorem Drained.of_no_closer {rest : Text} (closes : cut blockClose rest = none) :
    Drained true rest :=
  ⟨fun _ => shownFrom_of_no_closer closes, nofun, nofun⟩

theorem Drained.of_closer_at_end {rest body : Text} (closes : cut blockClose rest = some (body, [])) :
    Drained true rest := by
  refine ⟨fun _ => ?_, nofun, nofun⟩
  rw [shownFrom_of_closer closes]
  exact shownFrom_of_no_opener (by decide)

theorem Drained.of_empty (eating : Bool) : Drained eating [] :=
  ⟨fun _ => shownFrom_of_no_closer (by decide), fun _ => by decide, fun _ => Or.inl List.nil_prefix⟩

/-- How many passes the loop can still make. -/
def passBound (eating : Bool) (rest : Text) : Nat :=
  2 * rest.length + (if eating then 0 else 1)

/-- One pass of the loop, seen from the remainder: it stops with a drained
remainder, or it moves on with a smaller bound. -/
inductive Pass (full : Text) (deltas : List Text) (before rest : Text) (eating : Bool) : Prop
  | stops (before' rest' : Text) (eating' : Bool) (sent : List Text) (whole : full = before' ++ rest')
      (body : drainBody full ⟨⟨before.len, eating⟩, deltas⟩ =
        some (.done ⟨⟨before'.len, eating'⟩, deltas ++ sent⟩))
      (drains : Drains eating rest sent eating' rest')
  | moves (before' rest' : Text) (eating' : Bool) (sent : List Text) (whole : full = before' ++ rest')
      (body : drainBody full ⟨⟨before.len, eating⟩, deltas⟩ =
        some (.next ⟨⟨before'.len, eating'⟩, deltas ++ sent⟩))
      (shows : ∀ more,
        shownFrom eating (rest ++ more) = sent.flatten ++ shownFrom eating' (rest' ++ more))
      (nonempty : ∀ delta ∈ sent, delta ≠ []) (clean : ∀ delta ∈ sent, ¬ dispatchOpen <:+: delta)
      (fewer : passBound eating' rest' < passBound eating rest)

section Pass

variable {full : Text} (deltas : List Text) {before rest : Text}

/-- A pass that stops without sending anything. -/
theorem Pass.of_stay {eating : Bool} (whole : full = before ++ rest)
    (body : drainBody full ⟨⟨before.len, eating⟩, deltas⟩ =
      some (.done ⟨⟨before.len, eating⟩, deltas⟩))
    (drained : Drained eating rest) : Pass full deltas before rest eating :=
  .stops before rest eating [] whole (by rw [List.append_nil, body]) (.stay drained)

/-- Closing a block shortens the remainder. -/
theorem pass_of_closer {body behind : Text} (whole : full = before ++ rest)
    (closes : cut blockClose rest = some (body, behind)) (more : behind ≠ []) :
    Pass full deltas before rest true := by
  have split : full = (before ++ body ++ blockClose ++ (dropNewline behind).1) ++
      (dropNewline behind).2 := by
    rw [List.append_assoc _ (dropNewline behind).1, dropNewline_append, whole, (cut_sound closes).1]
    simp only [List.append_assoc]
  have shorter : (dropNewline behind).2.length < rest.length := by
    have dropped := congrArg List.length (dropNewline_append behind)
    have inside := cut_length_lt (by decide) closes
    simp only [List.length_append] at dropped
    omega
  refine .moves _ _ false [] split ?_ ?_ (by simp) (by simp) ?_
  · rw [List.append_nil]
    exact drainBody_of_closer deltas whole closes more
  · intro later
    rw [shownFrom_of_closer (cut_append_of_some later closes),
      dropNewline_append_of_ne_nil later more]
    rfl
  · simp only [passBound, Bool.false_eq_true, if_false, if_true]
    omega

/-- Opening a block leaves the pass-through mode. -/
theorem pass_of_opener {gap after : Text} (whole : full = before ++ rest)
    (opens : cut dispatchOpen rest = some (gap, after)) : Pass full deltas before rest false := by
  rcases exists_chopped gap with ⟨newline, single, chopped⟩
  have splitRest : rest = chopNewline gap ++ (newline ++ (dispatchOpen ++ after)) := by
    rw [← List.append_assoc, ← chopped]
    exact (cut_sound opens).1
  refine .moves (before ++ chopNewline gap) (newline ++ (dispatchOpen ++ after)) true
    (sendable (chopNewline gap)) ?_ (drainBody_of_opener deltas whole opens) ?_ ?_ ?_ ?_
  · rw [List.append_assoc, ← splitRest]
    exact whole
  · intro more
    rw [flatten_sendable, shownFrom_of_opener (cut_append_of_some more opens) single]
    simp only [List.append_assoc]
  · intro delta member
    exact (mem_sendable member).1 ▸ (mem_sendable member).2
  · intro delta member inside
    rw [(mem_sendable member).1] at inside
    have absent := (cut_sound opens).2.not_occurs (by decide)
    exact absent (inside.trans ⟨[], newline, by rw [List.nil_append, ← chopped]⟩)
  · have total := congrArg List.length splitRest
    simp only [List.length_append] at total
    simp only [passBound, Bool.false_eq_true, if_false, if_true, List.length_append]
    omega

/-- Without an opener the pass sends everything but the hold-back. -/
theorem pass_of_no_opener (whole : full = before ++ rest) (nonempty : rest ≠ [])
    (opens : cut dispatchOpen rest = none) : Pass full deltas before rest false := by
  have absent := cut_eq_none_iff.mp opens
  rcases safeEmitEnd_withheld rest with ⟨front, held, safe, split, withheld⟩
  have heldInRest : held <:+: rest := ⟨front, [], by rw [split, List.append_nil]⟩
  refine .stops (before ++ front) held false (sendable front)
    (by rw [whole, split, List.append_assoc])
    (drainBody_of_no_opener deltas whole nonempty opens split safe) ⟨?_, ?_, ?_, ?_⟩
  · intro more
    rw [flatten_sendable]
    exact withheld.shownFrom_eq split absent more
  · exact ⟨nofun, fun _ inside => absent (inside.trans heldInRest), fun _ => withheld.starts_marker⟩
  · intro delta member
    exact (mem_sendable member).1 ▸ (mem_sendable member).2
  · intro delta member inside
    rw [(mem_sendable member).1] at inside
    exact absent (inside.trans ⟨[], held, by rw [split, List.nil_append]⟩)

/-- Every pass of the loop is one of the two kinds. -/
theorem drain_pass (whole : full = before ++ rest) (eating : Bool) :
    Pass full deltas before rest eating := by
  by_cases empty : rest = []
  · subst empty
    exact .of_stay deltas whole (drainBody_of_empty deltas (by simpa using whole) eating)
      (.of_empty eating)
  · cases eating with
    | true =>
        cases closes : cut blockClose rest with
        | none =>
            exact .of_stay deltas whole (drainBody_of_no_closer deltas whole empty closes)
              (.of_no_closer closes)
        | some parts =>
            rcases parts with ⟨body, behind⟩
            by_cases atEnd : behind = []
            · subst atEnd
              exact .of_stay deltas whole (drainBody_of_closer_at_end deltas whole closes)
                (.of_closer_at_end closes)
            · exact pass_of_closer deltas whole closes atEnd
    | false =>
        cases opens : cut dispatchOpen rest with
        | none => exact pass_of_no_opener deltas whole empty opens
        | some parts => exact pass_of_opener deltas whole opens

end Pass

/-- The draining loop ends, and its effect is correct for every continuation.
The induction is on the passes left. -/
theorem drain_settles {full : Text} (before rest : Text) (whole : full = before ++ rest)
    (eating : Bool) (deltas : List Text) :
    ∃ passes before' rest' eating' sent, passes ≤ passBound eating rest + 1 ∧
      full = before' ++ rest' ∧
      Settles (drainBody full) passes ⟨⟨before.len, eating⟩, deltas⟩
        (.returned ⟨⟨before'.len, eating'⟩, deltas ++ sent⟩) ∧
      Drains eating rest sent eating' rest' := by
  induction limit : passBound eating rest using Nat.strongRecOn generalizing before rest eating deltas with
  | ind bound inductionHypothesis =>
      rcases drain_pass deltas whole eating with
        ⟨before', rest', eating', sent, whole', body, drains⟩ |
        ⟨middle, between, mode, sent, whole', body, shows, nonempty, clean, fewer⟩
      · exact ⟨1, before', rest', eating', sent, Nat.le_add_left _ _, whole', .done body, drains⟩
      · rcases inductionHypothesis _ (limit ▸ fewer) middle between whole' mode (deltas ++ sent) rfl with
          ⟨passes, before', rest', eating', later, few, whole'', settles, drains⟩
        refine ⟨passes + 1, before', rest', eating', sent ++ later, by omega, whole'', ?_,
          .trans shows nonempty clean drains⟩
        rw [← List.append_assoc]
        exact .next body settles

/-- Specification of `drain`: it returns, and its effect is correct for every
continuation of the response. -/
theorem drain_spec {full : Text} (before rest : Text) (whole : full = before ++ rest)
    (eating : Bool) :
    ∃ before' rest' eating' sent, full = before' ++ rest' ∧
      drain ⟨before.len, eating⟩ full = .returned ⟨⟨before'.len, eating'⟩, sent⟩ ∧
      Drains eating rest sent eating' rest' := by
  rcases drain_settles before rest whole eating [] with
    ⟨passes, before', rest', eating', sent, few, whole', settles, drains⟩
  have enough : passes ≤ 2 * full.length + 2 := by
    have shorter := congrArg List.length whole
    rw [List.length_append] at shorter
    have bound : passBound eating rest ≤ 2 * rest.length + 1 := by
      unfold passBound
      split <;> omega
    omega
  exact ⟨before', rest', eating', sent, whole', iterate_of_settles settles enough, drains⟩

/-- Specification of `flush` on a drained filter: it sends what the filter
still shows. -/
theorem flush_spec {full : Text} (before rest : Text) (whole : full = before ++ rest)
    {eating : Bool} (drained : Drained eating rest) :
    ∃ sent filter, flush ⟨before.len, eating⟩ full = some (sent, filter) ∧
      sent.getD [] = shownFrom eating rest ∧
      ∀ delta ∈ sent, delta ≠ [] ∧ ¬ dispatchOpen <:+: delta := by
  cases eating with
  | true =>
      refine ⟨none, ⟨before.len, true⟩, by simp [flush], ?_, by simp⟩
      rw [drained.hidden rfl]
      rfl
  | false =>
      have shows : shownFrom false rest = rest :=
        shownFrom_of_no_opener (cut_eq_none_iff.mpr (drained.closed rfl))
      by_cases empty : rest = []
      · refine ⟨none, ⟨before.len, false⟩, ?_, ?_, by simp⟩
        · simp [flush, whole, empty]
        · rw [shows, empty]
          rfl
      · have positive := Nat.pos_of_ne_zero (fun zero => empty (Text.len_eq_zero_iff.mp zero))
        have unsent : ¬ before.len ≥ full.len := by
          rw [whole, Text.len_append]
          omega
        refine ⟨some rest, ⟨full.len, false⟩, ?_, shows.symm, ?_⟩
        · simp [flush, unsent, sliceFrom_of_eq whole rfl]
        · rintro delta ⟨⟩
          exact ⟨empty, drained.closed rfl⟩

/-! ## The whole stream -/

/-- The text sent so far, and what the filter still shows of the rest, make
up what is shown of the response, however it continues. -/
structure Tracks (stream : LiveStream) (before rest : Text) : Prop where
  whole : stream.full = before ++ rest
  committed : stream.filter.committed = before.len
  shows : ∀ more, shownFrom false (stream.full ++ more) =
    stream.out ++ shownFrom stream.filter.eating (rest ++ more)
  drained : Drained stream.filter.eating rest

/-- Step lemma: a chunk is absorbed. -/
theorem Tracks.feed {stream : LiveStream} {before rest : Text} (tracks : Tracks stream before rest)
    (chunk : Text) :
    ∃ fed before' rest', stream.feed chunk = .returned fed ∧ fed.full = stream.full ++ chunk ∧
      Tracks fed before' rest' := by
  rcases stream with ⟨full, ⟨committed, eating⟩, out⟩
  have committed := tracks.committed
  simp only at committed
  subst committed
  have whole : full ++ chunk = before ++ (rest ++ chunk) := by
    rw [← List.append_assoc, ← tracks.whole]
  rcases drain_spec before (rest ++ chunk) whole eating with
    ⟨before', rest', eating', sent, whole', drains, effect⟩
  refine ⟨⟨full ++ chunk, ⟨before'.len, eating'⟩, out ++ sent.flatten⟩, before', rest', ?_, rfl,
    whole', rfl, ?_, effect.drained⟩
  · simp [LiveStream.feed, drains]
  · intro more
    rw [List.append_assoc, tracks.shows, ← List.append_assoc rest, effect.shows, List.append_assoc]

/-- Run lemma: any sequence of chunks is absorbed. -/
theorem Tracks.feedAll {stream : LiveStream} {before rest : Text} (tracks : Tracks stream before rest)
    (chunks : List Text) :
    ∃ fed before' rest', stream.feedAll chunks = .returned fed ∧
      fed.full = stream.full ++ chunks.flatten ∧ Tracks fed before' rest' := by
  induction chunks generalizing stream before rest with
  | nil => exact ⟨stream, before, rest, rfl, by simp, tracks⟩
  | cons chunk chunks inductionHypothesis =>
      rcases tracks.feed chunk with ⟨fed, before', rest', step, full, tracks'⟩
      rcases inductionHypothesis tracks' with ⟨final, before'', rest'', run, full', tracks''⟩
      refine ⟨final, before'', rest'', ?_, ?_, tracks''⟩
      · rw [LiveStream.feedAll, step, Outcome.bind_returned, run]
      · rw [full', full, List.append_assoc, List.flatten_cons]

theorem Tracks.initial : Tracks ⟨[], .new, []⟩ [] [] :=
  ⟨rfl, rfl, fun _ => rfl, .of_empty false⟩

/-- However the response is cut into chunks, the text sent is what the
filter's layout of the whole response shows. -/
theorem liveStream_eq (chunks : List Text) :
    liveStream chunks = .returned (shown (scan streamDelimiters chunks.flatten)) := by
  rcases Tracks.initial.feedAll chunks with ⟨fed, before, rest, run, full, tracks⟩
  rcases fed with ⟨response, ⟨committed, eating⟩, out⟩
  have committed := tracks.committed
  simp only [List.nil_append] at committed full
  subst committed
  rcases flush_spec before rest tracks.whole tracks.drained with ⟨sent, filter, flushes, same, _⟩
  have everything := tracks.shows []
  simp only [List.append_nil, full] at everything
  rw [liveStream, run, Outcome.bind_returned]
  simp only [flushes, Outcome.ofOption_some, Outcome.map_returned, same]
  exact congrArg Outcome.returned everything.symm

end Agent
end Rabb1tClaw
