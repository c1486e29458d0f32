import Rabb1tClaw.Foundations.Delimited
import Rabb1tClaw.Agent.Stream

namespace Rabb1tClaw
namespace Agent

open Foundations

/-!
# The layouts behind the three scanners

Parser, stripper and live filter read one format, and each of them is a
scanner in the sense of `Delimiters`.  They differ in two ways only.  The
parser resumes directly behind a closing marker, while the other two drop a
newline there.  The filter alone starts its search for the closing marker at
the block itself, so the newline that ends the opener can also start the
closing marker.

The theorems here carry the two loops over a finished response to their
layouts: what they return is a function of the layout, and the stripper
panics exactly on the layouts that are `stuck`.
-/

/-! ## The abstract format -/

/-- A newline directly behind a closing marker is dropped with the block. -/
def dropNewline : Text → Text × Text
  | '\n' :: rest => (['\n'], rest)
  | rest => ([], rest)

theorem dropNewline_append (rest : Text) : (dropNewline rest).1 ++ (dropNewline rest).2 = rest := by
  unfold dropNewline
  split <;> rfl

theorem dropNewline_of_ne {char : Char} (rest : Text) (other : char ≠ '\n') :
    dropNewline (char :: rest) = ([], char :: rest) := by
  unfold dropNewline
  split
  · rename_i same
    exact absurd (List.cons.inj same).1 other
  · rfl

theorem dropNewline_append_of_ne_nil {rest : Text} (more : Text) (nonempty : rest ≠ []) :
    dropNewline (rest ++ more) = ((dropNewline rest).1, (dropNewline rest).2 ++ more) := by
  cases rest with
  | nil => exact absurd rfl nonempty
  | cons char rest =>
      by_cases newline : char = '\n'
      · rw [newline]
        rfl
      · rw [List.cons_append, dropNewline_of_ne _ newline, dropNewline_of_ne _ newline,
          List.cons_append]

/-- The dropped text is nothing or one newline. -/
theorem dropNewline_fst (rest : Text) : (dropNewline rest).1 = [] ∨ (dropNewline rest).1 = ['\n'] := by
  unfold dropNewline
  split
  · exact Or.inr rfl
  · exact Or.inl rfl

/-- Remove a newline at the end of a gap: it belongs to the block behind it. -/
def chopNewline (gap : Text) : Text :=
  if gap.getLast? = some '\n' then gap.dropLast else gap

@[simp] theorem chopNewline_nil : chopNewline [] = [] := rfl

theorem chopNewline_concat_newline (gap : Text) : chopNewline (gap ++ ['\n']) = gap := by
  simp [chopNewline]

theorem chopNewline_concat_of_ne (gap : Text) {char : Char} (other : char ≠ '\n') :
    chopNewline (gap ++ [char]) = gap ++ [char] := by
  simp [chopNewline, other]

/-- Text in front of a gap is kept whole unless the gap is empty and the text
itself ends with the newline. -/
theorem chopNewline_append {front gap : Text} (apart : gap ≠ [] ∨ front.getLast? ≠ some '\n') :
    chopNewline (front ++ gap) = front ++ chopNewline gap := by
  rcases List.eq_nil_or_concat gap with rfl | ⟨kept, char, rfl⟩
  · have other := apart.resolve_left (fun nonempty => nonempty rfl)
    simp [chopNewline, other]
  · rw [List.concat_eq_append, ← List.append_assoc]
    by_cases newline : char = '\n'
    · rw [newline, chopNewline_concat_newline, chopNewline_concat_newline]
    · rw [chopNewline_concat_of_ne _ newline, chopNewline_concat_of_ne _ newline,
        List.append_assoc]

/-- The blocks `parse_task_markers` delimits. -/
def parseDelimiters : Delimiters Char where
  opener := dispatchOpen
  closer := blockClose
  overlap := []
  resume := fun rest => ([], rest)
  opener_ne := by decide
  closer_ne := by decide
  overlap_le := by decide
  resume_append := fun _ => rfl

/-- The blocks `strip_task_markers` removes. -/
def stripDelimiters : Delimiters Char where
  opener := dispatchOpen
  closer := blockClose
  overlap := []
  resume := dropNewline
  opener_ne := by decide
  closer_ne := by decide
  overlap_le := by decide
  resume_append := dropNewline_append

/-- The blocks the live filter withholds. -/
def streamDelimiters : Delimiters Char where
  opener := dispatchOpen
  closer := blockClose
  overlap := ['\n']
  resume := dropNewline
  opener_ne := by decide
  closer_ne := by decide
  overlap_le := by decide
  resume_append := dropNewline_append

/-- What is left of a text once its blocks are gone. -/
def shown : Layout Char → Text
  | .plain text => text
  | .unclosed gap _ => chopNewline gap
  | .block gap _ _ rest => chopNewline gap ++ shown rest

/-- The markers of all closed blocks in order. -/
def markersOf (fromStr : ParseArray) : Layout Char → List TaskMarker
  | .plain _ => []
  | .unclosed _ _ => []
  | .block _ body _ rest => blockMarkers fromStr (Text.trim body) ++ markersOf fromStr rest

/-- The spans of all closed blocks, for a layout that starts at an offset. -/
def spansFrom (offset : Nat) : Layout Char → List BlockSpan
  | .plain _ => []
  | .unclosed _ _ => []
  | .block gap body trailing rest =>
      let opener := offset + Text.len gap
      let closer := opener + dispatchOpen.len + Text.len body
      ⟨opener, closer⟩ :: spansFrom (closer + blockClose.len + Text.len trailing) rest

/-- An opener directly behind a newline that the scan has already passed.
`preceded` says whether the text before the layout ends with one. -/
def stuck (preceded : Bool) : Layout Char → Bool
  | .plain _ => false
  | .unclosed gap _ => preceded && gap.isEmpty
  | .block gap _ trailing rest => (preceded && gap.isEmpty) || stuck (!trailing.isEmpty) rest

/-! ## Offsets of a search -/

theorem find_of_cut {pattern text gap after : Text} (found : cut pattern text = some (gap, after)) :
    Text.find pattern text = some gap.len := by
  rw [Text.find, found]
  rfl

theorem find_eq_none_of_cut {pattern text : Text} (missing : cut pattern text = none) :
    Text.find pattern text = none := by
  rw [Text.find, missing]
  rfl

theorem sliceFrom_of_eq {text before after : Text} {offset : Nat} (split : text = before ++ after)
    (width : offset = before.len) : text.sliceFrom offset = some after := by
  rw [split, width]
  exact Text.sliceFrom_append before after

theorem slice_of_eq {text before middle after : Text} {start stop : Nat}
    (split : text = before ++ (middle ++ after)) (first : start = before.len)
    (last : stop = start + middle.len) : text.slice start stop = some middle := by
  rw [split, last, first]
  exact Text.slice_append before middle after

/-- The text in front of a block's content, as one prefix. -/
theorem split_at_content {response before text gap after : Text}
    (whole : response = before ++ text) (opens : cut dispatchOpen text = some (gap, after)) :
    response = (before ++ gap ++ dispatchOpen) ++ after := by
  rw [whole, (cut_sound opens).1]
  simp only [List.append_assoc]

theorem len_at_content (before gap : Text) :
    before.len + gap.len + dispatchOpen.len = (before ++ gap ++ dispatchOpen).len := by
  simp only [Text.len_append]

/-- The text in front of the place where a scan resumes, as one prefix. -/
theorem split_behind_block {response before text gap after body rest : Text}
    (whole : response = before ++ text) (opens : cut dispatchOpen text = some (gap, after))
    (closes : cut blockClose after = some (body, rest)) :
    response = (before ++ gap ++ dispatchOpen ++ body ++ blockClose) ++ rest := by
  rw [split_at_content whole opens, (cut_sound closes).1]
  simp only [List.append_assoc]

theorem len_behind_block (before gap body : Text) :
    before.len + gap.len + dispatchOpen.len + body.len + blockClose.len =
      (before ++ gap ++ dispatchOpen ++ body ++ blockClose).len := by
  simp only [Text.len_append]

/-! ## The parser -/

section Parser

variable (fromStr : ParseArray) {response before text gap after body rest : Text}

theorem parseBody_of_plain (whole : response = before ++ text) (results : List TaskMarker)
    (spans : List BlockSpan) (opens : cut dispatchOpen text = none) :
    parseBody fromStr response ⟨before.len, results, spans⟩ = some (.done ⟨results, spans⟩) := by
  simp [parseBody, sliceFrom_of_eq whole rfl, find_eq_none_of_cut opens]

theorem parseBody_of_unclosed (whole : response = before ++ text) (results : List TaskMarker)
    (spans : List BlockSpan) (opens : cut dispatchOpen text = some (gap, after))
    (closes : cut blockClose after = none) :
    parseBody fromStr response ⟨before.len, results, spans⟩ = some (.done ⟨results, spans⟩) := by
  have content := sliceFrom_of_eq (split_at_content whole opens) (len_at_content before gap)
  simp [parseBody, sliceFrom_of_eq whole rfl, find_of_cut opens, content,
    find_eq_none_of_cut closes]

theorem parseBody_of_block (whole : response = before ++ text) (results : List TaskMarker)
    (spans : List BlockSpan) (opens : cut dispatchOpen text = some (gap, after))
    (closes : cut blockClose after = some (body, rest)) :
    parseBody fromStr response ⟨before.len, results, spans⟩ =
      some (.next
        { searchFrom := (before ++ gap ++ dispatchOpen ++ body ++ blockClose).len
          results := results ++ blockMarkers fromStr body.trim
          spans := spans ++ [⟨before.len + gap.len, before.len + gap.len + dispatchOpen.len + body.len⟩] }) := by
  have content := sliceFrom_of_eq (split_at_content whole opens) (len_at_content before gap)
  have split : response = (before ++ gap ++ dispatchOpen) ++ (body ++ (blockClose ++ rest)) := by
    rw [split_at_content whole opens, (cut_sound closes).1]
  have raw := slice_of_eq split (len_at_content before gap) rfl
  rw [← len_behind_block]
  simp [parseBody, sliceFrom_of_eq whole rfl, find_of_cut opens, content, find_of_cut closes, raw]

end Parser

/-- One pass for each block and one to stop; the accumulated markers and
spans are those of the layout. -/
theorem parse_settles (fromStr : ParseArray) {response rest : Text} {layout : Layout Char}
    (laid : Laid parseDelimiters rest layout) (before : Text) (whole : response = before ++ rest)
    (results : List TaskMarker) (spans : List BlockSpan) :
    Settles (parseBody fromStr response) (layout.blockCount + 1) ⟨before.len, results, spans⟩
      (.returned ⟨results ++ markersOf fromStr layout, spans ++ spansFrom before.len layout⟩) := by
  induction laid generalizing before results spans with
  | plain opens =>
      simp only [markersOf, spansFrom, List.append_nil]
      exact .done (parseBody_of_plain fromStr whole results spans opens)
  | unclosed opens closes =>
      simp only [markersOf, spansFrom, List.append_nil]
      exact .done (parseBody_of_unclosed fromStr whole results spans opens closes)
  | @block text gap after body rest layout opens closes later inductionHypothesis =>
      refine .next (parseBody_of_block fromStr whole results spans opens closes) ?_
      have following := inductionHypothesis (before ++ gap ++ dispatchOpen ++ body ++ blockClose)
        (split_behind_block whole opens closes)
        (results ++ blockMarkers fromStr (Text.trim body))
        (spans ++ [⟨before.len + Text.len gap, before.len + Text.len gap + dispatchOpen.len + Text.len body⟩])
      simp only [List.append_assoc, List.singleton_append] at following
      simpa [Layout.blockCount, markersOf, spansFrom, parseDelimiters, Nat.add_assoc] using following

theorem parseBlocks_eq (fromStr : ParseArray) {response : Text} {layout : Layout Char}
    (laid : Laid parseDelimiters response layout) :
    parseBlocks fromStr response = .returned ⟨markersOf fromStr layout, spansFrom 0 layout⟩ := by
  have settles := parse_settles fromStr laid [] rfl [] []
  exact iterate_of_settles settles (Nat.add_le_add_right laid.blockCount_le 1)

theorem parseTaskMarkers_eq (fromStr : ParseArray) {response : Text} {layout : Layout Char}
    (laid : Laid parseDelimiters response layout) :
    parseTaskMarkers fromStr response = .returned (markersOf fromStr layout) := by
  rw [parseTaskMarkers, parseBlocks_eq fromStr laid]
  rfl

/-! ## The stripper -/

section Stripper

variable {response before text gap after body rest : Text}

theorem trimStartOf_concat (before : Text) (char : Char) (after : Text) :
    trimStartOf (before ++ char :: after) (before ++ [char]).len =
      some (if char = '\n' then before.len else (before ++ [char]).len) := by
  have positive : 0 < (before ++ [char]).len := by
    have width := char.utf8Size_pos
    simp only [Text.len_append, Text.len_cons, Text.len_nil]
    omega
  rcases Text.byteAt_append_pred before char after with ⟨byte, read, isNewline⟩
  rw [trimStartOf, if_pos positive, read, Option.map_some]
  by_cases newline : char = '\n'
  · subst newline
    rw [if_pos (isNewline.mpr rfl), if_pos rfl, Text.len_append]
    exact congrArg some (Nat.add_sub_cancel before.len 1)
  · rw [if_neg (fun same => newline (isNewline.mp same)), if_neg newline]

/-- The text a pass keeps in front of a block.  It panics when the newline
directly before the opener lies in front of its own cursor. -/
theorem keep_before (whole : response = before ++ (gap ++ (dispatchOpen ++ after))) :
    ((trimStartOf response (before.len + gap.len)).bind fun trimStart =>
        response.slice before.len trimStart) =
      if before.getLast? = some '\n' ∧ gap = [] then none else some (chopNewline gap) := by
  rcases List.eq_nil_or_concat gap with rfl | ⟨kept, char, rfl⟩
  · simp only [List.nil_append, Text.len_nil, Nat.add_zero, and_true, chopNewline_nil] at whole ⊢
    rcases List.eq_nil_or_concat before with rfl | ⟨front, char, rfl⟩
    · simp [trimStartOf, Text.slice]
    · rw [List.concat_eq_append] at whole ⊢
      have shifted : response = front ++ char :: (dispatchOpen ++ after) := by
        rw [whole, List.append_assoc, List.singleton_append]
      rw [shifted, trimStartOf_concat, Option.bind_some, List.getLast?_concat]
      by_cases newline : char = '\n'
      · rw [if_pos newline, if_pos (by rw [newline])]
        refine Text.slice_of_lt front _ ?_
        rw [Text.len_append, newline]
        exact Nat.lt_add_of_pos_right (by decide)
      · rw [if_neg newline, if_neg (fun same => newline (Option.some.inj same))]
        have empty := Text.slice_append (front ++ [char]) [] (dispatchOpen ++ after)
        simpa only [List.nil_append, Text.len_nil, Nat.add_zero, List.append_assoc,
          List.singleton_append] using empty
  · have nonempty : ¬ (before.getLast? = some '\n' ∧ List.concat kept char = []) := by
      rintro ⟨_, empty⟩
      simp at empty
    rw [if_neg nonempty]
    rw [List.concat_eq_append] at whole ⊢
    have shifted : response = (before ++ kept) ++ char :: (dispatchOpen ++ after) := by
      simp [whole]
    have width : before.len + Text.len (kept ++ [char]) = ((before ++ kept) ++ [char]).len := by
      simp
    rw [width, shifted, trimStartOf_concat, Option.bind_some]
    by_cases newline : char = '\n'
    · rw [if_pos newline, newline, chopNewline_concat_newline, Text.len_append,
        List.append_assoc]
      exact Text.slice_append before kept _
    · rw [if_neg newline, chopNewline_concat_of_ne kept newline, List.append_assoc,
        Text.len_append]
      have whole := Text.slice_append before (kept ++ [char]) (dispatchOpen ++ after)
      simpa only [List.append_assoc, List.singleton_append, Text.len_append, Nat.add_assoc]
        using whole

/-- Where a pass resumes: behind the newline that directly follows the
closing marker, if there is one. -/
theorem resumeAfter_eq (before rest : Text) :
    resumeAfter (before ++ rest) before.len = some (before ++ (dropNewline rest).1).len := by
  cases rest with
  | nil =>
      rw [resumeAfter, if_neg (by simp)]
      simp [dropNewline]
  | cons char rest =>
      have positive := char.utf8Size_pos
      rcases Text.byteAt_append_cons before char rest with ⟨byte, read, isNewline⟩
      rw [resumeAfter, if_pos (by simp; omega), read, Option.map_some]
      by_cases newline : char = '\n'
      · subst newline
        rw [if_pos (isNewline.mpr rfl)]
        simp [dropNewline]
        decide
      · rw [if_neg (fun same => newline (isNewline.mp same)), dropNewline_of_ne rest newline,
          List.append_nil]

theorem stripBody_of_plain (whole : response = before ++ text) (result : Text)
    (opens : cut dispatchOpen text = none) :
    stripBody response ⟨before.len, result⟩ = some (.done (result ++ text)) := by
  simp [stripBody, sliceFrom_of_eq whole rfl, find_eq_none_of_cut opens]

/-- The first half of a pass over a block: the gap is kept, or the pass
panics, and the search for the closing marker follows. -/
theorem stripBody_of_opener (whole : response = before ++ text) (result : Text)
    (opens : cut dispatchOpen text = some (gap, after)) :
    stripBody response ⟨before.len, result⟩ =
      if before.getLast? = some '\n' ∧ gap = [] then none
      else match Text.find blockClose after with
        | some closeOffset =>
            (resumeAfter response
              (before.len + gap.len + dispatchOpen.len + closeOffset + blockClose.len)).map
                fun searchFrom => .next ⟨searchFrom, result ++ chopNewline gap⟩
        | none => some (.done (result ++ chopNewline gap)) := by
  have content := sliceFrom_of_eq (split_at_content whole opens) (len_at_content before gap)
  have kept := keep_before (show response = before ++ (gap ++ (dispatchOpen ++ after)) by
    rw [whole, (cut_sound opens).1])
  simp only [stripBody, sliceFrom_of_eq whole rfl, find_of_cut opens, content,
    Option.bind_eq_bind, Option.bind_some]
  rw [← Option.bind_assoc, kept]
  by_cases passed : before.getLast? = some '\n' ∧ gap = []
  · rw [if_pos passed, if_pos passed, Option.bind_none]
  · rw [if_neg passed, if_neg passed, Option.bind_some]
    cases Text.find blockClose after with
    | none => rfl
    | some closeOffset => exact Option.map_eq_bind.symm

theorem stripBody_of_passed (whole : response = before ++ text) (result : Text)
    (opens : cut dispatchOpen text = some (gap, after))
    (passed : before.getLast? = some '\n' ∧ gap = []) :
    stripBody response ⟨before.len, result⟩ = none := by
  rw [stripBody_of_opener whole result opens, if_pos passed]

theorem stripBody_of_unclosed (whole : response = before ++ text) (result : Text)
    (opens : cut dispatchOpen text = some (gap, after)) (closes : cut blockClose after = none)
    (fresh : ¬ (before.getLast? = some '\n' ∧ gap = [])) :
    stripBody response ⟨before.len, result⟩ = some (.done (result ++ chopNewline gap)) := by
  rw [stripBody_of_opener whole result opens, if_neg fresh, find_eq_none_of_cut closes]

theorem stripBody_of_block (whole : response = before ++ text) (result : Text)
    (opens : cut dispatchOpen text = some (gap, after))
    (closes : cut blockClose after = some (body, rest))
    (fresh : ¬ (before.getLast? = some '\n' ∧ gap = [])) :
    stripBody response ⟨before.len, result⟩ =
      some (.next
        ⟨(before ++ gap ++ dispatchOpen ++ body ++ blockClose ++ (dropNewline rest).1).len,
          result ++ chopNewline gap⟩) := by
  rw [stripBody_of_opener whole result opens, if_neg fresh, find_of_cut closes]
  simp only
  rw [len_behind_block, split_behind_block whole opens closes, resumeAfter_eq]
  rfl

end Stripper

/-- The last character passed is a newline exactly when one was dropped
behind the block. -/
theorem getLast?_behind_block (before trailing : Text)
    (dropped : trailing = [] ∨ trailing = ['\n']) :
    (before ++ blockClose ++ trailing).getLast? = some '\n' ↔ (!trailing.isEmpty) = true := by
  rcases dropped with rfl | rfl
  · simp [blockClose]
  · simp

/-- The stripper panics on a stuck layout and otherwise returns what the
layout shows. -/
theorem strip_settles {response rest : Text} {layout : Layout Char}
    (laid : Laid stripDelimiters rest layout) (before : Text) (whole : response = before ++ rest)
    (result : Text) (preceded : Bool) (precedes : before.getLast? = some '\n' ↔ preceded = true) :
    ∃ passes, passes ≤ layout.blockCount + 1 ∧
      Settles (stripBody response) passes ⟨before.len, result⟩
        (if stuck preceded layout then .panicked else .returned (result ++ shown layout)) := by
  induction laid generalizing before result preceded with
  | plain opens => exact ⟨1, Nat.le_refl _, .done (stripBody_of_plain whole result opens)⟩
  | @unclosed text gap after opens closes =>
      refine ⟨1, Nat.le_refl _, ?_⟩
      by_cases passed : before.getLast? = some '\n' ∧ gap = []
      · have blocked : stuck preceded (.unclosed gap after) = true := by
          simp [stuck, precedes.mp passed.1, passed.2]
        rw [if_pos blocked]
        exact .panic (stripBody_of_passed whole result opens passed)
      · have free : ¬ stuck preceded (.unclosed gap after) = true := by
          simpa [stuck, ← precedes] using passed
        rw [if_neg free]
        exact .done (stripBody_of_unclosed whole result opens closes passed)
  | @block text gap after body rest layout opens closes later inductionHypothesis =>
      by_cases passed : before.getLast? = some '\n' ∧ gap = []
      · refine ⟨1, Nat.le_add_left _ _, ?_⟩
        have blocked : stuck preceded (.block gap body (dropNewline rest).1 layout) = true := by
          simp [stuck, precedes.mp passed.1, passed.2]
        rw [show (stripDelimiters.resume rest).1 = (dropNewline rest).1 from rfl, if_pos blocked]
        exact .panic (stripBody_of_passed whole result opens passed)
      · have free : stuck preceded (.block gap body (dropNewline rest).1 layout) =
            stuck (!(dropNewline rest).1.isEmpty) layout := by
          have notHere : (preceded && List.isEmpty gap) = false := by
            simpa [← precedes] using passed
          simp only [stuck, notHere, Bool.false_or]
        have split : response =
            (before ++ gap ++ dispatchOpen ++ body ++ blockClose ++ (dropNewline rest).1) ++
              (dropNewline rest).2 := by
          rw [List.append_assoc _ (dropNewline rest).1, dropNewline_append]
          exact split_behind_block whole opens closes
        rcases inductionHypothesis _ split (result ++ chopNewline gap) _
          (getLast?_behind_block _ _ (dropNewline_fst rest)) with ⟨passes, few, settles⟩
        refine ⟨passes + 1, Nat.succ_le_succ few, ?_⟩
        rw [show (stripDelimiters.resume rest).1 = (dropNewline rest).1 from rfl, free]
        refine .next (stripBody_of_block whole result opens closes passed) ?_
        simpa only [shown, List.append_assoc] using settles

theorem stripTaskMarkers_eq {response : Text} {layout : Layout Char}
    (laid : Laid stripDelimiters response layout) :
    stripTaskMarkers response =
      if stuck false layout then .panicked else .returned (shown layout) := by
  rcases strip_settles laid [] rfl [] false (by simp) with ⟨passes, few, settles⟩
  exact iterate_of_settles settles (Nat.le_trans few (Nat.add_le_add_right laid.blockCount_le 1))

/-- When the stripper returns, its result is what the layout shows. -/
theorem shown_of_stripTaskMarkers {response out : Text} {layout : Layout Char}
    (laid : Laid stripDelimiters response layout)
    (returns : stripTaskMarkers response = .returned out) :
    stuck false layout = false ∧ shown layout = out := by
  rw [stripTaskMarkers_eq laid] at returns
  cases blocked : stuck false layout with
  | true => simp [blocked] at returns
  | false => simpa [blocked] using returns

end Agent
end Rabb1tClaw
