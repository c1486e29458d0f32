import Rabb1tClaw.Agent.StreamLayout

namespace Rabb1tClaw
namespace Agent

open Foundations

/-!
# Agreement of parser, stripper and live stream

The three scanners are meant to agree on where a block is.  Parser and
stripper do: they delimit the same blocks at the same offsets, although one
of them skips a newline that the other reads.

Live stream and stripper do not always agree.  The filter searches the
closing marker from the start of the block, so in a block whose content
starts with `@@end` the newline of the opener already completes a closing
marker.  The stripper searches behind the opener and goes on to a later
marker, or to the end.  `stream_agrees_iff` says exactly when this shows:
whenever the filter has any text to send between its early closer and the
next opener.
-/

/-- The text that a layout was read from. -/
def source : Layout Char → Text
  | .plain text => text
  | .unclosed gap body => gap ++ (dispatchOpen ++ body)
  | .block gap body trailing rest =>
      gap ++ (dispatchOpen ++ (body ++ (blockClose ++ (trailing ++ source rest))))

/-- Where the closer search starts behind the opener, a layout keeps the
whole text. -/
theorem source_of_laid {text : Text} {layout : Layout Char}
    (laid : Laid stripDelimiters text layout) : source layout = text := by
  induction laid with
  | plain => rfl
  | unclosed opens closes => exact (cut_sound opens).1.symm
  | @block text gap after body rest layout opens closes later inductionHypothesis =>
      have behind : (dropNewline rest).1 ++ source layout = rest := by
        rw [inductionHypothesis]
        exact dropNewline_append rest
      have closed : after = body ++ (blockClose ++ rest) := (cut_sound closes).1
      have opened : text = gap ++ (dispatchOpen ++ after) := (cut_sound opens).1
      rw [opened, closed]
      conv => rhs; rw [← behind]
      rfl

/-! ## Parser and stripper -/

/-- The text of a layout once its blocks are removed, with at most one
newline before and after each block.  A tail from an opener without a closing
marker is removed as well; `tailNewline` says whether a newline directly
before that opener may go with it.  No opener is in what lies between. -/
inductive Removes (tailNewline : Bool) : Layout Char → Text → Prop
  | plain {text : Text} (no_opener : ¬ dispatchOpen <:+: text) : Removes tailNewline (.plain text) text
  | tail {gap body : Text} (no_opener : ¬ dispatchOpen <:+: gap) (open_ended : ¬ blockClose <:+: body) :
      Removes tailNewline (.unclosed gap body) gap
  | tailNewline {kept body : Text} (allowed : tailNewline = true)
      (no_opener : ¬ dispatchOpen <:+: kept ++ ['\n']) (open_ended : ¬ blockClose <:+: body) :
      Removes tailNewline (.unclosed (kept ++ ['\n']) body) kept
  | block {gap kept body trailing : Text} {rest : Layout Char} {out : Text}
      (no_opener : ¬ dispatchOpen <:+: gap) (before : gap = kept ∨ gap = kept ++ ['\n'])
      (after : trailing = [] ∨ trailing = ['\n']) (later : Removes tailNewline rest out) :
      Removes tailNewline (.block gap body trailing rest) (kept ++ out)

theorem removes_shown {text : Text} {layout : Layout Char}
    (laid : Laid stripDelimiters text layout) : Removes true layout (shown layout) := by
  induction laid with
  | plain opens => exact .plain (cut_eq_none_iff.mp opens)
  | @unclosed text gap after opens closes =>
      have noOpener : ¬ dispatchOpen <:+: gap := (cut_sound opens).2.not_occurs stripDelimiters.opener_ne
      have openEnded : ¬ blockClose <:+: after := cut_eq_none_iff.mp closes
      rcases exists_chopped gap with ⟨newline, rfl | rfl, chopped⟩
      · rw [List.append_nil] at chopped
        rw [shown, ← chopped]
        exact .tail noOpener openEnded
      · rw [chopped] at noOpener
        rw [shown]
        conv => arg 2; rw [chopped]
        exact .tailNewline rfl noOpener openEnded
  | @block text gap after body rest layout opens closes later inductionHypothesis =>
      have noOpener : ¬ dispatchOpen <:+: gap := (cut_sound opens).2.not_occurs stripDelimiters.opener_ne
      refine .block noOpener ?_ (dropNewline_fst rest) inductionHypothesis
      rcases exists_chopped gap with ⟨newline, rfl | rfl, chopped⟩
      · exact Or.inl (by rw [List.append_nil] at chopped; exact chopped)
      · exact Or.inr chopped

theorem dispatchOpen_cons : dispatchOpen = '@' :: dispatchOpen.tail := by decide

/-- The newline that the stripper drops behind a block never starts an
opener, so the parser finds the same opener from in front of it. -/
theorem avoids_dispatchOpen_dropped {dropped : Text} (rest : Text)
    (single : dropped = [] ∨ dropped = ['\n']) : Avoids dispatchOpen dropped rest := by
  rw [dispatchOpen_cons]
  apply Avoids.of_head_not_mem
  rcases single with rfl | rfl <;> decide

theorem cut_dispatchOpen_dropped {dropped : Text} (rest : Text)
    (single : dropped = [] ∨ dropped = ['\n']) :
    cut dispatchOpen (dropped ++ rest) =
      (cut dispatchOpen rest).map fun parts => (dropped ++ parts.1, parts.2) :=
  cut_append_of_avoids rest (avoids_dispatchOpen_dropped rest single)

/-- The simulation of the two loops: the parser at a text that still has the
dropped newline in front, and the stripper behind that newline, delimit the
same blocks. -/
theorem spansFrom_agree {text dropped : Text} {stripped parsed : Layout Char}
    (left : Laid stripDelimiters text stripped) (single : dropped = [] ∨ dropped = ['\n'])
    (right : Laid parseDelimiters (dropped ++ text) parsed) (offset : Nat) :
    spansFrom offset parsed = spansFrom (offset + dropped.len) stripped := by
  induction left generalizing dropped parsed offset with
  | @plain text opens =>
      have missing := cut_dispatchOpen_dropped text single
      rw [show cut dispatchOpen text = none from opens, Option.map_none] at missing
      rw [right.unique (.plain missing)]
      rfl
  | @unclosed text gap after opens closes =>
      have found := cut_dispatchOpen_dropped text single
      rw [show cut dispatchOpen text = some (gap, after) from opens, Option.map_some] at found
      rw [right.unique (.unclosed found closes)]
      rfl
  | @block text gap after body rest layout opens closes later inductionHypothesis =>
      have found := cut_dispatchOpen_dropped text single
      rw [show cut dispatchOpen text = some (gap, after) from opens, Option.map_some] at found
      have resumed : Laid parseDelimiters ((dropNewline rest).1 ++ (dropNewline rest).2)
          (scan parseDelimiters rest) := by
        rw [dropNewline_append]
        exact scan_laid _ rest
      have same := inductionHypothesis (dropNewline_fst rest) resumed
        (offset + dropped.len + Text.len gap + dispatchOpen.len + Text.len body + blockClose.len)
      rw [right.unique (.block found closes (scan_laid parseDelimiters rest))]
      simp only [spansFrom, parseDelimiters, stripDelimiters, Text.len_append, Text.len_nil,
        Nat.add_zero, ← Nat.add_assoc] at same ⊢
      rw [same]

/-- Whatever the stripper returns is the response without exactly the blocks
that the parser delimits, up to one newline before and after each, and
without an open-ended tail and up to one newline before it. -/
theorem strip_removes_parsed_blocks (fromStr : ParseArray) (response out : Text)
    (returns : stripTaskMarkers response = .returned out) :
    ∃ layout markers, source layout = response ∧
      parseBlocks fromStr response = .returned ⟨markers, spansFrom 0 layout⟩ ∧
      Removes true layout out := by
  have laid := scan_laid stripDelimiters response
  have parsed := scan_laid parseDelimiters response
  refine ⟨scan stripDelimiters response, markersOf fromStr (scan parseDelimiters response),
    source_of_laid laid, ?_, ?_⟩
  · rw [parseBlocks_eq fromStr parsed]
    exact congrArg (fun spans => Outcome.returned (Parsed.mk _ spans))
      (spansFrom_agree laid (Or.inl rfl) parsed 0)
  · rw [← (shown_of_stripTaskMarkers laid returns).2]
    exact removes_shown laid

theorem strip_removes_parsed_blocks_two :
    ∃ layout markers,
      source layout = "a\n@@dispatch\n[]\n@@end\nb\n@@dispatch\nc".toList ∧
      parseBlocks (fun _ => some []) "a\n@@dispatch\n[]\n@@end\nb\n@@dispatch\nc".toList =
        .returned ⟨markers, spansFrom 0 layout⟩ ∧
      Removes true layout "ab".toList :=
  strip_removes_parsed_blocks (fun _ => some []) _ _ (by decide)

/-- A newline before an open-ended tail is removed although no block of the
parser explains it. -/
theorem strip_removes_newline_before_tail :
    stripTaskMarkers "\n@@dispatch\n".toList = .returned [] ∧
      ¬ ∃ layout markers, source layout = "\n@@dispatch\n".toList ∧
        parseBlocks (fun _ => some []) "\n@@dispatch\n".toList =
          .returned ⟨markers, spansFrom 0 layout⟩ ∧
        Removes false layout [] := by
  refine ⟨by decide, ?_⟩
  rintro ⟨layout, markers, whole, parsed, removes⟩
  have noSpans : spansFrom 0 layout = [] := by
    rw [show parseBlocks (fun _ => some []) "\n@@dispatch\n".toList = .returned ⟨[], []⟩ by decide]
      at parsed
    exact (Parsed.mk.inj (Outcome.returned.inj parsed)).2.symm
  cases layout with
  | plain text =>
      cases removes
      exact absurd whole (by decide)
  | unclosed gap body =>
      cases removes with
      | tail =>
          rw [source, List.nil_append, dispatchOpen_cons] at whole
          exact absurd (List.cons.inj whole).1 (by decide)
      | tailNewline allowed => cases allowed
  | block gap body trailing rest => cases noSpans

/-! ## Live stream and stripper -/

/-- A closing marker without its newline.  At the start of a block the
newline of the opener completes it. -/
def closerTail : Text := ['@', '@', 'e', 'n', 'd']

/-- Whether the filter shows nothing of a text before the next closing
marker: the text is empty, or its first opener has at most one newline before
it. -/
def silentStart (text : Text) : Bool :=
  match cut dispatchOpen text with
  | none => text.isEmpty
  | some (gap, _) => (chopNewline gap).isEmpty

/-- Whether the text behind an opener hides an early closing marker: either
it does not start with one, or nothing is shown behind it. -/
def silentEarlyClose (after : Text) : Bool :=
  match Text.stripPrefix after closerTail with
  | none => true
  | some later => silentStart (dropNewline later).2

/-- No opener of the layout is closed early with text behind it. -/
def silentEarlyCloses : Layout Char → Bool
  | .plain _ => true
  | .unclosed _ body => silentEarlyClose body
  | .block _ body trailing rest =>
      silentEarlyClose (body ++ (blockClose ++ (trailing ++ source rest))) && silentEarlyCloses rest

theorem blockClose_cons : blockClose = '\n' :: closerTail := by decide

theorem avoids_blockClose_closerTail (rest : Text) : Avoids blockClose closerTail rest := by
  rw [blockClose_cons]
  exact Avoids.of_head_not_mem rest (by decide)

theorem avoids_dispatchOpen_closerTail (rest : Text) : Avoids dispatchOpen closerTail rest := by
  simp [closerTail, dispatchOpen_eq, openerHead]

theorem avoids_dispatchOpen_blockClose (rest : Text) : Avoids dispatchOpen blockClose rest := by
  rw [blockClose_cons]
  exact ⟨by simp [dispatchOpen_eq, openerHead], avoids_dispatchOpen_closerTail rest⟩

/-- A leading newline never makes the filter show less. -/
theorem length_shownFrom_dropNewline (text : Text) :
    (shownFrom false (dropNewline text).2).length ≤ (shownFrom false text).length := by
  rcases dropNewline_fst text with kept | dropped
  · have same := dropNewline_append text
    rw [kept, List.nil_append] at same
    exact Nat.le_of_eq (by rw [same])
  · have split : text = ['\n'] ++ (dropNewline text).2 := by
      rw [← dropped, dropNewline_append]
    have found := cut_dispatchOpen_dropped (dropNewline text).2 (Or.inr rfl)
    rw [← split] at found
    cases opens : cut dispatchOpen (dropNewline text).2 with
    | none =>
        rw [opens, Option.map_none] at found
        rw [shownFrom_of_no_opener found, shownFrom_of_no_opener opens]
        conv => rhs; rw [split]
        exact (List.suffix_append _ _).length_le
    | some parts =>
        rw [opens, Option.map_some] at found
        rw [shownFrom_of_opener found (Or.inl rfl), shownFrom_of_opener opens (Or.inl rfl)]
        simp only [List.length_append]
        apply Nat.add_le_add_right
        by_cases empty : parts.1 = []
        · rw [empty]
          exact Nat.zero_le _
        · rw [chopNewline_append (Or.inl empty)]
          exact (List.suffix_append _ _).length_le

/-- What the filter shows of an unblocked text with no closing marker in it. -/
theorem shownFrom_without_closer {text : Text} (closes : cut blockClose text = none) :
    shownFrom false text = [] ↔ silentStart text = true := by
  cases opens : cut dispatchOpen text with
  | none =>
      rw [shownFrom_of_no_opener opens]
      simp [silentStart, opens]
  | some parts =>
      have unclosed : cut blockClose ('\n' :: parts.2) = none := by
        rw [cut_eq_none_iff] at closes ⊢
        intro occurs
        apply closes
        rw [(cut_sound opens).1, dispatchOpen_eq]
        exact occurs.trans ⟨parts.1 ++ openerHead, [], by simp⟩
      have eaten := cut_blockClose_opener parts.2 (Or.inl rfl)
      rw [unclosed, Option.map_none] at eaten
      rw [shownFrom_of_opener opens (Or.inl rfl), shownFrom_of_no_closer eaten]
      simp [silentStart, opens]

/-- A stretch that ends like a closing marker and hides no opener is shown. -/
theorem loud_of_closerTail {front behind : Text}
    (avoids : Avoids dispatchOpen (front ++ closerTail) behind) :
    silentStart ((front ++ closerTail) ++ behind) = false ∧
      (shownFrom false (dropNewline behind).2).length <
        (shownFrom false ((front ++ closerTail) ++ behind)).length := by
  constructor
  · rw [silentStart, cut_append_of_avoids behind avoids]
    cases cut dispatchOpen behind with
    | none => simp [closerTail]
    | some parts =>
        rw [Option.map_some]
        simp only
        rw [chopNewline_append (Or.inr (by simp [closerTail]))]
        simp [closerTail]
  · rw [shownFrom_append behind avoids (fun _ => by simp [closerTail])]
    have shorter := length_shownFrom_dropNewline behind
    simp [closerTail]
    omega

/-- What the filter shows of an unblocked text up to a closing marker, against
what it shows behind that marker. -/
theorem shownFrom_before_closer {text body behind : Text}
    (closes : cut blockClose text = some (body, behind)) :
    (silentStart text = true ∧ shownFrom false text = shownFrom false (dropNewline behind).2) ∨
      (silentStart text = false ∧
        (shownFrom false (dropNewline behind).2).length < (shownFrom false text).length) := by
  have split := cut_sound closes
  by_cases avoids : Avoids dispatchOpen body (blockClose ++ behind)
  · -- No opener before the closing marker: all of it is shown.
    have whole : Avoids dispatchOpen (body ++ blockClose) behind :=
      (Avoids.append_iff _ _ _ _).mpr ⟨avoids, avoids_dispatchOpen_blockClose behind⟩
    have ends : body ++ blockClose = (body ++ ['\n']) ++ closerTail := by
      rw [blockClose_cons, List.append_assoc]
      rfl
    right
    rw [split.1, ← List.append_assoc, ends]
    exact loud_of_closerTail (ends ▸ whole)
  · -- An opener before the closing marker: the marker closes its block.
    rcases exists_cut_of_not_avoids avoids with ⟨gap, after, opens, short⟩
    rw [← split.1] at opens
    have opened := (cut_sound opens).1
    have gapStarts : gap <+: text := ⟨_, opened.symm⟩
    have bodyStarts : body <+: text := ⟨_, split.1.symm⟩
    have inBody : gap <+: body :=
      List.prefix_of_prefix_length_le gapStarts bodyStarts (Nat.le_of_lt short)
    rcases inBody with ⟨later, isBody⟩
    have gapAvoids : Avoids blockClose gap (dispatchOpen ++ after) := by
      have both := split.2
      rw [← isBody, Avoids.append_iff] at both
      have same : later ++ (blockClose ++ behind) = dispatchOpen ++ after := by
        have twice := split.1.symm.trans opened
        rw [← isBody, List.append_assoc] at twice
        exact List.append_cancel_left twice
      rw [← same]
      exact both.1
    have eaten := cut_append_of_avoids (dispatchOpen ++ after) gapAvoids
    rw [← opened, closes] at eaten
    rcases Option.map_eq_some_iff.mp eaten.symm with ⟨parts, found, same⟩
    have shows : shownFrom false text = chopNewline gap ++ shownFrom false (dropNewline behind).2 := by
      rw [shownFrom_of_opener opens (Or.inl rfl), List.nil_append, shownFrom_of_closer found,
        (Prod.mk.inj same).2]
    rw [shows, silentStart, opens]
    cases kept : chopNewline gap with
    | nil => exact Or.inl ⟨by simp [kept], rfl⟩
    | cons char tail =>
        right
        constructor
        · simp [kept]
        · rw [List.length_append, List.length_cons]
          omega

/-- What an early closer does to an otherwise unclosed block. -/
theorem early_close_of_unclosed {after later : Text} (closes : cut blockClose after = none)
    (early : closerTail ++ later = after) :
    shownFrom false (dropNewline later).2 = [] ↔ silentStart (dropNewline later).2 = true := by
  apply shownFrom_without_closer
  rw [cut_eq_none_iff] at closes ⊢
  intro occurs
  apply closes
  rw [← early]
  conv => arg 2; rw [← dropNewline_append later]
  exact occurs.trans ⟨closerTail ++ (dropNewline later).1, [], by simp⟩

/-- What an early closer does to a block that a later marker closes. -/
theorem early_close_of_block {after later body behind : Text}
    (closes : cut blockClose after = some (body, behind)) (early : closerTail ++ later = after) :
    (silentStart (dropNewline later).2 = true ∧
        shownFrom false (dropNewline later).2 = shownFrom false (dropNewline behind).2) ∨
      (silentStart (dropNewline later).2 = false ∧
        (shownFrom false (dropNewline behind).2).length <
          (shownFrom false (dropNewline later).2).length) := by
  have found : cut blockClose later = some (body.drop closerTail.length, behind) := by
    have passed := cut_append_of_avoids later (avoids_blockClose_closerTail later)
    rw [early, closes] at passed
    rcases Option.map_eq_some_iff.mp passed.symm with ⟨parts, inner, same⟩
    rw [inner, ← (Prod.mk.inj same).1, ← (Prod.mk.inj same).2, List.drop_left]
  have split := cut_sound found
  generalize body.drop closerTail.length = between at found split
  cases between with
  | nil =>
      -- The newline behind the early closer belongs to the second one.
      have isTail : (dropNewline later).2 = closerTail ++ behind := by
        rw [split.1, blockClose_cons]
        rfl
      have avoids : Avoids dispatchOpen ([] ++ closerTail) behind :=
        avoids_dispatchOpen_closerTail behind
      right
      rw [isTail]
      exact loud_of_closerTail avoids
  | cons char tail =>
      by_cases newline : char = '\n'
      · have closes' : cut blockClose (dropNewline later).2 = some (tail, behind) := by
          rw [split.1, newline]
          exact cut_of_avoids _ split.2.2
        exact shownFrom_before_closer closes'
      · have same : (dropNewline later).2 = later := by
          rw [split.1, List.cons_append, dropNewline_of_ne _ newline]
        rw [same]
        exact shownFrom_before_closer found

/-- Without an early closer the filter finds the closing marker that the
stripper finds. -/
theorem cut_blockClose_of_late {after : Text} (late : Text.stripPrefix after closerTail = none) :
    cut blockClose ('\n' :: after) =
      (cut blockClose after).map fun parts => ('\n' :: parts.1, parts.2) := by
  have differs : ¬ blockClose <+: '\n' :: after := by
    rw [blockClose_cons]
    rintro ⟨later, same⟩
    have early : closerTail ++ later = after := (List.cons.inj same).2
    rw [Text.stripPrefix_eq_some.mpr early] at late
    cases late
  exact cut_cons_of_not_starts differs

/-- What the filter shows at an opener, by the text behind the opener. -/
theorem shownFrom_at_opener {text gap after : Text}
    (opens : cut dispatchOpen text = some (gap, after)) :
    shownFrom false text = chopNewline gap ++
      match Text.stripPrefix after closerTail with
      | some later => shownFrom false (dropNewline later).2
      | none => shownFrom true after := by
  have eaten := cut_blockClose_opener after (Or.inl rfl)
  rw [shownFrom_of_opener opens (Or.inl rfl)]
  cases early : Text.stripPrefix after closerTail with
  | some later =>
      have isClose : '\n' :: after = [] ++ (blockClose ++ later) := by
        rw [← Text.stripPrefix_eq_some.mp early, blockClose_cons]
        rfl
      rw [isClose, cut_of_avoids later (Avoids.nil _ _), Option.map_some] at eaten
      rw [shownFrom_of_closer eaten]
  | none =>
      rw [cut_blockClose_of_late early] at eaten
      cases closes : cut blockClose after with
      | none =>
          rw [closes] at eaten
          rw [shownFrom_of_no_closer eaten, shownFrom_of_no_closer closes]
      | some parts =>
          rw [closes] at eaten
          rw [shownFrom_of_closer eaten, shownFrom_of_closer closes]

/-- The filter shows at least what the stripper keeps, and exactly that when
every early closer is silent. -/
theorem shown_or_shorter {text : Text} {layout : Layout Char}
    (laid : Laid stripDelimiters text layout) :
    (silentEarlyCloses layout = true ∧ shownFrom false text = shown layout) ∨
      (silentEarlyCloses layout = false ∧
        (shown layout).length < (shownFrom false text).length) := by
  induction laid with
  | @plain text opens => exact Or.inl ⟨rfl, shownFrom_of_no_opener opens⟩
  | @unclosed text gap after opens closes =>
      rw [shownFrom_at_opener opens, silentEarlyCloses, silentEarlyClose, shown]
      cases early : Text.stripPrefix after closerTail with
      | none =>
          have eaten : shownFrom true after = [] := shownFrom_of_no_closer closes
          exact Or.inl ⟨rfl, by simp [eaten]⟩
      | some later =>
          have silent := early_close_of_unclosed closes (Text.stripPrefix_eq_some.mp early)
          cases start : silentStart (dropNewline later).2 with
          | true => exact Or.inl ⟨start, by simp [silent.mpr start]⟩
          | false =>
              refine Or.inr ⟨start, ?_⟩
              have nonempty : shownFrom false (dropNewline later).2 ≠ [] := by
                intro empty
                rw [silent.mp empty] at start
                cases start
              have positive := List.length_pos_iff.mpr nonempty
              simp only [List.length_append]
              omega
  | @block text gap after body rest layout opens closes later inductionHypothesis =>
      have whole : body ++ (blockClose ++ ((dropNewline rest).1 ++ source layout)) = after := by
        rw [source_of_laid later]
        conv => lhs; rw [show stripDelimiters.resume rest = dropNewline rest from rfl,
          dropNewline_append]
        exact (cut_sound closes).1.symm
      have behind : (shown layout).length ≤ (shownFrom false (dropNewline rest).2).length := by
        rcases inductionHypothesis with ⟨_, same⟩ | ⟨_, shorter⟩
        · exact Nat.le_of_eq (congrArg List.length same).symm
        · exact Nat.le_of_lt shorter
      have kept : (silentEarlyCloses layout = true ∧
            chopNewline gap ++ shownFrom false (dropNewline rest).2 = chopNewline gap ++ shown layout) ∨
          (silentEarlyCloses layout = false ∧ (chopNewline gap ++ shown layout).length <
            (chopNewline gap ++ shownFrom false (dropNewline rest).2).length) := by
        rcases inductionHypothesis with ⟨silent, same⟩ | ⟨loud, shorter⟩
        · exact Or.inl ⟨silent, congrArg (chopNewline gap ++ ·) same⟩
        · refine Or.inr ⟨loud, ?_⟩
          rw [List.length_append, List.length_append]
          exact Nat.add_lt_add_left shorter _
      rw [shownFrom_at_opener opens, silentEarlyCloses, shown]
      rw [show (stripDelimiters.resume rest).1 = (dropNewline rest).1 from rfl, whole,
        silentEarlyClose]
      cases early : Text.stripPrefix after closerTail with
      | none =>
          have eaten : shownFrom true after = shownFrom false (dropNewline rest).2 :=
            shownFrom_of_closer closes
          simp only [Bool.true_and, eaten]
          exact kept
      | some tail =>
          simp only
          rcases early_close_of_block closes (Text.stripPrefix_eq_some.mp early) with
            ⟨start, same⟩ | ⟨start, longer⟩
          · rw [start, same, Bool.true_and]
            exact kept
          · rw [start, Bool.false_and]
            refine Or.inr ⟨rfl, ?_⟩
            rw [List.length_append, List.length_append]
            omega

/-- The live stream of a response, however it is cut into chunks, is the
stripped response exactly when no block of it is closed early with text
behind the early closer. -/
theorem stream_agrees_iff (chunks : List Text) (out : Text)
    (returns : stripTaskMarkers chunks.flatten = .returned out) :
    liveStream chunks = .returned out ↔
      silentEarlyCloses (scan stripDelimiters chunks.flatten) = true := by
  have laid := scan_laid stripDelimiters chunks.flatten
  have isShown := (shown_of_stripTaskMarkers laid returns).2
  have streamed : liveStream chunks = .returned (shownFrom false chunks.flatten) :=
    liveStream_eq chunks
  rw [streamed, Outcome.returned.injEq, ← isShown]
  rcases shown_or_shorter laid with ⟨silent, same⟩ | ⟨loud, shorter⟩
  · exact iff_of_true same silent
  · refine iff_of_false ?_ (by simp [loud])
    intro same
    rw [same] at shorter
    exact Nat.lt_irrefl _ shorter

theorem stream_agrees_iff_two_chunks :
    liveStream ["hi\n@@dispatch\n[]\n@@e".toList, "nd\nbye".toList] =
        .returned "hibye".toList ↔
      silentEarlyCloses (scan stripDelimiters "hi\n@@dispatch\n[]\n@@end\nbye".toList) = true :=
  stream_agrees_iff ["hi\n@@dispatch\n[]\n@@e".toList, "nd\nbye".toList] _ (by decide)

/-- An empty block: the stripper runs to the end of the response, while the
filter shows what follows the marker. -/
theorem stream_shows_behind_empty_block :
    stripTaskMarkers ["@@dispatch\n@@end\nfoo".toList].flatten = .returned [] ∧
      liveStream ["@@dispatch\n@@end\nfoo".toList] = .returned "foo".toList := by
  decide

end Agent
end Rabb1tClaw
