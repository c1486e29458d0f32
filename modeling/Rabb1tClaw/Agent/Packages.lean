import Rabb1tClaw.Agent.CodeLoop
import Rabb1tClaw.Foundations.Occurrences
import Rabb1tClaw.Foundations.Words

namespace Rabb1tClaw
namespace Agent
namespace CodeLoop

open Foundations

/-!
# Packages and code

The code and the packages are read from one reply by two searches that know
nothing of each other.  Here both keep the positions of what they return, so
that one can say that a package was read from the code.

The search for the packages takes the first fence behind the heading,
whatever it fences.  A section that names no package leaves it with the fence
of the code, and what stands between this fence and the next one is read as
packages.  There is no other way to read packages from the code.
-/

def header : Text := "### Packages".toList
def marker : Text := "```python".toList
def fence : Text := "```".toList

/-- A line that is neither empty nor a comment. -/
def isName (line : Text) : Bool := !line.isEmpty && !(['#'].isPrefixOf line)

/-! ## Stretch readings -/

/-- The block that `extractPythonCode` reads, and where it starts. -/
def codeBlock (response : Text) : Option (Stretch Char) := do
  let (before, afterMarker) ← cut marker response
  let behind := before.length + marker.length
  let newline := ['\n'].isPrefixOf afterMarker
  let codeStart := if newline then behind + 1 else behind
  let body := if newline then afterMarker.drop 1 else afterMarker
  let (block, _) ← cut fence body
  if Text.trimEnd block = [] then none else some (codeStart, block)

/-- The block that `extractPackages` reads, and where it starts. -/
def sectionBlock (response : Text) : Option (Stretch Char) := do
  let (before, after) ← cut header response
  let (gap, opened) ← cut fence after
  let (tag, body) ← cut ['\n'] opened
  let (block, _) ← cut fence body
  some (before.length + header.length + gap.length + fence.length + tag.length + 1, block)

def trimLocated (line : Stretch Char) : Stretch Char :=
  (line.1 + (line.2.length - (Text.trimStart line.2).length), Text.trim line.2)

/-- The lines that `extractPackages` returns, each with its position in the reply. -/
def packageLines (response : Text) : List (Stretch Char) :=
  match sectionBlock response with
  | none => []
  | some (start, block) =>
      ((locateLines start (block.splitOn '\n')).map trimLocated).filter fun line => isName line.2

/-- No line that is returned as a package lies inside the code. -/
def ReadsNoCode (response : Text) : Prop :=
  ∀ code, codeBlock response = some code → ∀ line ∈ packageLines response, ¬ Inside line code

theorem toList_header : "### Packages".toList = header := rfl
theorem toList_marker : "```python".toList = marker := rfl
theorem toList_fence : "```".toList = fence := rfl

/-- What `extractPythonCode` returns is the located block without the
whitespace behind it. -/
theorem extractPythonCode_eq (response : Text) :
    extractPythonCode response = (codeBlock response).map fun code => Text.trimEnd code.2 := by
  simp only [extractPythonCode, codeBlock, toList_marker, toList_fence, Option.bind_eq_bind, Option.map_bind,
    Function.comp_def, apply_ite (Option.map _), Option.map_none, Option.map_some]

theorem packageBlock_eq (response : Text) : packageBlock response = (sectionBlock response).map Prod.snd := by
  simp only [packageBlock, sectionBlock, toList_header, toList_fence, Option.bind_eq_bind, Option.map_bind,
    Function.comp_def, Option.map_some]

theorem map_snd_names (lines : List (Stretch Char)) :
    (lines.filter fun line => isName line.2).map Prod.snd = (lines.map Prod.snd).filter isName := by
  rw [List.filter_map]
  rfl

theorem map_snd_packageLines (response : Text) : (packageLines response).map Prod.snd = extractPackages response := by
  rw [extractPackages, packageBlock_eq, packageLines]
  cases sectionBlock response with
  | none => rfl
  | some found =>
      have lines := congrArg (List.map Text.trim) (map_snd_locateLines found.1 (found.2.splitOn '\n'))
      rw [List.map_map] at lines
      change _ = ((found.2.splitOn '\n').map Text.trim).filter isName
      rw [map_snd_names, List.map_map, ← lines]
      rfl

/-- The lines of the section that are names, wherever they stand in it. -/
theorem mem_packageLines_iff {response : Text} {line : Stretch Char} :
    line ∈ packageLines response ↔
      ∃ block, sectionBlock response = some block ∧
        ∃ whole ∈ locateLines block.1 (block.2.splitOn '\n'),
          trimLocated whole = line ∧ isName line.2 = true := by
  rw [packageLines]
  cases sectionBlock response with
  | none => simp
  | some found =>
      simp only [List.mem_filter, List.mem_map, Option.some.injEq, exists_eq_left']
      constructor
      · rintro ⟨⟨whole, member, trims⟩, name⟩
        exact ⟨whole, member, trims, name⟩
      · rintro ⟨whole, member, trims, name⟩
        exact ⟨⟨whole, member, trims⟩, name⟩

/-- A line is trimmed to a piece of itself, and its position moves along. -/
theorem trimLocated_pieceOf (line : Stretch Char) : PieceOf (trimLocated line) line := by
  have back : Text.trim line.2 <+: Text.trimStart line.2 := by
    rw [Text.trim, Text.trimEnd, ← List.reverse_suffix, List.reverse_reverse]
    exact List.dropWhile_suffix _
  rcases back with ⟨gap', split'⟩
  rcases List.dropWhile_suffix (l := line.2) Text.isWhitespace with ⟨gap, split⟩
  refine ⟨gap, gap', ?_, ?_⟩
  · change line.2 = gap ++ (Text.trim line.2 ++ gap')
    rw [split']
    exact split.symm
  · have lengths := congrArg List.length split
    rw [List.length_append] at lengths
    change line.1 + (line.2.length - (List.dropWhile Text.isWhitespace line.2).length) = line.1 + gap.length
    omega

/-- A line is returned as a package where it stands in the section. -/
theorem packageLines_pieceOf {response : Text} {line : Stretch Char} (member : line ∈ packageLines response) :
    ∃ block, sectionBlock response = some block ∧ PieceOf line block ∧ line.2 ≠ [] := by
  rcases mem_packageLines_iff.mp member with ⟨block, found, whole, inBlock, rfl, name⟩
  refine ⟨block, found, ?_, ?_⟩
  · have piece := pieceOf_of_mem_locateLines '\n' inBlock
    rw [List.intercalate_splitOn] at piece
    exact (trimLocated_pieceOf whole).trans piece
  · intro empty
    rw [empty] at name
    cases name

/-! ## Where the blocks stand -/

/-- The searches of `extractPackages` and what they find. -/
structure SectionAt (response : Text) (heading opener newline closer : Nat) : Prop where
  headed : FirstFrom header response 0 heading
  opened : FirstFrom fence response (heading + header.length) opener
  ended : FirstFrom ['\n'] response (opener + fence.length) newline
  closed : FirstFrom fence response (newline + 1) closer

theorem sectionBlock_eq_some_iff {response : Text} {block : Stretch Char} :
    sectionBlock response = some block ↔
      ∃ heading opener newline closer, SectionAt response heading opener newline closer ∧
        block = (newline + 1, segment response (newline + 1) closer) := by
  have lengthen {pattern : Text} {start position : Nat} (nonempty : pattern ≠ [])
      (found : FirstFrom pattern response start position) := found.add_length_segment nonempty
  simp only [sectionBlock, Option.bind_eq_bind, Option.bind_eq_some_iff, Prod.exists, Option.some.injEq]
  constructor
  · rintro ⟨before, after, headed, gap, opened, opens, tag, body, breaks, content, rest, closes, same⟩
    rcases (cut_iff (by decide)).mp headed with ⟨heading, atHeading, rfl, rfl⟩
    rcases (cut_drop_iff (by decide)).mp opens with ⟨opener, atOpener, rfl, rfl⟩
    rcases (cut_drop_iff (by decide)).mp breaks with ⟨newline, atNewline, rfl, rfl⟩
    rcases (cut_drop_iff (by decide)).mp closes with ⟨closer, atCloser, rfl, rfl⟩
    refine ⟨heading, opener, newline, closer, ⟨atHeading, atOpener, atNewline, atCloser⟩, ?_⟩
    have toHeading := lengthen (by decide) atHeading
    have toOpener := lengthen (by decide) atOpener
    have toNewline := lengthen (by decide) atNewline
    rw [← same, Prod.mk.injEq]
    refine ⟨?_, rfl⟩
    omega
  · rintro ⟨heading, opener, newline, closer, found, rfl⟩
    have toHeading := lengthen (by decide) found.headed
    have toOpener := lengthen (by decide) found.opened
    have toNewline := lengthen (by decide) found.ended
    refine ⟨_, _, (cut_iff (by decide)).mpr ⟨heading, found.headed, rfl, rfl⟩,
      _, _, (cut_drop_iff (by decide)).mpr ⟨opener, found.opened, rfl, rfl⟩,
      _, _, (cut_drop_iff (by decide)).mpr ⟨newline, found.ended, rfl, rfl⟩,
      _, _, (cut_drop_iff (by decide)).mpr ⟨closer, found.closed, rfl, rfl⟩, ?_⟩
    rw [Prod.mk.injEq]
    refine ⟨?_, rfl⟩
    omega

namespace SectionAt

variable {response : Text} {heading opener newline closer : Nat} {line : Stretch Char}

theorem sectionBlock_eq (found : SectionAt response heading opener newline closer) :
    sectionBlock response = some (newline + 1, segment response (newline + 1) closer) :=
  sectionBlock_eq_some_iff.mpr ⟨heading, opener, newline, closer, found, rfl⟩

theorem mem_packageLines_iff (found : SectionAt response heading opener newline closer) :
    line ∈ packageLines response ↔
      ∃ whole ∈ locateLines (newline + 1) ((segment response (newline + 1) closer).splitOn '\n'),
        trimLocated whole = line ∧ isName line.2 = true := by
  rw [CodeLoop.mem_packageLines_iff, found.sectionBlock_eq]
  simp only [Option.some.injEq, exists_eq_left']

/-- A line stands between the newline behind the opening fence and the closing fence. -/
theorem line_within (found : SectionAt response heading opener newline closer)
    (member : line ∈ packageLines response) :
    0 < line.2.length ∧ newline + 1 ≤ line.1 ∧ line.1 + line.2.length ≤ closer := by
  rcases packageLines_pieceOf member with ⟨block, returns, piece, nonempty⟩
  rcases Option.some.inj (found.sectionBlock_eq.symm.trans returns) with rfl
  refine ⟨List.length_pos_iff.mpr nonempty, ?_⟩
  exact (found.closed.inside_segment_iff (by decide)).mp piece.inside

end SectionAt

/-- The lines stand in the reply where they say. -/
theorem packageLines_standsIn {response : Text} {line : Stretch Char} (member : line ∈ packageLines response) :
    StandsIn line response := by
  rcases packageLines_pieceOf member with ⟨block, returns, piece, _⟩
  rcases sectionBlock_eq_some_iff.mp returns with ⟨_, _, newline, closer, _, rfl⟩
  exact piece.standsIn (segment_standsIn response (newline + 1) closer)

/-- Where the code starts: a newline right behind the marker is skipped. -/
def codeStart (response : Text) (python : Nat) : Nat :=
  if ['\n'].isPrefixOf (response.drop (python + marker.length)) then python + marker.length + 1
  else python + marker.length

theorem codeBlock_eq_some_iff {response : Text} {code : Stretch Char} :
    codeBlock response = some code ↔
      ∃ python closer, FirstFrom marker response 0 python ∧
        FirstFrom fence response (codeStart response python) closer ∧
        code = (codeStart response python, segment response (codeStart response python) closer) ∧
        Text.trimEnd code.2 ≠ [] := by
  have body (python : Nat) :
      (if ['\n'].isPrefixOf (response.drop (python + marker.length)) = true then
        (response.drop (python + marker.length)).drop 1
      else response.drop (python + marker.length)) = response.drop (codeStart response python) := by
    rw [codeStart]
    split
    · rw [List.drop_drop]
    · rfl
  have start {python : Nat} (found : FirstFrom marker response 0 python) :
      (if ['\n'].isPrefixOf (response.drop (python + marker.length)) = true then
        (segment response 0 python).length + marker.length + 1
      else (segment response 0 python).length + marker.length) = codeStart response python := by
    have length := found.add_length_segment (by decide)
    rw [Nat.zero_add] at length
    rw [length, codeStart]
  simp only [codeBlock, Option.bind_eq_bind, Option.bind_eq_some_iff, Prod.exists]
  constructor
  · rintro ⟨before, afterMarker, marked, block, rest, closes, returns⟩
    rcases (cut_iff (by decide)).mp marked with ⟨python, atPython, rfl, rfl⟩
    rw [body] at closes
    rcases (cut_drop_iff (by decide)).mp closes with ⟨closer, atCloser, rfl, rfl⟩
    rw [start atPython] at returns
    split at returns
    · cases returns
    · rename_i visible
      rcases Option.some.inj returns with rfl
      exact ⟨python, closer, atPython, atCloser, rfl, visible⟩
  · rintro ⟨python, closer, atPython, atCloser, rfl, visible⟩
    refine ⟨_, _, (cut_iff (by decide)).mpr ⟨python, atPython, rfl, rfl⟩,
      segment response (codeStart response python) closer, response.drop (closer + fence.length), ?_, ?_⟩
    · rw [body]
      exact (cut_drop_iff (by decide)).mpr ⟨closer, atCloser, rfl, rfl⟩
    · rw [if_neg visible, start atPython]

/-- The code stands in the reply where it says. -/
theorem codeBlock_standsIn {response : Text} {code : Stretch Char} (returns : codeBlock response = some code) :
    StandsIn code response := by
  rcases codeBlock_eq_some_iff.mp returns with ⟨python, closer, _, _, rfl, _⟩
  exact segment_standsIn response (codeStart response python) closer

/-! ## The clash -/

/-- The first fence behind the heading is the one of the code, or stands on its
line, and the section has a line that is read as a name.  The code is not
closed on this line. -/
structure Clash (response : Text) (heading opener newline closer python : Nat) : Prop where
  headed : FirstFrom header response 0 heading
  opened : FirstFrom fence response (heading + header.length) opener
  ended : FirstFrom ['\n'] response (opener + fence.length) newline
  marked : FirstFrom marker response 0 python
  onLine : opener ≤ python ∧ python < newline
  closed : FirstFrom fence response (python + marker.length) closer
  behind : newline < closer
  named : ∃ line ∈ (segment response (newline + 1) closer).splitOn '\n', isName (Text.trim line) = true

section

variable {response : Text} {heading opener newline closer python : Nat}

/-- A marker in front of a newline ends in front of it. -/
theorem marker_stop_le (marked : OccursAt marker response python) (breaks : OccursAt ['\n'] response newline)
    (before : python < newline) : python + marker.length ≤ newline := by
  rcases marked.apart breaks (by decide) with behind | passed
  · omega
  · exact passed

theorem codeStart_cases (response : Text) (python : Nat) :
    codeStart response python = python + marker.length ∨
      codeStart response python = python + marker.length + 1 ∧
        OccursAt ['\n'] response (python + marker.length) := by
  rw [codeStart]
  split
  · rename_i newline
    exact .inr ⟨rfl, List.isPrefixOf_iff_prefix.mp newline⟩
  · exact .inl rfl

/-- No fence starts between the fence of the marker and the code. -/
theorem codeStart_le_of_fence (marked : OccursAt marker response python) (fenced : OccursAt fence response opener)
    (later : python < opener) : codeStart response python ≤ opener := by
  have differs : ∀ offset < 8, ¬ (marker.drop (offset + 1) <+: fence ∨ fence <+: marker.drop (offset + 1)) := by
    decide
  have differs' : ¬ (['\n'] <+: fence ∨ fence <+: ['\n']) := by decide
  have length : marker.length = 9 := rfl
  rcases Nat.exists_eq_add_of_lt later with ⟨offset, rfl⟩
  have passed : 8 ≤ offset := by
    apply Nat.le_of_not_lt
    intro within
    exact differs offset within (marked.comparable fenced)
  rcases codeStart_cases response python with same | ⟨same, newline⟩
  · omega
  · have separate : offset ≠ 8 := by
      rintro rfl
      have here : OccursAt fence response (python + marker.length + 0) := fenced
      exact differs' (newline.comparable here)
    omega

/-- The code is closed by the first fence behind the marker. -/
theorem closed_iff (marked : OccursAt marker response python) :
    FirstFrom fence response (python + marker.length) closer ↔
      FirstFrom fence response (codeStart response python) closer := by
  have start : python + marker.length ≤ codeStart response python := by
    rcases codeStart_cases response python with same | ⟨same, _⟩ <;> omega
  have positive : 0 < marker.length := by decide
  constructor
  · intro closed
    have reached := closed.from_start
    exact closed.of_later start (codeStart_le_of_fence marked closed.occurs (by omega))
  · intro closed
    refine closed.of_earlier start fun between reached before fenced => ?_
    have behind := codeStart_le_of_fence marked fenced (by omega)
    omega

/-- A name inside the code stands behind a marker on the line of the fence that
opens the section, and both blocks end with the same fence. -/
theorem clash_of_inside {codeCloser : Nat} {line : Stretch Char}
    (found : SectionAt response heading opener newline closer) (marked : FirstFrom marker response 0 python)
    (closed : FirstFrom fence response (codeStart response python) codeCloser)
    (member : line ∈ packageLines response)
    (inside : Inside line (codeStart response python, segment response (codeStart response python) codeCloser)) :
    Clash response heading opener newline closer python := by
  rcases found.line_within member with ⟨positive, fromSection, toCloser⟩
  rcases (closed.inside_segment_iff (by decide)).mp inside with ⟨fromCode, toCodeCloser⟩
  have toNewline := found.ended.from_start
  have starts := codeStart_cases response python
  have long : marker.length = 9 := rfl
  -- The marker is a fence: behind the newline it would close the section in front of the code.
  have passed : python + marker.length ≤ newline := by
    rcases marked.occurs.apart found.ended.occurs (by decide) with behind | passed
    · have fenced : OccursAt fence response python := marked.occurs.of_prefix (by decide)
      have ends := found.closed.position_le fenced (by omega)
      omega
    · exact passed
  -- A fence behind the marker that opens the section would close the code in front of it.
  have fromOpener : opener ≤ python := by
    apply Nat.le_of_not_lt
    intro later
    have behind := codeStart_le_of_fence marked.occurs found.opened.occurs later
    have ends := closed.position_le found.opened.occurs behind
    omega
  have same : codeCloser = closer := (closed.of_later (by omega) (by omega)).unique found.closed
  subst same
  refine ⟨found.headed, found.opened, found.ended, marked, ⟨fromOpener, by omega⟩,
    (closed_iff marked.occurs).mpr closed, by omega, ?_⟩
  rcases found.mem_packageLines_iff.mp member with ⟨whole, inBlock, rfl, name⟩
  refine ⟨whole.2, ?_, name⟩
  rw [← map_snd_locateLines (newline + 1) (List.splitOn _ _)]
  exact List.mem_map_of_mem inBlock

/-- Code with a visible piece is not empty. -/
theorem trimEnd_ne_nil_of_pieceOf {block line : Stretch Char} (piece : PieceOf (trimLocated line) block)
    (name : isName (Text.trim line.2) = true) : Text.trimEnd block.2 ≠ [] := by
  intro blank
  rcases piece with ⟨before, after, split, _⟩
  have empty : Text.trim line.2 = [] := by
    apply Text.trim_eq_nil_of_blank
    intro char inName
    apply Text.blank_of_trimEnd_eq_nil blank
    rw [split]
    exact List.mem_append_right _ (List.mem_append_left _ inName)
  rw [empty] at name
  cases name

/-- A name that stands in the section is read from the code. -/
theorem not_readsNoCode_of_clash (clash : Clash response heading opener newline closer python) :
    ¬ ReadsNoCode response := by
  intro reads
  have passed := marker_stop_le clash.marked.occurs clash.ended.occurs clash.onLine.2
  have behind := clash.behind
  have starts := codeStart_cases response python
  have closed := (closed_iff clash.marked.occurs).mp clash.closed
  have found : SectionAt response heading opener newline closer :=
    ⟨clash.headed, clash.opened, clash.ended, clash.closed.of_later (by omega) (by omega)⟩
  rcases clash.named with ⟨name, inSection, isName⟩
  rcases exists_mem_locateLines inSection (newline + 1) with ⟨whole, inBlock, rfl⟩
  have member : trimLocated whole ∈ packageLines response :=
    found.mem_packageLines_iff.mpr ⟨whole, inBlock, rfl, isName⟩
  rcases found.line_within member with ⟨_, fromSection, toCloser⟩
  have inside : Inside (trimLocated whole)
      (codeStart response python, segment response (codeStart response python) closer) :=
    (closed.inside_segment_iff (by decide)).mpr ⟨by omega, toCloser⟩
  have piece := PieceOf.of_inside (packageLines_standsIn member) (segment_standsIn _ _ _) inside
  have visible := trimEnd_ne_nil_of_pieceOf piece isName
  exact reads _ (codeBlock_eq_some_iff.mpr ⟨python, closer, clash.marked, closed, rfl, visible⟩) _ member inside

theorem readsNoCode_iff (response : Text) :
    ReadsNoCode response ↔
      ¬ ∃ heading opener newline closer python, Clash response heading opener newline closer python := by
  constructor
  · rintro reads ⟨_, _, _, _, _, clash⟩
    exact not_readsNoCode_of_clash clash reads
  · intro apart code returns line member inside
    rcases packageLines_pieceOf member with ⟨block, read, _, _⟩
    rcases sectionBlock_eq_some_iff.mp read with ⟨heading, opener, newline, closer, found, rfl⟩
    rcases codeBlock_eq_some_iff.mp returns with ⟨python, codeCloser, marked, closed, rfl, _⟩
    exact apart ⟨heading, opener, newline, closer, python, clash_of_inside found marked closed member inside⟩

/-- A section that opens with a fence of its own is not taken for the code. -/
theorem readsNoCode_of_ownFence (headed : FirstFrom header response 0 heading)
    (opened : FirstFrom fence response (heading + header.length) opener)
    (ended : FirstFrom ['\n'] response (opener + fence.length) newline)
    (own : ∀ position, opener ≤ position → position < newline → ¬ OccursAt marker response position) :
    ReadsNoCode response := by
  apply (readsNoCode_iff response).mpr
  rintro ⟨heading', opener', newline', closer, python, clash⟩
  rcases headed.unique clash.headed with rfl
  rcases opened.unique clash.opened with rfl
  rcases ended.unique clash.ended with rfl
  exact own python clash.onLine.1 clash.onLine.2 clash.marked.occurs

end

/-- A section that says in words that it is empty has the code installed. -/
theorem readsNoCode_emptySection :
    ¬ ReadsNoCode "### Packages\n(none)\n\n```python\nimport os\n```".toList := by
  intro reads
  have code : codeBlock "### Packages\n(none)\n\n```python\nimport os\n```".toList =
      some (31, "import os\n".toList) := by decide +kernel
  have line : (31, "import os".toList) ∈
      packageLines "### Packages\n(none)\n\n```python\nimport os\n```".toList := by decide +kernel
  exact reads _ code _ line (by decide)

end CodeLoop
end Agent
end Rabb1tClaw
