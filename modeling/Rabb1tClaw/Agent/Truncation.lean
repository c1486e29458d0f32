import Rabb1tClaw.Foundations.Iteration
import Rabb1tClaw.Foundations.Utf8Decoding

namespace Rabb1tClaw
namespace Agent
namespace Truncation

open Foundations

/-!
# Truncation to a number of tokens

A text is cut behind a number of its tokens.  A token may end inside a
character, and then the tokens before the cut do not decode.  The loop takes
one token less each time until they do, or none is left.

The tokenizer is any that a text can be put together from again, and whose
decoder accepts exactly the encodings of texts.
-/

/-- `CoreBPE`: the tokens of a text, the bytes of a token, and the decoder. -/
structure CoreBpe where
  Token : Type
  encodeWithSpecialTokens : Text → List Token
  tokenBytes : Token → List UInt8
  decode : List Token → Option Text
  /-- Decoding succeeds exactly on valid UTF-8. -/
  decode_eq_some : ∀ tokens text, decode tokens = some text ↔ text.bytes = tokens.flatMap tokenBytes

def ellipsis : Text := "...".toList

/-- `tokens[..take].to_vec()`, or `none` where the slice panics. -/
def firstTokens {Token : Type} (tokens : List Token) (take : Nat) : Option (List Token) :=
  if take ≤ tokens.length then some (tokens.take take) else none

/-- One pass of the loop; the subtraction panics below zero. -/
def truncateBody (bpe : CoreBpe) (tokens : List bpe.Token) (take : Nat) : Option (Flow Nat Text) :=
  if take = 0 then
    some (.done ellipsis)
  else do
    let kept ← firstTokens tokens take
    match bpe.decode kept with
    | some text => some (.done (text ++ ellipsis))
    | none => if 1 ≤ take then some (.next (take - 1)) else none

/-- `truncate`. -/
def truncate (bpe : CoreBpe) (text : Text) (maxTokens : Nat) : Outcome Text :=
  let tokens := bpe.encodeWithSpecialTokens text
  if tokens.length ≤ maxTokens then .returned text
  else iterate (truncateBody bpe tokens) (maxTokens + 1) maxTokens

/-! ## The longest prefix that decodes -/

/-- The bytes of so many tokens are the encoding of the text. -/
def Spells (bpe : CoreBpe) (tokens : List bpe.Token) (take : Nat) (text : Text) : Prop :=
  text.bytes = (tokens.take take).flatMap bpe.tokenBytes

/-- The text is spelled by the longest prefix of at most so many tokens that
spells any. -/
def LongestSpelled (bpe : CoreBpe) (tokens : List bpe.Token) (maxTokens : Nat) (text : Text) : Prop :=
  ∃ take ≤ maxTokens, Spells bpe tokens take text ∧
    ∀ more, take < more → more ≤ maxTokens → ∀ other, ¬ Spells bpe tokens more other

section

variable {bpe : CoreBpe} {tokens : List bpe.Token} {take maxTokens : Nat} {text : Text}

theorem spells_zero (tokens : List bpe.Token) : Spells bpe tokens 0 [] := rfl

/-- What a stretch of the tokens of a text spells is a prefix of the text. -/
theorem Spells.starts (spells : Spells bpe tokens take text) {whole : Text}
    (covers : tokens.flatMap bpe.tokenBytes = whole.bytes) : text <+: whole := by
  apply Text.prefix_of_bytes_prefix
  rw [spells, ← covers]
  refine ⟨(tokens.drop take).flatMap bpe.tokenBytes, ?_⟩
  rw [← List.flatMap_append, List.take_append_drop]

/-- A prefix that does not decode is not the longest one. -/
theorem LongestSpelled.widen (longest : LongestSpelled bpe tokens take text)
    (garbled : ∀ other, ¬ Spells bpe tokens (take + 1) other) : LongestSpelled bpe tokens (take + 1) text := by
  rcases longest with ⟨kept, within, spells, maximal⟩
  refine ⟨kept, Nat.le_succ_of_le within, spells, fun more above bounded other => ?_⟩
  rcases Nat.lt_or_eq_of_le bounded with below | rfl
  · exact maximal more above (Nat.le_of_lt_succ below) other
  · exact garbled other

theorem truncateBody_zero (bpe : CoreBpe) (tokens : List bpe.Token) :
    truncateBody bpe tokens 0 = some (.done ellipsis) := rfl

theorem truncateBody_succ (fits : take + 1 ≤ tokens.length) :
    truncateBody bpe tokens (take + 1) =
      match bpe.decode (tokens.take (take + 1)) with
      | some text => some (.done (text ++ ellipsis))
      | none => some (.next take) := by
  rw [truncateBody, if_neg (Nat.succ_ne_zero take), firstTokens, if_pos fits]
  rfl

/-- The loop returns what the longest prefix spells. -/
theorem loop_settles (fits : take ≤ tokens.length) :
    ∃ passes ≤ take + 1, ∃ text, LongestSpelled bpe tokens take text ∧
      Settles (truncateBody bpe tokens) passes take (.returned (text ++ ellipsis)) := by
  induction take with
  | zero =>
      refine ⟨1, Nat.le_refl 1, [], ⟨0, Nat.le_refl 0, spells_zero tokens, fun more above within => ?_⟩,
        .done (truncateBody_zero bpe tokens)⟩
      exact absurd (Nat.lt_of_lt_of_le above within) (Nat.lt_irrefl 0)
  | succ take inductionHypothesis =>
      have pass := truncateBody_succ fits
      cases decoded : bpe.decode (tokens.take (take + 1)) with
      | some text =>
          rw [decoded] at pass
          refine ⟨1, Nat.le_add_left 1 _, text, ⟨take + 1, Nat.le_refl _, ?_, fun more above within => ?_⟩,
            .done pass⟩
          · exact (bpe.decode_eq_some _ _).mp decoded
          · exact absurd (Nat.lt_of_lt_of_le above within) (Nat.lt_irrefl _)
      | none =>
          rw [decoded] at pass
          rcases inductionHypothesis (Nat.le_of_succ_le fits) with ⟨passes, bounded, text, longest, settles⟩
          refine ⟨passes + 1, Nat.succ_le_succ bounded, text, longest.widen fun other spells => ?_,
            .next pass settles⟩
          have decodes := (bpe.decode_eq_some _ _).mpr spells
          rw [decoded] at decodes
          cases decodes

/-- A text within the bound is kept, and of another the longest prefix that
decodes is kept, which ends on a character boundary. -/
theorem truncate_keeps_longest (bpe : CoreBpe) (text : Text) (maxTokens : Nat)
    (covers : (bpe.encodeWithSpecialTokens text).flatMap bpe.tokenBytes = text.bytes) :
    ((bpe.encodeWithSpecialTokens text).length ≤ maxTokens → truncate bpe text maxTokens = .returned text) ∧
      (maxTokens < (bpe.encodeWithSpecialTokens text).length →
        ∃ kept, truncate bpe text maxTokens = .returned (kept ++ ellipsis) ∧
          LongestSpelled bpe (bpe.encodeWithSpecialTokens text) maxTokens kept ∧ kept <+: text) := by
  refine ⟨fun short => if_pos short, fun long => ?_⟩
  rcases loop_settles (Nat.le_of_lt long) with ⟨passes, bounded, kept, longest, settles⟩
  refine ⟨kept, ?_, longest, ?_⟩
  · rw [truncate, if_neg (Nat.not_le.mpr long)]
    exact iterate_of_settles settles bounded
  · rcases longest with ⟨_, _, spells, _⟩
    exact spells.starts covers

end

/-- A token for each byte. -/
def bytewise : CoreBpe where
  Token := UInt8
  encodeWithSpecialTokens := Text.bytes
  tokenBytes byte := [byte]
  decode := Text.fromUtf8
  decode_eq_some tokens text := by
    have same : tokens.flatMap (fun byte => [byte]) = tokens := List.flatMap_singleton' tokens
    rw [same, Text.fromUtf8_eq_some_iff]

/-- A cut inside a character goes back to its start. -/
example : truncate bytewise "aé".toList 2 = .returned "a...".toList := by decide +kernel

theorem truncate_keeps_longest_backsOff :
    2 < (bytewise.encodeWithSpecialTokens "aé".toList).length ∧
      ∃ kept, truncate bytewise "aé".toList 2 = .returned (kept ++ ellipsis) ∧
        LongestSpelled bytewise (bytewise.encodeWithSpecialTokens "aé".toList) 2 kept ∧ kept <+: "aé".toList := by
  have long : 2 < (bytewise.encodeWithSpecialTokens "aé".toList).length := by decide
  exact ⟨long, (truncate_keeps_longest bytewise "aé".toList 2 (by decide)).2 long⟩

end Truncation
end Agent
end Rabb1tClaw
