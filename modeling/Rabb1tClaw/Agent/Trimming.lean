import Rabb1tClaw.Agent.Conversation
import Rabb1tClaw.Agent.Session
import Rabb1tClaw.Foundations.Iteration

namespace Rabb1tClaw
namespace Agent
namespace Trimming

open Foundations

/-!
# Trimming the conversation to the context budget

Before a request the main agent drops the oldest pairs of messages until the
conversation fits its budget.  The loop counts down the tokens in excess of the
budget, and never drops so many pairs that nothing is left.

The number of pairs that it may drop is computed from the length alone.  Behind
an unpaired turn two messages are left, not one, and then the conversation can
stay over its budget.
-/

/-! ## The source -/

/-- `u32::try_from(count).unwrap_or(u32::MAX)`. -/
def saturate (count : Nat) : Nat :=
  if count < UInt32.size then count else UInt32.size - 1

/-- `a + b` in `u32`, or `none` where it overflows. -/
def addU32 (a b : Nat) : Option Nat :=
  if a + b < UInt32.size then some (a + b) else none

/-- `a - b` of unsigned numbers, or `none` below zero. -/
def subtract (a b : Nat) : Option Nat :=
  if b ≤ a then some (a - b) else none

/-- `counts.iter().sum()`. -/
def sumU32 : Nat → List Nat → Option Nat
  | total, [] => some total
  | total, count :: counts => (addU32 total count).bind fun more => sumU32 more counts

/-- `msg_tokens`. -/
def msgTokens (countTokens : Text → Nat) (message : ChatMessage) : Nat :=
  saturate (countTokens message.content)

/-- The variables of the loop over the pairs. -/
structure PairLoop where
  excess : Nat
  pairs : Nat
  deriving DecidableEq, Repr

def pairBody (counts : List Nat) (maxPairs : Nat) (state : PairLoop) : Option (Flow PairLoop Nat) :=
  if state.pairs < maxPairs ∧ state.excess > 0 then do
    let first ← counts[state.pairs * 2]?
    let second ← counts[state.pairs * 2 + 1]?
    let pairCost ← addU32 first second
    return .next ⟨state.excess - pairCost, state.pairs + 1⟩
  else
    return .done state.pairs

/-- `messages.drain(..count)`. -/
def drainFront {α : Type} (items : List α) (count : Nat) : Option (List α) :=
  if count ≤ items.length then some (items.drop count) else none

/-- `trim_pairs_to_budget`. -/
def trimPairsToBudget (countTokens : Text → Nat) (messages : List ChatMessage) (budget : UInt32) :
    Outcome (List ChatMessage) :=
  let counts := messages.map (msgTokens countTokens)
  (Outcome.ofOption (sumU32 0 counts)).bind fun total =>
    if total ≤ budget.toNat then
      .returned messages
    else
      (Outcome.ofOption (subtract total budget.toNat)).bind fun excess =>
        (Outcome.ofOption (subtract messages.length 1)).bind fun room =>
          (iterate (pairBody counts (room / 2)) (room / 2 + 1) ⟨excess, 0⟩).bind fun pairs =>
            if pairs > 0 then Outcome.ofOption (drainFront messages (pairs * 2)) else .returned messages

/-- The messages of a request of the main agent, before they are trimmed: the
history, and the new message with the tasks in front of it. -/
def mainMessages (stampMessage : Nat → Text → Text) (history : List ConversationTurn) (acceptedAt : Nat)
    (taskContext : Option Text) (message : Text) : List ChatMessage :=
  let stamped := stampMessage acceptedAt message
  let llmMessage := match taskContext with
    | some context => "@@task\n".toList ++ context ++ "\n@@end\n\n".toList ++ stamped
    | none => stamped
  history.map (fun turn => ⟨turn.role, stampMessage turn.timestampMs turn.content⟩) ++ [.fromUser llmMessage]

/-! ## Tokens -/

/-- The tokens of a conversation. -/
def tokens (countTokens : Text → Nat) : List ChatMessage → Nat
  | [] => 0
  | message :: messages => countTokens message.content + tokens countTokens messages

section

variable {countTokens : Text → Nat} {messages : List ChatMessage}

theorem tokens_append (countTokens : Text → Nat) (front back : List ChatMessage) :
    tokens countTokens (front ++ back) = tokens countTokens front + tokens countTokens back := by
  induction front with
  | nil => exact (Nat.zero_add _).symm
  | cons message front inductionHypothesis =>
      rw [List.cons_append, tokens, tokens, inductionHypothesis, Nat.add_assoc]

theorem tokens_drop_le (countTokens : Text → Nat) (messages : List ChatMessage) (count : Nat) :
    tokens countTokens (messages.drop count) ≤ tokens countTokens messages := by
  have whole := tokens_append countTokens (messages.take count) (messages.drop count)
  rw [List.take_append_drop] at whole
  omega

theorem tokens_drop_antitone {fewer more : Nat} (within : fewer ≤ more) :
    tokens countTokens (messages.drop more) ≤ tokens countTokens (messages.drop fewer) := by
  rcases Nat.exists_eq_add_of_le within with ⟨further, rfl⟩
  rw [← List.drop_drop]
  exact tokens_drop_le _ _ _

/-- Every message has no more tokens than the conversation. -/
theorem countTokens_le_tokens {message : ChatMessage} (member : message ∈ messages) :
    countTokens message.content ≤ tokens countTokens messages := by
  rcases List.append_of_mem member with ⟨front, back, rfl⟩
  rw [tokens_append, tokens]
  omega

/-- In a conversation of at most `u32::MAX` tokens no count is cut off. -/
theorem counts_eq (fits : tokens countTokens messages < UInt32.size) :
    messages.map (msgTokens countTokens) = messages.map fun message => countTokens message.content := by
  apply List.map_congr_left
  intro message member
  exact if_pos (Nat.lt_of_le_of_lt (countTokens_le_tokens member) fits)

theorem sumU32_eq {total : Nat} (fits : total + tokens countTokens messages < UInt32.size) :
    sumU32 total (messages.map fun message => countTokens message.content) =
      some (total + tokens countTokens messages) := by
  induction messages generalizing total with
  | nil => rfl
  | cons message messages inductionHypothesis =>
      rw [tokens] at fits
      have first : addU32 total (countTokens message.content) = some (total + countTokens message.content) :=
        if_pos (by omega)
      rw [List.map_cons, sumU32, first, Option.bind_some, inductionHypothesis (by omega), tokens, Nat.add_assoc]

/-- A pair in front of what is left. -/
theorem drop_pair {pairs : Nat} (within : pairs * 2 + 1 < messages.length) :
    messages.drop (2 * pairs) =
      messages[pairs * 2] :: messages[pairs * 2 + 1] :: messages.drop (2 * (pairs + 1)) := by
  have next : 2 * (pairs + 1) = pairs * 2 + 1 + 1 := by omega
  rw [next, Nat.mul_comm, List.drop_eq_getElem_cons (by omega), List.drop_eq_getElem_cons within]

/-! ## The number of pairs -/

/-- The pairs to drop: as few as bring the conversation within the budget, or
all but the last message or two. -/
structure LeastPairs (countTokens : Text → Nat) (messages : List ChatMessage) (budget pairs : Nat) : Prop where
  limit : pairs ≤ (messages.length - 1) / 2
  least : ∀ fewer < pairs, budget < tokens countTokens (messages.drop (2 * fewer))
  reaches : tokens countTokens (messages.drop (2 * pairs)) ≤ budget ∨ pairs = (messages.length - 1) / 2

/-- One pass drops a pair: the excess is always what is left above the budget. -/
theorem pairBody_drops {budget pairs : Nat} (fits : tokens countTokens messages < UInt32.size)
    (within : pairs < (messages.length - 1) / 2)
    (above : budget < tokens countTokens (messages.drop (2 * pairs))) :
    pairBody (messages.map fun message => countTokens message.content) ((messages.length - 1) / 2)
        ⟨tokens countTokens (messages.drop (2 * pairs)) - budget, pairs⟩ =
      some (.next ⟨tokens countTokens (messages.drop (2 * (pairs + 1))) - budget, pairs + 1⟩) := by
  have inside : pairs * 2 + 1 < messages.length := by omega
  have left := tokens_drop_le countTokens messages (2 * pairs)
  rw [drop_pair inside, tokens, tokens] at above left ⊢
  have first : (messages.map fun message => countTokens message.content)[pairs * 2]? =
      some (countTokens messages[pairs * 2].content) := by
    rw [List.getElem?_map, List.getElem?_eq_getElem (Nat.lt_of_succ_lt inside)]
    rfl
  have second : (messages.map fun message => countTokens message.content)[pairs * 2 + 1]? =
      some (countTokens messages[pairs * 2 + 1].content) := by
    rw [List.getElem?_map, List.getElem?_eq_getElem inside]
    rfl
  have cost : addU32 (countTokens messages[pairs * 2].content) (countTokens messages[pairs * 2 + 1].content) =
      some (countTokens messages[pairs * 2].content + countTokens messages[pairs * 2 + 1].content) :=
    if_pos (by omega)
  rw [pairBody, if_pos ⟨within, Nat.sub_pos_of_lt above⟩, first, second]
  simp only [Option.bind_eq_bind, Option.bind_some, cost, Option.pure_def, Option.some.injEq, Flow.next.injEq,
    PairLoop.mk.injEq, and_true]
  omega

/-- The loop finds the least number of pairs.  The induction is on the pairs
that may still be dropped. -/
theorem pairs_settles (budget pairs : Nat) (fits : tokens countTokens messages < UInt32.size)
    (limit : pairs ≤ (messages.length - 1) / 2)
    (least : ∀ fewer < pairs, budget < tokens countTokens (messages.drop (2 * fewer))) :
    ∃ passes final, passes ≤ (messages.length - 1) / 2 - pairs + 1 ∧
      Settles (pairBody (messages.map fun message => countTokens message.content) ((messages.length - 1) / 2))
        passes ⟨tokens countTokens (messages.drop (2 * pairs)) - budget, pairs⟩ (.returned final) ∧
      LeastPairs countTokens messages budget final := by
  induction remaining : (messages.length - 1) / 2 - pairs generalizing pairs with
  | zero =>
      have last : pairs = (messages.length - 1) / 2 := by omega
      refine ⟨1, pairs, Nat.le_refl _, .done ?_, limit, least, .inr last⟩
      rw [pairBody, if_neg (fun goes => Nat.ne_of_lt goes.1 last)]
      rfl
  | succ remaining inductionHypothesis =>
      by_cases above : budget < tokens countTokens (messages.drop (2 * pairs))
      · have within : pairs < (messages.length - 1) / 2 := by omega
        have least' : ∀ fewer < pairs + 1, budget < tokens countTokens (messages.drop (2 * fewer)) := by
          intro fewer below
          rcases Nat.lt_succ_iff_lt_or_eq.mp below with earlier | rfl
          · exact least fewer earlier
          · exact above
        rcases inductionHypothesis (pairs + 1) within least' (by omega) with ⟨passes, final, few, settles, found⟩
        exact ⟨passes + 1, final, by omega, .next (pairBody_drops fits within above) settles, found⟩
      · have reached : tokens countTokens (messages.drop (2 * pairs)) ≤ budget := Nat.le_of_not_lt above
        refine ⟨1, pairs, by omega, .done ?_, limit, least, .inl reached⟩
        rw [pairBody, if_neg (fun goes => Nat.ne_of_gt goes.2 (Nat.sub_eq_zero_of_le reached))]
        rfl

/-- Specification of `trimPairsToBudget`: it drops the least number of pairs. -/
theorem trimPairsToBudget_eq (budget : UInt32) (nonempty : messages ≠ [])
    (fits : tokens countTokens messages < UInt32.size) :
    ∃ pairs, LeastPairs countTokens messages budget.toNat pairs ∧
      trimPairsToBudget countTokens messages budget = .returned (messages.drop (2 * pairs)) := by
  have positive := List.length_pos_iff.mpr nonempty
  have sum : sumU32 0 (messages.map fun message => countTokens message.content) =
      some (tokens countTokens messages) := by
    rw [sumU32_eq (by omega), Nat.zero_add]
  by_cases within : tokens countTokens messages ≤ budget.toNat
  · refine ⟨0, ⟨Nat.zero_le _, nofun, .inl within⟩, ?_⟩
    simp only [trimPairsToBudget, counts_eq fits, sum, Outcome.ofOption_some, Outcome.bind_returned, if_pos within]
    rfl
  · rcases pairs_settles budget.toNat 0 fits (Nat.zero_le _)
      nofun with ⟨passes, pairs, few, settles, found⟩
    have loop := iterate_of_settles settles few
    have excess : subtract (tokens countTokens messages) budget.toNat =
        some (tokens countTokens messages - budget.toNat) := if_pos (Nat.le_of_not_le within)
    have room : subtract messages.length 1 = some (messages.length - 1) := if_pos positive
    have limit := found.limit
    have drained : drainFront messages (pairs * 2) = some (messages.drop (2 * pairs)) := by
      rw [drainFront, if_pos (by omega), Nat.mul_comm]
    refine ⟨pairs, found, ?_⟩
    rw [Nat.mul_zero, List.drop_zero, Nat.sub_zero] at loop
    simp only [trimPairsToBudget, counts_eq fits, sum, Outcome.ofOption_some, Outcome.bind_returned, if_neg within,
      excess, room, loop, drained]
    split
    · rfl
    · rename_i none
      rw [Nat.eq_zero_of_not_pos none]
      rfl

/-! ## What is left -/

/-- The last message is kept. -/
theorem LeastPairs.keeps_last {budget pairs : Nat} (found : LeastPairs countTokens messages budget pairs)
    (nonempty : messages ≠ []) : (messages.drop (2 * pairs)).getLast? = messages.getLast? := by
  have positive := List.length_pos_iff.mpr nonempty
  have limit := found.limit
  rw [List.getLast?_drop, if_neg (by omega)]

/-- Dropping pairs keeps the turns. -/
theorem wellFormed_drop (formed : ChatMessage.WellFormed messages) {pairs : Nat}
    (limit : pairs ≤ (messages.length - 1) / 2) : ChatMessage.WellFormed (messages.drop (2 * pairs)) := by
  rcases ChatMessage.wellFormed_iff.mp formed with ⟨turns, odd⟩
  have short : 2 * pairs ≤ messages.length := by omega
  rw [ChatMessage.wellFormed_iff, List.length_drop]
  refine ⟨?_, by omega⟩
  rw [ChatMessage.TakeTurns, ← List.take_append_drop (2 * pairs) messages, alternates_append,
    List.length_take, Nat.min_eq_left short, turn_of_even _ _ (Nat.mul_mod_right 2 pairs),
    turn_of_even _ _ (Nat.mul_mod_right 2 pairs)] at turns
  exact turns.2

/-- Within the limit some number of pairs reaches the budget exactly when the
number found does. -/
theorem LeastPairs.reaches_iff {budget pairs : Nat} (found : LeastPairs countTokens messages budget pairs) :
    tokens countTokens (messages.drop (2 * pairs)) ≤ budget ↔
      tokens countTokens (messages.drop (2 * ((messages.length - 1) / 2))) ≤ budget := by
  constructor
  · intro reached
    exact Nat.le_trans (tokens_drop_antitone (Nat.mul_le_mul_left 2 found.limit)) reached
  · intro last
    rcases found.reaches with reached | all
    · exact reached
    · rw [all]
      exact last

theorem drop_length_sub_one {α : Type} {items : List α} {last : α} (ends : items.getLast? = some last) :
    items.drop (items.length - 1) = [last] := by
  rcases List.getLast?_eq_some_iff.mp ends with ⟨front, rfl⟩
  rw [List.length_append, List.length_singleton, Nat.add_sub_cancel, List.drop_left]

/-- If all but one or two messages are dropped, what is left is within the
budget exactly when it is the last message, or the last two are. -/
theorem last_within_iff {budget : Nat} (nonempty : messages ≠ [])
    (fits : ∀ last ∈ messages.getLast?, countTokens last.content ≤ budget) :
    tokens countTokens (messages.drop (2 * ((messages.length - 1) / 2))) ≤ budget ↔
      messages.length % 2 = 1 ∨ tokens countTokens (messages.drop (messages.length - 2)) ≤ budget := by
  have positive := List.length_pos_iff.mpr nonempty
  rcases Nat.mod_two_eq_zero_or_one messages.length with even | odd
  · have left : 2 * ((messages.length - 1) / 2) = messages.length - 2 := by omega
    rw [left]
    exact (or_iff_right (by omega)).symm
  · have left : 2 * ((messages.length - 1) / 2) = messages.length - 1 := by omega
    cases ends : messages.getLast? with
    | none => exact absurd (List.getLast?_eq_none_iff.mp ends) nonempty
    | some last =>
        have small := fits last ends
        rw [left, drop_length_sub_one ends, tokens, tokens, Nat.add_zero]
        exact iff_of_true small (.inl odd)

/-- Trimming brings the conversation within its budget exactly when its length
is odd or its last two messages are within the budget. -/
theorem trimPairsToBudget_reaches_iff (countTokens : Text → Nat) (messages : List ChatMessage) (budget : UInt32)
    (nonempty : messages ≠ [])
    (fits : tokens countTokens messages < UInt32.size)
    (lastFits : ∀ last ∈ messages.getLast?, countTokens last.content ≤ budget.toNat) :
    ∃ trimmed, trimPairsToBudget countTokens messages budget = .returned trimmed ∧
      (tokens countTokens trimmed ≤ budget.toNat ↔
        messages.length % 2 = 1 ∨ tokens countTokens (messages.drop (messages.length - 2)) ≤ budget.toNat) := by
  rcases trimPairsToBudget_eq budget nonempty fits with ⟨pairs, found, returns⟩
  exact ⟨_, returns, found.reaches_iff.trans (last_within_iff nonempty lastFits)⟩

/-- An unpaired turn in front of the message of the user. -/
def unpairedTurn : List ChatMessage := [.fromUser "aaaa".toList, .fromUser "b".toList]

/-- The unpaired turn is kept, although the last message alone is within the
budget. -/
theorem trimPairsToBudget_unpairedTurn :
    unpairedTurn ≠ [] ∧ tokens List.length unpairedTurn < UInt32.size ∧
      (∀ last ∈ unpairedTurn.getLast?, last.content.length ≤ (2 : UInt32).toNat) ∧
      trimPairsToBudget List.length unpairedTurn 2 = .returned unpairedTurn ∧
      ¬ tokens List.length unpairedTurn ≤ (2 : UInt32).toNat := by
  decide

theorem trimPairsToBudget_reaches_threeTurns :
    ∃ trimmed, trimPairsToBudget List.length (.fromUser "u".toList :: unpairedTurn) 2 = .returned trimmed ∧
      tokens List.length trimmed ≤ (2 : UInt32).toNat := by
  rcases trimPairsToBudget_reaches_iff List.length (.fromUser "u".toList :: unpairedTurn) 2 (by decide)
    (by decide) (by decide) with ⟨trimmed, returns, reaches⟩
  exact ⟨trimmed, returns, reaches.mpr (by decide)⟩

/-- Trimming drops the least number of pairs, keeps the last message, never
panics and keeps the turns. -/
theorem trimPairsToBudget_drops_least (countTokens : Text → Nat) (messages : List ChatMessage) (budget : UInt32)
    (nonempty : messages ≠ [])
    (fits : tokens countTokens messages < UInt32.size) :
    ∃ pairs, LeastPairs countTokens messages budget.toNat pairs ∧
      trimPairsToBudget countTokens messages budget = .returned (messages.drop (2 * pairs)) ∧
      (messages.drop (2 * pairs)).getLast? = messages.getLast? ∧
      (ChatMessage.WellFormed messages → ChatMessage.WellFormed (messages.drop (2 * pairs))) := by
  rcases trimPairsToBudget_eq budget nonempty fits with ⟨pairs, found, returns⟩
  exact ⟨pairs, found, returns, found.keeps_last nonempty, fun formed => wellFormed_drop formed found.limit⟩

/-- One pair of three turns is dropped. -/
theorem trimPairsToBudget_drops_onePair :
    ∃ pairs, LeastPairs List.length (.fromUser "u".toList :: unpairedTurn) 2 pairs ∧
      trimPairsToBudget List.length (.fromUser "u".toList :: unpairedTurn) 2 =
        .returned ((.fromUser "u".toList :: unpairedTurn).drop (2 * pairs)) := by
  rcases trimPairsToBudget_drops_least List.length (.fromUser "u".toList :: unpairedTurn) 2 (by decide)
    (by decide) with ⟨pairs, found, returns, _⟩
  exact ⟨pairs, found, returns⟩

/-! ## The main agent -/

/-- The conversation of the main agent has a last message, so it is never
trimmed to nothing. -/
theorem mainMessages_ne_nil (stampMessage : Nat → Text → Text) (history : List ConversationTurn)
    (acceptedAt : Nat) (taskContext : Option Text) (message : Text) :
    mainMessages stampMessage history acceptedAt taskContext message ≠ [] := by
  unfold mainMessages
  exact List.append_ne_nil_of_right_ne_nil _ (List.cons_ne_nil _ _)

/-- Behind a history of whole exchanges the conversation is well formed. -/
theorem mainMessages_wellFormed (stampMessage : Nat → Text → Text) {history : List ConversationTurn}
    (turns : Alternates ConversationTurn.role "user".toList "assistant".toList history)
    (paired : history.length % 2 = 0) (acceptedAt : Nat) (taskContext : Option Text) (message : Text) :
    ChatMessage.WellFormed (mainMessages stampMessage history acceptedAt taskContext message) := by
  have stamped : ∀ {first second : Text}, Alternates ConversationTurn.role first second history →
      Alternates ChatMessage.role first second (history.map fun turn =>
        (⟨turn.role, stampMessage turn.timestampMs turn.content⟩ : ChatMessage)) := by
    clear turns paired
    induction history with
    | nil => exact fun _ => trivial
    | cons turn history inductionHypothesis => exact fun turns => ⟨turns.1, inductionHypothesis turns.2⟩
  unfold mainMessages
  rw [ChatMessage.wellFormed_iff, ChatMessage.TakeTurns, alternates_append, List.length_append,
    List.length_map, turn_of_even _ _ paired, turn_of_even _ _ paired, List.length_singleton]
  exact ⟨⟨stamped turns, alternates_singleton.mpr rfl⟩, by omega⟩

end

end Trimming
end Agent
end Rabb1tClaw
