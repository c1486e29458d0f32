import Rabb1tClaw.Agent.Restoration
import Rabb1tClaw.Agent.Trimming
import Rabb1tClaw.Provider.Bodies

namespace Rabb1tClaw
namespace Agent

open Foundations
open Provider (Dialogue IsSystem chatStream dialogue_chatStream)
open Trimming (LeastPairs mainMessages mainMessages_ne_nil mainMessages_wellFormed tokens trimPairsToBudget
  trimPairsToBudget_eq wellFormed_drop)

/-!
# The request of the main agent

A request is made of the history of the device and the new message, trimmed to
the context of the model, and goes to a provider of either kind.

Between recording a turn and telling it to a model lie any number of pairings,
restarts and turns of other devices, the trimming, and the body of the
provider.  `main_told` says what comes through all of this.
-/

/-- The request that a message of a device leads to; `prompt` is the system
prompt with the limits, the time and the memory of the device in it. -/
def mainRequest (countTokens : Text → Nat) (stampMessage : Nat → Text → Text) (resolved : ResolvedAgentModel)
    (prompt : Text) (store : SessionStore) (deviceToken : Option Text) (acceptedAt : Nat)
    (taskContext : Option Text) (message : Text) : Outcome ChatRequest :=
  let history := (deviceToken.map store.getHistory).getD []
  let taskContext := if deviceToken.isSome then taskContext else none
  let messages := mainMessages stampMessage history acceptedAt taskContext message
  (trimPairsToBudget countTokens messages (UInt32.ofNat resolved.contextTokens)).bind fun trimmed =>
    .returned (resolved.chatRequest trimmed (some prompt))

/-- The roles that a run records. -/
def ArchiveStep.FromRun : ArchiveStep → Prop
  | record _ call _ _ => call.role = "user".toList ∨ call.role = "assistant".toList
  | _ => True

instance : (step : ArchiveStep) → Decidable step.FromRun
  | .record _ call _ _ =>
      inferInstanceAs (Decidable (call.role = "user".toList ∨ call.role = "assistant".toList))
  | .onboard .. | .revoke _ | .restart .. => isTrue trivial

section

variable {codec : SessionCodec} {schedule : List ArchiveStep} {token : Text}

/-- A turn that was recorded has a role that a run records. -/
theorem role_recordedWith (fromRuns : ∀ step ∈ schedule, step.FromRun) {turn : ConversationTurn}
    (recorded : turn ∈ recordedWith token schedule) :
    turn.role = "user".toList ∨ turn.role = "assistant".toList := by
  rcases List.mem_filterMap.mp recorded with ⟨step, member, isTurn⟩
  have fromRun := fromRuns step member
  cases step with
  | record owner call now nonce =>
      rcases Option.ite_none_right_eq_some.mp isTurn with ⟨_, same⟩
      cases same
      exact fromRun
  | onboard | revoke | restart => cases isTurn

theorem not_isSystem_of_role {message : ChatMessage}
    (role : message.role = "user".toList ∨ message.role = "assistant".toList) : ¬ IsSystem message := by
  intro isSystem
  rw [IsSystem] at isSystem
  rcases role with user | assistant
  · exact absurd (user.symm.trans isSystem) (by decide)
  · exact absurd (assistant.symm.trans isSystem) (by decide)

/-- No message of the main agent has the role of the system. -/
theorem mainMessages_plain (stampMessage : Nat → Text → Text) {history : List ConversationTurn}
    (roles : ∀ turn ∈ history, turn.role = "user".toList ∨ turn.role = "assistant".toList) (acceptedAt : Nat)
    (taskContext : Option Text) (text : Text) :
    ∀ message ∈ mainMessages stampMessage history acceptedAt taskContext text, ¬ IsSystem message := by
  intro message member
  unfold mainMessages at member
  rcases List.mem_append.mp member with earlier | last
  · rcases List.mem_map.mp earlier with ⟨turn, known, rfl⟩
    exact not_isSystem_of_role (roles turn known)
  · rcases List.mem_singleton.mp last with rfl
    exact not_isSystem_of_role (.inl rfl)

/-- The messages are the turns as they were said, each with its stamp, and the
new message, which opens with the tasks of the device. -/
theorem mainMessages_eq (stampMessage : Nat → Text → Text) (history : List ConversationTurn) (acceptedAt : Nat)
    (taskContext : Option Text) (message : Text) :
    mainMessages stampMessage history acceptedAt taskContext message =
      history.map (fun turn => ⟨turn.role, stampMessage turn.timestampMs turn.content⟩) ++
        [⟨"user".toList, (taskContext.elim [] fun context => "@@task\n".toList ++ context ++ "\n@@end\n\n".toList) ++
          stampMessage acceptedAt message⟩] := by
  cases taskContext <;> rfl

/-- In every run of the archive in which no pairing reuses an id, the request
for a message of a paired device tells the provider, of whichever kind, the
system prompt, the turns that were recorded with its token and the new message,
without the least number of pairs at the front.  Behind whole exchanges it is a
conversation. -/
theorem main_told (lawful : codec.Lawful) {final : Archive} (readable : ∀ step ∈ schedule, step.Readable)
    (fromRuns : ∀ step ∈ schedule, step.FromRun) (fresh : (archive codec).Guarded Archive.FreshId .empty schedule)
    (runs : (archive codec).run .empty schedule = some final) (authorized : final.devices.Authorizes token)
    (toLowercase : Text → Text) (countTokens : Text → Nat) (stampMessage : Nat → Text → Text)
    (resolved : ResolvedAgentModel) (bounded : resolved.contextTokens < UInt32.size) (prompt : Text)
    (acceptedAt : Nat) (taskContext : Option Text) (message : Text) (messages : List ChatMessage)
    (said : messages =
      (recordedWith token schedule).map (fun turn => ⟨turn.role, stampMessage turn.timestampMs turn.content⟩) ++
        [⟨"user".toList, (taskContext.elim [] fun context => "@@task\n".toList ++ context ++ "\n@@end\n\n".toList) ++
          stampMessage acceptedAt message⟩])
    (fits : tokens countTokens messages < UInt32.size) :
    ∃ pairs request,
      LeastPairs countTokens messages resolved.contextTokens pairs ∧
      mainRequest countTokens stampMessage resolved prompt final.store (some token) acceptedAt taskContext message =
        .returned request ∧
      (chatStream toLowercase resolved.provider request).body.dialogue =
        ⟨some prompt, messages.drop (2 * pairs)⟩ ∧
      (Alternates ConversationTurn.role "user".toList "assistant".toList (recordedWith token schedule) →
        (recordedWith token schedule).length % 2 = 0 →
          ChatMessage.WellFormed (chatStream toLowercase resolved.provider request).body.dialogue.messages) := by
  have guarded := fresh.and (Machine.guarded_of_forall (fun step member _ => readable step member) Archive.empty)
  have restored : Restored codec schedule final :=
    Machine.run_invariant_guarded (fun past state action next here allowed step =>
      here.step lawful allowed step) [] (.start codec) guarded runs
  have history : final.store.getHistory token = recordedWith token schedule := restored.history token authorized
  rw [← mainMessages_eq] at said
  subst said
  have nonempty := mainMessages_ne_nil stampMessage (recordedWith token schedule) acceptedAt taskContext message
  rcases trimPairsToBudget_eq (UInt32.ofNat resolved.contextTokens) nonempty fits with ⟨pairs, least, trims⟩
  rw [UInt32.toNat_ofNat_of_lt' bounded] at least
  let kept := (mainMessages stampMessage (recordedWith token schedule) acceptedAt taskContext message).drop (2 * pairs)
  have requests : mainRequest countTokens stampMessage resolved prompt final.store (some token) acceptedAt
      taskContext message = .returned (resolved.chatRequest kept (some prompt)) := by
    rw [mainRequest, Option.map_some, Option.getD_some, history, Option.isSome_some, if_pos rfl, trims]
    rfl
  have plain : ∀ one ∈ (resolved.chatRequest kept (some prompt)).messages, ¬ IsSystem one := fun one member =>
    mainMessages_plain stampMessage (fun _ recorded => role_recordedWith fromRuns recorded) acceptedAt taskContext
      message one (List.mem_of_mem_drop member)
  have told := dialogue_chatStream toLowercase resolved.provider plain
  refine ⟨pairs, _, least, requests, told, fun turns paired => ?_⟩
  rw [told]
  exact wellFormed_drop (mainMessages_wellFormed stampMessage turns paired acceptedAt taskContext message) least.limit

end

/-- One exchange of a device, and a restart. -/
def oneExchange : List ArchiveStep :=
  [.onboard (drawsOf tokenA 1) [], .record tokenA.text hello 2 zeroNonce,
    .record tokenA.text ⟨"assistant".toList, "hi".toList, none⟩ 3 zeroNonce, .restart [tokenA.text.take 8] []]

/-- A model of OpenAI with room for three short messages. -/
def smallModel : ResolvedAgentModel :=
  ⟨createProvider "openai".toList "https://api.openai.com/v1/".toList "sk".toList, "OpenAI".toList,
    "gpt-4.1".toList, none, none, none, none, none, none, none, 20⟩

theorem oneExchange_runs :
    ((archive keyedCodec).run .empty oneExchange).any (fun final => final.devices.Authorizes tokenA.text) = true := by
  decide +kernel

theorem main_told_oneExchange :
    ∃ final request, (archive keyedCodec).run .empty oneExchange = some final ∧
      mainRequest List.length (fun _ text => text) smallModel "Be brief.".toList final.store (some tokenA.text) 4 none
        "bye".toList = .returned request ∧
      (chatStream id smallModel.provider request).body.dialogue = ⟨some "Be brief.".toList,
        [.fromUser "hello".toList, .fromAssistant "hi".toList, .fromUser "bye".toList]⟩ := by
  rcases (Option.any_eq_true _ _).mp oneExchange_runs with ⟨final, runs, paired⟩
  have readable : ∀ step ∈ oneExchange, step.Readable := by simp [oneExchange, ArchiveStep.Readable]
  have fresh : (archive keyedCodec).Guarded Archive.FreshId .empty oneExchange :=
    ⟨fun _ _ => rfl, fun _ _ => ⟨trivial, fun _ _ => ⟨trivial, fun _ _ => ⟨trivial, fun _ _ => trivial⟩⟩⟩⟩
  rcases main_told keyedCodec_lawful readable (by decide +kernel) fresh runs (of_decide_eq_true paired) id List.length
    (fun _ text => text) smallModel (by decide) "Be brief.".toList 4 none "bye".toList _ rfl (by decide +kernel) with
    ⟨pairs, request, least, requests, told, _⟩
  refine ⟨final, request, runs, requests, told.trans ?_⟩
  -- everything fits, so nothing is dropped
  have whole : pairs = 0 := by
    by_contra dropped
    have exceeds := least.least 0 (Nat.pos_of_ne_zero dropped)
    exact absurd exceeds (by decide +kernel)
  rw [whole]
  decide +kernel

end Agent
end Rabb1tClaw
