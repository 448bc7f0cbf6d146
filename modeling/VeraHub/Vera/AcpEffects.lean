import VeraHub.Acp.Outcomes
import VeraHub.Vera.HubRuns

/-!
# The access control module in runs of both modules

Every call of either module has one effect on the access control module, of
the kinds that its own calls have, and keeps the outcomes of operations until
their deadline.
-/

namespace VeraHub.Vera.Hub

open VeraHub.Zanzibar VeraHub.Acp VeraHub.Acp.AcpModule VeraModule
open Exec (Wp)

variable {time : Option UInt64} {module : AcpModule}

section Effects

variable {externals : HubExternals} {hub : Hub}

def Changes (externals : HubExternals) (hub final : Hub) : Prop :=
  ∃ request, Change externals.acp request hub.acp final.acp

theorem Changes.kept : Changes externals hub hub :=
  ⟨⟨True, none, none⟩, .kept⟩

theorem keeping_changes {α : Type} {toResult : α → OperationResult}
    {body : AcpM α} (request : Request)
    (changes : body.Wp (fun _ final => Change externals.acp request hub.acp final) hub.acp) :
    (keeping toResult body).Wp (fun _ final => Changes externals hub final)
      hub := by
  apply Wp.bind
  apply Wp.within
  apply Wp.weaken changes
  intro result final change
  cases result with
  | error failure => exact ⟨request, change⟩
  | ok value => exact ⟨request, change⟩

theorem registerService_changes {actor : Did} (registration : Option (String × Object)) :
    (registerService externals actor registration).Wp
      (fun _ final => Changes externals hub final) hub := by
  cases registration with
  | none => exact .kept
  | some pair =>
    obtain ⟨policyId, object⟩ := pair
    let request : Request :=
      ⟨didAccepts actor.asStr = true, none, some ⟨policyId, .registerObject object, none⟩⟩
    have changes : (directPolicyCmd externals.acp actor policyId (.registerObject object)).Wp
        (fun _ final => Change externals.acp request hub.acp final)
        hub.acp := directPolicyCmd_change rfl id
    apply Wp.bind
    apply Wp.within
    apply Wp.weaken changes
    intro result final change
    cases result with
    | error failure => exact ⟨request, change⟩
    | ok value => exact ⟨request, change⟩

theorem serve_changes {actor : Did} {nesting : Nat}
    {request : Hub → Except AcpError ServiceOutcome} :
    (serve externals actor nesting request).Wp
      (fun _ final => Changes externals hub final) hub := by
  apply Wp.query
  · intro failure _
    exact .kept
  intro outcome _
  apply Wp.bind
  apply Wp.weaken (registerService_changes outcome.registration)
  intro result middle changes
  cases result with
  | error failure => exact changes
  | ok value => exact changes

theorem body_changes {context : BlockExecCtx} {submission : TxExecCtx}
    {actor worker : Did} (operation : DelegatedOperation) :
    (body externals context submission actor worker operation).Wp
      (fun _ final => Changes externals hub final) hub := by
  cases operation with
  | createPolicy policy marshalType =>
    exact keeping_changes ⟨True, _, none⟩
      (createPolicyWithMetadata_change policy marshalType _ _ rfl)
  | editPolicy policyId policy marshalType =>
    exact keeping_changes ⟨True, _, none⟩
      (editPolicy_change actor policyId policy marshalType _ rfl)
  | policyCommand policyId cmd =>
    exact keeping_changes ⟨_, none, _⟩ (executePolicyCmd_change rfl id)
  | checkAccess policyId asked =>
    exact keeping_changes ⟨True, none, none⟩
      (checkAccess_change worker policyId asked context submission _)
  | ringCommand command => exact serve_changes
  | storeThresholdObject object => exact serve_changes

theorem keepOutcome_outcomes {context : BlockExecCtx}
    {submission : TxExecCtx} {digest : Bytes} {actor : Did}
    {claims : JwtClaims} {value : OperationResult} {final : Hub} {time : Option UInt64}
    (completed : (keepOutcome externals context submission digest actor
      claims.request value).run hub = (.ok (), final))
    (fresh : ∀ request ∈ claims.request, ∀ key,
      operationKey externals.acp actor.asStr request.id.bytes = .ok key →
        hub.acp.store.get key = none) :
    OperationsOnly hub.acp final.acp ∧
      OutcomesKept time hub.acp final.acp ∧
        ∀ request ∈ claims.request, ∃ key,
          operationKey externals.acp actor.asStr request.id.bytes = .ok key ∧
            final.acp.store.get key = some (.operation
              ⟨request.id.bytes, digest, actor.asStr, submission.txHash,
                submission.signer, context.timestamp, value⟩) := by
  cases identified : claims.request with
  | none =>
    rw [identified] at completed
    cases completed
    exact ⟨.refl, .refl, fun _ member => (nomatch member)⟩
  | some request =>
    rw [identified] at completed fresh
    have kept : (keepOutcome externals context submission digest actor
        (some request) value).Wp (fun result final => result = .ok () →
          OperationsOnly hub.acp final.acp ∧
            OutcomesKept time hub.acp final.acp ∧
              ∃ key, operationKey externals.acp actor.asStr request.id.bytes = .ok key ∧
                final.acp.store.get key = some (.operation
                  ⟨request.id.bytes, digest, actor.asStr, submission.txHash, submission.signer,
                    context.timestamp, value⟩)) hub := by
      apply Wp.within
      apply completeOperation_wp
      · intro failure succeeded
        cases succeeded
      intro key final keyed stored others only _
      refine ⟨only, ?_, key, keyed, stored⟩
      intro other record inFamily found
      have different : other ≠ key := by
        intro same
        rw [same, fresh request rfl key keyed] at found
        cases found
      rw [← others other inFamily different] at found
      exact .inl found
    unfold Wp at kept
    rw [completed] at kept
    obtain ⟨only, outcomes, stored⟩ := kept rfl
    refine ⟨only, outcomes, ?_⟩
    intro other member
    cases member
    exact stored

theorem recordUse_acp {context : BlockExecCtx} {token : String} {issuer : Did}
    {claims : JwtClaims} :
    (recordUse externals context token issuer claims).Wp
      (fun _ final => final.acp = hub.acp) hub := by
  apply Wp.within
  rfl

/-- One effect on the access control module that keeps outcomes until their
deadline. -/
structure AcpEffect (externals : HubExternals) (time : Option UInt64) (hub final : Hub) : Prop where
  effect : ∃ request, Effect externals.acp request hub.acp final.acp
  outcomes : OutcomesKept time hub.acp final.acp

theorem AcpEffect.of_acp {final : Hub}
    (same : final.acp = hub.acp) : AcpEffect externals time hub final where
  effect := by
    rw [same]
    exact ⟨⟨True, none, none⟩, .kept⟩
  outcomes := by
    rw [same]
    exact .refl

theorem Performed.acpEffect {context : BlockExecCtx} {submission : TxExecCtx}
    {token : String} {operation : DelegatedOperation} {worker actor issuer : Did}
    {claims : JwtClaims} {value : OperationResult} {middle kept final : Hub} {time : Option UInt64}
    (done : Performed externals context submission token (operation.digest externals) hub
      (fun actor => body externals context submission actor worker operation)
      actor issuer claims value middle kept final)
    (fresh : ∀ request ∈ claims.request,
      submission.txHash.length = 32 ∧
        AcpModule.operation externals.acp actor.asStr request.id.bytes hub.acp = .ok none) :
    AcpEffect externals time hub final ∧
      ∀ request ∈ claims.request, ∃ key,
        operationKey externals.acp actor.asStr request.id.bytes = .ok key ∧
          final.acp.store.get key = some (.operation
            ⟨request.id.bytes, operation.digest externals, actor.asStr,
              submission.txHash, submission.signer, context.timestamp, value⟩) := by
  have changes : Changes externals hub middle := by
    have ran := @body_changes externals hub context submission actor worker operation
    unfold Wp at ran
    rw [done.ran] at ran
    exact ran
  have sameAcp : final.acp = kept.acp := by
    have recorded := @recordUse_acp externals kept context token issuer claims
    unfold Wp at recorded
    rw [done.recorded] at recorded
    exact recorded
  obtain ⟨request, change⟩ := changes
  have stillFresh : ∀ request ∈ claims.request, ∀ key,
      operationKey externals.acp actor.asStr request.id.bytes = .ok key →
        middle.acp.store.get key = none := by
    intro other member key keyed
    rw [change.operations_get (by decide) (operationKey_inFamily keyed)]
    exact operation_none keyed (fresh other member).2
  obtain ⟨only, outcomes, stored⟩ :=
    @keepOutcome_outcomes _ _ _ _ _ _ _ _ _ time done.completed stillFresh
  rw [sameAcp]
  refine ⟨⟨⟨request, ?_⟩, ?_⟩, stored⟩
  · rw [sameAcp]
    exact ⟨hub.acp, middle.acp, .refl, change, only⟩
  · rw [sameAcp]
    exact change.outcomesKept.trans outcomes

theorem delegate_acpEffect {context : BlockExecCtx} {submission : TxExecCtx}
    {token : String} {operation : DelegatedOperation} :
    (delegate externals context submission token operation).Wp
      (fun _ final => AcpEffect externals time hub final) hub := by
  apply delegate_wp
  · intro failure
    exact .of_acp rfl
  intro worker result final reached
  cases reached with
  | rejected failure => exact .of_acp rfl
  | replayed => exact .of_acp rfl
  | performed caller actor issuer claims authorized fresh value middle kept final done =>
    exact (done.acpEffect fresh).1

theorem setOperationBudget_outcomesKept (bytes : UInt64) :
    (setOperationBudget bytes).Wp (fun _ final => OutcomesKept time module final) module := by
  apply Wp.failIf
  · intro _
    exact .refl
  intro _
  apply Wp.query
  · intro failure _
    exact .refl
  intro retained _
  apply Wp.failIf
  · intro _
    exact .refl
  intro _
  exact budget_outcomesKept bytes

theorem endBlocker_outcomesKept (block : BlockExecCtx) :
    (endBlocker externals.acp block).Wp
      (fun _ final => OutcomesKept (some block.timestamp.seconds) module final) module := by
  apply Wp.bind
  apply Wp.weaken (pruneOperations_outcomesKept block.timestamp.seconds)
  intro result middle pruned
  cases result with
  | error failure => exact pruned
  | ok value =>
    apply Wp.weaken (expireCommitments_expires block.timestamp)
    intro result final chain
    refine pruned.trans (.of_same ?_)
    intro key inFamily
    exact chain.within.get inFamily (by decide)

theorem direct_change (call : AcpCall) (direct : isDirect call = true) :
    (∃ block, call = .endBlocker block) ∨ (∃ bytes, call = .setOperationBudget bytes) ∨
      Change externals.acp call.request module (AcpModule.perform externals.acp module call) := by
  cases call with
  | createPolicy creator policy marshalType =>
    exact .inr (.inr (createPolicyWithMetadata_change policy marshalType
      (plainMetadata creator) module rfl))
  | editPolicy creator policyId policy marshalType =>
    exact .inr (.inr (editPolicy_change creator policyId policy marshalType module rfl))
  | checkAccess creator policyId asked block tx =>
    exact .inr (.inr (checkAccess_change creator policyId asked block tx module))
  | directPolicyCmd creator policyId cmd =>
    exact .inr (.inr (directPolicyCmd_change rfl fun authenticated => authenticated creator rfl))
  | executePolicyCmd actor policyId cmd block submission =>
    exact .inr (.inr (executePolicyCmd_change rfl fun authenticated => authenticated actor rfl))
  | endBlocker block => exact .inl ⟨block, rfl⟩
  | setParams params => exact .inr (.inr .paramsSet)
  | setOperationBudget bytes => exact .inr (.inl ⟨bytes, rfl⟩)
  | _ => cases direct

theorem direct_outcomesKept (call : AcpCall) (direct : isDirect call = true) :
    OutcomesKept (acpTime call) module (AcpModule.perform externals.acp module call) := by
  rcases direct_change call direct with ⟨block, rfl⟩ | ⟨bytes, rfl⟩ | change
  · exact endBlocker_outcomesKept block
  · exact setOperationBudget_outcomesKept bytes
  · exact change.outcomesKept

theorem CommandEffect.acpEffect {crypto : Crypto} {sequence : UInt64}
    {final : Hub} {command : AdministrativeCommand} {time : Option UInt64}
    (effect : CommandEffect crypto sequence hub command final) :
    AcpEffect externals time hub final := by
  cases effect with
  | rotated => exact .of_acp rfl
  | initialized => exact .of_acp rfl
  | relaySet grant key keyed => exact .of_acp rfl
  | relayRevoked issuer key keyed => exact .of_acp rfl
  | parameters parameters =>
    have change : Change externals.acp ⟨True, none, none⟩ hub.acp
        (hub.acp.withStored Acp.paramsKey (.params parameters)) := .paramsSet
    exact ⟨⟨_, .of_change change⟩, change.outcomesKept⟩
  | budget bytes =>
    have start : OperationsOnly hub.acp hub.acp := .refl
    have only := start.withStored (.counter bytes) operationBudgetKey_inFamily (by decide)
    exact ⟨⟨⟨True, none, none⟩, .of_operations only⟩, budget_outcomesKept bytes⟩

theorem Administered.acpEffect {crypto : Crypto} {final : Hub}
    {call : AdminCall} {time : Option UInt64} (administered : Administered crypto hub call final) :
    AcpEffect externals time hub final := by
  obtain ⟨state, advanced, middle, _, effect⟩ := administered
  have before : AcpEffect externals time hub middle := effect.acpEffect
  exact ⟨before.effect, before.outcomes⟩

theorem administer_acpEffect (call : AdminCall) :
    AcpEffect externals time hub (administer externals.crypto hub call) := by
  by_cases accepted : accepts externals.crypto hub call
  · exact (administer_of_accepted accepted).acpEffect
  · rw [administer_of_rejected accepted]
    exact .of_acp rfl

theorem perform_acpEffect (call : HubCall) :
    AcpEffect externals call.time hub (perform externals hub call) := by
  cases call with
  | acp call direct =>
    exact ⟨⟨_, perform_effect externals.acp hub.acp call⟩, direct_outcomesKept call direct⟩
  | delegate context submission token operation => exact delegate_acpEffect
  | administer call => exact administer_acpEffect call
  | _ => exact .of_acp rfl

theorem performAll_amendmentsSound {hub : Hub} (policies : PoliciesSound externals.acp hub.acp)
    (sound : AmendmentsSound hub.acp) (calls : List HubCall) :
    AmendmentsSound (performAll externals hub calls).acp := by
  induction calls generalizing hub with
  | nil => exact sound
  | cons call rest ih =>
    obtain ⟨request, effect⟩ := (perform_acpEffect call).effect
    exact ih (policies.effect effect) (sound.effect policies effect)

end Effects

end VeraHub.Vera.Hub
