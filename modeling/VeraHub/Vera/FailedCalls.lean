import VeraHub.Acp.CallEffects
import VeraHub.Vera.HubRuns

/-!
# Failed calls change nothing

Outside of delegations nothing is rolled back: each operation makes all its
checks before its first write.  Expiry collects commitments that can be marked,
so none of its updates fails half way.  A delegated operation is undone as a
whole.
-/

namespace VeraHub.Vera

open VeraHub.Zanzibar VeraHub.Acp
open Exec (AllOrNothing Wp)

/-! ## Operations of the access control module -/

variable {creator : Did} {policyId : String}

section Acp

variable {externals : Externals} {module : AcpModule}

theorem createPolicyWithMetadata_allOrNothing {policy : String}
    {marshalType : PolicyMarshalingType} {metadata : RecordMetadata} :
    (AcpModule.createPolicyWithMetadata externals policy marshalType
      metadata).AllOrNothing module := by
  apply AllOrNothing.of_wp
  apply Wp.query
  · intro failure _
    rfl
  intro counter _
  apply Wp.ofExcept
  · intro failure _
    rfl
  intro compiled _
  apply Wp.gets
  apply Wp.failIf
  · intro _
    rfl
  · intro _
    trivial

theorem editPolicy_allOrNothing {policy : String} {marshalType : PolicyMarshalingType} :
    (AcpModule.editPolicy externals creator policyId policy marshalType).AllOrNothing module := by
  apply AllOrNothing.of_wp
  apply Wp.query
  · intro failure _
    rfl
  intro existing _
  cases existing with
  | none => exact Wp.fail rfl
  | some existing =>
    apply Wp.failIf
    · intro _
      rfl
    intro _
    apply Wp.ofExcept
    · intro failure _
      rfl
    intro compiled _
    cases AcpModule.removedResource existing.policy compiled with
    | some resource => exact Wp.fail rfl
    | none =>
      apply Wp.query
      · intro failure _
        rfl
      · intro orphans _
        trivial

variable {block : BlockExecCtx}

theorem checkAccess_allOrNothing {request : AccessRequest} {tx : TxExecCtx} :
    (AcpModule.checkAccess externals creator policyId request block tx).AllOrNothing module := by
  apply AllOrNothing.of_wp
  apply Wp.failIf
  · intro _
    rfl
  intro _
  apply Wp.ofExcept
  · intro failure _
    rfl
  intro decisionId _
  apply Wp.query
  · intro failure _
    rfl
  intro policy _
  apply Wp.query
  · intro failure _
    rfl
  · intro _ _
    trivial

theorem directPolicyCmd_allOrNothing {cmd : PolicyCmd} :
    (AcpModule.directPolicyCmd externals creator policyId cmd).AllOrNothing
      module := by
  apply AllOrNothing.of_wp
  apply Wp.weaken (AcpModule.directPolicyCmd_applied cmd)
  intro result final outcome
  cases result with
  | ok value => trivial
  | error failure => exact outcome

theorem executePolicyCmd_allOrNothing {actor : Did} {cmd : PolicyCmd} {submission : TxExecCtx} :
    (AcpModule.executePolicyCmd externals actor policyId cmd block
      submission).AllOrNothing module := by
  apply AllOrNothing.of_wp
  apply Wp.weaken (AcpModule.executePolicyCmd_applied cmd block submission)
  intro result final outcome
  cases result with
  | ok value => trivial
  | error failure => exact outcome

theorem updateCommitments_succeeds (marks : List RegistrationsCommitment)
    (markable : ∀ marked ∈ marks, AcpModule.Markable module marked) :
    (AcpModule.updateCommitments marks).Wp (fun result _ => result = .ok ()) module := by
  induction marks generalizing module with
  | nil => exact Wp.pure rfl
  | cons marked rest ih =>
    have first := markable marked List.mem_cons_self
    obtain ⟨old, found, _⟩ := first
    apply Wp.bind
    apply AcpModule.updateCommitment_wp
    · intro failure looked
      rw [found] at looked
      cases looked
    · intro previous looked
      apply ih
      intro other member
      exact AcpModule.Markable.withCommitment (markable marked List.mem_cons_self)
        (markable other (List.mem_cons_of_mem marked member)) _

theorem expireCommitments_allOrNothing {now : Timestamp} :
    (AcpModule.expireCommitments now).AllOrNothing module := by
  apply AllOrNothing.of_wp
  apply Wp.query
  · intro failure _
    rfl
  intro bySeconds secondsFound
  apply Wp.query
  · intro failure _
    rfl
  intro byHeight heightFound
  apply Wp.bind
  apply Wp.weaken (updateCommitments_succeeds (bySeconds ++ byHeight) _)
  · intro result final succeeded
    rw [succeeded]
    trivial
  · intro marked member
    rcases List.mem_append.mp member with inSeconds | inHeight
    · exact AcpModule.collectExpired_markable secondsFound marked inSeconds
    · exact AcpModule.collectExpired_markable heightFound marked inHeight

theorem pruneOperations_allOrNothing {now : UInt64} :
    (AcpModule.pruneOperations externals now).AllOrNothing module := by
  apply AllOrNothing.of_wp
  apply Wp.query
  · intro failure _
    rfl
  intro pruned _
  cases pruned with
  | none => trivial
  | some pair => trivial

end Acp

/-! ## Both modules -/

namespace Hub

variable {hub : Hub}

theorem onAcp_allOrNothing {ε α : Type} {translate : AcpError → ε}
    {body : AcpM α} (clean : body.AllOrNothing hub.acp) : (onAcp translate body).AllOrNothing hub :=
  AllOrNothing.within rfl clean

theorem withDelegation_allOrNothing {externals : HubExternals}
    {context : BlockExecCtx} {submission : TxExecCtx} {token : String}
    {scope : DelegationScope} {digest : Bytes}
    {read : OperationResult → Except String OperationResult}
    {run : Did → HubM AcpError OperationResult} :
    (withDelegation externals context submission token scope digest read run).AllOrNothing hub := by
  apply AllOrNothing.of_wp
  apply Wp.weaken withDelegation_wp
  intro result final reached
  cases reached with
  | rejected failure => rfl
  | replayed caller actor issuer claims request record =>
    cases AcpModule.replayed read digest request.id.bytes record with
    | ok value => trivial
    | error failure => rfl
  | performed => trivial

theorem delegate_allOrNothing {externals : HubExternals}
    {context : BlockExecCtx} {submission : TxExecCtx} {token : String}
    {operation : DelegatedOperation} :
    (delegate externals context submission token operation).AllOrNothing
      hub := by
  apply AllOrNothing.of_wp
  apply Wp.ofExcept
  · intro failure _
    rfl
  intro _ _
  apply Wp.ofExcept
  · intro failure _
    rfl
  intro worker _
  unfold Wp
  have clean := @withDelegation_allOrNothing hub externals context submission
    token operation.scope (operation.digest externals) operation.readResult
    (fun actor => body externals context submission actor worker operation)
  cases outcome : ((withDelegation externals context submission token
      operation.scope (operation.digest externals) operation.readResult
      fun actor => body externals context submission actor worker operation).run hub).1 with
  | ok value => trivial
  | error failure => exact clean failure outcome

/-- In every state, each of these operations leaves the stores of both modules
and the compiled policies exactly as they were whenever it fails. -/
theorem failed_calls_change_nothing (externals : HubExternals) (hub : Hub) :
    (∀ creator policy marshalType,
      (onAcp (fun error => error) (AcpModule.createPolicy externals.acp
        creator policy marshalType)).AllOrNothing hub) ∧
    (∀ creator policyId policy marshalType,
      (onAcp (fun error => error) (AcpModule.editPolicy externals.acp creator
        policyId policy marshalType)).AllOrNothing hub) ∧
    (∀ creator policyId request block tx,
      (onAcp (fun error => error) (AcpModule.checkAccess externals.acp creator
        policyId request block tx)).AllOrNothing hub) ∧
    (∀ creator policyId cmd,
      (onAcp (fun error => error) (AcpModule.directPolicyCmd externals.acp
        creator policyId cmd)).AllOrNothing hub) ∧
    (∀ actor policyId cmd block submission,
      (onAcp (fun error => error) (AcpModule.executePolicyCmd externals.acp
        actor policyId cmd block submission)).AllOrNothing hub) ∧
    (∀ now, (onAcp (fun error => error) (AcpModule.expireCommitments now)).AllOrNothing hub) ∧
    (∀ now, (onAcp (fun error => error)
      (AcpModule.pruneOperations externals.acp now)).AllOrNothing hub) ∧
    (∀ context submission token scope digest read run,
      (withDelegation externals context submission token scope digest read run).AllOrNothing hub) ∧
    ∀ context submission token operation,
      (delegate externals context submission token operation).AllOrNothing
        hub := by
  refine ⟨?_, ?_, ?_, ?_, ?_, ?_, ?_, ?_, ?_⟩
  · intro creator policy marshalType
    exact onAcp_allOrNothing createPolicyWithMetadata_allOrNothing
  · intro creator policyId policy marshalType
    exact onAcp_allOrNothing editPolicy_allOrNothing
  · intro creator policyId request block tx
    exact onAcp_allOrNothing checkAccess_allOrNothing
  · intro creator policyId cmd
    exact onAcp_allOrNothing directPolicyCmd_allOrNothing
  · intro actor policyId cmd block submission
    exact onAcp_allOrNothing executePolicyCmd_allOrNothing
  · intro now
    exact onAcp_allOrNothing expireCommitments_allOrNothing
  · intro now
    exact onAcp_allOrNothing pruneOperations_allOrNothing
  · intro context submission token scope digest read run
    exact withDelegation_allOrNothing
  · intro context submission token operation
    exact delegate_allOrNothing

end Hub

end VeraHub.Vera
