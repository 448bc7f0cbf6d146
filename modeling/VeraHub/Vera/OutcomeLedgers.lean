import VeraHub.Acp.OutcomeLedger
import VeraHub.Vera.OperationReplay

/-!
# The ledger of outcomes in runs of both modules

Delegated operations, budget changes and sweeps keep the index and the count of the
outcomes exact, whatever else is called in between.
-/

namespace VeraHub.Vera.Hub

open VeraHub.Zanzibar VeraHub.Acp VeraHub.Acp.AcpModule VeraModule
open Exec (Wp)

section Ledgers

variable {externals : HubExternals} {hub : Hub}

theorem applyCommand_ledger (ledger : Ledger externals.acp hub.acp) (sequence now : UInt64)
    (command : AdministrativeCommand) :
    (applyCommand externals.crypto sequence now command).Wp
      (fun _ final => Ledger externals.acp final.acp) hub := by
  cases command with
  | setOperationBudget bytes =>
    apply Wp.within
    apply Wp.weaken (setOperationBudget_ledger ledger bytes)
    intro result final kept
    cases result <;> exact kept
  | setAcpParameters parameters =>
    have change : Change externals.acp ⟨True, none, none⟩ hub.acp
        (hub.acp.withStored Acp.paramsKey (.params parameters)) := .paramsSet
    exact ledger.change change
  | _ =>
    apply Wp.weaken (applyCommand_wp hub sequence now _)
    intro result final reached
    cases result with
    | error failure =>
      rw [show final = hub from reached]
      exact ledger
    | ok value =>
      cases reached
      all_goals exact ledger

theorem administer_ledger (ledger : Ledger externals.acp hub.acp) (call : AdminCall) :
    Ledger externals.acp (administer externals.crypto hub call).acp := by
  have kept : (applyAdministrativeRequest externals.crypto call.genesisId call.now
      call.signed).Wp (fun _ final => Ledger externals.acp final.acp) hub := by
    apply Wp.query (fun _ _ => ledger)
    intro state _
    apply Wp.failIf (fun _ => ledger)
    intro _
    apply Wp.failIf (fun _ => ledger)
    intro _
    apply Wp.ofExcept (fun _ _ => ledger)
    intro _ _
    apply Wp.query (fun _ _ => ledger)
    intro advanced _
    apply Wp.bind
    apply Wp.weaken (applyCommand_ledger ledger _ _ _)
    intro result middle reached
    cases result <;> exact reached
  exact kept

theorem direct_ledger {module : AcpModule} (ledger : Ledger externals.acp module) (call : AcpCall)
    (direct : isDirect call = true) :
    Ledger externals.acp (AcpModule.perform externals.acp module call) := by
  rcases direct_change call direct with ⟨block, rfl⟩ | ⟨bytes, rfl⟩ | change
  · obtain ⟨middle, pruned, kept⟩ := ledger.prune block.timestamp.seconds
    have swept : (expireCommitments block.timestamp).Wp
        (fun _ final => Ledger externals.acp final) middle := by
      apply Wp.weaken (expireCommitments_expires block.timestamp)
      intro result final chain
      have change : Change externals.acp ⟨True, none, none⟩ middle final := .expired chain
      exact kept.change change
    change Ledger externals.acp ((endBlocker externals.acp block).run module).2
    unfold endBlocker
    rw [Exec.run_bind_of_ok pruned]
    exact swept
  · exact setOperationBudget_ledger ledger bytes
  · exact ledger.change change

theorem Performed.ledger {context : BlockExecCtx} {submission : TxExecCtx} {token : String}
    {operation : DelegatedOperation} {worker actor issuer : Did} {claims : JwtClaims}
    {value : OperationResult} {middle kept final : Hub}
    (hashWidth : ∀ bytes, (externals.crypto.sha256 bytes).length = 32)
    (ledger : Ledger externals.acp hub.acp)
    (done : Performed externals context submission token (operation.digest externals) hub
      (fun actor => body externals context submission actor worker operation)
      actor issuer claims value middle kept final)
    (fresh : ∀ request ∈ claims.request, submission.txHash.length = 32 ∧
      AcpModule.operation externals.acp actor.asStr request.id.bytes hub.acp = .ok none) :
    Ledger externals.acp final.acp := by
  have ran := @body_changes externals hub context submission actor worker operation
  unfold Wp at ran
  rw [done.ran] at ran
  obtain ⟨request, change⟩ := ran
  have recorded := @recordUse_acp externals kept context token issuer claims
  unfold Wp at recorded
  rw [done.recorded] at recorded
  rw [show final.acp = kept.acp from recorded]
  have completed := done.completed
  cases identified : claims.request with
  | none =>
    rw [identified] at completed
    cases completed
    exact ledger.change change
  | some asked =>
    rw [identified] at completed fresh
    have entered : (keepOutcome externals context submission (operation.digest externals) actor
        (some asked) value).Wp (fun _ final => Ledger externals.acp final.acp) middle := by
      apply Wp.within
      apply Wp.weaken (completeOperation_ledger (ledger.change change) hashWidth asked.id.width
        ?_)
      · intro result final kept
        cases result <;> exact kept
      · intro key keyed
        rw [change.operations_get (by decide) (operationKey_inFamily keyed)]
        exact operation_none keyed (fresh asked rfl).2
    unfold Wp at entered
    rw [completed] at entered
    exact entered

theorem perform_ledger (hashWidth : ∀ bytes, (externals.crypto.sha256 bytes).length = 32)
    (ledger : Ledger externals.acp hub.acp) (call : HubCall) :
    Ledger externals.acp (perform externals hub call).acp := by
  cases call with
  | acp call direct => exact direct_ledger ledger call direct
  | delegate context submission token operation =>
    have kept : (delegate externals context submission token operation).Wp
        (fun _ final => Ledger externals.acp final.acp) hub := by
      apply delegate_wp
      · intro failure
        exact ledger
      intro worker result final reached
      cases reached with
      | rejected failure => exact ledger
      | replayed => exact ledger
      | performed caller actor issuer claims authorized fresh value middle kept final done =>
        exact done.ledger hashWidth ledger fresh
    exact kept
  | administer call => exact administer_ledger ledger call
  | _ => exact ledger

theorem performAll_ledger (hashWidth : ∀ bytes, (externals.crypto.sha256 bytes).length = 32)
    (calls : List HubCall) : Ledger externals.acp (performAll externals new calls).acp := by
  induction calls using List.reverseRecOn with
  | nil => exact .new
  | append_singleton calls call ih =>
    unfold performAll at ih ⊢
    rw [List.foldl_append]
    exact perform_ledger hashWidth ih call

/-- In every reachable state the counter is the sum of the encoded lengths of the retained
outcomes, within the budget; the index has one entry for each of them, under the deadline
of its identity; and a sweep succeeds. -/
theorem outcome_counter_and_index_exact (externals : HubExternals)
    (hashWidth : ∀ bytes, (externals.crypto.sha256 bytes).length = 32) (calls : List HubCall) :
    let acp := (performAll externals new calls).acp
    (∃ bytes budget, operationBytes acp = .ok bytes ∧ operationBudget acp = .ok budget ∧
      bytes.toNat = ((acp.scan operationPrefix).map fun entry =>
        externals.encodedLength entry.2).sum ∧ bytes ≤ budget) ∧
    (∃ retained : List (Bytes × OperationRecord),
      acp.scan operationPrefix = retained.map (fun outcome => (outcome.1, .operation outcome.2)) ∧
      (∀ outcome ∈ retained, outcome.2.id.length = 32) ∧
      (acp.scan operationExpiryPrefix).Perm (retained.map fun outcome =>
        (operationExpiryPrefix ++ outcome.2.id.take 8 ++ outcome.1.drop operationPrefix.length,
          .reference outcome.1))) ∧
    ∀ now, ((pruneOperations externals.acp now).run acp).1 = .ok () := by
  have ledger := @performAll_ledger externals hashWidth calls
  refine ⟨ledger.counted, ledger.index_perm, ?_⟩
  intro now
  obtain ⟨final, pruned, _⟩ := ledger.prune now
  rw [pruned]

/-- A creation with a hash of full width is entered and swept after its deadline. -/
theorem creation_is_entered_and_swept :
    let externals := { creationExternals "r" with
      crypto := { (creationExternals "r").crypto with
        sha256 := fun bytes => (bytes.reverse ++ List.replicate 32 0).take 32 } }
    let calls := [(creation "r" 100).call]
    ((performAll externals new calls).acp.scan operationPrefix).length = 1 ∧
      ((pruneOperations externals.acp 300).run (performAll externals new calls).acp).1 =
        .ok () := by
  refine ⟨by decide +kernel, ?_⟩
  exact (outcome_counter_and_index_exact _ (by intro bytes; simp) _).2.2 300

end Ledgers

end VeraHub.Vera.Hub
