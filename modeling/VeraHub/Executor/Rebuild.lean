import VeraHub.Executor.Execution

/-!
# Verification repeats building

A transaction that a builder skips leaves nothing behind.  Hence the executed
transactions, run on their own by a verifier over the same parent, give the
receipts, changes, modules and root that the builder got.
-/

namespace VeraHub.Executor

open VeraHub.Acp (BlockExecCtx TxExecCtx)

/-- A transaction that the interpreter refuses leaves the interpreter's cache
and journal unchanged. -/
def Host.RefusesCleanly (host : Host) : Prop :=
  ∀ (tx : host.EvmTx) (evm next : host.Evm) (message : String)
    (precompiles : CallInputs → UInt64 → ModuleJournal host.Modules →
      PrecompileReply host.Log host.Modules × ModuleJournal host.Modules)
    (journal driven : ModuleJournal host.Modules),
    (host.inspectTx tx evm).drive precompiles journal = some ((.error message, next), driven) →
      next = evm

variable {txs : List Bytes} {context : BlockContext}

namespace VeraExecutor

variable {host : Host}

/-! ## Skipped native transactions -/

/-- What a native transaction can do: fail its nonce check and change nothing,
or advance the nonce, with the writes of its call if that succeeded. -/
theorem executeAuthenticatedNativeTx_cases (blockCtx : BlockExecCtx)
    (tx : AuthenticatedNativeTx) (state : NativeState host) :
    (∃ error,
      (NativeNonceStore.checkAndIncrement tx.signerDid
          tx.nativeTx.nonce).run state.nonces = (.error error, state.nonces) ∧
        (executeAuthenticatedNativeTx host blockCtx tx).run state =
          (.error (nonceFailure error), state)) ∨
    (∃ nonces outcome modules evm,
      (NativeNonceStore.checkAndIncrement tx.signerDid
          tx.nativeTx.nonce).run state.nonces = (.ok (), nonces) ∧
        dispatchNative host blockCtx
          ⟨tx.nativeTx.nonce, txId host tx.nativeTx, tx.signerDid⟩ tx.nativeTx
          state.modules state.evm = (outcome, modules, evm) ∧
        (executeAuthenticatedNativeTx host blockCtx tx).run state =
          (nativeReceipt (txId host tx.nativeTx) outcome,
            if outcome.succeeded then ⟨modules, nonces, evm⟩
            else ⟨state.modules, nonces, state.evm⟩)) := by
  rcases NativeNonceStore.checkAndIncrement_cases tx.signerDid tx.nativeTx.nonce state.nonces with
    ⟨error, refused⟩ | ⟨nonces, next, advanced, _⟩
  · refine Or.inl ⟨error, refused, ?_⟩
    simp only [executeAuthenticatedNativeTx, Exec.run] at refused ⊢
    simp only [refused]
  · rcases dispatched : dispatchNative host blockCtx
        ⟨tx.nativeTx.nonce, txId host tx.nativeTx, tx.signerDid⟩ tx.nativeTx
        state.modules state.evm with ⟨outcome, modules, evm⟩
    refine Or.inr ⟨nonces, outcome, modules, evm, advanced, rfl, ?_⟩
    simp only [executeAuthenticatedNativeTx, Exec.run] at advanced ⊢
    simp only [advanced, dispatched]
    cases outcome.succeeded with
    | true => rfl
    | false => rfl

theorem nativeFailure_nonceFailure (error : NonceError) :
    nativeFailure (nonceFailure error) = .skip (nonceFailure error) := by
  cases error with
  | mismatch did expected got => rfl
  | overflow did => rfl
  | malformed did => rfl

theorem nativeReceipt_error {Log : Type} {txHash : Bytes}
    {outcome : DispatchOutcome Log} {error : ExecutionError}
    (failed : nativeReceipt txHash outcome = .error error) :
    nativeFailure error = .abort error := by
  cases outcome with
  | returned result => cases failed
  | panicked => cases failed
  | failed reason =>
    cases reason with
    | other message => cases failed
    | fatal message =>
      cases failed
      rfl

theorem attemptNative_skipsCleanly (blockCtx : BlockExecCtx) :
    SkipsCleanly (attemptNative host blockCtx) := by
  intro authenticated phase next error skipped
  cases authenticated with
  | error failure => exact (Prod.mk.inj skipped).2.symm
  | ok tx =>
    rcases executeAuthenticatedNativeTx_cases blockCtx tx phase.state with
      ⟨refusal, _, refused⟩ | ⟨nonces, outcome, modules, evm, _, _, executed⟩
    · have phaseKept : (attemptNative host blockCtx (.ok tx)).run phase =
          (.error (.skip (nonceFailure refusal)), phase) := by
        simp only [attemptNative, Exec.run] at refused ⊢
        simp only [refused, nativeFailure_nonceFailure]
      rw [phaseKept] at skipped
      exact (Prod.mk.inj skipped).2.symm
    · -- a dispatched transaction is never skipped
      exfalso
      simp only [attemptNative, Exec.run] at executed skipped
      rw [executed] at skipped
      rcases receipt : nativeReceipt (txId host tx.nativeTx) outcome with
        failure | receiptValue
      · rw [receipt] at skipped
        simp only [nativeReceipt_error receipt] at skipped
        cases skipped
      · rw [receipt] at skipped
        cases skipped

/-! ## Skipped EVM transactions -/

theorem runCustom_guards (blockCtx : BlockExecCtx) (txCtx : TxExecCtx)
    (target : Address) (inputs : CallInputs) (gasLimit : UInt64)
    {journal : ModuleJournal host.Modules} {depth : Nat}
    {base : host.Modules} (guarded : journal.Guards depth base) :
    (runCustom host blockCtx txCtx target inputs gasLimit journal).2.Guards
      depth base := by
  unfold runCustom
  rcases taken : journal.checkpoint with message | saved
  · exact guarded
  · obtain ⟨savedGuarded, before, outer, frames⟩ := ModuleJournal.checkpoint_guards guarded taken
    rcases dispatched : host.dispatchToModule target inputs.input blockCtx
        txCtx gasLimit saved.modules with ⟨outcome, written⟩
    have called := ModuleJournal.write_guards savedGuarded frames written
    simp only [dispatched]
    split
    · exact called
    · cases outcome with
      | returned result => exact called
      | failed error => exact called
      | panicked => exact called

theorem runPrecompile_guards (blockCtx : BlockExecCtx) (tx : TxEnv)
    (precompiles : VeraPrecompiles) :
    Interaction.PrecompilesGuard (runPrecompile host blockCtx tx precompiles) := by
  intro inputs gasLimit journal depth base guarded
  unfold runPrecompile
  cases precompiles.run tx inputs with
  | ethereum => exact guarded
  | rejected message => exact guarded
  | staticWrite => exact guarded
  | registry txCtx => exact guarded
  | modules target txCtx =>
    exact runCustom_guards blockCtx txCtx target inputs gasLimit guarded

theorem attemptEvm_skipsCleanly (clean : host.RefusesCleanly) (blockCtx : BlockExecCtx) :
    SkipsCleanly (attemptEvm host blockCtx) := by
  intro txBytes phase next error skipped
  simp only [attemptEvm, Exec.run] at skipped
  rcases decoded : host.decodeEvmTx txBytes with failure | ⟨tx, signerDid⟩
  · rw [decoded] at skipped
    cases failure <;> cases skipped
    rfl
  · rw [decoded] at skipped
    rcases started : phase.journal.begin with _ | opened
    · simp only [started] at skipped
      cases skipped
    · obtain ⟨noFrames, guarded⟩ := ModuleJournal.begin_guards started
      obtain ⟨⟨execution, evm⟩, driven, depth, drove, drivenGuarded⟩ :=
        Interaction.drive_guards
          (runPrecompile_guards blockCtx (host.txEnv tx) ⟨host.keccak256 txBytes, signerDid⟩)
          (host.inspectTx tx phase.evm) guarded
      simp only [started, drove] at skipped
      cases execution with
      | ok accepted =>
        rcases ended : driven.finish (inspectedSuccess (.ok accepted)) with
          _ | journal
        · simp only [ended] at skipped
          cases skipped
        · simp only [ended] at skipped
          cases skipped
      | error message =>
        have evmKept : evm = phase.evm := clean tx phase.evm evm message _ opened driven drove
        have ended : driven.finish false = some ⟨phase.journal.modules, []⟩ :=
          congrArg (fun modules => some (⟨modules, []⟩ : ModuleJournal _)) drivenGuarded.unwound_eq
        have journalKept : (⟨phase.journal.modules, []⟩ : ModuleJournal host.Modules) =
              phase.journal := by
          rw [← noFrames]
        simp only [inspectedSuccess, ended] at skipped
        rw [evmKept, journalKept] at skipped
        exact (Prod.mk.inj skipped).2.symm

/-! ## The executed transactions -/

/-- Reading a list at the positions of some of its items gives these items. -/
theorem filterMap_positions {items : List (Bytes × Nat)}
    (positioned : ∀ item ∈ items, item ∈ txs.zipIdx) :
    (items.map Prod.snd).filterMap (fun i => txs[i]?) =
      items.map Prod.fst := by
  induction items with
  | nil => rfl
  | cons item rest ih =>
    have found : txs[item.2]? = some item.1 :=
      List.mk_mem_zipIdx_iff_getElem?.mp (positioned item List.mem_cons_self)
    have restFound := ih fun other member =>
      positioned other (List.mem_cons_of_mem item member)
    rw [List.map_cons, List.map_cons, List.filterMap_cons_some found, restFound]

theorem nativeItems_fst (txs : List Bytes) :
    (nativeItems txs).map Prod.fst = txs.filter isNativeTx := by
  have projected := List.filter_map (p := isNativeTx) (f := Prod.fst) (l := txs.zipIdx)
  rw [List.zipIdx_map_fst] at projected
  exact projected.symm

theorem evmItems_fst (txs : List Bytes) :
    (evmItems txs).map Prod.fst = txs.filter fun bytes => !isNativeTx bytes := by
  have projected := List.filter_map (p := fun bytes => !isNativeTx bytes)
    (f := Prod.fst) (l := txs.zipIdx)
  rw [List.zipIdx_map_fst] at projected
  exact projected.symm

/-- Among kept native items followed by kept EVM items, the kinds separate
again. -/
theorem separate_kept {native evm : List (Bytes × Nat)}
    (nativeKept : native.Sublist (nativeItems txs)) (evmKept : evm.Sublist (evmItems txs)) :
    ((native ++ evm).map Prod.fst).filter isNativeTx = native.map Prod.fst ∧
      ((native ++ evm).map Prod.fst).filter (fun bytes => !isNativeTx bytes) =
        evm.map Prod.fst := by
  have nativeKind : ∀ bytes ∈ native.map Prod.fst, isNativeTx bytes = true := by
    intro bytes member
    obtain ⟨item, itemMember, rfl⟩ := List.mem_map.mp member
    exact (List.mem_filter.mp (nativeKept.subset itemMember)).2
  have evmKind : ∀ bytes ∈ evm.map Prod.fst, isNativeTx bytes = false := by
    intro bytes member
    obtain ⟨item, itemMember, rfl⟩ := List.mem_map.mp member
    have kind := (List.mem_filter.mp (evmKept.subset itemMember)).2
    simpa using kind
  rw [List.map_append, List.filter_append, List.filter_append]
  constructor
  · rw [List.filter_eq_self.mpr nativeKind, List.filter_eq_nil_iff.mpr (by
        intro bytes member
        simp [evmKind bytes member]), List.append_nil]
  · rw [List.filter_eq_nil_iff.mpr (by
        intro bytes member
        simp [nativeKind bytes member]), List.nil_append,
      List.filter_eq_self.mpr (by
        intro bytes member
        simp [evmKind bytes member])]

/-! ## Whole blocks -/

variable (executor : VeraExecutor)

variable {parent snapshot : ModuleSnapshot host} {outcome : ExecutionOutcome host}

/-- What follows the transactions of a block depends on the mode only in the
positions it reports. -/
theorem closeBlock_mode {other : BlockContext} {nonces : NativeNonceStore}
    {phase : EvmPhase host} {executed : Option (List Nat)}
    (closed : executor.closeBlock host context parent nonces phase executed =
      .ok (outcome, snapshot))
    (sameHeader : other.header = context.header)
    (sameMode : other.receiptOnly = context.receiptOnly) (reported : Option (List Nat)) :
    outcome.executedTxIndices = executed ∧
      outcome.receipts = phase.ledger.receipts ∧ snapshot.nonces = nonces ∧
      executor.closeBlock host other parent nonces phase reported =
        .ok ({ outcome with executedTxIndices := reported }, snapshot) := by
  unfold closeBlock at closed ⊢
  rw [sameHeader, sameMode]
  rcases taken : phase.journal.finish true with _ | journal
  · rw [taken] at closed
    cases closed
  · rw [taken] at closed
    simp only [Option.elim_some, Except.bind, bind] at closed ⊢
    rcases recorded : executor.recordRoster host context.header phase.evm
        journal.modules with error | modules
    · rw [recorded] at closed
      cases closed
    · rw [recorded] at closed
      simp only at closed ⊢
      rcases hooked : runEndBlockHooks host
          (executor.blockExecCtx context.header) modules with error | ended
      · rw [hooked] at closed
        cases closed
      · rw [hooked] at closed
        simp only at closed ⊢
        rcases rooted : executor.moduleStateRoot host context.receiptOnly parent
            ended nonces with error | ⟨trees, root⟩
        · rw [rooted] at closed
          cases closed
        · rw [rooted] at closed
          cases closed
          exact ⟨rfl, rfl, rfl, rfl⟩

variable {state : host.State}

/-- A block that executes runs its native transactions, its EVM transactions
and the end of the block. -/
theorem executeWithModules_ok
    (ran : executor.executeWithModules host state context txs parent = .ok (outcome, snapshot)) :
    ∃ native nativeKept final evmKept,
      executor.runNative host (!context.isVerification) (executor.blockExecCtx context.header) txs
          (nativeStart host state context parent) = .ok (native, nativeKept) ∧
        runEvm host (!context.isVerification) (executor.blockExecCtx context.header) txs
            ⟨⟨native.state.modules, []⟩, native.state.evm, native.ledger⟩ = .ok (final, evmKept) ∧
        executor.closeBlock host context parent native.state.nonces final
            (if !context.isVerification then
              some (nativeKept.map Prod.fst ++ evmKept.map Prod.snd)
            else none) = .ok (outcome, snapshot) := by
  unfold executeWithModules at ran
  simp only [bind, Except.bind] at ran
  split at ran
  · cases ran
  · rename_i nativeResult ranNative
    split at ran
    · cases ran
    · rename_i evmResult ranEvm
      exact ⟨nativeResult.1, nativeResult.2, evmResult.1, evmResult.2, ranNative, ranEvm, ran⟩

/-- The items a block kept are items of its list: positions read back the kept
transactions, which separate into the two kinds. -/
theorem kept_positions {lenient : Bool} {blockCtx : BlockExecCtx} {start native : NativePhase host} {evmStart final : EvmPhase host}
    {nativeKept : List (Nat × Except ExecutionError AuthenticatedNativeTx)}
    {evmKept : List (Bytes × Nat)}
    (ranNative : executor.runNative host lenient blockCtx txs start = .ok (native, nativeKept))
    (ranEvm : runEvm host lenient blockCtx txs evmStart = .ok (final, evmKept)) :
    let indices := nativeKept.map Prod.fst ++ evmKept.map Prod.snd
    let executed := indices.filterMap fun i => txs[i]?
    (∀ i ∈ indices, i < txs.length) ∧
      (executed.filter isNativeTx).map (executor.authenticateNativeTx host) =
        nativeKept.map Prod.snd ∧
      executed.filter (fun bytes => !isNativeTx bytes) =
        evmKept.map Prod.fst := by
  intro indices executed
  obtain ⟨nativeSub, nativeSublist, nativeEq⟩ :=
    List.sublist_map_iff.mp (skipLoop_kept_sublist ranNative)
  have evmSublist := skipLoop_kept_sublist ranEvm
  have positions : indices = (nativeSub ++ evmKept).map Prod.snd := by
    simp only [indices, nativeEq, List.map_map, List.map_append]
    rfl
  have inBlock : ∀ item ∈ nativeSub ++ evmKept, item ∈ txs.zipIdx := by
    intro item member
    rcases List.mem_append.mp member with nativeMember | evmMember
    · exact List.mem_of_mem_filter (nativeSublist.subset nativeMember)
    · exact List.mem_of_mem_filter (evmSublist.subset evmMember)
  have executedEq : executed = (nativeSub ++ evmKept).map Prod.fst := by
    simp only [executed, positions]
    exact filterMap_positions inBlock
  obtain ⟨nativeAgain, evmAgain⟩ := separate_kept nativeSublist evmSublist
  refine ⟨?_, ?_, ?_⟩
  · intro i member
    rw [positions] at member
    obtain ⟨item, itemMember, rfl⟩ := List.mem_map.mp member
    exact (List.getElem?_eq_some_iff.mp
      (List.mk_mem_zipIdx_iff_getElem?.mp (inBlock item itemMember))).1
  · rw [executedEq, nativeAgain, nativeEq, List.map_map, List.map_map]
    rfl
  · rw [executedEq, evmAgain]

theorem authenticated_snd (txs : List Bytes) :
    (executor.authenticated host txs).map Prod.snd =
      (txs.filter isNativeTx).map (executor.authenticateNativeTx host) := by
  rw [← nativeItems_fst, authenticated, List.map_map, List.map_map]
  rfl

/-- The transactions a builder executed, run by a verifier over the same
parent, give what the builder got. -/
theorem executeWithModules_rebuild (clean : host.RefusesCleanly) {verifying : BlockContext}
    (building : context.isVerification = false) (verification : verifying.isVerification = true)
    (sameHeader : verifying.header = context.header)
    (sameRandao : verifying.prevrandao = context.prevrandao)
    (sameMode : verifying.receiptOnly = context.receiptOnly)
    (built : executor.executeWithModules host state context txs parent = .ok (outcome, snapshot)) :
    ∃ indices, outcome.executedTxIndices = some indices ∧ (∀ i ∈ indices, i < txs.length) ∧
      executor.executeWithModules host state verifying (indices.filterMap fun i => txs[i]?) parent =
        .ok ({ outcome with executedTxIndices := none }, snapshot) := by
  obtain ⟨native, nativeKept, final, evmKept, ranNative, ranEvm, closed⟩ :=
    executeWithModules_ok executor built
  obtain ⟨bounded, nativeAgain, evmAgain⟩ := kept_positions executor ranNative ranEvm
  obtain ⟨reported, _, _, closedVerifying⟩ :=
    closeBlock_mode executor closed sameHeader sameMode none
  rw [building] at reported
  refine ⟨_, reported, bounded, ?_⟩
  have nativeReplayed := strict_of_skipLoop
    (attemptNative_skipsCleanly (executor.blockExecCtx context.header))
    ranNative ((authenticated_snd executor _).trans nativeAgain)
  have evmReplayed := strict_of_skipLoop
    (attemptEvm_skipsCleanly clean (executor.blockExecCtx context.header))
    ranEvm ((evmItems_fst _).trans evmAgain)
  have sameStart : nativeStart host state verifying parent =
      nativeStart host state context parent := by
    simp only [nativeStart, sameHeader, sameRandao]
  unfold executeWithModules runNative runEvm
  simp only [bind, Except.bind, verification, Bool.not_true, sameHeader,
    sameStart, nativeReplayed, evmReplayed, Bool.false_eq_true, if_false]
  exact closedVerifying

end VeraExecutor

end VeraHub.Executor
