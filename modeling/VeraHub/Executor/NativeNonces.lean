import VeraHub.Executor.Rebuild

/-!
# Nonces along a chain

Over a chain of blocks from genesis the executed native transactions of a
signer carry the nonces 0, 1, 2 and so on.  A call that fails takes its nonce
and nothing else, and a transaction that fails authentication or the nonce
check takes nothing.
-/

namespace VeraHub.Executor

open VeraHub.Acp (BlockExecCtx)

/-! ## Counting -/

def noncesOf (did : String) (executed : List AuthenticatedNativeTx) :
    List Nat :=
  (executed.filter fun tx => tx.signerDid = did).map fun tx =>
    tx.nativeTx.nonce.toNat

/-- The store expects of every signer the number of its transactions so far,
and these carry the nonces below it in order. -/
def Counted (nonces : NativeNonceStore) (executed : List AuthenticatedNativeTx) : Prop :=
  ∀ did, ∃ next, nonces.getNonce did = .ok next ∧ noncesOf did executed = List.range next.toNat

theorem counted_empty : Counted NativeNonceStore.empty [] := by
  intro did
  exact ⟨0, NativeNonceStore.getNonce_empty did, rfl⟩

theorem Counted.step {nonces advanced : NativeNonceStore} {executed : List AuthenticatedNativeTx}
    (counted : Counted nonces executed) (tx : AuthenticatedNativeTx)
    (checked : (NativeNonceStore.checkAndIncrement tx.signerDid
      tx.nativeTx.nonce).run nonces = (.ok (), advanced)) :
    Counted advanced (executed ++ [tx]) := by
  rcases NativeNonceStore.checkAndIncrement_cases tx.signerDid tx.nativeTx.nonce nonces with
    ⟨error, refused⟩ | ⟨stored, next, stepped, expected, succ, own, others⟩
  · rw [refused] at checked
    cases checked
  · rw [stepped] at checked
    have same : stored = advanced := (Prod.mk.inj checked).2
    subst same
    intro did
    by_cases signer : tx.signerDid = did
    · refine ⟨next, by rw [← signer]; exact own, ?_⟩
      obtain ⟨before, read, nonceList⟩ := counted did
      have sameNonce : tx.nativeTx.nonce = before := by
        rw [← signer, expected] at read
        exact Except.ok.inj read
      have extended : noncesOf did (executed ++ [tx]) =
          noncesOf did executed ++ [tx.nativeTx.nonce.toNat] := by
        simp [noncesOf, signer]
      rw [extended, nonceList, ← sameNonce, checkedSucc_toNat succ, List.range_succ]
    · obtain ⟨before, read, nonceList⟩ := counted did
      have kept : noncesOf did (executed ++ [tx]) = noncesOf did executed := by
        simp [noncesOf, signer]
      refine ⟨before, ?_, by rw [kept, nonceList]⟩
      rw [others did fun same => signer same.symm, read]

variable {executed : List AuthenticatedNativeTx}

theorem nodup_of_noncesOf (distinct : ∀ did, (noncesOf did executed).Nodup) :
    (executed.map fun tx => (tx.signerDid, tx.nativeTx.nonce)).Nodup := by
  induction executed with
  | nil => exact List.nodup_nil
  | cons tx rest ih =>
    have own : noncesOf tx.signerDid (tx :: rest) =
        tx.nativeTx.nonce.toNat :: noncesOf tx.signerDid rest := by
      simp [noncesOf]
    have fresh : tx.nativeTx.nonce.toNat ∉ noncesOf tx.signerDid rest := by
      have whole := distinct tx.signerDid
      rw [own] at whole
      exact (List.nodup_cons.mp whole).1
    rw [List.map_cons, List.nodup_cons]
    constructor
    · intro member
      obtain ⟨other, otherMember, same⟩ := List.mem_map.mp member
      obtain ⟨sameSigner, sameNonce⟩ := Prod.mk.inj same
      apply fresh
      apply List.mem_map.mpr
      refine ⟨other, List.mem_filter.mpr ⟨otherMember, ?_⟩, ?_⟩
      · exact decide_eq_true sameSigner
      · rw [sameNonce]
    · apply ih
      intro did
      have sub : (noncesOf did rest).Sublist (noncesOf did (tx :: rest)) :=
        ((List.sublist_cons_self tx rest).filter _).map _
      exact (distinct did).sublist sub

theorem Counted.nodup {nonces : NativeNonceStore} (counted : Counted nonces executed) :
    (executed.map fun tx => (tx.signerDid, tx.nativeTx.nonce)).Nodup := by
  apply nodup_of_noncesOf
  intro did
  obtain ⟨next, _, nonceList⟩ := counted did
  rw [nonceList]
  exact List.nodup_range

variable {blockCtx : BlockExecCtx} {txBytes bytes : Bytes} {lenient : Bool} {txs : List Bytes}
  {kept : List (Nat × Except ExecutionError AuthenticatedNativeTx)}
  {before : List AuthenticatedNativeTx} {context : BlockContext}

namespace VeraExecutor

variable {host : Host}

/-! ## One transaction -/

variable {phase : NativePhase host}

/-- A native transaction with a receipt passed authentication and the nonce
check, and its receipt carries its identifier. -/
theorem attemptNative_ok
    {item : Except ExecutionError AuthenticatedNativeTx} {next : NativePhase host}
    (done : (attemptNative host blockCtx item).run phase = (.ok (), next)) :
    ∃ tx, item = .ok tx ∧
      (NativeNonceStore.checkAndIncrement tx.signerDid tx.nativeTx.nonce).run
        phase.state.nonces = (.ok (), next.state.nonces) ∧
      next.ledger.receipts.map ExecutionReceipt.txHash =
        phase.ledger.receipts.map ExecutionReceipt.txHash ++ [txId host tx.nativeTx] := by
  cases item with
  | error error => cases done
  | ok tx =>
    refine ⟨tx, rfl, ?_⟩
    rcases executeAuthenticatedNativeTx_cases blockCtx tx phase.state with
      ⟨refusal, _, refused⟩ | ⟨nonces, outcome, modules, evm, checked, _, executed⟩
    · simp only [attemptNative, Exec.run] at refused done
      rw [refused] at done
      cases done
    · simp only [attemptNative, Exec.run] at executed done
      rw [executed] at done
      rcases receipted : nativeReceipt (txId host tx.nativeTx) outcome with
        error | receipt
      · rw [receipted] at done
        cases done
      · have hash : receipt.txHash = txId host tx.nativeTx := by
          cases outcome with
          | returned result =>
            cases receipted
            rfl
          | panicked =>
            cases receipted
            rfl
          | failed reason =>
            cases reason with
            | fatal message => cases receipted
            | other message =>
              cases receipted
              rfl
        rw [receipted] at done
        have nextEq := (Prod.mk.inj done).2
        subst nextEq
        constructor
        · cases outcome.succeeded with
          | true => exact checked
          | false => exact checked
        · simp [Ledger.record, hash]

theorem attemptEvm_receipts
    {phase next : EvmPhase host} {result : Except (Failure ExecutionError) Unit}
    (ran : (attemptEvm host blockCtx txBytes).run phase = (result, next)) :
    next.ledger.receipts.map ExecutionReceipt.txHash =
      phase.ledger.receipts.map ExecutionReceipt.txHash ++ (match result with
        | .ok () => [host.keccak256 txBytes]
        | .error _ => []) := by
  simp only [attemptEvm, Exec.run] at ran
  split at ran
  · cases ran
    simp
  · cases ran
    simp
  · split at ran
    · cases ran
      simp
    · split at ran
      · cases ran
        simp
      · split at ran
        · cases ran
          simp
        · split at ran
          · cases ran
            simp
          · cases ran
            simp [Ledger.record, buildReceipt]

/-! ## One block -/

variable (executor : VeraExecutor)

/-- The transactions of a list that an execution gave a receipt. -/
def executedTxs (outcome : ExecutionOutcome host) (txs : List Bytes) :
    List Bytes :=
  match outcome.executedTxIndices with
  | some indices => indices.filterMap fun i => txs[i]?
  | none => txs

/-- The native transactions of a list, authenticated. -/
def nativeTxs (host : Host) (txs : List Bytes) : List AuthenticatedNativeTx :=
  (txs.filter isNativeTx).filterMap fun bytes =>
    (executor.authenticateNativeTx host bytes).toOption

/-- The transactions behind the native items of a loop. -/
def itemTxs (items : List (Nat × Except ExecutionError AuthenticatedNativeTx)) :
    List AuthenticatedNativeTx :=
  items.filterMap fun item => item.2.toOption

variable {tx : AuthenticatedNativeTx}

theorem itemTxs_append {items : List (Nat × Except ExecutionError AuthenticatedNativeTx)}
    {item : Nat × Except ExecutionError AuthenticatedNativeTx} (itemEq : item.2 = .ok tx) :
    itemTxs (items ++ [item]) = itemTxs items ++ [tx] := by
  simp [itemTxs, itemEq, Except.toOption]

variable {start final : NativePhase host}

theorem runNative_counted
    (ran : executor.runNative host lenient blockCtx txs start = .ok (final, kept))
    (counted : Counted start.state.nonces before) :
    Counted final.state.nonces (before ++ itemTxs kept) := by
  apply skipLoop_invariant (fun phase items => Counted phase.state.nonces (before ++ itemTxs items))
    ?skip ?step ran ?initial
  case initial => simpa [itemTxs] using counted
  case skip =>
    intro item items phase next error skipped held
    rw [attemptNative_skipsCleanly blockCtx item.2 phase next error skipped]
    exact held
  case step =>
    intro item items phase next done held
    obtain ⟨tx, itemEq, checked, _⟩ := attemptNative_ok done
    rw [itemTxs_append itemEq, ← List.append_assoc]
    exact held.step tx checked

theorem runNative_receipts
    (ran : executor.runNative host lenient blockCtx txs start = .ok (final, kept))
    (noReceipts : start.ledger.receipts = []) :
    final.ledger.receipts.map ExecutionReceipt.txHash =
      (itemTxs kept).map fun tx => txId host tx.nativeTx := by
  apply skipLoop_invariant
    (fun phase items => phase.ledger.receipts.map ExecutionReceipt.txHash =
      (itemTxs items).map fun tx => txId host tx.nativeTx)
    ?skip ?step ran ?initial
  case initial =>
    rw [noReceipts]
    rfl
  case skip =>
    intro item items phase next error skipped held
    rw [attemptNative_skipsCleanly blockCtx item.2 phase next error skipped]
    exact held
  case step =>
    intro item items phase next done held
    obtain ⟨tx, itemEq, _, hashes⟩ := attemptNative_ok done
    rw [itemTxs_append itemEq, hashes, held, List.map_append]
    rfl

theorem runEvm_receipts {start final : EvmPhase host} {kept : List (Bytes × Nat)}
    (ran : runEvm host lenient blockCtx txs start = .ok (final, kept)) :
    final.ledger.receipts.map ExecutionReceipt.txHash =
      start.ledger.receipts.map ExecutionReceipt.txHash ++
        (kept.map Prod.fst).map host.keccak256 := by
  have whole := skipLoop_invariant (fun phase items =>
      phase.ledger.receipts.map ExecutionReceipt.txHash =
        start.ledger.receipts.map ExecutionReceipt.txHash ++
          (items.map Prod.fst).map host.keccak256)
    ?skip ?step ran ?initial
  case initial => simp
  case skip =>
    intro item items phase next error skipped held
    rw [attemptEvm_receipts skipped, held, List.append_nil]
  case step =>
    intro item items phase next done held
    rw [attemptEvm_receipts done, held]
    simp
  exact whole

variable {state : host.State} {parent snapshot : ModuleSnapshot host}
  {outcome : ExecutionOutcome host}

/-- The executed transactions of a block are the ones its two loops kept. -/
theorem executed_kinds
    (ran : executor.executeWithModules host state context txs parent = .ok (outcome, snapshot)) :
    ∃ native nativeKept final evmKept,
      executor.runNative host (!context.isVerification) (executor.blockExecCtx context.header) txs
          (nativeStart host state context parent) = .ok (native, nativeKept) ∧
        runEvm host (!context.isVerification) (executor.blockExecCtx context.header) txs
            ⟨⟨native.state.modules, []⟩, native.state.evm, native.ledger⟩ = .ok (final, evmKept) ∧
        snapshot.nonces = native.state.nonces ∧ outcome.receipts = final.ledger.receipts ∧
        executor.nativeTxs host (executedTxs outcome txs) = itemTxs nativeKept ∧
        (executedTxs outcome txs).filter (fun bytes => !isNativeTx bytes) =
          evmKept.map Prod.fst := by
  obtain ⟨native, nativeKept, final, evmKept, ranNative, ranEvm, closed⟩ :=
    executeWithModules_ok executor ran
  obtain ⟨reported, receiptsEq, noncesEq, _⟩ := closeBlock_mode executor closed rfl rfl none
  refine ⟨native, nativeKept, final, evmKept, ranNative, ranEvm, noncesEq, receiptsEq, ?_⟩
  have asItems : ∀ list : List Bytes,
      (list.filter isNativeTx).map (executor.authenticateNativeTx host) = nativeKept.map Prod.snd →
        executor.nativeTxs host list = itemTxs nativeKept := by
    intro list same
    have projected := congrArg (List.filterMap Except.toOption) same
    rw [List.filterMap_map, List.filterMap_map] at projected
    exact projected
  unfold executedTxs
  rw [reported]
  cases mode : context.isVerification with
  | false =>
    rw [mode] at ranNative ranEvm
    obtain ⟨_, nativeAgain, evmAgain⟩ := kept_positions executor ranNative ranEvm
    exact ⟨asItems _ nativeAgain, evmAgain⟩
  | true =>
    rw [mode] at ranNative ranEvm
    constructor
    · apply asItems txs
      rw [strict_kept ranNative, authenticated_snd]
    · rw [strict_kept ranEvm, evmItems_fst]
      rfl

theorem executeWithModules_counted
    (ran : executor.executeWithModules host state context txs parent = .ok (outcome, snapshot))
    (counted : Counted parent.nonces before) :
    Counted snapshot.nonces (before ++ executor.nativeTxs host (executedTxs outcome txs)) := by
  obtain ⟨native, nativeKept, _, _, ranNative, _, noncesEq, _, nativeEq, _⟩ :=
    executed_kinds executor ran
  rw [noncesEq, nativeEq]
  exact runNative_counted executor ranNative counted

theorem executeWithModules_receipts
    (ran : executor.executeWithModules host state context txs parent = .ok (outcome, snapshot)) :
    outcome.receipts.map ExecutionReceipt.txHash =
      (executor.nativeTxs host (executedTxs outcome txs)).map (fun tx => txId host tx.nativeTx) ++
        ((executedTxs outcome txs).filter fun bytes =>
          !isNativeTx bytes).map host.keccak256 := by
  obtain ⟨native, nativeKept, final, evmKept, ranNative, ranEvm, _, receiptsEq,
    nativeEq, evmEq⟩ := executed_kinds executor ran
  rw [receiptsEq, nativeEq, evmEq, runEvm_receipts ranEvm,
    runNative_receipts executor ranNative rfl]

/-! ## A chain of blocks -/

/-- A block to execute: the account state it runs on, its context and its
transactions. -/
structure ChainBlock (host : Host) where
  state : host.State
  context : BlockContext
  txs : List Bytes

/-- Execute blocks one after another, each over the modules its parent left;
the executed native transactions come along in order. -/
def runChain (host : Host) :
    List (ChainBlock host) → ModuleSnapshot host →
      Except ExecutionError (ModuleSnapshot host × List AuthenticatedNativeTx)
  | [], parent => .ok (parent, [])
  | block :: rest, parent =>
    match executor.executeWithModules host block.state block.context block.txs parent with
    | .error error => .error error
    | .ok (outcome, snapshot) =>
      match runChain host rest snapshot with
      | .error error => .error error
      | .ok (final, executed) =>
        .ok (final, executor.nativeTxs host (executedTxs outcome block.txs) ++ executed)

theorem runChain_counted {blocks : List (ChainBlock host)} {final : ModuleSnapshot host}
    (ran : executor.runChain host blocks parent = .ok (final, executed))
    (counted : Counted parent.nonces before) : Counted final.nonces (before ++ executed) := by
  induction blocks generalizing parent before executed with
  | nil =>
    cases ran
    rw [List.append_nil]
    exact counted
  | cons block rest ih =>
    unfold runChain at ran
    rcases executedBlock : executor.executeWithModules host block.state
        block.context block.txs parent with error | ⟨outcome, snapshot⟩
    · rw [executedBlock] at ran
      cases ran
    rw [executedBlock] at ran
    simp only at ran
    rcases executedRest : executor.runChain host rest snapshot with
      error | ⟨last, later⟩
    · rw [executedRest] at ran
      cases ran
    rw [executedRest] at ran
    cases ran
    have blockCounted := executeWithModules_counted executor executedBlock counted
    rw [← List.append_assoc]
    exact ih executedRest blockCounted

/-! ## Failed calls -/

/-- Finalizing the interpreter's journal finds nothing to do. -/
def Settled (host : Host) (evm : host.Evm) : Prop :=
  (host.finalizeNative evm).2 = evm ∧
    ∀ changes, host.mergeChanges changes (host.extractChanges (host.finalizeNative evm).1) = changes

/-- A fresh journal is empty, and so is a finalized one. -/
structure FinalizesOnce (host : Host) : Prop where
  fresh : ∀ (state : host.State) (header : Header) (prevrandao : Bytes),
    Settled host (host.newContext state header prevrandao)
  again : ∀ evm : host.Evm, Settled host (host.finalizeNative evm).2

theorem runNative_settled (finalizes : FinalizesOnce host)
    (ran : executor.runNative host lenient blockCtx txs start = .ok (final, kept))
    (initial : Settled host start.state.evm) :
    Settled host final.state.evm := by
  apply skipLoop_invariant (fun phase _ => Settled host phase.state.evm) ?skip ?step ran initial
  case skip =>
    intro item items phase next error skipped held
    rw [attemptNative_skipsCleanly blockCtx item.2 phase next error skipped]
    exact held
  case step =>
    intro item items phase next done _
    obtain ⟨tx, itemEq, _, _⟩ := attemptNative_ok done
    simp only [itemEq, attemptNative, Exec.run] at done
    split at done
    · cases done
    · cases done
      exact finalizes.again _

/-- Of a transaction only the nonce of its signer is left. -/
structure OnlyNonceAdvanced (tx : AuthenticatedNativeTx)
    (before after : NativePhase host) : Prop where
  modules : after.state.modules = before.state.modules
  evm : after.state.evm = before.state.evm
  changes : after.ledger.changes = before.ledger.changes
  signer : ∃ next, before.state.nonces.getNonce tx.signerDid =
      .ok tx.nativeTx.nonce ∧ checkedSucc tx.nativeTx.nonce = some next ∧
    after.state.nonces.getNonce tx.signerDid = .ok next
  others : ∀ did, did ≠ tx.signerDid →
    after.state.nonces.getNonce did = before.state.nonces.getNonce did

theorem failed_call_onlyNonceAdvanced (blockCtx : BlockExecCtx)
    (settled : Settled host phase.state.evm) {advanced : NativeNonceStore}
    (checked : (NativeNonceStore.checkAndIncrement tx.signerDid
      tx.nativeTx.nonce).run phase.state.nonces = (.ok (), advanced))
    (failed : (dispatchNative host blockCtx
      ⟨tx.nativeTx.nonce, txId host tx.nativeTx, tx.signerDid⟩ tx.nativeTx
      phase.state.modules phase.state.evm).1.succeeded = false) :
    OnlyNonceAdvanced tx phase ((attemptNative host blockCtx (.ok tx)).run phase).2 := by
  rcases NativeNonceStore.checkAndIncrement_cases tx.signerDid
      tx.nativeTx.nonce phase.state.nonces with
    ⟨error, refused⟩ | ⟨stored, next, stepped, expected, succ, own, others⟩
  · rw [refused] at checked
    cases checked
  rcases executeAuthenticatedNativeTx_cases blockCtx tx phase.state with
    ⟨refusal, refused, _⟩ | ⟨nonces, outcome, modules, evm, nonceChecked, dispatched, executed⟩
  · rw [refused] at checked
    cases checked
  rw [stepped] at nonceChecked
  have sameNonces : stored = nonces := (Prod.mk.inj nonceChecked).2
  subst sameNonces
  rw [dispatched] at failed
  simp only [Exec.run] at executed
  have restored : executeAuthenticatedNativeTx host blockCtx tx phase.state =
      (nativeReceipt (txId host tx.nativeTx) outcome,
        ⟨phase.state.modules, stored, phase.state.evm⟩) := by
    rw [executed, failed]
    rfl
  have left : ((attemptNative host blockCtx (.ok tx)).run phase).2.state =
        ⟨phase.state.modules, stored, phase.state.evm⟩ ∧
      ((attemptNative host blockCtx (.ok tx)).run phase).2.ledger.changes =
        phase.ledger.changes := by
    simp only [attemptNative, Exec.run, restored]
    cases nativeReceipt (txId host tx.nativeTx) outcome with
    | error error => exact ⟨rfl, rfl⟩
    | ok receipt =>
      constructor
      · simp only [settled.1]
      · exact settled.2 phase.ledger.changes
  obtain ⟨stateEq, changesEq⟩ := left
  constructor
  · rw [stateEq]
  · rw [stateEq]
  · exact changesEq
  · exact ⟨next, expected, succ, by rw [stateEq]; exact own⟩
  · intro did different
    rw [stateEq]
    exact others did different

/-! ## Refused transactions -/

/-- Authentication fails, or else the nonce check does. -/
def Refused (nonces : NativeNonceStore)
    (result : Except ExecutionError AuthenticatedNativeTx) : Prop :=
  ∀ tx, result = .ok tx → ∃ error,
    (NativeNonceStore.checkAndIncrement tx.signerDid
      tx.nativeTx.nonce).run nonces = (.error error, nonces)

theorem authenticateNativeTx_error {error : ExecutionError}
    (failed : executor.authenticateNativeTx host txBytes = .error error) :
    nativeFailure error = .skip error := by
  unfold authenticateNativeTx at failed
  split at failed
  · cases failed
    rfl
  · split at failed
    · cases failed
      rfl
    · split at failed
      · cases failed
        rfl
      · split at failed
        · cases failed
        · cases failed
          rfl

theorem refused_skipped (blockCtx : BlockExecCtx)
    (refused : Refused phase.state.nonces (executor.authenticateNativeTx host txBytes)) :
    ∃ error, (attemptNative host blockCtx
      (executor.authenticateNativeTx host txBytes)).run phase = (.error (.skip error), phase) := by
  rcases authentic : executor.authenticateNativeTx host txBytes with
    error | tx
  · refine ⟨error, ?_⟩
    simp only [attemptNative, Exec.run, authenticateNativeTx_error executor authentic]
  · obtain ⟨nonceError, nonceRefused⟩ := refused tx authentic
    rcases executeAuthenticatedNativeTx_cases blockCtx tx phase.state with
      ⟨refusal, _, failed⟩ | ⟨nonces, _, _, _, checked, _, _⟩
    · refine ⟨nonceFailure refusal, ?_⟩
      simp only [attemptNative, Exec.run] at failed ⊢
      simp only [failed, nativeFailure_nonceFailure]
    · rw [nonceRefused] at checked
      cases checked

theorem runNative_fst (lenient : Bool) (blockCtx : BlockExecCtx)
    (txs : List Bytes) (start : NativePhase host) :
    (executor.runNative host lenient blockCtx txs start).map Prod.fst =
      (skipLoop lenient (attemptNative host blockCtx)
        ((txs.filter isNativeTx).map (executor.authenticateNativeTx host)) start).map Prod.fst := by
  rw [← authenticated_snd]
  exact skipLoop_view Prod.snd _ _ _

theorem runNative_ok
    (ran : executor.runNative host lenient blockCtx txs start = .ok (final, kept)) :
    ∃ keptResults, skipLoop lenient (attemptNative host blockCtx)
      ((txs.filter isNativeTx).map (executor.authenticateNativeTx host))
      start = .ok (final, keptResults) := by
  have same := runNative_fst executor lenient blockCtx txs start
  rw [ran] at same
  rcases looped : skipLoop lenient (attemptNative host blockCtx)
      ((txs.filter isNativeTx).map (executor.authenticateNativeTx host))
      start with error | ⟨reached, keptResults⟩
  · rw [looped] at same
    cases same
  · rw [looped] at same
    cases same
    exact ⟨keptResults, rfl⟩

theorem native_results_append (native : isNativeTx bytes) (before after : List Bytes) :
    ((before ++ bytes :: after).filter isNativeTx).map (executor.authenticateNativeTx host) =
      (before.filter isNativeTx).map (executor.authenticateNativeTx host) ++
        executor.authenticateNativeTx host bytes ::
          (after.filter isNativeTx).map (executor.authenticateNativeTx host) := by
  simp [List.filter_append, native]

variable {before : List Bytes}

theorem refused_building
    (ran : executor.runNative host true blockCtx before start = .ok (phase, kept))
    (native : isNativeTx bytes)
    (refused : Refused phase.state.nonces (executor.authenticateNativeTx host bytes))
    (after : List Bytes) :
    (executor.runNative host true blockCtx (before ++ bytes :: after) start).map Prod.fst =
      (executor.runNative host true blockCtx (before ++ after) start).map Prod.fst := by
  obtain ⟨keptResults, looped⟩ := runNative_ok executor ran
  obtain ⟨error, skipped⟩ := refused_skipped executor blockCtx refused
  rw [runNative_fst, runNative_fst, native_results_append executor native,
    skipLoop_drop_skipped looped skipped, List.filter_append, List.map_append]

theorem refused_verification (verification : context.isVerification = true)
    (ran : executor.runNative host false (executor.blockExecCtx context.header) before
        (nativeStart host state context parent) = .ok (phase, kept)) (native : isNativeTx bytes)
    (refused : Refused phase.state.nonces (executor.authenticateNativeTx host bytes))
    (after : List Bytes) :
    ∃ error, executor.executeWithModules host state context
      (before ++ bytes :: after) parent = .error error := by
  obtain ⟨keptResults, looped⟩ := runNative_ok executor ran
  obtain ⟨error, skipped⟩ := refused_skipped executor (executor.blockExecCtx context.header) refused
  rcases executed : executor.executeWithModules host state context
      (before ++ bytes :: after) parent with failure | ⟨outcome, snapshot⟩
  · exact ⟨failure, rfl⟩
  · exfalso
    obtain ⟨last, lastKept, _, _, ranNative, _⟩ := executeWithModules_ok executor executed
    rw [verification, Bool.not_true] at ranNative
    obtain ⟨allKept, through⟩ := runNative_ok executor ranNative
    rw [native_results_append executor native, skipLoop_strict_skipped looped skipped] at through
    cases through

end VeraExecutor

open VeraExecutor

/-- Along a chain from genesis the executed native transactions of each signer
count up from zero, and are those with a receipt; a call that fails moves
nothing but the nonce of its signer; and a transaction that fails
authentication or the nonce check moves nothing, is passed over by a builder
and makes a verifier reject the block. -/
theorem native_nonces_count_up {host : Host} (finalizes : FinalizesOnce host)
    (executor : VeraExecutor) :
    (∀ (blocks : List (ChainBlock host)) (genesis final : ModuleSnapshot host)
      (executed : List AuthenticatedNativeTx), genesis.nonces = NativeNonceStore.empty →
      executor.runChain host blocks genesis = .ok (final, executed) →
        (∀ did, noncesOf did executed = List.range (noncesOf did executed).length) ∧
        (executed.map fun tx => (tx.signerDid, tx.nativeTx.nonce)).Nodup) ∧
    (∀ (block : ChainBlock host) (parent snapshot : ModuleSnapshot host)
      (outcome : ExecutionOutcome host),
      executor.executeWithModules host block.state block.context block.txs
          parent = .ok (outcome, snapshot) →
        outcome.receipts.map ExecutionReceipt.txHash =
          (executor.nativeTxs host (executedTxs outcome block.txs)).map
              (fun tx => txId host tx.nativeTx) ++
            ((executedTxs outcome block.txs).filter fun bytes =>
              !isNativeTx bytes).map host.keccak256) ∧
    (∀ (state : host.State) (context : BlockContext) (before : List Bytes)
      (parent : ModuleSnapshot host) (phase : NativePhase host)
      (kept : List (Nat × Except ExecutionError AuthenticatedNativeTx)),
      executor.runNative host (!context.isVerification)
          (executor.blockExecCtx context.header) before
          (nativeStart host state context parent) = .ok (phase, kept) →
        (∀ (tx : AuthenticatedNativeTx) (advanced : NativeNonceStore),
          (NativeNonceStore.checkAndIncrement tx.signerDid
              tx.nativeTx.nonce).run phase.state.nonces = (.ok (), advanced) →
          (dispatchNative host (executor.blockExecCtx context.header)
            ⟨tx.nativeTx.nonce, txId host tx.nativeTx, tx.signerDid⟩ tx.nativeTx phase.state.modules
            phase.state.evm).1.succeeded = false →
          OnlyNonceAdvanced tx phase
            ((attemptNative host (executor.blockExecCtx context.header) (.ok tx)).run phase).2) ∧
        (∀ (bytes : Bytes) (after : List Bytes), isNativeTx bytes = true →
          Refused phase.state.nonces (executor.authenticateNativeTx host bytes) →
            ((attemptNative host (executor.blockExecCtx context.header)
              (executor.authenticateNativeTx host bytes)).run phase).2 = phase ∧
            (context.isVerification = false →
              (executor.runNative host true (executor.blockExecCtx context.header)
                  (before ++ bytes :: after) (nativeStart host state context parent)).map Prod.fst =
                (executor.runNative host true
                  (executor.blockExecCtx context.header) (before ++ after)
                  (nativeStart host state context parent)).map Prod.fst) ∧
            (context.isVerification = true →
              ∃ error, executor.executeWithModules host state context
                (before ++ bytes :: after) parent = .error error))) := by
  refine ⟨?_, ?_, ?_⟩
  · intro blocks genesis final executed fresh ran
    have initial : Counted genesis.nonces [] := by
      rw [fresh]
      exact counted_empty
    have counted := runChain_counted executor ran initial
    rw [List.nil_append] at counted
    refine ⟨?_, counted.nodup⟩
    intro did
    obtain ⟨next, _, nonceList⟩ := counted did
    rw [nonceList, List.length_range]
  · intro block parent snapshot outcome executedBlock
    exact executeWithModules_receipts executor executedBlock
  · intro state context before parent phase kept ran
    have settled : Settled host phase.state.evm :=
      runNative_settled executor finalizes ran (finalizes.fresh _ _ _)
    constructor
    · intro tx advanced checked failed
      exact failed_call_onlyNonceAdvanced _ settled checked failed
    · intro bytes after native refused
      obtain ⟨error, skipped⟩ := refused_skipped executor
        (executor.blockExecCtx context.header) refused
      refine ⟨by rw [skipped], ?_, ?_⟩
      · intro building
        rw [building] at ran
        exact refused_building executor ran native refused after
      · intro verification
        rw [verification] at ran
        exact refused_verification executor verification ran native refused after

/-! Two empty calls of the access control module with the nonces 0 and 1,
signed with the secret key 1: the module refuses a call without a selector. -/

def signerPubkey : Bytes :=
  [0x97, 0xf1, 0xd3, 0xa7, 0x31, 0x97, 0xd7, 0x94, 0x26, 0x95, 0x63, 0x8c,
    0x4f, 0xa9, 0xac, 0x0f, 0xc3, 0x68, 0x8c, 0x4f, 0x97, 0x74, 0xb9, 0x05,
    0xa1, 0x4e, 0x3a, 0x3f, 0x17, 0x1b, 0xac, 0x58, 0x6c, 0x55, 0xe8, 0x3f,
    0xf9, 0x7a, 0x1a, 0xef, 0xfb, 0x3a, 0xf0, 0x0a, 0xdb, 0x22, 0xc6, 0xbb]

def signerDid : String :=
  "did:key:z3tEFUdV4D3tCMG6Fr1deVvt32DCS1Y4SxDGoELedXaMUdTdr5FfZvBnbK9bWMhAGj3RHk"

def firstSignature : Bytes :=
  [0xb3, 0x66, 0xe9, 0x36, 0x8f, 0x04, 0x02, 0x5e, 0x83, 0xc4, 0xa3, 0xf7,
    0x29, 0x2b, 0x81, 0x6f, 0x08, 0x22, 0x7d, 0xa3, 0x4a, 0x44, 0xcc, 0x2b,
    0x08, 0xc1, 0x48, 0xe4, 0x16, 0xbe, 0x37, 0x4e, 0xa3, 0xad, 0xee, 0xb9,
    0x5b, 0xd6, 0xac, 0x75, 0x6f, 0x2b, 0xc2, 0x98, 0x63, 0x3b, 0xc4, 0x6b,
    0x00, 0x29, 0x51, 0x99, 0x8a, 0x51, 0xc4, 0xb9, 0xfe, 0xee, 0xeb, 0xc4,
    0xd2, 0xa0, 0x6b, 0x5e, 0xad, 0x79, 0x61, 0xb9, 0x04, 0xe5, 0x88, 0xb2,
    0x95, 0x14, 0x66, 0xb4, 0x35, 0xca, 0xf4, 0xbc, 0xc4, 0x98, 0x85, 0x14,
    0xfa, 0x00, 0x04, 0xb8, 0x58, 0x41, 0x30, 0x13, 0x77, 0xb4, 0xe6, 0x53]

def secondSignature : Bytes :=
  [0x86, 0x3c, 0x9d, 0x50, 0xd7, 0x00, 0x6f, 0xd9, 0x83, 0xb6, 0x24, 0x20,
    0x7b, 0xf6, 0xcb, 0xdb, 0xf5, 0x69, 0x92, 0x88, 0x0e, 0x60, 0xfd, 0x79,
    0xb7, 0xa6, 0xd9, 0x6f, 0x32, 0x21, 0x22, 0xc0, 0xa3, 0x33, 0x09, 0x36,
    0xe5, 0x1f, 0x43, 0x2f, 0x12, 0x22, 0x35, 0x89, 0xb0, 0x60, 0xea, 0x41,
    0x18, 0x13, 0x30, 0x0f, 0x18, 0x1e, 0xd2, 0x80, 0x3c, 0x64, 0x93, 0x8d,
    0x38, 0x87, 0x1c, 0x67, 0xfa, 0x8f, 0xfb, 0xa0, 0x4d, 0xf9, 0x9a, 0x7c,
    0x3e, 0x15, 0x6a, 0x01, 0xe0, 0xd7, 0x98, 0xca, 0x63, 0x40, 0x87, 0xda,
    0xe4, 0x42, 0x14, 0x65, 0xe6, 0xc3, 0x19, 0xb8, 0xee, 0xa5, 0x88, 0xeb]

def emptyCall (nonce : UInt64) (signature : Bytes) : NativeTx where
  chainId := 9001
  nonce := nonce
  blsPubkey := signerPubkey
  target := acpAddress
  calldata := []
  signature := signature

/-- The fields of an empty call before its signature, in their encoding. -/
def emptyCallFields (nonceByte : UInt8) : Bytes :=
  [0x82, 0x23, 0x29, nonceByte, 0xb0] ++ signerPubkey ++
    0x94 :: List.replicate 18 0 ++ [0x08, 0x10, 0x80]

def firstCall : Bytes :=
  [nativeTxType, 0xf8, 0xad] ++ emptyCallFields 0x80 ++ 0xb8 :: 0x60 :: firstSignature

def secondCall : Bytes :=
  [nativeTxType, 0xf8, 0xad] ++ emptyCallFields 0x01 ++ 0xb8 :: 0x60 :: secondSignature

def firstCallHash : Bytes :=
  [0x46, 0xd1, 0x0b, 0xd7, 0x5b, 0xda, 0x53, 0xbc, 0xb1, 0x1f, 0x83, 0x9d,
    0xa8, 0x45, 0x65, 0x3c, 0x58, 0x6b, 0x49, 0xbe, 0xfc, 0x6a, 0xb7, 0x5e,
    0x66, 0x1a, 0xe8, 0x8b, 0x85, 0x38, 0xb1, 0xf1]

def secondCallHash : Bytes :=
  [0xbc, 0x95, 0xa1, 0x3d, 0x6b, 0x60, 0xf7, 0x2f, 0xa0, 0xb5, 0x49, 0x52,
    0x5e, 0x48, 0xf5, 0x41, 0xe5, 0x17, 0x33, 0xf7, 0x4d, 0x20, 0x2b, 0x59,
    0x76, 0xac, 0xf3, 0x67, 0x53, 0xe8, 0x66, 0x3d]

def emptyCallHost : Host where
  Modules := Unit
  Evm := Unit
  EvmTx := Unit
  StateDiff := Unit
  Changes := Unit
  Log := Unit
  State := Unit
  Trees := Unit
  decodeRlp := fun bytes =>
    if nativeTxType :: bytes = firstCall then .ok (emptyCall 0 firstSignature)
    else if nativeTxType :: bytes = secondCall then
      .ok (emptyCall 1 secondSignature)
    else .error "input too short"
  encodePayload := fun tx =>
    [0xf8, 0x4b] ++ emptyCallFields (if tx.nonce = 0 then 0x80 else 0x01)
  keccak256 := fun bytes =>
    if bytes = [nativeTxType, 0xf8, 0x4b] ++ emptyCallFields 0x80 then
      firstCallHash
    else secondCallHash
  verifyAndIdentify := fun pubkey data signature =>
    if pubkey = signerPubkey ∧
        (data = [nativeTxType, 0xf8, 0x4b] ++ emptyCallFields 0x80 ∧ signature = firstSignature ∨
          data = [nativeTxType, 0xf8, 0x4b] ++ emptyCallFields 0x01 ∧
            signature = secondSignature) then
      .ok signerDid
    else .error "invalid signature"
  sharesValues := fun _ _ => true
  dispatchToModule := fun _ _ _ _ _ modules =>
    (.failed (.other "input too short for selector"), modules)
  dispatchRegistry := fun _ _ _ _ evm =>
    (.failed (.other "input too short for selector"), evm)
  newContext := fun _ _ _ => ()
  finalizeNative := fun evm => ((), evm)
  decodeEvmTx := fun _ => .error (.txDecode "unexpected string")
  txEnv := fun _ => ⟨0, 0⟩
  inspectTx := fun _ _ => .done (.error "Transaction(NonceTooLow)", ())
  commit := fun _ evm => evm
  extractChanges := fun _ => ()
  noChanges := ()
  mergeChanges := fun _ _ => ()
  activeConsensusKeys := fun _ => .ok []
  recordConsensusRoster := fun _ _ modules => .ok modules
  acpEndBlocker := fun _ modules => .ok modules
  checkAndUpdateExpiredTokens := fun _ modules => .ok modules
  stateRoot := fun _ _ => []
  prepareTrees := fun trees _ _ => .ok (trees, [])

def emptyCallExecutor : VeraExecutor :=
  ⟨9001, List.replicate 32 0, none, false⟩

def emptyCallBlock (height : UInt64) (isVerification : Bool)
    (txs : List Bytes) : ChainBlock emptyCallHost :=
  ⟨(), ⟨⟨height, 1600000000, 30000000, 0, some 0⟩, List.replicate 32 0,
    isVerification, true, none⟩, txs⟩

def emptyCallGenesis : ModuleSnapshot emptyCallHost :=
  ⟨(), NativeNonceStore.empty, none⟩

/-- Two blocks, the second one with the transaction of the first again. -/
def emptyCallChain : List (ChainBlock emptyCallHost) :=
  [emptyCallBlock 1 false [firstCall], emptyCallBlock 2 false [firstCall, secondCall]]

def emptyCallStart : NativePhase emptyCallHost :=
  nativeStart emptyCallHost () (emptyCallBlock 1 true []).context emptyCallGenesis

theorem native_nonces_of_empty_calls :
    (∃ final executed,
      emptyCallExecutor.runChain emptyCallHost emptyCallChain
          emptyCallGenesis = .ok (final, executed) ∧ noncesOf signerDid executed = [0, 1] ∧
        (executed.map fun tx => (tx.signerDid, tx.nativeTx.nonce)).Nodup) ∧
    OnlyNonceAdvanced ⟨emptyCall 0 firstSignature, signerDid⟩ emptyCallStart
      ((attemptNative emptyCallHost
        (emptyCallExecutor.blockExecCtx (emptyCallBlock 1 true []).context.header)
        (.ok ⟨emptyCall 0 firstSignature, signerDid⟩)).run emptyCallStart).2 ∧
    (∃ error, emptyCallExecutor.executeWithModules emptyCallHost ()
      (emptyCallBlock 1 true []).context [secondCall] emptyCallGenesis =
        .error error) := by
  have finalizes : FinalizesOnce emptyCallHost :=
    ⟨fun _ _ _ => ⟨rfl, fun _ => rfl⟩, fun _ => ⟨rfl, fun _ => rfl⟩⟩
  have counts := native_nonces_count_up finalizes emptyCallExecutor
  have runs : (emptyCallExecutor.runChain emptyCallHost emptyCallChain
      emptyCallGenesis).toOption.map (fun result =>
        noncesOf signerDid result.2) = some [0, 1] := by
    decide +kernel
  have passes : ((NativeNonceStore.checkAndIncrement signerDid 0).run
      NativeNonceStore.empty).1.toOption = some () := by
    decide +kernel
  have started := counts.2.2 () (emptyCallBlock 1 true []).context []
    emptyCallGenesis emptyCallStart [] rfl
  refine ⟨?_, ?_, ?_⟩
  · rcases ran : emptyCallExecutor.runChain emptyCallHost emptyCallChain
        emptyCallGenesis with error | ⟨final, executed⟩
    · rw [ran] at runs
      cases runs
    · rw [ran] at runs
      have counted := counts.1 _ _ _ _ rfl ran
      exact ⟨final, executed, rfl, Option.some.inj runs, counted.2⟩
  · rcases checked : (NativeNonceStore.checkAndIncrement signerDid 0).run
        NativeNonceStore.empty with ⟨result, advanced⟩
    rw [checked] at passes
    cases result with
    | error error => cases passes
    | ok value => exact started.1 _ advanced checked rfl
  · have authentic : emptyCallExecutor.authenticateNativeTx emptyCallHost
        secondCall = .ok ⟨emptyCall 1 secondSignature, signerDid⟩ := by
      decide +kernel
    have refused : Refused emptyCallStart.state.nonces
        (emptyCallExecutor.authenticateNativeTx emptyCallHost secondCall) := by
      intro tx sameTx
      rw [authentic] at sameTx
      cases sameTx
      exact ⟨.mismatch signerDid 0 1, rfl⟩
    have rejected := (started.2 secondCall [] (by decide +kernel) refused).2.2 rfl
    rw [List.nil_append] at rejected
    exact rejected

end VeraHub.Executor
