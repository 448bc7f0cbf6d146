import VeraHub.Executor.Rebuild

/-!
# Proposing and re-executing blocks

A proposer executes candidate transactions over its parent, keeps the executed
ones and commits to the result.  Every node executes the block again over the
same parent and compares the commitments.  Two storage layouts are in use: one
takes the module root from execution, the other from its own databases.
-/

namespace VeraHub.App

open VeraHub.Executor

inductive AppError where
  | execution (error : ExecutionError)
  | storage (message : String)
  | rootMismatch (what : String)
deriving DecidableEq

structure ConsensusContext where
  epoch : UInt64
  view : UInt64
  leader : Bytes
  parent : Bytes
deriving DecidableEq

/-- A block; targets stand as their encodings. -/
structure Block where
  context : ConsensusContext
  parent : Bytes
  height : UInt64
  timestamp : UInt64
  prevrandao : Bytes
  stateRoot : Bytes
  moduleStateRoot : Bytes
  txs : List Bytes
  payload : Bytes
  nativeTargets : Option Bytes
  receiptCommitment : Option Bytes
  dbTargets : Bytes
deriving DecidableEq

/-! ## Storage layouts -/

/-- The storage a node executes on: `prepareNative` is there when the module
records have databases of their own. -/
structure Storage (host : Host) where
  Batches : Type
  Merkleized : Type
  state : Batches → host.State
  modules : Batches → ModuleSnapshot host
  merkleize : Batches → host.Changes → Except String Merkleized
  combinedRoot : Merkleized → Bytes
  dbTargets : Merkleized → Bytes
  prepareNative : Option (Batches → (parent modules : ModuleSnapshot host) →
    Except String (Bytes × Bytes))

/-- Executed commitments and receipts, with the batches to apply. -/
structure StateExecution (host : Host) (storage : Storage host) where
  merkleized : storage.Merkleized
  modules : ModuleSnapshot host
  stateRoot : Bytes
  dbTargets : Bytes
  nativeTargets : Option Bytes
  outcome : ExecutionOutcome host

namespace Storage

variable {host : Host} (storage : Storage host)

/-- Whether the block carries commitments for this storage layout. -/
def accepts (block : Block) : Bool :=
  match storage.prepareNative with
  | none => block.nativeTargets.isNone
  | some _ => block.nativeTargets.isSome && block.receiptCommitment.isSome

/-- Run the transactions on the parent's batches and merkleize the changes. -/
def executeBlock (executor : VeraExecutor) (batches : storage.Batches)
    (context : BlockContext) (txs : List Bytes) :
    Except AppError (StateExecution host storage) :=
  match executor.executeWithModules host (storage.state batches) context txs
      (storage.modules batches) with
  | .error error => .error (.execution error)
  | .ok (outcome, modules) =>
    match storage.merkleize batches outcome.changes with
    | .error message => .error (.storage message)
    | .ok merkleized =>
      .ok {
        merkleized := merkleized
        modules := modules
        stateRoot := storage.combinedRoot merkleized
        dbTargets := storage.dbTargets merkleized
        nativeTargets := none
        outcome := outcome }

/-- Execute and seal a block; databases of the modules give the module root,
which must be the expected one. -/
def execute (executor : VeraExecutor) (batches : storage.Batches)
    (context : BlockContext) (txs : List Bytes) :
    Except AppError (StateExecution host storage) :=
  match storage.prepareNative with
  | none => storage.executeBlock executor batches context txs
  | some prepare =>
    match storage.executeBlock executor batches context.withReceiptOnly txs with
    | .error error => .error error
    | .ok executed =>
      match prepare batches (storage.modules batches) executed.modules with
      | .error message => .error (.storage message)
      | .ok (targets, root) =>
        if context.expectedModuleStateRoot.any (· != root) then
          .error (.rootMismatch "ordered module state")
        else
          .ok { executed with
            nativeTargets := some targets
            outcome := { executed.outcome with moduleStateRoot := root } }

end Storage

/-! ## The application -/

/-- What all nodes of a deployment share. -/
structure Deployment (host : Host) where
  executor : VeraExecutor
  gasLimit : UInt64
  participantAddresses : List (Bytes × Address)
  receiptCommitment : UInt64 → List (ExecutionReceipt host.Log) → Bytes

/-- A node's application: its own clock, seeds and limits come on top of the
deployment. -/
structure StatefulVeraApp (host : Host) extends Deployment host where
  nativePipeline : Bool
  vrfSeed : (epoch view : UInt64) → Option Bytes
  blockId : Block → Bytes
  fitsWireLimits : Block → Bool

namespace StatefulVeraApp

variable {host : Host} (app : StatefulVeraApp host) (storage : Storage host)

def roundPrevrandao (context : ConsensusContext) : Option Bytes :=
  if app.nativePipeline || context.view ≤ 1 then some (List.replicate 32 0)
  else app.vrfSeed context.epoch context.view

def beneficiaryFor (leader : Bytes) : Address :=
  (app.participantAddresses.find? fun entry => entry.1 == leader).elim 0 Prod.snd

def blockContext (height timestamp : UInt64) (prevrandao leader : Bytes) : BlockContext where
  header := {
    number := height
    timestamp := timestamp
    gasLimit := app.gasLimit
    beneficiary := app.beneficiaryFor leader
    baseFeePerGas := some 0 }
  prevrandao := prevrandao
  isVerification := false
  receiptOnly := false
  expectedModuleStateRoot := none

/-- Execute a block again and compare every commitment it carries. -/
def reExecute (block : Block) (batches : storage.Batches) :
    Except AppError (storage.Merkleized × ModuleSnapshot host) :=
  if storage.accepts block = false then
    .error (.rootMismatch "storage layout")
  else
    let context := (app.blockContext block.height block.timestamp block.prevrandao
      block.context.leader).withVerification.withExpectedModuleStateRoot block.moduleStateRoot
    match storage.execute app.executor batches context block.txs with
    | .error error => .error error
    | .ok executed =>
      if executed.stateRoot ≠ block.stateRoot then
        .error (.rootMismatch "state root")
      else if executed.outcome.moduleStateRoot ≠ block.moduleStateRoot then
        .error (.rootMismatch "module state root")
      else if executed.dbTargets ≠ block.dbTargets ∨
          executed.nativeTargets ≠ block.nativeTargets then
        .error (.rootMismatch "db targets")
      else if block.receiptCommitment.any fun expected =>
          app.receiptCommitment app.gasLimit executed.outcome.receipts != expected then
        .error (.rootMismatch "execution receipts")
      else .ok (executed.merkleized, executed.modules)

/-- The candidates of the mempool that a proposal executes. -/
def proposalTxs (candidates : List Bytes) : List Bytes :=
  if app.nativePipeline then candidates.filter isNativeTx else candidates

/-- The block over a parent that commits to an execution. -/
def assembleBlock {storage : Storage host} (parent : Block)
    (consensusContext : ConsensusContext) (timestamp : UInt64)
    (prevrandao payload : Bytes) (txs : List Bytes)
    (executed : StateExecution host storage) : Block where
  context := consensusContext
  parent := app.blockId parent
  height := parent.height + 1
  timestamp := timestamp
  prevrandao := prevrandao
  stateRoot := executed.stateRoot
  moduleStateRoot := executed.outcome.moduleStateRoot
  txs :=
    match executed.outcome.executedTxIndices with
    | some indices => indices.filterMap fun i => txs[i]?
    | none => txs
  payload := payload
  nativeTargets := executed.nativeTargets
  receiptCommitment := some (app.receiptCommitment app.gasLimit executed.outcome.receipts)
  dbTargets := executed.dbTargets

/-- Build a block over a parent from candidate transactions of the mempool. -/
def propose (parent : Block) (consensusContext : ConsensusContext)
    (candidates : List Bytes) (now : UInt64) (payload : Bytes) (batches : storage.Batches) :
    Option (Block × storage.Merkleized × ModuleSnapshot host) :=
  if storage.accepts parent = false then none
  else
    let txs := app.proposalTxs candidates
    let timestamp := max now parent.timestamp
    match app.roundPrevrandao consensusContext with
    | none => none
    | some prevrandao =>
      let context := app.blockContext (parent.height + 1) timestamp prevrandao
        consensusContext.leader
      match storage.execute app.executor batches context txs with
      | .error _ => none
      | .ok executed =>
        let block := app.assembleBlock parent consensusContext timestamp
          prevrandao payload txs executed
        if app.nativePipeline && block.txs.any fun tx => !isNativeTx tx then
          none
        else if app.fitsWireLimits block = false then none
        else some (block, executed.merkleized, executed.modules)

variable {app storage}

theorem propose_some {parent block : Block}
    {consensusContext : ConsensusContext} {candidates : List Bytes}
    {now : UInt64} {payload : Bytes} {batches : storage.Batches}
    {result : storage.Merkleized × ModuleSnapshot host}
    (proposed : app.propose storage parent consensusContext candidates now
      payload batches = some (block, result)) :
    ∃ prevrandao executed,
      storage.execute app.executor batches
          (app.blockContext (parent.height + 1) (max now parent.timestamp)
            prevrandao consensusContext.leader)
          (app.proposalTxs candidates) = .ok executed ∧
        block = app.assembleBlock parent consensusContext
          (max now parent.timestamp) prevrandao payload (app.proposalTxs candidates) executed ∧
        result = (executed.merkleized, executed.modules) := by
  unfold propose at proposed
  split at proposed
  · cases proposed
  rcases seed : app.roundPrevrandao consensusContext with _ | prevrandao
  · simp only [seed] at proposed
    cases proposed
  simp only [seed] at proposed
  rcases ran : storage.execute app.executor batches
      (app.blockContext (parent.height + 1) (max now parent.timestamp)
        prevrandao consensusContext.leader)
      (app.proposalTxs candidates) with error | executed
  · simp only [ran] at proposed
    cases proposed
  simp only [ran] at proposed
  split at proposed
  · cases proposed
  split at proposed
  · cases proposed
  obtain ⟨blockEq, resultEq⟩ := Prod.mk.inj (Option.some.inj proposed)
  exact ⟨prevrandao, executed, ran, blockEq.symm, resultEq.symm⟩

end StatefulVeraApp

/-! ## Built blocks verify -/

section Rebuilt

variable {host : Host} {storage : Storage host}

def StateExecution.verified (executed : StateExecution host storage) :
    StateExecution host storage :=
  { executed with
    outcome := { executed.outcome with executedTxIndices := none } }

variable {executed : StateExecution host storage} {batches : storage.Batches}
  {executor : VeraExecutor} {context : BlockContext}

theorem executeBlock_rebuild (clean : host.RefusesCleanly) (verifying : BlockContext)
    {txs : List Bytes} (building : context.isVerification = false)
    (verification : verifying.isVerification = true)
    (sameHeader : verifying.header = context.header)
    (sameRandao : verifying.prevrandao = context.prevrandao)
    (sameMode : verifying.receiptOnly = context.receiptOnly)
    (built : storage.executeBlock executor batches context txs = .ok executed) :
    ∃ indices, executed.outcome.executedTxIndices = some indices ∧ executed.nativeTargets = none ∧
      storage.executeBlock executor batches verifying
          (indices.filterMap fun i => txs[i]?) = .ok executed.verified := by
  unfold Storage.executeBlock at built
  rcases ran : executor.executeWithModules host (storage.state batches) context
      txs (storage.modules batches) with error | ⟨outcome, modules⟩
  · rw [ran] at built
    cases built
  rw [ran] at built
  simp only at built
  rcases sealedBatches : storage.merkleize batches outcome.changes with
    message | merkleized
  · rw [sealedBatches] at built
    cases built
  rw [sealedBatches] at built
  cases built
  obtain ⟨indices, reported, _, verified⟩ :=
    VeraExecutor.executeWithModules_rebuild executor clean building verification
      sameHeader sameRandao sameMode ran
  refine ⟨indices, reported, rfl, ?_⟩
  unfold Storage.executeBlock
  rw [verified]
  simp only [sealedBatches]
  rfl

/-- A built block, executed by a verifier that expects its module root. -/
theorem execute_rebuild (clean : host.RefusesCleanly) {txs : List Bytes}
    (building : context.isVerification = false)
    (built : storage.execute executor batches context txs = .ok executed) :
    ∃ indices, executed.outcome.executedTxIndices = some indices ∧
      executed.nativeTargets.isSome = storage.prepareNative.isSome ∧
      storage.execute executor batches
          (context.withVerification.withExpectedModuleStateRoot executed.outcome.moduleStateRoot)
          (indices.filterMap fun i => txs[i]?) = .ok executed.verified := by
  unfold Storage.execute at built ⊢
  rcases layout : storage.prepareNative with _ | prepare
  · simp only [layout] at built ⊢
    obtain ⟨indices, reported, noTargets, verified⟩ :=
      executeBlock_rebuild clean
        (context.withVerification.withExpectedModuleStateRoot executed.outcome.moduleStateRoot)
        building rfl rfl rfl rfl built
    exact ⟨indices, reported, by rw [noTargets]; rfl, verified⟩
  · simp only [layout] at built ⊢
    rcases ran : storage.executeBlock executor batches context.withReceiptOnly
        txs with error | blockExecuted
    · rw [ran] at built
      cases built
    rw [ran] at built
    simp only at built
    rcases prepared : prepare batches (storage.modules batches)
        blockExecuted.modules with message | ⟨targets, root⟩
    · rw [prepared] at built
      cases built
    rw [prepared] at built
    simp only at built
    split at built
    · cases built
    cases built
    obtain ⟨indices, reported, _, verified⟩ :=
      executeBlock_rebuild clean
        (context.withVerification.withExpectedModuleStateRoot root).withReceiptOnly
        (show context.withReceiptOnly.isVerification = false from building) rfl rfl rfl rfl ran
    refine ⟨indices, reported, rfl, ?_⟩
    simp only [verified, StateExecution.verified, prepared]
    simp [BlockContext.withExpectedModuleStateRoot]

/-- A proposed block passes re-execution on every node of the deployment over
the same parent, with the batches of the proposer. -/
theorem propose_reExecute (clean : host.RefusesCleanly) {app node : StatefulVeraApp host}
    (sameDeployment : node.toDeployment = app.toDeployment) {parent block : Block}
    {consensusContext : ConsensusContext} {candidates : List Bytes} {now : UInt64} {payload : Bytes}
    {result : storage.Merkleized × ModuleSnapshot host}
    (proposed : app.propose storage parent consensusContext candidates now
      payload batches = some (block, result)) :
    node.reExecute storage block batches = .ok result := by
  obtain ⟨prevrandao, executed, ran, blockEq, resultEq⟩ := StatefulVeraApp.propose_some proposed
  obtain ⟨indices, reported, layout, verified⟩ := execute_rebuild clean rfl ran
  have sameContext : ∀ height timestamp randao leader,
      node.blockContext height timestamp randao leader =
        app.blockContext height timestamp randao leader := by
    intro height timestamp randao leader
    simp only [StatefulVeraApp.blockContext, StatefulVeraApp.beneficiaryFor, sameDeployment]
  have accepted : storage.accepts block = true := by
    rw [blockEq]
    unfold Storage.accepts
    cases native : storage.prepareNative with
    | none => simpa [native, StatefulVeraApp.assembleBlock] using layout
    | some prepare => simpa [native, StatefulVeraApp.assembleBlock] using layout
  have replayed : storage.execute node.executor batches
      ((node.blockContext block.height block.timestamp block.prevrandao
        block.context.leader).withVerification.withExpectedModuleStateRoot
          block.moduleStateRoot) block.txs = .ok executed.verified := by
    rw [sameContext, sameDeployment, blockEq]
    simp only [StatefulVeraApp.assembleBlock, reported]
    exact verified
  unfold StatefulVeraApp.reExecute
  rw [if_neg (by rw [accepted]; decide)]
  simp only [replayed]
  rw [sameDeployment, resultEq]
  simp [blockEq, StatefulVeraApp.assembleBlock, StateExecution.verified]

end Rebuilt

/-- What building executed, verification executes with the same result: the
receipts with their cumulative gas, the account changes, the modules and nonces
and the module state root.  So every node of the deployment accepts a proposed
block over the same parent. -/
theorem built_blocks_verify {host : Host} (clean : host.RefusesCleanly) :
    (∀ (executor : VeraExecutor) (state : host.State) (context : BlockContext)
      (txs : List Bytes) (parent snapshot : ModuleSnapshot host) (outcome : ExecutionOutcome host),
      context.isVerification = false →
      executor.executeWithModules host state context txs parent = .ok (outcome, snapshot) →
        ∃ indices, outcome.executedTxIndices = some indices ∧ (∀ i ∈ indices, i < txs.length) ∧
          executor.executeWithModules host state context.withVerification
              (indices.filterMap fun i => txs[i]?) parent =
            .ok ({ outcome with executedTxIndices := none }, snapshot)) ∧
    (∀ (storage : Storage host) (app node : StatefulVeraApp host)
      (parent block : Block) (consensusContext : ConsensusContext)
      (candidates : List Bytes) (now : UInt64) (payload : Bytes) (batches : storage.Batches)
      (result : storage.Merkleized × ModuleSnapshot host), node.toDeployment = app.toDeployment →
      app.propose storage parent consensusContext candidates now payload
          batches = some (block, result) → node.reExecute storage block batches = .ok result) := by
  constructor
  · intro executor state context txs parent snapshot outcome building built
    exact VeraExecutor.executeWithModules_rebuild executor clean building rfl rfl rfl rfl built
  · intro storage app node parent block consensusContext candidates now payload
      batches result sameDeployment proposed
    exact propose_reExecute clean sameDeployment proposed

/-! A signed transfer of one ether, nonce 9, and the accounts it runs on: the
interpreter state is the nonce of the sender, which has the funds. -/

def transferBytes : Bytes :=
  [0xf8, 0x6c, 0x09, 0x85, 0x04, 0xa8, 0x17, 0xc8, 0x00, 0x82, 0x52, 0x08,
    0x94, 0x35, 0x35, 0x35, 0x35, 0x35, 0x35, 0x35, 0x35, 0x35, 0x35, 0x35,
    0x35, 0x35, 0x35, 0x35, 0x35, 0x35, 0x35, 0x35, 0x35, 0x88, 0x0d, 0xe0,
    0xb6, 0xb3, 0xa7, 0x64, 0x00, 0x00, 0x80, 0x25, 0xa0, 0x28, 0xef, 0x61,
    0x34, 0x0b, 0xd9, 0x39, 0xbc, 0x21, 0x95, 0xfe, 0x53, 0x75, 0x67, 0x86,
    0x60, 0x03, 0xe1, 0xa1, 0x5d, 0x3c, 0x71, 0xff, 0x63, 0xe1, 0x59, 0x06,
    0x20, 0xaa, 0x63, 0x62, 0x76, 0xa0, 0x67, 0xcb, 0xe9, 0xd8, 0x99, 0x7f,
    0x76, 0x1a, 0xec, 0xb7, 0x03, 0x30, 0x4b, 0x38, 0x00, 0xcc, 0xf5, 0x55,
    0xc9, 0xf3, 0xdc, 0x64, 0x21, 0x4b, 0x29, 0x7f, 0xb1, 0x96, 0x6a, 0x3b, 0x6d, 0x83]

def transferHash : Bytes :=
  [0x33, 0x46, 0x9b, 0x22, 0xe9, 0xf6, 0x36, 0x35, 0x6c, 0x41, 0x60, 0xa8,
    0x7e, 0xb1, 0x9d, 0xf5, 0x2b, 0x74, 0x12, 0xe8, 0xea, 0xc3, 0x2a, 0x4a,
    0x55, 0xff, 0xe8, 0x8e, 0xa8, 0x35, 0x07, 0x88]

/-- The interpreter on the transfer: it runs one frame, or finds the nonce of
the sender further on. -/
def inspectTransfer (txNonce nonce : UInt64) :
    Interaction (PrecompileReply Unit Unit)
      (Except String (ExecutionResult Unit × UInt64) × UInt64) 0 :=
  if txNonce = nonce then
    .openFrame (.closeFrame true (.done (.ok (.success 21000 [] none, nonce + 1), nonce)))
  else .done (.error "Transaction(NonceTooLow)", nonce)

def transferHost : Host where
  Modules := Unit
  Evm := UInt64
  EvmTx := UInt64
  StateDiff := UInt64
  Changes := List UInt64
  Log := Unit
  State := UInt64
  Trees := Unit
  decodeRlp := fun _ => .error "input too short"
  encodePayload := fun _ => []
  keccak256 := fun bytes => if bytes = transferBytes then transferHash else []
  verifyAndIdentify := fun _ _ _ => .error "invalid signature"
  sharesValues := fun _ _ => true
  dispatchToModule := fun _ _ _ _ _ modules => (.failed (.other ""), modules)
  dispatchRegistry := fun _ _ _ _ evm => (.failed (.other ""), evm)
  newContext := fun state _ _ => state
  finalizeNative := fun evm => (evm, evm)
  decodeEvmTx := fun bytes =>
    if bytes = transferBytes then
      .ok (9, "did:key:zQ3shSWXUKvuAcAvXD2LFTiWmSpVQjH9xaEcuyTD9BLMKc3BX")
    else .error (.txDecode "unexpected string")
  txEnv := fun nonce => ⟨0x9d8a62f656a8d1615c1294fd71e9cfb3e4855a4f, nonce⟩
  inspectTx := inspectTransfer
  commit := fun diff _ => diff
  extractChanges := fun diff => [diff]
  noChanges := []
  mergeChanges := List.append
  activeConsensusKeys := fun _ => .ok []
  recordConsensusRoster := fun _ _ modules => .ok modules
  acpEndBlocker := fun _ modules => .ok modules
  checkAndUpdateExpiredTokens := fun _ modules => .ok modules
  stateRoot := fun _ _ => transferHash
  prepareTrees := fun trees _ _ => .ok (trees, transferHash)

theorem transferHost_refusesCleanly : transferHost.RefusesCleanly := by
  intro txNonce nonce next message precompiles journal driven refused
  change (inspectTransfer txNonce nonce).drive precompiles journal = _ at refused
  unfold inspectTransfer at refused
  split at refused
  · cases refused
  · cases refused
    rfl

def transferStorage : Storage transferHost where
  Batches := UInt64
  Merkleized := List UInt64
  state := fun batches => batches
  modules := fun _ => ⟨(), NativeNonceStore.empty, none⟩
  merkleize := fun _ changes => .ok changes
  combinedRoot := fun _ => transferHash
  dbTargets := fun _ => transferHash
  prepareNative := none

def transferApp : StatefulVeraApp transferHost where
  executor := ⟨1, List.replicate 32 0, none, false⟩
  gasLimit := 30000000
  participantAddresses := []
  receiptCommitment := fun _ _ => transferHash
  nativePipeline := false
  vrfSeed := fun _ _ => none
  blockId := fun _ => transferHash
  fitsWireLimits := fun _ => true

def transferConsensus : ConsensusContext :=
  ⟨0, 1, List.replicate 32 1, transferHash⟩

def transferGenesis : Block where
  context := transferConsensus
  parent := transferHash
  height := 0
  timestamp := 0
  prevrandao := List.replicate 32 0
  stateRoot := transferHash
  moduleStateRoot := transferHash
  txs := []
  payload := []
  nativeTargets := none
  receiptCommitment := none
  dbTargets := transferHash

/-- A native transaction without a body, the transfer, and the transfer again,
which a builder executes at its second position only. -/
def transferCandidates : List Bytes :=
  [[nativeTxType], transferBytes, transferBytes]

def transferContext : BlockContext :=
  transferApp.blockContext 1 1600000000 (List.replicate 32 0) transferConsensus.leader

def transferParent : ModuleSnapshot transferHost :=
  ⟨(), NativeNonceStore.empty, none⟩

def builtTransfer :
    Except ExecutionError (ExecutionOutcome transferHost × ModuleSnapshot transferHost) :=
  transferApp.executor.executeWithModules transferHost (9 : UInt64)
    transferContext transferCandidates transferParent

def proposedTransfer : Option (Block × List UInt64 × ModuleSnapshot transferHost) :=
  transferApp.propose transferStorage transferGenesis transferConsensus
    transferCandidates 1600000000 [] (9 : UInt64)

theorem built_transfer_verifies :
    (∃ outcome snapshot, builtTransfer = .ok (outcome, snapshot) ∧
      outcome.executedTxIndices = some [1] ∧
      outcome.receipts.map ExecutionReceipt.cumulativeGasUsed = [21000] ∧
      transferApp.executor.executeWithModules transferHost (9 : UInt64)
          transferContext.withVerification [transferBytes] transferParent =
        .ok ({ outcome with executedTxIndices := none }, snapshot)) ∧
    (∃ block result, proposedTransfer = some (block, result) ∧ block.txs = [transferBytes] ∧
      transferApp.reExecute transferStorage block (9 : UInt64) =
        .ok result) := by
  have verifies := built_blocks_verify transferHost_refusesCleanly
  have executed : builtTransfer.toOption.map (fun built =>
      (built.1.executedTxIndices, built.1.receipts.map ExecutionReceipt.cumulativeGasUsed)) =
      some (some [1], [21000]) := by
    decide +kernel
  have proposedTxs : proposedTransfer.map (fun proposed => proposed.1.txs) =
      some [transferBytes] := by
    decide +kernel
  constructor
  · rcases built : builtTransfer with error | ⟨outcome, snapshot⟩
    · rw [built] at executed
      cases executed
    · rw [built] at executed
      obtain ⟨positions, gas⟩ := Prod.mk.inj (Option.some.inj executed)
      obtain ⟨indices, reported, _, verified⟩ := verifies.1 _ _ _ _ _ _ _ rfl built
      have executedSecond : [1] = indices := Option.some.inj (positions.symm.trans reported)
      subst executedSecond
      exact ⟨outcome, snapshot, rfl, positions, gas, verified⟩
  · rcases proposed : proposedTransfer with _ | ⟨block, result⟩
    · rw [proposed] at proposedTxs
      cases proposedTxs
    · rw [proposed] at proposedTxs
      exact ⟨block, result, rfl, Option.some.inj proposedTxs,
        verifies.2 _ _ _ _ _ _ _ _ _ _ _ rfl proposed⟩

end VeraHub.App
