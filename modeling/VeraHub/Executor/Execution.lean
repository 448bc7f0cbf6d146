import VeraHub.Executor.ModuleJournal
import VeraHub.Executor.NativeAccount
import VeraHub.Library.SkipLoop
import VeraHub.Library.Words

/-!
# Block execution

A block runs its native transactions first and its EVM transactions after them,
each in the order of the list, over the modules of the parent block.  A builder
skips the transactions that fail and reports which ones it executed; a verifier
rejects the block at the first failure.
-/

namespace VeraHub.Executor

open VeraHub.Acp (BlockExecCtx TxExecCtx)

/-! ## Contexts, transactions and results -/

/-- The header fields that execution reads. -/
structure Header where
  number : UInt64
  timestamp : UInt64
  gasLimit : UInt64
  beneficiary : Address
  baseFeePerGas : Option UInt64
deriving DecidableEq

structure BlockContext where
  header : Header
  prevrandao : Bytes
  isVerification : Bool
  receiptOnly : Bool
  expectedModuleStateRoot : Option Bytes
deriving DecidableEq

namespace BlockContext

def withVerification (context : BlockContext) : BlockContext :=
  { context with isVerification := true }

def withReceiptOnly (context : BlockContext) : BlockContext :=
  { context with receiptOnly := true }

def withExpectedModuleStateRoot (context : BlockContext) (root : Bytes) :
    BlockContext :=
  { context with expectedModuleStateRoot := some root }

end BlockContext

inductive ExecutionError where
  | txDecode (message : String)
  | txExecution (message : String)
  | invalidTx (message : String)
  | blockValidation (message : String)
  | blsVerification (message : String)
  | signerDidRecovery (message : String)
  | chainIdMismatch (expected got : UInt64)
  | unknownNativeTarget (target : Address)
  | moduleTree (message : String)
  | nonceMismatch (did : String) (expected got : UInt64)
  /-- A failed assertion: the source returns nothing here. -/
  | panicked (message : String)
deriving DecidableEq

def nativeTxType : UInt8 :=
  0x45

def isNativeTx (bytes : Bytes) : Bool :=
  bytes.head? == some nativeTxType

/-- A signed native transaction. -/
structure NativeTx where
  chainId : UInt64
  nonce : UInt64
  blsPubkey : Bytes
  target : Address
  calldata : Bytes
  signature : Bytes
deriving DecidableEq

structure AuthenticatedNativeTx where
  nativeTx : NativeTx
  signerDid : String
deriving DecidableEq

inductive PrecompileError where
  | fatal (message : String)
  | other (message : String)
deriving DecidableEq

/-- The output of a module call with its event logs. -/
structure DispatchResult (Log : Type) where
  gasUsed : UInt64
  output : Bytes
  reverted : Bool
  logs : List Log
deriving DecidableEq

/-- How a module call ends. -/
inductive DispatchOutcome (Log : Type) where
  | returned (result : DispatchResult Log)
  | failed (error : PrecompileError)
  | panicked
deriving DecidableEq

def DispatchOutcome.succeeded {Log : Type} : DispatchOutcome Log → Bool
  | .returned result => !result.reverted
  | .failed _ => false
  | .panicked => false

structure ExecutionReceipt (Log : Type) where
  txHash : Bytes
  success : Bool
  gasUsed : UInt64
  cumulativeGasUsed : UInt64
  logs : List Log
  contractAddress : Option Address
deriving DecidableEq

/-- The result of an EVM transaction that the interpreter accepted. -/
inductive ExecutionResult (Log : Type) where
  | success (gasUsed : UInt64) (logs : List Log) (created : Option Address)
  | revert (gasUsed : UInt64)
  | halt (gasUsed : UInt64)

namespace ExecutionResult

variable {Log : Type}

def isSuccess : ExecutionResult Log → Bool
  | .success _ _ _ => true
  | .revert _ => false
  | .halt _ => false

def gasUsed : ExecutionResult Log → UInt64
  | .success gas _ _ => gas
  | .revert gas => gas
  | .halt gas => gas

end ExecutionResult

/-- What a precompile call gives back to the interpreter. -/
inductive PrecompileReply (Log M : Type) where
  | ethereum
  | rejected (message : String)
  | staticWrite
  | registry (modules : M) (context : TxExecCtx)
  | dispatched (result : Except PrecompileError (DispatchResult Log))
  | fatal (message : String)

/-! ## What execution runs on -/

/-- The parts of execution that lie outside the executor: codecs and
signatures, the modules behind their dispatch, the interpreter with its state,
and the trees over module state. -/
structure Host where
  Modules : Type
  Evm : Type
  EvmTx : Type
  StateDiff : Type
  Changes : Type
  Log : Type
  State : Type
  Trees : Type
  decodeRlp : Bytes → Except String NativeTx
  encodePayload : NativeTx → Bytes
  keccak256 : Bytes → Bytes
  verifyAndIdentify : (pubkey data signature : Bytes) → Except String String
  sharesValues : Modules → Modules → Bool
  dispatchToModule : Address → (calldata : Bytes) → BlockExecCtx → TxExecCtx →
    (gasLimit : UInt64) → Modules → DispatchOutcome Log × Modules
  dispatchRegistry : TxExecCtx → (calldata : Bytes) → (gasLimit : UInt64) →
    Modules → Evm → DispatchOutcome Log × Evm
  newContext : State → Header → (prevrandao : Bytes) → Evm
  /-- Finalize the interpreter's journal and put the touched accounts in its
  cache. -/
  finalizeNative : Evm → StateDiff × Evm
  decodeEvmTx : Bytes → Except ExecutionError (EvmTx × String)
  txEnv : EvmTx → TxEnv
  inspectTx : EvmTx → Evm →
    Interaction (PrecompileReply Log Modules)
      (Except String (ExecutionResult Log × StateDiff) × Evm) 0
  commit : StateDiff → Evm → Evm
  extractChanges : StateDiff → Changes
  noChanges : Changes
  mergeChanges : Changes → Changes → Changes
  activeConsensusKeys : Evm → Except String (List Bytes)
  recordConsensusRoster : (epoch : UInt64) → List Bytes → Modules → Except String Modules
  acpEndBlocker : BlockExecCtx → Modules → Except String Modules
  checkAndUpdateExpiredTokens : BlockExecCtx → Modules → Except String Modules
  stateRoot : Modules → NativeNonceStore → Bytes
  /-- The trees over the parent's modules, moved to new ones, and their root. -/
  prepareTrees : (parent : Trees) → (before : Modules × NativeNonceStore) →
    (after : Modules × NativeNonceStore) → Except ExecutionError (Trees × Bytes)

/-- Configuration of an executor. -/
structure VeraExecutor where
  chainId : UInt64
  genesisId : Bytes
  membershipEpochLength : Option { length : UInt64 // 0 < length }
  hasModuleTrees : Bool

def nativeTxGasLimit : UInt64 :=
  1000000

def saturatingAdd (first second : UInt64) : UInt64 :=
  if first.toNat + second.toNat < 2 ^ 64 then first + second
  else UInt64.ofNat (2 ^ 64 - 1)

/-! ## Native transactions -/

/-- What native transactions change. -/
structure NativeState (host : Host) where
  modules : host.Modules
  nonces : NativeNonceStore
  evm : host.Evm

namespace VeraExecutor

variable {host : Host} (executor : VeraExecutor)

def decodeWire (host : Host) (bytes : Bytes) : Except String NativeTx :=
  match bytes with
  | [] => .error "missing native tx type byte"
  | first :: rest =>
    if first = nativeTxType then host.decodeRlp rest
    else .error "missing native tx type byte"

def signingData (host : Host) (nativeTx : NativeTx) : Bytes :=
  nativeTxType :: host.encodePayload nativeTx

def txId (host : Host) (nativeTx : NativeTx) : Bytes :=
  host.keccak256 (signingData host nativeTx)

def authenticateNativeTx (host : Host) (txBytes : Bytes) :
    Except ExecutionError AuthenticatedNativeTx :=
  match decodeWire host txBytes with
  | .error message => .error (.txDecode ("native tx: " ++ message))
  | .ok nativeTx =>
    if nativeTx.chainId ≠ executor.chainId then
      .error (.chainIdMismatch executor.chainId nativeTx.chainId)
    else
      match host.verifyAndIdentify nativeTx.blsPubkey
          (signingData host nativeTx) nativeTx.signature with
      | .error message => .error (.blsVerification ("signature: " ++ message))
      | .ok signerDid =>
        if nativeTx.target ∈ customAddresses then
          .ok ⟨nativeTx, signerDid⟩
        else .error (.unknownNativeTarget nativeTx.target)

def nonceFailure : NonceError → ExecutionError
  | .mismatch did expected got => .nonceMismatch did expected got
  | .overflow did => .invalidTx ("nonce overflow for " ++ did)
  | .malformed did =>
    .invalidTx ("stored nonce for " ++ did ++ " is malformed")

/-- Call the target of a native transaction.  The registry works on the
interpreter's state and reads the modules; the other targets are modules. -/
def dispatchNative (host : Host) (blockCtx : BlockExecCtx) (txCtx : TxExecCtx)
    (nativeTx : NativeTx) (modules : host.Modules) (evm : host.Evm) :
    DispatchOutcome host.Log × host.Modules × host.Evm :=
  if nativeTx.target = validatorRegistryAddress then
    let (outcome, written) := host.dispatchRegistry txCtx nativeTx.calldata
      nativeTxGasLimit modules evm
    (outcome, modules, written)
  else if nativeTx.target ∈ customAddresses then
    let (outcome, written) := host.dispatchToModule nativeTx.target
      nativeTx.calldata blockCtx txCtx nativeTxGasLimit modules
    (outcome, written, evm)
  else (.panicked, modules, evm)

def failedReceipt {Log : Type} (txHash : Bytes) : ExecutionReceipt Log where
  txHash := txHash
  success := false
  gasUsed := nativeTxGasLimit
  cumulativeGasUsed := 0
  logs := []
  contractAddress := none

def nativeReceipt {Log : Type} (txHash : Bytes) :
    DispatchOutcome Log → Except ExecutionError (ExecutionReceipt Log)
  | .returned result =>
    .ok {
      txHash := txHash
      success := !result.reverted
      gasUsed := result.gasUsed
      cumulativeGasUsed := 0
      logs := if result.reverted then [] else result.logs
      contractAddress := none }
  | .failed (.fatal message) => .error (.txExecution message)
  | .failed (.other _) => .ok (failedReceipt txHash)
  | .panicked => .ok (failedReceipt txHash)

/-- Advance the signer's nonce and dispatch; a call that did not succeed leaves
the modules and the interpreter's state as they were. -/
def executeAuthenticatedNativeTx (host : Host) (blockCtx : BlockExecCtx)
    (authenticated : AuthenticatedNativeTx) :
    Exec (NativeState host) ExecutionError (ExecutionReceipt host.Log) :=
  fun state =>
    let nativeTx := authenticated.nativeTx
    match (NativeNonceStore.checkAndIncrement authenticated.signerDid
        nativeTx.nonce).run state.nonces with
    | (.error error, nonces) =>
      (.error (nonceFailure error), { state with nonces := nonces })
    | (.ok (), nonces) =>
      let txHash := txId host nativeTx
      let txCtx : TxExecCtx := ⟨nativeTx.nonce, txHash, authenticated.signerDid⟩
      let (outcome, modules, evm) :=
        dispatchNative host blockCtx txCtx nativeTx state.modules state.evm
      if outcome.succeeded then
        (nativeReceipt txHash outcome, ⟨modules, nonces, evm⟩)
      else
        (nativeReceipt txHash outcome, ⟨state.modules, nonces, state.evm⟩)

end VeraExecutor

/-! ## What a block has done so far -/

/-- Receipts, account changes and gas of the executed transactions. -/
structure Ledger (host : Host) where
  changes : host.Changes
  receipts : List (ExecutionReceipt host.Log)
  cumulativeGas : UInt64

namespace Ledger

variable {host : Host}

def empty (host : Host) : Ledger host :=
  ⟨host.noChanges, [], 0⟩

/-- Add the receipt and the changes of an executed transaction. -/
def record (ledger : Ledger host) (receipt : ExecutionReceipt host.Log)
    (diff : host.StateDiff) : Ledger host :=
  let gas := saturatingAdd ledger.cumulativeGas receipt.gasUsed
  { changes := host.mergeChanges ledger.changes (host.extractChanges diff)
    receipts := ledger.receipts ++ [{ receipt with cumulativeGasUsed := gas }]
    cumulativeGas := gas }

end Ledger

structure NativePhase (host : Host) where
  state : NativeState host
  ledger : Ledger host

structure EvmPhase (host : Host) where
  journal : ModuleJournal host.Modules
  evm : host.Evm
  ledger : Ledger host

namespace VeraExecutor

variable {host : Host} (executor : VeraExecutor)

/-- A failed execution ends the block; other failures are of the transaction
alone. -/
def nativeFailure : ExecutionError → Failure ExecutionError
  | .txExecution message => .abort (.txExecution message)
  | error => .skip error

def attemptNative (host : Host) (blockCtx : BlockExecCtx)
    (authenticated : Except ExecutionError AuthenticatedNativeTx) :
    Exec (NativePhase host) (Failure ExecutionError) Unit :=
  fun phase =>
    match authenticated with
    | .error error => (.error (nativeFailure error), phase)
    | .ok tx =>
      match (executeAuthenticatedNativeTx host blockCtx tx).run phase.state with
      | (.error error, state) =>
        (.error (nativeFailure error), { phase with state := state })
      | (.ok receipt, state) =>
        let (diff, evm) := host.finalizeNative state.evm
        (.ok (), ⟨{ state with evm := evm }, phase.ledger.record receipt diff⟩)

/-! ## EVM transactions -/

/-- Call a module from the interpreter: save the modules, dispatch, and report
a write from a static frame. -/
def runCustom (host : Host) (blockCtx : BlockExecCtx) (txCtx : TxExecCtx)
    (target : Address) (inputs : CallInputs) (gasLimit : UInt64)
    (journal : ModuleJournal host.Modules) :
    PrecompileReply host.Log host.Modules × ModuleJournal host.Modules :=
  match journal.checkpoint with
  | .error message => (.fatal message, journal)
  | .ok saved =>
    let (outcome, written) := host.dispatchToModule target inputs.input
      blockCtx txCtx gasLimit saved.modules
    let called := { saved with modules := written }
    if inputs.isStatic && called.changed host.sharesValues then
      (.staticWrite, called)
    else
      match outcome with
      | .returned result => (.dispatched (.ok result), called)
      | .failed error => (.dispatched (.error error), called)
      | .panicked =>
        (.dispatched (.error (.other "module execution failed")), called)

def runPrecompile (host : Host) (blockCtx : BlockExecCtx) (tx : TxEnv)
    (precompiles : VeraPrecompiles) (inputs : CallInputs) (gasLimit : UInt64)
    (journal : ModuleJournal host.Modules) :
    PrecompileReply host.Log host.Modules × ModuleJournal host.Modules :=
  match precompiles.run tx inputs with
  | .ethereum => (.ethereum, journal)
  | .rejected message => (.rejected message, journal)
  | .staticWrite => (.staticWrite, journal)
  | .registry txCtx => (.registry journal.modules txCtx, journal)
  | .modules target txCtx =>
    runCustom host blockCtx txCtx target inputs gasLimit journal

def buildReceipt {Log : Type} (result : ExecutionResult Log)
    (txHash : Bytes) : ExecutionReceipt Log where
  txHash := txHash
  success := result.isSuccess
  gasUsed := result.gasUsed
  cumulativeGasUsed := 0
  logs :=
    match result with
    | .success _ logs _ => logs
    | _ => []
  contractAddress :=
    match result with
    | .success _ _ created => created
    | _ => none

/-- Whether the interpreter accepted a transaction and it succeeded. -/
def inspectedSuccess {Log Diff : Type} : Except String (ExecutionResult Log × Diff) → Bool
  | .ok (result, _) => result.isSuccess
  | .error _ => false

/-- Run one EVM transaction between the base checkpoint and its end. -/
def attemptEvm (host : Host) (blockCtx : BlockExecCtx) (txBytes : Bytes) :
    Exec (EvmPhase host) (Failure ExecutionError) Unit :=
  fun phase =>
    match host.decodeEvmTx txBytes with
    | .error (.txDecode message) => (.error (.skip (.txDecode message)), phase)
    | .error error => (.error (.abort error), phase)
    | .ok (tx, signerDid) =>
      let txHash := host.keccak256 txBytes
      match phase.journal.begin with
      | none =>
        (.error (.abort (.panicked "unfinished module transaction")), phase)
      | some opened =>
        match (host.inspectTx tx phase.evm).drive
            (runPrecompile host blockCtx (host.txEnv tx) ⟨txHash, signerDid⟩) opened with
        | none =>
          (.error (.abort (.panicked "matching execution checkpoint")), phase)
        | some ((execution, evm), driven) =>
          match driven.finish (inspectedSuccess execution) with
          | none =>
            (.error (.abort (.panicked "unclosed execution frame")), phase)
          | some journal =>
            match execution with
            | .error message =>
              (.error (.skip (.txExecution message)), { phase with journal := journal, evm := evm })
            | .ok (result, diff) =>
              (.ok (), ⟨journal, host.commit diff evm,
                phase.ledger.record (buildReceipt result txHash) diff⟩)

end VeraExecutor

/-! ## Whole blocks -/

/-- The modules and nonces a block leaves, with the trees over them. -/
structure ModuleSnapshot (host : Host) where
  modules : host.Modules
  nonces : NativeNonceStore
  trees : Option host.Trees

structure ExecutionOutcome (host : Host) where
  changes : host.Changes
  receipts : List (ExecutionReceipt host.Log)
  gasUsed : UInt64
  moduleStateRoot : Bytes
  executedTxIndices : Option (List Nat)

namespace VeraExecutor

variable (host : Host) (executor : VeraExecutor)

def blockExecCtx (header : Header) : BlockExecCtx where
  genesisId := executor.genesisId
  deploymentId := executor.chainId
  timestamp := ⟨header.timestamp, header.number⟩

/-- The native transactions of a block with their positions. -/
def nativeItems (txs : List Bytes) : List (Bytes × Nat) :=
  txs.zipIdx.filter fun item => isNativeTx item.1

def evmItems (txs : List Bytes) : List (Bytes × Nat) :=
  txs.zipIdx.filter fun item => !isNativeTx item.1

/-- Authentication results are kept in order, the failed ones included. -/
def authenticated (txs : List Bytes) : List (Nat × Except ExecutionError AuthenticatedNativeTx) :=
  (nativeItems txs).map fun item =>
    (item.2, executor.authenticateNativeTx host item.1)

def nativeStart (state : host.State) (context : BlockContext)
    (parent : ModuleSnapshot host) : NativePhase host :=
  ⟨⟨parent.modules, parent.nonces, host.newContext state context.header context.prevrandao⟩,
    Ledger.empty host⟩

def runNative (building : Bool) (blockCtx : BlockExecCtx) (txs : List Bytes)
    (phase : NativePhase host) :=
  skipLoop building (fun item => attemptNative host blockCtx (Prod.snd item))
    (executor.authenticated host txs) phase

def runEvm (building : Bool) (blockCtx : BlockExecCtx) (txs : List Bytes) (phase : EvmPhase host) :=
  skipLoop building (fun item => attemptEvm host blockCtx (Prod.fst item)) (evmItems txs) phase

/-- At the end of a membership epoch, record the roster of a later one. -/
def recordRoster (header : Header) (evm : host.Evm) (modules : host.Modules) :
    Except ExecutionError host.Modules :=
  match executor.membershipEpochLength with
  | none => .ok modules
  | some length =>
    if header.number % length.val = length.val - 1 then
      let epoch := header.number / length.val
      if epoch.toNat + 3 < 2 ^ 64 then
        match host.activeConsensusKeys evm with
        | .error message => .error (.txExecution message)
        | .ok keys =>
          match host.recordConsensusRoster (epoch + 3) keys modules with
          | .error message => .error (.txExecution message)
          | .ok recorded => .ok recorded
      else .error (.txExecution "membership epoch overflow")
    else .ok modules

def runEndBlockHooks (blockCtx : BlockExecCtx) (modules : host.Modules) :
    Except ExecutionError host.Modules :=
  match host.acpEndBlocker blockCtx modules with
  | .error message => .error (.blockValidation ("ACP lifecycle: " ++ message))
  | .ok ended =>
    match host.checkAndUpdateExpiredTokens blockCtx ended with
    | .error message =>
      .error (.blockValidation ("Vera lifecycle: " ++ message))
    | .ok updated => .ok updated

def moduleStateRoot (receiptOnly : Bool) (parent : ModuleSnapshot host)
    (modules : host.Modules) (nonces : NativeNonceStore) :
    Except ExecutionError (Option host.Trees × Bytes) :=
  if receiptOnly then .ok (parent.trees, List.replicate 32 0)
  else if executor.hasModuleTrees then
    match parent.trees with
    | none => .error (.moduleTree "missing parent tree views")
    | some trees =>
      match host.prepareTrees trees (parent.modules, parent.nonces) (modules, nonces) with
      | .error error => .error error
      | .ok (prepared, root) => .ok (some prepared, root)
  else .ok (parent.trees, host.stateRoot modules nonces)

/-- Everything after the last transaction: the roster, the end-of-block hooks
and the module state root. -/
def closeBlock (context : BlockContext) (parent : ModuleSnapshot host)
    (nonces : NativeNonceStore) (phase : EvmPhase host) (executed : Option (List Nat)) :
    Except ExecutionError (ExecutionOutcome host × ModuleSnapshot host) := do
  let taken ← (phase.journal.finish true).elim (.error (.panicked "unclosed execution frame")) .ok
  let recorded ← executor.recordRoster host context.header phase.evm taken.modules
  let modules ← runEndBlockHooks host (executor.blockExecCtx context.header) recorded
  let (trees, root) ← executor.moduleStateRoot host context.receiptOnly parent modules nonces
  .ok (⟨phase.ledger.changes, phase.ledger.receipts, phase.ledger.cumulativeGas, root, executed⟩,
    ⟨modules, nonces, trees⟩)

/-- Execute a block over the modules of its parent.  Native transactions run
first; a builder reports the positions of those it executed. -/
def executeWithModules (state : host.State) (context : BlockContext)
    (txs : List Bytes) (parent : ModuleSnapshot host) :
    Except ExecutionError (ExecutionOutcome host × ModuleSnapshot host) := do
  let blockCtx := executor.blockExecCtx context.header
  let building := !context.isVerification
  let (native, nativeKept) ← executor.runNative host building blockCtx txs
    (nativeStart host state context parent)
  let (final, evmKept) ← runEvm host building blockCtx txs
    ⟨⟨native.state.modules, []⟩, native.state.evm, native.ledger⟩
  let executed := nativeKept.map Prod.fst ++ evmKept.map Prod.snd
  executor.closeBlock host context parent native.state.nonces final
    (if building then some executed else none)

end VeraExecutor

end VeraHub.Executor
