import VeraHub.Acp.Types

/-!
# Module calls from execution frames

A transaction runs one frame, which may run others.  A call to a module address
reaches the module precompiles with the caller its frame has: a call or a static
call comes from the running contract, a delegated call keeps the caller of the
calling frame.  The precompiles pass the signer's authority on when that caller
is the sender of the transaction.
-/

namespace VeraHub.Executor

open VeraHub.Zanzibar
open VeraHub.Acp (TxExecCtx)

/-! ## Module addresses -/

abbrev Address : Type :=
  BitVec 160

instance instDecidableMemAddress (address : Address) (addresses : List Address) :
    Decidable (address ∈ addresses) :=
  List.instDecidableMemOfLawfulBEq address addresses

def acpAddress : Address :=
  0x0810

def bulletinAddress : Address :=
  0x0811

def veraAddress : Address :=
  0x0812

def validatorRegistryAddress : Address :=
  0x0813

def customAddresses : List Address :=
  [acpAddress, bulletinAddress, veraAddress, validatorRegistryAddress]

/-- The registry selectors of `getValidators`, `getValidator` and
`getActiveValidatorCount`. -/
def querySelectors : List Bytes :=
  [[0xb7, 0xab, 0x4d, 0xb5], [0x19, 0x04, 0xbb, 0x2e], [0x37, 0xde, 0xea, 0x70]]

def isQuery (input : Bytes) : Bool :=
  querySelectors.contains (input.take 4)

/-! ## The precompile entry point -/

/-- What a frame passes to a called address. -/
structure CallInputs where
  caller : Address
  targetAddress : Address
  bytecodeAddress : Address
  isStatic : Bool
  input : Bytes
deriving DecidableEq

/-- The environment of the transaction being executed. -/
structure TxEnv where
  caller : Address
  nonce : UInt64

/-- What the precompile provider keeps of the current transaction. -/
structure VeraPrecompiles where
  currentTxHash : Bytes
  currentSignerDid : String

/-- Where the provider takes a call. -/
inductive Routing where
  | ethereum
  | rejected (message : String)
  | staticWrite
  | registry (context : TxExecCtx)
  | modules (target : Address) (context : TxExecCtx)
deriving DecidableEq

namespace VeraPrecompiles

def txContext (precompiles : VeraPrecompiles) (tx : TxEnv) (inputs : CallInputs) : TxExecCtx where
  sequence := tx.nonce
  txHash := precompiles.currentTxHash
  signer :=
    if inputs.caller = tx.caller then precompiles.currentSignerDid else ""

/-- Route a call: registry writes need the sender as caller and a writable
frame, and every dispatch gets the context of the call. -/
def run (precompiles : VeraPrecompiles) (tx : TxEnv) (inputs : CallInputs) : Routing :=
  if inputs.bytecodeAddress ∈ customAddresses then
    let context := precompiles.txContext tx inputs
    if inputs.bytecodeAddress = validatorRegistryAddress then
      if inputs.caller ≠ tx.caller ∧ isQuery inputs.input = false then
        .rejected "module write requires an authenticated caller"
      else if inputs.isStatic = true ∧ isQuery inputs.input = false then
        .staticWrite
      else
        .registry context
    else
      .modules inputs.bytecodeAddress context
  else
    .ethereum

end VeraPrecompiles

/-! ## Frames -/

inductive CallScheme where
  | call
  | callCode
  | delegateCall
  | staticCall
deriving DecidableEq, Repr

/-- What the code of a frame does: it calls an address, whose own code acts in
the new frame, or it creates a contract and runs its constructor. -/
inductive CodeAction where
  | call (scheme : CallScheme) (address : Address) (input : Bytes) (code : List CodeAction)
  | create (created : Address) (code : List CodeAction)

/-- A running frame. -/
structure Frame where
  caller : Address
  running : Address
  isStatic : Bool

namespace Frame

def callInputs (frame : Frame) (scheme : CallScheme) (address : Address)
    (input : Bytes) : CallInputs where
  caller :=
    match scheme with
    | .delegateCall => frame.caller
    | _ => frame.running
  targetAddress :=
    match scheme with
    | .call | .staticCall => address
    | .callCode | .delegateCall => frame.running
  bytecodeAddress := address
  isStatic := frame.isStatic || scheme == .staticCall
  input := input

def ofInputs (inputs : CallInputs) : Frame where
  caller := inputs.caller
  running := inputs.targetAddress
  isStatic := inputs.isStatic

def ofCreate (frame : Frame) (created : Address) : Frame where
  caller := frame.running
  running := created
  isStatic := frame.isStatic

end Frame

/-- The module calls an action makes, in its own frame and in those it
opens. -/
def moduleCalls (frame : Frame) : CodeAction → List CallInputs
  | .call scheme address input code =>
    let inputs := frame.callInputs scheme address input
    if address ∈ customAddresses then [inputs]
    else moduleCallsOf (Frame.ofInputs inputs) code
  | .create created code => moduleCallsOf (frame.ofCreate created) code
where
  moduleCallsOf (frame : Frame) : List CodeAction → List CallInputs
    | [] => []
    | action :: rest => moduleCalls frame action ++ moduleCallsOf frame rest

inductive TxKind where
  | call (address : Address)
  | create (created : Address)

/-- A transaction with the actions of the code its top-level frame runs. -/
structure Transaction where
  caller : Address
  nonce : UInt64
  kind : TxKind
  code : List CodeAction

namespace Transaction

def env (tx : Transaction) : TxEnv :=
  ⟨tx.caller, tx.nonce⟩

def contractFrame (tx : Transaction) : Option Frame :=
  match tx.kind with
  | .call address =>
    if address ∈ customAddresses then none
    else some ⟨tx.caller, address, false⟩
  | .create created => some ⟨tx.caller, created, false⟩

/-- The module calls that contract code issues, constructor code included. -/
def contractModuleCalls (tx : Transaction) : List CallInputs :=
  match tx.contractFrame with
  | none => []
  | some frame => moduleCalls.moduleCallsOf frame tx.code

end Transaction

/-! ## Authority of contract code -/

/-- A module call gets no signer, and a registry write gets nowhere. -/
def LacksAuthority (precompiles : VeraPrecompiles) (tx : TxEnv) (inputs : CallInputs) : Prop :=
  match precompiles.run tx inputs with
  | .ethereum => True
  | .rejected _ => True
  | .staticWrite => True
  | .registry context => context.signer = "" ∧ isQuery inputs.input = true
  | .modules _ context => context.signer = ""

/-- No contract acts with the module authority of the signing key. -/
def ContractsLackAuthority (tx : Transaction) (txHash : Bytes) (signer : Did) : Prop :=
  ∀ inputs ∈ tx.contractModuleCalls, LacksAuthority ⟨txHash, signer.asStr⟩ tx.env inputs

def isStaticRegistryWrite (isStatic : Bool) (address : Address) (input : Bytes) : Bool :=
  isStatic && (address == validatorRegistryAddress && !isQuery input)

/-- Whether no module call of an action comes from the sender.  `inherited`
says that the frame's own caller is the sender: a delegated call passes this
on, any other call comes from the sender only if code runs at the sender's
address. -/
def avoidsSender (sender : Address) (inherited : Bool) (running : Address)
    (isStatic : Bool) : CodeAction → Bool
  | .call scheme address input code =>
    let static := isStatic || scheme == .staticCall
    let fromSender :=
      match scheme with
      | .delegateCall => inherited
      | _ => running == sender
    if address ∈ customAddresses then
      !fromSender || isStaticRegistryWrite static address input
    else
      let target :=
        match scheme with
        | .call | .staticCall => address
        | .callCode | .delegateCall => running
      avoidsSenderIn sender fromSender target static code
  | .create created code =>
    avoidsSenderIn sender (running == sender) created isStatic code
where
  avoidsSenderIn (sender : Address) (inherited : Bool) (running : Address)
      (isStatic : Bool) : List CodeAction → Bool
    | [] => true
    | action :: rest =>
      avoidsSender sender inherited running isStatic action &&
        avoidsSenderIn sender inherited running isStatic rest

/-- No module call of contract code comes from the sender: none is delegated
along delegated calls from the top-level frame, and none is made by code that
runs at the sender's address, registry writes in static frames apart. -/
def Transaction.keepsSenderOut (tx : Transaction) : Bool :=
  match tx.kind with
  | .call address =>
    address ∈ customAddresses || avoidsSender.avoidsSenderIn tx.caller true address false tx.code
  | .create created =>
    avoidsSender.avoidsSenderIn tx.caller true created false tx.code

/-! ## When contract code lacks authority -/

theorem asStr_ne_empty (did : Did) : did.asStr ≠ "" := by
  intro empty
  rcases did.supported with wildcard | accepted
  · rw [empty] at wildcard
    exact absurd wildcard (by decide)
  · rw [empty] at accepted
    exact absurd accepted (by decide)

/-- A call that the precompiles take for the sender's own. -/
def FromSender (sender : Address) (inputs : CallInputs) : Prop :=
  inputs.caller = sender ∧
    isStaticRegistryWrite inputs.isStatic inputs.bytecodeAddress inputs.input = false

theorem signer_eq_empty_iff (txHash : Bytes) (signer : Did) (tx : TxEnv) (inputs : CallInputs) :
    (VeraPrecompiles.txContext ⟨txHash, signer.asStr⟩ tx inputs).signer = "" ↔
      inputs.caller ≠ tx.caller := by
  unfold VeraPrecompiles.txContext
  by_cases direct : inputs.caller = tx.caller
  · simp [direct, asStr_ne_empty signer]
  · simp [direct]

variable {inputs : CallInputs}

theorem registry_lacksAuthority_iff (txHash : Bytes) (signer : Did) (tx : TxEnv)
    (registry : inputs.bytecodeAddress = validatorRegistryAddress) :
    LacksAuthority ⟨txHash, signer.asStr⟩ tx inputs ↔ ¬ FromSender tx.caller inputs := by
  have custom : inputs.bytecodeAddress ∈ customAddresses := by
    rw [registry]
    decide
  have signerIff := signer_eq_empty_iff txHash signer tx inputs
  unfold LacksAuthority VeraPrecompiles.run FromSender isStaticRegistryWrite
  rw [if_pos custom]
  simp only [registry, if_true, beq_self_eq_true, Bool.true_and]
  cases query : isQuery inputs.input with
  | true =>
    simp only [Bool.true_eq_false, and_false, if_false, Bool.not_true, Bool.and_false, and_true]
    exact signerIff
  | false =>
    by_cases direct : inputs.caller = tx.caller
    · cases static : inputs.isStatic with
      | true => simp [direct]
      | false => simp [direct]
    · simp [direct]

theorem module_lacksAuthority_iff (txHash : Bytes) (signer : Did) (tx : TxEnv)
    (custom : inputs.bytecodeAddress ∈ customAddresses)
    (notRegistry : inputs.bytecodeAddress ≠ validatorRegistryAddress) :
    LacksAuthority ⟨txHash, signer.asStr⟩ tx inputs ↔ ¬ FromSender tx.caller inputs := by
  have differs : (inputs.bytecodeAddress == validatorRegistryAddress) = false :=
    beq_eq_false_iff_ne.mpr notRegistry
  unfold LacksAuthority VeraPrecompiles.run FromSender isStaticRegistryWrite
  rw [if_pos custom, if_neg notRegistry]
  simp only [differs, Bool.false_and, Bool.and_false, and_true]
  exact signer_eq_empty_iff txHash signer tx inputs

theorem lacksAuthority_iff (txHash : Bytes) (signer : Did) (tx : TxEnv)
    (custom : inputs.bytecodeAddress ∈ customAddresses) :
    LacksAuthority ⟨txHash, signer.asStr⟩ tx inputs ↔ ¬ FromSender tx.caller inputs := by
  by_cases registry : inputs.bytecodeAddress = validatorRegistryAddress
  · exact registry_lacksAuthority_iff txHash signer tx registry
  · exact module_lacksAuthority_iff txHash signer tx custom registry

theorem not_fromSender_callInputs_iff (sender : Address) (frame : Frame) (scheme : CallScheme)
    (address : Address) (input : Bytes) :
    ¬ FromSender sender (frame.callInputs scheme address input) ↔ (!(match scheme with
          | .delegateCall => frame.caller == sender
          | _ => frame.running == sender) ||
        isStaticRegistryWrite (frame.isStatic || scheme == .staticCall) address input) = true := by
  unfold FromSender Frame.callInputs
  rw [Bool.or_eq_true, Bool.not_eq_true', not_and_or, Bool.not_eq_false]
  cases scheme with
  | call => simp
  | callCode => simp
  | delegateCall => simp
  | staticCall => simp

mutual

theorem moduleCalls_custom (frame : Frame) :
    ∀ (action : CodeAction), ∀ inputs ∈ moduleCalls frame action,
      inputs.bytecodeAddress ∈ customAddresses
  | .call scheme address input code => by
      unfold moduleCalls
      by_cases custom : address ∈ customAddresses
      · simp only [custom, if_true, List.mem_singleton, forall_eq]
        exact custom
      · simp only [custom, if_false]
        exact moduleCallsOf_custom _ code
  | .create created code => by
      unfold moduleCalls
      exact moduleCallsOf_custom (frame.ofCreate created) code

theorem moduleCallsOf_custom (frame : Frame) :
    ∀ (code : List CodeAction),
      ∀ inputs ∈ moduleCalls.moduleCallsOf frame code, inputs.bytecodeAddress ∈ customAddresses
  | [] => by
      simp [moduleCalls.moduleCallsOf]
  | action :: rest => by
      unfold moduleCalls.moduleCallsOf
      rw [List.forall_mem_append]
      exact ⟨moduleCalls_custom frame action, moduleCallsOf_custom frame rest⟩

end

mutual

theorem moduleCalls_avoid_iff (sender : Address) (frame : Frame) :
    ∀ action : CodeAction,
      (∀ inputs ∈ moduleCalls frame action, ¬ FromSender sender inputs) ↔
        avoidsSender sender (frame.caller == sender) frame.running frame.isStatic action = true
  | .call scheme address input code => by
      unfold moduleCalls avoidsSender
      by_cases custom : address ∈ customAddresses
      · simp only [custom, if_true, List.mem_singleton, forall_eq]
        exact not_fromSender_callInputs_iff sender frame scheme address input
      · simp only [custom, if_false]
        have nested := moduleCallsOf_avoid_iff sender
          (Frame.ofInputs (frame.callInputs scheme address input)) code
        cases scheme with
        | call => exact nested
        | callCode => exact nested
        | delegateCall => exact nested
        | staticCall => exact nested
  | .create created code => by
      unfold moduleCalls avoidsSender
      exact moduleCallsOf_avoid_iff sender (frame.ofCreate created) code

theorem moduleCallsOf_avoid_iff (sender : Address) (frame : Frame) :
    ∀ code : List CodeAction,
      (∀ inputs ∈ moduleCalls.moduleCallsOf frame code, ¬ FromSender sender inputs) ↔
        avoidsSender.avoidsSenderIn sender (frame.caller == sender)
          frame.running frame.isStatic code = true
  | [] => by
      simp [moduleCalls.moduleCallsOf, avoidsSender.avoidsSenderIn]
  | action :: rest => by
      unfold moduleCalls.moduleCallsOf avoidsSender.avoidsSenderIn
      rw [List.forall_mem_append, Bool.and_eq_true, moduleCalls_avoid_iff sender frame action,
        moduleCallsOf_avoid_iff sender frame rest]

end

theorem contractModuleCalls_custom (tx : Transaction) :
    ∀ inputs ∈ tx.contractModuleCalls, inputs.bytecodeAddress ∈ customAddresses := by
  unfold Transaction.contractModuleCalls
  cases tx.contractFrame with
  | none => simp
  | some frame => exact moduleCallsOf_custom frame tx.code

theorem contractModuleCalls_avoid_iff (tx : Transaction) :
    (∀ inputs ∈ tx.contractModuleCalls, ¬ FromSender tx.caller inputs) ↔
      tx.keepsSenderOut = true := by
  unfold Transaction.contractModuleCalls Transaction.contractFrame Transaction.keepsSenderOut
  cases tx.kind with
  | call address =>
    by_cases custom : address ∈ customAddresses
    · simp [custom]
    · have nested := moduleCallsOf_avoid_iff tx.caller ⟨tx.caller, address, false⟩ tx.code
      rw [beq_self_eq_true] at nested
      simpa only [custom, if_false, decide_false, Bool.false_or] using nested
  | create created =>
    have nested := moduleCallsOf_avoid_iff tx.caller ⟨tx.caller, created, false⟩ tx.code
    rw [beq_self_eq_true] at nested
    exact nested

/-- Contract code lacks the signer's module authority exactly when none of its
module calls comes from the sender. -/
theorem contracts_lack_authority_iff (tx : Transaction) (txHash : Bytes) (signer : Did) :
    ContractsLackAuthority tx txHash signer ↔ tx.keepsSenderOut = true := by
  rw [← contractModuleCalls_avoid_iff]
  unfold ContractsLackAuthority
  constructor
  · intro lacking inputs issued
    have custom := contractModuleCalls_custom tx inputs issued
    exact (lacksAuthority_iff txHash signer tx.env custom).mp (lacking inputs issued)
  · intro avoided inputs issued
    have custom := contractModuleCalls_custom tx inputs issued
    exact (lacksAuthority_iff txHash signer tx.env custom).mpr (avoided inputs issued)

/-- A sender calls a contract that delegates its call to the access control
module. -/
def delegatingTransaction : Transaction where
  caller := 0x42
  nonce := 0
  kind := .call 0x22
  code := [.call .delegateCall acpAddress [] []]

/-- The delegated call is dispatched with the signer's DID. -/
theorem delegated_module_call_has_authority :
    ¬ ContractsLackAuthority delegatingTransaction [] ⟨"did:key:signer", by decide⟩ := by
  intro lacking
  have lacksSigner := lacking ⟨0x42, 0x22, acpAddress, false, []⟩ (by decide)
  have dispatched :
      VeraPrecompiles.run ⟨[], "did:key:signer"⟩ delegatingTransaction.env
          ⟨0x42, 0x22, acpAddress, false, []⟩ = .modules acpAddress ⟨0, [], "did:key:signer"⟩ := by
    decide
  unfold LacksAuthority at lacksSigner
  rw [dispatched] at lacksSigner
  exact absurd lacksSigner (by decide)

end VeraHub.Executor
