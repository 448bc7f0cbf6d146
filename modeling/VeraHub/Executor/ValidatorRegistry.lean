import VeraHub.Executor.CallFrames
import VeraHub.Library.Exec
import VeraHub.Library.Words

/-!
# The validator registry

The registry keeps its members in the storage of its own account.  An array of
addresses gives every member a position, and a mapping holds a record of five
words by address: address and status, consensus key, position, length of the
route and the route itself.  Array elements and records lie at hashed slots.
-/

namespace VeraHub.Executor.ValidatorRegistry

open VeraHub.Zanzibar (Did startsWith)

abbrev U256 : Type :=
  BitVec 256

abbrev B256 : Type :=
  BitVec 256

/-- The storage of the registry account. -/
abbrev Storage : Type :=
  U256 → U256

/-! ## Failures -/

inductive ValidatorRegistryError where
  | validatorAlreadyExists (member : String)
  | validatorNotFound (member : String)
  | unauthorized (reason : String)
  | invalidPublicKey
  | invalidAddress (reason : String)
  | invalidP2PAddress (reason : String)
  | emptyCommittee
  | membershipLimit (limit : Nat)
  | epochCapacity (limit : Nat)
  | duplicateConsensusKey
  | state (message : String)
deriving DecidableEq, Repr

/-- A failed dispatch: the call runs out of gas, cannot be decoded or finds
its storage corrupted, or it is reverted with an error of the registry. -/
inductive Failure where
  | outOfGas
  | fatal (message : String)
  | other (message : String)
  | reverted (error : ValidatorRegistryError)
deriving DecidableEq, Repr

abbrev RegistryM (α : Type) : Type :=
  Exec Storage Failure α

def revert {α : Type} (error : ValidatorRegistryError) : RegistryM α :=
  Exec.fail (.reverted error)

/-! ## Functions outside the registry -/

/-- Hashing, consensus keys, socket addresses and account addresses. -/
structure Host where
  keccak256 : Bytes → B256
  readsPublicKey : B256 → Bool
  parseSocketAddr : String → Except String Unit
  parseAddress : String → Option Address
  evmAddressFromDid : String → Option Address

/-! ## Storage layout -/

def maxDkgParticipants : Nat :=
  64

def maxP2pAddressLen : Nat :=
  32

def slotPolicyId : U256 :=
  0

def slotValidatorCount : U256 :=
  1

def slotValidatorsArrayBase : U256 :=
  2

def slotValidatorsMappingBase : U256 :=
  3

def packAddressActive (address : Address) (active : Bool) : U256 :=
  wordOf 256 (wordBytes 20 address ++ (if active then 1 else 0) :: List.replicate 11 0)

def unpackAddressActive (value : U256) : Address × Bool :=
  let bytes := wordBytes 32 value
  (wordOf 160 (bytes.take 20), decide (bytes.getD 20 0 ≠ 0))

def addressToPaddedU256 (address : Address) : U256 :=
  wordOf 256 (List.replicate 12 0 ++ wordBytes 20 address)

def u256ToAddress (value : U256) : Address :=
  wordOf 160 ((wordBytes 32 value).drop 12)

def lowLimb (value : U256) : UInt64 :=
  UInt64.ofNat value.toNat

def describe (address : Address) : String :=
  "0x" ++ hexText (wordBytes 20 address)

section Storage

variable (host : Host)

def mappingSlot (key : Address) (base : U256) : U256 :=
  host.keccak256 (List.replicate 12 0 ++ wordBytes 20 key ++ wordBytes 32 base)

def arrayElementSlot (base : U256) (index : UInt64) : U256 :=
  host.keccak256 (wordBytes 32 base) + BitVec.ofNat 256 index.toNat

def journalSload (slot : U256) : RegistryM U256 :=
  Exec.gets fun storage => storage slot

def journalSstore (slot value : U256) : RegistryM Unit :=
  Exec.modify fun storage => Function.update storage slot value

/-! ## Reading -/

def loadMemberCount : RegistryM UInt64 := do
  let count ← journalSload slotValidatorCount
  Exec.failIf (count > BitVec.ofNat 256 maxDkgParticipants)
    (.fatal "membership count exceeds the protocol limit")
  pure (lowLimb count)

structure StoredValidator where
  evmAddress : Address
  consensusPubkey : B256
  p2pAddress : String
  active : Bool
  index : UInt64
deriving DecidableEq

/-- The record of an address, checked against the array. -/
def loadValidatorRaw (address : Address) :
    RegistryM (Option StoredValidator) := do
  let entryBase := mappingSlot host address slotValidatorsMappingBase
  let packed ← journalSload entryBase
  if packed = 0 then
    pure none
  else
    let (evmAddress, active) := unpackAddressActive packed
    let packedBytes := wordBytes 32 packed
    Exec.failIf
      (evmAddress ≠ address ∨ packedBytes.getD 20 0 > 1 ∨
        (packedBytes.drop 21).any (fun byte => byte ≠ 0) = true)
      (.fatal "invalid membership identity or status")
    let consensus ← journalSload (entryBase + 1)
    let storedIndex ← journalSload (entryBase + 2)
    let count ← loadMemberCount
    Exec.failIf (storedIndex ≥ BitVec.ofNat 256 count.toNat)
      (.fatal "membership index exceeds the registry count")
    let index := lowLimb storedIndex
    let element ← journalSload (arrayElementSlot host slotValidatorsArrayBase index)
    Exec.failIf (element ≠ addressToPaddedU256 address)
      (.fatal "membership array and record disagree")
    let storedLength ← journalSload (entryBase + 3)
    Exec.failIf (storedLength > BitVec.ofNat 256 maxP2pAddressLen)
      (.fatal "membership route exceeds its storage bound")
    let p2pLen := (lowLimb storedLength).toNat
    let p2pData ← journalSload (entryBase + 4)
    match fromUtf8 ((wordBytes 32 p2pData).take p2pLen) with
    | none => Exec.fail (.fatal "membership route is not UTF-8")
    | some p2pAddress =>
      pure (some
        { evmAddress := evmAddress
          consensusPubkey := consensus
          p2pAddress := p2pAddress
          active := active
          index := index })

structure ValidatorInfo where
  evmAddress : String
  consensusPubkey : String
  p2pAddress : String
  active : Bool
  index : UInt64
deriving DecidableEq, Repr

def toValidatorInfo (raw : StoredValidator) : ValidatorInfo where
  evmAddress := describe raw.evmAddress
  consensusPubkey := hexText (wordBytes 32 raw.consensusPubkey)
  p2pAddress := raw.p2pAddress
  active := raw.active
  index := raw.index

def loadValidatorsAt : List UInt64 → RegistryM (List ValidatorInfo)
  | [] => pure []
  | index :: rest => do
      let element ← journalSload (arrayElementSlot host slotValidatorsArrayBase index)
      let address := u256ToAddress element
      match ← loadValidatorRaw host address with
      | none =>
        Exec.fail (.fatal "membership array references a missing record")
      | some raw =>
        Exec.failIf (raw.evmAddress ≠ address ∨ raw.index ≠ index)
          (.fatal "membership array and record disagree")
        let others ← loadValidatorsAt rest
        pure (toValidatorInfo raw :: others)

def loadAllValidators : RegistryM (List ValidatorInfo) := do
  let count ← loadMemberCount
  loadValidatorsAt host ((List.range count.toNat).map UInt64.ofNat)

def activeMembers (members : List ValidatorInfo) : List ValidatorInfo :=
  members.filter fun member => member.active

/-- Read the consensus keys of members back from their text. -/
def decodeKeys : List ValidatorInfo → Except Failure (List Bytes)
  | [] => .ok []
  | member :: rest =>
    match hexDecode (utf8 member.consensusPubkey) with
    | none => .error (.fatal "invalid consensus key encoding")
    | some key =>
      if key.length ≠ 32 then
        .error (.fatal "invalid consensus key encoding")
      else if host.readsPublicKey (wordOf 256 key) = false then
        .error (.fatal "invalid consensus key")
      else do
        let keys ← decodeKeys rest
        .ok (key :: keys)

def repeats : List Bytes → Bool
  | first :: second :: rest => first = second || repeats (second :: rest)
  | _ => false

def activeConsensusKeys : RegistryM (List Bytes) := do
  let members ← loadAllValidators host
  let keys ← Exec.ofExcept (decodeKeys host (activeMembers members))
  let sorted := keys.insertionSort (· ≤ ·)
  Exec.failIf (sorted.isEmpty = true ∨ repeats sorted = true)
    (.fatal "empty or duplicate consensus roster")
  pure sorted

def removesLastActive (active : Bool) : RegistryM Bool :=
  if active then do
    let members ← loadAllValidators host
    pure (decide ((activeMembers members).length ≤ 1))
  else
    pure false

/-! ## Writing -/

/-- The first bytes of a route, filled up with zeros. -/
def paddedRoute (route : Bytes) : U256 :=
  wordOf 256 (route.take 32 ++ List.replicate (32 - min route.length 32) 0)

def storeValidatorRaw (address : Address) (consensusPubkey : B256)
    (p2pAddress : String) (active : Bool) (index : UInt64) :
    RegistryM Unit := do
  let entryBase := mappingSlot host address slotValidatorsMappingBase
  journalSstore entryBase (packAddressActive address active)
  journalSstore (entryBase + 1) consensusPubkey
  journalSstore (entryBase + 2) (BitVec.ofNat 256 index.toNat)
  let p2pBytes := utf8 p2pAddress
  journalSstore (entryBase + 3) (BitVec.ofNat 256 p2pBytes.length)
  journalSstore (entryBase + 4) (paddedRoute p2pBytes)

def clearValidator (address : Address) : RegistryM Unit := do
  let entryBase := mappingSlot host address slotValidatorsMappingBase
  journalSstore (entryBase + 0) 0
  journalSstore (entryBase + 1) 0
  journalSstore (entryBase + 2) 0
  journalSstore (entryBase + 3) 0
  journalSstore (entryBase + 4) 0

end Storage

/-! ## Dispatch -/

inductive RegistryCall where
  | addValidator (evmAddr : Address) (consensusPubkey : B256) (p2pAddr : String)
  | removeValidator (evmAddr : Address)
  | setPolicy
  | setValidatorStatus (evmAddr : Address) (active : Bool)
  | setValidatorStatusByIndex (index : U256) (active : Bool)
  | updateP2PAddress (p2pAddr : String)
  | getValidators
  | getValidator (evmAddr : Address)
  | getActiveValidatorCount
deriving DecidableEq

/-- A decoded call with the length of its input, the signer and the gas it
comes with, and the answers of the other modules at that moment: the installed
membership policy and the access check of a policy. -/
structure Dispatch where
  call : RegistryCall
  inputLength : Nat
  signer : String
  gasLimit : Nat
  membershipPolicy : Except String (Option B256)
  verifyAccess : String → Did → Except String Bool

inductive RegistryEvent where
  | validatorAdded (evmAddr : Address) (consensusPubkey : B256)
  | validatorRemoved (evmAddr : Address)
  | validatorStatusChanged (evmAddr : Address) (active : Bool)
  | validatorUpdated (evmAddr : Address)
deriving DecidableEq

inductive Returned where
  | nothing
  | validators (members : List ValidatorInfo)
  | validator (member : Option ValidatorInfo)
  | activeCount (count : Nat)
deriving DecidableEq

structure DispatchResult where
  gasUsed : Nat
  returned : Returned
  events : List RegistryEvent
deriving DecidableEq

def inputCost (calldataLength : Nat) : Nat :=
  (calldataLength + 31) / 32 * 6

namespace RegistryCall

def baseGas : RegistryCall → Nat
  | .addValidator _ _ _ => 150000
  | .removeValidator _ => 150000
  | .setPolicy => 0
  | .setValidatorStatus _ _ => 50000
  | .setValidatorStatusByIndex _ _ => 50000
  | .updateP2PAddress _ => 60000
  | .getValidators => 20000
  | .getValidator _ => 15000
  | .getActiveValidatorCount => 10000

end RegistryCall

namespace Dispatch

def gasRequired (dispatch : Dispatch) : Nat :=
  dispatch.call.baseGas + inputCost dispatch.inputLength

end Dispatch

section Handlers

variable (host : Host) (maxActiveMembers : Nat)

def checkManageAccess (dispatch : Dispatch) (policyId : String)
    (callerDid : Did) : RegistryM Unit :=
  if policyId.toList.all (fun character => character = '0') then
    revert (.unauthorized "no ACP policy configured")
  else
    match dispatch.verifyAccess policyId callerDid with
    | .ok true => pure ()
    | .ok false => revert (.unauthorized "ACP denied manage permission")
    | .error message => revert (.state s!"ACP check failed: {message}")

/-- The installed membership policy, or else the one of the genesis. -/
def loadPolicyId (dispatch : Dispatch) : RegistryM String :=
  match dispatch.membershipPolicy with
  | .error message => Exec.fail (.other message)
  | .ok (some policy) => pure (hexText (wordBytes 32 policy))
  | .ok none => do
      let policy ← journalSload slotPolicyId
      pure (hexText (wordBytes 32 policy))

/-- Managing members takes the permission of the membership policy. -/
def authorize (dispatch : Dispatch) : RegistryM Unit := do
  let policyId ← loadPolicyId dispatch
  match Did.new dispatch.signer with
  | .error _ => revert (.unauthorized "invalid signer DID")
  | .ok callerDid => checkManageAccess dispatch policyId callerDid

def validateP2pAddress (address : String) :
    Except ValidatorRegistryError Unit :=
  if address = "" then
    .error (.invalidP2PAddress "empty")
  else if (utf8 address).length > maxP2pAddressLen then
    .error (.invalidP2PAddress "exceeds 32 bytes")
  else
    match host.parseSocketAddr address with
    | .error message => .error (.invalidP2PAddress message)
    | .ok () => .ok ()

def requireP2pAddress (address : String) : RegistryM Unit :=
  match validateP2pAddress host address with
  | .error error => revert error
  | .ok () => pure ()

def evmAddressFromSigner (signer : String) : Address :=
  if startsWith signer "0x" ∨ startsWith signer "0X" then
    (host.parseAddress signer).getD 0
  else if startsWith signer "did:key:" then
    (host.evmAddressFromDid signer).getD 0
  else
    0

def addValidator (evmAddr : Address) (consensusPubkey : B256)
    (p2pAddr : String) : RegistryM (List RegistryEvent) := do
  Exec.failIf (evmAddr = 0) (.reverted (.invalidAddress "zero address"))
  Exec.failIf (consensusPubkey = 0 ∨ host.readsPublicKey consensusPubkey = false)
    (.reverted .invalidPublicKey)
  requireP2pAddress host p2pAddr
  let existing ← loadValidatorRaw host evmAddr
  Exec.failIf (existing.isSome = true) (.reverted (.validatorAlreadyExists (describe evmAddr)))
  let count ← loadMemberCount
  Exec.failIf (count = UInt64.ofNat maxDkgParticipants)
    (.reverted (.membershipLimit maxDkgParticipants))
  let members ← loadAllValidators host
  Exec.failIf ((activeMembers members).length ≥ maxActiveMembers)
    (.reverted (.epochCapacity maxActiveMembers))
  Exec.failIf
    (members.any (fun existing => existing.consensusPubkey =
      hexText (wordBytes 32 consensusPubkey)) = true)
    (.reverted .duplicateConsensusKey)
  storeValidatorRaw host evmAddr consensusPubkey p2pAddr true count
  journalSstore (arrayElementSlot host slotValidatorsArrayBase count) (addressToPaddedU256 evmAddr)
  journalSstore slotValidatorCount (BitVec.ofNat 256 (count + 1).toNat)
  pure [.validatorAdded evmAddr consensusPubkey]

/-- The last member takes the position of the removed one. -/
def moveLast (index lastIndex : UInt64) : RegistryM Unit := do
  let lastSlot := arrayElementSlot host slotValidatorsArrayBase lastIndex
  let lastValue ← journalSload lastSlot
  journalSstore (arrayElementSlot host slotValidatorsArrayBase index) lastValue
  match ← loadValidatorRaw host (u256ToAddress lastValue) with
  | none =>
    revert (.state "swap-and-pop: last validator mapping corrupted")
  | some last =>
    storeValidatorRaw host last.evmAddress last.consensusPubkey last.p2pAddress last.active index
    journalSstore lastSlot 0

def removeValidator (evmAddr : Address) :
    RegistryM (List RegistryEvent) := do
  match ← loadValidatorRaw host evmAddr with
  | none => revert (.validatorNotFound (describe evmAddr))
  | some removed =>
    let last ← removesLastActive host removed.active
    Exec.failIf (last = true) (.reverted .emptyCommittee)
    let count ← loadMemberCount
    let lastIndex := count - 1
    if removed.index ≠ lastIndex then
      moveLast host removed.index lastIndex
    else
      journalSstore (arrayElementSlot host slotValidatorsArrayBase removed.index) 0
    clearValidator host evmAddr
    journalSstore slotValidatorCount (BitVec.ofNat 256 lastIndex.toNat)
    pure [.validatorRemoved evmAddr]

/-- Write the new status of a member, within the bounds of the committee. -/
def storeStatus (stored : StoredValidator) (active : Bool) :
    RegistryM Unit := do
  if active = false then
    let last ← removesLastActive host stored.active
    Exec.failIf (last = true) (.reverted .emptyCommittee)
  else
    pure ()
  if active = true ∧ stored.active = false then
    let members ← loadAllValidators host
    Exec.failIf ((activeMembers members).length ≥ maxActiveMembers)
      (.reverted (.epochCapacity maxActiveMembers))
  else
    pure ()
  storeValidatorRaw host stored.evmAddress stored.consensusPubkey
    stored.p2pAddress active stored.index

def setValidatorStatus (evmAddr : Address) (active : Bool) :
    RegistryM (List RegistryEvent) := do
  match ← loadValidatorRaw host evmAddr with
  | none => revert (.validatorNotFound (describe evmAddr))
  | some stored =>
    storeStatus host maxActiveMembers stored active
    pure [.validatorStatusChanged evmAddr active]

def setValidatorStatusByIndex (index : U256) (active : Bool) :
    RegistryM (List RegistryEvent) := do
  let count ← loadMemberCount
  Exec.failIf (index ≥ BitVec.ofNat 256 count.toNat)
    (.reverted (.validatorNotFound s!"index {index.toNat} out of range (count={count})"))
  let position := lowLimb index
  let element ← journalSload (arrayElementSlot host slotValidatorsArrayBase position)
  let target := u256ToAddress element
  match ← loadValidatorRaw host target with
  | none =>
    revert (.state s!"validator at index {position} has corrupted mapping")
  | some stored =>
    storeStatus host maxActiveMembers stored active
    pure [.validatorStatusChanged target active]

def updateP2PAddress (signer p2pAddr : String) :
    RegistryM (List RegistryEvent) := do
  let caller := evmAddressFromSigner host signer
  Exec.failIf (caller = 0) (.reverted (.unauthorized "could not derive caller address from signer"))
  requireP2pAddress host p2pAddr
  match ← loadValidatorRaw host caller with
  | none => revert (.unauthorized "caller is not a registered validator")
  | some stored =>
    storeValidatorRaw host stored.evmAddress stored.consensusPubkey p2pAddr
      stored.active stored.index
    pure [.validatorUpdated caller]

def handle (dispatch : Dispatch) : RegistryM (Returned × List RegistryEvent) := do
  match dispatch.call with
  | .addValidator evmAddr consensusPubkey p2pAddr =>
    authorize dispatch
    let events ← addValidator host maxActiveMembers evmAddr consensusPubkey p2pAddr
    pure (.nothing, events)
  | .removeValidator evmAddr =>
    authorize dispatch
    let events ← removeValidator host evmAddr
    pure (.nothing, events)
  | .setPolicy =>
    revert (.unauthorized "operator approvals are required to initialize membership policy")
  | .setValidatorStatus evmAddr active =>
    authorize dispatch
    let events ← setValidatorStatus host maxActiveMembers evmAddr active
    pure (.nothing, events)
  | .setValidatorStatusByIndex index active =>
    authorize dispatch
    let events ← setValidatorStatusByIndex host maxActiveMembers index active
    pure (.nothing, events)
  | .updateP2PAddress p2pAddr =>
    let events ← updateP2PAddress host dispatch.signer p2pAddr
    pure (.nothing, events)
  | .getValidators =>
    let members ← loadAllValidators host
    pure (.validators members, [])
  | .getValidator evmAddr =>
    let stored ← loadValidatorRaw host evmAddr
    pure (.validator (stored.map toValidatorInfo), [])
  | .getActiveValidatorCount =>
    let members ← loadAllValidators host
    pure (.activeCount (activeMembers members).length, [])

def dispatchWithJournal (dispatch : Dispatch) :
    RegistryM DispatchResult := do
  Exec.failIf (dispatch.gasLimit < dispatch.gasRequired ∧ dispatch.call ≠ .setPolicy) .outOfGas
  let (returned, events) ← handle host maxActiveMembers dispatch
  pure ⟨dispatch.gasRequired, returned, events⟩

/-- The storage after a dispatch; a rejected one is rolled back. -/
def perform (storage : Storage) (dispatch : Dispatch) : Storage :=
  match (dispatchWithJournal host maxActiveMembers dispatch).run storage with
  | (.ok _, final) => final
  | (.error _, _) => storage

def performAll (storage : Storage) (dispatches : List Dispatch) : Storage :=
  dispatches.foldl (perform host maxActiveMembers) storage

end Handlers

/-! ## Genesis -/

structure GenesisValidator where
  evmAddress : Address
  consensusPubkey : B256
  p2pAddress : String
deriving DecidableEq

section Genesis

variable (host : Host)

/-- The entries of the genesis validator at a position. -/
def genesisEntries (validator : GenesisValidator) (index : Nat) : List (U256 × U256) :=
  let entryBase := mappingSlot host validator.evmAddress slotValidatorsMappingBase
  let p2pBytes := utf8 validator.p2pAddress
  [(arrayElementSlot host slotValidatorsArrayBase (UInt64.ofNat index),
      addressToPaddedU256 validator.evmAddress),
    (entryBase, packAddressActive validator.evmAddress true),
    (entryBase + 1, validator.consensusPubkey), (entryBase + 2, BitVec.ofNat 256 index),
    (entryBase + 3, BitVec.ofNat 256 p2pBytes.length), (entryBase + 4, paddedRoute p2pBytes)]

def genesisStorageEntries (validators : List GenesisValidator)
    (policyIdHash : B256) : List (U256 × U256) :=
  (slotPolicyId, policyIdHash) ::
    (slotValidatorCount, BitVec.ofNat 256 validators.length) ::
      validators.zipIdx.flatMap fun entry => genesisEntries host entry.1 entry.2

def genesisStorage (validators : List GenesisValidator) (policyIdHash : B256) : Storage :=
  (genesisStorageEntries host validators policyIdHash).foldl
    (fun storage entry => Function.update storage entry.1 entry.2) fun _ => 0

end Genesis

end VeraHub.Executor.ValidatorRegistry
