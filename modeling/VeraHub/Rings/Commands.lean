import VeraHub.Rings.Types
import VeraHub.Vera.Delegation

/-!
# Ring operations

Actors create, update and cancel rings under a delegation and a permission of the
ring's policy.  Participants confirm or cancel a pending ring with their own
signature, and the ring itself authorizes a new committee with its threshold key.
Each operation decides on the record it finds and writes the changed one.
-/

namespace VeraHub.Rings

open VeraHub.Acp VeraHub.Vera VeraHub.Permission
open VeraHub.Zanzibar (Did)

/-! ## Stored records -/

/-- The bytes of a service record; no other value can be read as one. -/
def serviceBytes : VeraValue → Except String Bytes
  | .service bytes => .ok bytes
  | _ => .error "expected value"

def ringPath (id : String) : Bytes :=
  Hub.serviceKey ("ring/v1/" ++ id)

def ringKey (id : String) : Except RingError Bytes := do
  require ((utf8 id).length = 64 ∧ isLowerHex id = true) (invalid "invalid ring identifier")
  .ok (ringPath id)

section Reads

variable (host : RingHost)

def thresholdRing (id : String) (module : VeraModule) :
    Except RingError (Option RingRecord) := do
  let key ← ringKey id
  match module.store.get key with
  | none => .ok none
  | some value => do
      let bytes ← asInvalid (fun message => message) (serviceBytes value)
      require (bytes.length ≤ maxRingRecordBytes) (invalid "ring record exceeds byte limit")
      let record ← asInvalid (fun message => message) (host.readRecord bytes)
      record.validate host id
      .ok (some record)

def requireRing (id : String) (module : VeraModule) :
    Except RingError RingRecord := do
  match ← thresholdRing host id module with
  | some record => .ok record
  | none => .error (invalid "ring not found")

def recordBytes (record : RingRecord) : Except RingError Bytes := do
  record.validate host record.id
  let bytes := host.recordJson record
  require (bytes.length ≤ maxRingRecordBytes) (invalid "ring record exceeds byte limit")
  .ok bytes

/-! ## Nodes -/

def maxNodeBytes : Nat :=
  48 * 1024

def maxNodeTargets : Nat :=
  256

def identifier (value : String) (maximum : Nat) : Except RingError Unit :=
  require
    (value ≠ "" ∧ (utf8 value).length ≤ maximum ∧
      (utf8 value).all (fun byte => 33 ≤ byte && byte ≤ 126) = true)
    (invalidNode "invalid node peer or target identifier")

def validateTargets (entries : List String) : Except RingError Unit := do
  require (entries.length ≤ maxNodeTargets ∧ Sorted entries)
    (invalidNode "node targets must be bounded, unique and sorted")
  entries.forM fun entry => identifier entry 128

def NodeInfo.validate (info : NodeInfo) : Except RingError Unit := do
  identifier info.peerId 256
  let _ ← validateKey host info.controllerKey
  validateTargets info.allowedPolicyIds
  validateTargets info.allowedRingIds

def NodeRecord.validate (record : NodeRecord) (key : String) :
    Except RingError Unit := do
  let _ ← validateKey host key
  require (record.nodeKey = key ∧ record.sequence ≠ 0)
    (invalidNode "node record identity or sequence")
  record.info.validate host

def thresholdNode (key : String) (module : VeraModule) :
    Except RingError (Option NodeRecord) := do
  let path ← nodeKey host key
  match module.store.get path with
  | none => .ok none
  | some value => do
      let bytes ← (serviceBytes value).mapError invalidNode
      require (bytes.length ≤ maxNodeBytes) (invalidNode "node record exceeds byte limit")
      let record ← (host.readNode bytes).mapError invalidNode
      record.validate host key
      .ok (some record)

/-- Every key is a registered node that permits the ring. -/
def requireRingNodes (record : RingRecord) (module : VeraModule)
    (keys : List String) : Except RingError Unit :=
  keys.forM fun key => do
    match ← thresholdNode host key module with
    | none => .error (invalid "ring node not registered")
    | some node =>
      require (node.info.allowsRing record.config.policyId record.id = true)
        (invalid "node controller does not permit this ring")

/-! ## Changed records -/

def RingRecord.advance (record : RingRecord) (revision : Timestamp) :
    Except RingError RingRecord :=
  match checkedSucc record.sequence with
  | none => .error (invalid "ring sequence exhausted")
  | some sequence =>
    .ok { record with sequence := sequence, revision := revision }

/-- A record to be written, with its key and its bytes. -/
structure Sealed where
  record : RingRecord
  key : Bytes
  bytes : Bytes

def sealRecord (revision : Timestamp) (record : RingRecord) :
    Except RingError Sealed := do
  let record ← record.advance revision
  let bytes ← recordBytes host record
  let key ← ringKey record.id
  .ok ⟨record, key, bytes⟩

def withSealed (sealed : Sealed) (module : VeraModule) : VeraModule :=
  module.withStored sealed.key (.service sealed.bytes)

end Reads

/-! ## Permissions -/

section Permissions

variable (externals : Externals)

/-- Whether every operation of a request is granted; the first that is not ends
the check. -/
def grantsAll (engine : Zanzibar.PermissionEngine Capture) (policyId : String)
    (actor : Did) : List Operation → Exec Capture AcpError Bool
  | [] => pure true
  | operation :: rest => fun capture =>
    match (engine.check
        ⟨policyId, operation.object.resource, operation.object.id,
          operation.permission, actor⟩).run capture with
    | (.error error, capture) =>
      (.error (.state s!"permission evaluation failed: {error.text}"), capture)
    | (.ok false, capture) => (.ok false, capture)
    | (.ok true, capture) =>
      (grantsAll engine policyId actor rest).run capture

def queryVerifyAccessRequest (policyId : String) (request : AccessRequest)
    (module : AcpModule) : Except AcpError Bool := do
  let policy ← AcpModule.cachedPolicy policyId module
  ((grantsAll (AcpModule.permissionEngine externals policy module) policyId
    request.actor.did request.operations).run (Capture.new permissionReadLimits)).1

/-- The actor holds a permission on one object of a policy. -/
def requirePermission (policyId : String) (actor : Did)
    (resource objectId permission denied : String) (module : AcpModule) :
    Except RingError Unit := do
  let granted ← asInvalid AcpError.text
    (queryVerifyAccessRequest externals policyId
      ⟨[⟨⟨resource, objectId⟩, permission⟩], ⟨actor⟩⟩ module)
  require (granted = true) (invalid denied)

end Permissions

/-! ## Updates -/

namespace RingUpdate

def isRelayUpdate : RingUpdate → Bool
  | .addRelay _ => true
  | .removeRelay _ => true
  | _ => false

/-- Updates that first fold a matured upgrade into the current version. -/
def normalizes : RingUpdate → Bool
  | .cancelUpgrade => false
  | update => !update.isRelayUpdate

end RingUpdate

def requireRelays (settings : RingSettings) : Except RingError (List String) :=
  match settings.trustedAuthRelayDids with
  | some relays => .ok relays
  | none => .error (invalid "ring relays permanently disabled")

section Updates

variable (host : RingHost)

def RingSettings.update (settings : RingSettings) (now : UInt64)
    (record : RingRecord) (module : VeraModule) : RingUpdate → Except RingError RingSettings
  | .setPssInterval interval => do
      require (¬ (interval < 86400 ∨ interval = settings.pssInterval))
        (invalid "refresh interval is invalid or unchanged")
      .ok { settings with pssInterval := interval }
  | .scheduleUpgrade upgrade => do
      require (now.toNat + 600 < 2 ^ 64) (invalid "upgrade time overflow")
      require
        (¬ (upgrade.version ≤ settings.currentVersion ∨ upgrade.activatesAt < now + 600 ∨
          settings.scheduledUpgrade = some upgrade))
        (invalid "upgrade is invalid or unchanged")
      .ok { settings with scheduledUpgrade := some upgrade }
  | .cancelUpgrade =>
    match settings.scheduledUpgrade with
    | none => .error (invalid "upgrade is not scheduled")
    | some upgrade => do
        require (now < upgrade.activatesAt) (invalid "upgrade is already active")
        .ok { settings with scheduledUpgrade := none }
  | .setReporting reporting => do
      require (reporting ≠ settings.reporting) (invalid "reporting settings unchanged")
      requireRingNodes host record module reporting.backupNodeKeys
      .ok { settings with reporting := reporting }
  | .addRelay relay => do
      let relays ← requireRelays settings
      match binarySearch relays relay with
      | .error index =>
        .ok { settings with
          trustedAuthRelayDids := some (relays.insertIdx index relay) }
      | .ok _ => .error (invalid "relay already present or absent")
  | .removeRelay relay => do
      let relays ← requireRelays settings
      match binarySearch relays relay with
      | .ok index =>
        .ok { settings with
          trustedAuthRelayDids := some (relays.eraseIdx index) }
      | .error _ => .error (invalid "relay already present or absent")
  | .startReshare peerNodeKeys threshold => do
      require (settings.pendingReshare = none) (invalid "reshare already pending")
      let peers := peerNodeKeys.getD settings.peerNodeKeys
      keys host peers false
      let threshold := threshold.getD settings.threshold
      require
        (¬ (threshold = 0 ∨ threshold.toNat > peers.length ∨
          (peers = settings.peerNodeKeys ∧ threshold = settings.threshold)))
        (invalid "reshare target is invalid or unchanged")
      requireRingNodes host record module peers
      .ok { settings with pendingReshare := some ⟨peers, threshold⟩ }

def updateRing (externals : Externals) (context : BlockExecCtx) (actor : Did)
    (id : String) (expectedSequence : UInt64) (update : RingUpdate)
    (hub : Hub) : Except RingError RingRecord := do
  let record ← requireRing host id hub.vera
  require (record.sequence = expectedSequence) (invalid "ring sequence changed")
  require
    (record.state.isActive = true ∨ update.isRelayUpdate = true ∧ record.state.isPending = true)
    (invalid "ring is not active")
  requirePermission externals record.config.policyId actor "ring" id
    "update_ring" "actor cannot update this ring" hub.acp
  let settings :=
    if update.normalizes then
      record.currentSettings.normalizeUpgrade context.timestamp.seconds
    else
      record.currentSettings
  let settings ← settings.update host context.timestamp.seconds record hub.vera update
  .ok { record with settings := some settings }

end Updates

/-! ## Commands -/

section Commands

variable (host : RingHost) (externals : Externals) (context : BlockExecCtx) (actor : Did)

def createRing (config : RingConfig) (hub : Hub) :
    Except RingError RingRecord := do
  let id ← config.id host context.genesisId actor.asStr
  let existing ← thresholdRing host id hub.vera
  require (existing = none) (invalid "ring identity already used")
  (config.peerNodeKeys ++ config.reporting.backupNodeKeys).forM fun key => do
    let node ← thresholdNode host key hub.vera
    require (node.isSome = true) (invalid "ring node is not registered")
  requirePermission externals config.policyId actor "ring_policy" config.policyId "create_ring"
    "actor cannot create a ring under this policy" hub.acp
  .ok
    { id := id
      deploymentRoot := context.genesisId
      creator := actor.asStr
      config := config
      state := .pending none []
      revision := context.timestamp
      settings := none
      sequence := 0 }

def cancelRing (id : String) (hub : Hub) : Except RingError RingRecord := do
  let record ← requireRing host id hub.vera
  require (record.creator = actor.asStr ∧ record.state.isPending = true)
    (invalid "only the creator can cancel a pending ring")
  .ok { record with state := .cancelled actor.asStr }

def commandRecord (command : RingCommand) (hub : Hub) :
    Except RingError RingRecord :=
  match command with
  | .create config => createRing host externals context actor config hub
  | .update id expectedSequence update =>
    updateRing host externals context actor id expectedSequence update hub
  | .cancel id => cancelRing host actor id hub

/-- A created ring is registered as an object of its policy. -/
def registrationOf (command : RingCommand) (record : RingRecord) : Option (String × Object) :=
  match command with
  | .create _ => some (record.config.policyId, ⟨"ring", record.id⟩)
  | _ => none

def ringOutcome (command : RingCommand) (hub : Hub) :
    Except RingError ServiceOutcome := do
  let record ← commandRecord host externals context actor command hub
  let sealed ← sealRecord host context.timestamp record
  .ok
    { registration := registrationOf command sealed.record
      path := "ring/v1/" ++ sealed.record.id
      record := sealed.bytes
      result := sealed.bytes }

end Commands

/-- Execute a command with the revocation, rollback and retry handling that all
delegated operations share. -/
def applyRingCommand (host : RingHost) (externals : HubExternals)
    (context : BlockExecCtx) (submission : TxExecCtx) (token : String)
    (command : RingCommand) : HubM RingError OperationResult := do
  Exec.failIf ((host.commandJson command).length > maxRingRequestBytes)
    (invalid "ring command exceeds byte limit")
  let operation := DelegatedOperation.ringCommand (host.commandJson command)
  Exec.within (fun hub => hub) (fun _ hub => hub) (fun error => invalid (AcpError.text error))
    (Hub.withDelegation externals context submission token operation.scope
      (operation.digest externals) operation.readResult fun actor =>
        Hub.serve externals actor 4 fun hub =>
          (ringOutcome host externals.acp context actor command hub).mapError
            fun error => .state error.text)

/-! ## Participants -/

section Participants

variable (host : RingHost)

def RingParticipantRequest.signingDigest (request : RingParticipantRequest) :
    Except RingError Bytes := do
  let bytes := host.requestBorsh request
  require (bytes.length ≤ maxRingRequestBytes) (invalid "confirmation exceeds byte limit")
  .ok (host.crypto.sha256 (utf8 "vera/orbis/ring-participant/v1" ++ [0] ++ bytes))

def signatureBytes (text noncanonical : String) : Except RingError Bytes :=
  match hexDecode (utf8 text) with
  | none => .error (invalid "Invalid character")
  | some signature =>
    if hexEncode signature ≠ utf8 text then
      .error (invalid noncanonical)
    else
      .ok signature

def checkParticipantSignature (signed : SignedRingParticipantRequest) :
    Except RingError Unit := do
  let _ ← asInvalid RingError.text (nodeKey host signed.request.nodeKey)
  require ((utf8 signed.signature).length = 128) (invalid "invalid ring signature length")
  let signature ← signatureBytes signed.signature "noncanonical ring signature"
  match hexDecode (utf8 signed.request.nodeKey) with
  | none => .error (invalid "Invalid character")
  | some publicKey => do
      let digest ← signed.request.signingDigest host
      asInvalid cryptoReason (host.crypto.verifyDigest publicKey digest signature)

def participantDid (key : String) : Except RingError String :=
  match hexDecode (utf8 key) with
  | none => .error (invalid "Invalid character")
  | some publicKey =>
    asInvalid (fun message => message) (host.crypto.didFromPubkey publicKey)

/-- The state after a confirmation: a second key is a conflict, and the last
confirmation activates the ring. -/
def confirmedState (config : RingConfig) (publicKey : Option String)
    (confirmations : List String) (position : Nat) (node key : String) :
    RingState :=
  match publicKey.filter (fun first => first ≠ key) with
  | some first => .conflict first key node
  | none =>
    let confirmations := confirmations.insertIdx position node
    if confirmations.length = config.peerNodeKeys.length then
      .active key
    else
      .pending (some key) confirmations

def participantState (record : RingRecord) (request : RingParticipantRequest)
    (publicKey : Option String) (confirmations : List String)
    (module : VeraModule) : Except RingError RingState :=
  match request.command with
  | .cancel => do
      let did ← participantDid host request.nodeKey
      .ok (.cancelled did)
  | .confirm key => do
      publicKeyValue key
      match ← thresholdNode host request.nodeKey module with
      | none => .error (invalid "node not registered")
      | some node => do
          require (node.info.allowsRing record.config.policyId record.id = true)
            (invalid "node controller does not permit this ring")
          match binarySearch confirmations request.nodeKey with
          | .ok _ => .error (invalid "node already confirmed")
          | .error position =>
            .ok (confirmedState record.config publicKey confirmations position request.nodeKey key)

def participantOutcome (context : BlockExecCtx)
    (signed : SignedRingParticipantRequest) (module : VeraModule) :
    Except RingError Sealed := do
  require ((host.participantJson signed).length ≤ maxRingRequestBytes)
    (invalid "ring request exceeds byte limit")
  let request := signed.request
  require
    (request.deploymentRoot = context.genesisId ∧ request.deploymentId = context.deploymentId ∧
      context.timestamp.seconds ≤ request.expiresAt)
    (invalid "ring request deployment or expiry")
  let record ← requireRing host request.ringId module
  require
    (record.deploymentRoot = context.genesisId ∧
      contains record.config.peerNodeKeys request.nodeKey = true)
    (invalid "signer is not a ring participant")
  checkParticipantSignature host signed
  match record.state with
  | .pending publicKey confirmations => do
      let state ← participantState host record request publicKey confirmations module
      sealRecord host context.timestamp { record with state := state }
  | _ => .error (invalid "ring is not pending")

/-- Record a participant's signed confirmation or cancellation. -/
def applyRingParticipantRequest (context : BlockExecCtx) (signed : SignedRingParticipantRequest) :
    Exec VeraModule RingError RingRecord := do
  let sealed ← Exec.query (participantOutcome host context signed)
  Exec.modify (withSealed sealed)
  pure sealed.record

end Participants

/-! ## Committee changes -/

def ringDeploymentLabel (root : Bytes) (deploymentId : UInt64) : String :=
  s!"vera:{deploymentId}:{hexText root}"

section Reshares

variable (host : RingHost)

/-- The state of an active ring with a target, as its signers see it. -/
def RingRecord.signState (record : RingRecord) (publicKey : String)
    (target : ReshareTarget) : SignState where
  publicKey := publicKey
  peers := record.currentSettings.peerNodeKeys
  threshold := record.currentSettings.threshold
  nextPeers := target.peerNodeKeys
  nextThreshold := some target.threshold
  sequence := record.sequence
  policyId := record.config.policyId
  relays := record.currentSettings.trustedAuthRelayDids.getD []
  allowRelays := record.currentSettings.trustedAuthRelayDids.isSome

def SignState.finalized (state : SignState) (target : ReshareTarget) :
    SignState :=
  { state with
    peers := target.peerNodeKeys
    threshold := target.threshold
    nextPeers := []
    nextThreshold := none }

def RingRecord.signDoc (record : RingRecord) (deploymentId : UInt64)
    (publicKey : String) (target : ReshareTarget) : SignDoc where
  domain := "orbis-ring-reshare-finalize"
  deployment := ringDeploymentLabel record.deploymentRoot deploymentId
  ringId := record.id
  publicKey := publicKey
  currentState := host.crypto.sha256 (host.stateProto (record.signState publicKey target))
  finalizedState := host.crypto.sha256
    (host.stateProto ((record.signState publicKey target).finalized target))
  sequence := record.sequence

/-- The key and the pending target of an active ring, and the bytes that
authorize the change. -/
def RingRecord.reshareSigningBytes (record : RingRecord)
    (deploymentId : UInt64) : Except RingError (String × Bytes) := do
  record.validate host record.id
  match record.state with
  | .active publicKey =>
    match record.currentSettings.pendingReshare with
    | none => .error (invalid "reshare is not pending")
    | some target =>
      .ok (publicKey, host.docProto (record.signDoc host deploymentId publicKey target))
  | _ => .error (invalid "ring is not active")

def RingSettings.finalizeTarget (settings : RingSettings) (target : ReshareTarget) : RingSettings :=
  { settings with
    pendingReshare := none
    peerNodeKeys := target.peerNodeKeys
    threshold := target.threshold }

def checkThresholdSignature (scheme : ThresholdScheme)
    (publicKey : String) (message signature : Bytes) :
    Except RingError Unit :=
  match hexDecode (utf8 publicKey) with
  | none => .error (invalid "Invalid character")
  | some key =>
    require (host.verifyThreshold scheme key message signature = true)
      (invalid "invalid threshold signature")

def reshareOutcome (context : BlockExecCtx) (request : RingReshareRequest)
    (module : VeraModule) : Except RingError Sealed := do
  require
    ((host.reshareJson request).length ≤ maxRingRequestBytes ∧
      request.deploymentRoot = context.genesisId ∧ request.deploymentId = context.deploymentId)
    (invalid "reshare request size or deployment mismatch")
  let record ← requireRing host request.ringId module
  require (record.deploymentRoot = context.genesisId ∧ record.sequence = request.expectedSequence)
    (invalid "ring deployment or sequence changed")
  let (publicKey, message) ← record.reshareSigningBytes host context.deploymentId
  let signature ← signatureBytes request.signature "noncanonical threshold signature"
  checkThresholdSignature host request.scheme publicKey message signature
  match record.currentSettings.pendingReshare with
  | none => .error (invalid "reshare is not pending")
  | some target => do
      requireRingNodes host record module target.peerNodeKeys
      sealRecord host context.timestamp { record with
          settings := some (record.currentSettings.finalizeTarget target) }

/-- Finalize a pending reshare under the ring's own key. -/
def finalizeRingReshare (context : BlockExecCtx)
    (request : RingReshareRequest) : Exec VeraModule RingError RingRecord := do
  let sealed ← Exec.query (reshareOutcome host context request)
  Exec.modify (withSealed sealed)
  pure sealed.record

end Reshares

end VeraHub.Rings
