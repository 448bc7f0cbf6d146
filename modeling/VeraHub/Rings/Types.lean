import VeraHub.Vera.Administration

/-!
# Records of threshold rings

A ring is created with a configuration that its identifier commits to.  Its
record carries the state of the key generation, a sequence that counts changes
and, once something was changed, the current settings.  Every record is validated
before it is written and after it is read.
-/

namespace VeraHub.Rings

open VeraHub.Acp (Timestamp)
open VeraHub.Vera (Crypto VeraError)
open VeraHub.Zanzibar (Did startsWith)

/-! ## Failures -/

/-- Failures of ring and node requests. -/
inductive RingError where
  | invalidRingRequest (reason : String)
  | invalidNodeRequest (reason : String)
deriving DecidableEq, Repr

def RingError.text : RingError → String
  | .invalidRingRequest reason => s!"invalid ring request: {reason}"
  | .invalidNodeRequest reason => s!"invalid node request: {reason}"

def invalid (reason : String) : RingError :=
  .invalidRingRequest reason

def invalidNode (reason : String) : RingError :=
  .invalidNodeRequest reason

/-- A failure of any part, as the reason of a rejected ring request. -/
def asInvalid {ε α : Type} (text : ε → String) (result : Except ε α) :
    Except RingError α :=
  result.mapError fun error => invalid (text error)

/-- The bare reason of a failed key or signature check. -/
def cryptoReason : VeraError → String
  | .invalidAdministrativeRequest reason => reason
  | error => error.text

def require (condition : Prop) [Decidable condition] (error : RingError) :
    Except RingError Unit :=
  if condition then .ok () else .error error

/-! ## Configuration -/

def maxRingRequestBytes : Nat :=
  48 * 1024

def maxRingRecordBytes : Nat :=
  128 * 1024

def maxRingMembers : Nat :=
  256

structure ReportingConfig where
  nodeOfflineDemerits : UInt64
  invalidCryptoResponseDemerits : UInt64
  unauthorizedRequestDemerits : UInt64
  resetIntervalSeconds : UInt64
  kickThreshold : UInt64
  backupNodeKeys : List String
deriving DecidableEq

/-- Creation parameters; without a relay set, relays are disabled for good. -/
structure RingConfig where
  policyId : String
  peerNodeKeys : List String
  threshold : UInt32
  pssInterval : UInt64
  currentVersion : UInt64
  nonce : Bytes
  trustedAuthRelayDids : Option (List String)
  reporting : ReportingConfig
deriving DecidableEq

structure ScheduledUpgrade where
  version : UInt64
  activatesAt : UInt64
deriving DecidableEq

structure ReshareTarget where
  peerNodeKeys : List String
  threshold : UInt32
deriving DecidableEq

/-- Mutable service configuration. -/
structure RingSettings where
  peerNodeKeys : List String
  threshold : UInt32
  pssInterval : UInt64
  currentVersion : UInt64
  scheduledUpgrade : Option ScheduledUpgrade
  reporting : ReportingConfig
  trustedAuthRelayDids : Option (List String)
  pendingReshare : Option ReshareTarget
deriving DecidableEq

/-! ## Records -/

inductive RingState where
  | pending (publicKey : Option String) (confirmations : List String)
  | active (publicKey : String)
  | cancelled (by_ : String)
  | conflict (firstKey conflictingKey by_ : String)
deriving DecidableEq

namespace RingState

def isPending : RingState → Bool
  | .pending _ _ => true
  | _ => false

def isActive : RingState → Bool
  | .active _ => true
  | _ => false

end RingState

structure RingRecord where
  id : String
  deploymentRoot : Bytes
  creator : String
  config : RingConfig
  state : RingState
  revision : Timestamp
  settings : Option RingSettings
  sequence : UInt64
deriving DecidableEq

/-! ## Requests -/

inductive RingUpdate where
  | setPssInterval (interval : UInt64)
  | scheduleUpgrade (upgrade : ScheduledUpgrade)
  | cancelUpgrade
  | setReporting (reporting : ReportingConfig)
  | addRelay (relay : String)
  | removeRelay (relay : String)
  | startReshare (peerNodeKeys : Option (List String)) (threshold : Option UInt32)
deriving DecidableEq

/-- Commands that take an actor's delegation and permission. -/
inductive RingCommand where
  | create (config : RingConfig)
  | update (ringId : String) (expectedSequence : UInt64) (update : RingUpdate)
  | cancel (ringId : String)
deriving DecidableEq

inductive RingParticipantCommand where
  | confirm (publicKey : String)
  | cancel
deriving DecidableEq

structure RingParticipantRequest where
  deploymentRoot : Bytes
  deploymentId : UInt64
  ringId : String
  nodeKey : String
  command : RingParticipantCommand
  expiresAt : UInt64
deriving DecidableEq

structure SignedRingParticipantRequest where
  request : RingParticipantRequest
  signature : String
deriving DecidableEq

inductive ThresholdScheme where
  | decaf377Frost
  | bls12381AugV1
deriving DecidableEq

/-- Threshold authorization for the announced committee change. -/
structure RingReshareRequest where
  deploymentRoot : Bytes
  deploymentId : UInt64
  ringId : String
  expectedSequence : UInt64
  scheme : ThresholdScheme
  signature : String
deriving DecidableEq

/-! ## Signed documents -/

/-- The state of a ring as reshare signers see it. -/
structure SignState where
  publicKey : String
  peers : List String
  threshold : UInt32
  nextPeers : List String
  nextThreshold : Option UInt32
  sequence : UInt64
  policyId : String
  relays : List String
  allowRelays : Bool
deriving DecidableEq

structure SignDoc where
  domain : String
  deployment : String
  ringId : String
  publicKey : String
  currentState : Bytes
  finalizedState : Bytes
  sequence : UInt64
deriving DecidableEq

/-! ## Nodes -/

structure NodeInfo where
  peerId : String
  controllerKey : String
  allowedPolicyIds : List String
  allowedRingIds : List String
deriving DecidableEq

structure NodeRecord where
  nodeKey : String
  info : NodeInfo
  sequence : UInt64
deriving DecidableEq

/-- Whether a node permits a ring directly or through its policy. -/
def NodeInfo.allowsRing (info : NodeInfo) (policyId ringId : String) : Bool :=
  info.allowedPolicyIds.any (fun id => id = policyId) ||
    info.allowedRingIds.any (fun id => id = ringId)

/-- What ring operations take from other libraries: key and signature checks,
and the encodings of records, requests and signed documents. -/
structure RingHost where
  crypto : Crypto
  base58Decode : String → Except String Bytes
  base58Encode : Bytes → String
  configBorsh : Bytes → String → RingConfig → Bytes
  requestBorsh : RingParticipantRequest → Bytes
  recordJson : RingRecord → Bytes
  readRecord : Bytes → Except String RingRecord
  readNode : Bytes → Except String NodeRecord
  commandJson : RingCommand → Bytes
  participantJson : SignedRingParticipantRequest → Bytes
  reshareJson : RingReshareRequest → Bytes
  stateProto : SignState → Bytes
  docProto : SignDoc → Bytes
  verifyThreshold : ThresholdScheme → Bytes → Bytes → Bytes → Bool

/-! ## Texts and key sets -/

def hasUppercase (text : String) : Bool :=
  (utf8 text).any fun byte => 65 ≤ byte && byte ≤ 90

def isLowerHex (text : String) : Bool :=
  (hexDecode (utf8 text)).isSome && !hasUppercase text

def Sorted (values : List String) : Prop :=
  (values.map utf8).IsChain (· < ·)

instance (values : List String) : Decidable (Sorted values) :=
  inferInstanceAs (Decidable (List.IsChain (· < ·) _))

/-- Where a sorted list holds a text, or where it would have to be inserted. -/
def binarySearch (values : List String) (value : String) : Except Nat Nat :=
  match values.findIdx? (fun other => other = value) with
  | some index => .ok index
  | none => .error (values.countP fun other => utf8 other < utf8 value)

def contains (values : List String) (value : String) : Bool :=
  match binarySearch values value with
  | .ok _ => true
  | .error _ => false

section Validation

variable (host : RingHost)

def validateKey (key : String) : Except RingError Bytes :=
  if (utf8 key).length ≠ 66 then
    .error (invalidNode "node keys must contain 33 bytes")
  else
    match hexDecode (utf8 key) with
    | none => .error (invalidNode "Invalid character")
    | some bytes =>
      if hexEncode bytes ≠ utf8 key then
        .error (invalidNode "node keys must use lowercase hexadecimal")
      else
        match host.crypto.decodePubkey bytes with
        | .error error => .error (invalidNode (cryptoReason error))
        | .ok () => .ok bytes

def nodeKey (key : String) : Except RingError Bytes := do
  let _ ← validateKey host key
  .ok (utf8 "orbis/node/v1/" ++ utf8 key)

def keys (values : List String) (empty : Bool) : Except RingError Unit := do
  require (¬ ((empty = false ∧ values = []) ∨ values.length > maxRingMembers ∨ ¬ Sorted values))
    (invalid "node set must be bounded, sorted and unique")
  values.forM fun key => do
    let _ ← asInvalid RingError.text (nodeKey host key)
    .ok ()

def publicKeyValue (value : String) : Except RingError Unit :=
  require (¬ (value = "" ∨ (utf8 value).length > 8192 ∨ isLowerHex value = false))
    (invalid "invalid public key declaration")

def validateRelay (did : String) : Except RingError Unit := do
  require ((utf8 did).length ≤ 256) (invalid "relay identity exceeds byte limit")
  require (startsWith did "did:key:z" = true) (invalid "relay must be an Ed25519 key DID")
  let encoded := String.ofList (did.toList.drop 9)
  let bytes ← asInvalid (fun message => message) (host.base58Decode encoded)
  require (bytes.length = 34 ∧ bytes.take 2 = [0xed, 0x01] ∧ host.base58Encode bytes = encoded)
    (invalid "relay must be a canonical Ed25519 key DID")

def validateRelays : Option (List String) → Except RingError Unit
  | none => .ok ()
  | some relays => do
      require (relays.length ≤ maxRingMembers ∧ Sorted relays)
        (invalid "relay set must be bounded, sorted and unique")
      relays.forM (validateRelay host)

namespace RingConfig

def validate (config : RingConfig) : Except RingError Unit := do
  require ((utf8 config.policyId).length = 64 ∧ isLowerHex config.policyId = true)
    (invalid "invalid ring policy identifier")
  keys host config.peerNodeKeys false
  keys host config.reporting.backupNodeKeys true
  require
    (¬ (config.threshold = 0 ∨ config.threshold.toNat > config.peerNodeKeys.length ∨
      config.pssInterval < 86400 ∨ config.reporting.resetIntervalSeconds = 0 ∨
      config.reporting.kickThreshold = 0 ∨ config.reporting.nodeOfflineDemerits = 0 ∨
      config.reporting.invalidCryptoResponseDemerits = 0 ∨
      config.reporting.unauthorizedRequestDemerits = 0))
    (invalid "invalid ring threshold, refresh interval or reporting bounds")
  validateRelays host config.trustedAuthRelayDids

/-- The identifier binds deployment, creator and all creation parameters. -/
def id (config : RingConfig) (deploymentRoot : Bytes) (creator : String) :
    Except RingError String := do
  config.validate host
  let _ ← asInvalid Zanzibar.Error.text (Did.new creator)
  let bytes := host.configBorsh deploymentRoot creator config
  require (bytes.length ≤ maxRingRequestBytes) (invalid "ring configuration exceeds byte limit")
  .ok (hexText (host.crypto.sha256 (utf8 "vera/orbis/ring/v1" ++ [0] ++ bytes)))

end RingConfig

namespace RingSettings

def effectiveVersion (settings : RingSettings) (timestamp : UInt64) : UInt64 :=
  match settings.scheduledUpgrade with
  | some upgrade =>
    if timestamp ≥ upgrade.activatesAt then
      upgrade.version
    else
      settings.currentVersion
  | none => settings.currentVersion

def normalizeUpgrade (settings : RingSettings) (timestamp : UInt64) :
    RingSettings :=
  match settings.scheduledUpgrade with
  | some upgrade =>
    if timestamp ≥ upgrade.activatesAt then
      { settings with
        currentVersion := upgrade.version
        scheduledUpgrade := none }
    else
      settings
  | none => settings

/-- The creation parameters with the settings in place. -/
def config (settings : RingSettings) (config : RingConfig) : RingConfig :=
  { config with
    peerNodeKeys := settings.peerNodeKeys
    threshold := settings.threshold
    pssInterval := settings.pssInterval
    currentVersion := settings.currentVersion
    reporting := settings.reporting
    trustedAuthRelayDids := settings.trustedAuthRelayDids }

def validateTarget (settings : RingSettings) (state : RingState) :
    Option ReshareTarget → Except RingError Unit
  | none => .ok ()
  | some target => do
      keys host target.peerNodeKeys false
      require
        (¬ (state.isActive = false ∨ target.threshold = 0 ∨
          target.threshold.toNat > target.peerNodeKeys.length ∨
          (target.peerNodeKeys = settings.peerNodeKeys ∧ target.threshold = settings.threshold)))
        (invalid "invalid pending reshare")

def SoundSchedule (settings : RingSettings) : Prop :=
  ∀ upgrade ∈ settings.scheduledUpgrade,
    settings.currentVersion < upgrade.version ∧ upgrade.activatesAt ≠ 0

instance (settings : RingSettings) : Decidable settings.SoundSchedule :=
  inferInstanceAs (Decidable (∀ upgrade ∈ settings.scheduledUpgrade, _))

def validate (settings : RingSettings) (record : RingRecord) :
    Except RingError Unit := do
  (settings.config record.config).validate host
  require
    (¬ (settings.currentVersion < record.config.currentVersion ∨
      settings.trustedAuthRelayDids.isSome ≠ record.config.trustedAuthRelayDids.isSome))
    (invalid "ring version or immutable relay setting changed")
  require settings.SoundSchedule (invalid "invalid scheduled ring upgrade")
  settings.validateTarget host record.state settings.pendingReshare
  require
    (¬ (record.state.isActive = false ∧
      (settings.peerNodeKeys ≠ record.config.peerNodeKeys ∨
        settings.threshold ≠ record.config.threshold ∨
        settings.pssInterval ≠ record.config.pssInterval ∨
        settings.currentVersion ≠ record.config.currentVersion ∨
        settings.scheduledUpgrade.isSome = true ∨ settings.reporting ≠ record.config.reporting)))
    (invalid "inactive ring has active service settings")

end RingSettings

namespace RingRecord

/-- The settings in force: the creation parameters, until something changes. -/
def currentSettings (record : RingRecord) : RingSettings :=
  record.settings.getD
    { peerNodeKeys := record.config.peerNodeKeys
      threshold := record.config.threshold
      pssInterval := record.config.pssInterval
      currentVersion := record.config.currentVersion
      scheduledUpgrade := none
      reporting := record.config.reporting
      trustedAuthRelayDids := record.config.trustedAuthRelayDids
      pendingReshare := none }

def validateState (record : RingRecord) : Except RingError Unit :=
  match record.state with
  | .pending publicKey confirmations => do
      keys host confirmations true
      require
        (¬ (confirmations.length ≥ record.config.peerNodeKeys.length ∨ (confirmations.any fun key =>
            !contains record.config.peerNodeKeys key) = true ∨
          publicKey.isSome = confirmations.isEmpty))
        (invalid "invalid pending confirmations")
      match publicKey with
      | some key => publicKeyValue key
      | none => .ok ()
  | .active publicKey => publicKeyValue publicKey
  | .cancelled by_ => do
      let _ ← asInvalid Zanzibar.Error.text (Did.new by_)
      .ok ()
  | .conflict firstKey conflictingKey by_ => do
      publicKeyValue firstKey
      publicKeyValue conflictingKey
      require (firstKey ≠ conflictingKey ∧ contains record.config.peerNodeKeys by_ = true)
        (invalid "invalid conflicting confirmation")

def validate (record : RingRecord) (expected : String) :
    Except RingError Unit := do
  require (record.id = expected) (invalid "ring record identity or revision mismatch")
  let committed ← record.config.id host record.deploymentRoot record.creator
  require (committed = expected ∧ record.revision.blockHeight ≠ 0 ∧ record.revision.seconds ≠ 0)
    (invalid "ring record identity or revision mismatch")
  match record.settings with
  | some settings => settings.validate host record
  | none => .ok ()
  record.validateState host

end RingRecord

end Validation

end VeraHub.Rings
