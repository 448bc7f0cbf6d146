import VeraHub.Rings.Commands

/-!
# Fault reports

A committee reports a faulty member under the ring's threshold key.  An accepted
report adds demerits, is kept against repetition for a while, and may announce a
committee in which a backup node takes the place of the accused one.
-/

namespace VeraHub.Rings

open VeraHub.Acp VeraHub.Vera

/-! ## Reports -/

structure ReportEnvelope where
  domain : String
  reportType : String
  chainId : String
  ringId : String
  ringPk : String
  ringStateSha256 : String
  reporterNodeKey : String
  accusedNodeKey : String
  accusedPeerId : String
  observedAt : UInt64
  expiresAt : UInt64
  payload : Bytes
  sessionId : String
deriving DecidableEq

structure SignedReport where
  report : ReportEnvelope
  reportId : String
  signatureScheme : String
  signature : String
deriving DecidableEq

inductive CommitteeScope where
  | current
  | pendingNew
deriving DecidableEq

/-- What the evidence of a report is about. -/
structure Metadata where
  origin : String
  version : UInt64
  accused : CommitteeScope
  signing : CommitteeScope
  attempt : Option Bytes
deriving DecidableEq

structure NodeDemerits where
  points : UInt64
  windowStartedAt : UInt64
  revision : Timestamp
deriving DecidableEq

def NodeDemerits.effectivePoints (demerits : NodeDemerits) (now interval : UInt64) : UInt64 :=
  if now.toNat - demerits.windowStartedAt.toNat ≥ interval.toNat then
    0
  else
    demerits.points

structure ReportOutcome where
  reportId : String
  ringId : String
  accusedNodeKey : String
  demerits : NodeDemerits
  replacement : Option String
deriving DecidableEq

/-- What reports take from the reporting library: shapes, evidence, identifiers
and encodings. -/
structure ReportHost extends RingHost where
  reportJson : SignedReport → Bytes
  validateShape : ReportEnvelope → UInt64 → Except String Unit
  validateEvidence : ReportEnvelope → Except RingError Metadata
  snapshotBytes : String → RingSettings → UInt64 → String → Bytes
  sessionBytes : Metadata → ReportEnvelope → Bytes
  identify : ReportEnvelope → String
  canonicalBytes : ReportEnvelope → Bytes
  demeritsJson : NodeDemerits → Bytes
  readDemerits : Bytes → Except String NodeDemerits
  reportTtlSecs : UInt64
  nodeOfflineType : String
  invalidCryptoResponseType : String
  unauthorizedRequestType : String

def maxReportRequestBytes : Nat :=
  12 * 1024 * 1024

def maxReportPayloadBytes : Nat :=
  3 * 1024 * 1024

def maxRetainedReports : UInt32 :=
  4096

def pruneLimit : Nat :=
  64

/-! ## Retention -/

def reportsStart (ringId : String) : Bytes :=
  utf8 "orbis/reports/v1/" ++ utf8 ringId ++ utf8 "/"

def sessionKey (start session : Bytes) : Bytes :=
  start ++ utf8 "session/" ++ session

def expiryStart (start : Bytes) : Bytes :=
  start ++ utf8 "expiry/"

def expiryKey (start : Bytes) (expires : UInt64) (session : Bytes) : Bytes :=
  expiryStart start ++ beBytes expires ++ session

def countKey (start : Bytes) : Bytes :=
  start ++ utf8 "count"

/-- The reports of a ring to be forgotten, and their number once the new one is
kept. -/
structure Retention where
  start : Bytes
  count : UInt32
  expired : List (Bytes × Bytes)

def storedBytes (module : VeraModule) (key : Bytes) : Option Bytes :=
  match module.store.get key with
  | some (.service bytes) => some bytes
  | _ => none

def retainedCount (start : Bytes) (module : VeraModule) :
    Except RingError UInt32 :=
  match storedBytes module (countKey start) with
  | none => .ok 0
  | some bytes =>
    if bytes.length ≠ 4 then
      .error (invalid "could not convert slice to array")
    else
      .ok (UInt32.ofNat (fromBigEndian bytes))

def uncount (count : UInt32) : Except RingError UInt32 :=
  if count = 0 then
    .error (invalid "report retention counter underflow")
  else
    .ok (count - 1)

/-- An earlier report of the same session is forgotten once it has expired. -/
def expiredSession (start session : Bytes) (now : UInt64)
    (module : VeraModule) : Except RingError (Option (Bytes × Bytes)) :=
  match storedBytes module (sessionKey start session) with
  | none => .ok none
  | some value =>
    if value.length ≠ 72 then
      .error (invalid "invalid report retention record")
    else
      let timestamp := UInt64.ofNat (fromBigEndian (value.take 8))
      if timestamp ≥ now then
        .error (invalid "report session already accepted")
      else
        let index := expiryKey start timestamp session
        if storedBytes module index ≠ some [] then
          .error (invalid "missing report expiry index")
        else
          .ok (some (index, sessionKey start session))

/-- Collect expired reports in the order of their deadlines. -/
def collectExpired (start : Bytes) (now : UInt64) (module : VeraModule) :
    List (Bytes × VeraValue) → List (Bytes × Bytes) → UInt32 →
      Except RingError (List (Bytes × Bytes) × UInt32)
  | [], expired, count => .ok (expired, count)
  | (key, value) :: rest, expired, count =>
    if expired.any (fun entry => entry.1 = key) then
      collectExpired start now module rest expired count
    else if key.length ≠ (expiryStart start).length + 72 ∨ value ≠ .service [] then
      .error (invalid "invalid report expiry index")
    else
      let deadline := (key.drop (expiryStart start).length).take 8
      let timestamp := UInt64.ofNat (fromBigEndian deadline)
      if timestamp ≥ now then
        .ok (expired, count)
      else
        let entry := sessionKey start (key.drop ((expiryStart start).length + 8))
        match storedBytes module entry with
        | none => .error (invalid "orphan report expiry index")
        | some stored =>
          if stored.length ≠ 72 ∨ stored.take 8 ≠ deadline then
            .error (invalid "report expiry index mismatch")
          else do
            let count ← uncount count
            collectExpired start now module rest (expired ++ [(key, entry)]) count

def reportRetention (ringId : String) (session : Bytes) (now : UInt64)
    (module : VeraModule) : Except RingError Retention := do
  let start := reportsStart ringId
  let count ← retainedCount start module
  let own ← expiredSession start session now module
  let count ← if own.isSome then uncount count else .ok count
  let (expired, count) ← collectExpired start now module
    ((module.scan (expiryStart start)).take pruneLimit) own.toList count
  require (count < maxRetainedReports) (invalid "report retention capacity reached")
  .ok ⟨start, count + 1, expired⟩

def Retention.apply (retention : Retention) (session : Bytes) (id : String)
    (expires : UInt64) (module : VeraModule) : VeraModule :=
  let pruned := retention.expired.foldl (fun module entry =>
      (module.withoutStored entry.1).withoutStored entry.2) module
  ((pruned.withStored (sessionKey retention.start session)
    (.service (beBytes expires ++ utf8 id))).withStored
      (expiryKey retention.start expires session) (.service [])).withStored
        (countKey retention.start) (.service (bigEndian 4 retention.count.toNat))

/-! ## Demerits -/

def demeritsKey (host : RingHost) (ringId node : String) :
    Except RingError Bytes := do
  let _ ← ringKey ringId
  let _ ← asInvalid RingError.text (nodeKey host node)
  .ok (utf8 "orbis/demerits/v1/" ++ utf8 ringId ++ utf8 "/" ++ utf8 node)

section Reports

variable (host : ReportHost)

def nodeDemerits (ringId node : String) (module : VeraModule) :
    Except RingError (Option NodeDemerits) := do
  let key ← demeritsKey host.toRingHost ringId node
  match storedBytes module key with
  | none => .ok none
  | some bytes => do
      require (bytes.length ≤ 512) (invalid "invalid demerit record length")
      let record ← asInvalid (fun message => message) (host.readDemerits bytes)
      require (record.windowStartedAt ≠ 0 ∧ record.points ≠ 0 ∧ record.revision.blockHeight ≠ 0)
        (invalid "invalid demerit record")
      .ok (some record)

/-- The points and the start of the window that a report adds to. -/
def demeritWindow (previous : Option NodeDemerits) (now interval : UInt64) :
    Except RingError (UInt64 × UInt64) :=
  match previous with
  | none => .ok (0, now)
  | some demerits =>
    if now < demerits.windowStartedAt then
      .error (invalid "demerit window is in the future")
    else if demerits.effectivePoints now interval > 0 then
      .ok (demerits.points, demerits.windowStartedAt)
    else
      .ok (0, now)

/-! ## Replacement -/

/-- The first backup node that does not serve and permits the ring. -/
def findReplacement (record : RingRecord) (module : VeraModule)
    (peers : List String) : List String → Nat → Except RingError (Option Nat)
  | [], _ => .ok none
  | key :: rest, index =>
    if contains peers key then
      findReplacement record module peers rest (index + 1)
    else do
      let node ← thresholdNode host.toRingHost key module
      if node.any fun node =>
          node.info.allowsRing record.config.policyId record.id then
        .ok (some index)
      else
        findReplacement record module peers rest (index + 1)

/-- The committee in which one node takes the place of another. -/
def replacePeer (peers : List String) (accused replacement : String) :
    List String :=
  (peers.filter (fun key => key ≠ accused) ++ [replacement]).insertionSort
    fun first second => utf8 first ≤ utf8 second

structure Replacement where
  sealed : Sealed
  node : String

def reportReplacement (record : RingRecord) (accused : String)
    (points : UInt64) (revision : Timestamp) (module : VeraModule) :
    Except RingError (Option Replacement) := do
  let settings := record.currentSettings
  if points < settings.reporting.kickThreshold ∨ settings.pendingReshare.isSome = true ∨
      contains settings.peerNodeKeys accused = false then
    .ok none
  else
    match ← findReplacement host record module settings.peerNodeKeys
        settings.reporting.backupNodeKeys 0 with
    | none => .ok none
    | some index =>
      let replacement := settings.reporting.backupNodeKeys.getD index ""
      let sealed ← sealRecord host.toRingHost revision { record with
          settings := some { settings with
              reporting := { settings.reporting with
                  backupNodeKeys := settings.reporting.backupNodeKeys.eraseIdx index }
              pendingReshare := some
                ⟨replacePeer settings.peerNodeKeys accused replacement, settings.threshold⟩ } }
      .ok (some ⟨sealed, replacement⟩)

/-! ## Submission -/

/-- The digest of the ring state that signers report against. -/
def reportStateHash (record : RingRecord) (publicKey : String) :
    Except RingError String := do
  record.validate host.toRingHost record.id
  .ok (hexText (host.crypto.sha256
    (host.snapshotBytes publicKey record.currentSettings record.sequence record.config.policyId)))

def committee (settings : RingSettings) : CommitteeScope → Except RingError (List String × UInt32)
  | .current => .ok (settings.peerNodeKeys, settings.threshold)
  | .pendingNew =>
    match settings.pendingReshare with
    | some target => .ok (target.peerNodeKeys, target.threshold)
    | none => .error (invalid "report requires pending committee")

def reportScheme : String → Except RingError ThresholdScheme
  | "bls12_381_g1_pk_g2_sig_aug_v1" => .ok .bls12381AugV1
  | "decaf377_frost" => .ok .decaf377Frost
  | _ => .error (invalid "unsupported report signature scheme")

def reportAmount (reporting : ReportingConfig) (reportType : String) :
    Except RingError UInt64 :=
  if reportType = host.nodeOfflineType then
    .ok reporting.nodeOfflineDemerits
  else if reportType = host.invalidCryptoResponseType then
    .ok reporting.invalidCryptoResponseDemerits
  else if reportType = host.unauthorizedRequestType then
    .ok reporting.unauthorizedRequestDemerits
  else
    .error (invalid "unsupported report type")

/-- The ring key of a report that is about the current state. -/
def checkReported (context : BlockExecCtx) (report : ReportEnvelope)
    (record : RingRecord) : Except RingError String :=
  match record.state with
  | .active publicKey =>
    if record.deploymentRoot ≠ context.genesisId ∨ report.ringPk ≠ publicKey then
      .error (invalid "report ring state is stale")
    else do
      let state ← reportStateHash host record publicKey
      require (report.ringStateSha256 = state) (invalid "report ring state is stale")
      .ok publicKey
  | _ => .error (invalid "ring is not active")

/-- The signing committee can act without the accused. -/
def checkCommittees (settings : RingSettings) (metadata : Metadata)
    (report : ReportEnvelope) : Except RingError Unit := do
  require (metadata.version = settings.effectiveVersion report.observedAt)
    (invalid "report protocol version is not effective")
  let (accused, _) ← committee settings metadata.accused
  let (signers, threshold) ← committee settings metadata.signing
  require
    (¬ (contains accused report.accusedNodeKey = false ∨
      contains signers report.reporterNodeKey = false ∨ threshold < 2 ∨
      threshold.toNat > signers.length - (if contains signers report.accusedNodeKey then 1 else 0)))
    (invalid "report committee cannot authorize while excluding accused")

def checkAccused (report : ReportEnvelope) (module : VeraModule) :
    Except RingError Unit := do
  match ← thresholdNode host.toRingHost report.accusedNodeKey module with
  | none => .error (invalid "accused node not found")
  | some node =>
    require (node.info.peerId = report.accusedPeerId) (invalid "accused endpoint changed")

def checkReportSignature (signed : SignedReport) (publicKey : String) :
    Except RingError Unit := do
  let scheme ← reportScheme signed.signatureScheme
  let signature ← signatureBytes signed.signature "noncanonical report signature"
  checkThresholdSignature host.toRingHost scheme publicKey
    (host.canonicalBytes signed.report) signature

def checkReportBounds (context : BlockExecCtx) (signed : SignedReport) :
    Except RingError Unit := do
  require ((host.reportJson signed).length ≤ maxReportRequestBytes)
    (invalid "report request exceeds byte limit")
  let report := signed.report
  asInvalid (fun message => message) (host.validateShape report context.timestamp.seconds)
  require
    (report.payload ≠ [] ∧ report.payload.length ≤ maxReportPayloadBytes ∧
      report.chainId = ringDeploymentLabel context.genesisId context.deploymentId ∧
      (utf8 report.sessionId).length ≤ 256 ∧ (utf8 report.accusedPeerId).length ≤ 512)
    (invalid "report deployment or field bounds")

/-- What an accepted report writes. -/
structure Accepted where
  retention : Retention
  session : Bytes
  expires : UInt64
  scoreKey : Bytes
  scoreBytes : Bytes
  replacement : Option Replacement
  outcome : ReportOutcome

def reportOutcome (context : BlockExecCtx) (signed : SignedReport)
    (module : VeraModule) : Except RingError Accepted := do
  checkReportBounds host context signed
  let report := signed.report
  let now := context.timestamp.seconds
  let record ← requireRing host.toRingHost report.ringId module
  let publicKey ← checkReported host context report record
  let metadata ← host.validateEvidence report
  let settings := record.currentSettings
  checkCommittees settings metadata report
  checkAccused host report module
  let id := host.identify report
  require (id = signed.reportId) (invalid "report identifier mismatch")
  let session := hexEncode (host.crypto.sha256 (host.sessionBytes metadata report))
  let retention ← reportRetention record.id session now module
  checkReportSignature host signed publicKey
  let amount ← reportAmount host settings.reporting report.reportType
  let previous ← nodeDemerits host record.id report.accusedNodeKey module
  let (points, start) ← demeritWindow previous now settings.reporting.resetIntervalSeconds
  let demerits : NodeDemerits := ⟨saturatingAdd points amount, start, context.timestamp⟩
  let replacement ← reportReplacement host record report.accusedNodeKey
    demerits.points context.timestamp module
  let scoreKey ← demeritsKey host.toRingHost report.ringId report.accusedNodeKey
  require (now.toNat + host.reportTtlSecs.toNat < 2 ^ 64) (invalid "report expiry overflow")
  .ok
    { retention := retention
      session := session
      expires := now + host.reportTtlSecs
      scoreKey := scoreKey
      scoreBytes := host.demeritsJson demerits
      replacement := replacement
      outcome :=
        { reportId := id
          ringId := report.ringId
          accusedNodeKey := report.accusedNodeKey
          demerits := demerits
          replacement := replacement.map Replacement.node } }

def withAccepted (accepted : Accepted) (module : VeraModule) : VeraModule :=
  let scored := (accepted.retention.apply accepted.session
    accepted.outcome.reportId accepted.expires module).withStored
      accepted.scoreKey (.service accepted.scoreBytes)
  match accepted.replacement with
  | some replacement => withSealed replacement.sealed scored
  | none => scored

def submitRingReport (context : BlockExecCtx) (signed : SignedReport) :
    Exec VeraModule RingError ReportOutcome := do
  let accepted ← Exec.query (reportOutcome host context signed)
  Exec.modify (withAccepted accepted)
  pure accepted.outcome

end Reports

end VeraHub.Rings
