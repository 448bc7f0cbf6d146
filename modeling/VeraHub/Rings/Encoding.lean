import VeraHub.Library.Codec
import VeraHub.Rings.Types

/-!
# Encodings of ring records

Codecs of records, requests and signed documents, each put together from those of
its fields.  They stand for the encodings of the other libraries wherever a run is
evaluated.
-/

namespace VeraHub.Rings

open VeraHub.Acp (Timestamp)
open VeraHub.Codec (word halfWord bytes text texts option pair through)

def timestampCodec : Codec Timestamp :=
  through (pair word word) (fun value => (value.seconds, value.blockHeight))
    (fun (seconds, blockHeight) => some ⟨seconds, blockHeight⟩) fun _ => rfl

def reportingCodec : Codec ReportingConfig :=
  through (pair word (pair word (pair word (pair word (pair word texts))))) (fun value =>
      (value.nodeOfflineDemerits, value.invalidCryptoResponseDemerits,
        value.unauthorizedRequestDemerits, value.resetIntervalSeconds,
        value.kickThreshold, value.backupNodeKeys))
    (fun (offline, response, request, interval, kick, backups) =>
      some ⟨offline, response, request, interval, kick, backups⟩)
    fun _ => rfl

def configCodec : Codec RingConfig :=
  through
    (pair text (pair texts (pair halfWord (pair word (pair word (pair bytes
      (pair (option texts) reportingCodec)))))))
    (fun value =>
      (value.policyId, value.peerNodeKeys, value.threshold, value.pssInterval,
        value.currentVersion, value.nonce, value.trustedAuthRelayDids, value.reporting))
    (fun (policyId, peers, threshold, interval, version, nonce, relays, reporting) =>
      some ⟨policyId, peers, threshold, interval, version, nonce, relays, reporting⟩)
    fun _ => rfl

def upgradeCodec : Codec ScheduledUpgrade :=
  through (pair word word) (fun value => (value.version, value.activatesAt))
    (fun (version, activatesAt) => some ⟨version, activatesAt⟩) fun _ => rfl

def targetCodec : Codec ReshareTarget :=
  through (pair texts halfWord) (fun value => (value.peerNodeKeys, value.threshold))
    (fun (peers, threshold) => some ⟨peers, threshold⟩) fun _ => rfl

def settingsCodec : Codec RingSettings :=
  through
    (pair texts (pair halfWord (pair word (pair word
      (pair (option upgradeCodec) (pair reportingCodec
        (pair (option texts) (option targetCodec))))))))
    (fun value =>
      (value.peerNodeKeys, value.threshold, value.pssInterval,
        value.currentVersion, value.scheduledUpgrade, value.reporting,
        value.trustedAuthRelayDids, value.pendingReshare))
    (fun (peers, threshold, interval, version, upgrade, reporting, relays, target) =>
      some ⟨peers, threshold, interval, version, upgrade, reporting, relays, target⟩)
    fun _ => rfl

def stateTexts : RingState → List (List String)
  | .pending publicKey confirmations =>
    [["pending"], publicKey.toList, confirmations]
  | .active publicKey => [["active", publicKey]]
  | .cancelled author => [["cancelled", author]]
  | .conflict firstKey conflictingKey author =>
    [["conflict", firstKey, conflictingKey, author]]

def readState : List (List String) → Option RingState
  | [["pending"], [], confirmations] => some (.pending none confirmations)
  | [["pending"], [publicKey], confirmations] =>
    some (.pending (some publicKey) confirmations)
  | [["active", publicKey]] => some (.active publicKey)
  | [["cancelled", author]] => some (.cancelled author)
  | [["conflict", firstKey, conflictingKey, author]] =>
    some (.conflict firstKey conflictingKey author)
  | _ => none

theorem readState_stateTexts (state : RingState) : readState (stateTexts state) = some state := by
  cases state with
  | pending publicKey confirmations => cases publicKey <;> rfl
  | active publicKey => rfl
  | cancelled author => rfl
  | conflict firstKey conflictingKey author => rfl

def stateCodec : Codec RingState :=
  through (Codec.list texts) stateTexts readState readState_stateTexts

def recordCodec : Codec RingRecord :=
  through
    (pair text (pair bytes (pair text (pair configCodec (pair stateCodec
      (pair timestampCodec (pair (option settingsCodec) word)))))))
    (fun value =>
      (value.id, value.deploymentRoot, value.creator, value.config,
        value.state, value.revision, value.settings, value.sequence))
    (fun (id, root, creator, config, state, revision, settings, sequence) =>
      some ⟨id, root, creator, config, state, revision, settings, sequence⟩)
    fun _ => rfl

def commandKey : RingParticipantCommand → Option String
  | .confirm publicKey => some publicKey
  | .cancel => none

def requestCodec : Codec RingParticipantRequest :=
  through (pair bytes (pair word (pair text (pair text (pair (option text) word))))) (fun value =>
      (value.deploymentRoot, value.deploymentId, value.ringId, value.nodeKey,
        commandKey value.command, value.expiresAt))
    (fun (root, deployment, ringId, nodeKey, key, expiresAt) =>
      some ⟨root, deployment, ringId, nodeKey,
        match key with
        | some publicKey => .confirm publicKey
        | none => .cancel,
        expiresAt⟩)
    fun value => by
      obtain ⟨_, _, _, _, command, _⟩ := value
      cases command <;> rfl

def signStateCodec : Codec SignState :=
  through
    (pair text (pair texts (pair halfWord (pair texts (pair (option halfWord)
      (pair word (pair text (pair texts (option text)))))))))
    (fun value =>
      (value.publicKey, value.peers, value.threshold, value.nextPeers,
        value.nextThreshold, value.sequence, value.policyId, value.relays,
        if value.allowRelays then some "" else none))
    (fun (publicKey, peers, threshold, nextPeers, nextThreshold, sequence,
        policyId, relays, allowed) =>
      some ⟨publicKey, peers, threshold, nextPeers, nextThreshold, sequence,
        policyId, relays, allowed.isSome⟩)
    fun value => by
      obtain ⟨_, _, _, _, _, _, _, _, allowed⟩ := value
      cases allowed <;> rfl

def docCodec : Codec SignDoc :=
  through (pair text (pair text (pair text (pair text (pair bytes (pair bytes word))))))
    (fun value =>
      (value.domain, value.deployment, value.ringId, value.publicKey,
        value.currentState, value.finalizedState, value.sequence))
    (fun (domain, deployment, ringId, publicKey, current, finalized, sequence) =>
      some ⟨domain, deployment, ringId, publicKey, current, finalized, sequence⟩)
    fun _ => rfl

end VeraHub.Rings
