import VeraHub.Rings.Runs

/-!
# Committees and versions of active rings

The committee of an active ring changes only when the ring key authorizes the
announced target, and what it signs fixes the ring, its sequence, both committees
and the deployment.  Matured upgrades are folded in by some updates only, but every
change keeps the version in effect at its own time.
-/

namespace VeraHub.Rings

open VeraHub.Acp VeraHub.Vera VeraHub.Vera.VeraModule

/-! ## Versions -/

variable {record : RingRecord}

namespace RingSettings

variable {settings next : RingSettings} {now : UInt64}

theorem effectiveVersion_congr (version : next.currentVersion = settings.currentVersion)
    (scheduled : next.scheduledUpgrade = settings.scheduledUpgrade) (time : UInt64) :
    next.effectiveVersion time = settings.effectiveVersion time := by
  unfold effectiveVersion
  rw [version, scheduled]

theorem SoundSchedule.effectiveVersion_mono (sound : settings.SoundSchedule)
    {time : UInt64} (passed : now ≤ time) :
    settings.effectiveVersion now ≤ settings.effectiveVersion time := by
  unfold effectiveVersion
  cases scheduled : settings.scheduledUpgrade with
  | none => exact UInt64.le_refl _
  | some upgrade =>
    dsimp only
    have newer := (sound upgrade scheduled).1
    by_cases matured : now ≥ upgrade.activatesAt
    · have still : time ≥ upgrade.activatesAt := UInt64.le_trans matured passed
      rw [if_pos matured, if_pos still]
      exact UInt64.le_refl _
    · rw [if_neg matured]
      split
      · exact UInt64.le_of_lt newer
      · exact UInt64.le_refl _

theorem effectiveVersion_of_later
    (later : ∀ upgrade ∈ settings.scheduledUpgrade, now < upgrade.activatesAt) :
    settings.effectiveVersion now = settings.currentVersion := by
  unfold effectiveVersion
  cases scheduled : settings.scheduledUpgrade with
  | none => rfl
  | some upgrade =>
    have early : ¬ now ≥ upgrade.activatesAt := UInt64.not_le.mpr (later upgrade scheduled)
    exact if_neg early

theorem normalizeUpgrade_effectiveVersion (settings : RingSettings) (now : UInt64) :
    (settings.normalizeUpgrade now).effectiveVersion now = settings.effectiveVersion now ∧
      (settings.normalizeUpgrade now).effectiveVersion now =
        (settings.normalizeUpgrade now).currentVersion := by
  unfold normalizeUpgrade
  cases scheduled : settings.scheduledUpgrade with
  | none =>
    dsimp only
    refine ⟨rfl, effectiveVersion_of_later ?_⟩
    rw [scheduled]
    exact fun _ impossible => nomatch impossible
  | some upgrade =>
    dsimp only
    by_cases matured : now ≥ upgrade.activatesAt
    · rw [if_pos matured]
      unfold effectiveVersion
      rw [scheduled]
      dsimp only
      rw [if_pos matured]
      exact ⟨rfl, rfl⟩
    · rw [if_neg matured]
      refine ⟨rfl, effectiveVersion_of_later ?_⟩
      intro other isOther
      rw [scheduled] at isOther
      cases isOther
      exact UInt64.not_le.mp matured

theorem normalizeUpgrade_rest (settings : RingSettings) (now : UInt64) :
    (settings.normalizeUpgrade now).peerNodeKeys = settings.peerNodeKeys ∧
      (settings.normalizeUpgrade now).threshold = settings.threshold ∧
      (settings.normalizeUpgrade now).pendingReshare =
        settings.pendingReshare := by
  unfold normalizeUpgrade
  split
  · split
    · exact ⟨rfl, rfl, rfl⟩
    · exact ⟨rfl, rfl, rfl⟩
  · exact ⟨rfl, rfl, rfl⟩

/-! ## Updates -/

/-- What a change of the settings keeps: the committee, an announced target and
the version in effect. -/
structure Serves (now : UInt64) (settings next : RingSettings) : Prop where
  peers : next.peerNodeKeys = settings.peerNodeKeys
  threshold : next.threshold = settings.threshold
  target : ∀ target, settings.pendingReshare = some target → next.pendingReshare = some target
  version : next.effectiveVersion now = settings.effectiveVersion now

theorem Serves.refl (now : UInt64) (settings : RingSettings) :
    Serves now settings settings :=
  ⟨rfl, rfl, fun _ pending => pending, rfl⟩

theorem Serves.trans {middle : RingSettings}
    (early : Serves now settings middle) (late : Serves now middle next) :
    Serves now settings next :=
  ⟨late.peers.trans early.peers, late.threshold.trans early.threshold,
    fun target pending => late.target target (early.target target pending),
    late.version.trans early.version⟩

theorem serves_normalizeUpgrade (settings : RingSettings) (now : UInt64) :
    Serves now settings (settings.normalizeUpgrade now) := by
  obtain ⟨peers, threshold, pending⟩ := normalizeUpgrade_rest settings now
  refine ⟨peers, threshold, ?_, (normalizeUpgrade_effectiveVersion settings now).1⟩
  intro target isTarget
  rw [pending, isTarget]

theorem later_of_scheduled {upgrade : ScheduledUpgrade} (room : now.toNat + 600 < 2 ^ 64)
    (bounds : ¬ upgrade.activatesAt < now + 600) : now < upgrade.activatesAt := by
  have reached : now + 600 ≤ upgrade.activatesAt := UInt64.not_lt.mp bounds
  rw [UInt64.le_iff_toNat_le, UInt64.toNat_add] at reached
  have small : (600 : UInt64).toNat = 600 := rfl
  rw [small, Nat.mod_eq_of_lt room] at reached
  rw [UInt64.lt_iff_toNat_lt]
  omega

/-- Updates keep the committee, an announced target and the version in effect;
those that schedule start from a folded version. -/
theorem serves_update {host : RingHost} {module : VeraModule} {update : RingUpdate}
    (folded : update.normalizes = true → settings.effectiveVersion now = settings.currentVersion)
    (revised : settings.update host now record module update = .ok next) :
    Serves now settings next := by
  cases update with
  | setPssInterval interval =>
    obtain ⟨_, _, done⟩ := exceptBind_ok revised
    cases done
    exact ⟨rfl, rfl, fun _ pending => pending, rfl⟩
  | scheduleUpgrade upgrade =>
    obtain ⟨_, room, done⟩ := exceptBind_ok revised
    obtain ⟨_, bounds, done⟩ := exceptBind_ok done
    cases done
    have fresh := require_ok bounds
    push Not at fresh
    have later := later_of_scheduled (require_ok room) fresh.2.1
    refine ⟨rfl, rfl, fun _ pending => pending, ?_⟩
    rw [folded rfl]
    apply effectiveVersion_of_later
    intro other isOther
    cases isOther
    exact later
  | cancelUpgrade =>
    unfold RingSettings.update at revised
    cases scheduled : settings.scheduledUpgrade with
    | none =>
      simp only [scheduled] at revised
      cases revised
    | some upgrade =>
      simp only [scheduled] at revised
      obtain ⟨_, early, done⟩ := exceptBind_ok revised
      cases done
      refine ⟨rfl, rfl, fun _ pending => pending, ?_⟩
      have unmatured : settings.effectiveVersion now =
          settings.currentVersion := by
        apply effectiveVersion_of_later
        intro other isOther
        rw [scheduled] at isOther
        cases isOther
        exact require_ok early
      rw [unmatured]
      rfl
  | setReporting reporting =>
    obtain ⟨_, _, done⟩ := exceptBind_ok revised
    obtain ⟨_, _, done⟩ := exceptBind_ok done
    cases done
    exact ⟨rfl, rfl, fun _ pending => pending, rfl⟩
  | addRelay relay =>
    obtain ⟨relays, _, done⟩ := exceptBind_ok revised
    split at done
    · cases done
      exact ⟨rfl, rfl, fun _ pending => pending, rfl⟩
    · cases done
  | removeRelay relay =>
    obtain ⟨relays, _, done⟩ := exceptBind_ok revised
    split at done
    · cases done
      exact ⟨rfl, rfl, fun _ pending => pending, rfl⟩
    · cases done
  | startReshare peerNodeKeys threshold =>
    obtain ⟨_, free, done⟩ := exceptBind_ok revised
    obtain ⟨_, _, done⟩ := exceptBind_ok done
    obtain ⟨_, _, done⟩ := exceptBind_ok done
    obtain ⟨_, _, done⟩ := exceptBind_ok done
    cases done
    refine ⟨rfl, rfl, ?_, rfl⟩
    intro target pending
    rw [require_ok free] at pending
    cases pending

end RingSettings

/-! ## Changes of a record -/

open RingSettings (Serves)

theorem serves_updated {host : RingHost}
    {module : VeraModule} {update : RingUpdate} {now : UInt64} {next : RingSettings}
    (revised : (record.base update now).update host now record module update = .ok next) :
    Serves now record.currentSettings next := by
  unfold RingRecord.base at revised
  by_cases folds : update.normalizes = true
  · rw [if_pos folds] at revised
    apply (RingSettings.serves_normalizeUpgrade record.currentSettings now).trans
    apply RingSettings.serves_update _ revised
    intro _
    exact (RingSettings.normalizeUpgrade_effectiveVersion _ now).2
  · rw [if_neg folds] at revised
    apply RingSettings.serves_update _ revised
    intro normal
    exact absurd normal folds

theorem currentSettings_some {settings : RingSettings}
    (current : record.settings = some settings) : record.currentSettings = settings := by
  unfold RingRecord.currentSettings
  rw [current]
  rfl

variable {before after : RingRecord}

theorem currentSettings_congr
    (settings : after.settings = before.settings) (config : after.config = before.config) :
    after.currentSettings = before.currentSettings := by
  unfold RingRecord.currentSettings
  rw [settings, config]

/-- What a change does to the committee: nothing, or it installs the announced
target under the ring's own signature. -/
inductive CommitteeEffect (host : ReportHost) (call : RingCall) (before after : RingRecord) : Prop
  | kept (serves : ∀ now, call.time = some now →
      Serves now before.currentSettings after.currentSettings)
  | installed (context : BlockExecCtx) (request : RingReshareRequest)
      (publicKey : String) (target : ReshareTarget) (isCall : call = .reshare context request)
      (active : before.state = .active publicKey)
      (pending : before.currentSettings.pendingReshare = some target)
      (deployed : before.deploymentRoot = context.genesisId)
      (authorized : Authorizes host.toRingHost context.deploymentId request before publicKey target)
      (changed : after.currentSettings = before.currentSettings.finalizeTarget target)

variable {call : RingCall} {host : ReportHost}

theorem Effect.committee (effect : Effect host call before after) :
    CommitteeEffect host call before after := by
  have config := effect.follows.config
  cases effect with
  | updated _ revised _ changed _ =>
    apply CommitteeEffect.kept
    intro now isNow
    cases isNow
    rw [currentSettings_some changed]
    exact serves_updated revised
  | withdrawn _ _ settings _ =>
    apply CommitteeEffect.kept
    intro now _
    rw [currentSettings_congr settings config]
    exact .refl now _
  | participated _ _ _ _ _ settings _ =>
    apply CommitteeEffect.kept
    intro now _
    rw [currentSettings_congr settings config]
    exact .refl now _
  | finalized active pending _ _ deployed authorized _ changed _ =>
    exact .installed _ _ _ _ rfl active pending deployed authorized (currentSettings_some changed)
  | announced _ free _ changed _ =>
    apply CommitteeEffect.kept
    intro now _
    rw [currentSettings_some changed]
    refine ⟨rfl, rfl, ?_, rfl⟩
    intro target pending
    rw [free] at pending
    cases pending

/-! ## Signed documents -/

theorem toList_ringDeploymentLabel (root : Bytes) (deploymentId : UInt64) :
    (ringDeploymentLabel root deploymentId).toList =
      "vera:".toList ++ (Nat.toDigits 10 deploymentId.toNat ++ ':' :: (hexText root).toList) := by
  unfold ringDeploymentLabel
  simp only [String.toList_append, toString, Nat.toList_repr]
  rw [List.append_assoc, List.append_assoc]
  rfl

variable {deploymentId' deploymentId : UInt64}

theorem ringDeploymentLabel_injective {root root' : Bytes}
    (same : ringDeploymentLabel root deploymentId = ringDeploymentLabel root' deploymentId') :
    root = root' ∧ deploymentId = deploymentId' := by
  have characters := congrArg String.toList same
  rw [toList_ringDeploymentLabel, toList_ringDeploymentLabel] at characters
  have cut := List.append_cancel_left characters
  have free : ∀ value : Nat, ':' ∉ Nat.toDigits 10 value := by
    intro value member
    have digit := Nat.isDigit_of_mem_toDigits (by decide) (by decide) member
    cases digit
  have leads : Nat.toDigits 10 deploymentId.toNat ++
      ':' :: (hexText root).toList <+:
        Nat.toDigits 10 deploymentId'.toNat ++ ':' :: (hexText root').toList :=
    ⟨[], by rw [List.append_nil, cut]⟩
  have digits := ((isPrefix_cut_iff (free _) (free _)).mp leads).1
  rw [digits] at cut
  have texts : hexText root = hexText root' :=
    String.toList_injective (List.cons.inj (List.append_cancel_left cut)).2
  constructor
  · apply hexEncode_injective
    rw [← utf8_hexText, ← utf8_hexText, texts]
  · apply UInt64.toNat_inj.mp
    rw [← @Nat.ofDigitChars_ten_toDigits deploymentId.toNat, digits, Nat.ofDigitChars_ten_toDigits]

/-- Everything that a reshare signature is about. -/
structure Agreement where
  deploymentRoot : Bytes
  deploymentId : UInt64
  ringId : String
  sequence : UInt64
  peers : List String
  threshold : UInt32
  target : ReshareTarget
deriving DecidableEq

def RingRecord.agreement (record : RingRecord) (deploymentId : UInt64)
    (target : ReshareTarget) : Agreement where
  deploymentRoot := record.deploymentRoot
  deploymentId := deploymentId
  ringId := record.id
  sequence := record.sequence
  peers := record.currentSettings.peerNodeKeys
  threshold := record.currentSettings.threshold
  target := target

variable {publicKey : String}

theorem agreement_of_signDoc {host : RingHost} (hashes : Function.Injective host.crypto.sha256)
    (states : Function.Injective host.stateProto) {record' : RingRecord} {publicKey' : String}
    {target target' : ReshareTarget}
    (same : record.signDoc host deploymentId publicKey target =
      record'.signDoc host deploymentId' publicKey' target') :
    record.agreement deploymentId target =
      record'.agreement deploymentId' target' := by
  have labels : ringDeploymentLabel record.deploymentRoot deploymentId =
      ringDeploymentLabel record'.deploymentRoot deploymentId' :=
    congrArg SignDoc.deployment same
  obtain ⟨root, deployment⟩ := ringDeploymentLabel_injective labels
  have ring : record.id = record'.id := congrArg SignDoc.ringId same
  have sequence : record.sequence = record'.sequence := congrArg SignDoc.sequence same
  have state : record.signState publicKey target =
      record'.signState publicKey' target' :=
    states (hashes (congrArg SignDoc.currentState same))
  have peers : record.currentSettings.peerNodeKeys =
      record'.currentSettings.peerNodeKeys := congrArg SignState.peers state
  have threshold : record.currentSettings.threshold =
      record'.currentSettings.threshold := congrArg SignState.threshold state
  have nextPeers : target.peerNodeKeys = target'.peerNodeKeys := congrArg SignState.nextPeers state
  have nextThreshold : some target.threshold = some target'.threshold :=
    congrArg SignState.nextThreshold state
  have targets : target = target' := by
    obtain ⟨_, _⟩ := target
    obtain ⟨_, _⟩ := target'
    cases nextPeers
    cases nextThreshold
    rfl
  unfold RingRecord.agreement
  rw [root, deployment, ring, sequence, peers, threshold, targets]

theorem checkThresholdSignature_ok {host : RingHost} {scheme : ThresholdScheme}
    {message signature : Bytes} {done : Unit}
    (checked : checkThresholdSignature host scheme publicKey message signature = .ok done) :
    ∃ key, hexDecode (utf8 publicKey) = some key ∧
      host.verifyThreshold scheme key message signature = true := by
  unfold checkThresholdSignature at checked
  split at checked
  · cases checked
  · rename_i key decoded
    exact ⟨key, decoded, require_ok checked⟩

/-! ## Runs -/

def Nondecreasing (now : UInt64) (calls : List RingCall) (time : UInt64) :
    Prop :=
  (now :: (calls.filterMap RingCall.time ++ [time])).Pairwise (· ≤ ·)

instance (now : UInt64) (calls : List RingCall) (time : UInt64) :
    Decidable (Nondecreasing now calls time) :=
  inferInstanceAs (Decidable (List.Pairwise _ _))

theorem Effect.timed (effect : Effect host call before after) : ∃ now, call.time = some now := by
  cases effect <;> exact ⟨_, rfl⟩

theorem CommitteeEffect.version {now : UInt64} (effect : CommitteeEffect host call before after)
    (timed : call.time = some now) : after.currentSettings.effectiveVersion now =
      before.currentSettings.effectiveVersion now := by
  cases effect with
  | kept serves => exact (serves now timed).version
  | installed _ _ _ _ _ _ _ _ _ changed =>
    rw [changed]
    exact RingSettings.effectiveVersion_congr rfl rfl now

section Runs

variable {host : ReportHost} {externals : HubExternals} {start : Hub}

theorem version_nondecreasing (roundTrips : RoundTrips host.toRingHost)
    (empty : NoRings start) (later : List RingCall) (time : UInt64) (id : String) :
    ∀ (earlier : List RingCall) (before : RingRecord) (now : UInt64),
      ringAt host externals start earlier id = some before → Nondecreasing now later time →
      ∃ after, ringAt host externals start (earlier ++ later) id = some after ∧
        before.currentSettings.effectiveVersion now ≤
          after.currentSettings.effectiveVersion time := by
  induction later with
  | nil =>
    intro earlier before now found ordered
    have passed : now ≤ time := (List.pairwise_cons.mp ordered).1 time List.mem_cons_self
    have schedule := (ringAt_valid roundTrips empty found).schedule
    rw [List.append_nil]
    exact ⟨before, found, schedule.effectiveVersion_mono passed⟩
  | cons call later ih =>
    intro earlier before now found ordered
    have schedule := (ringAt_valid roundTrips empty found).schedule
    have step := @ringAt_step host externals start roundTrips earlier call id
    rw [found] at step
    generalize next : ringAt host externals start (earlier ++ [call]) id = reached at step
    have regroup : earlier ++ call :: later = (earlier ++ [call]) ++ later := by
      rw [List.append_assoc, List.singleton_append]
    rw [regroup]
    unfold Nondecreasing at ordered
    cases isTime : call.time with
    | none =>
      rw [List.filterMap_cons_none isTime] at ordered
      cases step with
      | kept => exact ih _ before now next ordered
      | changed _ effect =>
        obtain ⟨_, timed⟩ := effect.timed
        rw [isTime] at timed
        cases timed
    | some moment =>
      rw [List.filterMap_cons_some isTime, List.cons_append] at ordered
      obtain ⟨first, rest⟩ := List.pairwise_cons.mp ordered
      have passed : now ≤ moment := first moment List.mem_cons_self
      have grown := schedule.effectiveVersion_mono passed
      cases step with
      | kept =>
        obtain ⟨after, arrived, larger⟩ := ih _ before moment next rest
        exact ⟨after, arrived, UInt64.le_trans grown larger⟩
      | changed _ effect =>
        obtain ⟨after, arrived, larger⟩ := ih _ _ moment next rest
        rw [effect.committee.version isTime] at larger
        exact ⟨after, arrived, UInt64.le_trans grown larger⟩

/-- What holds for the committees, targets and versions of active rings in a
state of a run and from there on. -/
structure CommitteeHistory (host : ReportHost) (externals : HubExternals)
    (start : Hub) (signs : ThresholdScheme → Bytes → Bytes → Prop)
    (calls : List RingCall) : Prop where
  committee : ∀ id before after call publicKey, ringAt host externals start calls id = some before →
    before.state = .active publicKey →
    ringAt host externals start (calls ++ [call]) id = some after →
    (after.currentSettings.peerNodeKeys, after.currentSettings.threshold) ≠
      (before.currentSettings.peerNodeKeys, before.currentSettings.threshold) →
    ∃ context request target key, call = .reshare context request ∧
      accepts host externals (performAll host externals start calls) call = true ∧
      before.currentSettings.pendingReshare = some target ∧
      after.currentSettings.peerNodeKeys = target.peerNodeKeys ∧
      after.currentSettings.threshold = target.threshold ∧
      before.deploymentRoot = context.genesisId ∧ hexDecode (utf8 publicKey) = some key ∧
      signs request.scheme key (host.docProto (before.signDoc host.toRingHost
        context.deploymentId publicKey target))
  document : ∀ record record' deploymentId deploymentId' publicKey publicKey' target target',
    host.docProto (RingRecord.signDoc host.toRingHost record deploymentId publicKey target) =
      host.docProto (RingRecord.signDoc host.toRingHost record' deploymentId' publicKey' target') →
    record.agreement deploymentId target = record'.agreement deploymentId' target'
  target : ∀ id before call target, ringAt host externals start calls id = some before →
    before.currentSettings.pendingReshare = some target →
    ∃ after, ringAt host externals start (calls ++ [call]) id = some after ∧
      (after.currentSettings.pendingReshare = some target ∨
        (∃ context request, call = .reshare context request) ∧
        accepts host externals (performAll host externals start calls) call = true ∧
        after.currentSettings = before.currentSettings.finalizeTarget target)
  version : ∀ id before later now time, ringAt host externals start calls id = some before →
    Nondecreasing now later time →
    ∃ after, ringAt host externals start (calls ++ later) id = some after ∧
      before.currentSettings.effectiveVersion now ≤ after.currentSettings.effectiveVersion time
  upgrade : ∀ id before upgrade later now time, ringAt host externals start calls id = some before →
    before.currentSettings.scheduledUpgrade = some upgrade → upgrade.activatesAt ≤ now →
    Nondecreasing now later time →
    ∃ after, ringAt host externals start (calls ++ later) id = some after ∧
      upgrade.version ≤ after.currentSettings.effectiveVersion time

/-- In every run of ring calls that starts without rings, with any changes beside
the ring keys in between. -/
theorem committees_change_by_reshare_only (host : ReportHost)
    (externals : HubExternals) (start : Hub) (signs : ThresholdScheme → Bytes → Bytes → Prop)
    (roundTrips : RoundTrips host.toRingHost)
    (signatures : ∀ scheme key message signature,
      host.verifyThreshold scheme key message signature = true → signs scheme key message)
    (hashes : Function.Injective host.crypto.sha256) (states : Function.Injective host.stateProto)
    (documents : Function.Injective host.docProto) (empty : NoRings start) (calls : List RingCall) :
    CommitteeHistory host externals start signs calls := by
  have versions : ∀ id before later now time, ringAt host externals start calls id = some before →
      Nondecreasing now later time →
      ∃ after, ringAt host externals start (calls ++ later) id = some after ∧
        before.currentSettings.effectiveVersion now ≤
          after.currentSettings.effectiveVersion time :=
    fun id before later now time found ordered =>
      version_nondecreasing roundTrips empty later time id calls before now found ordered
  refine ⟨?_, ?_, ?_, versions, ?_⟩
  · intro id before after call publicKey found active reached differs
    have step := @ringAt_step host externals start roundTrips calls call id
    rw [found, reached] at step
    cases step with
    | kept => exact absurd rfl differs
    | changed accepted effect =>
      obtain ⟨_, timed⟩ := effect.timed
      cases effect.committee with
      | kept serves =>
        have same := serves _ timed
        rw [same.peers, same.threshold] at differs
        exact absurd rfl differs
      | installed context request signer target isCall isActive pending
          deployed authorized changed =>
          have sameKey : signer = publicKey := by
            rw [active] at isActive
            exact (RingState.active.inj isActive).symm
          subst sameKey
          obtain ⟨signature, _, checked⟩ := authorized
          obtain ⟨key, decoded, verified⟩ := checkThresholdSignature_ok checked
          refine ⟨context, request, target, key, isCall, accepted, pending,
            ?_, ?_, deployed, decoded, signatures request.scheme key _ signature verified⟩
          · rw [changed]
            rfl
          · rw [changed]
            rfl
  · intro record record' deploymentId deploymentId' publicKey publicKey' target target' same
    exact agreement_of_signDoc hashes states (documents same)
  · intro id before call target found pending
    have step := @ringAt_step host externals start roundTrips calls call id
    rw [found] at step
    generalize next : ringAt host externals start (calls ++ [call]) id = final at step ⊢
    cases step with
    | kept => exact ⟨before, rfl, .inl pending⟩
    | changed accepted effect =>
      obtain ⟨_, timed⟩ := effect.timed
      refine ⟨_, rfl, ?_⟩
      cases effect.committee with
      | kept serves => exact .inl ((serves _ timed).target target pending)
      | installed context request signer other isCall _ isPending _ _ changed =>
        rw [pending] at isPending
        cases isPending
        exact .inr ⟨⟨context, request, isCall⟩, accepted, changed⟩
  · intro id before upgrade later now time found scheduled matured ordered
    obtain ⟨after, arrived, larger⟩ := versions id before later now time found ordered
    have inEffect : before.currentSettings.effectiveVersion now =
        upgrade.version := by
      unfold RingSettings.effectiveVersion
      rw [scheduled]
      exact if_pos matured
    rw [inEffect] at larger
    exact ⟨after, arrived, larger⟩

end Runs

/-! ## A smaller threshold for the ring of two nodes -/

section Pair

def pairAnnounced : List RingCall :=
  pairCalls ++
    [.command (Hub.delegationContext 80)
      ⟨2, List.replicate 32 9, "did:key:worker"⟩ (Hub.signedToken 2)
      (.update pairId 3 (.startReshare none (some 1)))]

def pairReshare : RingCall :=
  .reshare (Hub.delegationContext 90) ⟨pairRoot, 1, pairId, 4, .decaf377Frost, "abaca8"⟩

def pairThresholdSigns (scheme : ThresholdScheme) (key message : Bytes) :
    Prop :=
  ∃ signature, pairHost.verifyThreshold scheme key message signature = true

/-- The threshold of the ring goes down to one under its own signature. -/
theorem pair_reshare_is_authorized :
    ∃ before after, ringAt pairHost pairExternals pairStart pairAnnounced pairId = some before ∧
      ringAt pairHost pairExternals pairStart (pairAnnounced ++ [pairReshare]) pairId = some after ∧
      before.currentSettings.threshold = 2 ∧ after.currentSettings.threshold = 1 ∧
      ∃ context request target key, pairReshare = .reshare context request ∧
        before.currentSettings.pendingReshare = some target ∧ target.threshold = 1 ∧
        pairThresholdSigns request.scheme key
          (docCodec.encode (before.signDoc pairHost.toRingHost
            context.deploymentId "ab" target)) := by
  have evaluated :
      (ringAt pairHost pairExternals pairStart pairAnnounced pairId).map
          (fun record => (record.state, record.currentSettings.threshold)) =
        some (.active "ab", 2) ∧
      (ringAt pairHost pairExternals pairStart (pairAnnounced ++ [pairReshare])
          pairId).map (fun record => record.currentSettings.threshold) =
        some 1 := by
    decide +kernel
  obtain ⟨before, found, described⟩ := Option.map_eq_some_iff.mp evaluated.1
  obtain ⟨active, earlier⟩ := Prod.mk.inj described
  obtain ⟨after, reached, later⟩ := Option.map_eq_some_iff.mp evaluated.2
  have history := committees_change_by_reshare_only pairHost pairExternals
    pairStart pairThresholdSigns pairHost_roundTrips
    (fun _ _ _ signature verified => ⟨signature, verified⟩) pairHash_injective
    signStateCodec.encode_injective docCodec.encode_injective pairStart_noRings pairAnnounced
  have differs : (after.currentSettings.peerNodeKeys,
      after.currentSettings.threshold) ≠
        (before.currentSettings.peerNodeKeys, before.currentSettings.threshold) := by
    intro same
    have thresholds := (Prod.mk.inj same).2
    rw [earlier, later] at thresholds
    exact absurd thresholds (by decide)
  obtain ⟨context, request, target, key, isCall, _, pending, _, threshold, _, _,
    signed⟩ := history.committee pairId before after pairReshare "ab" found active reached differs
  refine ⟨before, after, found, reached, earlier, later, context, request,
    target, key, isCall, pending, ?_, signed⟩
  rw [← threshold, later]

end Pair

end VeraHub.Rings
