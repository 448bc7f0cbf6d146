import VeraHub.Rings.Validity
import VeraHub.Vera.FailedCalls
import VeraHub.Vera.Revocation

/-!
# What calls do to rings

Every call either leaves a ring as it is, creates it, or changes its record in
one of five ways, each of which counts the change.  The entry points are inverted
once here; everything about whole runs follows from these effects.
-/

namespace VeraHub.Rings

open VeraHub.Acp VeraHub.Vera VeraHub.Vera.VeraModule
open VeraHub.Zanzibar (Did)

/-! ## Calls -/

/-- A ring call, or any other change that leaves the ring keys alone. -/
inductive RingCall where
  | command (context : BlockExecCtx) (submission : TxExecCtx)
      (token : String) (command : RingCommand)
  | participant (context : BlockExecCtx) (signed : SignedRingParticipantRequest)
  | reshare (context : BlockExecCtx) (request : RingReshareRequest)
  | report (context : BlockExecCtx) (signed : SignedReport)
  | other (change : Hub → Hub)
      (beside : ∀ hub id, (change hub).vera.store.get (ringPath id) =
        hub.vera.store.get (ringPath id))

def RingCall.time : RingCall → Option UInt64
  | .command context _ _ _ => some context.timestamp.seconds
  | .participant context _ => some context.timestamp.seconds
  | .reshare context _ => some context.timestamp.seconds
  | .report context _ => some context.timestamp.seconds
  | .other _ _ => none

def succeeds {ε α : Type} : Except ε α → Bool
  | .ok _ => true
  | .error _ => false

section Calls

variable (host : ReportHost) (externals : HubExternals)

/-- The state a call leaves, whether it succeeds or fails. -/
def perform (hub : Hub) : RingCall → Hub
  | .command context submission token command =>
    ((applyRingCommand host.toRingHost externals context submission token command).run hub).2
  | .participant context signed =>
    { hub with
      vera := ((applyRingParticipantRequest host.toRingHost context signed).run hub.vera).2 }
  | .reshare context request =>
    { hub with
      vera := ((finalizeRingReshare host.toRingHost context request).run hub.vera).2 }
  | .report context signed =>
    { hub with
      vera := ((submitRingReport host context signed).run hub.vera).2 }
  | .other change _ => change hub

def accepts (hub : Hub) : RingCall → Bool
  | .command context submission token command =>
    succeeds ((applyRingCommand host.toRingHost externals context submission
      token command).run hub).1
  | .participant context signed =>
    succeeds ((applyRingParticipantRequest host.toRingHost context signed).run hub.vera).1
  | .reshare context request =>
    succeeds ((finalizeRingReshare host.toRingHost context request).run hub.vera).1
  | .report context signed =>
    succeeds ((submitRingReport host context signed).run hub.vera).1
  | .other _ _ => true

def performAll (hub : Hub) (calls : List RingCall) : Hub :=
  calls.foldl (perform host externals) hub

theorem performAll_append (hub : Hub) (first second : List RingCall) :
    performAll host externals hub (first ++ second) =
      performAll host externals (performAll host externals hub first)
        second :=
  List.foldl_append

end Calls

/-! ## Effects -/

/-- What every change of a record keeps and counts. -/
structure Follows (before after : RingRecord) : Prop where
  id : after.id = before.id
  deploymentRoot : after.deploymentRoot = before.deploymentRoot
  creator : after.creator = before.creator
  config : after.config = before.config
  sequence : after.sequence.toNat = before.sequence.toNat + 1

def RingRecord.base (record : RingRecord) (update : RingUpdate) (now : UInt64) : RingSettings :=
  if update.normalizes then
    record.currentSettings.normalizeUpgrade now
  else
    record.currentSettings

/-- The threshold signature of a reshare request over the document of a
record. -/
def Authorizes (host : RingHost) (deploymentId : UInt64)
    (request : RingReshareRequest) (record : RingRecord) (publicKey : String)
    (target : ReshareTarget) : Prop :=
  ∃ signature, signatureBytes request.signature "noncanonical threshold signature" = .ok signature ∧
    checkThresholdSignature host request.scheme publicKey
      (host.docProto (record.signDoc host deploymentId publicKey target)) signature = .ok ()

/-- The five ways in which a record changes. -/
inductive Effect (host : ReportHost) : RingCall → RingRecord → RingRecord → Prop
  | updated {context : BlockExecCtx} {submission : TxExecCtx}
      {token : String} {expected : UInt64} {update : RingUpdate}
      {before after : RingRecord} {settings : RingSettings} {module : VeraModule}
      (serving : before.state.isActive = true ∨ before.state.isPending = true)
      (revised : (before.base update context.timestamp.seconds).update
        host.toRingHost context.timestamp.seconds before module update = .ok settings)
      (state : after.state = before.state) (changed : after.settings = some settings)
      (follows : Follows before after) :
      Effect host
        (.command context submission token (.update before.id expected update)) before after
  | withdrawn {context : BlockExecCtx} {submission : TxExecCtx}
      {token author : String} {before after : RingRecord} (pending : before.state.isPending = true)
      (state : after.state = .cancelled author) (settings : after.settings = before.settings)
      (follows : Follows before after) :
      Effect host (.command context submission token (.cancel before.id)) before after
  | participated {context : BlockExecCtx}
      {signed : SignedRingParticipantRequest} {before after : RingRecord}
      {publicKey : Option String} {confirmations : List String} {module : VeraModule}
      (pending : before.state = .pending publicKey confirmations)
      (named : signed.request.ringId = before.id)
      (participant : signed.request.nodeKey ∈ before.config.peerNodeKeys)
      (verified : checkParticipantSignature host.toRingHost signed = .ok ())
      (decided : participantState host.toRingHost before signed.request
        publicKey confirmations module = .ok after.state)
      (settings : after.settings = before.settings) (follows : Follows before after) :
      Effect host (.participant context signed) before after
  | finalized {context : BlockExecCtx} {request : RingReshareRequest}
      {before after : RingRecord} {publicKey : String} {target : ReshareTarget}
      (active : before.state = .active publicKey)
      (pending : before.currentSettings.pendingReshare = some target)
      (named : request.ringId = before.id) (expected : before.sequence = request.expectedSequence)
      (deployed : before.deploymentRoot = context.genesisId)
      (authorized : Authorizes host.toRingHost context.deploymentId request before publicKey target)
      (state : after.state = before.state)
      (changed : after.settings = some (before.currentSettings.finalizeTarget target))
      (follows : Follows before after) : Effect host (.reshare context request) before after
  | announced {context : BlockExecCtx} {signed : SignedReport}
      {before after : RingRecord} {reporting : ReportingConfig} {target : ReshareTarget}
      (active : before.state.isActive = true) (free : before.currentSettings.pendingReshare = none)
      (state : after.state = before.state)
      (changed : after.settings = some { before.currentSettings with
          reporting := reporting
          pendingReshare := some target })
      (follows : Follows before after) :
      Effect host (.report context signed) before after

/-- A new ring has no confirmations, and its creation is its first change. -/
structure Created (call : RingCall) (record : RingRecord) : Prop where
  called : ∃ context submission token,
    call = .command context submission token (.create record.config)
  state : record.state = .pending none []
  settings : record.settings = none
  sequence : record.sequence.toNat = 1

/-- What a call does to one ring. -/
inductive RingStep (host : ReportHost) (externals : HubExternals) (hub : Hub)
    (call : RingCall) : Option RingRecord → Option RingRecord → Prop
  | kept {found : Option RingRecord} : RingStep host externals hub call found found
  | created {record : RingRecord} (created : Created call record) :
      RingStep host externals hub call none (some record)
  | changed {before after : RingRecord} (accepted : accepts host externals hub call = true)
      (effect : Effect host call before after) :
      RingStep host externals hub call (some before) (some after)

variable {before : RingRecord}

theorem Effect.follows {host : ReportHost} {call : RingCall}
    {after : RingRecord} (effect : Effect host call before after) :
    Follows before after := by
  cases effect with
  | updated _ _ _ _ follows => exact follows
  | withdrawn _ _ _ follows => exact follows
  | participated _ _ _ _ _ _ follows => exact follows
  | finalized _ _ _ _ _ _ _ _ follows => exact follows
  | announced _ _ _ _ follows => exact follows

/-! ## Frames -/

variable {id ringId : String} {key : Bytes} {now : UInt64}

section Frames

theorem ringPath_ne {start : Bytes} (starts : start <+: key)
    (apart : Apart start (utf8 "orbis/ring/v1/")) : ringPath id ≠ key := by
  have different := ne_of_starts apart starts (ringPath_starts id)
  exact fun same => different same.symm

theorem reportsStart_starts (ringId : String) :
    utf8 "orbis/reports/v1/" <+: reportsStart ringId := by
  unfold reportsStart
  rw [List.append_assoc]
  exact List.prefix_append _ _

def IsReportKey (ringId : String) (key : Bytes) : Prop :=
  reportsStart ringId <+: key

theorem IsReportKey.ne (isReport : IsReportKey ringId key) : ringPath id ≠ key :=
  ringPath_ne ((reportsStart_starts ringId).trans isReport) (by decide)

theorem sessionKey_isReportKey (ringId : String) (session : Bytes) :
    IsReportKey ringId (sessionKey (reportsStart ringId) session) := by
  unfold IsReportKey sessionKey
  rw [List.append_assoc]
  exact List.prefix_append _ _

theorem expiryStart_isReportKey (ringId : String) :
    IsReportKey ringId (expiryStart (reportsStart ringId)) :=
  List.prefix_append _ _

theorem expiryKey_isReportKey (ringId : String) (expires : UInt64) (session : Bytes) :
    IsReportKey ringId (expiryKey (reportsStart ringId) expires session) := by
  unfold expiryKey
  rw [List.append_assoc]
  exact (expiryStart_isReportKey ringId).trans (List.prefix_append _ _)

theorem countKey_isReportKey (ringId : String) :
    IsReportKey ringId (countKey (reportsStart ringId)) :=
  List.prefix_append _ _

def ReportKeys (ringId : String) (pairs : List (Bytes × Bytes)) : Prop :=
  ∀ pair ∈ pairs, IsReportKey ringId pair.1 ∧ IsReportKey ringId pair.2

variable {module : VeraModule}

theorem expiredSession_keys {session : Bytes} {own : Option (Bytes × Bytes)}
    (found : expiredSession (reportsStart ringId) session now module = .ok own) :
    ReportKeys ringId own.toList := by
  unfold expiredSession at found
  split at found
  · cases found
    intro pair impossible
    cases impossible
  · obtain ⟨_, found⟩ := ifError_ok found
    dsimp only at found
    obtain ⟨_, found⟩ := ifError_ok found
    obtain ⟨_, found⟩ := ifError_ok found
    cases found
    intro pair listed
    obtain rfl := List.mem_singleton.mp listed
    exact ⟨expiryKey_isReportKey ringId _ session, sessionKey_isReportKey ringId session⟩

theorem mem_scan_starts {start : Bytes} {entry : Bytes × VeraValue}
    (listed : entry ∈ module.scan start) : start <+: entry.1 :=
  (OrderedMap.mem_prefixScan_iff.mp listed).1

theorem collectExpired_keys {entries : List (Bytes × VeraValue)}
    {expired collected : List (Bytes × Bytes)} {count final : UInt32}
    (indexed : ∀ entry ∈ entries, IsReportKey ringId entry.1) (known : ReportKeys ringId expired)
    (done : collectExpired (reportsStart ringId) now module entries expired
      count = .ok (collected, final)) : ReportKeys ringId collected := by
  induction entries generalizing expired count with
  | nil =>
    cases done
    exact known
  | cons entry rest ih =>
    obtain ⟨key, value⟩ := entry
    have later : ∀ entry ∈ rest, IsReportKey ringId entry.1 :=
      fun entry listed => indexed entry (List.mem_cons_of_mem _ listed)
    have here : IsReportKey ringId key := indexed (key, value) List.mem_cons_self
    unfold collectExpired at done
    split at done
    · exact ih later known done
    · obtain ⟨_, done⟩ := ifError_ok done
      dsimp only at done
      split at done
      · cases done
        exact known
      · split at done
        · cases done
        · obtain ⟨_, done⟩ := ifError_ok done
          obtain ⟨_, _, done⟩ := exceptBind_ok done
          refine ih later ?_ done
          intro pair listed
          rcases List.mem_append.mp listed with earlier | newest
          · exact known pair earlier
          · obtain rfl := List.mem_singleton.mp newest
            exact ⟨here, sessionKey_isReportKey ringId _⟩

variable {retention : Retention}

theorem reportRetention_keys {session : Bytes}
    (done : reportRetention ringId session now module = .ok retention) :
    retention.start = reportsStart ringId ∧
      ReportKeys ringId retention.expired := by
  unfold reportRetention at done
  obtain ⟨_, _, done⟩ := exceptBind_ok done
  obtain ⟨own, forgotten, done⟩ := exceptBind_ok done
  have indexed : ∀ entry ∈ (module.scan (expiryStart (reportsStart ringId))).take pruneLimit,
      IsReportKey ringId entry.1 := by
    intro entry listed
    have scanned := mem_scan_starts (List.mem_of_mem_take listed)
    exact (expiryStart_isReportKey ringId).trans scanned
  -- the counter differs when an earlier report of the session is forgotten
  have collects : ∃ count final,
      collectExpired (reportsStart ringId) now module
        ((module.scan (expiryStart (reportsStart ringId))).take pruneLimit)
        own.toList count = .ok (retention.expired, final) ∧
      retention.start = reportsStart ringId := by
    dsimp only at done
    split at done <;>
    · obtain ⟨count, _, done⟩ := exceptBind_ok done
      obtain ⟨⟨expired, final⟩, collected, done⟩ := exceptBind_ok done
      obtain ⟨_, _, done⟩ := exceptBind_ok done
      cases done
      exact ⟨count, final, collected, rfl⟩
  obtain ⟨_, _, collected, start⟩ := collects
  exact ⟨start, collectExpired_keys indexed (expiredSession_keys forgotten) collected⟩

theorem get_forgotten {pairs : List (Bytes × Bytes)}
    (known : ReportKeys ringId pairs) (module : VeraModule) (id : String) :
    (pairs.foldl (fun module entry =>
        (module.withoutStored entry.1).withoutStored entry.2)
      module).store.get (ringPath id) =
      module.store.get (ringPath id) := by
  induction pairs generalizing module with
  | nil => rfl
  | cons pair rest ih =>
    have here := known pair List.mem_cons_self
    rw [List.foldl_cons, ih (fun other listed => known other (List.mem_cons_of_mem _ listed)),
      get_withoutStored, if_neg here.2.ne, get_withoutStored, if_neg here.1.ne]

theorem get_retained (start : retention.start = reportsStart ringId)
    (known : ReportKeys ringId retention.expired) (session : Bytes) (reportId : String)
    (expires : UInt64) (module : VeraModule) (id : String) :
    (retention.apply session reportId expires module).store.get
      (ringPath id) = module.store.get (ringPath id) := by
  unfold Retention.apply
  rw [start, get_withStored, if_neg (countKey_isReportKey ringId).ne,
    get_withStored, if_neg (expiryKey_isReportKey ringId expires session).ne,
    get_withStored, if_neg (sessionKey_isReportKey ringId session).ne, get_forgotten known]

theorem demeritsKey_ne {host : RingHost} {node : String} (keyed : demeritsKey host ringId node = .ok key) : ringPath id ≠ key := by
  obtain ⟨_, _, keyed⟩ := exceptBind_ok keyed
  obtain ⟨_, _, keyed⟩ := exceptBind_ok keyed
  cases keyed
  have starts : utf8 "orbis/demerits/v1/" <+:
      utf8 "orbis/demerits/v1/" ++ utf8 ringId ++ utf8 "/" ++ utf8 node := by
    rw [List.append_assoc, List.append_assoc]
    exact List.prefix_append _ _
  exact ringPath_ne starts (by decide)

theorem get_tokenWrites {origin : JWSTokenRecord → Prop}
    {later : JWSTokenRecord → JWSTokenRecord → Prop} {final : VeraModule}
    (writes : TokenWrites origin later module final) (id : String) :
    final.store.get (ringPath id) = module.store.get (ringPath id) := by
  induction writes with
  | refl => rfl
  | tail _ write ih =>
    obtain ⟨record, previous, _, _, _⟩ := write
    have unindexed : Unindexed (ringPath id) := unindexed_of_starts (ringPath_starts id) (by decide)
    have other : ringPath id ≠ jwsTokenKey record.tokenHash :=
      ringPath_ne (jwsTokenKey_starts record.tokenHash) (by decide)
    rw [get_withToken_unindexed unindexed, if_neg other, ih]

end Frames

/-! ## Written records -/

section Written

variable {host : RingHost} {revision : Timestamp} {record : RingRecord}
  {sealed : Sealed} {module final : VeraModule}

theorem SealedFrom.follows (from_ : SealedFrom host revision record sealed) (kept : { record with
      state := before.state
      settings := before.settings } = before) :
    Follows before sealed.record := by
  have rest := from_.rest
  constructor
  · rw [← kept, rest]
  · rw [← kept, rest]
  · rw [← kept, rest]
  · rw [← kept, rest]
  · rw [← kept]
    exact from_.counted

theorem SealedFrom.state (from_ : SealedFrom host revision record sealed) :
    sealed.record.state = record.state := by
  rw [from_.rest]

theorem SealedFrom.settings (from_ : SealedFrom host revision record sealed) :
    sealed.record.settings = record.settings := by
  rw [from_.rest]

theorem SealedFrom.config (from_ : SealedFrom host revision record sealed) :
    sealed.record.config = record.config := by
  rw [from_.rest]

variable (host revision record sealed module final) in
/-- Of all rings, only the sealed one is written. -/
structure Writes : Prop where
  from_ : SealedFrom host revision record sealed
  stored : ∀ id, final.store.get (ringPath id) = (withSealed sealed module).store.get (ringPath id)

theorem Writes.held_eq (writes : Writes host revision record sealed module
    final) (roundTrips : RoundTrips host) (id : String) : held host final id =
      if id = record.id then some sealed.record else held host module id := by
  rw [held_congr (writes.stored id), held_withSealed roundTrips writes.from_]

theorem Writes.sound (writes : Writes host revision record sealed module
    final) (sound : RingsSound host module) : RingsSound host final :=
  (sound.withSealed writes.from_).congr writes.stored

end Written

/-! ## Entry points -/

variable {signed : SignedReport}

section EntryPoints

variable {host : ReportHost} {externals : HubExternals}

/-- Where a written record comes from. -/
inductive Source (host : ReportHost) (module : VeraModule) (call : RingCall)
    (id : String) (after : RingRecord) : Prop
  | created (absent : held host.toRingHost module id = none) (created : Created call after)
  | changed (before : RingRecord) (found : held host.toRingHost module id = some before)
      (effect : Effect host call before after)

theorem thresholdRing_none {module : VeraModule}
    (read : thresholdRing host.toRingHost id module = .ok none) :
    held host.toRingHost module id = none := by
  obtain ⟨key, keyed, read⟩ := exceptBind_ok read
  rw [ringKey_ok keyed] at read
  unfold held
  split at read
  · rename_i missing
    rw [missing]
  · obtain ⟨_, _, read⟩ := exceptBind_ok read
    obtain ⟨_, _, read⟩ := exceptBind_ok read
    obtain ⟨_, _, read⟩ := exceptBind_ok read
    obtain ⟨_, _, read⟩ := exceptBind_ok read
    cases read

section Commands

variable {context : BlockExecCtx} {submission : TxExecCtx} {token : String}
  {actor : Did} {hub : Hub} {record : RingRecord} {sealed : Sealed}

theorem createRing_source {config : RingConfig}
    (done : createRing host.toRingHost externals.acp context actor config hub = .ok record)
    (from_ : SealedFrom host.toRingHost context.timestamp record sealed) :
    Source host hub.vera (.command context submission token (.create config))
      record.id sealed.record := by
  obtain ⟨id, _, done⟩ := exceptBind_ok done
  obtain ⟨existing, read, done⟩ := exceptBind_ok done
  obtain ⟨_, absent, done⟩ := exceptBind_ok done
  obtain ⟨_, _, done⟩ := exceptBind_ok done
  obtain ⟨_, _, done⟩ := exceptBind_ok done
  cases done
  rw [require_ok absent] at read
  apply Source.created (thresholdRing_none read)
  refine ⟨⟨context, submission, token, ?_⟩, from_.state, from_.settings, from_.counted⟩
  rw [from_.config]

theorem updateRing_source {expected : UInt64} {update : RingUpdate}
    (done : updateRing host.toRingHost externals.acp context actor id expected
      update hub = .ok record)
    (from_ : SealedFrom host.toRingHost context.timestamp record sealed) :
    Source host hub.vera (.command context submission token (.update id expected update))
      record.id sealed.record := by
  obtain ⟨before, read, done⟩ := exceptBind_ok done
  obtain ⟨found, valid⟩ := requireRing_ok read
  obtain ⟨_, _, done⟩ := exceptBind_ok done
  obtain ⟨_, serving, done⟩ := exceptBind_ok done
  obtain ⟨_, _, done⟩ := exceptBind_ok done
  obtain ⟨settings, revised, done⟩ := exceptBind_ok done
  cases done
  have named : before.id = id := valid.id
  subst named
  apply Source.changed before found
  refine Effect.updated ?_ revised from_.state from_.settings (from_.follows rfl)
  rcases require_ok serving with active | ⟨_, pending⟩
  · exact .inl active
  · exact .inr pending

theorem cancelRing_source (done : cancelRing host.toRingHost actor id hub = .ok record)
    (from_ : SealedFrom host.toRingHost context.timestamp record sealed) :
    Source host hub.vera (.command context submission token (.cancel id))
      record.id sealed.record := by
  obtain ⟨before, read, done⟩ := exceptBind_ok done
  obtain ⟨found, valid⟩ := requireRing_ok read
  obtain ⟨_, allowed, done⟩ := exceptBind_ok done
  cases done
  have named : before.id = id := valid.id
  subst named
  apply Source.changed before found
  exact Effect.withdrawn (require_ok allowed).2 from_.state from_.settings (from_.follows rfl)

variable {command : RingCommand}

theorem commandRecord_source
    (done : commandRecord host.toRingHost externals.acp context actor command hub = .ok record)
    (from_ : SealedFrom host.toRingHost context.timestamp record sealed) :
    Source host hub.vera (.command context submission token command) record.id
      sealed.record := by
  cases command with
  | create config => exact createRing_source done from_
  | update id expected update => exact updateRing_source done from_
  | cancel id => exact cancelRing_source done from_

/-- What a served command writes. -/
structure Served (host : ReportHost) (externals : HubExternals)
    (context : BlockExecCtx) (actor : Did) (command : RingCommand) (hub : Hub)
    (record : RingRecord) (sealed : Sealed) (final : VeraModule) : Prop where
  decided : commandRecord host.toRingHost externals.acp context actor command hub = .ok record
  writes : Writes host.toRingHost context.timestamp record sealed hub.vera final

theorem serve_ringOutcome {value : OperationResult} {final : Hub}
    (ran : (Hub.serve externals actor 4 fun hub =>
      (ringOutcome host.toRingHost externals.acp context actor command
        hub).mapError fun error => AcpError.state error.text).run hub =
      (.ok value, final)) :
    ∃ record sealed, Served host externals context actor command hub record
      sealed final.vera := by
  unfold Hub.serve at ran
  obtain ⟨outcome, middle, queried, ran⟩ := Exec.run_bind_ok ran
  obtain ⟨answered, rfl⟩ := Prod.mk.inj queried
  obtain ⟨_, registered, registering, ran⟩ := Exec.run_bind_ok ran
  have same : registered.vera = hub.vera := by
    have kept := @Hub.registerService_vera externals hub actor outcome.registration
    unfold Exec.Wp at kept
    rw [registering] at kept
    exact kept
  obtain ⟨_, written, writing, ran⟩ := Exec.run_bind_ok ran
  rw [Exec.run_modify] at writing
  obtain ⟨_, rfl⟩ := Prod.mk.inj writing
  obtain ⟨_, rfl⟩ := Prod.mk.inj ran
  dsimp only at answered
  cases decision : ringOutcome host.toRingHost externals.acp context actor command hub with
  | error failure =>
    rw [decision] at answered
    cases answered
  | ok other =>
    rw [decision] at answered
    cases answered
    obtain ⟨record, decided, decision⟩ := exceptBind_ok decision
    obtain ⟨sealed, isSealed, decision⟩ := exceptBind_ok decision
    cases decision
    have from_ := sealRecord_ok isSealed
    refine ⟨record, sealed, decided, from_, ?_⟩
    intro id
    have path : Hub.serviceKey ("ring/v1/" ++ sealed.record.id) =
        sealed.key := by
      rw [from_.key, from_.rest]
      rfl
    dsimp only
    rw [same, path]
    rfl

theorem applyRingCommand_wp {command : RingCommand} :
    (applyRingCommand host.toRingHost externals context submission token command).Wp
      (fun result final =>
        (∀ id, final.vera.store.get (ringPath id) = hub.vera.store.get (ringPath id)) ∨
        (succeeds result = true ∧ ∃ actor record sealed,
          Served host externals context actor command hub record sealed final.vera)) hub := by
  unfold applyRingCommand
  apply Exec.Wp.failIf
  · intro _
    exact .inl fun _ => rfl
  intro _
  apply Exec.Wp.within
  apply Exec.Wp.weaken Hub.withDelegation_wp
  intro result final reached
  cases reached with
  | rejected failure => exact .inl fun _ => rfl
  | replayed => exact .inl fun _ => rfl
  | performed caller actor issuer claims authorized fresh value middle kept final done =>
    obtain ⟨record, sealed, served⟩ := serve_ringOutcome done.ran
    have verified := (authorizeDelegation_ok authorized.accepted).verified
    have same : kept.vera = middle.vera := by
      have outcome := @Hub.keepOutcome_vera externals middle context submission
        ((DelegatedOperation.ringCommand (host.commandJson command)).digest
          externals) actor claims.request value
      unfold Exec.Wp at outcome
      rw [done.completed] at outcome
      exact outcome
    have used : TokenWrites (Genuine externals.crypto) Active kept.vera
        final.vera := by
      have writes := @Hub.recordUse_writes externals kept context token issuer claims verified
      unfold Exec.Wp at writes
      rw [done.recorded] at writes
      exact writes
    refine .inr ⟨rfl, actor, record, sealed, served.decided, served.writes.from_, ?_⟩
    intro id
    rw [get_tokenWrites used, same, served.writes.stored]

end Commands

section Requests

variable {context : BlockExecCtx} {module : VeraModule} {sealed : Sealed}

theorem participantOutcome_source {signed : SignedRingParticipantRequest}
    (done : participantOutcome host.toRingHost context signed module = .ok sealed) :
    ∃ record, SealedFrom host.toRingHost context.timestamp record sealed ∧
      record.id = signed.request.ringId ∧ Source host module (.participant context signed) record.id
        sealed.record := by
  unfold participantOutcome at done
  obtain ⟨_, _, done⟩ := exceptBind_ok done
  obtain ⟨_, _, done⟩ := exceptBind_ok done
  obtain ⟨before, read, done⟩ := exceptBind_ok done
  obtain ⟨found, valid⟩ := requireRing_ok read
  obtain ⟨_, member, done⟩ := exceptBind_ok done
  obtain ⟨_, verified, done⟩ := exceptBind_ok done
  split at done
  · rename_i publicKey confirmations pending
    obtain ⟨state, decided, done⟩ := exceptBind_ok done
    have from_ := sealRecord_ok done
    refine ⟨_, from_, valid.id, .changed before ?_ ?_⟩
    · rw [← found]
      exact congrArg _ valid.id
    · have stated : sealed.record.state = state := from_.state
      rw [← stated] at decided
      exact Effect.participated pending valid.id.symm
        (contains_iff.mp (require_ok member).2) verified decided from_.settings (from_.follows rfl)
  · cases done

theorem reshareOutcome_source {request : RingReshareRequest}
    (done : reshareOutcome host.toRingHost context request module = .ok sealed) :
    ∃ record, SealedFrom host.toRingHost context.timestamp record sealed ∧
      record.id = request.ringId ∧ Source host module (.reshare context request) record.id
        sealed.record := by
  unfold reshareOutcome at done
  obtain ⟨_, _, done⟩ := exceptBind_ok done
  obtain ⟨before, read, done⟩ := exceptBind_ok done
  obtain ⟨found, valid⟩ := requireRing_ok read
  obtain ⟨_, current, done⟩ := exceptBind_ok done
  obtain ⟨⟨publicKey, message⟩, described, done⟩ := exceptBind_ok done
  obtain ⟨signature, decoded, done⟩ := exceptBind_ok done
  obtain ⟨_, verified, finishing⟩ := exceptBind_ok done
  unfold RingRecord.reshareSigningBytes at described
  obtain ⟨_, _, described⟩ := exceptBind_ok described
  split at described
  · rename_i key active
    split at described
    · cases described
    · rename_i target pending
      obtain ⟨rfl, rfl⟩ := Prod.mk.inj (Except.ok.inj described)
      rw [pending] at finishing
      obtain ⟨_, _, sealing⟩ := exceptBind_ok finishing
      have from_ := sealRecord_ok sealing
      refine ⟨_, from_, valid.id, .changed before ?_ ?_⟩
      · rw [← found]
        exact congrArg _ valid.id
      · exact Effect.finalized active pending valid.id.symm
          (require_ok current).2 (require_ok current).1
          ⟨signature, decoded, verified⟩ from_.state from_.settings (from_.follows rfl)
  · cases described

theorem reportReplacement_source {points : UInt64} {replacement : Replacement}
    (active : before.state.isActive = true)
    (done : reportReplacement host before signed.report.accusedNodeKey points
      context.timestamp module = .ok (some replacement)) :
    ∃ record, SealedFrom host.toRingHost context.timestamp record replacement.sealed ∧
      record.id = before.id ∧ Effect host (.report context signed) before
        replacement.sealed.record := by
  unfold reportReplacement at done
  dsimp only at done
  split at done
  · cases done
  · rename_i eligible
    obtain ⟨found, _, done⟩ := exceptBind_ok done
    split at done
    · cases done
    · obtain ⟨sealed, isSealed, done⟩ := exceptBind_ok done
      cases done
      have from_ := sealRecord_ok isSealed
      refine ⟨_, from_, rfl, ?_⟩
      apply Effect.announced active ?_ from_.state from_.settings (from_.follows rfl)
      push Not at eligible
      exact Option.not_isSome_iff_eq_none.mp eligible.2.1

/-- An accepted report names an active ring and writes beside the rings, apart
from the replacement it may announce. -/
theorem reportOutcome_source {accepted : Accepted}
    (done : reportOutcome host context signed module = .ok accepted) :
    (∀ id, (withAccepted accepted module).store.get (ringPath id) =
        module.store.get (ringPath id)) ∨
      ∃ record sealed, Writes host.toRingHost context.timestamp record sealed
          module (withAccepted accepted module) ∧
        Source host module (.report context signed) record.id
          sealed.record := by
  unfold reportOutcome at done
  obtain ⟨_, _, done⟩ := exceptBind_ok done
  obtain ⟨before, read, done⟩ := exceptBind_ok done
  obtain ⟨found, valid⟩ := requireRing_ok read
  obtain ⟨publicKey, reported, done⟩ := exceptBind_ok done
  have active : before.state.isActive = true := by
    unfold checkReported at reported
    split at reported
    · rename_i state
      rw [state]
      rfl
    · cases reported
  obtain ⟨metadata, _, done⟩ := exceptBind_ok done
  obtain ⟨_, _, done⟩ := exceptBind_ok done
  obtain ⟨_, _, done⟩ := exceptBind_ok done
  obtain ⟨_, _, done⟩ := exceptBind_ok done
  obtain ⟨retention, retained, done⟩ := exceptBind_ok done
  obtain ⟨start, forgotten⟩ := reportRetention_keys retained
  obtain ⟨_, _, done⟩ := exceptBind_ok done
  obtain ⟨amount, _, done⟩ := exceptBind_ok done
  obtain ⟨previous, _, done⟩ := exceptBind_ok done
  obtain ⟨⟨points, window⟩, _, done⟩ := exceptBind_ok done
  obtain ⟨replacement, replaced, done⟩ := exceptBind_ok done
  obtain ⟨scoreKey, scored, done⟩ := exceptBind_ok done
  obtain ⟨_, _, done⟩ := exceptBind_ok done
  cases done
  unfold withAccepted
  dsimp only
  cases replacement with
  | none =>
    left
    intro id
    rw [get_withStored, if_neg (demeritsKey_ne scored), get_retained start forgotten]
  | some replacement =>
    right
    obtain ⟨record, from_, named, effect⟩ := reportReplacement_source active replaced
    refine ⟨record, replacement.sealed, ⟨from_, ?_⟩, .changed before ?_ effect⟩
    · intro id
      rw [get_withSealed from_, get_withSealed from_, get_withStored,
        if_neg (demeritsKey_ne scored), get_retained start forgotten]
    · rw [named, ← found]
      exact congrArg _ valid.id

end Requests

/-! ## Steps -/

theorem run_decided {α β : Type} {decision : VeraModule → Except RingError α}
    {write : α → VeraModule → VeraModule} {answer : α → β} {call : Exec VeraModule RingError β}
    (decides : call = Exec.query decision >>= fun decided =>
      Exec.modify (write decided) >>= fun _ => pure (answer decided))
    (module : VeraModule) :
    (∃ failure, call.run module = (.error failure, module)) ∨
      ∃ decided, decision module = .ok decided ∧
        call.run module = (.ok (answer decided), write decided module) := by
  rw [decides, Exec.run_bind, Exec.run_query]
  cases decision module with
  | error failure => exact .inl ⟨failure, rfl⟩
  | ok decided => exact .inr ⟨decided, rfl, rfl⟩

variable {hub : Hub}

variable (host externals hub) in
/-- A call leaves the rings alone, or it succeeds and writes one of them. -/
inductive Performs (call : RingCall) : Prop
  | kept (same : ∀ id,
      (perform host externals hub call).vera.store.get (ringPath id) =
        hub.vera.store.get (ringPath id))
  | wrote (revision : Timestamp) (record : RingRecord) (sealed : Sealed)
      (accepted : accepts host externals hub call = true)
      (writes : Writes host.toRingHost revision record sealed hub.vera
        (perform host externals hub call).vera)
      (source : Source host hub.vera call record.id sealed.record)

variable {context : BlockExecCtx}

theorem participant_performs {signed : SignedRingParticipantRequest}
    (accepted : accepts host externals hub (.participant context signed) = true) :
    ∃ record sealed,
      Writes host.toRingHost context.timestamp record sealed hub.vera
        (perform host externals hub (.participant context signed)).vera ∧
      record.id = signed.request.ringId ∧
      Source host hub.vera (.participant context signed) record.id
        sealed.record := by
  dsimp only [accepts, perform] at accepted ⊢
  rcases @run_decided _ _ _ _ _ (applyRingParticipantRequest host.toRingHost
    context signed) rfl hub.vera with ⟨_, failed⟩ | ⟨sealed, decided, ran⟩
  · rw [failed] at accepted
    cases accepted
  · obtain ⟨record, from_, named, source⟩ := participantOutcome_source decided
    rw [ran]
    exact ⟨record, sealed, ⟨from_, fun _ => rfl⟩, named, source⟩

theorem reshare_performs {request : RingReshareRequest}
    (accepted : accepts host externals hub (.reshare context request) = true) :
    ∃ record sealed,
      Writes host.toRingHost context.timestamp record sealed hub.vera
        (perform host externals hub (.reshare context request)).vera ∧
      record.id = request.ringId ∧ Source host hub.vera (.reshare context request) record.id
        sealed.record := by
  dsimp only [accepts, perform] at accepted ⊢
  rcases @run_decided _ _ _ _ _ (finalizeRingReshare host.toRingHost context
    request) rfl hub.vera with ⟨_, failed⟩ | ⟨sealed, decided, ran⟩
  · rw [failed] at accepted
    cases accepted
  · obtain ⟨record, from_, named, source⟩ := reshareOutcome_source decided
    rw [ran]
    exact ⟨record, sealed, ⟨from_, fun _ => rfl⟩, named, source⟩

theorem report_performs (accepted : accepts host externals hub (.report context signed) = true) :
    Performs host externals hub (.report context signed) := by
  have outcome := accepted
  dsimp only [accepts] at outcome
  rcases @run_decided _ _ _ _ _ (submitRingReport host context signed) rfl
    hub.vera with ⟨_, failed⟩ | ⟨decided, isDecided, ran⟩
  · rw [failed] at outcome
    cases outcome
  · have final : (perform host externals hub (.report context signed)).vera =
        withAccepted decided hub.vera := by
      dsimp only [perform]
      rw [ran]
    rcases reportOutcome_source isDecided with
      same | ⟨record, sealed, writes, source⟩
    · apply Performs.kept
      rw [final]
      exact same
    · rw [← final] at writes
      exact .wrote _ record sealed accepted writes source

theorem succeeds_false {ε α : Type} {result : Except ε α}
    (failed : succeeds result = false) : ∃ failure, result = .error failure := by
  cases result with
  | error failure => exact ⟨failure, rfl⟩
  | ok value => cases failed

theorem perform_of_rejected {call : RingCall} (rejected : accepts host externals hub call = false) :
    perform host externals hub call = hub := by
  cases call with
  | command context submission token command =>
    obtain ⟨failure, failed⟩ := succeeds_false rejected
    have clean : (applyRingCommand host.toRingHost externals context
        submission token command).AllOrNothing hub := by
      apply Exec.AllOrNothing.of_wp
      apply Exec.Wp.failIf
      · intro _
        rfl
      intro _
      apply Exec.Wp.within
      apply Exec.Wp.weaken Hub.withDelegation_wp
      intro result final reached
      cases reached with
      | rejected failure => rfl
      | replayed caller actor issuer claims request record =>
        cases AcpModule.replayed _ _ request.id.bytes record with
        | ok value => trivial
        | error failure => rfl
      | performed => trivial
    exact clean failure failed
  | participant context signed =>
    dsimp only [accepts, perform] at rejected ⊢
    rcases @run_decided _ _ _ _ _ (applyRingParticipantRequest
      host.toRingHost context signed) rfl hub.vera with
      ⟨_, failed⟩ | ⟨_, _, ran⟩
    · rw [failed]
    · rw [ran] at rejected
      cases rejected
  | reshare context request =>
    dsimp only [accepts, perform] at rejected ⊢
    rcases @run_decided _ _ _ _ _ (finalizeRingReshare host.toRingHost
      context request) rfl hub.vera with ⟨_, failed⟩ | ⟨_, _, ran⟩
    · rw [failed]
    · rw [ran] at rejected
      cases rejected
  | report context signed =>
    dsimp only [accepts, perform] at rejected ⊢
    rcases @run_decided _ _ _ _ _ (submitRingReport host context signed) rfl
      hub.vera with ⟨_, failed⟩ | ⟨_, _, ran⟩
    · rw [failed]
    · rw [ran] at rejected
      cases rejected
  | other change beside => cases rejected

theorem perform_performs (call : RingCall) :
    Performs host externals hub call := by
  cases outcome : accepts host externals hub call with
  | false =>
    apply Performs.kept
    intro id
    rw [perform_of_rejected outcome]
  | true =>
    cases call with
    | command context submission token command =>
      rcases @applyRingCommand_wp host externals context submission token
        hub command with same | ⟨_, actor, record, sealed, served⟩
      · exact .kept same
      · exact .wrote _ record sealed outcome served.writes
          (commandRecord_source served.decided served.writes.from_)
    | participant context signed =>
      obtain ⟨record, sealed, writes, _, source⟩ := participant_performs outcome
      exact .wrote _ record sealed outcome writes source
    | reshare context request =>
      obtain ⟨record, sealed, writes, _, source⟩ := reshare_performs outcome
      exact .wrote _ record sealed outcome writes source
    | report context signed =>
      exact report_performs outcome
    | other change beside => exact .kept (beside hub)

theorem perform_step (roundTrips : RoundTrips host.toRingHost) (call : RingCall) (id : String) :
    RingStep host externals hub call (held host.toRingHost hub.vera id)
      (held host.toRingHost (perform host externals hub call).vera id) := by
  cases @perform_performs host externals hub call with
  | kept same =>
    rw [held_congr (same id)]
    exact .kept
  | wrote revision record sealed accepted writes source =>
    rw [writes.held_eq roundTrips]
    by_cases here : id = record.id
    · subst here
      rw [if_pos rfl]
      cases source with
      | created absent created =>
        rw [absent]
        exact .created created
      | changed before found effect =>
        rw [found]
        exact .changed accepted effect
    · rw [if_neg here]
      exact .kept

theorem perform_sound (sound : RingsSound host.toRingHost hub.vera) (call : RingCall) :
    RingsSound host.toRingHost (perform host externals hub call).vera := by
  cases @perform_performs host externals hub call with
  | kept same => exact sound.congr same
  | wrote revision record sealed accepted writes source =>
    exact writes.sound sound

end EntryPoints

end VeraHub.Rings
