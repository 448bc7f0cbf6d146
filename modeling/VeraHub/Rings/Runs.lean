import VeraHub.Rings.Effects
import VeraHub.Rings.Encoding

/-!
# Runs of ring calls

A ring keeps its founding data, leaves the pending state at most once and counts
every change.  A pending ring carries a signed confirmation for each node it
lists, so an active one carries those of all its participants.
-/

namespace VeraHub.Rings

open VeraHub.Acp VeraHub.Vera VeraHub.Vera.VeraModule

/-! ## Participants -/

variable {record : RingRecord} {request : RingParticipantRequest} {publicKey : Option String}
  {confirmations : List String} {module : VeraModule}

section Participants

variable {host : RingHost}

theorem participantState_cases {state : RingState}
    (decided : participantState host record request publicKey confirmations module = .ok state) :
    (∃ did, request.command = .cancel ∧ state = .cancelled did) ∨
      ∃ key position, request.command = .confirm key ∧ request.nodeKey ∉ confirmations ∧
        position ≤ confirmations.length ∧
        state = confirmedState record.config publicKey confirmations position
          request.nodeKey key := by
  unfold participantState at decided
  split at decided
  · rename_i isCancel
    obtain ⟨did, _, decided⟩ := exceptBind_ok decided
    cases decided
    exact .inl ⟨did, isCancel, rfl⟩
  · rename_i key isConfirm
    obtain ⟨_, _, decided⟩ := exceptBind_ok decided
    obtain ⟨node, _, decided⟩ := exceptBind_ok decided
    split at decided
    · cases decided
    · obtain ⟨_, _, decided⟩ := exceptBind_ok decided
      split at decided
      · cases decided
      · rename_i position missing
        cases decided
        obtain ⟨fresh, within⟩ := binarySearch_error missing
        exact .inr ⟨key, position, isConfirm, fresh, within, rfl⟩

/-- A confirmation of another key is a conflict; one of the same key completes
or extends the confirmations. -/
theorem confirmedState_cases (config : RingConfig) (publicKey : Option String)
    (confirmations : List String) (position : Nat) (node key : String) :
    (∃ first, confirmedState config publicKey confirmations position node key =
        .conflict first key node) ∨
      ((∀ first, publicKey = some first → first = key) ∧
        ((confirmedState config publicKey confirmations position node key = .active key ∧
          (confirmations.insertIdx position node).length = config.peerNodeKeys.length) ∨
        confirmedState config publicKey confirmations position node key =
          .pending (some key) (confirmations.insertIdx position node))) := by
  unfold confirmedState
  cases other : publicKey.filter (fun first => first ≠ key) with
  | some first => exact .inl ⟨first, rfl⟩
  | none =>
    right
    constructor
    · intro first isFirst
      rw [isFirst] at other
      by_contra different
      rw [Option.filter_some, if_pos (decide_eq_true different)] at other
      cases other
    · dsimp only
      split
      · rename_i complete
        exact .inl ⟨rfl, complete⟩
      · exact .inr rfl

/-- A request that can have no further effect on a ring. -/
def Spent (request : RingParticipantRequest) (record : RingRecord) : Prop :=
  record.state.isPending = false ∨
    ∃ key publicKey confirmations, request.command = .confirm key ∧
      record.state = .pending publicKey confirmations ∧ request.nodeKey ∈ confirmations

theorem isPending_of_eq (state : record.state = .pending publicKey confirmations) :
    record.state.isPending = true := by
  rw [state]
  rfl

theorem Spent.not_decided {state : RingState}
    (spent : Spent request record) (pending : record.state = .pending publicKey confirmations)
    (decided : participantState host record request publicKey confirmations
      module = .ok state) : False := by
  rcases spent with settled | ⟨key, first, listed, isConfirm, recorded, member⟩
  · rw [isPending_of_eq pending] at settled
    cases settled
  · rw [pending] at recorded
    obtain ⟨_, rfl⟩ := RingState.pending.inj recorded
    rcases participantState_cases decided with
      ⟨_, isCancel, _⟩ | ⟨_, _, _, fresh, _⟩
    · rw [isConfirm] at isCancel
      cases isCancel
    · exact fresh member

end Participants

/-! ## Descent -/

/-- What a record keeps of an earlier one. -/
structure Descends (before after : RingRecord) : Prop where
  id : after.id = before.id
  deploymentRoot : after.deploymentRoot = before.deploymentRoot
  creator : after.creator = before.creator
  config : after.config = before.config
  sequence : before.sequence.toNat ≤ after.sequence.toNat
  settled : before.state.isPending = false → after.state = before.state
  closed : before.state.isPending = false → before.state.isActive = false → after = before
  spent : ∀ request, Spent request before → Spent request after

theorem Descends.refl (record : RingRecord) : Descends record record :=
  ⟨rfl, rfl, rfl, rfl, le_rfl, fun _ => rfl, fun _ _ => rfl, fun _ spent => spent⟩

theorem Descends.trans {first second third : RingRecord}
    (early : Descends first second) (late : Descends second third) :
    Descends first third := by
  refine ⟨late.id.trans early.id, late.deploymentRoot.trans early.deploymentRoot,
    late.creator.trans early.creator, late.config.trans early.config,
    early.sequence.trans late.sequence, ?_, ?_, ?_⟩
  · intro settled
    have same := early.settled settled
    rw [← same] at settled ⊢
    exact late.settled settled
  · intro settled inactive
    have same := early.closed settled inactive
    subst same
    exact late.closed settled inactive
  · intro request spent
    exact late.spent request (early.spent request spent)

section Effects

variable {host : ReportHost} {call : RingCall} {before after : RingRecord}

theorem spent_of_participated
    (decided : participantState host.toRingHost before request publicKey
      confirmations module = .ok after.state) :
    Spent request after := by
  rcases participantState_cases decided with
    ⟨_, _, state⟩ | ⟨key, position, isConfirm, _, within, state⟩
  · left
    rw [state]
    rfl
  · rcases confirmedState_cases before.config publicKey confirmations position
      request.nodeKey key with ⟨_, conflict⟩ | ⟨_, ⟨active, _⟩ | pending⟩
    · left
      rw [state, conflict]
      rfl
    · left
      rw [state, active]
      rfl
    · right
      refine ⟨key, _, _, isConfirm, state.trans pending, ?_⟩
      exact (List.mem_insertIdx within).mpr (.inl rfl)

theorem Spent.participated {other : RingParticipantRequest} (spent : Spent other before)
    (pending : before.state = .pending publicKey confirmations)
    (decided : participantState host.toRingHost before request publicKey
      confirmations module = .ok after.state) :
    Spent other after := by
  rcases spent with settled | ⟨first, _, _, isConfirm, recorded, member⟩
  · rw [isPending_of_eq pending] at settled
    cases settled
  · rw [pending] at recorded
    obtain ⟨_, rfl⟩ := RingState.pending.inj recorded
    rcases participantState_cases decided with
      ⟨_, _, state⟩ | ⟨key, position, _, _, within, state⟩
    · left
      rw [state]
      rfl
    · rcases confirmedState_cases before.config publicKey confirmations
        position request.nodeKey key with
        ⟨_, conflict⟩ | ⟨_, ⟨active, _⟩ | extended⟩
      · left
        rw [state, conflict]
        rfl
      · left
        rw [state, active]
        rfl
      · right
        refine ⟨first, _, _, isConfirm, state.trans extended, ?_⟩
        exact (List.mem_insertIdx within).mpr (.inr member)

theorem Spent.congr (spent : Spent request before) (state : after.state = before.state) :
    Spent request after := by
  unfold Spent
  rw [state]
  exact spent

theorem Follows.descends (follows : Follows before after) (state : after.state = before.state)
    (serving : before.state.isActive = true ∨ before.state.isPending = true) :
    Descends before after := by
  refine ⟨follows.id, follows.deploymentRoot, follows.creator, follows.config,
    ?_, fun _ => state, ?_, fun _ spent => spent.congr state⟩
  · rw [follows.sequence]
    exact Nat.le_succ _
  · intro settled inactive
    rcases serving with active | pending
    · rw [active] at inactive
      cases inactive
    · rw [pending] at settled
      cases settled

theorem Follows.descends_pending (follows : Follows before after)
    (pending : before.state.isPending = true)
    (spent : ∀ request, Spent request before → Spent request after) :
    Descends before after := by
  have unsettled : before.state.isPending ≠ false := by
    rw [pending]
    decide
  refine ⟨follows.id, follows.deploymentRoot, follows.creator, follows.config,
    ?_, fun settled => (unsettled settled).elim, fun settled => (unsettled settled).elim, spent⟩
  rw [follows.sequence]
  exact Nat.le_succ _

theorem Effect.descends (effect : Effect host call before after) :
    Descends before after := by
  cases effect with
  | updated serving _ state _ follows => exact follows.descends state serving
  | withdrawn pending state _ follows =>
    apply follows.descends_pending pending
    intro _ _
    left
    rw [state]
    rfl
  | participated pending _ _ _ decided _ follows =>
    apply follows.descends_pending (isPending_of_eq pending)
    intro _ spent
    exact spent.participated pending decided
  | finalized active _ _ _ _ _ state _ follows =>
    apply follows.descends state
    left
    rw [active]
    rfl
  | announced active _ state _ follows =>
    exact follows.descends state (.inl active)

end Effects

/-! ## Rings along a run -/

section Runs

variable (host : ReportHost) (externals : HubExternals) (start : Hub)

def ringAt (calls : List RingCall) (id : String) : Option RingRecord :=
  held host.toRingHost (performAll host externals start calls).vera id

variable {host externals start}

theorem performAll_snoc (calls : List RingCall) (call : RingCall) :
    performAll host externals start (calls ++ [call]) =
      perform host externals (performAll host externals start calls) call :=
  performAll_append host externals start calls [call]

variable (roundTrips : RoundTrips host.toRingHost)

include roundTrips

theorem ringAt_step (calls : List RingCall) (call : RingCall) (id : String) :
    RingStep host externals (performAll host externals start calls) call
      (ringAt host externals start calls id)
      (ringAt host externals start (calls ++ [call]) id) := by
  unfold ringAt
  rw [performAll_snoc]
  exact perform_step roundTrips call id

theorem ringAt_descends {earlier : List RingCall} {id : String} {before : RingRecord}
    (found : ringAt host externals start earlier id = some before) (later : List RingCall) :
    ∃ after, ringAt host externals start (earlier ++ later) id = some after ∧
      Descends before after := by
  induction later using List.reverseRecOn with
  | nil =>
    rw [List.append_nil]
    exact ⟨before, found, .refl before⟩
  | append_singleton later call ih =>
    obtain ⟨middle, reached, descends⟩ := ih
    have step := @ringAt_step host externals start roundTrips (earlier ++ later) call id
    rw [reached, List.append_assoc] at step
    generalize next : ringAt host externals start (earlier ++ (later ++ [call])) id = final at step
    cases step with
    | kept => exact ⟨middle, rfl, descends⟩
    | changed _ effect => exact ⟨_, rfl, descends.trans effect.descends⟩

theorem ringAt_participant {calls : List RingCall} {context : BlockExecCtx}
    {signed : SignedRingParticipantRequest}
    (accepted : accepts host externals (performAll host externals start calls)
      (.participant context signed) = true) :
    ∃ before after, ringAt host externals start calls signed.request.ringId = some before ∧
      ringAt host externals start (calls ++ [.participant context signed])
        signed.request.ringId = some after ∧
      Effect host (.participant context signed) before after := by
  obtain ⟨record, sealed, writes, named, source⟩ := participant_performs accepted
  have written := writes.held_eq roundTrips record.id
  rw [if_pos rfl] at written
  rw [← named]
  cases source with
  | created _ created =>
    obtain ⟨_, _, _, impossible⟩ := created.called
    cases impossible
  | changed before found effect =>
    refine ⟨before, sealed.record, found, ?_, effect⟩
    unfold ringAt
    rw [performAll_snoc]
    exact written

theorem ringAt_reshare {calls : List RingCall} {context : BlockExecCtx}
    {request : RingReshareRequest}
    (accepted : accepts host externals (performAll host externals start calls)
      (.reshare context request) = true) :
    ∃ before after, ringAt host externals start calls request.ringId = some before ∧
      ringAt host externals start (calls ++ [.reshare context request])
        request.ringId = some after ∧
      Effect host (.reshare context request) before after := by
  obtain ⟨record, sealed, writes, named, source⟩ := reshare_performs accepted
  have written := writes.held_eq roundTrips record.id
  rw [if_pos rfl] at written
  rw [← named]
  cases source with
  | created _ created =>
    obtain ⟨_, _, _, impossible⟩ := created.called
    cases impossible
  | changed before found effect =>
    refine ⟨before, sealed.record, found, ?_, effect⟩
    unfold ringAt
    rw [performAll_snoc]
    exact written

end Runs

/-! ## Confirmations -/

variable {calls : List RingCall} {id : String}

section Confirmations

variable (host : ReportHost) (externals : HubExternals) (start : Hub) (signs : Bytes → Bytes → Prop)

/-- A confirmation of a key for a ring, signed by the node itself. -/
structure Confirms (id node key : String) (request : RingParticipantRequest) : Prop where
  ring : request.ringId = id
  signer : request.nodeKey = node
  command : request.command = .confirm key
  signed : ∃ publicKey digest, hexDecode (utf8 node) = some publicKey ∧
    request.signingDigest host.toRingHost = .ok digest ∧ signs publicKey digest

/-- A node's own confirmation was accepted while the ring was pending. -/
def Confirmed (calls : List RingCall) (id node key : String) : Prop :=
  ∃ earlier context signed later, calls = earlier ++ .participant context signed :: later ∧
    accepts host externals (performAll host externals start earlier)
      (.participant context signed) = true ∧
    (∃ record, ringAt host externals start earlier id = some record ∧
      record.state.isPending = true) ∧
    Confirms host signs id node key signed.request

/-- The confirmations behind the state of a ring. -/
structure Backed (calls : List RingCall) (id : String) (record : RingRecord) : Prop where
  pending : ∀ publicKey confirmations, record.state = .pending publicKey confirmations →
    ∀ node ∈ confirmations, ∃ key, publicKey = some key ∧
      Confirmed host externals start signs calls id node key
  active : ∀ key, record.state = .active key →
    ∀ node ∈ record.config.peerNodeKeys, Confirmed host externals start signs calls id node key

variable {host externals start signs}

theorem Confirmed.snoc {node key : String}
    (confirmed : Confirmed host externals start signs calls id node key) (call : RingCall) :
    Confirmed host externals start signs (calls ++ [call]) id node key := by
  obtain ⟨earlier, context, signed, later, rfl, rest⟩ := confirmed
  refine ⟨earlier, context, signed, later ++ [call], ?_, rest⟩
  rw [List.append_assoc, List.cons_append]

variable {before after : RingRecord}

theorem Backed.snoc (backed : Backed host externals start signs calls id before)
    (state : after.state = before.state) (config : after.config = before.config) (call : RingCall) :
    Backed host externals start signs (calls ++ [call]) id after := by
  constructor
  · intro publicKey confirmations pending node listed
    rw [state] at pending
    obtain ⟨key, isKey, confirmed⟩ := backed.pending publicKey confirmations pending node listed
    exact ⟨key, isKey, confirmed.snoc call⟩
  · intro key active node listed
    rw [state] at active
    rw [config] at listed
    exact (backed.active key active node listed).snoc call

theorem Backed.of_cancelled {author : String} (state : record.state = .cancelled author) :
    Backed host externals start signs calls id record := by
  constructor
  · intro _ _ pending
    rw [state] at pending
    cases pending
  · intro _ active
    rw [state] at active
    cases active

theorem signed_of_checked (signatures : ∀ key digest signature,
      host.crypto.verifyDigest key digest signature = .ok () → signs key digest)
    {signed : SignedRingParticipantRequest}
    (verified : checkParticipantSignature host.toRingHost signed = .ok ()) :
    ∃ publicKey digest, hexDecode (utf8 signed.request.nodeKey) = some publicKey ∧
      signed.request.signingDigest host.toRingHost = .ok digest ∧
      signs publicKey digest := by
  obtain ⟨_, _, verified⟩ := exceptBind_ok verified
  obtain ⟨_, _, verified⟩ := exceptBind_ok verified
  obtain ⟨signature, _, verified⟩ := exceptBind_ok verified
  split at verified
  · cases verified
  · rename_i publicKey decoded
    obtain ⟨digest, digested, verified⟩ := exceptBind_ok verified
    exact ⟨publicKey, digest, decoded, digested,
      signatures publicKey digest signature (asInvalid_ok verified)⟩

/-- Distinct confirmations of participants, as many as there are participants,
are those of all of them. -/
theorem all_confirmed {config : RingConfig} {position : Nat} {node : String}
    (valid : ValidPending config publicKey confirmations)
    (fresh : node ∉ confirmations) (within : position ≤ confirmations.length)
    (participant : node ∈ config.peerNodeKeys)
    (complete : (confirmations.insertIdx position node).length = config.peerNodeKeys.length) :
    ∀ peer ∈ config.peerNodeKeys, peer ∈ confirmations.insertIdx position node := by
  have arranged : (confirmations.insertIdx position node).Perm (node :: confirmations) :=
    List.perm_insertIdx node confirmations within
  have distinct : (confirmations.insertIdx position node).Nodup :=
    arranged.nodup_iff.mpr (List.nodup_cons.mpr ⟨fresh, valid.sorted.nodup⟩)
  have contained : confirmations.insertIdx position node ⊆
      config.peerNodeKeys := by
    intro peer listed
    rcases (List.mem_insertIdx within).mp listed with rfl | earlier
    · exact participant
    · exact valid.participants peer earlier
  have same : (confirmations.insertIdx position node).Perm
      config.peerNodeKeys :=
    (distinct.subperm contained).perm_of_length_le complete.ge
  intro peer listed
  exact same.mem_iff.mpr listed

theorem Backed.participated {call : RingCall}
    (backed : Backed host externals start signs calls id before)
    (valid : ValidPending before.config publicKey confirmations)
    (pending : before.state = .pending publicKey confirmations)
    (participant : request.nodeKey ∈ before.config.peerNodeKeys)
    (decided : participantState host.toRingHost before request publicKey
      confirmations module = .ok after.state) (config : after.config = before.config)
    (confirmed : ∀ key, request.command = .confirm key →
      Confirmed host externals start signs (calls ++ [call]) id request.nodeKey key) :
    Backed host externals start signs (calls ++ [call]) id after := by
  rcases participantState_cases decided with
    ⟨_, _, state⟩ | ⟨key, position, isConfirm, fresh, within, state⟩
  · exact .of_cancelled state
  · -- the nodes of the extended list have all confirmed the same key
    have listed : (∀ first, publicKey = some first → first = key) →
        ∀ node ∈ confirmations.insertIdx position request.nodeKey,
          Confirmed host externals start signs (calls ++ [call]) id node
            key := by
      intro same node member
      rcases (List.mem_insertIdx within).mp member with rfl | earlier
      · exact confirmed key isConfirm
      · obtain ⟨first, isFirst, early⟩ :=
          backed.pending publicKey confirmations pending node earlier
        rw [same first isFirst] at early
        exact early.snoc call
    constructor
    · intro found extended isPending node member
      rw [state] at isPending
      rcases confirmedState_cases before.config publicKey confirmations
        position request.nodeKey key with
        ⟨_, conflict⟩ | ⟨same, ⟨active, _⟩ | longer⟩
      · rw [conflict] at isPending
        cases isPending
      · rw [active] at isPending
        cases isPending
      · rw [longer] at isPending
        obtain ⟨rfl, rfl⟩ := RingState.pending.inj isPending
        exact ⟨key, rfl, listed same node member⟩
    · intro found isActive node member
      rw [state] at isActive
      rw [config] at member
      rcases confirmedState_cases before.config publicKey confirmations
        position request.nodeKey key with
        ⟨_, conflict⟩ | ⟨same, ⟨active, complete⟩ | longer⟩
      · rw [conflict] at isActive
        cases isActive
      · rw [active] at isActive
        cases isActive
        exact listed same node (all_confirmed valid fresh within participant complete node member)
      · rw [longer] at isActive
        cases isActive

end Confirmations

/-! ## Histories -/

variable {context : BlockExecCtx}

section Histories

variable {host : ReportHost} {externals : HubExternals} {start : Hub} {signs : Bytes → Bytes → Prop}

def NoRings (hub : Hub) : Prop :=
  ∀ id, hub.vera.store.get (ringPath id) = none

theorem performAll_sound (empty : NoRings start) (calls : List RingCall) :
    RingsSound host.toRingHost (performAll host externals start calls).vera := by
  induction calls using List.reverseRecOn with
  | nil =>
    constructor
    intro id value stored
    change start.vera.store.get (ringPath id) = some value at stored
    rw [empty id] at stored
    cases stored
  | append_singleton calls call ih =>
    rw [performAll_snoc]
    exact perform_sound ih call

theorem ringAt_valid (roundTrips : RoundTrips host.toRingHost) (empty : NoRings start)
    (found : ringAt host externals start calls id = some record) :
    Valid record id := by
  obtain ⟨_, _, valid, _⟩ := held_some roundTrips (performAll_sound empty calls) found
  exact validate_ok valid

theorem ringAt_backed (roundTrips : RoundTrips host.toRingHost)
    (signatures : ∀ key digest signature,
      host.crypto.verifyDigest key digest signature = .ok () → signs key digest)
    (empty : NoRings start) (calls : List RingCall) (id : String) (record : RingRecord)
    (found : ringAt host externals start calls id = some record) :
    Backed host externals start signs calls id record := by
  induction calls using List.reverseRecOn generalizing record with
  | nil =>
    unfold ringAt held at found
    simp only [performAll, List.foldl_nil, empty id, reduceCtorEq] at found
  | append_singleton calls call ih =>
    have step := @ringAt_step host externals start roundTrips calls call id
    rw [found] at step
    generalize previous : ringAt host externals start calls id = earlier at step
    cases step with
    | kept =>
      exact (ih record previous).snoc rfl rfl call
    | created created =>
      constructor
      · intro publicKey confirmations pending node listed
        rw [created.state] at pending
        obtain ⟨_, rfl⟩ := RingState.pending.inj pending
        cases listed
      · intro key active
        rw [created.state] at active
        cases active
    | changed accepted effect =>
      rename_i before
      have backed := ih before previous
      have config := effect.follows.config
      cases effect with
      | updated _ _ state _ _ => exact backed.snoc state config _
      | withdrawn _ state _ _ => exact .of_cancelled state
      | participated pending named participant verified decided _ _ =>
        have valid := ringAt_valid roundTrips empty previous
        apply backed.participated (valid.pending _ _ pending) pending participant decided config
        intro key isConfirm
        refine ⟨calls, _, _, [], rfl, accepted, ⟨before, previous, isPending_of_eq pending⟩,
          named.trans valid.id, rfl, isConfirm, ?_⟩
        exact signed_of_checked signatures verified
      | finalized _ _ _ _ _ _ state _ _ => exact backed.snoc state config _
      | announced _ _ state _ _ => exact backed.snoc state config _

/-! ## Authorizations -/

theorem signingDigest_ok {digest : Bytes}
    (digested : request.signingDigest host.toRingHost = .ok digest) :
    digest = host.crypto.sha256 (utf8 "vera/orbis/ring-participant/v1" ++ [0] ++
      host.requestBorsh request) := by
  obtain ⟨_, _, digested⟩ := exceptBind_ok digested
  exact (Except.ok.inj digested).symm

theorem signingDigest_injective (hashes : Function.Injective host.crypto.sha256)
    (encodings : Function.Injective host.requestBorsh)
    {first second : RingParticipantRequest} {digest : Bytes}
    (digested : first.signingDigest host.toRingHost = .ok digest)
    (again : second.signingDigest host.toRingHost = .ok digest) : first = second := by
  have same := (signingDigest_ok digested).symm.trans (signingDigest_ok again)
  exact encodings (List.append_cancel_left (hashes same))

variable (host) in
/-- What the ring key has to sign for a reshare request. -/
def reshareMessage (module : VeraModule) (context : BlockExecCtx)
    (request : RingReshareRequest) : Option Bytes :=
  (held host.toRingHost module request.ringId).bind fun record =>
    (record.reshareSigningBytes host.toRingHost context.deploymentId).toOption.map Prod.snd

variable {request : RingReshareRequest}

theorem reshareMessage_eq (roundTrips : RoundTrips host.toRingHost) (empty : NoRings start)
    {publicKey : String} {target : ReshareTarget}
    (found : ringAt host externals start calls request.ringId = some record)
    (active : record.state = .active publicKey)
    (pending : record.currentSettings.pendingReshare = some target) :
    reshareMessage host (performAll host externals start calls).vera context
      request = some (host.docProto (record.signDoc host.toRingHost
        context.deploymentId publicKey target)) := by
  obtain ⟨_, _, valid, _⟩ := held_some roundTrips (performAll_sound empty calls) found
  have named := (validate_ok valid).id
  rw [← named] at valid
  unfold reshareMessage
  unfold ringAt at found
  rw [found, Option.bind_some]
  unfold RingRecord.reshareSigningBytes
  rw [exceptBind_of_ok valid, active]
  dsimp only
  rw [pending]
  rfl

variable {context' : BlockExecCtx} {later : List RingCall}

/-- After an accepted participant request none of the same digest is
accepted. -/
theorem participant_once (roundTrips : RoundTrips host.toRingHost)
    (hashes : Function.Injective host.crypto.sha256)
    (encodings : Function.Injective host.requestBorsh)
    {signed signed' : SignedRingParticipantRequest}
    (accepted : accepts host externals (performAll host externals start calls)
      (.participant context signed) = true)
    (again : accepts host externals
      (performAll host externals start (calls ++ .participant context signed :: later))
      (.participant context' signed') = true) :
    signed.request.signingDigest host.toRingHost ≠
      signed'.request.signingDigest host.toRingHost := by
  intro sameDigest
  obtain ⟨_, first, _, reached, effect⟩ :=
    @ringAt_participant host externals start roundTrips _ _ _ accepted
  obtain ⟨second, _, found, _, secondEffect⟩ :=
    @ringAt_participant host externals start roundTrips _ _ _ again
  cases effect with
  | participated _ _ _ verified decided _ _ =>
  cases secondEffect with
  | participated pending _ _ _ redecided _ _ =>
  obtain ⟨_, digest, _, digested, _⟩ :=
    @signed_of_checked host (fun _ _ => True) (fun _ _ _ _ => trivial) _ verified
  have same : signed.request = signed'.request :=
    signingDigest_injective hashes encodings digested (sameDigest.symm.trans digested)
  have spent : Spent signed.request first := spent_of_participated decided
  obtain ⟨other, arrived, descends⟩ :=
    @ringAt_descends host externals start roundTrips _ _ _ reached later
  rw [List.append_assoc, List.singleton_append, same, found] at arrived
  obtain rfl := Option.some.inj arrived
  rw [same] at spent
  exact (descends.spent _ spent).not_decided pending redecided

theorem reshare_once (roundTrips : RoundTrips host.toRingHost)
    (documents : Function.Injective host.docProto) (empty : NoRings start)
    {request' : RingReshareRequest}
    (accepted : accepts host externals (performAll host externals start calls)
      (.reshare context request) = true)
    (again : accepts host externals
      (performAll host externals start (calls ++ .reshare context request :: later))
      (.reshare context' request') = true) :
    ∃ first second,
      reshareMessage host (performAll host externals start calls).vera context
        request = some first ∧
      reshareMessage host
        (performAll host externals start (calls ++ .reshare context request :: later)).vera context'
        request' = some second ∧
      first ≠ second := by
  obtain ⟨before, after, found, reached, effect⟩ :=
    @ringAt_reshare host externals start roundTrips _ _ _ accepted
  obtain ⟨before', _, found', _, effect'⟩ :=
    @ringAt_reshare host externals start roundTrips _ _ _ again
  have follows := effect.follows
  cases effect with
  | finalized active pending named _ _ _ _ _ _ =>
  cases effect' with
  | finalized active' pending' named' _ _ _ _ _ _ =>
  refine ⟨_, _, reshareMessage_eq roundTrips empty found active pending,
    reshareMessage_eq roundTrips empty found' active' pending', ?_⟩
  intro sameMessage
  have same := documents sameMessage
  have sameRing : before.id = before'.id := congrArg SignDoc.ringId same
  have sameSequence : before.sequence = before'.sequence := congrArg SignDoc.sequence same
  -- the later record of the same ring has a larger sequence
  obtain ⟨other, arrived, descends⟩ :=
    @ringAt_descends host externals start roundTrips _ _ _ reached later
  rw [List.append_assoc, List.singleton_append, named, sameRing, ← named', found'] at arrived
  obtain rfl := Option.some.inj arrived
  have grown := descends.sequence
  rw [follows.sequence, sameSequence] at grown
  exact absurd grown (Nat.not_succ_le_self _)

/-! ## The history of rings -/

/-- What holds for every ring in a state of a run and from there on. -/
structure RingHistory (host : ReportHost) (externals : HubExternals)
    (start : Hub) (signs : Bytes → Bytes → Prop) (calls : List RingCall) : Prop where
  founded : ∀ id before, ringAt host externals start calls id = some before →
    ∀ later, ∃ after, ringAt host externals start (calls ++ later) id = some after ∧
      after.config = before.config ∧ after.creator = before.creator
  createdOnce : ∀ id before context submission token config,
    ringAt host externals start calls id = some before →
    ringAt host externals start
      (calls ++ [.command context submission token (.create config)]) id = some before
  activated : ∀ id record key, ringAt host externals start calls id = some record →
    record.state = .active key →
    ∀ node ∈ record.config.peerNodeKeys, Confirmed host externals start signs calls id node key
  identified : ∀ first second digest,
    RingParticipantRequest.signingDigest host.toRingHost first = .ok digest →
    RingParticipantRequest.signingDigest host.toRingHost second = .ok digest → first = second
  keyKept : ∀ id before key, ringAt host externals start calls id = some before →
    before.state = .active key →
    ∀ later, ∃ after, ringAt host externals start (calls ++ later) id = some after ∧
      after.state = .active key
  closed : ∀ id before, ringAt host externals start calls id = some before →
    before.state.isPending = false → before.state.isActive = false →
    ∀ later, ringAt host externals start (calls ++ later) id = some before
  begun : ∀ id call after, ringAt host externals start calls id = none →
    ringAt host externals start (calls ++ [call]) id = some after → Created call after
  counted : ∀ id before call, ringAt host externals start calls id = some before →
    ∃ after, ringAt host externals start (calls ++ [call]) id = some after ∧
      (after = before ∨ accepts host externals (performAll host externals start calls) call = true ∧
        after.sequence.toNat = before.sequence.toNat + 1)
  participantOnce : ∀ context signed later context' signed',
    accepts host externals (performAll host externals start calls)
      (.participant context signed) = true →
    accepts host externals
      (performAll host externals start (calls ++ .participant context signed :: later))
      (.participant context' signed') = true →
    signed.request.signingDigest host.toRingHost ≠ signed'.request.signingDigest host.toRingHost
  reshareOnce : ∀ context request later context' request',
    accepts host externals (performAll host externals start calls)
      (.reshare context request) = true →
    accepts host externals
      (performAll host externals start (calls ++ .reshare context request :: later))
      (.reshare context' request') = true →
    ∃ first second,
      reshareMessage host (performAll host externals start calls).vera context
        request = some first ∧
      reshareMessage host
        (performAll host externals start (calls ++ .reshare context request :: later)).vera context'
        request' = some second ∧
      first ≠ second
  sound : RingsSound host.toRingHost (performAll host externals start calls).vera
  readable : ∀ id key, ringKey id = .ok key →
    thresholdRing host.toRingHost id
      (performAll host externals start calls).vera = .ok (ringAt host externals start calls id)
  rejected : ∀ call, accepts host externals (performAll host externals start calls) call = false →
    performAll host externals start (calls ++ [call]) = performAll host externals start calls

/-- In every run of ring calls that starts without rings, with any changes beside
the ring keys in between. -/
theorem rings_keep_their_history (host : ReportHost)
    (externals : HubExternals) (start : Hub) (signs : Bytes → Bytes → Prop)
    (roundTrips : RoundTrips host.toRingHost)
    (signatures : ∀ key digest signature,
      host.crypto.verifyDigest key digest signature = .ok () → signs key digest)
    (hashes : Function.Injective host.crypto.sha256)
    (requests : Function.Injective host.requestBorsh) (documents : Function.Injective host.docProto)
    (empty : NoRings start) (calls : List RingCall) :
    RingHistory host externals start signs calls := by
  constructor
  · intro id before found later
    obtain ⟨after, reached, descends⟩ := ringAt_descends roundTrips found later
    exact ⟨after, reached, descends.config, descends.creator⟩
  · intro id before context submission token config found
    have step := @ringAt_step host externals start roundTrips calls
      (.command context submission token (.create config)) id
    rw [found] at step
    generalize next : ringAt host externals start (calls ++ [_]) id = final at step ⊢
    cases step with
    | kept => rfl
    | changed _ effect => nomatch effect
  · intro id record key found active
    exact (ringAt_backed roundTrips signatures empty calls id record found).active key active
  · intro first second digest digested again
    exact signingDigest_injective hashes requests digested again
  · intro id before key found active later
    obtain ⟨after, reached, descends⟩ := ringAt_descends roundTrips found later
    have settled : before.state.isPending = false := by
      rw [active]
      rfl
    exact ⟨after, reached, (descends.settled settled).trans active⟩
  · intro id before found settled inactive later
    obtain ⟨after, reached, descends⟩ := ringAt_descends roundTrips found later
    rw [reached, descends.closed settled inactive]
  · intro id call after absent found
    have step := @ringAt_step host externals start roundTrips calls call id
    rw [absent, found] at step
    cases step with
    | created created => exact created
  · intro id before call found
    have step := @ringAt_step host externals start roundTrips calls call id
    rw [found] at step
    generalize next : ringAt host externals start (calls ++ [call]) id = final at step ⊢
    cases step with
    | kept => exact ⟨before, rfl, .inl rfl⟩
    | changed accepted effect =>
      exact ⟨_, rfl, .inr ⟨accepted, effect.follows.sequence⟩⟩
  · intro context signed later context' signed' accepted again
    exact participant_once roundTrips hashes requests accepted again
  · intro context request later context' request' accepted again
    exact reshare_once roundTrips documents empty accepted again
  · exact performAll_sound empty calls
  · intro id key keyed
    exact thresholdRing_held roundTrips (performAll_sound empty calls) keyed
  · intro call isRejected
    rw [performAll_snoc]
    exact perform_of_rejected isRejected

end Histories

/-! ## A ring of two nodes -/

section Pair

def firstNode : String :=
  hexText (2 :: List.replicate 32 1)

def secondNode : String :=
  hexText (2 :: List.replicate 32 3)

def pairPolicyId : String :=
  hexText (List.replicate 32 0xaa)

def pairConfig : RingConfig where
  policyId := pairPolicyId
  peerNodeKeys := [firstNode, secondNode]
  threshold := 2
  pssInterval := 86400
  currentVersion := 1
  nonce := []
  trustedAuthRelayDids := none
  reporting := ⟨1, 1, 1, 1, 1, []⟩

def pairRoot : Bytes :=
  List.replicate 32 7

def pairBorsh (root : Bytes) (creator : String) (config : RingConfig) :
    Bytes :=
  (Codec.pair Codec.bytes (Codec.pair Codec.text configCodec)).encode (root, creator, config)

def pairDigest : Bytes :=
  List.replicate 32 9

/-- An injective hash with short digests for the configuration and the token. -/
def pairHash (input : Bytes) : Bytes :=
  Equiv.swap (utf8 "vera/orbis/ring/v1" ++ [0] ++ pairBorsh pairRoot "did:key:zActor" pairConfig)
    pairDigest (Equiv.swap (utf8 (Hub.signedToken 2)) (List.replicate 32 8) input)

def pairCrypto : Crypto :=
  { Hub.delegationCrypto (fun _ => .ok { Hub.revocableClaims with scope := .manageRings }) with
    sha256 := pairHash }

def pairExternals : HubExternals :=
  { Hub.revocationExternals with crypto := pairCrypto }

def checksum (message : Bytes) : Bytes :=
  bigEndian 2 (message.foldl (fun total byte => total + byte.toNat) 0)

/-- A threshold signature repeats its key and the sum of the message. -/
def pairHost : ReportHost where
  crypto := pairCrypto
  base58Decode _ := .error "invalid"
  base58Encode _ := ""
  configBorsh := pairBorsh
  requestBorsh := requestCodec.encode
  recordJson := recordCodec.encode
  readRecord bytes :=
    match recordCodec.read bytes with
    | some record => .ok record
    | none => .error "expected value"
  readNode bytes :=
    match fromUtf8 bytes with
    | some key => .ok ⟨key, ⟨"peer", key, [pairPolicyId], []⟩, 1⟩
    | none => .error "expected value"
  commandJson command :=
    match command with
    | .create config => configCodec.encode config
    | .update id _ _ => utf8 id
    | .cancel id => utf8 id
  participantJson signed := requestCodec.encode signed.request
  reshareJson request := utf8 request.ringId
  stateProto := signStateCodec.encode
  docProto := docCodec.encode
  verifyThreshold _ key message signature := signature = key ++ checksum message
  reportJson _ := []
  validateShape _ _ := .error "invalid report"
  validateEvidence _ := .error (invalid "invalid report evidence")
  snapshotBytes _ _ _ _ := []
  sessionBytes _ _ := []
  identify _ := ""
  canonicalBytes _ := []
  demeritsJson _ := []
  readDemerits _ := .error "expected value"
  reportTtlSecs := 600
  nodeOfflineType := "node_offline"
  invalidCryptoResponseType := "invalid_crypto_response"
  unauthorizedRequestType := "unauthorized_request"

theorem pairHost_roundTrips : RoundTrips pairHost.toRingHost := by
  intro record
  change (match recordCodec.read (recordCodec.encode record) with
    | some record => Except.ok record
    | none => .error "expected value") = .ok record
  rw [Codec.read_encode]

theorem pairHash_injective : Function.Injective pairHash := by
  intro first second same
  exact (Equiv.swap _ _).injective ((Equiv.swap _ _).injective same)

/-- The owner of the policy may create rings, and that of a ring may update
it. -/
def pairPolicy : Zanzibar.Policy where
  id := pairPolicyId
  name := "rings"
  description := ""
  actor := none
  resources :=
    [⟨"ring_policy", "",
        [⟨"owner", "", .this, none, []⟩, ⟨"create_ring", "", .computedUserset "owner", none, []⟩]⟩,
      ⟨"ring", "",
        [⟨"owner", "", .this, none, []⟩, ⟨"update_ring", "", .computedUserset "owner", none, []⟩]⟩]
  attributes := []
  specification := .none

/-- The policy is owned, and both nodes are registered. -/
def pairStart : Hub where
  acp := ((AcpModule.directPolicyCmd pairExternals.acp Hub.delegationActor
    pairPolicyId (.registerObject ⟨"ring_policy", pairPolicyId⟩)).run
      { store := OrderedMap.empty
        zanzibarPolicies := OrderedMap.empty.insert (utf8 pairPolicyId) pairPolicy }).2
  vera := (VeraModule.new.withStored (utf8 "orbis/node/v1/" ++ utf8 firstNode)
    (.service (utf8 firstNode))).withStored
      (utf8 "orbis/node/v1/" ++ utf8 secondNode) (.service (utf8 secondNode))

theorem pairStart_noRings : NoRings pairStart := by
  intro id
  have node : ∀ key, ringPath id ≠ utf8 "orbis/node/v1/" ++ utf8 key :=
    fun key => ringPath_ne (List.prefix_append _ _) (by decide)
  unfold pairStart
  rw [get_withStored, if_neg (node secondNode), get_withStored, if_neg (node firstNode)]
  rfl

def pairId : String :=
  hexText pairDigest

def pairCreation : RingCall :=
  .command (Hub.delegationContext 60) ⟨1, List.replicate 32 9, "did:key:worker"⟩ (Hub.signedToken 2)
    (.create pairConfig)

def pairConfirmation (node : String) : RingCall :=
  .participant (Hub.delegationContext 70)
    ⟨⟨pairRoot, 1, pairId, node, .confirm "ab", 100⟩, hexText (bigEndian 32 1 ++ bigEndian 32 2)⟩

/-- The ring is created, and both nodes confirm the same key. -/
def pairCalls : List RingCall :=
  [pairCreation, pairConfirmation firstNode, pairConfirmation secondNode]

def pairSigns (key digest : Bytes) : Prop :=
  ∃ signature, pairCrypto.verifyDigest key digest signature = .ok ()

/-- The ring of two nodes becomes active, and both have confirmed its key. -/
theorem pair_activates_confirmed :
    ∃ record, ringAt pairHost pairExternals pairStart pairCalls pairId = some record ∧
      record.state = .active "ab" ∧
      ∀ node ∈ [firstNode, secondNode],
        Confirmed pairHost pairExternals pairStart pairSigns pairCalls pairId node "ab" := by
  have reached : (ringAt pairHost pairExternals pairStart pairCalls
      pairId).map (fun record => (record.state, record.config)) =
        some (.active "ab", pairConfig) := by
    decide +kernel
  obtain ⟨record, found, described⟩ := Option.map_eq_some_iff.mp reached
  obtain ⟨active, config⟩ := Prod.mk.inj described
  have history := rings_keep_their_history pairHost pairExternals pairStart
    pairSigns pairHost_roundTrips
    (fun _ _ signature verified => ⟨signature, verified⟩) pairHash_injective
    requestCodec.encode_injective docCodec.encode_injective pairStart_noRings pairCalls
  refine ⟨record, found, active, ?_⟩
  intro node listed
  have peer : node ∈ record.config.peerNodeKeys := by
    rw [config]
    exact listed
  exact history.activated pairId record "ab" found active node peer

end Pair

end VeraHub.Rings
