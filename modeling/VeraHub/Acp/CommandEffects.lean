import VeraHub.Acp.Calls
import VeraHub.Acp.KeySpace

/-!
# What commands can do

Each command is inverted once: a successful command has checked certain
conditions and made one change, and a failed one has changed nothing.  A
command with a context makes the change with the metadata of its submission.
-/

namespace VeraHub.Acp

open VeraHub.Zanzibar
open Exec (Wp)

variable {commitment : RegistrationsCommitment}

namespace AcpModule

/-! ## Successful commands -/

/-- A new commitment, before or after it gets its context. -/
def newCommitment (policyId : String) (root : Bytes) (params : AcpParams)
    (id : UInt64) (metadata : RecordMetadata) : RegistrationsCommitment :=
  ⟨id, policyId, root, false, params.registrationsCommitmentValidity, metadata⟩

def withNewCommitment (created : RegistrationsCommitment) (module : AcpModule) : AcpModule :=
  (withCommitment none created module).withStored commitmentCounterKey (.counter created.id)

section Applied

variable (externals : Externals) (inContext : Bool) (creator : Did)
  (policyId : String) (metadata eventMetadata : RecordMetadata) (module : AcpModule)

/-- The record that registers or reveals an object for its actor. -/
def ownedBy (object : Object) : RelationshipRecord :=
  ⟨policyId, ownerRelationship object creator, false, metadata⟩

def amendmentOf (object : Object) (previous : Did) (commitmentId next : UInt64) : AmendmentEvent :=
  ⟨next, policyId, object, ⟨creator⟩, ⟨previous⟩, commitmentId, false, metadata⟩

def withOwner (object : Object) : AcpModule :=
  module.withStored (relationshipKeyOf externals policyId (ownerRelationship object creator))
    (.relationship (ownedBy creator policyId metadata object))

/-- What a successful command has checked and changed, with the metadata of
the records it leaves.  A commitment made in a context is stored twice. -/
inductive Applied : PolicyCmd → PolicyCmdResult → AcpModule → Prop
  | relationshipKept {relationship : Relationship} {record : RelationshipRecord}
      (found : getRelationship externals policyId relationship module = .ok (some record)) :
      Applied (.setRelationship relationship) (.setRelationship true record) module
  | relationshipSet {relationship : Relationship} {policy : Policy}
      (known : module.cached policyId = some policy) (reserved : relationship.relation ≠ "owner")
      (fresh : getRelationship externals policyId relationship module = .ok none)
      (fits : validateDeclared policy relationship = .ok ()) :
      Applied (.setRelationship relationship)
        (.setRelationship false ⟨policyId, relationship, false, metadata⟩)
        (module.withStored (relationshipKeyOf externals policyId relationship)
          (.relationship ⟨policyId, relationship, false, metadata⟩))
  | relationshipDeleted {relationship : Relationship} {policy : Policy} {found : Bool}
      (known : module.cached policyId = some policy) (reserved : relationship.relation ≠ "owner") :
      Applied (.deleteRelationship relationship) (.deleteRelationship found)
        (module.withoutStored (relationshipKeyOf externals policyId relationship))
  | registered {object : Object}
      (valid : validateRegistrationObject policyId object module = .ok ())
      (free : ensureObjectUnregistered policyId object module = .ok ()) :
      Applied (.registerObject object) (.registerObject (ownedBy creator policyId metadata object))
        (withOwner externals creator policyId metadata module object)
  | archivedAlready {object : Object} :
      Applied (.archiveObject object) (.archiveObject true 0) module
  | archived {object : Object} (owner : RelationshipRecord) {keys : List Bytes}
      (found : registeredOwner externals policyId object module = .ok owner)
      (entitled : owner.metadata.ownerDid = creator.asStr)
      (selected : selectKeys externals policyId "relationship record does not match its key"
        (fun relationship =>
          relationship.resource = object.resource && relationship.objectId = object.id)
        (module.scan
          (relationshipStoragePrefix policyId
            (objectPrefix object.resource object.id))) = .ok keys) :
      Applied (.archiveObject object) (.archiveObject true keys.length)
        ((keys.foldl withoutStored module).withStored
          (relationshipKeyOf externals policyId owner.relationship)
          (.relationship { owner with archived := true }))
  | unarchived {object : Object} {owner : RelationshipRecord}
      (found : registeredOwner externals policyId object module = .ok owner)
      (entitled : owner.metadata.ownerDid = creator.asStr) :
      Applied (.unarchiveObject object)
        (.unarchiveObject { owner with archived := false } owner.archived)
        (module.withStored (relationshipKeyOf externals policyId owner.relationship)
          (.relationship { owner with archived := false }))
  | committed {root : Bytes} {policy : Policy} {params : AcpParams} {next : UInt64}
      (contextFree : inContext = false) (known : module.cached policyId = some policy)
      (width : root.length = 32) (settings : getParams module = .ok params)
      (counted : nextCounter commitmentCounterKey "invalid record counter"
        "record counter exhausted" module = .ok next)
      (fresh : module.store.get (commitmentKey next) = none) :
      Applied (.commitRegistrations root)
        (.commitRegistrations (newCommitment policyId root params next metadata))
        (withNewCommitment (newCommitment policyId root params next metadata) module)
  | recommitted {root : Bytes} {policy : Policy} {params : AcpParams}
      {next : UInt64} {plain : RecordMetadata} (contextual : inContext = true)
      (known : module.cached policyId = some policy) (width : root.length = 32)
      (settings : getParams module = .ok params)
      (counted : nextCounter commitmentCounterKey "invalid record counter"
        "record counter exhausted" module = .ok next)
      (fresh : module.store.get (commitmentKey next) = none) :
      Applied (.commitRegistrations root)
        (.commitRegistrations (newCommitment policyId root params next metadata))
        (withCommitment (some (newCommitment policyId root params next plain))
          (newCommitment policyId root params next metadata)
          (withNewCommitment (newCommitment policyId root params next plain) module))
  | revealed {commitmentId : UInt64} {proof : RegistrationProof}
      {commitment : RegistrationsCommitment}
      (proved : revealedCommitment externals creator policyId commitmentId
        proof module = .ok commitment)
      (free : ensureObjectUnregistered policyId proof.object module = .ok ()) :
      Applied (.revealRegistration commitmentId proof)
        (.revealRegistration (ownedBy creator policyId metadata proof.object) none)
        (withOwner externals creator policyId metadata module proof.object)
  | amended {commitmentId : UInt64} {proof : RegistrationProof}
      {commitment : RegistrationsCommitment} {existing : RelationshipRecord}
      {previous : Did} {next : UInt64}
      (proved : revealedCommitment externals creator policyId commitmentId
        proof module = .ok commitment)
      (found : queryObjectOwner externals policyId proof.object module = .ok (some existing))
      (earlier : amendedOwner commitment existing = .ok previous)
      (counted : nextCounter amendmentEventCounterKey
        "invalid record counter" "record counter exhausted" module = .ok next)
      (fresh : module.store.get (amendmentEventKey next) = none) :
      Applied (.revealRegistration commitmentId proof)
        (.revealRegistration (ownedBy creator policyId metadata proof.object)
          (some (amendmentOf creator policyId eventMetadata proof.object
            previous commitmentId next)))
        (withOwner externals creator policyId metadata
          ((withAmendment
            (amendmentOf creator policyId eventMetadata proof.object previous
              commitmentId next) module).withoutStored
            (relationshipKeyOf externals policyId existing.relationship))
          proof.object)
  | flagged {eventId : UInt64} {event : AmendmentEvent}
      (found : getAmendmentEventById eventId module = .ok (some event))
      (entitled : event.newOwner.did.asStr = creator.asStr) :
      Applied (.flagHijackAttempt eventId) (.flagHijackAttempt { event with hijackFlag := true })
        (module.withStored (amendmentEventKey event.id)
          (.amendment { event with hijackFlag := true }))

end Applied

/-! ## Commands without a context -/

section Direct

variable (externals : Externals) (creator : Did) (policyId : String) (module : AcpModule)

/-- A successful command is applied; a failed one leaves the module as it
was. -/
def DirectOutcome (cmd : PolicyCmd)
    (result : Except AcpError PolicyCmdResult) (final : AcpModule) : Prop :=
  match result with
  | .error _ => final = module
  | .ok value =>
    Applied externals false creator policyId (plainMetadata creator)
      (plainMetadata creator) module cmd value final

variable {externals creator policyId module}

theorem cachedPolicy_ok {policy : Policy} (found : cachedPolicy policyId module = .ok policy) :
    module.cached policyId = some policy := by
  unfold cachedPolicy at found
  cases cachedHere : module.cached policyId with
  | none =>
    rw [cachedHere] at found
    cases found
  | some other =>
    rw [cachedHere] at found
    rw [Except.ok.inj found]

theorem cmdSetRelationship_applied (relationship : Relationship) :
    Wp (cmdSetRelationship externals creator policyId relationship)
      (DirectOutcome externals creator policyId module (.setRelationship relationship)) module := by
  refine Wp.query (fun _ _ => rfl) fun policy known => ?_
  refine Wp.failIf (fun _ => rfl) fun reserved => ?_
  refine Wp.ofExcept (fun _ _ => rfl) fun _ fits => ?_
  refine Wp.query (fun _ _ => rfl) fun authorized _ => ?_
  refine Wp.failIf (fun _ => rfl) fun _ => ?_
  refine Wp.query (fun _ _ => rfl) fun existing looked => ?_
  cases existing with
  | some record => exact Wp.pure (.relationshipKept looked)
  | none =>
    refine Wp.modify (Wp.pure ?_)
    exact .relationshipSet (cachedPolicy_ok known) reserved looked fits

theorem cmdDeleteRelationship_applied (relationship : Relationship) :
    Wp (cmdDeleteRelationship externals creator policyId relationship)
      (DirectOutcome externals creator policyId module
        (.deleteRelationship relationship)) module := by
  refine Wp.query (fun _ _ => rfl) fun policy known => ?_
  refine Wp.failIf (fun _ => rfl) fun reserved => ?_
  refine Wp.query (fun _ _ => rfl) fun authorized _ => ?_
  refine Wp.failIf (fun _ => rfl) fun _ => ?_
  refine Wp.query (fun _ _ => rfl) fun existing _ => ?_
  refine Wp.modify (Wp.pure ?_)
  exact .relationshipDeleted (cachedPolicy_ok known) reserved

theorem cmdRegisterObject_applied (object : Object) :
    Wp (cmdRegisterObject externals creator policyId object)
      (DirectOutcome externals creator policyId module (.registerObject object)) module := by
  refine Wp.query (fun _ _ => rfl) fun _ valid => ?_
  refine Wp.query (fun _ _ => rfl) fun _ free => ?_
  refine Wp.modify (Wp.pure ?_)
  exact .registered valid free

theorem cmdArchiveObject_applied (object : Object) :
    Wp (cmdArchiveObject externals creator policyId object)
      (DirectOutcome externals creator policyId module (.archiveObject object)) module := by
  refine Wp.query (fun _ _ => rfl) fun owner found => ?_
  by_cases archived : owner.archived = true
  · rw [if_pos archived]
    exact Wp.pure .archivedAlready
  · rw [if_neg archived]
    refine Wp.failIf (fun _ => rfl) fun entitled => ?_
    refine Wp.query (fun _ _ => rfl) fun keys selected => ?_
    refine Wp.modify (Wp.modify (Wp.pure ?_))
    exact .archived owner found (not_not.mp entitled) selected

theorem cmdUnarchiveObject_applied (object : Object) :
    Wp (cmdUnarchiveObject externals creator policyId object)
      (DirectOutcome externals creator policyId module (.unarchiveObject object)) module := by
  refine Wp.query (fun _ _ => rfl) fun owner found => ?_
  refine Wp.failIf (fun _ => rfl) fun entitled => ?_
  refine Wp.modify (Wp.pure ?_)
  exact .unarchived found (not_not.mp entitled)

theorem updateCommitment_wp {post : Except AcpError Unit → AcpModule → Prop}
    (failed : ∀ failure,
      getCommitmentById commitment.id module = .error failure → post (.error failure) module)
    (updated : ∀ previous,
      getCommitmentById commitment.id module = .ok previous →
        post (.ok ()) (withCommitment previous commitment module)) :
    Wp (updateCommitment commitment) post module :=
  Wp.query failed updated

theorem getCommitmentById_none {id : UInt64} (absent : module.store.get (commitmentKey id) = none) :
    getCommitmentById id module = .ok none := by
  unfold getCommitmentById
  rw [absent]

theorem createCommitment_wp {post : Except AcpError RegistrationsCommitment → AcpModule → Prop}
    (failed : ∀ failure, post (.error failure) module)
    (created : ∀ next,
      nextCounter commitmentCounterKey "invalid record counter"
          "record counter exhausted" module = .ok next →
        module.store.get (commitmentKey next) = none →
          post (.ok { commitment with id := next })
            (withNewCommitment { commitment with id := next } module)) :
    Wp (createCommitment commitment) post module := by
  refine Wp.query (fun failure _ => failed failure) fun next counted => ?_
  refine Wp.gets (Wp.failIf (fun _ => failed _) fun absent => ?_)
  have fresh : module.store.get (commitmentKey next) = none := by
    simpa using absent
  refine Wp.bind (updateCommitment_wp ?_ ?_)
  · intro failure found
    exact failed failure
  · intro previous found
    have none : previous = none := by
      rw [getCommitmentById_none fresh] at found
      exact (Except.ok.inj found).symm
    rw [none]
    exact Wp.modify (Wp.pure (created next counted fresh))

theorem createAmendmentEvent_wp {event : AmendmentEvent}
    {post : Except AcpError AmendmentEvent → AcpModule → Prop}
    (failed : ∀ failure, post (.error failure) module)
    (created : ∀ next,
      nextCounter amendmentEventCounterKey "invalid record counter"
          "record counter exhausted" module = .ok next →
        module.store.get (amendmentEventKey next) = none →
          post (.ok { event with id := next }) (withAmendment { event with id := next } module)) :
    Wp (createAmendmentEvent event) post module := by
  refine Wp.query (fun failure _ => failed failure) fun next counted => ?_
  refine Wp.gets (Wp.failIf (fun _ => failed _) fun absent => ?_)
  have fresh : module.store.get (amendmentEventKey next) = none := by
    simpa using absent
  exact Wp.modify (Wp.pure (created next counted fresh))

theorem cmdCommitRegistrations_applied (root : Bytes) :
    Wp (cmdCommitRegistrations creator policyId root)
      (DirectOutcome externals creator policyId module (.commitRegistrations root)) module := by
  refine Wp.query (fun _ _ => rfl) fun policy known => ?_
  refine Wp.failIf (fun _ => rfl) fun width => ?_
  refine Wp.query (fun _ _ => rfl) fun params settings => ?_
  refine Wp.bind (createCommitment_wp (fun _ => rfl) ?_)
  intro next counted fresh
  exact Wp.pure (.committed rfl (cachedPolicy_ok known)
    (not_not.mp width) settings counted fresh)

theorem cmdRevealRegistration_applied (commitmentId : UInt64) (proof : RegistrationProof) :
    Wp (cmdRevealRegistration externals creator policyId commitmentId proof)
      (DirectOutcome externals creator policyId module
        (.revealRegistration commitmentId proof)) module := by
  refine Wp.query (fun _ _ => rfl) fun commitment proved => ?_
  refine Wp.query (fun _ _ => rfl) fun owner found => ?_
  cases owner with
  | none =>
    refine Wp.query (fun _ _ => rfl) fun _ free => ?_
    refine Wp.modify (Wp.pure ?_)
    exact .revealed proved free
  | some existing =>
    refine Wp.ofExcept (fun _ _ => rfl) fun previous earlier => ?_
    refine Wp.bind (createAmendmentEvent_wp (fun _ => rfl) ?_)
    intro next counted fresh
    refine Wp.modify (Wp.modify (Wp.pure ?_))
    exact .amended proved found earlier counted fresh

theorem cmdFlagHijackAttempt_applied (eventId : UInt64) :
    Wp (cmdFlagHijackAttempt creator policyId eventId)
      (DirectOutcome externals creator policyId module (.flagHijackAttempt eventId)) module := by
  refine Wp.query (fun _ _ => rfl) fun event found => ?_
  cases event with
  | none => exact Wp.fail rfl
  | some event =>
    refine Wp.failIf (fun _ => rfl) fun _ => ?_
    refine Wp.failIf (fun _ => rfl) fun entitled => ?_
    refine Wp.modify (Wp.pure ?_)
    exact .flagged found (not_not.mp entitled)

theorem directPolicyCmd_applied (cmd : PolicyCmd) :
    Wp (directPolicyCmd externals creator policyId cmd)
      (DirectOutcome externals creator policyId module cmd) module := by
  refine Wp.failIf (fun _ => rfl) fun _ => ?_
  cases cmd with
  | setRelationship relationship =>
    exact cmdSetRelationship_applied relationship
  | deleteRelationship relationship =>
    exact cmdDeleteRelationship_applied relationship
  | registerObject object => exact cmdRegisterObject_applied object
  | archiveObject object => exact cmdArchiveObject_applied object
  | unarchiveObject object => exact cmdUnarchiveObject_applied object
  | commitRegistrations root => exact cmdCommitRegistrations_applied root
  | revealRegistration commitmentId proof =>
    exact cmdRevealRegistration_applied commitmentId proof
  | flagHijackAttempt eventId => exact cmdFlagHijackAttempt_applied eventId

end Direct

/-! ## Commands with a context -/

section Context

variable {externals : Externals} {creator : Did} {policyId : String} {module : AcpModule}

theorem ext_store {first second : AcpModule}
    (sameStore : ∀ key, first.store.get key = second.store.get key)
    (samePolicies : first.zanzibarPolicies = second.zanzibarPolicies) : first = second := by
  have stores : first.store = second.store := OrderedMap.ext_get sameStore
  cases first
  cases second
  cases stores
  cases samePolicies
  rfl

theorem withStored_get (key other : Bytes) (value : StoredValue) :
    (module.withStored key value).store.get other =
      if other = key then some value else module.store.get other := by
  by_cases same : other = key
  · rw [if_pos same, same]
    exact OrderedMap.get_insert_self _ _ _
  · rw [if_neg same]
    exact OrderedMap.get_insert_of_ne _ _ same

theorem withoutStored_get (key other : Bytes) : (module.withoutStored key).store.get other =
      if other = key then none else module.store.get other := by
  have erased := OrderedMap.get_erase module.store key other
  by_cases same : other = key
  · rw [if_pos same] at erased ⊢
    exact erased
  · rw [if_neg same] at erased ⊢
    exact erased

theorem withStored_withStored (key : Bytes) (first second : StoredValue) :
    (module.withStored key first).withStored key second =
      module.withStored key second := by
  refine ext_store (fun other => ?_) rfl
  simp only [withStored_get]
  by_cases same : other = key
  · rw [if_pos same, if_pos same]
  · rw [if_neg same, if_neg same, if_neg same]

theorem checkedSucc_ne_zero {value next : UInt64}
    (added : checkedSucc value = some next) : next ≠ 0 := by
  intro zero
  have count := checkedSucc_toNat added
  rw [zero] at count
  have none : (0 : UInt64).toNat = 0 := rfl
  omega

theorem nextCounter_ok {key : Bytes} {invalid exhausted : String} {next : UInt64}
    (counted : nextCounter key invalid exhausted module = .ok next) :
    ∃ count, readCounter key invalid module = .ok count ∧ checkedSucc count = some next := by
  obtain ⟨count, read, added⟩ := exceptBind_ok counted
  cases next : checkedSucc count with
  | none => simp [next] at added
  | some value =>
    rw [next] at added
    cases added
    exact ⟨count, read, next⟩

theorem withCommitment_get_self (previous : Option RegistrationsCommitment)
    (commitment : RegistrationsCommitment) :
    (withCommitment previous commitment module).store.get (commitmentKey commitment.id) =
      some (.commitment commitment) := by
  unfold withCommitment
  rw [withStored_get, if_pos rfl]

theorem getCommitmentById_stored {id : UInt64}
    (stored : module.store.get (commitmentKey id) = some (.commitment commitment))
    (positive : id ≠ 0) (same : commitment.id = id) (width : commitment.commitment.length = 32) :
    getCommitmentById id module = .ok (some commitment) := by
  unfold getCommitmentById
  rw [stored]
  have sound : ¬ (id = 0 ∨ commitment.id ≠ id ∨ commitment.commitment.length ≠ 32) := by
    rintro (zero | different | short)
    · exact positive zero
    · exact different same
    · exact short width
  exact if_neg sound

theorem withNewCommitment_found (module : AcpModule) (created : RegistrationsCommitment)
    (positive : created.id ≠ 0) (width : created.commitment.length = 32) :
    getCommitmentById created.id (withNewCommitment created module) =
      .ok (some created) := by
  refine getCommitmentById_stored ?_ positive rfl width
  have different : commitmentKey created.id ≠ commitmentCounterKey :=
    (commitmentKey_inFamily _).ne commitmentCounterKey_inFamily (by decide)
  unfold withNewCommitment
  rw [withStored_get, if_neg different]
  exact withCommitment_get_self none created

/-- Amending and then rewriting both records is amending with the rewritten
records: the keys involved are distinct. -/
theorem withOwner_amended (externals : Externals) (creator : Did)
    (policyId : String) (module : AcpModule) (plain metadata : RecordMetadata)
    (event rewritten : AmendmentEvent) (old : Bytes) (object : Object)
    (sameId : rewritten.id = event.id) (samePolicy : rewritten.policyId = event.policyId)
    (oldFamily : InFamily .relationship old) :
    ((withOwner externals creator policyId plain
        ((withAmendment event module).withoutStored old) object).withStored
          (relationshipKeyOf externals policyId (ownerRelationship object creator))
          (.relationship (ownedBy creator policyId metadata object))).withStored
        (amendmentEventKey event.id) (.amendment rewritten) =
      withOwner externals creator policyId metadata
        ((withAmendment rewritten module).withoutStored old) object := by
  refine ext_store (fun key => ?_) rfl
  have eventFamily := amendmentEventKey_inFamily event.id
  have ownerFamily := relationshipKey_inFamily policyId
    (relationshipStorageKey externals.hashing (ownerRelationship object creator))
  have indexFamily := amendmentEventPolicyIndexKey_inFamily event.policyId event.id
  simp only [withOwner, withAmendment, withStored_get, withoutStored_get,
    relationshipKeyOf, sameId, samePolicy]
  by_cases atEvent : key = amendmentEventKey event.id
  · have notOwner := eventFamily.ne ownerFamily (by decide)
    have notOld := eventFamily.ne oldFamily (by decide)
    have notIndex := eventFamily.ne indexFamily (by decide)
    simp only [atEvent, if_true, notOwner, notOld, notIndex, if_false]
  · simp only [atEvent, if_false]
    by_cases atOwner : key = relationshipKey policyId
        (relationshipStorageKey externals.hashing (ownerRelationship object creator))
    · simp only [atOwner, if_true]
    · simp only [atOwner, if_false]

theorem setRelationship_again {key : Bytes} {first : StoredValue}
    {record : RelationshipRecord} {value : PolicyCmdResult}
    {post : Except AcpError PolicyCmdResult → AcpModule → Prop}
    (same : key = relationshipKeyOf externals policyId record.relationship)
    (holds : post (.ok value) (module.withStored key (.relationship record))) :
    Wp (setRelationship externals policyId record >>= fun _ => pure value)
      post (module.withStored key first) := by
  refine Wp.modify (Wp.pure ?_)
  rw [← same, withStored_withStored]
  exact holds

/-- Rewriting the records of an applied command gives the command applied in
its context. -/
theorem recordContext_applied {cmd : PolicyCmd} {result : PolicyCmdResult}
    {middle : AcpModule} {metadata eventMetadata : RecordMetadata}
    (applied : Applied externals false creator policyId
      (plainMetadata creator) (plainMetadata creator) module cmd result middle) :
    Wp (recordContext externals policyId metadata eventMetadata result)
      (fun outcome final => ∃ value, outcome = .ok value ∧
        Applied externals true creator policyId metadata eventMetadata module
          cmd value final) middle := by
  cases applied with
  | relationshipKept found => exact ⟨_, rfl, .relationshipKept found⟩
  | relationshipSet known reserved fresh fits =>
    exact setRelationship_again rfl ⟨_, rfl, .relationshipSet known reserved fresh fits⟩
  | relationshipDeleted known reserved =>
    exact ⟨_, rfl, .relationshipDeleted known reserved⟩
  | registered valid free =>
    exact setRelationship_again rfl ⟨_, rfl, .registered valid free⟩
  | archivedAlready => exact ⟨_, rfl, .archivedAlready⟩
  | archived owner found entitled selected =>
    exact ⟨_, rfl, .archived owner found entitled selected⟩
  | unarchived found entitled => exact ⟨_, rfl, .unarchived found entitled⟩
  | @committed root policy params next contextFree known width settings counted fresh =>
    obtain ⟨count, _, added⟩ := nextCounter_ok counted
    have stored := withNewCommitment_found module
      (newCommitment policyId root params next (plainMetadata creator))
      (checkedSucc_ne_zero added) width
    refine Wp.bind (updateCommitment_wp ?_ ?_)
    · intro failure looked
      cases stored.symm.trans looked
    · intro previous looked
      cases stored.symm.trans looked
      exact ⟨_, rfl, .recommitted rfl known width settings counted fresh⟩
  | recommitted contextual => cases contextual
  | revealed proved free =>
    exact setRelationship_again rfl ⟨_, rfl, .revealed proved free⟩
  | @amended commitmentId proof commitment existing previous next proved found
      earlier counted fresh =>
      refine Wp.modify (Wp.modify (Wp.pure ⟨_, rfl, ?_⟩))
      have inContext : Applied externals true creator policyId metadata eventMetadata
            module (.revealRegistration commitmentId proof) _ _ :=
        .amended proved found earlier counted fresh
      rw [← withOwner_amended externals creator policyId module (plainMetadata creator) metadata
        (amendmentOf creator policyId (plainMetadata creator) proof.object
          previous commitmentId next)
        (amendmentOf creator policyId eventMetadata proof.object previous commitmentId next)
        (relationshipKeyOf externals policyId existing.relationship)
        proof.object rfl rfl (relationshipKey_inFamily _ _)] at inContext
      exact inContext
  | flagged found entitled => exact ⟨_, rfl, .flagged found entitled⟩

/-- The metadata of a command's records, and of an amendment it makes. -/
def contextMetadata (creator : Did) (cmd : PolicyCmd) (module : AcpModule) :
    Option (BlockExecCtx × TxExecCtx) → Except AcpError (RecordMetadata × RecordMetadata)
  | none => .ok (plainMetadata creator, plainMetadata creator)
  | some (block, submission) => do
      let issued ← commandTimestamp cmd block module
      .ok (⟨issued, submission.txHash, submission.signer, creator.asStr⟩,
        ⟨block.timestamp, submission.txHash, submission.signer, creator.asStr⟩)

theorem executePolicyCmd_applied (cmd : PolicyCmd) (block : BlockExecCtx) (submission : TxExecCtx) :
    Wp (executePolicyCmd externals creator policyId cmd block submission) (fun result final =>
        match result with
        | .error _ => final = module
        | .ok value => ∃ metadata eventMetadata,
            contextMetadata creator cmd module (some (block, submission)) =
                .ok (metadata, eventMetadata) ∧
              Applied externals true creator policyId metadata eventMetadata
                module cmd value final) module := by
  refine Wp.failIf (fun _ => rfl) fun _ => ?_
  refine Wp.query (fun _ _ => rfl) fun issued timed => ?_
  refine Wp.bind ((directPolicyCmd_applied cmd).weaken ?_)
  intro result middle outcome
  cases result with
  | error failure => exact outcome
  | ok value =>
    refine (recordContext_applied outcome).weaken ?_
    intro final reached rewritten
    obtain ⟨value, finished, applied⟩ := rewritten
    rw [finished]
    refine ⟨_, _, ?_, applied⟩
    simp only [contextMetadata, timed]
    rfl

end Context

end AcpModule

end VeraHub.Acp
