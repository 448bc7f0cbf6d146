import VeraHub.Acp.Policies

/-!
# Owners of objects

The owner of an object is a relationship record, and the only record of the
`owner` relation below the object's prefix.  A change removes some relationship
keys and writes at most one record; what it may do to owners is described by
four cases, and the invariant on relationships is kept by each of them.
-/

namespace VeraHub.Acp

open VeraHub.Zanzibar

variable {key : Bytes} {record owner : RelationshipRecord} {families : List Family} {creator : Did}
  {metadata : RecordMetadata}

namespace AcpModule

/-! ## Owner records -/

/-- An owner record of an object in the store, live or archived. -/
structure OwnerEntry (module : AcpModule) (policyId : String) (object : Object)
    (key : Bytes) (record : RelationshipRecord) : Prop where
  inFamily : InFamily .relationship key
  found : module.store.get key = some (.relationship record)
  policy : record.policyId = policyId
  resource : record.relationship.resource = object.resource
  objectId : record.relationship.objectId = object.id
  owner : record.relationship.relation = "owner"

/-- The record's subject is the actor that its metadata names. -/
def OwnedByActor (record : RelationshipRecord) : Prop :=
  ∃ did, record.relationship.subject = .entity did ∧
    record.metadata.ownerDid = did.asStr ∧ didAccepts did.asStr = true

def objectOf (relationship : Relationship) : Object :=
  ⟨relationship.resource, relationship.objectId⟩

section Entries

variable {externals : Externals} {module final : AcpModule} {policyId : String} {object : Object}

theorem OwnerEntry.object_eq (entry : OwnerEntry module policyId object key record) :
    objectOf record.relationship = object := by
  unfold objectOf
  rw [entry.resource, entry.objectId]

/-- An owner record that was read is stored under its own key and names its
actor. -/
theorem registrationOwnerRecord_some
    (read : registrationOwnerRecord externals policyId object module = .ok (some record)) :
    OwnerEntry module policyId object (canonicalKey externals.hashing record) record ∧
      OwnedByActor record := by
  unfold registrationOwnerRecord at read
  split at read
  · cases read
  · cases read
  · rename_i key value scanned
    split at read
    · cases read
    · rename_i stored decoded
      obtain ⟨isRelationship, accepted⟩ := decodeRelationship_ok decoded
      split at read
      · rename_i actor subject
        obtain ⟨sound, read⟩ := ifError_ok read
        cases read
        push Not at sound
        obtain ⟨samePolicy, sameResource, sameObject, isOwner, sameDid, sameKey⟩ := sound
        have member : (key, value) ∈ module.scan
            (relationshipStoragePrefix policyId
              (relationPrefix object.resource object.id "owner")) := by
          rw [scanned]
          exact List.mem_cons_self
        have present := (OrderedMap.mem_prefixScan_iff.mp member).2
        have canonical : canonicalKey externals.hashing record = key := by
          rw [← sameKey, ← samePolicy]
          rfl
        rw [subject] at accepted
        refine ⟨⟨relationshipKey_inFamily _ _, ?_, samePolicy,
          sameResource, sameObject, isOwner⟩, actor, subject, sameDid, accepted⟩
        rw [canonical, present, isRelationship]
      · cases read

theorem ensureObjectUnregistered_ok
    (free : ensureObjectUnregistered policyId object module = .ok ()) :
    ¬ OwnerEntry module policyId object (canonicalKey externals.hashing record) record := by
  intro entry
  have leads : _ <+: relationshipKey record.policyId
      (relationshipStorageKey externals.hashing record.relationship) :=
    relationshipStoragePrefix_isPrefix record.policyId record.relationship
  rw [entry.policy, entry.resource, entry.objectId, entry.owner] at leads
  have found := entry.found
  unfold canonicalKey at found
  rw [entry.policy] at found
  have member := OrderedMap.mem_prefixScan_iff.mpr ⟨leads, found⟩
  unfold ensureObjectUnregistered at free
  cases scanned : module.scan (relationshipStoragePrefix policyId
      (relationPrefix object.resource object.id "owner")) with
  | nil =>
    unfold AcpModule.scan at scanned
    rw [scanned] at member
    cases member
  | cons entry rest =>
    simp only [scanned] at free
    cases free

/-- Records under the same key are about the same relation of the same
object. -/
theorem eq_of_canonicalKey {hashing : KeyHashing} {first second : RelationshipRecord}
    (free : slash ∉ utf8 second.policyId)
    (same : canonicalKey hashing first = canonicalKey hashing second) :
    first.policyId = second.policyId ∧
      objectOf first.relationship = objectOf second.relationship ∧
        first.relationship.relation = second.relationship.relation := by
  have leads : _ <+: relationshipKey first.policyId
      (relationshipStorageKey hashing first.relationship) :=
    relationshipStoragePrefix_isPrefix first.policyId first.relationship
  unfold canonicalKey at same
  rw [same] at leads
  obtain ⟨samePolicy, sameResource, sameObject, sameRelation⟩ := eq_of_relationPrefix free leads
  refine ⟨samePolicy, ?_, sameRelation⟩
  unfold objectOf
  rw [sameResource, sameObject]

end Entries

/-! ## Sound relationships -/

section Sound

variable (externals : Externals)

/-- A stored record belongs to a known policy; an owner is an actor, and owns
an object of a declared resource. -/
def RecordSound (module : AcpModule) (record : RelationshipRecord) : Prop :=
  ∃ policy, module.cached record.policyId = some policy ∧
    (record.relationship.relation = "owner" →
      OwnedByActor record ∧
        ∃ resource ∈ policy.resources, resource.name = record.relationship.resource)

/-- Relationships are stored under their own keys, and an object has one owner
record at most. -/
structure RelationshipsSound (module : AcpModule) : Prop where
  placed : ∀ key value, InFamily .relationship key →
    module.store.get key = some value →
      ∃ record, value = .relationship record ∧
        key = canonicalKey externals.hashing record ∧ RecordSound module record
  unique : ∀ policyId object firstKey secondKey first second,
    OwnerEntry module policyId object firstKey first →
      OwnerEntry module policyId object secondKey second → first = second

/-- Some relationship keys are removed and one record may be written. -/
structure Rewrites (removed : List Bytes) (added : Option RelationshipRecord)
    (module final : AcpModule) : Prop where
  written : ∀ record ∈ added,
    final.store.get (canonicalKey externals.hashing record) = some (.relationship record)
  others : ∀ key, InFamily .relationship key →
    (∀ record ∈ added, key ≠ canonicalKey externals.hashing record) → final.store.get key =
        if key ∈ removed then none else module.store.get key

variable {externals} {module middle final : AcpModule}
  {removed : List Bytes} {added : Option RelationshipRecord} {policyId : String} {object : Object}

theorem RecordSound.kept (sound : RecordSound module record) (kept : ResourcesKept module final) :
    RecordSound final record := by
  obtain ⟨policy, known, owned⟩ := sound
  obtain ⟨later, stillKnown, resources⟩ := kept _ _ known
  refine ⟨later, stillKnown, fun owner => ?_⟩
  obtain ⟨byActor, resource, member, named⟩ := owned owner
  obtain ⟨other, otherMember, sameName⟩ := resources resource member
  exact ⟨byActor, other, otherMember, sameName.trans named⟩

theorem RelationshipsSound.canonical (sound : RelationshipsSound externals module)
    (entry : OwnerEntry module policyId object key record) :
    key = canonicalKey externals.hashing record ∧
      RecordSound module record := by
  obtain ⟨other, same, canonical, recordSound⟩ := sound.placed key _ entry.inFamily entry.found
  cases same
  exact ⟨canonical, recordSound⟩

/-! ### Rewriting -/

theorem Rewrites.of_same
    (same : ∀ key, InFamily .relationship key → final.store.get key = module.store.get key) :
    Rewrites externals [] none module final where
  written := by
    intro record member
    cases member
  others := by
    intro key inFamily _
    rw [if_neg List.not_mem_nil]
    exact same key inFamily

theorem Rewrites.of_within (within : Within families module final)
    (unlisted : .relationship ∉ families) : Rewrites externals [] none module final :=
  .of_same fun _ inFamily => within.get inFamily unlisted

theorem Rewrites.put (rewrites : Rewrites externals removed none module middle)
    (record : RelationshipRecord) :
    Rewrites externals removed (some record) module
      (middle.withStored (canonicalKey externals.hashing record) (.relationship record)) where
  written := by
    intro other member
    cases member
    rw [withStored_get, if_pos rfl]
  others := by
    intro key inFamily different
    rw [withStored_get, if_neg (different record rfl)]
    exact rewrites.others key inFamily fun _ member => nomatch member

theorem foldl_withoutStored_get (keys : List Bytes) (key : Bytes) :
    (keys.foldl withoutStored module).store.get key =
      if key ∈ keys then none else module.store.get key := by
  induction keys generalizing module with
  | nil => rw [if_neg List.not_mem_nil]; rfl
  | cons first rest ih =>
    rw [List.foldl_cons, ih, withoutStored_get]
    by_cases later : key ∈ rest
    · rw [if_pos later, if_pos (List.mem_cons_of_mem first later)]
    · rw [if_neg later]
      by_cases here : key = first
      · rw [if_pos here, if_pos (here ▸ List.mem_cons_self)]
      · rw [if_neg here, if_neg (by simp [here, later])]

theorem Rewrites.pruned (externals : Externals) (module : AcpModule) (keys : List Bytes) :
    Rewrites externals keys none module (keys.foldl withoutStored module) where
  written := by
    intro record member
    cases member
  others := by
    intro key _ _
    exact foldl_withoutStored_get keys key

section

variable (rewrites : Rewrites externals removed added module final)

include rewrites

/-- A record after a rewrite is the one written, or an old one that was left
alone. -/
theorem Rewrites.stored (inFamily : InFamily .relationship key)
    (present : final.store.get key = some (.relationship record)) :
    (record ∈ added ∧ key = canonicalKey externals.hashing record) ∨
      (module.store.get key = some (.relationship record) ∧ key ∉ removed ∧
        ∀ other ∈ added, key ≠ canonicalKey externals.hashing other) := by
  by_cases here : ∃ other ∈ added, key = canonicalKey externals.hashing other
  · obtain ⟨other, member, same⟩ := here
    have written := rewrites.written other member
    rw [← same, present] at written
    cases written
    exact .inl ⟨member, same⟩
  · push Not at here
    have found := rewrites.others key inFamily here
    rw [present] at found
    obtain ⟨gone, found⟩ := Option.ite_none_left_eq_some.mp found.symm
    exact .inr ⟨found, gone, here⟩

theorem Rewrites.entry (entry : OwnerEntry final policyId object key record) :
    (record ∈ added ∧ key = canonicalKey externals.hashing record) ∨
      (OwnerEntry module policyId object key record ∧ key ∉ removed ∧
        ∀ other ∈ added, key ≠ canonicalKey externals.hashing other) := by
  rcases rewrites.stored entry.inFamily entry.found with
    written | ⟨found, gone, here⟩
  · exact .inl written
  · exact .inr ⟨{ entry with found := found }, gone, here⟩

theorem Rewrites.written_entry (member : record ∈ added)
    (owner : record.relationship.relation = "owner") :
    OwnerEntry final record.policyId (objectOf record.relationship)
      (canonicalKey externals.hashing record) record :=
  ⟨relationshipKey_inFamily _ _, rewrites.written record member, rfl, rfl, rfl, owner⟩

theorem Rewrites.entry_of (entry : OwnerEntry module policyId object key record)
    (spared : key ∉ removed)
    (different : ∀ other ∈ added, key ≠ canonicalKey externals.hashing other) :
    OwnerEntry final policyId object key record := by
  have kept := rewrites.others key entry.inFamily different
  rw [if_neg spared] at kept
  exact { entry with found := kept.trans entry.found }

end

/-- A rewrite keeps relationships sound when it writes a sound record, and an
owner record only where no other one stays. -/
theorem RelationshipsSound.rewrite (sound : RelationshipsSound externals module)
    (kept : ResourcesKept module final) (rewrites : Rewrites externals removed added module final)
    (addedSound : ∀ record ∈ added, RecordSound module record)
    (alone : ∀ record ∈ added, ∀ key old,
      OwnerEntry module record.policyId (objectOf record.relationship) key old →
        record.relationship.relation = "owner" →
          key ∈ removed ∨ key = canonicalKey externals.hashing record) :
    RelationshipsSound externals final where
  placed := by
    intro key value inFamily found
    by_cases here : ∃ other ∈ added, key = canonicalKey externals.hashing other
    · obtain ⟨other, member, same⟩ := here
      rw [same, rewrites.written other member] at found
      cases found
      exact ⟨other, rfl, same, (addedSound other member).kept kept⟩
    · push Not at here
      rw [rewrites.others key inFamily here] at found
      obtain ⟨gone, found⟩ := Option.ite_none_left_eq_some.mp found
      obtain ⟨record, isRelationship, canonical, recordSound⟩ :=
        sound.placed key value inFamily found
      exact ⟨record, isRelationship, canonical, recordSound.kept kept⟩
  unique := by
    -- A written owner leaves no old one of its object; old ones were unique.
    have written_old : ∀ policyId object firstKey secondKey (first second : RelationshipRecord),
        OwnerEntry final policyId object firstKey first →
          first ∈ added →
            OwnerEntry module policyId object secondKey second →
              secondKey ∉ removed → secondKey ≠ canonicalKey externals.hashing first → False := by
      intro policyId object firstKey secondKey first second entry member old spared different
      have sameObject := entry.object_eq
      have samePolicy := entry.policy
      subst sameObject samePolicy
      rcases alone first member secondKey second old entry.owner with
        gone | same
      · exact spared gone
      · exact different same
    intro policyId object firstKey secondKey first second firstEntry secondEntry
    rcases rewrites.entry firstEntry with
      ⟨firstAdded, _⟩ | ⟨firstOld, firstSpared, firstOther⟩
    · rcases rewrites.entry secondEntry with
        ⟨secondAdded, _⟩ | ⟨secondOld, secondSpared, secondOther⟩
      · exact Option.mem_unique firstAdded secondAdded
      · exact (written_old _ _ _ _ _ _ firstEntry firstAdded secondOld
          secondSpared (secondOther _ firstAdded)).elim
    · rcases rewrites.entry secondEntry with
        ⟨secondAdded, _⟩ | ⟨secondOld, _, _⟩
      · exact (written_old _ _ _ _ _ _ secondEntry secondAdded firstOld
          firstSpared (firstOther _ secondAdded)).elim
      · exact sound.unique _ _ _ _ _ _ firstOld secondOld

end Sound

/-! ## What a change does to owners -/

def ownedObject : PolicyCmd → Option Object
  | .registerObject object => some object
  | .archiveObject object => some object
  | .unarchiveObject object => some object
  | .revealRegistration _ proof => some proof.object
  | _ => none

/-- A submission may write the ownership of an object. -/
def Targets (submitted : Option Submission) (policyId : String) (object : Object) : Prop :=
  ∃ submission, submitted = some submission ∧
    submission.policyId = policyId ∧ ownedObject submission.cmd = some object

section Ownership

variable (externals : Externals) (module : AcpModule)

/-- The keys a change removes and the record it writes, in terms of owners: it
does not touch them, claims an object without one, writes the owner of an
object again, or replaces it by a reveal. -/
inductive OwnershipChange : Option Submission → List Bytes → Option RelationshipRecord → Prop
  | unrelated {submitted : Option Submission} {removed : List Bytes}
      {added : Option RelationshipRecord}
      (spared : ∀ policyId object key record,
        OwnerEntry module policyId object key record → key ∉ removed)
      (ordinary : ∀ record ∈ added,
        record.relationship.relation ≠ "owner" ∧
          ∃ policy, module.cached record.policyId = some policy ∧
            validateDeclared policy record.relationship = .ok ())
      (asked : ∀ record ∈ added, ∃ command ∈ submitted,
        command.cmd = .setRelationship record.relationship) :
      OwnershipChange submitted removed added
  | claimed {submitted : Submission} {creator : Did}
      {metadata eventMetadata : RecordMetadata} {object : Object}
      (target : ownedObject submitted.cmd = some object)
      (validated : didAccepts creator.asStr = true)
      (dated : contextMetadata creator submitted.cmd module
        submitted.context = .ok (metadata, eventMetadata))
      (valid : validateRegistrationObject submitted.policyId object module = .ok ())
      (free : ensureObjectUnregistered submitted.policyId object module = .ok ()) :
      OwnershipChange (some submitted) []
        (some (ownedBy creator submitted.policyId metadata object))
  | restated {submitted : Submission} {object : Object}
      {owner : RelationshipRecord} {removed : List Bytes} (archived : Bool)
      (target : ownedObject submitted.cmd = some object)
      (found : registrationOwnerRecord externals submitted.policyId object
        module = .ok (some owner))
      (within : ∀ policyId other key record,
        OwnerEntry module policyId other key record → key ∈ removed →
          policyId = submitted.policyId ∧ other = object) :
      OwnershipChange (some submitted) removed (some { owner with archived := archived })
  | amended {submitted : Submission} {creator : Did}
      {metadata eventMetadata : RecordMetadata} {commitmentId : UInt64}
      {proof : RegistrationProof} {commitment : RegistrationsCommitment}
      {existing : RelationshipRecord} {previous : Did}
      (reveals : submitted.cmd = .revealRegistration commitmentId proof)
      (validated : didAccepts creator.asStr = true)
      (dated : contextMetadata creator submitted.cmd module
        submitted.context = .ok (metadata, eventMetadata))
      (proved : revealedCommitment externals creator submitted.policyId
        commitmentId proof module = .ok commitment)
      (found : registrationOwnerRecord externals submitted.policyId
        proof.object module = .ok (some existing))
      (live : existing.archived = false)
      (earlier : amendedOwner commitment existing = .ok previous) :
      OwnershipChange (some submitted) [canonicalKey externals.hashing existing]
        (some (ownedBy creator submitted.policyId metadata proof.object))

variable {externals module} {final : AcpModule} {policyId : String}

theorem validateRegistrationObject_ok {object : Object}
    (valid : validateRegistrationObject policyId object module = .ok ()) :
    ∃ policy, module.cached policyId = some policy ∧
      ∃ resource ∈ policy.resources, resource.name = object.resource := by
  obtain ⟨policy, known, checked⟩ := exceptBind_ok valid
  refine ⟨policy, cachedPolicy_ok known, ?_⟩
  obtain ⟨actor, checked⟩ := ifError_ok checked
  by_cases missing : (policy.getResource object.resource).isNone = true
  · rw [if_pos missing] at checked
    cases checked
  cases found : policy.resources.find? fun resource =>
      resource.name = object.resource with
  | some resource =>
    have named := List.find?_some found
    exact ⟨resource, List.mem_of_find?_eq_some found, by simpa using named⟩
  | none =>
    -- The actor is no object, so a resource of that name is declared.
    exfalso
    apply missing
    unfold Policy.getResource
    simp only [found]
    unfold Policy.isActor at actor
    cases isActor : policy.actor with
    | none => rfl
    | some declared =>
      simp only [isActor, decide_eq_true_eq] at actor
      simp [Option.filter, actor]

variable {eventMetadata : RecordMetadata}

theorem contextMetadata_ownerDid {cmd : PolicyCmd} {context : Option (BlockExecCtx × TxExecCtx)}
    (dated : contextMetadata creator cmd module context = .ok (metadata, eventMetadata)) :
    metadata.ownerDid = creator.asStr := by
  cases context with
  | none =>
    cases dated
    rfl
  | some pair =>
    obtain ⟨block, submission⟩ := pair
    obtain ⟨issued, _, made⟩ := exceptBind_ok dated
    cases made
    rfl

theorem revealedCommitment_ok {commitmentId : UInt64} {proof : RegistrationProof}
    {commitment : RegistrationsCommitment}
    (proved : revealedCommitment externals creator policyId commitmentId proof
      module = .ok commitment) :
    validateRegistrationObject policyId proof.object module = .ok () ∧
      getCommitmentById commitmentId module = .ok (some commitment) ∧
        commitment.expired = false ∧ commitment.policyId = policyId := by
  obtain ⟨passed, valid, rest⟩ := exceptBind_ok proved
  obtain ⟨found, looked, checked⟩ := exceptBind_ok rest
  cases found with
  | none => cases checked
  | some stored =>
    simp only at checked
    obtain ⟨expired, checked⟩ := ifError_ok checked
    obtain ⟨foreign, checked⟩ := ifError_ok checked
    obtain ⟨_, checked⟩ := ifError_ok checked
    cases checked
    exact ⟨valid, looked, by simpa using expired, not_not.mp foreign⟩

theorem ownedBy_sound {object : Object} (validated : didAccepts creator.asStr = true)
    (owned : metadata.ownerDid = creator.asStr)
    (valid : validateRegistrationObject policyId object module = .ok ()) :
    RecordSound module (ownedBy creator policyId metadata object) := by
  obtain ⟨policy, known, declared⟩ := validateRegistrationObject_ok valid
  exact ⟨policy, known, fun _ => ⟨⟨creator, rfl, owned, validated⟩, declared⟩⟩

variable {submitted : Option Submission} {removed : List Bytes}
  {added : Option RelationshipRecord} {policyId : String} {object : Object}

theorem OwnerEntry.eq_of_key {otherId : String} {other : Object}
    {first second : RelationshipRecord} (entry : OwnerEntry module policyId object key first)
    (otherEntry : OwnerEntry module otherId other key second) :
    first = second ∧ policyId = otherId ∧ object = other := by
  have found := entry.found
  rw [otherEntry.found] at found
  cases found
  exact ⟨rfl, entry.policy.symm.trans otherEntry.policy,
    entry.object_eq.symm.trans otherEntry.object_eq⟩

section

variable (change : OwnershipChange externals module submitted removed added)

include change

theorem OwnershipChange.removed_target (entry : OwnerEntry module policyId object key record)
    (gone : key ∈ removed) : Targets submitted policyId object := by
  cases change with
  | unrelated spared ordinary =>
    exact (spared policyId object key record entry gone).elim
  | claimed target validated dated valid free => cases gone
  | restated archived target found within =>
    obtain ⟨samePolicy, sameObject⟩ := within policyId object key record entry gone
    exact ⟨_, rfl, samePolicy.symm, sameObject ▸ target⟩
  | amended reveals validated dated proved found live earlier =>
    have existingEntry := (registrationOwnerRecord_some found).1
    rw [← List.mem_singleton.mp gone] at existingEntry
    obtain ⟨_, samePolicy, sameObject⟩ := entry.eq_of_key existingEntry
    refine ⟨_, rfl, samePolicy.symm, ?_⟩
    rw [reveals, sameObject]
    rfl

theorem OwnershipChange.added_target (member : record ∈ added)
    (owner : record.relationship.relation = "owner") :
    Targets submitted record.policyId (objectOf record.relationship) := by
  cases change with
  | unrelated spared ordinary =>
    exact ((ordinary record member).1 owner).elim
  | claimed target validated dated valid free =>
    cases member
    exact ⟨_, rfl, rfl, target⟩
  | restated archived target found within =>
    cases member
    have entry := (registrationOwnerRecord_some found).1
    refine ⟨_, rfl, entry.policy.symm, ?_⟩
    rw [target, ← entry.object_eq]
  | amended reveals validated dated proved found live earlier =>
    cases member
    refine ⟨_, rfl, rfl, ?_⟩
    rw [reveals]
    rfl

theorem OwnershipChange.added_sound (sound : RelationshipsSound externals module) :
    ∀ record ∈ added, RecordSound module record := by
  intro record member
  cases change with
  | unrelated spared ordinary =>
    obtain ⟨plain, policy, known, _⟩ := ordinary record member
    exact ⟨policy, known, fun owner => (plain owner).elim⟩
  | claimed target validated dated valid free =>
    cases member
    exact ownedBy_sound validated (contextMetadata_ownerDid dated) valid
  | restated archived target found within =>
    cases member
    exact (sound.canonical (registrationOwnerRecord_some found).1).2
  | amended reveals validated dated proved found live earlier =>
    cases member
    exact ownedBy_sound validated (contextMetadata_ownerDid dated) (revealedCommitment_ok proved).1

theorem OwnershipChange.alone (sound : RelationshipsSound externals module) :
    ∀ record ∈ added, ∀ key old,
      OwnerEntry module record.policyId (objectOf record.relationship) key old →
        record.relationship.relation = "owner" →
          key ∈ removed ∨ key = canonicalKey externals.hashing record := by
  intro record member key old entry owner
  have canonical := (sound.canonical entry).1
  cases change with
  | unrelated spared ordinary =>
    exact ((ordinary record member).1 owner).elim
  | claimed target validated dated valid free =>
    cases member
    rw [canonical] at entry
    exact (ensureObjectUnregistered_ok free entry).elim
  | restated archived target found within =>
    cases member
    have ownerEntry := (registrationOwnerRecord_some found).1
    rw [← ownerEntry.policy, ← ownerEntry.object_eq] at ownerEntry
    have same := sound.unique _ _ _ _ _ _ entry ownerEntry
    rw [canonical, same]
    exact .inr rfl
  | amended reveals validated dated proved found live earlier =>
    cases member
    have existingEntry := (registrationOwnerRecord_some found).1
    have same := sound.unique _ _ _ _ _ _ entry existingEntry
    rw [canonical, same]
    exact .inl List.mem_cons_self

variable (rewrites : Rewrites externals removed added module final)

include rewrites

theorem OwnershipChange.relationshipsSound (kept : ResourcesKept module final)
    (sound : RelationshipsSound externals module) : RelationshipsSound externals final :=
  sound.rewrite kept rewrites (change.added_sound sound) (change.alone sound)

/-- An owner record stays unless it is removed or another one is written for
its object. -/
theorem OwnershipChange.survives (policies : PoliciesSound externals module)
    (sound : RelationshipsSound externals module)
    (entry : OwnerEntry module policyId object key record) (spared : key ∉ removed)
    (elsewhere : ∀ other ∈ added, other.relationship.relation = "owner" →
      other.policyId = policyId → objectOf other.relationship ≠ object) :
    OwnerEntry final policyId object key record := by
  refine rewrites.entry_of entry spared ?_
  intro other member same
  obtain ⟨policy, known, _⟩ := change.added_sound sound other member
  have free := (policies.cached _ _ known).1
  rw [(sound.canonical entry).1] at same
  obtain ⟨samePolicy, sameObject, sameRelation⟩ := eq_of_canonicalKey free same
  apply elsewhere other member
  · exact sameRelation.symm.trans entry.owner
  · exact samePolicy.symm.trans entry.policy
  · exact sameObject.symm.trans entry.object_eq

/-- The owner of an object that the submission does not name stays as it
is. -/
theorem OwnershipChange.untargeted (policies : PoliciesSound externals module)
    (sound : RelationshipsSound externals module)
    (elsewhere : ¬ Targets submitted policyId object) :
    OwnerEntry final policyId object key record ↔
      OwnerEntry module policyId object key record := by
  constructor
  · intro entry
    rcases rewrites.entry entry with ⟨written, _⟩ | ⟨old, _, _⟩
    · have target := change.added_target written entry.owner
      rw [entry.policy, entry.object_eq] at target
      exact (elsewhere target).elim
    · exact old
  · intro entry
    refine change.survives rewrites policies sound entry ?_ ?_
    · intro gone
      exact elsewhere (change.removed_target entry gone)
    · intro other member owner samePolicy sameObject
      have target := change.added_target member owner
      rw [samePolicy, sameObject] at target
      exact elsewhere target

end

/-! ### Classifying changes -/

theorem exists_ownershipChange_of_same {submitted : Option Submission}
    (same : ∀ key, InFamily .relationship key → final.store.get key = module.store.get key) :
    ∃ removed added, Rewrites externals removed added module final ∧
      OwnershipChange externals module submitted removed added := by
  refine ⟨[], none, .of_same same, .unrelated ?_ (by simp) (by simp)⟩
  intro policyId object key record entry
  exact List.not_mem_nil

theorem registeredOwner_ok (found : registeredOwner externals policyId object module = .ok owner) :
    registrationOwnerRecord externals policyId object module =
      .ok (some owner) := by
  unfold registeredOwner at found
  obtain ⟨missing, found⟩ := ifError_ok found
  obtain ⟨record, read, present⟩ := exceptBind_ok found
  cases record with
  | none => cases present
  | some record =>
    cases present
    exact read

theorem queryObjectOwner_some
    (found : queryObjectOwner externals policyId object module = .ok (some owner)) :
    registrationOwnerRecord externals policyId object module =
        .ok (some owner) ∧ owner.archived = false := by
  obtain ⟨record, read, kept⟩ := exceptBind_ok found
  obtain ⟨same, live⟩ := Option.filter_eq_some_iff.mp (Except.ok.inj kept)
  rw [same] at read
  exact ⟨read, by simpa using live⟩

theorem restated_key {archived : Bool}
    (read : registrationOwnerRecord externals policyId object module = .ok (some owner)) :
    canonicalKey externals.hashing { owner with archived := archived } =
      relationshipKeyOf externals policyId owner.relationship := by
  rw [← (registrationOwnerRecord_some read).1.policy]
  rfl

theorem released {middle : AcpModule} {released : Bytes} (within : Within families module middle)
    (unlisted : .relationship ∉ families) (same : key = released) :
    Rewrites externals [key] none module (middle.withoutStored released) where
  written := by
    intro record member
    cases member
  others := by
    intro other inFamily _
    rw [withoutStored_get, same, within.get inFamily unlisted]
    simp only [List.mem_singleton]

theorem Applied.ownership {submission : Submission} {result : PolicyCmdResult}
    (validated : didAccepts creator.asStr = true)
    (dated : contextMetadata creator submission.cmd module submission.context =
      .ok (metadata, eventMetadata))
    (applied : Applied externals submission.context.isSome creator
      submission.policyId metadata eventMetadata module submission.cmd result final)
    (policies : PoliciesSound externals module) (sound : RelationshipsSound externals module) :
    ∃ removed added, Rewrites externals removed added module final ∧
      OwnershipChange externals module (some submission) removed added := by
  obtain ⟨policyId, cmd, context⟩ := submission
  have none_removed : Rewrites externals [] none module module := .of_same fun _ _ => rfl
  cases applied with
  | relationshipKept found => exact exists_ownershipChange_of_same fun _ _ => rfl
  | @relationshipSet relationship policy known reserved fresh fits =>
    refine ⟨[], some ⟨policyId, relationship, false, metadata⟩,
      none_removed.put _, .unrelated ?_ ?_ ?_⟩
    · intro otherId object key record entry
      exact List.not_mem_nil
    · intro record member
      cases member
      exact ⟨reserved, policy, known, fits⟩
    · intro record member
      cases member
      exact ⟨_, rfl, rfl⟩
  | @relationshipDeleted relationship policy found known reserved =>
    refine ⟨[relationshipKeyOf externals policyId relationship], none,
      .pruned externals module [_], .unrelated ?_ (by simp) (by simp)⟩
    intro otherId object key record entry gone
    have free := (policies.cached _ _ known).1
    have same := List.mem_singleton.mp gone
    rw [(sound.canonical entry).1] at same
    have deleted : canonicalKey externals.hashing record =
        canonicalKey externals.hashing ⟨policyId, relationship, false, metadata⟩ := same
    obtain ⟨_, _, sameRelation⟩ := eq_of_canonicalKey free deleted
    exact reserved (sameRelation.symm.trans entry.owner)
  | registered valid free =>
    exact ⟨[], some _, none_removed.put _, .claimed rfl validated dated valid free⟩
  | archivedAlready => exact exists_ownershipChange_of_same fun _ _ => rfl
  | @archived object owner keys found entitled selected =>
    have read := registeredOwner_ok found
    have written := (Rewrites.pruned externals module keys).put { owner with archived := true }
    rw [restated_key read] at written
    refine ⟨keys, _, written, .restated true rfl read ?_⟩
    intro otherId other key record entry gone
    obtain ⟨stored, member, sameId, _, chosen⟩ := selectKeys_ok selected key gone
    have present := (OrderedMap.mem_prefixScan_iff.mp member).2
    rw [entry.found] at present
    cases present
    simp only [Bool.and_eq_true, decide_eq_true_eq] at chosen
    refine ⟨entry.policy.symm.trans sameId, ?_⟩
    rw [← entry.object_eq]
    unfold objectOf
    rw [chosen.1, chosen.2]
  | @unarchived object owner found entitled =>
    have read := registeredOwner_ok found
    have written := none_removed.put { owner with archived := false }
    rw [restated_key read] at written
    refine ⟨[], _, written, .restated false rfl read ?_⟩
    intro otherId other key record entry gone
    cases gone
  | committed contextFree known width settings counted fresh =>
    exact exists_ownershipChange_of_same fun key inFamily =>
      (withNewCommitment_within module _).get inFamily (by decide)
  | recommitted contextual known width settings counted fresh =>
    refine exists_ownershipChange_of_same fun key inFamily => ?_
    exact ((withNewCommitment_within module _).trans
      (withCommitment_within _ _ _)).get inFamily (by decide)
  | revealed proved free =>
    exact ⟨[], some _, none_removed.put _,
      .claimed rfl validated dated (revealedCommitment_ok proved).1 free⟩
  | amended proved found earlier counted fresh =>
    obtain ⟨read, live⟩ := queryObjectOwner_some found
    refine ⟨_, _, ?_, .amended rfl validated dated proved read live earlier⟩
    have samePolicy := (registrationOwnerRecord_some read).1.policy
    refine (released (withAmendment_within module _) (by decide) ?_).put _
    unfold canonicalKey
    rw [samePolicy]
    rfl
  | @flagged eventId event found entitled =>
    refine exists_ownershipChange_of_same fun key inFamily => ?_
    have different := inFamily.ne (amendmentEventKey_inFamily event.id) (by decide)
    rw [withStored_get, if_neg different]

/-- A policy with every resource of the old one declares the owner relation of
each of them. -/
theorem getRelation_owner {old new : Policy} (declares : DeclaresOwner new)
    (complete : removedResource old new = none) {resource : Resource}
    (member : resource ∈ old.resources) :
    (new.getRelation resource.name "owner").isSome = true := by
  obtain ⟨other, otherMember, sameName⟩ := removedResource_none complete resource member
  unfold Policy.getRelation Policy.getResource
  cases found : new.resources.find? fun candidate =>
      candidate.name = resource.name with
  | some first =>
    exact declares first (List.mem_of_find?_eq_some found)
  | none =>
    have unnamed := List.find?_eq_none.mp found other otherMember
    simp only [sameName, decide_true, not_true_eq_false] at unnamed

theorem Change.ownership {request : Request} (authentic : request.authentic)
    (change : Change externals request module final) (policies : PoliciesSound externals module)
    (sound : RelationshipsSound externals module) :
    ∃ removed added, Rewrites externals removed added module final ∧
      OwnershipChange externals module request.submission removed added := by
  cases change with
  | kept => exact exists_ownershipChange_of_same fun _ _ => rfl
  | @policyCreated policy marshalType metadata counter compiled defined counted accepted fresh =>
    refine exists_ownershipChange_of_same fun key inFamily => ?_
    have notPolicy := inFamily.ne (policyKey_inFamily compiled.id) (by decide)
    have notCounter := inFamily.ne policyCounterKey_inFamily (by decide)
    rw [withPolicy_get, if_neg notPolicy, withStored_get, if_neg notCounter]
  | @policyEdited policyId policy marshalType existing compiled orphans
      defined found accepted complete selected =>
      refine ⟨orphans, none, ?_, .unrelated ?_ (by simp) (by simp)⟩
      · have pruned := Rewrites.pruned externals module orphans
        refine ⟨fun _ member => (nomatch member), fun key inFamily different => ?_⟩
        have notPolicy := inFamily.ne (policyKey_inFamily policyId) (by decide)
        rw [withPolicy_get, if_neg notPolicy]
        exact pruned.others key inFamily different
      · -- Owners are never pruned: their resource and relation are kept.
        intro otherId object key record entry gone
        obtain ⟨stored, member, sameId, _, chosen⟩ := selectKeys_ok selected key gone
        have present := (OrderedMap.mem_prefixScan_iff.mp member).2
        rw [entry.found] at present
        cases present
        obtain ⟨_, known, cachedHere, owned⟩ := sound.canonical entry
        rw [sameId, policies.of_record found] at cachedHere
        cases cachedHere
        obtain ⟨_, resource, declared, named⟩ := owned entry.owner
        have kept := getRelation_owner (compilePolicy_declaresOwner accepted) complete declared
        rw [entry.owner, ← named] at chosen
        change (compiled.getRelation resource.name "owner").isNone = true at chosen
        rw [Option.isNone_iff_eq_none] at chosen
        rw [chosen] at kept
        cases kept
  | decided identified bounded =>
    exact exists_ownershipChange_of_same fun key inFamily =>
      (decided_within _).get inFamily (by decide)
  | paramsSet =>
    exact exists_ownershipChange_of_same fun key inFamily =>
      (paramsSet_within _).get inFamily (by decide)
  | commanded submits validated dated applied =>
    rw [submits]
    exact applied.ownership (validated authentic) dated policies sound
  | expired chain =>
    exact exists_ownershipChange_of_same fun key inFamily =>
      chain.within.get inFamily (by decide)

end Ownership

/-! ## Reachable modules -/

section Reachable

variable (externals : Externals)

/-- The invariant of policies and relationships. -/
structure OwnersSound (module : AcpModule) : Prop where
  policies : PoliciesSound externals module
  relationships : RelationshipsSound externals module

variable {externals} {module final : AcpModule} {request : Request}

theorem OwnersSound.new : OwnersSound externals AcpModule.new where
  policies := .new
  relationships :=
    { placed := by
        intro key value inFamily found
        cases found
      unique := by
        intro policyId object firstKey secondKey first second entry _
        cases entry.found }

section

variable (sound : OwnersSound externals module)

include sound

theorem OwnersSound.change (authentic : request.authentic)
    (change : Change externals request module final) : OwnersSound externals final := by
  obtain ⟨removed, added, rewrites, ownership⟩ :=
    change.ownership authentic sound.policies sound.relationships
  refine ⟨change.policiesSound sound.policies, ?_⟩
  exact ownership.relationshipsSound rewrites
    (change.resourcesKept sound.policies) sound.relationships

theorem OwnersSound.operations (only : OperationsOnly module final) :
    OwnersSound externals final := by
  have within := only.within
  refine ⟨sound.policies.frame within (by decide) (by decide), ?_⟩
  refine sound.relationships.rewrite (.of_cache within.cache) (.of_within within (by decide)) ?_ ?_
  · intro record member
    cases member
  · intro record member
    cases member

theorem OwnersSound.effect (authentic : request.authentic)
    (effect : Effect externals request module final) : OwnersSound externals final := by
  obtain ⟨before, after, first, change, last⟩ := effect.exists_change
  exact ((sound.operations first).change authentic change).operations last

end

theorem performAll_ownersSound (calls : List AcpCall)
    (authenticated : ∀ call ∈ calls, call.Authenticated) (sound : OwnersSound externals module) :
    OwnersSound externals (performAll externals module calls) := by
  refine List.foldlRecOn calls _ sound fun module sound call listed => ?_
  exact sound.effect (authenticated call listed) (perform_effect externals module call)

variable {policyId : String} {value : StoredValue}

section

variable (sound : OwnersSound externals module)

include sound

/-- What the scan of a relation meets is a record of that relation. -/
theorem OwnersSound.scanned {resource objectId relation : String}
    (member : (key, value) ∈ module.scan
      (relationshipStoragePrefix policyId (relationPrefix resource objectId relation))) :
    ∃ record, value = .relationship record ∧ key = canonicalKey externals.hashing record ∧
      InFamily .relationship key ∧ module.store.get key = some value ∧ RecordSound module record ∧
        policyId = record.policyId ∧ resource = record.relationship.resource ∧
          objectId = record.relationship.objectId ∧ relation = record.relationship.relation := by
  obtain ⟨leads, found⟩ := OrderedMap.mem_prefixScan_iff.mp member
  have inFamily : InFamily .relationship key := by
    refine List.IsPrefix.trans ?_ leads
    unfold relationshipStoragePrefix relationshipPolicyPrefix
    simp only [List.append_assoc]
    exact List.prefix_append _ _
  obtain ⟨record, isRelationship, canonical, recordSound⟩ :=
    sound.relationships.placed key value inFamily found
  have free : slash ∉ utf8 record.policyId := by
    obtain ⟨policy, known, _⟩ := recordSound
    exact (sound.policies.cached _ _ known).1
  have same := eq_of_relationPrefix free (canonical ▸ leads)
  exact ⟨record, isRelationship, canonical, inFamily, found, recordSound, same⟩

variable {object : Object}

theorem OwnersSound.of_scan
    (member : (key, value) ∈ module.scan (relationshipStoragePrefix policyId
      (relationPrefix object.resource object.id "owner"))) :
    ∃ record, value = .relationship record ∧
      key = canonicalKey externals.hashing record ∧ OwnerEntry module policyId object key record ∧
          OwnedByActor record := by
  obtain ⟨record, rfl, canonical, inFamily, found, ⟨_, _, owned⟩, samePolicy, sameResource,
    sameObject, isOwner⟩ := sound.scanned member
  exact ⟨record, rfl, canonical, ⟨inFamily, found, samePolicy.symm, sameResource.symm,
    sameObject.symm, isOwner.symm⟩, (owned isOwner.symm).1⟩

theorem OwnersSound.registrationOwnerRecord_ok (policyId : String) (object : Object) :
    ∃ found, registrationOwnerRecord externals policyId object module =
      .ok found := by
  unfold registrationOwnerRecord
  cases scanned : module.scan (relationshipStoragePrefix policyId
      (relationPrefix object.resource object.id "owner")) with
  | nil => exact ⟨none, rfl⟩
  | cons first rest =>
    obtain ⟨firstKey, firstValue⟩ := first
    have firstMember : (firstKey, firstValue) ∈ module.scan
        (relationshipStoragePrefix policyId
          (relationPrefix object.resource object.id "owner")) := by
      rw [scanned]
      exact List.mem_cons_self
    obtain ⟨record, isRelationship, canonical, entry, actor, subject, named,
      accepted⟩ := sound.of_scan firstMember
    cases rest with
    | cons second rest =>
      -- Two entries would be one record under one key.
      exfalso
      obtain ⟨secondKey, secondValue⟩ := second
      have secondMember : (secondKey, secondValue) ∈ module.scan
          (relationshipStoragePrefix policyId
            (relationPrefix object.resource object.id "owner")) := by
        rw [scanned]
        exact List.mem_cons_of_mem _ List.mem_cons_self
      obtain ⟨other, _, otherCanonical, otherEntry, _⟩ := sound.of_scan secondMember
      have same := sound.relationships.unique _ _ _ _ _ _ entry otherEntry
      have sorted := module.store.sorted.filter fun item =>
        OrderedMap.keyStartsWith (relationshipStoragePrefix policyId
          (relationPrefix object.resource object.id "owner")) item.1
      rw [← OrderedMap.prefixScan_eq_filter] at sorted
      unfold AcpModule.scan at scanned
      rw [scanned] at sorted
      have below := (List.pairwise_cons.mp sorted).1 _ List.mem_cons_self
      rw [canonical, otherCanonical, same] at below
      exact lt_irrefl _ below
    | nil =>
      refine ⟨some record, ?_⟩
      have decoded : firstValue.decodeRelationship = .ok record := by
        rw [isRelationship]
        refine if_pos ?_
        rw [subject]
        exact accepted
      simp only [decoded, subject]
      rw [if_neg]
      push Not
      refine ⟨entry.policy, entry.resource, entry.objectId, entry.owner, named, ?_⟩
      rw [canonical, ← entry.policy]
      rfl

end

theorem OwnerEntry.frame_iff (within : Within families module final)
    (unlisted : .relationship ∉ families) :
    OwnerEntry final policyId object key record ↔
      OwnerEntry module policyId object key record := by
  constructor
  · intro entry
    exact { entry with found := within.get entry.inFamily unlisted ▸ entry.found }
  · intro entry
    exact { entry with found := (within.get entry.inFamily unlisted).trans entry.found }

theorem Effect.owner_iff (sound : OwnersSound externals module) (authentic : request.authentic)
    (effect : Effect externals request module final)
    (elsewhere : ¬ Targets request.submission policyId object) :
    OwnerEntry final policyId object key record ↔
      OwnerEntry module policyId object key record := by
  obtain ⟨before, after, first, change, last⟩ := effect.exists_change
  have stillSound := sound.operations first
  obtain ⟨removed, added, rewrites, ownership⟩ :=
    change.ownership authentic stillSound.policies stillSound.relationships
  rw [OwnerEntry.frame_iff last.within (by decide),
    ownership.untargeted rewrites stillSound.policies stillSound.relationships elsewhere,
    OwnerEntry.frame_iff first.within (by decide)]

/-- The stored relationship records have a property. -/
def RecordsHold (Holds : RelationshipRecord → Prop) (module : AcpModule) : Prop :=
  ∀ key record, InFamily .relationship key →
    module.store.get key = some (.relationship record) → Holds record

variable {Holds : RelationshipRecord → Prop}

theorem RecordsHold.within (hold : RecordsHold Holds module) (within : Within families module final)
    (unlisted : .relationship ∉ families) : RecordsHold Holds final := by
  intro key record inFamily found
  rw [within.get inFamily unlisted] at found
  exact hold key record inFamily found

/-- An effect keeps a property that the record it writes has. -/
theorem Effect.recordsHold (sound : OwnersSound externals module) (authentic : request.authentic)
    (effect : Effect externals request module final)
    (written : ∀ before removed added, OperationsOnly module before →
      OwnershipChange externals before request.submission removed added →
        RecordsHold Holds before → ∀ record ∈ added, Holds record)
    (hold : RecordsHold Holds module) : RecordsHold Holds final := by
  obtain ⟨before, after, first, change, last⟩ := effect.exists_change
  have earlier := sound.operations first
  have holdBefore := hold.within first.within (by decide)
  obtain ⟨removed, added, rewrites, ownership⟩ :=
    change.ownership authentic earlier.policies earlier.relationships
  refine RecordsHold.within (fun key record inFamily stored => ?_) last.within (by decide)
  rcases rewrites.stored inFamily stored with ⟨member, _⟩ | ⟨old, _⟩
  · exact written before removed added first ownership holdBefore record member
  · exact holdBefore key record inFamily old

end Reachable

/-- In every reachable state an object has one owner record at most, stored
under its own key for the actor its metadata names, and reading it never
fails.  Only a command that registers, reveals, archives or unarchives the
object changes it. -/
theorem reachable_owners_unique (externals : Externals) (calls : List AcpCall)
    (authenticated : ∀ call ∈ calls, call.Authenticated) :
    (∀ policyId object firstKey secondKey first second,
        OwnerEntry (performAll externals AcpModule.new calls) policyId object firstKey first →
          OwnerEntry (performAll externals AcpModule.new calls) policyId object secondKey second →
            firstKey = secondKey ∧ first = second) ∧
      (∀ policyId object key record,
        OwnerEntry (performAll externals AcpModule.new calls) policyId object key record →
          key = relationshipKeyOf externals policyId record.relationship ∧
            ∃ did, record.relationship.subject = .entity did ∧
              record.metadata.ownerDid = did.asStr) ∧
      (∀ policyId object, ∃ found,
        registrationOwnerRecord externals policyId object
          (performAll externals AcpModule.new calls) = .ok found) ∧
      ∀ call : AcpCall, call.Authenticated → ∀ policyId object,
        ¬ Targets call.submission policyId object → ∀ key record,
          OwnerEntry
              (perform externals (performAll externals AcpModule.new calls)
                call) policyId object key record ↔
            OwnerEntry (performAll externals AcpModule.new calls) policyId
              object key record := by
  have sound := performAll_ownersSound calls authenticated
    (OwnersSound.new : OwnersSound externals AcpModule.new)
  refine ⟨?_, ?_, ?_, ?_⟩
  · intro policyId object firstKey secondKey first second entry otherEntry
    have same := sound.relationships.unique _ _ _ _ _ _ entry otherEntry
    have firstCanonical := (sound.relationships.canonical entry).1
    have secondCanonical := (sound.relationships.canonical otherEntry).1
    rw [firstCanonical, secondCanonical, same]
    exact ⟨rfl, rfl⟩
  · intro policyId object key record entry
    obtain ⟨canonical, policy, known, owned⟩ := sound.relationships.canonical entry
    obtain ⟨⟨did, subject, named, _⟩, _⟩ := owned entry.owner
    refine ⟨?_, did, subject, named⟩
    rw [canonical, ← entry.policy]
    rfl
  · exact sound.registrationOwnerRecord_ok
  · intro call accepted policyId object elsewhere key record
    exact (perform_effect externals _ call).owner_iff sound accepted elsewhere

/-! ### A report that is registered and archived -/

def reportOwner : Did :=
  ⟨"did:key:alice", Did.supported_alice⟩

def reportText : String :=
  "name: files\nresources:\n  - name: file\n"

def reportParsed : ParsedPolicy where
  name := "files"
  description := ""
  spec := .none
  metadata := []
  actorRelations := []
  resources := [⟨"file", "", [], []⟩]

def reportFields : Bytes :=
  [60, 12, 161, 175, 123, 43, 19, 202, 237, 163, 193, 61, 84, 17, 9, 214,
    127, 0, 82, 219, 223, 243, 252, 181, 182, 245, 136, 2, 182, 193, 43, 40]

def reportPolicyId : String :=
  "2fb6f4a7f1905d10a0e1b576f32e966941390300cb1a04632500328cc17c6ce6"

/-- The digests of the first policy, of its two actors and of a leaf for the
second one. -/
def reportHashing : KeyHashing where
  subjectJson subject :=
    match subject with
    | .entity did => utf8 ("\x7b\"Entity\":\"" ++ did.asStr ++ "\"\x7d")
    | _ => []
  sha256 input :=
    if input = utf8 "filesfile" then
      reportFields
    else if input = reportFields ++ utf8 "0" then
      [68, 73, 117, 15, 69, 46, 111, 86, 154, 27, 162, 220, 187, 58, 14, 233,
        242, 90, 22, 15, 187, 19, 193, 134, 14, 214, 196, 57, 98, 174, 128, 79]
    else if input = reportFields ++ utf8 "1" then
      [47, 182, 244, 167, 241, 144, 93, 16, 160, 225, 181, 118, 243, 46, 150,
        105, 65, 57, 3, 0, 203, 26, 4, 99, 37, 0, 50, 140, 193, 124, 108, 230]
    else if input = subjectDomain ++ utf8 "\x7b\"Entity\":\"did:key:alice\"\x7d" then
      [77, 35, 79, 70, 252, 12, 239, 38, 189, 28, 238, 97, 196, 191, 92, 8,
        207, 151, 151, 79, 65, 246, 234, 202, 121, 60, 126, 21, 141, 220, 197, 191]
    else if input = subjectDomain ++ utf8 "\x7b\"Entity\":\"did:key:bob\"\x7d" then
      [128, 155, 76, 157, 28, 18, 56, 148, 252, 110, 208, 191, 255, 202, 97,
        160, 100, 47, 177, 147, 163, 212, 125, 180, 62, 33, 188, 27, 151, 199, 119, 94]
    else
      [3, 185, 39, 170, 94, 84, 12, 195, 58, 90, 193, 244, 254, 211, 145, 59,
        250, 241, 46, 25, 117, 160, 194, 3, 115, 13, 118, 158, 156, 157, 76, 188]

def reportExternals : Externals where
  hashing := reportHashing
  parsePolicyYaml text :=
    if text = reportText then .ok reportParsed
    else .error "invalid policy YAML"
  parsePolicyJson _ := .error "expected value at line 1 column 1"
  encodedLength _ := 256
  policyJson policy :=
    utf8 ("\x7b\"id\":\"" ++ policy.id ++
      "\",\"name\":\"files\",\"actor\":\x7b\"name\":\"actor\"," ++
        "\"relations\":[]\x7d,\"resources\":[\x7b\"name\":\"file\"," ++
          "\"relations\":[\x7b\"name\":\"owner\",\"expression\":\"this\"," ++
            "\"subject_restriction\":null,\"manages\":[]\x7d]\x7d]," ++
              "\"attributes\":\x7b\x7d\x7d")
  canonicalIssuer text := .ok text

def report : Object :=
  ⟨"file", "report"⟩

def reportCalls : List AcpCall :=
  [.createPolicy reportOwner reportText .shortYaml,
    .directPolicyCmd reportOwner reportPolicyId (.registerObject report),
    .directPolicyCmd reportOwner reportPolicyId (.archiveObject report)]

/-- The archived report still has its owner, and no other one. -/
theorem archived_report_owner_unique :
    (∀ call ∈ reportCalls, call.Authenticated) ∧
      ∃ record,
        registrationOwnerRecord reportExternals reportPolicyId report
            (performAll reportExternals AcpModule.new reportCalls) = .ok (some record) ∧
        record.archived = true ∧
          record.metadata.ownerDid = "did:key:alice" ∧
            ∀ key other,
              OwnerEntry (performAll reportExternals AcpModule.new reportCalls)
                  reportPolicyId report key other → other = record := by
  have authenticated : ∀ call ∈ reportCalls, call.Authenticated := by
    intro call member did actor
    simp only [reportCalls, List.mem_cons, List.not_mem_nil, or_false] at member
    rcases member with rfl | rfl | rfl
    · cases actor
    · cases actor
      decide
    · cases actor
      decide
  have read :
      (registrationOwnerRecord reportExternals reportPolicyId report
          (performAll reportExternals AcpModule.new reportCalls)).toOption.map
        (fun found => found.map fun record =>
          (record.archived, record.metadata.ownerDid)) =
        some (some (true, "did:key:alice")) := by
    decide +kernel
  have facts := reachable_owners_unique reportExternals reportCalls authenticated
  obtain ⟨found, looked⟩ := facts.2.2.1 reportPolicyId report
  rw [looked] at read
  cases found with
  | none => cases read
  | some record =>
    simp only [Except.toOption, Option.map_some, Option.some.injEq, Prod.mk.injEq] at read
    refine ⟨authenticated, record, looked, read.1, read.2, ?_⟩
    intro key other entry
    exact (facts.1 _ _ _ _ _ _ entry (registrationOwnerRecord_some looked).1).2

end AcpModule

end VeraHub.Acp
