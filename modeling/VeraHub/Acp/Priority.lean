import VeraHub.Acp.Ownership

/-!
# Priority of registrations

An object keeps its owner, and the height since which it is owned, until a
reveal moves it.  Such a reveal needs a commitment that is not newer than the
current claim, and the new claim gets the commitment's height, so the height of
a claim never increases.
-/

namespace VeraHub.Acp

open VeraHub.Zanzibar

variable {creator : Did} {metadata eventMetadata : RecordMetadata} {key : Bytes} {request : Request}

namespace AcpModule

/-! ## One step of ownership -/

/-- The height since which a record claims its object. -/
def claimHeight (record : RelationshipRecord) : UInt64 :=
  record.metadata.creationTs.blockHeight

section Step

variable (externals : Externals) (module : AcpModule)
  (submitted : Option Submission) (policyId : String) (object : Object)
  (old new : RelationshipRecord)

/-- A reveal moves the object: its commitment is not newer than the claim it
replaces, and in a context the new claim is as old as the commitment. -/
structure Amends (commitment : RegistrationsCommitment) : Prop where
  reveals : ∃ commitmentId proof context,
    submitted = some ⟨policyId, .revealRegistration commitmentId proof, context⟩ ∧
      proof.object = object ∧
        getCommitmentById commitmentId module = .ok (some commitment) ∧ new.metadata.creationTs =
            if context.isSome then commitment.metadata.creationTs
            else default
  live : old.archived = false
  earlier : commitment.metadata.creationTs.blockHeight ≤ claimHeight old

/-- The next owner record of an object: the same claim, or an amended one. -/
def Succeeds : Prop :=
  (new.relationship = old.relationship ∧ new.metadata = old.metadata) ∨
    ∃ commitment, Amends module submitted policyId object old new commitment

variable {module submitted policyId object old new}

variable {commitment : RegistrationsCommitment}

theorem amendedOwner_ok {existing : RelationshipRecord} {previous : Did}
    (earlier : amendedOwner commitment existing = .ok previous) :
    commitment.metadata.creationTs.blockHeight ≤ claimHeight existing := by
  unfold amendedOwner at earlier
  by_cases newer : commitment.metadata.creationTs.blockHeight >
      existing.metadata.creationTs.blockHeight
  · rw [if_pos newer] at earlier
    cases earlier
  · exact UInt64.not_lt.mp newer

/-- A revealed record is dated by its commitment, or not at all without a
context. -/
theorem contextMetadata_reveal {commitmentId : UInt64} {proof : RegistrationProof}
    {context : Option (BlockExecCtx × TxExecCtx)}
    (committed : getCommitmentById commitmentId module = .ok (some commitment))
    (dated : contextMetadata creator
      (.revealRegistration commitmentId proof) module context = .ok (metadata, eventMetadata)) :
    metadata.creationTs =
      if context.isSome then commitment.metadata.creationTs else default := by
  cases context with
  | none =>
    cases dated
    rfl
  | some pair =>
    obtain ⟨block, submission⟩ := pair
    obtain ⟨issued, timed, made⟩ := exceptBind_ok dated
    cases made
    obtain ⟨found, looked, checked⟩ := exceptBind_ok timed
    rw [committed] at looked
    cases looked
    simp only at checked
    split at checked
    · cases checked
    obtain ⟨_, checked⟩ := ifError_ok checked
    cases checked
    rfl

variable {externals} {final : AcpModule} {removed : List Bytes} {added : Option RelationshipRecord}

theorem OwnershipChange.succeeds (change : OwnershipChange externals module submitted removed added)
    (rewrites : Rewrites externals removed added module final)
    (policies : PoliciesSound externals module) (sound : RelationshipsSound externals module)
    (entry : OwnerEntry module policyId object key old) :
    ∃ newKey new, OwnerEntry final policyId object newKey new ∧
      Succeeds module submitted policyId object old new := by
  by_cases target : Targets submitted policyId object
  · obtain ⟨submission, isSubmitted, samePolicy, named⟩ := target
    subst isSubmitted samePolicy
    have canonical := (sound.canonical entry).1
    have survives := change.survives rewrites policies sound entry
    cases change with
    | unrelated spared ordinary =>
      have stays := survives (spared _ _ _ _ entry)
        fun other member owner => ((ordinary other member).1 owner).elim
      exact ⟨key, old, stays, .inl ⟨rfl, rfl⟩⟩
    | claimed target validated dated valid free =>
      rw [named] at target
      cases target
      rw [canonical] at entry
      exact (ensureObjectUnregistered_ok free entry).elim
    | @restated _ _ owner _ archived target found within =>
      rw [named] at target
      cases target
      have ownerEntry := (registrationOwnerRecord_some found).1
      have same := sound.unique _ _ _ _ _ _ entry ownerEntry
      have written : OwnerEntry final owner.policyId
          (objectOf owner.relationship) _ { owner with archived := archived } :=
        rewrites.written_entry rfl ownerEntry.owner
      rw [ownerEntry.policy, ownerEntry.object_eq] at written
      refine ⟨_, _, written, .inl ?_⟩
      rw [same]
      exact ⟨rfl, rfl⟩
    | amended reveals validated dated proved found live earlier =>
      rw [reveals] at named
      cases named
      have existingEntry := (registrationOwnerRecord_some found).1
      have same := sound.unique _ _ _ _ _ _ entry existingEntry
      subst same
      rw [reveals] at dated
      have committed := (revealedCommitment_ok proved).2.1
      refine ⟨_, _, rewrites.written_entry rfl rfl, .inr ⟨_, ?_, live, amendedOwner_ok earlier⟩⟩
      refine ⟨_, _, _, ?_, rfl, committed, contextMetadata_reveal committed dated⟩
      rw [← reveals]
  · have unchanged := (change.untargeted rewrites policies sound target).mpr entry
    exact ⟨key, old, unchanged, .inl ⟨rfl, rfl⟩⟩

theorem Succeeds.frame {families : List Family} {earlier : AcpModule}
    (within : Within families earlier module) (unlisted : .commitment ∉ families)
    (succeeds : Succeeds module submitted policyId object old new) :
    Succeeds earlier submitted policyId object old new := by
  rcases succeeds with same | ⟨commitment, amends⟩
  · exact .inl same
  · obtain ⟨commitmentId, proof, context, isReveal, named, committed, dated⟩ := amends.reveals
    refine .inr ⟨commitment, ⟨_, _, _, isReveal, named, ?_, dated⟩, amends.live, amends.earlier⟩
    rw [← committed]
    exact getCommitmentById_congr (within.get (commitmentKey_inFamily commitmentId) unlisted).symm

/-- One call keeps an owned object owned, by the same claim or an amended
one. -/
theorem Effect.succeeds (sound : OwnersSound externals module) (authentic : request.authentic)
    (effect : Effect externals request module final)
    (entry : OwnerEntry module policyId object key old) :
    ∃ newKey new, OwnerEntry final policyId object newKey new ∧
      Succeeds module request.submission policyId object old new := by
  obtain ⟨before, after, first, change, last⟩ := effect.exists_change
  have stillSound := sound.operations first
  obtain ⟨removed, added, rewrites, ownership⟩ :=
    change.ownership authentic stillSound.policies stillSound.relationships
  have entryBefore := (OwnerEntry.frame_iff first.within (by decide)).mpr entry
  obtain ⟨newKey, new, newEntry, succeeds⟩ := ownership.succeeds rewrites
    stillSound.policies stillSound.relationships entryBefore
  have newEntryLast := (OwnerEntry.frame_iff last.within (by decide)).mpr newEntry
  exact ⟨newKey, new, newEntryLast, succeeds.frame first.within (by decide)⟩

end Step

/-! ## Where commitments come from -/

section Commitments

variable {externals : Externals} {module final : AcpModule}
  {submitted : Option Submission} {id : UInt64}

def CommitmentAt (module : AcpModule) (id : UInt64) (commitment : RegistrationsCommitment) : Prop :=
  module.store.get (commitmentKey id) = some (.commitment commitment)

/-- The block time of a submission, zero without a context. -/
def submissionTime (submission : Submission) : Timestamp :=
  submission.context.elim default fun context => context.1.timestamp

/-- The commitment is new, and dated by the submission that makes it. -/
structure MadeBy (module : AcpModule) (submission : Submission)
    (id : UInt64) (commitment : RegistrationsCommitment) : Prop where
  commits : submission.cmd = .commitRegistrations commitment.commitment
  policy : submission.policyId = commitment.policyId
  fresh : module.store.get (commitmentKey id) = none
  dated : commitment.metadata.creationTs = submissionTime submission

def SameCommitment (first second : RegistrationsCommitment) : Prop :=
  second = { first with expired := second.expired }

theorem SameCommitment.refl (commitment : RegistrationsCommitment) :
    SameCommitment commitment commitment :=
  rfl

theorem Expires.same {commitment : RegistrationsCommitment}
    (chain : Expires module final) (stored : CommitmentAt final id commitment) :
    ∃ old, CommitmentAt module id old ∧ SameCommitment old commitment := by
  induction chain with
  | done => exact ⟨commitment, stored, .refl commitment⟩
  | @step module final marked found rest ih =>
    obtain ⟨middle, middleStored, same⟩ := ih stored
    by_cases here : id = marked.id
    · have markedHere : CommitmentAt (withCommitment (some marked)
          { marked with expired := true } module) marked.id { marked with expired := true } :=
        withCommitment_get_self _ _
      rw [here] at middleStored ⊢
      unfold CommitmentAt at middleStored markedHere
      rw [markedHere] at middleStored
      cases middleStored
      refine ⟨marked, (getCommitmentById_ok found).1, ?_⟩
      unfold SameCommitment at same ⊢
      rw [same]
    · refine ⟨middle, ?_, same⟩
      unfold CommitmentAt at middleStored ⊢
      rw [withCommitment_get_other (some marked)
        { marked with expired := true } here] at middleStored
      exact middleStored

variable {submission : Submission}

theorem contextMetadata_commit {root : Bytes} (commits : submission.cmd = .commitRegistrations root)
    (dated : contextMetadata creator submission.cmd module submission.context =
      .ok (metadata, eventMetadata)) : metadata.creationTs = submissionTime submission := by
  obtain ⟨policyId, cmd, context⟩ := submission
  simp only at commits
  subst commits
  cases context with
  | none =>
    cases dated
    rfl
  | some pair =>
    cases dated
    rfl

theorem withNewCommitment_get_other (created : RegistrationsCommitment)
    (different : id ≠ created.id) :
    (withNewCommitment created module).store.get (commitmentKey id) =
      module.store.get (commitmentKey id) := by
  have notCounter : commitmentKey id ≠ commitmentCounterKey :=
    (commitmentKey_inFamily id).ne commitmentCounterKey_inFamily (by decide)
  unfold withNewCommitment
  rw [withStored_get, if_neg notCounter, withCommitment_get_other _ _ different]

theorem withNewCommitment_get_self (created : RegistrationsCommitment) :
    (withNewCommitment created module).store.get (commitmentKey created.id) =
      some (.commitment created) := by
  have notCounter : commitmentKey created.id ≠ commitmentCounterKey :=
    (commitmentKey_inFamily _).ne commitmentCounterKey_inFamily (by decide)
  unfold withNewCommitment
  rw [withStored_get, if_neg notCounter, withCommitment_get_self]

theorem Commits.get {policyId : String} {root : Bytes} {next : UInt64}
    (commits : Commits policyId root metadata next module final) :
    (∃ params, CommitmentAt final next (newCommitment policyId root params next metadata)) ∧
      ∀ other, other ≠ next → final.store.get (commitmentKey other) =
          module.store.get (commitmentKey other) := by
  obtain ⟨params, atOnce | ⟨plain, rewritten⟩⟩ := commits
  · rw [atOnce]
    refine ⟨⟨params, withNewCommitment_get_self _⟩, fun other different => ?_⟩
    exact withNewCommitment_get_other (newCommitment policyId root params next metadata) different
  · rw [rewritten]
    refine ⟨⟨params, withCommitment_get_self _ _⟩, fun other different => ?_⟩
    rw [withCommitment_get_other _ (newCommitment policyId root params next metadata) different,
      withNewCommitment_get_other (newCommitment policyId root params next plain) different]

/-- A commitment after a command was there before, or the command made it. -/
theorem Applied.commitment {result : PolicyCmdResult} {commitment : RegistrationsCommitment}
    (dated : contextMetadata creator submission.cmd module submission.context =
      .ok (metadata, eventMetadata))
    (applied : Applied externals submission.context.isSome creator
      submission.policyId metadata eventMetadata module submission.cmd result final)
    (stored : CommitmentAt final id commitment) : CommitmentAt module id commitment ∨
      MadeBy module submission id commitment := by
  rcases applied.commits_or_within with
    within | ⟨root, next, policy, isCommit, known, width, counted, fresh, commits⟩
  · unfold CommitmentAt at stored ⊢
    rw [within.get (commitmentKey_inFamily id) (by decide)] at stored
    exact .inl stored
  · obtain ⟨⟨params, made⟩, others⟩ := commits.get
    by_cases here : id = next
    · rw [here] at stored ⊢
      unfold CommitmentAt at stored made
      rw [made] at stored
      cases stored
      exact .inr ⟨isCommit, rfl, fresh, contextMetadata_commit isCommit dated⟩
    · unfold CommitmentAt at stored ⊢
      rw [others id here] at stored
      exact .inl stored

/-- A commitment after a change was there before, or the change made it. -/
theorem Change.commitment {commitment : RegistrationsCommitment} (change : Change externals request module final)
    (stored : CommitmentAt final id commitment) :
    (∃ old, CommitmentAt module id old ∧ SameCommitment old commitment) ∨
      ∃ submission, request.submission = some submission ∧
        MadeBy module submission id commitment := by
  have keyFamily := commitmentKey_inFamily id
  have of_same : CommitmentAt module id commitment →
      ∃ old, CommitmentAt module id old ∧ SameCommitment old commitment :=
    fun same => ⟨commitment, same, .refl commitment⟩
  cases change.commitmentChange with
  | elsewhere same =>
    unfold CommitmentAt at stored
    rw [same.get keyFamily (by decide)] at stored
    exact .inl (of_same stored)
  | commanded submitted creator metadata eventMetadata result submits dated applied =>
    rcases applied.commitment dated stored with same | made
    · exact .inl (of_same same)
    · exact .inr ⟨submitted, submits, made⟩
  | expired chain => exact .inl (chain.same stored)

theorem Effect.commitment {commitment : RegistrationsCommitment} (effect : Effect externals request module final)
    (stored : CommitmentAt final id commitment) :
    (∃ old, CommitmentAt module id old ∧ SameCommitment old commitment) ∨
      ∃ submission, request.submission = some submission ∧
        MadeBy module submission id commitment := by
  obtain ⟨before, after, first, change, last⟩ := effect.exists_change
  have keyFamily := commitmentKey_inFamily id
  have sameFirst := first.within.get keyFamily (by decide)
  unfold CommitmentAt at stored ⊢
  rw [last.within.get keyFamily (by decide)] at stored
  rcases change.commitment stored with ⟨old, oldStored, same⟩ | made
  · unfold CommitmentAt at oldStored
    rw [sameFirst] at oldStored
    exact .inl ⟨old, oldStored, same⟩
  · obtain ⟨submission, isSubmitted, made⟩ := made
    have fresh := made.fresh
    rw [sameFirst] at fresh
    exact .inr ⟨submission, isSubmitted, made.commits, made.policy, fresh, made.dated⟩

end Commitments

/-! ## Runs -/

section Runs

variable (externals : Externals)

theorem performAll_append (module : AcpModule) (first second : List AcpCall) :
    performAll externals module (first ++ second) =
      performAll externals (performAll externals module first) second :=
  List.foldl_append

/-- A commitment identifier was given out by a call of the run, at the time of
that call's block. -/
def CommittedDuring (calls : List AcpCall) (id : UInt64) (time : Timestamp) :
    Prop :=
  ∃ before making after submission root,
    calls = before ++ making :: after ∧
      making.submission = some submission ∧
        submission.cmd = .commitRegistrations root ∧
          (performAll externals AcpModule.new before).store.get (commitmentKey id) = none ∧
            time = submissionTime submission

variable {externals} {calls : List AcpCall}

theorem CommittedDuring.append {id : UInt64} {time : Timestamp}
    (committed : CommittedDuring externals calls id time) (more : List AcpCall) :
    CommittedDuring externals (calls ++ more) id time := by
  obtain ⟨before, making, after, submission, root, split, rest⟩ := committed
  refine ⟨before, making, after ++ more, submission, root, ?_, rest⟩
  rw [split, List.append_assoc, List.cons_append]

end Runs

/-! ### A report that an earlier commitment takes -/

end AcpModule

end VeraHub.Acp
