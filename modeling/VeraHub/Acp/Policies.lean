import VeraHub.Acp.CallEffects

/-!
# Frames of changes, and the policies of a reachable module

Each change stays within a few families of keys.  Policies are touched by their
creation and by edits only, so the cache and the stored records agree in every
state, and every cached policy lets its objects be owned.
-/

namespace VeraHub.Acp

open VeraHub.Zanzibar

variable {keys : List Bytes} {record : PolicyRecord} {policyId mismatch id : String}
  {selected : Relationship → Bool} {entries : List (Bytes × StoredValue)}
  {metadata : RecordMetadata} {request : Request}

namespace AcpModule

/-! ## Frames -/

/-- The families of commitments, their counter and their indexes. -/
def commitmentFamilies : List Family :=
  [.commitment, .commitmentCounter, .commitmentRoot, .expirySeconds, .expiryHeight]

/-- The families of amendments, their counter and their index. -/
def amendmentFamilies : List Family :=
  [.amendment, .amendmentCounter, .amendmentPolicy]

def commandFamilies : List Family :=
  .relationship :: commitmentFamilies ++ amendmentFamilies

/-- A module changed within some families of keys, with the same policies
cached. -/
structure Within (families : List Family) (module final : AcpModule) : Prop where
  cache : final.zanzibarPolicies = module.zanzibarPolicies
  outside : SameOutside families module.store final.store

section Within

variable {families more : List Family} {module middle final : AcpModule}
  {family : Family} {key : Bytes}

theorem Within.refl : Within families module module :=
  ⟨rfl, .refl⟩

theorem Within.trans (first : Within families module middle)
    (second : Within families middle final) : Within families module final :=
  ⟨second.cache.trans first.cache, first.outside.trans second.outside⟩

theorem Within.withStored (within : Within families module final)
    (value : StoredValue) (inFamily : InFamily family key) (listed : family ∈ families) :
    Within families module (final.withStored key value) :=
  ⟨within.cache, within.outside.insert value inFamily listed⟩

variable (within : Within families module final)

include within

theorem Within.withoutStored (inFamily : InFamily family key) (listed : family ∈ families) :
    Within families module (final.withoutStored key) :=
  ⟨within.cache, within.outside.erase inFamily listed⟩

theorem Within.foldl_withoutStored
    (listed : ∀ key ∈ keys, ∃ family ∈ families, InFamily family key) :
    Within families module (keys.foldl AcpModule.withoutStored final) := by
  induction keys generalizing final with
  | nil => exact within
  | cons key rest ih =>
    obtain ⟨family, member, inFamily⟩ := listed key List.mem_cons_self
    apply ih (within.withoutStored inFamily member)
    intro other inRest
    exact listed other (List.mem_cons_of_mem key inRest)

theorem Within.mono (larger : families ⊆ more) : Within more module final := by
  refine ⟨within.cache, fun key avoided => within.outside key ?_⟩
  intro family listed
  exact avoided family (larger listed)

theorem Within.get (inFamily : InFamily family key) (unlisted : family ∉ families) :
    final.store.get key = module.store.get key :=
  within.outside.get inFamily unlisted

theorem Within.cached (id : String) : final.cached id = module.cached id := by
  unfold AcpModule.cached
  rw [within.cache]

end Within

theorem OperationsOnly.within {module final : AcpModule} (only : OperationsOnly module final) :
    Within operationFamilies module final :=
  ⟨only.policies, only.outside⟩

theorem expiryFamily_mem (commitment : RegistrationsCommitment) :
    expiryFamily commitment ∈ commitmentFamilies := by
  unfold expiryFamily
  split
  · decide
  · decide

section Frames

variable {externals : Externals} {final : AcpModule} (module : AcpModule)

theorem withoutIndexes_within (previous : Option RegistrationsCommitment) :
    Within commitmentFamilies module (withoutIndexes previous module) := by
  cases previous with
  | none => exact .refl
  | some old =>
    have start : Within commitmentFamilies module module := .refl
    have unlisted := start.withoutStored (commitmentExpiryKey_inFamily old) (expiryFamily_mem old)
    exact unlisted.withoutStored (commitmentByCommitmentIndexKey_inFamily old.commitment old.id)
      (by decide)

theorem Within.withDeadline (within : Within commitmentFamilies module final)
    (commitment : RegistrationsCommitment) :
    Within commitmentFamilies module (withDeadline commitment final) := by
  unfold AcpModule.withDeadline
  split
  · exact within
  · exact within.withStored _ (commitmentExpiryKey_inFamily commitment)
      (expiryFamily_mem commitment)

theorem withCommitment_within (previous : Option RegistrationsCommitment)
    (commitment : RegistrationsCommitment) :
    Within commitmentFamilies module (withCommitment previous commitment module) := by
  have listed := (withoutIndexes_within module previous).withDeadline module commitment
  have indexed := listed.withStored .empty
    (commitmentByCommitmentIndexKey_inFamily commitment.commitment commitment.id) (by decide)
  exact indexed.withStored (.commitment commitment)
    (commitmentKey_inFamily commitment.id) (by decide)

theorem withNewCommitment_within (created : RegistrationsCommitment) :
    Within commitmentFamilies module (withNewCommitment created module) :=
  (withCommitment_within module none created).withStored _ commitmentCounterKey_inFamily (by decide)

theorem withAmendment_within (event : AmendmentEvent) :
    Within amendmentFamilies module (withAmendment event module) := by
  have start : Within amendmentFamilies module module := .refl
  have counted := start.withStored (.counter event.id) amendmentEventCounterKey_inFamily (by decide)
  have stored := counted.withStored (.amendment event)
    (amendmentEventKey_inFamily event.id) (by decide)
  exact stored.withStored .empty (amendmentEventPolicyIndexKey_inFamily event.policyId event.id)
    (by decide)

variable {module} {value : StoredValue}

theorem decodeRelationship_ok {record : RelationshipRecord}
    (decoded : value.decodeRelationship = .ok record) :
    value = .relationship record ∧
      StoredValue.decodesSubject record.relationship.subject = true := by
  cases value with
  | relationship stored =>
    simp only [StoredValue.decodeRelationship] at decoded
    split at decoded <;> cases decoded
    exact ⟨rfl, by assumption⟩
  | policy | decision | commitment | amendment | params | counter | operation
  | reference | empty => cases decoded

theorem codec_decodeRelationship_iff {record : RelationshipRecord} :
    externals.codec.decodeRelationship value = .ok record ↔ value = .relationship record ∧
      StoredValue.decodesSubject record.relationship.subject = true := by
  constructor
  · intro decoded
    simp only [Externals.codec] at decoded
    split at decoded <;> cases decoded
    exact decodeRelationship_ok (by assumption)
  · rintro ⟨rfl, accepted⟩
    simp [Externals.codec, StoredValue.decodeRelationship, accepted]

theorem decodePolicy_ok (decoded : value.decodePolicy = .ok record) : value = .policy record := by
  cases value with
  | policy stored =>
    change (if policyRecordNesting stored ≤ jsonLimit then
      Except.ok stored else _) = _ at decoded
    by_cases shallow : policyRecordNesting stored ≤ jsonLimit
    · rw [if_pos shallow] at decoded
      cases decoded
      rfl
    · rw [if_neg shallow] at decoded
      cases decoded
  | relationship | decision | commitment | amendment | params | counter
  | operation | reference | empty => cases decoded

section

variable (done : selectKeys externals policyId mismatch selected entries = .ok keys)

include done

theorem selectKeys_ok :
    ∀ key ∈ keys, ∃ record : RelationshipRecord,
      (key, .relationship record) ∈ entries ∧ record.policyId = policyId ∧
        key = relationshipKeyOf externals policyId record.relationship ∧
          selected record.relationship = true := by
  induction entries generalizing keys with
  | nil =>
    cases done
    intro key member
    cases member
  | cons entry rest ih =>
    obtain ⟨entryKey, value⟩ := entry
    unfold selectKeys at done
    cases decoded : value.decodeRelationship with
    | error message =>
      simp only [decoded] at done
      cases done
    | ok record =>
      simp only [decoded] at done
      obtain ⟨wrong, done⟩ := ifError_ok done
      push Not at wrong
      obtain ⟨others, selectedRest, listed⟩ := exceptBind_ok done
      have later : ∀ key ∈ others, ∃ record : RelationshipRecord,
          (key, .relationship record) ∈ (entryKey, value) :: rest ∧
            record.policyId = policyId ∧
              key = relationshipKeyOf externals policyId record.relationship ∧
                selected record.relationship = true := by
        intro key member
        obtain ⟨found, inRest, facts⟩ := ih selectedRest key member
        exact ⟨found, List.mem_cons_of_mem _ inRest, facts⟩
      by_cases chosen : selected record.relationship = true
      · rw [if_pos chosen] at listed
        cases listed
        intro key member
        rcases List.mem_cons.mp member with atHead | inTail
        · rw [(decodeRelationship_ok decoded).1, atHead]
          exact ⟨record, List.mem_cons_self, wrong.1, wrong.2.symm, chosen⟩
        · exact later key inTail
      · rw [if_neg chosen] at listed
        cases listed
        exact later

theorem selectKeys_inFamily : ∀ key ∈ keys, InFamily .relationship key := by
  intro key member
  obtain ⟨record, _, _, same, _⟩ := selectKeys_ok done key member
  rw [same]
  exact relationshipKey_inFamily _ _

end

theorem pruned_within (module : AcpModule)
    (done : selectKeys externals policyId mismatch selected entries = .ok keys) :
    Within [.relationship] module (keys.foldl withoutStored module) := by
  refine Within.refl.foldl_withoutStored ?_
  intro key member
  exact ⟨.relationship, List.mem_cons_self, selectKeys_inFamily done key member⟩

theorem decided_within (decision : AccessDecision) :
    Within [.decision] module
      (module.withStored (accessDecisionKey decision.id) (.decision decision)) :=
  Within.refl.withStored _ (accessDecisionKey_inFamily _) List.mem_cons_self

theorem paramsSet_within (params : AcpParams) :
    Within [.params] module (module.withStored paramsKey (.params params)) :=
  Within.refl.withStored _ paramsKey_inFamily List.mem_cons_self

/-- A commitment is stored for the first time, at once or, in a context, first
with plain metadata. -/
def Commits (policyId : String) (root : Bytes) (metadata : RecordMetadata)
    (id : UInt64) (module final : AcpModule) : Prop :=
  ∃ params,
    final = withNewCommitment (newCommitment policyId root params id metadata) module ∨
      ∃ plain, final =
        withCommitment (some (newCommitment policyId root params id plain))
          (newCommitment policyId root params id metadata)
          (withNewCommitment (newCommitment policyId root params id plain) module)

variable {eventMetadata : RecordMetadata} {result : PolicyCmdResult}

theorem Applied.commits_or_within {inContext : Bool} {creator : Did} {cmd : PolicyCmd}
    (applied : Applied externals inContext creator policyId metadata
      eventMetadata module cmd result final) :
    Within (.relationship :: amendmentFamilies) module final ∨
      ∃ root id policy, cmd = .commitRegistrations root ∧
        module.cached policyId = some policy ∧ root.length = 32 ∧
          nextCounter commitmentCounterKey "invalid record counter"
              "record counter exhausted" module = .ok id ∧
            module.store.get (commitmentKey id) = none ∧
              Commits policyId root metadata id module final := by
  have start : Within (.relationship :: amendmentFamilies) module module := .refl
  cases applied with
  | relationshipKept found => exact .inl start
  | relationshipSet known reserved fresh fits =>
    exact .inl (start.withStored _ (relationshipKey_inFamily _ _) (by decide))
  | relationshipDeleted known reserved =>
    exact .inl (start.withoutStored (relationshipKey_inFamily _ _) (by decide))
  | registered valid free =>
    exact .inl (start.withStored _ (relationshipKey_inFamily _ _) (by decide))
  | archivedAlready => exact .inl start
  | archived owner found entitled selected =>
    exact .inl (((pruned_within module selected).mono (by decide)).withStored
      _ (relationshipKey_inFamily _ _) (by decide))
  | unarchived found entitled =>
    exact .inl (start.withStored _ (relationshipKey_inFamily _ _) (by decide))
  | committed contextFree known width settings counted fresh =>
    exact .inr ⟨_, _, _, rfl, known, width, counted, fresh, _, .inl rfl⟩
  | recommitted contextual known width settings counted fresh =>
    exact .inr ⟨_, _, _, rfl, known, width, counted, fresh, _, .inr ⟨_, rfl⟩⟩
  | revealed proved free =>
    exact .inl (start.withStored _ (relationshipKey_inFamily _ _) (by decide))
  | @amended commitmentId proof commitment existing previous next proved found
      earlier counted fresh =>
      have noted : Within (.relationship :: amendmentFamilies) module _ :=
        (withAmendment_within module
          (amendmentOf creator policyId eventMetadata proof.object previous
            commitmentId next)).mono (by decide)
      have released := noted.withoutStored
        (relationshipKey_inFamily policyId
          (relationshipStorageKey externals.hashing existing.relationship))
        (by decide)
      exact .inl (released.withStored _ (relationshipKey_inFamily _ _) (by decide))
  | flagged found entitled =>
    exact .inl (start.withStored _ (amendmentEventKey_inFamily _) (by decide))

theorem Commits.within {root : Bytes} {id : UInt64}
    (commits : Commits policyId root metadata id module final) :
    Within commitmentFamilies module final := by
  obtain ⟨params, atOnce | ⟨plain, rewritten⟩⟩ := commits
  · rw [atOnce]
    exact withNewCommitment_within _ _
  · rw [rewritten]
    exact (withNewCommitment_within _ _).trans (withCommitment_within _ _ _)

theorem Applied.within {inContext : Bool} {creator : Did} {cmd : PolicyCmd}
    (applied : Applied externals inContext creator policyId metadata
      eventMetadata module cmd result final) : Within commandFamilies module final := by
  rcases applied.commits_or_within with
    within | ⟨_, _, _, _, _, _, _, _, commits⟩
  · exact within.mono (by decide)
  · exact commits.within.mono (by decide)

theorem Expires.within (chain : Expires module final) :
    Within commitmentFamilies module final := by
  induction chain with
  | done => exact .refl
  | step found rest ih =>
    exact (withCommitment_within _ _ _).trans ih

end Frames

/-! ## Compiled policies -/

section Compiled

variable {externals : Externals} {text : String}
  {marshalType : PolicyMarshalingType} {counter : UInt64}
  {spec : Option PolicySpecification} {policy : Policy}

theorem compilePolicy_ok
    (accepted : compilePolicy externals text marshalType counter spec = .ok policy) :
    ¬ (utf8 text).length > 64 * 1024 ∧
      ∃ parsed, parsePolicy externals text marshalType = .ok parsed ∧
        checkDefinition { parsed with spec := spec.getD parsed.spec } = .ok () ∧
          assemblePolicy
              (generatePolicyId externals.hashing.sha256
                { parsed with spec := spec.getD parsed.spec } counter)
              { parsed with spec := spec.getD parsed.spec } = .ok policy ∧
            policy.validate = .ok () := by
  unfold compilePolicy at accepted
  obtain ⟨large, accepted⟩ := ifError_ok accepted
  obtain ⟨parsed, read, rest⟩ := exceptBind_ok accepted
  refine ⟨large, parsed, read, ?_⟩
  cases made : buildPolicy externals.hashing.sha256
      { parsed with spec := spec.getD parsed.spec } counter with
  | error failure =>
    simp only [made] at rest
    cases rest
  | ok built =>
    simp only [made] at rest
    cases valid : built.validate with
    | error failure =>
      simp only [valid] at rest
      cases rest
    | ok passed =>
      simp only [valid] at rest
      cases rest
      exact buildPolicy_ok made

theorem compilePolicy_of_checked {parsed : ParsedPolicy} (small : ¬ (utf8 text).length > 64 * 1024)
    (read : parsePolicy externals text marshalType = .ok parsed)
    (checked : checkDefinition { parsed with spec := spec.getD parsed.spec } = .ok ())
    (made : assemblePolicy
      (generatePolicyId externals.hashing.sha256
        { parsed with spec := spec.getD parsed.spec } counter)
      { parsed with spec := spec.getD parsed.spec } = .ok policy)
    (valid : policy.validate = .ok ()) :
    compilePolicy externals text marshalType counter spec = .ok policy := by
  have built := buildPolicy_of_checked checked made valid
  unfold compilePolicy
  rw [if_neg small, exceptBind_of_ok read]
  simp only [built, valid]

/-- The definition of a stored policy gives that policy again. -/
def Recompiles (externals : Externals) (record : PolicyRecord) : Prop :=
  ∃ compiled,
    compilePolicy externals record.rawPolicy record.marshalType 0
        (some record.policy.specification) = .ok compiled ∧
      record.policy = { compiled with id := record.policy.id }

/-- The sequence number only chooses the identifier, and a compiled policy
already has the specification it keeps. -/
theorem compilePolicy_recompiles (metadata : RecordMetadata) (id : String)
    (accepted : compilePolicy externals text marshalType counter spec = .ok policy) :
    Recompiles externals ⟨{ policy with id := id }, text, marshalType, metadata⟩ := by
  obtain ⟨small, parsed, read, checked, made, valid⟩ := compilePolicy_ok accepted
  have sameSpec : policy.specification = spec.getD parsed.spec := (assemblePolicy_ok made).2.1
  have valid' := valid
  rw [← Policy.validate_rename policy
    (generatePolicyId externals.hashing.sha256
      { parsed with spec := spec.getD parsed.spec } 0)] at valid'
  refine ⟨_, compilePolicy_of_checked small read ?_ ?_ valid', rfl⟩
  · simp only [Option.getD_some, sameSpec]
    exact checked
  · simp only [Option.getD_some, sameSpec]
    rw [assemblePolicy_rename made, ← sameSpec]

variable (accepted : compilePolicy externals text marshalType counter spec = .ok policy)

include accepted

theorem compilePolicy_declaresOwner : DeclaresOwner policy := by
  obtain ⟨_, parsed, _, _, made, _⟩ := compilePolicy_ok accepted
  exact (assemblePolicy_ok made).2.2

theorem compilePolicy_slashFree : slash ∉ utf8 policy.id := by
  obtain ⟨_, parsed, _, _, made, _⟩ := compilePolicy_ok accepted
  rw [(assemblePolicy_ok made).1, generatePolicyId, utf8_hexText]
  exact slash_notMem_hexEncode _

end Compiled

/-! ## Counters -/

section Counts

variable {module final : AcpModule} {key : Bytes} {bound : Nat}

/-- A counter that has reached a bound; an absent one is zero. -/
def Counts (module : AcpModule) (key : Bytes) (bound : Nat) : Prop :=
  (module.store.get key = none ∧ bound = 0) ∨
    ∃ count : UInt64, module.store.get key = some (.counter count) ∧ bound ≤ count.toNat

theorem Counts.congr (counts : Counts module key bound)
    (same : final.store.get key = module.store.get key) :
    Counts final key bound := by
  unfold Counts
  rw [same]
  exact counts

theorem Counts.withStored {count : UInt64} (large : bound ≤ count.toNat) :
    Counts (module.withStored key (.counter count)) key bound := by
  refine .inr ⟨count, ?_, large⟩
  rw [withStored_get, if_pos rfl]

theorem Counts.lt_next {invalid exhausted : String} {next : UInt64}
    (counts : Counts module key bound)
    (counted : nextCounter key invalid exhausted module = .ok next) : bound < next.toNat := by
  obtain ⟨count, read, added⟩ := nextCounter_ok counted
  have step := checkedSucc_toNat added
  have enough : bound ≤ count.toNat := by
    unfold readCounter at read
    rcases counts with ⟨absent, zero⟩ | ⟨stored, present, large⟩
    · omega
    · rw [present] at read
      cases read
      exact large
  omega

end Counts

/-! ## Policies of a reachable module -/

section Sound

variable (externals : Externals)

/-- The stored policies and the cache agree, policies can be compiled again,
and their number is counted. -/
structure PoliciesSound (module : AcpModule) : Prop where
  stored : ∀ key value, InFamily .policy key →
    module.store.get key = some value →
      ∃ record, value = .policy record ∧ key = policyKey record.policy.id ∧
        module.cached record.policy.id = some record.policy ∧ Recompiles externals record
  cached : ∀ id policy, module.cached id = some policy →
    slash ∉ utf8 id ∧ policy.id = id ∧ DeclaresOwner policy ∧
      ∃ record, module.store.get (policyKey id) = some (.policy record) ∧ record.policy = policy
  named : ∀ key policy, module.zanzibarPolicies.get key = some policy → key = utf8 policy.id
  counted : Counts module policyCounterKey module.zanzibarPolicies.entries.length

variable {externals} {module final : AcpModule}

theorem PoliciesSound.new : PoliciesSound externals AcpModule.new where
  stored := by
    intro key value inFamily found
    cases found
  cached := by
    intro id policy found
    cases found
  named := by
    intro key policy found
    cases found
  counted := .inl ⟨rfl, rfl⟩

variable {families : List Family}

theorem PoliciesSound.recounted (sound : PoliciesSound externals module)
    (within : Within families module final) (unlisted : .policy ∉ families)
    (counted : Counts final policyCounterKey module.zanzibarPolicies.entries.length) :
    PoliciesSound externals final where
  stored := by
    intro key value inFamily found
    rw [within.get inFamily unlisted] at found
    obtain ⟨record, isPolicy, named, cachedHere, again⟩ := sound.stored key value inFamily found
    refine ⟨record, isPolicy, named, ?_, again⟩
    rw [within.cached]
    exact cachedHere
  cached := by
    intro id policy found
    rw [within.cached] at found
    rw [within.get (policyKey_inFamily id) unlisted]
    exact sound.cached id policy found
  named := by
    rw [within.cache]
    exact sound.named
  counted := by
    rw [within.cache]
    exact counted

theorem PoliciesSound.frame (sound : PoliciesSound externals module)
    (within : Within families module final) (unlisted : .policy ∉ families)
    (uncounted : .policyCounter ∉ families) : PoliciesSound externals final :=
  sound.recounted within unlisted
    (sound.counted.congr (within.get policyCounterKey_inFamily uncounted))

theorem withPolicy_get (policyId : String) (record : PolicyRecord) (key : Bytes) :
    (withPolicy policyId record module).store.get key =
      if key = policyKey policyId then some (.policy record)
      else module.store.get key :=
  withStored_get (policyKey policyId) key (.policy record)

theorem withPolicy_cached (policyId : String) (record : PolicyRecord) (id : String) :
    (withPolicy policyId record module).cached id =
      if id = policyId then some record.policy else module.cached id := by
  unfold AcpModule.cached withPolicy
  rw [OrderedMap.get_insert]
  simp only [utf8_inj]

theorem policyKey_injective : Function.Injective policyKey := by
  intro first second same
  unfold policyKey at same
  exact utf8_injective (List.append_cancel_left same)

theorem PoliciesSound.withPolicy (sound : PoliciesSound externals module) (record : PolicyRecord)
    (free : slash ∉ utf8 record.policy.id) (declares : DeclaresOwner record.policy)
    (again : Recompiles externals record)
    (counted : Counts module policyCounterKey
      (module.zanzibarPolicies.insert (utf8 record.policy.id) record.policy).entries.length) :
    PoliciesSound externals (withPolicy record.policy.id record module) where
  stored := by
    intro key value inFamily found
    rw [withPolicy_get] at found
    by_cases here : key = policyKey record.policy.id
    · rw [if_pos here] at found
      cases found
      refine ⟨record, rfl, here, ?_, again⟩
      rw [withPolicy_cached, if_pos rfl]
    · rw [if_neg here] at found
      obtain ⟨other, isPolicy, named, cachedHere, otherAgain⟩ :=
        sound.stored key value inFamily found
      refine ⟨other, isPolicy, named, ?_, otherAgain⟩
      have different : other.policy.id ≠ record.policy.id := by
        intro same
        exact here (same ▸ named)
      rw [withPolicy_cached, if_neg different]
      exact cachedHere
  cached := by
    intro id policy found
    rw [withPolicy_cached] at found
    rw [withPolicy_get]
    by_cases here : id = record.policy.id
    · rw [if_pos here] at found
      cases found
      rw [here, if_pos rfl]
      exact ⟨free, rfl, declares, record, rfl, rfl⟩
    · rw [if_neg here] at found
      rw [if_neg (policyKey_injective.ne here)]
      exact sound.cached id policy found
  named := by
    intro key policy found
    change (module.zanzibarPolicies.insert (utf8 record.policy.id)
      record.policy).get key = some policy at found
    rw [OrderedMap.get_insert] at found
    by_cases here : key = utf8 record.policy.id
    · rw [if_pos here] at found
      cases found
      exact here
    · rw [if_neg here] at found
      exact sound.named key policy found
  counted := by
    have different : policyCounterKey ≠ policyKey record.policy.id :=
      policyCounterKey_inFamily.ne (policyKey_inFamily _) (by decide)
    refine counted.congr ?_
    rw [withPolicy_get, if_neg different]

theorem getPolicyRecord_ok (found : getPolicyRecord id module = .ok (some record)) :
    module.store.get (policyKey id) = some (.policy record) ∧ record.policy.id = id := by
  unfold getPolicyRecord at found
  cases stored : module.store.get (policyKey id) with
  | none =>
    simp only [stored] at found
    cases found
  | some value =>
    simp only [stored] at found
    cases decoded : value.decodePolicy with
    | error message =>
      simp only [decoded] at found
      cases found
    | ok record =>
      simp only [decoded] at found
      obtain ⟨wrong, found⟩ := ifError_ok found
      cases found
      exact ⟨by rw [decodePolicy_ok decoded], not_not.mp wrong⟩

theorem getPolicyRecord_congr
    (same : final.store.get (policyKey id) = module.store.get (policyKey id)) :
    getPolicyRecord id final = getPolicyRecord id module := by
  unfold getPolicyRecord
  rw [same]

theorem PoliciesSound.of_record (sound : PoliciesSound externals module)
    (found : getPolicyRecord id module = .ok (some record)) :
    module.cached id = some record.policy := by
  obtain ⟨stored, identified⟩ := getPolicyRecord_ok found
  obtain ⟨other, same, _, cachedHere, _⟩ := sound.stored _ _ (policyKey_inFamily id) stored
  cases same
  rw [← identified]
  exact cachedHere

def ResourcesKept (module final : AcpModule) : Prop :=
  ∀ id policy, module.cached id = some policy →
    ∃ kept, final.cached id = some kept ∧
      ∀ resource ∈ policy.resources, ∃ other ∈ kept.resources, other.name = resource.name

theorem ResourcesKept.of_cache (same : final.zanzibarPolicies = module.zanzibarPolicies) :
    ResourcesKept module final := by
  intro id policy found
  refine ⟨policy, ?_, fun resource member => ⟨resource, member, rfl⟩⟩
  unfold AcpModule.cached at found ⊢
  rw [same]
  exact found

theorem removedResource_none {old new : Policy} (complete : removedResource old new = none) :
    ∀ resource ∈ old.resources, ∃ other ∈ new.resources, other.name = resource.name := by
  intro resource member
  have kept := List.find?_eq_none.mp complete resource member
  simpa using kept

section

variable (change : Change externals request module final)

include change

theorem Change.resourcesKept (sound : PoliciesSound externals module) :
    ResourcesKept module final := by
  cases change with
  | kept => exact .of_cache rfl
  | @policyCreated policy marshalType metadata counter compiled defined counted accepted fresh =>
    intro id policy found
    have different : id ≠ compiled.id := by
      intro same
      obtain ⟨_, _, _, record, stored, _⟩ := sound.cached id policy found
      rw [same, fresh] at stored
      cases stored
    refine ⟨policy, ?_, fun resource member => ⟨resource, member, rfl⟩⟩
    rw [withPolicy_cached, if_neg different]
    exact found
  | @policyEdited policyId policy marshalType existing compiled orphans
      defined found accepted complete selected =>
      intro id old cachedOld
      rw [withPolicy_cached]
      by_cases here : id = policyId
      · rw [if_pos here]
        rw [here, sound.of_record found] at cachedOld
        cases cachedOld
        exact ⟨_, rfl, removedResource_none complete⟩
      · rw [if_neg here, (pruned_within module selected).cached]
        exact ⟨old, cachedOld, fun resource member => ⟨resource, member, rfl⟩⟩
  | decided identified bounded => exact .of_cache rfl
  | paramsSet => exact .of_cache rfl
  | commanded submits validated dated applied => exact .of_cache applied.within.cache
  | expired chain => exact .of_cache chain.within.cache

/-- The families of policies, relationships, decisions and parameters. -/
def recordFamilies : List Family :=
  [.policy, .policyCounter, .relationship, .decision, .params]

/-- A change by what it does to commitments and amendments: a command, the
expiry of commitments, or nothing. -/
inductive CommitmentChange (externals : Externals) (request : Request)
    (module final : AcpModule) : Prop where
  | elsewhere (same : SameOutside recordFamilies module.store final.store)
  | commanded (submitted : Submission) (creator : Did)
      (metadata eventMetadata : RecordMetadata) (result : PolicyCmdResult)
      (submits : request.submission = some submitted)
      (dated : contextMetadata creator submitted.cmd module submitted.context =
        .ok (metadata, eventMetadata))
      (applied : Applied externals submitted.context.isSome creator
        submitted.policyId metadata eventMetadata module submitted.cmd result final)
  | expired (chain : Expires module final)

theorem Change.commitmentChange : CommitmentChange externals request module final := by
  cases change with
  | kept => exact .elsewhere .refl
  | @policyCreated policy marshalType metadata counter compiled defined counted accepted fresh =>
    have noted : Within recordFamilies module
        (module.withStored policyCounterKey (.counter counter)) :=
      Within.refl.withStored _ policyCounterKey_inFamily (by decide)
    exact .elsewhere (noted.outside.insert _ (policyKey_inFamily compiled.id) (by decide))
  | @policyEdited policyId policy marshalType existing compiled orphans
      defined found accepted complete selected =>
      have pruned : Within recordFamilies module (orphans.foldl withoutStored module) :=
        (pruned_within module selected).mono (by decide)
      exact .elsewhere (pruned.outside.insert _ (policyKey_inFamily policyId) (by decide))
  | decided identified bounded =>
    exact .elsewhere ((decided_within _).mono (by decide)).outside
  | paramsSet =>
    exact .elsewhere ((paramsSet_within _).mono (by decide)).outside
  | commanded submits validated dated applied =>
    exact .commanded _ _ _ _ _ submits dated applied
  | expired chain => exact .expired chain

theorem Change.policiesSound (sound : PoliciesSound externals module) :
    PoliciesSound externals final := by
  cases change with
  | kept => exact sound
  | @policyCreated policy marshalType metadata counter compiled defined counted accepted fresh =>
    have larger := sound.counted.lt_next counted
    have noted : Within [.policyCounter] module
        (module.withStored policyCounterKey (.counter counter)) :=
      Within.refl.withStored _ policyCounterKey_inFamily List.mem_cons_self
    have stillSound := sound.recounted noted (by decide) (Counts.withStored (by omega))
    refine stillSound.withPolicy ⟨compiled, policy, marshalType, metadata⟩
      (compilePolicy_slashFree accepted) (compilePolicy_declaresOwner accepted)
      (compilePolicy_recompiles metadata compiled.id accepted) (Counts.withStored ?_)
    have longer := OrderedMap.length_insert_le module.zanzibarPolicies (utf8 compiled.id) compiled
    exact longer.trans larger
  | @policyEdited policyId policy marshalType existing compiled orphans
      defined found accepted complete selected =>
      have cachedHere := sound.of_record found
      obtain ⟨free, identified, _, _⟩ := sound.cached _ _ cachedHere
      have pruned := pruned_within module selected
      have stillSound := sound.frame pruned (by decide) (by decide)
      refine stillSound.withPolicy
        ⟨{ compiled with id := policyId }, policy, marshalType, existing.metadata⟩ free
        (show DeclaresOwner compiled from
          compilePolicy_declaresOwner accepted)
        (compilePolicy_recompiles existing.metadata policyId accepted) ?_
      have sameLength := OrderedMap.length_insert_of_get
        ({ compiled with id := policyId } : Policy) cachedHere
      have counted := stillSound.counted
      rw [pruned.cache] at counted ⊢
      rw [sameLength]
      exact counted
  | decided identified bounded =>
    exact sound.frame (decided_within _) (by decide) (by decide)
  | paramsSet =>
    exact sound.frame (paramsSet_within _) (by decide) (by decide)
  | commanded submits validated dated applied =>
    exact sound.frame applied.within (by decide) (by decide)
  | expired chain =>
    exact sound.frame chain.within (by decide) (by decide)

end

theorem PoliciesSound.operations (sound : PoliciesSound externals module)
    (only : OperationsOnly module final) : PoliciesSound externals final :=
  sound.frame only.within (by decide) (by decide)

theorem PoliciesSound.effect (sound : PoliciesSound externals module)
    (effect : Effect externals request module final) :
    PoliciesSound externals final := by
  obtain ⟨before, after, first, change, last⟩ := effect.exists_change
  exact (change.policiesSound (sound.operations first)).operations last

theorem performAll_policiesSound (calls : List AcpCall) (sound : PoliciesSound externals module) :
    PoliciesSound externals (performAll externals module calls) := by
  refine List.foldlRecOn calls _ sound fun module sound call _ => ?_
  exact sound.effect (perform_effect externals module call)

end Sound

end AcpModule

end VeraHub.Acp
