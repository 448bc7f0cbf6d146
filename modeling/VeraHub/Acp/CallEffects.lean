import VeraHub.Acp.CommandEffects

/-!
# What calls can do

Every call is described by one change of the module's records, up to the
outcomes that delegated operations keep: a policy is created or edited, a
decision or the parameters are stored, a command is applied, or commitments
expire.
-/

namespace VeraHub.Acp

open VeraHub.Zanzibar
open Exec (Wp)

variable {id now : UInt64} {index key digest : Bytes} {keys : List Bytes} {α : Type}
  {context : BlockExecCtx} {delegation : Delegation} {policyId : String}

namespace AcpModule

/-! ## Changes -/

/-- A command as it was submitted: the policy it names, and the block and the
transaction unless it runs without a context. -/
structure Submission where
  policyId : String
  cmd : PolicyCmd
  context : Option (BlockExecCtx × TxExecCtx)

/-- A policy text as it was submitted, with the policy it replaces, if any. -/
structure Definition where
  replaced : Option String
  policy : String
  marshalType : PolicyMarshalingType

/-- What a call submits, and whether its identities passed the parser. -/
structure Request where
  authentic : Prop
  definition : Option Definition
  submission : Option Submission

/-- The module with a policy record and its cache entry. -/
def withPolicy (policyId : String) (record : PolicyRecord) (module : AcpModule) : AcpModule :=
  { module.withStored (policyKey policyId) (.policy record) with
    zanzibarPolicies := module.zanzibarPolicies.insert (utf8 policyId) record.policy }

/-- Commitments are marked as expired, one after the other. -/
inductive Expires : AcpModule → AcpModule → Prop
  | done {module : AcpModule} : Expires module module
  | step {module final : AcpModule} {old : RegistrationsCommitment}
      (found : getCommitmentById old.id module = .ok (some old))
      (rest : Expires (withCommitment (some old) { old with expired := true } module) final) :
      Expires module final

section Change

variable (externals : Externals) (request : Request)

/-- The one change of its records that a call makes. -/
inductive Change : AcpModule → AcpModule → Prop
  | kept {module : AcpModule} : Change module module
  | policyCreated {module : AcpModule} {policy : String}
      {marshalType : PolicyMarshalingType} {metadata : RecordMetadata}
      {counter : UInt64} {compiled : Policy}
      (defined : request.definition = some ⟨none, policy, marshalType⟩)
      (counted : nextPolicyCounter module = .ok counter)
      (accepted : compilePolicy externals policy marshalType counter none = .ok compiled)
      (fresh : module.store.get (policyKey compiled.id) = none) :
      Change module
        (withPolicy compiled.id ⟨compiled, policy, marshalType, metadata⟩
          (module.withStored policyCounterKey (.counter counter)))
  | policyEdited {module : AcpModule} {policyId policy : String}
      {marshalType : PolicyMarshalingType} {existing : PolicyRecord}
      {compiled : Policy} {orphans : List Bytes}
      (defined : request.definition = some ⟨some policyId, policy, marshalType⟩)
      (found : getPolicyRecord policyId module = .ok (some existing))
      (accepted : compilePolicy externals policy marshalType 0
        (some existing.policy.specification) = .ok compiled)
      (complete : removedResource existing.policy compiled = none)
      (selected : selectKeys externals policyId "relationship record differs from its key"
        (fun relationship =>
          (({ compiled with id := policyId } : Policy).getRelation
            relationship.resource relationship.relation).isNone)
        (module.scan (relationshipPolicyPrefix policyId)) = .ok orphans) :
      Change module
        (withPolicy policyId
          ⟨{ compiled with id := policyId }, policy, marshalType, existing.metadata⟩
          (orphans.foldl withoutStored module))
  | decided {module : AcpModule} {decision : AccessDecision}
      (identified : ∃ input, decision.id = hexText (externals.hashing.sha256 input))
      (bounded : (borshDecision decision).length ≤ 64 * 1024 + 44 + (utf8 decision.id).length) :
      Change module (module.withStored (accessDecisionKey decision.id) (.decision decision))
  | paramsSet {module : AcpModule} {params : AcpParams} :
      Change module (module.withStored paramsKey (.params params))
  | commanded {module final : AcpModule} {submitted : Submission}
      {creator : Did} {metadata eventMetadata : RecordMetadata} {result : PolicyCmdResult}
      (submits : request.submission = some submitted)
      (validated : request.authentic → didAccepts creator.asStr = true)
      (dated : contextMetadata creator submitted.cmd module submitted.context =
        .ok (metadata, eventMetadata))
      (applied : Applied externals submitted.context.isSome creator
        submitted.policyId metadata eventMetadata module submitted.cmd result final) :
      Change module final
  | expired {module final : AcpModule} (chain : Expires module final) : Change module final


variable {externals request}

theorem createPolicyWithMetadata_change (policy : String)
    (marshalType : PolicyMarshalingType) (metadata : RecordMetadata) (module : AcpModule)
    (defined : request.definition = some ⟨none, policy, marshalType⟩) :
    Wp (createPolicyWithMetadata externals policy marshalType metadata)
      (fun _ final => Change externals request module final) module := by
  refine Wp.query (fun _ _ => .kept) fun counter counted => ?_
  refine Wp.ofExcept (fun _ _ => .kept) fun compiled accepted => ?_
  refine Wp.gets (Wp.failIf (fun _ => .kept) fun absent => ?_)
  refine Wp.modify (Wp.modify (Wp.modify (Wp.pure ?_)))
  have fresh : module.store.get (policyKey compiled.id) = none := by
    simpa using absent
  exact .policyCreated defined counted accepted fresh

theorem editPolicy_change (creator : Did) (policyId policy : String)
    (marshalType : PolicyMarshalingType) (module : AcpModule)
    (defined : request.definition = some ⟨some policyId, policy, marshalType⟩) :
    Wp (editPolicy externals creator policyId policy marshalType)
      (fun _ final => Change externals request module final) module := by
  refine Wp.query (fun _ _ => .kept) fun existing found => ?_
  cases existing with
  | none => exact Wp.fail .kept
  | some existing =>
    refine Wp.failIf (fun _ => .kept) fun _ => ?_
    refine Wp.ofExcept (fun _ _ => .kept) fun compiled accepted => ?_
    cases complete : removedResource existing.policy compiled with
    | some resource => exact Wp.fail .kept
    | none =>
      refine Wp.query (fun _ _ => .kept) fun orphans selected => ?_
      refine Wp.modify (Wp.modify (Wp.modify (Wp.pure ?_)))
      exact .policyEdited defined found accepted complete selected

theorem decisionRequest_id_ok {sha256 : Bytes → Bytes} {expected : DecisionRequest} {id : String}
    (identified : expected.id sha256 = .ok id) :
    expected.encoded.length ≤ 64 * 1024 ∧ ∃ input, id = hexText (sha256 input) := by
  unfold DecisionRequest.id at identified
  obtain ⟨_, identified⟩ := ifError_ok identified
  obtain ⟨_, identified⟩ := ifError_ok identified
  obtain ⟨_, identified⟩ := ifError_ok identified
  rename_i _ _ short
  cases identified
  exact ⟨Nat.le_of_not_gt short, _, rfl⟩

theorem length_leBytes (value : UInt64) : (leBytes value).length = 8 := by
  rw [leBytes, List.length_reverse, length_beBytes]

theorem length_borshString (text : String) :
    (borshString text).length = 4 + (utf8 text).length := by
  simp [borshString, borshLength]

theorem checkAccess_change (creator : Did) (policyId : String)
    (asked : AccessRequest) (block : BlockExecCtx) (tx : TxExecCtx) (module : AcpModule) :
    Wp (checkAccess externals creator policyId asked block tx)
      (fun _ final => Change externals request module final) module := by
  refine Wp.failIf (fun _ => .kept) fun _ => ?_
  refine Wp.ofExcept (fun _ _ => .kept) fun decisionId identified => ?_
  refine Wp.query (fun _ _ => .kept) fun policy _ => ?_
  refine Wp.query (fun _ _ => .kept) fun _ _ => ?_
  refine Wp.modify (Wp.pure ?_)
  obtain ⟨short, input, digest⟩ := decisionRequest_id_ok identified
  refine .decided ⟨input, digest⟩ ?_
  simp only [DecisionRequest.encoded, List.length_append, length_leBytes,
    length_borshString] at short
  simp only [borshDecision, List.length_append, length_leBytes, length_borshString]
  omega

end Change

/-! ## Expiry -/

section Expiry

variable {module : AcpModule}

/-- A commitment that may be marked as expired in the current state: it is the
stored one up to the mark. -/
def Markable (module : AcpModule) (marked : RegistrationsCommitment) : Prop :=
  ∃ old, getCommitmentById marked.id module = .ok (some old) ∧ marked = { old with expired := true }

theorem getCommitmentById_ok {commitment : RegistrationsCommitment}
    (found : getCommitmentById id module = .ok (some commitment)) :
    module.store.get (commitmentKey id) = some (.commitment commitment) ∧
      id ≠ 0 ∧ commitment.id = id ∧ commitment.commitment.length = 32 := by
  unfold getCommitmentById at found
  cases stored : module.store.get (commitmentKey id) with
  | none =>
    rw [stored] at found
    cases found
  | some value =>
    rw [stored] at found
    cases value with
    | commitment record =>
      simp only [StoredValue.decodeCommitment] at found
      obtain ⟨sound, found⟩ := ifError_ok found
      cases found
      push Not at sound
      exact ⟨rfl, sound.1, sound.2.1, sound.2.2⟩
    | _ => cases found

theorem withoutIndexes_get (old : RegistrationsCommitment) (key : Bytes) :
    (withoutIndexes (some old) module).store.get key =
      if key = commitmentByCommitmentIndexKey old.commitment old.id then none
      else if key = commitmentExpiryKey old then none
      else module.store.get key := by
  rw [withoutIndexes, withoutStored_get, withoutStored_get]

theorem withDeadline_get (commitment : RegistrationsCommitment) (key : Bytes) :
    (withDeadline commitment module).store.get key =
      if commitment.expired = false ∧ key = commitmentExpiryKey commitment then
        some .empty
      else module.store.get key := by
  unfold withDeadline
  by_cases expired : commitment.expired = true
  · simp [expired]
  · simp only [expired, true_and]
    exact withStored_get _ _ _

theorem withCommitment_get (previous : Option RegistrationsCommitment)
    (commitment : RegistrationsCommitment) (key : Bytes) :
    (withCommitment previous commitment module).store.get key =
      if key = commitmentKey commitment.id then some (.commitment commitment)
      else if key = commitmentByCommitmentIndexKey commitment.commitment
          commitment.id then some .empty
      else if commitment.expired = false ∧ key = commitmentExpiryKey commitment then some .empty
      else (withoutIndexes previous module).store.get key := by
  rw [withCommitment, withStored_get, withStored_get, withDeadline_get]

theorem withCommitment_get_other (previous : Option RegistrationsCommitment)
    (commitment : RegistrationsCommitment) (different : id ≠ commitment.id) :
    (withCommitment previous commitment module).store.get (commitmentKey id) =
      module.store.get (commitmentKey id) := by
  have keyFamily := commitmentKey_inFamily id
  have notRecord : commitmentKey id ≠ commitmentKey commitment.id := by
    intro same
    exact different (beBytes_injective (List.append_cancel_left same))
  have notExpiry := keyFamily.ne_commitmentExpiryKey (by decide) (by decide)
  have notRoot : ∀ root (other : UInt64),
      commitmentKey id ≠ commitmentByCommitmentIndexKey root other :=
    fun root other => keyFamily.ne (commitmentByCommitmentIndexKey_inFamily root other) (by decide)
  rw [withCommitment_get, if_neg notRecord, if_neg (notRoot _ _),
    if_neg fun dated => notExpiry commitment dated.2]
  cases previous with
  | none => rfl
  | some old =>
    rw [withoutIndexes_get, if_neg (notRoot _ _), if_neg (notExpiry old)]

theorem getCommitmentById_congr {first second : AcpModule}
    (same : first.store.get (commitmentKey id) = second.store.get (commitmentKey id)) :
    getCommitmentById id first = getCommitmentById id second := by
  unfold getCommitmentById
  rw [same]

variable {marked : RegistrationsCommitment}

theorem Markable.withCommitment {other : RegistrationsCommitment}
    (markable : Markable module marked) (otherMarkable : Markable module other)
    (previous : Option RegistrationsCommitment) :
    Markable (withCommitment previous marked module) other := by
  obtain ⟨old, found, same⟩ := markable
  obtain ⟨otherOld, otherFound, otherSame⟩ := otherMarkable
  by_cases sameId : other.id = marked.id
  · rw [sameId, found] at otherFound
    cases otherFound
    obtain ⟨_, positive, _, width⟩ := getCommitmentById_ok found
    have markedWidth : marked.commitment.length = 32 := by
      rw [same]
      exact width
    refine ⟨marked, ?_, ?_⟩
    · rw [sameId]
      exact getCommitmentById_stored (withCommitment_get_self _ _) positive rfl markedWidth
    · rw [otherSame, same]
  · refine ⟨otherOld, ?_, otherSame⟩
    rw [← otherFound]
    exact getCommitmentById_congr (withCommitment_get_other _ _ sameId)

theorem expiredEntry_markable {start : Bytes} {current : UInt64} {value : StoredValue}
    (listed : expiredEntry start current module index value = .ok (some marked)) :
    Markable module marked := by
  unfold expiredEntry at listed
  split at listed
  · cases listed
  split at listed
  · cases listed
  cases parsed : fromBeBytes (index.drop (start.length + 8)) with
  | none => simp only [parsed] at listed; cases listed
  | some id =>
    simp only [parsed] at listed
    cases looked : getCommitmentById id module with
    | error failure => simp only [looked] at listed; cases listed
    | ok found =>
      cases found with
      | none => simp only [looked] at listed; cases listed
      | some record =>
        simp only [looked] at listed
        obtain ⟨_, listed⟩ := ifError_ok listed
        cases listed
        have sameId := (getCommitmentById_ok looked).2.2.1
        exact ⟨record, sameId ▸ looked, rfl⟩

theorem collectExpired_markable {start : Bytes} {current : UInt64}
    {entries : List (Bytes × StoredValue)} {expired : List RegistrationsCommitment}
    (collected : collectExpired start current module entries = .ok expired) :
    ∀ marked ∈ expired, Markable module marked := by
  induction entries generalizing expired with
  | nil =>
    cases collected
    intro marked member
    cases member
  | cons entry rest ih =>
    obtain ⟨index, value⟩ := entry
    unfold collectExpired at collected
    cases listed : expiredEntry start current module index value with
    | error failure => simp only [listed] at collected; cases collected
    | ok found =>
      cases found with
      | none =>
        simp only [listed] at collected
        cases collected
        intro marked member
        cases member
      | some first =>
        simp only [listed] at collected
        cases others : collectExpired start current module rest with
        | error failure =>
          simp only [others] at collected
          cases collected
        | ok remaining =>
          simp only [others] at collected
          cases collected
          intro marked member
          rcases List.mem_cons.mp member with atHead | inTail
          · rw [atHead]
            exact expiredEntry_markable listed
          · exact ih others marked inTail

theorem updateCommitments_expires (marks : List RegistrationsCommitment)
    (markable : ∀ marked ∈ marks, Markable module marked) :
    Wp (updateCommitments marks) (fun _ final => Expires module final) module := by
  induction marks generalizing module with
  | nil => exact Wp.pure .done
  | cons marked rest ih =>
    have first := markable marked List.mem_cons_self
    obtain ⟨old, found, same⟩ := first
    have sameId : old.id = marked.id := (getCommitmentById_ok found).2.2.1
    refine Wp.bind (updateCommitment_wp ?_ ?_)
    · intro failure looked
      exact .done
    · intro previous looked
      rw [found] at looked
      cases looked
      have others : ∀ other ∈ rest,
          Markable (withCommitment (some old) marked module) other := by
        intro other member
        exact Markable.withCommitment ⟨old, found, same⟩
          (markable other (List.mem_cons_of_mem marked member)) _
      refine (ih others).weaken ?_
      intro result final chain
      rw [← sameId] at found
      refine .step found ?_
      rw [← same]
      exact chain

theorem expireCommitments_expires (now : Timestamp) :
    Wp (expireCommitments now) (fun _ final => Expires module final) module := by
  refine Wp.query (fun _ _ => .done) fun bySeconds secondsFound => ?_
  refine Wp.query (fun _ _ => .done) fun byHeight heightFound => ?_
  refine Wp.bind ((updateCommitments_expires _ ?_).weaken ?_)
  · intro marked member
    rcases List.mem_append.mp member with inSeconds | inHeight
    · exact collectExpired_markable secondsFound marked inSeconds
    · exact collectExpired_markable heightFound marked inHeight
  · intro result final chain
    cases result with
    | error failure => exact chain
    | ok value => exact Wp.pure chain

end Expiry

/-! ## Operation outcomes -/

section Operations

variable {externals : Externals} {module middle final : AcpModule}

def operationFamilies : List Family :=
  [.operation, .operationExpiry, .operationBytes, .operationBudget]

/-- Only kept outcomes, their index and their accounting differ. -/
structure OperationsOnly (module final : AcpModule) : Prop where
  policies : final.zanzibarPolicies = module.zanzibarPolicies
  outside : SameOutside operationFamilies module.store final.store

theorem OperationsOnly.refl : OperationsOnly module module :=
  ⟨rfl, .refl⟩

theorem OperationsOnly.withStored {family : Family} {key : Bytes}
    (only : OperationsOnly module middle) (value : StoredValue)
    (inFamily : InFamily family key) (listed : family ∈ operationFamilies) :
    OperationsOnly module (middle.withStored key value) :=
  ⟨only.policies, only.outside.insert value inFamily listed⟩

theorem OperationsOnly.foldl_withoutStored (only : OperationsOnly module middle)
    (listed : ∀ key ∈ keys, ∃ family ∈ operationFamilies, InFamily family key) :
    OperationsOnly module (keys.foldl withoutStored middle) := by
  induction keys generalizing middle with
  | nil => exact only
  | cons key rest ih =>
    obtain ⟨family, member, inFamily⟩ := listed key List.mem_cons_self
    apply ih
    · exact ⟨only.policies, only.outside.erase inFamily member⟩
    · intro other inRest
      exact listed other (List.mem_cons_of_mem key inRest)

theorem operationKey_inFamily {actor : String} {id : Bytes}
    (named : operationKey externals actor id = .ok key) :
    InFamily .operation key := by
  unfold operationKey at named
  cases parsed : Did.new actor with
  | error failure => simp only [parsed] at named; cases named
  | ok did =>
    simp only [parsed] at named
    split at named
    · cases issuer : externals.canonicalIssuer actor with
      | error message => simp only [issuer] at named; cases named
      | ok canonical =>
        simp only [issuer] at named
        cases named
        unfold InFamily
        rw [List.append_assoc]
        exact List.prefix_append _ _
    · cases named
      unfold InFamily
      rw [List.append_assoc]
      exact List.prefix_append _ _

theorem operationExpiryKey_inFamily (id key : Bytes) :
    InFamily .operationExpiry (operationExpiryKey id key) := by
  unfold InFamily operationExpiryKey
  rw [List.append_assoc]
  exact List.prefix_append _ _

theorem completeOperation_only {actor : String} {record : OperationRecord} :
    Wp (completeOperation externals actor record)
      (fun _ final => OperationsOnly module final) module := by
  refine Wp.ofExcept (fun _ _ => .refl) fun key named => ?_
  refine Wp.query (fun _ _ => .refl) fun retained _ => ?_
  refine Wp.modify (Wp.modify ?_)
  have start : OperationsOnly module module := .refl
  have stored := start.withStored (.operation record) (operationKey_inFamily named) (by decide)
  have indexed := stored.withStored (.reference key)
    (operationExpiryKey_inFamily record.id key) (by decide)
  exact indexed.withStored (.counter retained) operationBytesKey_inFamily (by decide)

/-- A pruned entry is well formed and its deadline has passed. -/
def Prunable (now : UInt64) (index key : Bytes) : Prop :=
  wellFormedReference index key = true ∧ expiryOf index ≤ beBytes now

theorem Prunable.inFamily (prunable : Prunable now index key) : InFamily .operation key := by
  have formed := prunable.1
  simp only [wellFormedReference, Bool.and_eq_true] at formed
  exact List.isPrefixOf_iff_prefix.mp formed.1.1.2

theorem expiredOutcome_prunable {value : StoredValue} {removed total : Nat}
    (listed : expiredOutcome externals now module index value removed = .ok (some (key, total))) :
    Prunable now index key := by
  unfold expiredOutcome at listed
  obtain ⟨short, listed⟩ := ifError_ok listed
  by_cases later : beBytes now < expiryOf index
  · rw [if_pos later] at listed
    cases listed
  rw [if_neg later] at listed
  cases value with
  | reference held =>
    by_cases malformed : wellFormedReference index held = false
    · simp only [malformed, if_true] at listed
      cases listed
    cases stored : module.store.get held with
    | none =>
      simp only [malformed, stored, if_false] at listed
      cases listed
    | some record =>
      by_cases overflow : 2 ^ 64 ≤ removed + externals.encodedLength record
      · simp only [malformed, stored, overflow, if_true] at listed
        cases listed
      · simp only [malformed, stored, overflow, if_false] at listed
        cases listed
        exact ⟨Bool.not_eq_false _ ▸ malformed, not_lt.mp later⟩
  | _ => cases listed

theorem collectOutcomes_prunable
    {entries : List (Bytes × StoredValue)} {removed total : Nat} {expired : List (Bytes × Bytes)}
    (scanned : ∀ entry ∈ entries, InFamily .operationExpiry entry.1)
    (collected : collectOutcomes externals now module entries removed = .ok (expired, total)) :
    ∀ pair ∈ expired, InFamily .operationExpiry pair.1 ∧ Prunable now pair.1 pair.2 := by
  induction entries generalizing removed total expired with
  | nil =>
    cases collected
    intro pair member
    cases member
  | cons entry rest ih =>
    obtain ⟨index, value⟩ := entry
    unfold collectOutcomes at collected
    cases listed : expiredOutcome externals now module index value removed with
    | error failure => simp only [listed] at collected; cases collected
    | ok found =>
      cases found with
      | none =>
        simp only [listed] at collected
        cases collected
        intro pair member
        cases member
      | some first =>
        obtain ⟨key, sum⟩ := first
        simp only [listed] at collected
        cases others : collectOutcomes externals now module rest sum with
        | error failure =>
          simp only [others] at collected
          cases collected
        | ok remaining =>
          obtain ⟨restEntries, all⟩ := remaining
          simp only [others] at collected
          cases collected
          have restScanned : ∀ entry ∈ rest,
              InFamily .operationExpiry entry.1 :=
            fun entry inRest =>
              scanned entry (List.mem_cons_of_mem _ inRest)
          intro pair member
          rcases List.mem_cons.mp member with atHead | inTail
          · rw [atHead]
            exact ⟨scanned _ List.mem_cons_self, expiredOutcome_prunable listed⟩
          · exact ih restScanned others pair inTail

theorem prunedOutcomes_prunable {retained : UInt64}
    (pruned : prunedOutcomes externals now module = .ok (some (keys, retained))) :
    ∀ key ∈ keys, InFamily .operationExpiry key ∨ ∃ index, Prunable now index key := by
  unfold prunedOutcomes at pruned
  cases collected : collectOutcomes externals now module
      ((module.scan operationExpiryPrefix).take operationPruneLimit) 0 with
  | error failure => simp only [collected] at pruned; cases pruned
  | ok result =>
    obtain ⟨expired, removed⟩ := result
    have scanned : ∀ entry ∈ (module.scan operationExpiryPrefix).take operationPruneLimit,
        InFamily .operationExpiry entry.1 := by
      intro entry member
      exact (OrderedMap.mem_prefixScan_iff.mp (List.mem_of_mem_take member)).1
    have listed := collectOutcomes_prunable scanned collected
    simp only [collected] at pruned
    by_cases none : expired = []
    · rw [if_pos none] at pruned
      cases pruned
    rw [if_neg none] at pruned
    cases counted : operationBytes module with
    | error failure => simp only [counted] at pruned; cases pruned
    | ok bytes =>
      simp only [counted] at pruned
      obtain ⟨underflow, pruned⟩ := ifError_ok pruned
      cases pruned
      intro key member
      obtain ⟨pair, inExpired, inPair⟩ := List.mem_flatMap.mp member
      obtain ⟨inFamily, prunable⟩ := listed pair inExpired
      rcases List.mem_pair.mp inPair with isRecord | isIndex
      · exact .inr ⟨pair.1, isRecord ▸ prunable⟩
      · exact .inl (isIndex ▸ inFamily)

theorem prunedOutcomes_inFamily {retained : UInt64}
    (pruned : prunedOutcomes externals now module = .ok (some (keys, retained))) :
    ∀ key ∈ keys, ∃ family ∈ operationFamilies, InFamily family key := by
  intro key member
  rcases prunedOutcomes_prunable pruned key member with
    isIndex | ⟨index, prunable⟩
  · exact ⟨.operationExpiry, by decide, isIndex⟩
  · exact ⟨.operation, by decide, prunable.inFamily⟩

theorem pruneOperations_only :
    Wp (pruneOperations externals now)
      (fun _ final => OperationsOnly module final) module := by
  refine Wp.query (fun _ _ => .refl) fun pruned found => ?_
  cases pruned with
  | none => exact Wp.pure .refl
  | some outcome =>
    obtain ⟨keys, retained⟩ := outcome
    refine Wp.modify ?_
    have start : OperationsOnly module module := .refl
    exact (start.foldl_withoutStored
      (prunedOutcomes_inFamily found)).withStored (.counter retained)
        operationBytesKey_inFamily (by decide)

theorem setOperationBudget_only {bytes : UInt64} :
    Wp (setOperationBudget bytes) (fun _ final => OperationsOnly module final) module := by
  refine Wp.failIf (fun _ => .refl) fun _ => ?_
  refine Wp.query (fun _ _ => .refl) fun retained _ => ?_
  refine Wp.failIf (fun _ => .refl) fun _ => ?_
  have start : OperationsOnly module module := .refl
  exact start.withStored (.counter bytes) operationBudgetKey_inFamily (by decide)

end Operations

/-! ## Effects of calls -/

section Effect

variable (externals : Externals)

/-- A call changes its records once, and kept outcomes around that. -/
structure Effect (request : Request) (module final : AcpModule) : Prop where
  exists_change : ∃ before after,
    OperationsOnly module before ∧ Change externals request before after ∧
      OperationsOnly after final

variable {externals} {request : Request} {module final : AcpModule}

theorem Effect.of_change (change : Change externals request module final) :
    Effect externals request module final :=
  ⟨module, final, .refl, change, .refl⟩

theorem Effect.of_operations (only : OperationsOnly module final) :
    Effect externals request module final :=
  ⟨module, module, .refl, .kept, only⟩

theorem Effect.kept : Effect externals request module module :=
  .of_change .kept

theorem parseIdentity_ok {text : String} {did : Did} (parsed : parseIdentity text = .ok did) :
    didAccepts did.asStr = true := by
  unfold parseIdentity Did.new at parsed
  by_cases accepted : didAccepts text = true
  · simp only [accepted, dite_true] at parsed
    cases parsed
    exact accepted
  · simp only [accepted, dite_false] at parsed
    cases parsed

theorem restoring_eq (body : AcpM α) : restoring body = Exec.restoring body := by
  funext module
  unfold restoring Exec.restoring Exec.run
  rcases body module with ⟨_ | _, _⟩ <;> rfl

variable {submission : TxExecCtx} {toResult : α → OperationResult} {body : Did → AcpM α}

/-- A delegated body that fails is undone; one that succeeds keeps its outcome
besides its change. -/
theorem performDelegated_effect {actor : Did} {kept : Option Bytes}
    (changes : Wp (body actor) (fun _ final => Change externals request module final) module) :
    Wp
      (performDelegated externals toResult context submission delegation digest actor kept body)
      (fun _ final => Effect externals request module final) module := by
  unfold performDelegated
  rw [restoring_eq]
  refine Wp.restoring (Wp.bind (changes.weaken ?_))
  intro result middle change
  cases result with
  | error failure => exact Effect.kept
  | ok value =>
    cases kept with
    | none =>
      refine Wp.ofExcept (fun _ _ => .kept) fun _ _ => ?_
      exact Wp.pure (.of_change change)
    | some id =>
      refine Wp.bind (completeOperation_only.weaken ?_)
      intro completed final only
      cases completed with
      | error failure => exact Effect.kept
      | ok done =>
        refine Wp.ofExcept (fun _ _ => .kept) fun _ _ => ?_
        exact Wp.pure ⟨module, middle, .refl, change, only⟩

theorem withDelegation_effect {fromResult : OperationResult → Except String α}
    (changes : ∀ actor, didAccepts actor.asStr = true →
      Wp (body actor) (fun _ final => Change externals request module final) module) :
    Wp (withDelegation externals toResult fromResult context submission delegation digest body)
      (fun _ final => Effect externals request module final) module := by
  refine Wp.ofExcept (fun _ _ => .kept) fun _ _ => ?_
  refine Wp.ofExcept (fun _ _ => .kept) fun claims _ => ?_
  refine Wp.ofExcept (fun _ _ => .kept) fun actor parsed => ?_
  refine Wp.ofExcept (fun _ _ => .kept) fun _ _ => ?_
  have changed := changes actor (parseIdentity_ok parsed)
  cases claims.request with
  | none => exact performDelegated_effect changed
  | some id =>
    refine Wp.failIf (fun _ => .kept) fun _ => ?_
    refine Wp.query (fun _ _ => .kept) fun record _ => ?_
    cases record with
    | some record => exact Effect.kept
    | none => exact performDelegated_effect changed

theorem directPolicyCmd_change {creator : Did} {cmd : PolicyCmd}
    (submits : request.submission = some ⟨policyId, cmd, none⟩)
    (validated : request.authentic → didAccepts creator.asStr = true) :
    Wp (directPolicyCmd externals creator policyId cmd)
      (fun _ final => Change externals request module final) module := by
  refine (directPolicyCmd_applied cmd).weaken ?_
  intro result final outcome
  cases result with
  | error failure =>
    rw [show final = module from outcome]
    exact .kept
  | ok value => exact .commanded submits validated rfl outcome

variable {block : BlockExecCtx}

theorem executePolicyCmd_change {actor : Did} {cmd : PolicyCmd}
    (submits : request.submission = some ⟨policyId, cmd, some (block, submission)⟩)
    (validated : request.authentic → didAccepts actor.asStr = true) :
    Wp (executePolicyCmd externals actor policyId cmd block submission)
      (fun _ final => Change externals request module final) module := by
  refine (executePolicyCmd_applied cmd block submission).weaken ?_
  intro result final outcome
  cases result with
  | error failure =>
    rw [show final = module from outcome]
    exact .kept
  | ok value =>
    obtain ⟨metadata, eventMetadata, dated, applied⟩ := outcome
    exact .commanded submits validated dated applied

theorem bearerCreatePolicy_effect {policy : String} {marshalType : PolicyMarshalingType}
    (defined : request.definition = some ⟨none, policy, marshalType⟩) :
    Wp (bearerCreatePolicy externals context submission delegation digest policy marshalType)
      (fun _ final => Effect externals request module final) module := by
  refine Wp.failIf (fun _ => .kept) fun _ => ?_
  exact withDelegation_effect fun actor _ =>
    createPolicyWithMetadata_change policy marshalType _ module defined

theorem bearerCheckAccess_effect {asked : AccessRequest} :
    Wp (bearerCheckAccess externals context submission delegation digest policyId asked)
      (fun _ final => Effect externals request module final) module := by
  refine Wp.ofExcept (fun _ _ => .kept) fun worker _ => ?_
  exact withDelegation_effect fun actor _ =>
    checkAccess_change worker policyId asked context submission module

theorem endBlocker_effect :
    Wp (endBlocker externals block)
      (fun _ final => Effect externals request module final) module := by
  refine Wp.bind (pruneOperations_only.weaken ?_)
  intro pruned middle only
  cases pruned with
  | error failure => exact .of_operations only
  | ok done =>
    refine (expireCommitments_expires block.timestamp).weaken ?_
    intro result final chain
    exact ⟨middle, final, only, .expired chain, .refl⟩

end Effect

end AcpModule

/-! ## Calls -/

namespace AcpCall

/-- The identity that a call runs a command for, unless the module parses it
itself. -/
def actor : AcpCall → Option Did
  | .directPolicyCmd creator _ _ => some creator
  | .executePolicyCmd actor _ _ _ _ => some actor
  | _ => none

/-- Callers pass identities that the parser has accepted. -/
def Authenticated (call : AcpCall) : Prop :=
  ∀ did ∈ call.actor, didAccepts did.asStr = true

def submission : AcpCall → Option AcpModule.Submission
  | .directPolicyCmd _ policyId cmd => some ⟨policyId, cmd, none⟩
  | .executePolicyCmd _ policyId cmd block submission =>
    some ⟨policyId, cmd, some (block, submission)⟩
  | .bearerPolicyCmd context submission _ _ policyId cmd =>
    some ⟨policyId, cmd, some (context, submission)⟩
  | _ => none

def definition : AcpCall → Option AcpModule.Definition
  | .createPolicy _ policy marshalType => some ⟨none, policy, marshalType⟩
  | .editPolicy _ policyId policy marshalType =>
    some ⟨some policyId, policy, marshalType⟩
  | .bearerCreatePolicy _ _ _ _ policy marshalType =>
    some ⟨none, policy, marshalType⟩
  | .bearerEditPolicy _ _ _ _ policyId policy marshalType =>
    some ⟨some policyId, policy, marshalType⟩
  | _ => none

def request (call : AcpCall) : AcpModule.Request :=
  ⟨call.Authenticated, call.definition, call.submission⟩

end AcpCall

namespace AcpModule

theorem perform_effect (externals : Externals) (module : AcpModule) (call : AcpCall) :
    Effect externals call.request module (perform externals module call) := by
  cases call with
  | createPolicy creator policy marshalType =>
    exact .of_change (createPolicyWithMetadata_change policy marshalType
      (plainMetadata creator) module rfl)
  | editPolicy creator policyId policy marshalType =>
    exact .of_change (editPolicy_change creator policyId policy marshalType module rfl)
  | checkAccess creator policyId request block tx =>
    exact .of_change (checkAccess_change creator policyId request block tx module)
  | directPolicyCmd creator policyId cmd =>
    exact .of_change (directPolicyCmd_change rfl fun authenticated => authenticated creator rfl)
  | executePolicyCmd actor policyId cmd block submission =>
    exact .of_change (executePolicyCmd_change rfl fun authenticated => authenticated actor rfl)
  | endBlocker block => exact endBlocker_effect
  | setParams params => exact .of_change .paramsSet
  | setOperationBudget bytes => exact .of_operations setOperationBudget_only
  | bearerCreatePolicy context submission delegation digest policy marshalType =>
    exact bearerCreatePolicy_effect rfl
  | bearerEditPolicy context submission delegation digest policyId policy marshalType =>
    exact withDelegation_effect fun actor _ =>
      editPolicy_change actor policyId policy marshalType module rfl
  | bearerPolicyCmd context submission delegation digest policyId cmd =>
    exact withDelegation_effect fun actor accepted =>
      executePolicyCmd_change rfl fun _ => accepted
  | bearerCheckAccess context submission delegation digest policyId request =>
    exact bearerCheckAccess_effect
  | foreignDelegated context submission delegation digest outcome =>
    exact withDelegation_effect fun actor _ => .kept

end AcpModule

end VeraHub.Acp
