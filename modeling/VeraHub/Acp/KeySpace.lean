import VeraHub.Acp.RecordStore

/-!
# The key space of the module

Every key begins with the header of one family, and no header begins with
another one, so writes in one family leave the others alone.  Within the
relationship family the separators make the scanned prefixes exact.
-/

namespace VeraHub.Acp

open VeraHub.Zanzibar

/-! ## Families -/

/-- The kinds of keys the module writes. -/
inductive Family where
  | policy
  | policyCounter
  | relationship
  | decision
  | params
  | commitment
  | commitmentCounter
  | commitmentRoot
  | expirySeconds
  | expiryHeight
  | amendment
  | amendmentCounter
  | amendmentPolicy
  | operation
  | operationExpiry
  | operationBytes
  | operationBudget
deriving DecidableEq

/-- The bytes that every key of a family begins with. -/
def Family.header : Family → Bytes
  | .policy => policyPrefix
  | .policyCounter => policyCounterKey
  | .relationship => relationshipPrefix
  | .decision => accessDecisionPrefix
  | .params => paramsKey
  | .commitment => commitmentObjects
  | .commitmentCounter => commitmentCounterKey
  | .commitmentRoot => commitmentRoots
  | .expirySeconds => secondsPrefix
  | .expiryHeight => heightPrefix
  | .amendment => amendmentEventObjects
  | .amendmentCounter => amendmentEventCounterKey
  | .amendmentPolicy => amendmentEventPolicies
  | .operation => operationPrefix
  | .operationExpiry => operationExpiryPrefix
  | .operationBytes => operationBytesKey
  | .operationBudget => operationBudgetKey

def InFamily (family : Family) (key : Bytes) : Prop :=
  family.header <+: key

def Family.all : List Family :=
  [.policy, .policyCounter, .relationship, .decision, .params, .commitment,
    .commitmentCounter, .commitmentRoot, .expirySeconds, .expiryHeight,
    .amendment, .amendmentCounter, .amendmentPolicy, .operation,
    .operationExpiry, .operationBytes, .operationBudget]

theorem Family.mem_all (family : Family) : family ∈ Family.all := by
  cases family <;> decide

theorem header_apart (first second : Family) (different : first ≠ second) :
    Apart first.header second.header := by
  have listed : ∀ left ∈ Family.all, ∀ right ∈ Family.all, left ≠ right →
        Apart left.header right.header := by
    decide +kernel
  exact listed first first.mem_all second second.mem_all different

variable {key : Bytes}

theorem InFamily.unique {first second : Family}
    (inFirst : InFamily first key) (inSecond : InFamily second key) : first = second := by
  by_contra different
  exact (header_apart first second different).not_isPrefix inFirst inSecond

theorem InFamily.ne {first second : Family} {other : Bytes}
    (inFirst : InFamily first key) (inSecond : InFamily second other)
    (different : first ≠ second) : key ≠ other := by
  intro same
  exact different (inFirst.unique (same ▸ inSecond))

variable {family : Family}

section Builders

theorem policyKey_inFamily (id : String) : InFamily .policy (policyKey id) :=
  List.prefix_append _ _

theorem policyCounterKey_inFamily : InFamily .policyCounter policyCounterKey :=
  List.prefix_rfl

theorem relationshipKey_inFamily (policyId : String) (storageKey : Bytes) :
    InFamily .relationship (relationshipKey policyId storageKey) := by
  unfold InFamily relationshipKey
  rw [List.append_assoc, List.append_assoc]
  exact List.prefix_append _ _

theorem accessDecisionKey_inFamily (id : String) :
    InFamily .decision (accessDecisionKey id) :=
  List.prefix_append _ _

theorem paramsKey_inFamily : InFamily .params paramsKey :=
  List.prefix_rfl

theorem commitmentKey_inFamily (id : UInt64) :
    InFamily .commitment (commitmentKey id) :=
  List.prefix_append _ _

theorem commitmentCounterKey_inFamily :
    InFamily .commitmentCounter commitmentCounterKey :=
  List.prefix_rfl

theorem commitmentByCommitmentIndexKey_inFamily (root : Bytes) (id : UInt64) :
    InFamily .commitmentRoot (commitmentByCommitmentIndexKey root id) := by
  unfold InFamily commitmentByCommitmentIndexKey commitmentByCommitmentIndexPrefix
  rw [List.append_assoc, List.append_assoc]
  exact List.prefix_append _ _

def expiryFamily (commitment : RegistrationsCommitment) : Family :=
  match commitment.validity with
  | .seconds _ => .expirySeconds
  | .blocks _ => .expiryHeight

theorem commitmentExpiryKey_inFamily (commitment : RegistrationsCommitment) :
    InFamily (expiryFamily commitment) (commitmentExpiryKey commitment) := by
  unfold InFamily expiryFamily commitmentExpiryKey
  cases commitment.validity with
  | seconds delta =>
    simp only [List.append_assoc]
    exact List.prefix_append _ _
  | blocks delta =>
    simp only [List.append_assoc]
    exact List.prefix_append _ _

theorem InFamily.ne_commitmentExpiryKey
    (inFamily : InFamily family key) (notSeconds : family ≠ .expirySeconds)
    (notHeight : family ≠ .expiryHeight) (commitment : RegistrationsCommitment) :
    key ≠ commitmentExpiryKey commitment := by
  refine inFamily.ne (commitmentExpiryKey_inFamily commitment) ?_
  unfold expiryFamily
  cases commitment.validity with
  | seconds delta => exact notSeconds
  | blocks delta => exact notHeight

theorem amendmentEventKey_inFamily (id : UInt64) :
    InFamily .amendment (amendmentEventKey id) :=
  List.prefix_append _ _

theorem amendmentEventCounterKey_inFamily :
    InFamily .amendmentCounter amendmentEventCounterKey :=
  List.prefix_rfl

theorem amendmentEventPolicyIndexKey_inFamily (policyId : String) (id : UInt64) :
    InFamily .amendmentPolicy (amendmentEventPolicyIndexKey policyId id) := by
  unfold InFamily amendmentEventPolicyIndexKey amendmentEventPolicyIndexPrefix
  rw [List.append_assoc, List.append_assoc]
  exact List.prefix_append _ _

theorem operationBytesKey_inFamily :
    InFamily .operationBytes operationBytesKey :=
  List.prefix_rfl

theorem operationBudgetKey_inFamily :
    InFamily .operationBudget operationBudgetKey :=
  List.prefix_rfl

end Builders

/-! ## Changes within families -/

section SameOutside

variable {V : Type} {families : List Family} {old middle new : KvStore V}

/-- Two stores agree on every key outside the listed families. -/
def SameOutside (families : List Family) (old new : KvStore V) : Prop :=
  ∀ key, (∀ family ∈ families, ¬ InFamily family key) → new.get key = old.get key

theorem SameOutside.refl : SameOutside families old old :=
  fun _ _ => rfl

theorem SameOutside.trans (first : SameOutside families old middle)
    (second : SameOutside families middle new) :
    SameOutside families old new :=
  fun key outside => (second key outside).trans (first key outside)

theorem SameOutside.insert (value : V) (same : SameOutside families old new)
    (inFamily : InFamily family key) (listed : family ∈ families) :
    SameOutside families old (new.insert key value) := by
  intro other outside
  have different : other ≠ key := by
    intro equal
    exact outside family listed (equal ▸ inFamily)
  rw [OrderedMap.get_insert_of_ne _ _ different]
  exact same other outside

theorem SameOutside.erase (same : SameOutside families old new)
    (inFamily : InFamily family key) (listed : family ∈ families) :
    SameOutside families old (new.erase key) := by
  intro other outside
  have different : other ≠ key := by
    intro equal
    exact outside family listed (equal ▸ inFamily)
  rw [OrderedMap.get_erase, if_neg different]
  exact same other outside

theorem SameOutside.get (same : SameOutside families old new)
    (inFamily : InFamily family key) (unlisted : family ∉ families) :
    new.get key = old.get key := by
  apply same
  intro other listed inOther
  exact unlisted (inFamily.unique inOther ▸ listed)

end SameOutside

/-! ## Exact relationship prefixes -/

section Exact

variable {hashing : KeyHashing} {policyId : String} {relationship : Relationship}

theorem relationshipKey_segments (hashing : KeyHashing) (policyId : String)
    (relationship : Relationship) :
    ∃ digest,
      relationshipKey policyId (relationshipStorageKey hashing relationship) =
        relationshipPrefix ++ (utf8 policyId ++ slash :: (utf8 "v2/" ++
          (hexEncode (utf8 relationship.resource) ++ slash ::
            (hexEncode (utf8 relationship.objectId) ++ slash ::
              (hexEncode (utf8 relationship.relation) ++ slash ::
                hexEncode digest))))) := by
  refine ⟨hashing.sha256 (subjectDomain ++ hashing.subjectJson relationship.subject), ?_⟩
  unfold relationshipKey relationshipStorageKey relationPrefix objectPrefix
  simp only [List.append_assoc, List.cons_append, List.nil_append]

variable {resource objectId scanned : String}

/-- Scanning for a relation of an object finds that relation only. -/
theorem relationPrefix_iff {relation : String} (scannedFree : slash ∉ utf8 scanned)
    (policyFree : slash ∉ utf8 policyId) :
    relationshipStoragePrefix scanned (relationPrefix resource objectId relation) <+:
        relationshipKey policyId (relationshipStorageKey hashing relationship) ↔
      scanned = policyId ∧ resource = relationship.resource ∧
        objectId = relationship.objectId ∧ relation = relationship.relation := by
  obtain ⟨digest, segments⟩ := relationshipKey_segments hashing policyId relationship
  rw [segments]
  unfold relationshipStoragePrefix relationshipPolicyPrefix relationPrefix objectPrefix
  simp only [List.append_assoc, List.cons_append, List.nil_append, List.prefix_append_right_inj,
    isPrefix_cut_iff scannedFree policyFree, isPrefix_cut_iff (slash_notMem_hexEncode _)
      (slash_notMem_hexEncode _), hexEncode_injective.eq_iff, utf8_inj, List.nil_prefix, and_true]

theorem objectPrefix_iff (scannedFree : slash ∉ utf8 scanned) (policyFree : slash ∉ utf8 policyId) :
    relationshipStoragePrefix scanned (objectPrefix resource objectId) <+:
        relationshipKey policyId (relationshipStorageKey hashing relationship) ↔
      scanned = policyId ∧ resource = relationship.resource ∧
        objectId = relationship.objectId := by
  obtain ⟨digest, segments⟩ := relationshipKey_segments hashing policyId relationship
  rw [segments]
  unfold relationshipStoragePrefix relationshipPolicyPrefix objectPrefix
  simp only [List.append_assoc, List.cons_append, List.nil_append, List.prefix_append_right_inj,
    isPrefix_cut_iff scannedFree policyFree, isPrefix_cut_iff (slash_notMem_hexEncode _)
      (slash_notMem_hexEncode _), hexEncode_injective.eq_iff, utf8_inj, List.nil_prefix, and_true]

/-- A scan finds exactly its relation whatever the text of the scanned policy: a separator in
it would be one too many. -/
theorem eq_of_relationPrefix {relation : String} (policyFree : slash ∉ utf8 policyId)
    (leads : relationshipStoragePrefix scanned (relationPrefix resource objectId relation) <+:
      relationshipKey policyId (relationshipStorageKey hashing relationship)) :
    scanned = policyId ∧ resource = relationship.resource ∧
      objectId = relationship.objectId ∧ relation = relationship.relation := by
  refine (relationPrefix_iff ?_ policyFree).mp leads
  obtain ⟨digest, segments⟩ := relationshipKey_segments hashing policyId relationship
  rw [segments] at leads
  unfold relationshipStoragePrefix relationshipPolicyPrefix relationPrefix objectPrefix at leads
  simp only [List.append_assoc, List.cons_append, List.nil_append,
    List.prefix_append_right_inj] at leads
  have hexFree : ∀ bytes, (hexEncode bytes).count slash = 0 :=
    fun bytes => List.count_eq_zero.mpr (slash_notMem_hexEncode bytes)
  have counted := leads.sublist.count_le slash
  have policyCount := List.count_eq_zero.mpr policyFree
  have empty : List.count slash ([] : Bytes) = 0 := rfl
  simp only [List.count_append, List.count_cons_self, hexFree, policyCount] at counted
  apply List.count_eq_zero.mp
  omega

end Exact

end VeraHub.Acp
