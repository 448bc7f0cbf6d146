import VeraHub.Acp.Amendments

/-!
# Kept outcomes

The outcome of a delegated operation is kept under its actor and its identity.
Pruning deletes it when the deadline in the identity has passed, and nothing
else does.  A kept outcome can be read again unless its result nests too
deeply or names a wildcard where an identity is expected.
-/

namespace VeraHub.Acp.AcpModule

open VeraHub.Zanzibar
open Exec (Wp)

/-! ## Keys -/

variable {actor : String} {id key : Bytes}

section Keys

variable (externals : Externals)

/-- The name under which the outcomes of an actor are kept; equivalent key
encodings share it. -/
def canonicalActor (actor : String) : Except AcpError String :=
  match Did.new actor with
  | .error error => .error (.state error.text)
  | .ok _ =>
    if startsWith actor didKeyPrefix then
      match externals.canonicalIssuer actor with
      | .ok issuer => .ok issuer
      | .error message => .error (.state message)
    else
      .ok actor

def outcomeKey (actor : String) (id : Bytes) : Bytes :=
  operationPrefix ++
    externals.hashing.sha256 (utf8 "vera/operation-actor/v1" ++ [0] ++ utf8 actor) ++ id

variable {externals}

theorem operationKey_eq (actor : String) (id : Bytes) :
    operationKey externals actor id = (canonicalActor externals actor).map fun canonical =>
        outcomeKey externals canonical id := by
  unfold operationKey canonicalActor
  cases Did.new actor with
  | error failure => rfl
  | ok did =>
    by_cases isKey : startsWith actor didKeyPrefix = true
    · simp only [isKey, if_true]
      cases externals.canonicalIssuer actor with
      | error message => rfl
      | ok issuer => rfl
    · simp only [isKey]
      rfl

theorem operationKey_canonical {canonical : String} (id : Bytes)
    (named : canonicalActor externals actor = .ok canonical) :
    operationKey externals actor id = .ok (outcomeKey externals canonical id) := by
  rw [operationKey_eq, named]
  rfl

variable {module : AcpModule}

theorem operation_eq (keyed : operationKey externals actor id = .ok key) :
    operation externals actor id module =
      match module.store.get key with
      | none => .ok none
      | some value =>
        match value.decodeOperation with
        | .error message => .error (.state message)
        | .ok record => .ok (some record) := by
  unfold operation
  rw [keyed]
  rfl

theorem operation_none (keyed : operationKey externals actor id = .ok key)
    (absent : operation externals actor id module = .ok none) : module.store.get key = none := by
  rw [operation_eq keyed] at absent
  cases stored : module.store.get key with
  | none => rfl
  | some value =>
    simp only [stored] at absent
    cases decoded : value.decodeOperation with
    | error message =>
      simp only [decoded] at absent
      cases absent
    | ok record =>
      simp only [decoded] at absent
      cases absent

theorem outcomeKey_inFamily (actor : String) (id : Bytes) :
    InFamily .operation (outcomeKey externals actor id) := by
  unfold InFamily outcomeKey
  rw [List.append_assoc]
  exact List.prefix_append _ _

def deadlineOf (key : Bytes) : Bytes :=
  (key.drop (operationPrefix.length + 32)).take 8

theorem Prunable.deadline {now : UInt64} {index : Bytes} (prunable : Prunable now index key) :
    key.length = operationPrefix.length + 64 ∧ deadlineOf key ≤ beBytes now := by
  obtain ⟨formed, passed⟩ := prunable
  simp only [wellFormedReference, Bool.and_eq_true, beq_iff_eq] at formed
  obtain ⟨⟨⟨⟨_, width⟩, _⟩, _⟩, sameDeadline⟩ := formed
  rw [sameDeadline] at passed
  exact ⟨width, passed⟩

theorem deadlineOf_outcomeKey (width : id.length = 32)
    (full : (outcomeKey externals actor id).length = operationPrefix.length + 64) :
    deadlineOf (outcomeKey externals actor id) = id.take 8 := by
  unfold outcomeKey at full
  unfold deadlineOf outcomeKey
  simp only [List.length_append, width] at full
  rw [List.drop_append_of_le_length (by simp only [List.length_append]; omega),
    List.drop_eq_nil_of_le (by simp only [List.length_append]; omega)]
  rfl

end Keys

/-! ## Keeping outcomes -/

section Keeping

variable {externals : Externals} {request : Request}
  {module middle final : AcpModule} {time : Option UInt64}

def OutcomesKept (time : Option UInt64) (module final : AcpModule) : Prop :=
  ∀ key value, InFamily .operation key →
    module.store.get key = some value →
      final.store.get key = some value ∨
        ∃ now ∈ time, key.length = operationPrefix.length + 64 ∧ deadlineOf key ≤ beBytes now

theorem OutcomesKept.refl : OutcomesKept time module module :=
  fun _ _ _ found => .inl found

theorem OutcomesKept.trans (first : OutcomesKept time module middle)
    (second : OutcomesKept time middle final) :
    OutcomesKept time module final := by
  intro key value inFamily found
  rcases first key value inFamily found with kept | passed
  · exact second key value inFamily kept
  · exact .inr passed

theorem OutcomesKept.of_same
    (same : ∀ key, InFamily .operation key → final.store.get key = module.store.get key) :
    OutcomesKept time module final := by
  intro key value inFamily found
  rw [same key inFamily]
  exact .inl found

theorem Change.operations_get (change : Change externals request module final) {family : Family}
    (listed : family ∈ operationFamilies) (inFamily : InFamily family key) :
    final.store.get key = module.store.get key := by
  have separate : ∀ kept ∈ operationFamilies, kept ∉ recordFamilies ∧ kept ∉ commandFamilies ∧
      kept ∉ commitmentFamilies := by
    decide
  have apart := separate family listed
  cases change.commitmentChange with
  | elsewhere same => exact same.get inFamily apart.1
  | commanded submitted creator metadata eventMetadata result submits dated applied =>
    exact applied.within.get inFamily apart.2.1
  | expired chain => exact chain.within.get inFamily apart.2.2

theorem Change.outcomesKept (change : Change externals request module final) :
    OutcomesKept time module final :=
  .of_same fun _ inFamily => change.operations_get (by decide) inFamily

theorem pruneOperations_outcomesKept (now : UInt64) :
    Wp (pruneOperations externals now)
      (fun _ final => OutcomesKept (some now) module final) module := by
  apply Wp.query
  · intro failure _
    exact .refl
  intro pruned found
  cases pruned with
  | none => exact Wp.pure .refl
  | some outcome =>
    obtain ⟨keys, retained⟩ := outcome
    apply Wp.modify
    intro key value inFamily stored
    have notCounter := inFamily.ne operationBytesKey_inFamily (by decide)
    change ((keys.foldl withoutStored module).withStored operationBytesKey
      (.counter retained)).store.get key = some value ∨ _
    rw [withStored_get, if_neg notCounter, foldl_withoutStored_get]
    by_cases gone : key ∈ keys
    · rcases prunedOutcomes_prunable found key gone with
        isIndex | ⟨index, prunable⟩
      · exact (inFamily.ne isIndex (by decide) rfl).elim
      · exact .inr ⟨now, rfl, prunable.deadline⟩
    · rw [if_neg gone]
      exact .inl stored

theorem budget_outcomesKept (bytes : UInt64) :
    OutcomesKept time module (module.withStored operationBudgetKey (.counter bytes)) := by
  apply OutcomesKept.of_same
  intro key inFamily
  have different := inFamily.ne operationBudgetKey_inFamily (by decide)
  rw [withStored_get, if_neg different]

theorem completeOperation_wp {record : OperationRecord}
    {post : Except AcpError Unit → AcpModule → Prop}
    (failed : ∀ failure, post (.error failure) module)
    (completed : ∀ key final, operationKey externals actor record.id = .ok key →
      final.store.get key = some (.operation record) →
        (∀ other, InFamily .operation other → other ≠ key →
          final.store.get other = module.store.get other) →
          OperationsOnly module final → post (.ok ()) final) :
    Wp (completeOperation externals actor record) post module := by
  apply Wp.ofExcept
  · intro failure _
    exact failed failure
  intro key named
  apply Wp.query
  · intro failure _
    exact failed failure
  intro retained _
  apply Wp.modify
  apply Wp.modify
  have keyFamily := operationKey_inFamily named
  have indexFamily := operationExpiryKey_inFamily record.id key
  have start : OperationsOnly module module := .refl
  have stored := start.withStored (.operation record) keyFamily (by decide)
  have indexed := stored.withStored (.reference key) indexFamily (by decide)
  have counted := indexed.withStored (.counter retained) operationBytesKey_inFamily (by decide)
  refine completed key
    (((module.withStored key (.operation record)).withStored
      (operationExpiryKey record.id key) (.reference key)).withStored
        operationBytesKey (.counter retained)) named ?_ ?_ counted
  · have notCounter := keyFamily.ne operationBytesKey_inFamily (by decide)
    have notIndex := keyFamily.ne indexFamily (by decide)
    rw [withStored_get, if_neg notCounter, withStored_get, if_neg notIndex,
      withStored_get, if_pos rfl]
  · intro other inFamily different
    have notCounter := inFamily.ne operationBytesKey_inFamily (by decide)
    have notIndex := inFamily.ne indexFamily (by decide)
    rw [withStored_get, if_neg notCounter, withStored_get, if_neg notIndex,
      withStored_get, if_neg different]

end Keeping

/-! ## Reading results again -/

variable {policyId : String}

section Reading

variable {externals : Externals} {module final : AcpModule} {metadata : RecordMetadata}

theorem createPolicyWithMetadata_result {policy : String} {marshalType : PolicyMarshalingType} :
    Wp (createPolicyWithMetadata externals policy marshalType metadata)
      (fun result _ => ∀ record, result = .ok record → ∃ counter,
        compilePolicy externals policy marshalType counter none =
          .ok record.policy) module := by
  apply Wp.query
  · intro failure _ record succeeded
    cases succeeded
  intro counter _
  apply Wp.ofExcept
  · intro failure _ record succeeded
    cases succeeded
  intro compiled accepted
  apply Wp.gets
  apply Wp.failIf
  · intro _ record succeeded
    cases succeeded
  intro _
  refine Wp.modify (Wp.modify (Wp.modify (Wp.pure ?_)))
  intro record succeeded
  cases succeeded
  exact ⟨counter, accepted⟩

theorem editPolicy_result {creator : Did} {policy : String} {marshalType : PolicyMarshalingType} :
    Wp (editPolicy externals creator policyId policy marshalType)
      (fun result _ => ∀ edited, result = .ok edited → ∃ existing compiled,
        getPolicyRecord policyId module = .ok (some existing) ∧
          compilePolicy externals policy marshalType 0
              (some existing.policy.specification) = .ok compiled ∧
            edited.2.policy = { compiled with id := policyId }) module := by
  apply Wp.query
  · intro failure _ edited succeeded
    cases succeeded
  intro existing found
  cases existing with
  | none =>
    apply Wp.fail
    intro edited succeeded
    cases succeeded
  | some existing =>
    apply Wp.failIf
    · intro _ edited succeeded
      cases succeeded
    intro _
    apply Wp.ofExcept
    · intro failure _ edited succeeded
      cases succeeded
    intro compiled accepted
    cases removedResource existing.policy compiled with
    | some resource =>
      apply Wp.fail
      intro edited succeeded
      cases succeeded
    | none =>
      apply Wp.query
      · intro failure _ edited succeeded
        cases succeeded
      intro orphans _
      refine Wp.modify (Wp.modify (Wp.modify (Wp.pure ?_)))
      intro edited succeeded
      cases succeeded
      exact ⟨existing, compiled, found, accepted, rfl⟩

/-- The subject that a command sets is an identity, if it is an entity. -/
def Nameable : PolicyCmd → Prop
  | .setRelationship relationship =>
    StoredValue.decodesSubject relationship.subject = true
  | _ => True

theorem getRelationship_subject {relationship : Relationship} {record : RelationshipRecord}
    (found : getRelationship externals policyId relationship module = .ok (some record)) :
    StoredValue.decodesSubject record.relationship.subject = true := by
  unfold getRelationship at found
  cases stored : module.store.get (relationshipKeyOf externals policyId relationship) with
  | none =>
    rw [stored] at found
    cases found
  | some value =>
    simp only [stored] at found
    cases decoded : value.decodeRelationship with
    | error message =>
      simp only [decoded] at found
      cases found
    | ok other =>
      simp only [decoded] at found
      obtain ⟨_, found⟩ := ifError_ok found
      cases found
      exact (decodeRelationship_ok decoded).2

theorem Applied.decodes {inContext : Bool} {creator : Did} {eventMetadata : RecordMetadata}
    {cmd : PolicyCmd} {result : PolicyCmdResult}
    (applied : Applied externals inContext creator policyId metadata
      eventMetadata module cmd result final) (nameable : Nameable cmd)
    (accepted : didAccepts creator.asStr = true) (sound : AmendmentsSound module) :
    StoredValue.decodesResult result = true := by
  cases applied with
  | relationshipKept found => exact getRelationship_subject found
  | relationshipSet known reserved fresh fits => exact nameable
  | relationshipDeleted known reserved => rfl
  | registered valid free => exact accepted
  | archivedAlready => rfl
  | archived owner found entitled selected => rfl
  | unarchived found entitled =>
    obtain ⟨did, isEntity, _, named⟩ := (registrationOwnerRecord_some (registeredOwner_ok found)).2
    change StoredValue.decodesSubject _ = true
    rw [isEntity]
    exact named
  | committed contextFree known width settings counted fresh => rfl
  | recommitted contextual known width settings counted fresh => rfl
  | revealed proved free =>
    exact Bool.and_eq_true_iff.mpr ⟨accepted, rfl⟩
  | amended proved found earlier counted fresh =>
    have previous := amendedOwner_accepted earlier
    exact Bool.and_eq_true_iff.mpr ⟨accepted, Bool.and_eq_true_iff.mpr ⟨accepted, previous⟩⟩
  | flagged found entitled =>
    obtain ⟨stored, _⟩ := getAmendmentEventById_ok found
    obtain ⟨event, isEvent, _, _, _, named⟩ :=
      sound.placed _ _ (amendmentEventKey_inFamily _) stored
    cases isEvent
    refine Bool.and_eq_true_iff.mpr ⟨?_, named⟩
    rw [entitled]
    exact accepted

end Reading

end VeraHub.Acp.AcpModule
