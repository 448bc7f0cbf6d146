import VeraHub.Acp.Keys
import VeraHub.Library.OrderedMap
import VeraHub.Zanzibar.Meaning
import VeraHub.Zanzibar.Simulation

/-!
# Access evaluation over stored records

A record store answers point reads and complete prefix scans, and may fail.
The permission engine runs over it through an adapter that decodes relationship
records and leaves out the archived ones.
-/

namespace VeraHub.Acp

open VeraHub.Zanzibar

/-- Module state: values under byte keys, in key order. -/
abbrev KvStore (V : Type) : Type :=
  OrderedMap Bytes V

/-- Record access used by the permission evaluator. -/
structure RecordStore (σ V : Type) where
  readRecord : (key : Bytes) → Exec σ Error (Option V)
  scanRecords : (start : Bytes) → Exec σ Error (List (Bytes × V))

/-- How stored values are decoded, and how long they are. -/
structure RecordCodec (V : Type) where
  size : V → Nat
  decodePolicy : V → Except Error PolicyRecord
  decodeRelationship : V → Except Error RelationshipRecord

section Adapter

variable {σ V : Type} (hashing : KeyHashing) (codec : RecordCodec V) (store : RecordStore σ V)

/-- Decode scanned records; every one must be stored under its own key, and
only live ones of the requested relation are kept. -/
def selectLive (policyId resource objectId relation : String) :
    List (Bytes × V) → Except Error (List RelationshipRecord)
  | [] => .ok []
  | (key, value) :: rest => do
      let record ← codec.decodeRelationship value
      if record.policyId ≠ policyId ∨
          relationshipKey policyId (relationshipStorageKey hashing record.relationship) ≠ key then
        .error (.serialization "relationship record does not match its key")
      else
        let records ← selectLive policyId resource objectId relation rest
        if record.archived = false ∧
            record.relationship.resource = resource ∧
              record.relationship.objectId = objectId ∧ record.relationship.relation = relation then
          .ok (record :: records)
        else
          .ok records

def liveRecords (policyId resource objectId relation : String) :
    Exec σ Error (List RelationshipRecord) := do
  let scanned ← store.scanRecords
    (relationshipStoragePrefix policyId (relationPrefix resource objectId relation))
  Exec.ofExcept (selectLive hashing codec policyId resource objectId relation scanned)

def isLive (policyId : String) (relationship : Relationship) :
    Exec σ Error Bool := do
  match ← store.readRecord
      (relationshipKey policyId (relationshipStorageKey hashing relationship)) with
  | none => pure false
  | some value =>
    let record ← Exec.ofExcept (codec.decodeRelationship value)
    if record.policyId ≠ policyId ∨ record.relationship ≠ relationship then
      Exec.fail (.serialization "relationship record does not match the requested identity")
    else
      pure (!record.archived)

/-- The engine's store interface over module records. -/
def qmdbZanzibarStore : ZanzibarStore σ where
  checkPermissionDirect policyId resource objectId relation subject := do
    if ← isLive hashing codec store policyId ⟨resource, objectId, relation, .entity subject⟩ then
      pure true
    else if ← isLive hashing codec store policyId ⟨resource, objectId, relation, .wildcard⟩ then
      pure true
    else
      let records ← liveRecords hashing codec store policyId resource objectId relation
      pure (records.any fun record =>
        record.relationship.subject.isTypedWildcard)
  getRelationSubjects policyId resource objectId relation := do
    let records ← liveRecords hashing codec store policyId resource objectId relation
    pure (records.map fun record => record.relationship.subject)
  getRelationTargets policyId resource objectId relation := do
    let records ← liveRecords hashing codec store policyId resource objectId relation
    pure (records.filterMap fun record =>
      record.relationship.subject.target)

/-- Check the operations of a request in order, until one is denied. -/
def checkOperations (engine : PermissionEngine σ) (policyId : String)
    (subject : Did) : List Operation → Exec σ Error Bool
  | [] => pure true
  | operation :: rest => do
      let granted ← engine.check
        ⟨policyId, operation.object.resource, operation.object.id, operation.permission, subject⟩
      if granted then checkOperations engine policyId subject rest
      else pure false

def accessEngine (policy : Policy) : PermissionEngine σ where
  store := qmdbZanzibarStore hashing codec store
  lookup := PolicyLookupTable.new.addPolicy policy

/-- Evaluate an access request from policy and relationship records. -/
def evaluateAccessRequest (policyId : String) (request : AccessRequest) :
    Exec σ Error Bool := do
  match ← store.readRecord (policyKey policyId) with
  | none => pure false
  | some value =>
    let record ← Exec.ofExcept (codec.decodePolicy value)
    if record.policy.id ≠ policyId then
      Exec.fail (.invalidPolicy "policy record ID does not match its key")
    else
      checkOperations (accessEngine hashing codec store record.policy)
        policyId request.actor.did request.operations

end Adapter

/-! ## Evaluation over two record stores -/

section Simulation

variable {σ τ V : Type} {admissible : σ → Prop} {related : σ → τ → Prop}

/-- Each successful read of the first store has the same answer in the
second. -/
structure RecordStore.Simulates (admissible : σ → Prop) (related : σ → τ → Prop)
    (first : RecordStore σ V) (second : RecordStore τ V) : Prop where
  readRecord : ∀ key,
    Exec.Simulates admissible related (first.readRecord key) (second.readRecord key)
  scanRecords : ∀ start,
    Exec.Simulates admissible related (first.scanRecords start) (second.scanRecords start)

variable {first : RecordStore σ V} {second : RecordStore τ V}
  (hashing : KeyHashing) (codec : RecordCodec V)
  (stores : RecordStore.Simulates admissible related first second)

include stores

theorem liveRecords_simulates (policyId resource objectId relation : String) :
    Exec.Simulates admissible related
      (liveRecords hashing codec first policyId resource objectId relation)
      (liveRecords hashing codec second policyId resource objectId relation) :=
  Exec.Simulates.bind (stores.scanRecords _) fun _ =>
    Exec.Simulates.ofExcept _

theorem isLive_simulates (policyId : String) (relationship : Relationship) :
    Exec.Simulates admissible related (isLive hashing codec first policyId relationship)
      (isLive hashing codec second policyId relationship) := by
  refine Exec.Simulates.bind (stores.readRecord _) fun answer => ?_
  cases answer with
  | none => exact Exec.Simulates.pure _
  | some value =>
    refine Exec.Simulates.bind (Exec.Simulates.ofExcept _) fun record => ?_
    exact Exec.Simulates.ite (Exec.Simulates.fail _ _) (Exec.Simulates.pure _)

theorem qmdbZanzibarStore_simulates :
    ZanzibarStore.Simulates admissible related (qmdbZanzibarStore hashing codec first)
      (qmdbZanzibarStore hashing codec second) where
  checkPermissionDirect policyId resource objectId relation subject := by
    refine Exec.Simulates.bind (isLive_simulates hashing codec stores policyId _) fun direct => ?_
    refine Exec.Simulates.ite (Exec.Simulates.pure _) ?_
    refine Exec.Simulates.bind (isLive_simulates hashing codec stores policyId _) fun wildcard => ?_
    refine Exec.Simulates.ite (Exec.Simulates.pure _) ?_
    exact Exec.Simulates.bind
      (liveRecords_simulates hashing codec stores policyId resource objectId relation)
      fun _ => Exec.Simulates.pure _
  getRelationSubjects policyId resource objectId relation :=
    Exec.Simulates.bind
      (liveRecords_simulates hashing codec stores policyId resource objectId relation)
      fun _ => Exec.Simulates.pure _
  getRelationTargets policyId resource objectId relation :=
    Exec.Simulates.bind
      (liveRecords_simulates hashing codec stores policyId resource objectId relation)
      fun _ => Exec.Simulates.pure _

theorem checkOperations_simulates (policy : Policy) (policyId : String) (subject : Did)
    (operations : List Operation) :
    Exec.Simulates admissible related
      (checkOperations (accessEngine hashing codec first policy) policyId subject operations)
      (checkOperations (accessEngine hashing codec second policy)
        policyId subject operations) := by
  have engines :
      EnginesSimulate admissible related (accessEngine hashing codec first policy)
        (accessEngine hashing codec second policy) :=
    ⟨rfl, qmdbZanzibarStore_simulates hashing codec stores⟩
  induction operations with
  | nil => exact Exec.Simulates.pure _
  | cons operation rest ih =>
    refine Exec.Simulates.bind (check_simulates engines _) fun granted => ?_
    exact Exec.Simulates.ite ih (Exec.Simulates.pure _)

/-- An evaluation that succeeds over the first store has the same decision
over the second. -/
theorem evaluateAccessRequest_simulates (policyId : String) (request : AccessRequest) :
    Exec.Simulates admissible related (evaluateAccessRequest hashing codec first policyId request)
      (evaluateAccessRequest hashing codec second policyId request) := by
  refine Exec.Simulates.bind (stores.readRecord _) fun answer => ?_
  cases answer with
  | none => exact Exec.Simulates.pure _
  | some value =>
    refine Exec.Simulates.bind (Exec.Simulates.ofExcept _) fun record => ?_
    refine Exec.Simulates.ite (Exec.Simulates.fail _ _) ?_
    exact checkOperations_simulates hashing codec stores record.policy
      policyId request.actor.did request.operations

end Simulation

/-! ## Records of a snapshot -/

variable {policyId : String} {relationship : Relationship}

section Snapshot

variable {V : Type} (hashing : KeyHashing) (codec : RecordCodec V) (snapshot : KvStore V)

def snapshotRecords : RecordStore Unit V where
  readRecord key := pure (snapshot.get key)
  scanRecords start := pure (snapshot.prefixScan start)

def canonicalKey (record : RelationshipRecord) : Bytes :=
  relationshipKey record.policyId (relationshipStorageKey hashing record.relationship)

/-- The relationship of a stored record that is live and under its own
key. -/
def liveTuple (entry : Bytes × V) : Option (String × Relationship) :=
  match codec.decodeRelationship entry.2 with
  | .error _ => none
  | .ok record =>
    if record.archived = false ∧ canonicalKey hashing record = entry.1 then
      some (record.policyId, record.relationship)
    else
      none

def liveContent : Content :=
  snapshot.entries.filterMap (liveTuple hashing codec)

variable {hashing codec snapshot}

theorem liveTuple_eq_some_iff {entry : Bytes × V} :
    liveTuple hashing codec entry = some (policyId, relationship) ↔
      ∃ record, codec.decodeRelationship entry.2 = .ok record ∧
        record.archived = false ∧ record.policyId = policyId ∧
          record.relationship = relationship ∧
            relationshipKey policyId (relationshipStorageKey hashing relationship) = entry.1 := by
  unfold liveTuple
  cases decoded : codec.decodeRelationship entry.2 with
  | error failure => simp
  | ok record =>
    constructor
    · intro found
      by_cases live : record.archived = false ∧ canonicalKey hashing record = entry.1
      · simp only [live, and_self, if_true] at found
        cases found
        exact ⟨record, rfl, live.1, rfl, rfl, live.2⟩
      · simp only [live, if_false] at found
        cases found
    · rintro ⟨other, same, live, rfl, rfl, canonical⟩
      cases same
      exact if_pos ⟨live, canonical⟩

/-- A tuple is in the content exactly when a live record of it is stored under
its key. -/
theorem mem_liveContent_iff :
    (policyId, relationship) ∈ liveContent hashing codec snapshot ↔
      ∃ value record,
        snapshot.get (relationshipKey policyId (relationshipStorageKey hashing relationship)) =
          some value ∧
        codec.decodeRelationship value = .ok record ∧
          record.archived = false ∧ record.policyId = policyId ∧
            record.relationship = relationship := by
  unfold liveContent
  rw [List.mem_filterMap]
  constructor
  · rintro ⟨⟨key, value⟩, member, live⟩
    obtain ⟨record, decoded, unarchived, samePolicy, same, canonical⟩ :=
      liveTuple_eq_some_iff.mp live
    refine ⟨value, record, ?_, decoded, unarchived, samePolicy, same⟩
    rw [canonical]
    exact snapshot.mem_entries_iff.mp member
  · rintro ⟨value, record, found, decoded, unarchived, samePolicy, same⟩
    exact ⟨_, snapshot.mem_entries_iff.mpr found,
      liveTuple_eq_some_iff.mpr ⟨record, decoded, unarchived, samePolicy, same, rfl⟩⟩

variable {records : List RelationshipRecord}

theorem selectLive_ok {resource objectId relation : String} {scanned : List (Bytes × V)}
    (selected :
      selectLive hashing codec policyId resource objectId relation scanned = .ok records) :
    ∀ record, record ∈ records ↔
      ∃ entry ∈ scanned,
        codec.decodeRelationship entry.2 = .ok record ∧
          record.policyId = policyId ∧
            canonicalKey hashing record = entry.1 ∧
              record.archived = false ∧
                record.relationship.resource = resource ∧
                  record.relationship.objectId = objectId ∧
                    record.relationship.relation = relation := by
  induction scanned generalizing records with
  | nil =>
    cases selected
    simp
  | cons entry rest ih =>
    obtain ⟨key, value⟩ := entry
    unfold selectLive at selected
    cases decoded : codec.decodeRelationship value with
    | error failure =>
      rw [decoded] at selected
      cases selected
    | ok found =>
      rw [decoded] at selected
      change (if _ then _ else _) = _ at selected
      obtain ⟨misplaced, selected⟩ := ifError_ok selected
      obtain ⟨samePolicy, canonical⟩ := not_or.mp misplaced
      have samePolicy := not_not.mp samePolicy
      have canonical : canonicalKey hashing found = key := by
        unfold canonicalKey
        rw [samePolicy]
        exact not_not.mp canonical
      cases restSelected : selectLive hashing codec policyId resource objectId relation rest with
      | error failure =>
        rw [restSelected] at selected
        cases selected
      | ok restRecords =>
        rw [restSelected] at selected
        change (if _ then _ else _) = _ at selected
        have restIff := ih restSelected
        intro record
        rw [List.exists_mem_cons_iff, ← restIff record]
        by_cases kept : found.archived = false ∧
            found.relationship.resource = resource ∧
              found.relationship.objectId = objectId ∧ found.relationship.relation = relation
        · rw [if_pos kept] at selected
          cases selected
          rw [List.mem_cons]
          refine or_congr_left ⟨?_, ?_⟩
          · rintro rfl
            exact ⟨decoded, samePolicy, canonical, kept⟩
          · rintro ⟨decodedRecord, _⟩
            exact Except.ok.inj (decodedRecord.symm.trans decoded)
        · rw [if_neg kept] at selected
          cases selected
          refine (or_iff_right ?_).symm
          rintro ⟨decodedRecord, _, _, matching⟩
          rw [decoded] at decodedRecord
          cases decodedRecord
          exact kept matching

theorem relationshipStoragePrefix_isPrefix (policyId : String) (relationship : Relationship) :
    relationshipStoragePrefix policyId
        (relationPrefix relationship.resource relationship.objectId relationship.relation) <+:
      relationshipKey policyId (relationshipStorageKey hashing relationship) := by
  refine ⟨hexEncode (hashing.sha256
    (subjectDomain ++ hashing.subjectJson relationship.subject)), ?_⟩
  unfold relationshipStoragePrefix relationshipPolicyPrefix relationshipKey relationshipStorageKey
  simp only [List.append_assoc]

theorem liveRecords_snapshot {resource objectId relation : String} {state final : Unit}
    (answered :
      (liveRecords hashing codec (snapshotRecords snapshot) policyId
        resource objectId relation).run state = (.ok records, final)) (stored : Subject) :
    (∃ record ∈ records, record.relationship.subject = stored) ↔
      Stored (liveContent hashing codec snapshot) policyId resource objectId
        relation stored := by
  have selected :
      selectLive hashing codec policyId resource objectId relation
          (snapshot.prefixScan
            (relationshipStoragePrefix policyId (relationPrefix resource objectId relation))) =
        .ok records :=
    (Prod.ext_iff.mp answered).1
  have listed := selectLive_ok selected
  unfold Stored
  rw [mem_liveContent_iff]
  constructor
  · rintro ⟨record, member, rfl⟩
    obtain ⟨⟨key, value⟩, scanned, decoded, samePolicy, canonical, live,
      sameResource, sameObject, sameRelation⟩ := (listed record).mp member
    have found := (OrderedMap.mem_prefixScan_iff.mp scanned).2
    have same : record.relationship =
        ⟨resource, objectId, relation, record.relationship.subject⟩ := by
      rw [← sameResource, ← sameObject, ← sameRelation]
    refine ⟨value, record, ?_, decoded, live, samePolicy, same⟩
    rw [← same, ← samePolicy]
    change snapshot.get (canonicalKey hashing record) = some value
    rw [canonical]
    exact found
  · rintro ⟨value, record, found, decoded, live, samePolicy, same⟩
    have scanned := OrderedMap.mem_prefixScan_iff.mpr
      ⟨relationshipStoragePrefix_isPrefix policyId _, found⟩
    have canonical : canonicalKey hashing record =
        relationshipKey policyId (relationshipStorageKey hashing
          ⟨resource, objectId, relation, stored⟩) := by
      unfold canonicalKey
      rw [samePolicy, same]
    have member := (listed record).mpr ⟨_, scanned, decoded, samePolicy,
      canonical, live, by rw [same], by rw [same], by rw [same]⟩
    exact ⟨record, member, by rw [same]⟩

theorem isLive_snapshot {live : Bool} {state final : Unit}
    (answered :
      (isLive hashing codec (snapshotRecords snapshot) policyId
        relationship).run state = (.ok live, final)) :
    live = true ↔ (policyId, relationship) ∈ liveContent hashing codec snapshot := by
  rw [mem_liveContent_iff]
  obtain ⟨answer, middle, readRun, nextRun⟩ := Exec.run_bind_ok answered
  cases readRun
  cases found : snapshot.get
      (relationshipKey policyId (relationshipStorageKey hashing relationship)) with
  | none =>
    rw [found] at nextRun
    cases nextRun
    simp
  | some value =>
    rw [found] at nextRun
    obtain ⟨record, middle, decodeRun, checkRun⟩ := Exec.run_bind_ok nextRun
    have decoded : codec.decodeRelationship value = .ok record := (Prod.ext_iff.mp decodeRun).1
    by_cases misplaced : record.policyId ≠ policyId ∨ record.relationship ≠ relationship
    · rw [if_pos misplaced] at checkRun
      cases checkRun
    · rw [if_neg misplaced] at checkRun
      cases checkRun
      obtain ⟨samePolicy, same⟩ := not_or.mp misplaced
      constructor
      · intro live
        exact ⟨value, record, rfl, decoded, by simpa using live,
          not_not.mp samePolicy, not_not.mp same⟩
      · rintro ⟨value', record', sameValue, decoded', live, _, _⟩
        cases sameValue
        rw [decoded] at decoded'
        cases decoded'
        simpa using live

theorem qmdbZanzibarStore_serves :
    (qmdbZanzibarStore hashing codec (snapshotRecords snapshot)).Serves
      (liveContent hashing codec snapshot) where
  checkPermissionDirect := by
    intro policyId resource objectId relation subject state granted final answered
    obtain ⟨direct, middle, directRun, nextRun⟩ := Exec.run_bind_ok answered
    have directIff := isLive_snapshot directRun
    cases direct with
    | true =>
      cases nextRun
      exact iff_of_true rfl (Or.inl (directIff.mp rfl))
    | false =>
      obtain ⟨wildcard, middle, wildcardRun, nextRun⟩ := Exec.run_bind_ok nextRun
      have wildcardIff := isLive_snapshot wildcardRun
      cases wildcard with
      | true =>
        cases nextRun
        exact iff_of_true rfl (Or.inr (Or.inl (wildcardIff.mp rfl)))
      | false =>
        obtain ⟨records, middle, recordsRun, nextRun⟩ := Exec.run_bind_ok nextRun
        have listed := liveRecords_snapshot recordsRun
        cases nextRun
        have notDirect := mt directIff.mpr Bool.false_ne_true
        have notWildcard := mt wildcardIff.mpr Bool.false_ne_true
        unfold Stored at listed ⊢
        rw [or_iff_right notDirect, or_iff_right notWildcard, List.any_eq_true]
        constructor
        · rintro ⟨record, member, typed⟩
          obtain ⟨kind, same⟩ := isTypedWildcard_iff.mp typed
          exact ⟨kind, (listed _).mp ⟨record, member, same⟩⟩
        · rintro ⟨kind, stored⟩
          obtain ⟨record, member, same⟩ := (listed _).mpr stored
          exact ⟨record, member, isTypedWildcard_iff.mpr ⟨kind, same⟩⟩
  getRelationSubjects := by
    intro policyId resource objectId relation state subjects final answered stored
    obtain ⟨records, middle, recordsRun, nextRun⟩ := Exec.run_bind_ok answered
    cases nextRun
    rw [List.mem_map]
    exact liveRecords_snapshot recordsRun stored
  getRelationTargets := by
    intro policyId resource objectId relation state targets final answered target
    obtain ⟨records, middle, recordsRun, nextRun⟩ := Exec.run_bind_ok answered
    have listed := liveRecords_snapshot recordsRun
    cases nextRun
    rw [List.mem_filterMap]
    constructor
    · rintro ⟨record, member, found⟩
      obtain ⟨edge, same⟩ := target_eq_some_iff.mp found
      exact ⟨edge, (listed _).mp ⟨record, member, same⟩⟩
    · rintro ⟨edge, stored⟩
      obtain ⟨record, member, same⟩ := (listed _).mpr stored
      exact ⟨record, member, target_eq_some_iff.mpr ⟨edge, same⟩⟩

end Snapshot

end VeraHub.Acp
