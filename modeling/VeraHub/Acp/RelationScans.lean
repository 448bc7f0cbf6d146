import VeraHub.Acp.Ownership

/-!
# Scans of a relation

Every reachable record lies under the key of its own relationship and belongs to a
generated policy, whose identifier has no separator.  The scan of a relation
therefore meets the records of that relation only, each under its own key.
-/

namespace VeraHub.Acp

open VeraHub.Zanzibar

/-- Records that lie under their own keys are selected without an error, in key order. -/
theorem selectLive_canonical {V : Type} {hashing : KeyHashing} {codec : RecordCodec V}
    {policyId : String} (resource objectId relation : String) {scanned : List (Bytes × V)}
    (placed : ∀ entry ∈ scanned, ∃ record, codec.decodeRelationship entry.2 = .ok record ∧
      record.policyId = policyId ∧ canonicalKey hashing record = entry.1) :
    ∃ records, selectLive hashing codec policyId resource objectId relation scanned = .ok records ∧
      (records.map (canonicalKey hashing)).Sublist (scanned.map Prod.fst) := by
  induction scanned with
  | nil => exact ⟨[], rfl, by simp⟩
  | cons entry rest ih =>
    obtain ⟨records, selected, sublist⟩ := ih fun other member =>
      placed other (List.mem_cons_of_mem entry member)
    obtain ⟨record, decoded, rfl, canonical⟩ := placed entry List.mem_cons_self
    unfold selectLive
    rw [exceptBind_of_ok decoded, if_neg (by simpa [canonicalKey] using canonical),
      exceptBind_of_ok selected]
    split
    · exact ⟨_, rfl, by simpa [canonical] using sublist⟩
    · exact ⟨_, rfl, sublist.cons _⟩

/-- Callers pass relationships whose identities the parser has accepted. -/
def AcpCall.Decoded (call : AcpCall) : Prop :=
  call.Authenticated ∧ ∀ submitted ∈ call.submission, ∀ relationship,
    submitted.cmd = .setRelationship relationship →
      StoredValue.decodesSubject relationship.subject = true

namespace AcpModule

variable {externals : Externals} {module final : AcpModule}

/-- The relation scans of the engine's store over a module. -/
def relationStore (externals : Externals) (module : AcpModule) : ZanzibarStore Unit :=
  qmdbZanzibarStore externals.hashing externals.codec (snapshotRecords module.store)

def RecordsDecode (module : AcpModule) : Prop :=
  ∀ key record, InFamily .relationship key → module.store.get key = some (.relationship record) →
    StoredValue.decodesSubject record.relationship.subject = true

theorem OwnershipChange.added_decodes {submitted : Option Submission} {removed : List Bytes}
    {added : Option RelationshipRecord}
    (change : OwnershipChange externals module submitted removed added)
    (decode : RecordsDecode module)
    (subjects : ∀ command ∈ submitted, ∀ relationship,
      command.cmd = .setRelationship relationship →
        StoredValue.decodesSubject relationship.subject = true) :
    ∀ record ∈ added, StoredValue.decodesSubject record.relationship.subject = true := by
  intro record member
  cases change with
  | unrelated _ _ asked =>
    obtain ⟨command, listed, sets⟩ := asked record member
    exact subjects command listed _ sets
  | claimed _ validated =>
    cases member
    exact validated
  | restated _ _ found =>
    cases member
    have entry := (registrationOwnerRecord_some found).1
    have held := decode _ _ entry.inFamily entry.found
    exact held
  | amended _ validated =>
    cases member
    exact validated

theorem performAll_recordsDecode (calls : List AcpCall) (decoded : ∀ call ∈ calls, call.Decoded)
    (sound : OwnersSound externals module) (decode : RecordsDecode module) :
    RecordsDecode (performAll externals module calls) := by
  induction calls generalizing module with
  | nil => exact decode
  | cons call rest ih =>
    obtain ⟨authenticated, subjects⟩ := decoded call List.mem_cons_self
    have effect := perform_effect externals module call
    refine ih (fun other member => decoded other (List.mem_cons_of_mem call member))
      (sound.effect authenticated effect) (effect.recordsHold sound authenticated ?_ decode)
    intro before removed added _ ownership decodeBefore
    exact ownership.added_decodes decodeBefore subjects

/-- The scan of a relation answers with the subjects of its live records, each once. -/
structure ScanExact (externals : Externals) (module : AcpModule)
    (policyId resource objectId relation : String) (subjects : List Subject) : Prop where
  answered : (relationStore externals module).getRelationSubjects policyId resource objectId
    relation () = (.ok subjects, ())
  targets : (relationStore externals module).getRelationTargets policyId resource objectId
    relation () = (.ok (subjects.filterMap Subject.target), ())
  once : subjects.Nodup
  live : ∀ subject, subject ∈ subjects ↔
    ∃ record, module.store.get (relationshipKeyOf externals policyId
        ⟨resource, objectId, relation, subject⟩) = some (.relationship record) ∧
      record.archived = false ∧ record.policyId = policyId ∧
        record.relationship = ⟨resource, objectId, relation, subject⟩

theorem OwnersSound.scan_exact (sound : OwnersSound externals module)
    (decode : RecordsDecode module) (policyId resource objectId relation : String) :
    ∃ subjects, ScanExact externals module policyId resource objectId relation subjects := by
  have placed : ∀ entry ∈ module.scan
      (relationshipStoragePrefix policyId (relationPrefix resource objectId relation)),
      ∃ record, externals.codec.decodeRelationship entry.2 = .ok record ∧
        record.policyId = policyId ∧ canonicalKey externals.hashing record = entry.1 := by
    rintro ⟨key, value⟩ member
    obtain ⟨record, rfl, canonical, inFamily, found, _, samePolicy, _⟩ := sound.scanned member
    have decodes := decode key record inFamily found
    exact ⟨record, codec_decodeRelationship_iff.mpr ⟨rfl, decodes⟩, samePolicy.symm,
      canonical.symm⟩
  obtain ⟨records, selected, sublist⟩ := selectLive_canonical resource objectId relation placed
  have ran : liveRecords externals.hashing externals.codec (snapshotRecords module.store) policyId
      resource objectId relation () = (.ok records, ()) :=
    congrArg (·, ()) selected
  have answered : (relationStore externals module).getRelationSubjects policyId resource objectId
      relation () = (.ok (records.map fun record => record.relationship.subject), ()) :=
    Exec.run_bind_of_ok ran
  refine ⟨_, answered, ?_, ?_, ?_⟩
  · rw [List.filterMap_map]
    exact Exec.run_bind_of_ok ran
  · -- Records of one relation have different keys, so they have different subjects.
    have keys : (records.map (canonicalKey externals.hashing)).Nodup := by
      refine sublist.nodup (List.Nodup.map_on ?_ (OrderedMap.prefixScan_nodup _ _))
      rintro ⟨key, value⟩ member ⟨_, other⟩ otherMember rfl
      have first := (OrderedMap.mem_prefixScan_iff.mp member).2
      have second := (OrderedMap.mem_prefixScan_iff.mp otherMember).2
      exact congrArg (key, ·) (Option.some.inj (first.symm.trans second))
    have same : records.map (canonicalKey externals.hashing) =
        (records.map fun record => record.relationship.subject).map fun subject =>
          relationshipKeyOf externals policyId ⟨resource, objectId, relation, subject⟩ := by
      rw [List.map_map]
      refine List.map_congr_left fun record member => ?_
      obtain ⟨_, _, _, rfl, _, _, rfl, rfl, rfl⟩ := (selectLive_ok selected record).mp member
      rfl
    exact (same ▸ keys).of_map _
  · intro subject
    have served := qmdbZanzibarStore_serves.getRelationSubjects _ _ _ _ _ _ _ answered subject
    refine served.trans (mem_liveContent_iff.trans ?_)
    simp only [codec_decodeRelationship_iff]
    constructor
    · rintro ⟨_, record, found, ⟨rfl, _⟩, live⟩
      exact ⟨record, found, live⟩
    · rintro ⟨record, found, live⟩
      have decodes := decode _ record (relationshipKey_inFamily _ _) found
      exact ⟨_, record, found, ⟨rfl, decodes⟩, live⟩

/-- A prefix leads to the keys of its own relation or object only, and the scan of a relation
in a reachable store returns the subjects of its live records, each once. -/
theorem relation_prefixes_and_scans_exact (externals : Externals) :
    (∀ scanned policyId resource objectId relation relationship,
        slash ∉ utf8 scanned → slash ∉ utf8 policyId →
          (relationshipStoragePrefix scanned (relationPrefix resource objectId relation) <+:
              relationshipKeyOf externals policyId relationship ↔
            scanned = policyId ∧ resource = relationship.resource ∧
              objectId = relationship.objectId ∧ relation = relationship.relation) ∧
          (relationshipStoragePrefix scanned (objectPrefix resource objectId) <+:
              relationshipKeyOf externals policyId relationship ↔
            scanned = policyId ∧ resource = relationship.resource ∧
              objectId = relationship.objectId)) ∧
      ∀ calls : List AcpCall, (∀ call ∈ calls, call.Decoded) →
        ∀ policyId resource objectId relation, ∃ subjects,
          ScanExact externals (performAll externals AcpModule.new calls) policyId resource
            objectId relation subjects := by
  refine ⟨?_, ?_⟩
  · intro scanned policyId resource objectId relation relationship scannedFree policyFree
    exact ⟨relationPrefix_iff scannedFree policyFree, objectPrefix_iff scannedFree policyFree⟩
  · intro calls decoded policyId resource objectId relation
    have sound := performAll_ownersSound calls (fun call member => (decoded call member).1)
      (OwnersSound.new : OwnersSound externals AcpModule.new)
    have decode : RecordsDecode (performAll externals AcpModule.new calls) := by
      refine performAll_recordsDecode calls decoded .new ?_
      intro key record inFamily found
      cases found
    exact sound.scan_exact decode policyId resource objectId relation

/-! ### A policy that is named like a relation -/

theorem separator_in_policy_misleads :
    relationshipStoragePrefix "p" (relationPrefix "a" "b" "c") <+:
        relationshipKeyOf reportExternals "p/v2/61/62/63/q" ⟨"x", "y", "z", .wildcard⟩ ∧
      "p" ≠ "p/v2/61/62/63/q" := by
  decide +kernel

/-- The owner of the registered report is the one subject of its owner relation. -/
theorem report_owner_is_scanned :
    (∀ call ∈ reportCalls.take 2, call.Decoded) ∧ slash ∉ utf8 reportPolicyId ∧
      relationshipStoragePrefix reportPolicyId (relationPrefix "file" "report" "owner") <+:
          relationshipKeyOf reportExternals reportPolicyId
            ⟨"file", "report", "owner", .entity reportOwner⟩ ∧
        ∃ subjects, ScanExact reportExternals
            (performAll reportExternals AcpModule.new (reportCalls.take 2)) reportPolicyId "file"
              "report" "owner" subjects ∧ subjects = [.entity reportOwner] := by
  have decoded : ∀ call ∈ reportCalls.take 2, call.Decoded := by
    intro call member
    simp only [reportCalls, List.take_succ_cons, List.take_zero, List.mem_cons, List.not_mem_nil,
      or_false] at member
    rcases member with rfl | rfl
    · constructor
      · intro did named
        cases named
      · intro submitted sent
        cases sent
    · constructor
      · intro did named
        cases named
        decide
      · intro submitted sent relationship written
        cases sent
        cases written
  have free : slash ∉ utf8 reportPolicyId := by decide +kernel
  obtain ⟨prefixes, scans⟩ := relation_prefixes_and_scans_exact reportExternals
  obtain ⟨subjects, scanned⟩ := scans _ decoded reportPolicyId "file" "report" "owner"
  refine ⟨decoded, free, (prefixes _ _ _ _ _ _ free free).1.mpr ⟨rfl, rfl, rfl, rfl⟩, subjects,
    scanned, ?_⟩
  have answer : ((relationStore reportExternals
      (performAll reportExternals AcpModule.new (reportCalls.take 2))).getRelationSubjects
        reportPolicyId "file" "report" "owner" ()).1 = .ok [.entity reportOwner] := by
    decide +kernel
  rw [scanned.answered] at answer
  exact Except.ok.inj answer

end AcpModule

end VeraHub.Acp
