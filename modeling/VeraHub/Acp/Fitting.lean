import VeraHub.Acp.Ownership
import VeraHub.Acp.OwnerAccess

/-!
# Stored relationships and edited policies

A relationship is validated when it is set, against the policy of that moment.
An edit deletes the relationships on relations that it no longer declares and
leaves all others, also those that the new definition does not admit.  As long
as no edit narrows a relation below what is stored on it, every stored
relationship fits its policy.
-/

namespace VeraHub.Acp

open VeraHub.Zanzibar

/-! ## Owner relations are unrestricted -/

section OwnerRelation

theorem relationNames_owner {withOwner : Bool}
    {relations : List PolicyRelation} {names known : List String}
    (accepted : Schema.relationNames withOwner relations names = .ok known) :
    ∀ relation ∈ relations, relation.name = "owner" → relation.types = [] := by
  induction relations generalizing names with
  | nil => exact fun _ member => (nomatch member)
  | cons first rest ih =>
    obtain ⟨_, _, afterName⟩ := exceptBind_ok accepted
    split at afterName
    · cases afterName
    split at afterName
    · cases afterName
    rename_i plain
    intro relation member isOwner
    rcases List.mem_cons.mp member with isFirst | inRest
    · rw [isFirst] at isOwner ⊢
      by_contra typed
      exact plain ⟨isOwner, .inr (.inl typed)⟩
    · exact ih afterName relation inRest isOwner

theorem resourceNames_owner {resources : List PolicyResource}
    {names known : List (String × List String)}
    (accepted : Schema.resourceNames resources names = .ok known) :
    ∀ resource ∈ resources, ∀ relation ∈ resource.relations,
      relation.name = "owner" → relation.types = [] := by
  induction resources generalizing names with
  | nil => exact fun _ member => (nomatch member)
  | cons first rest ih =>
    obtain ⟨_, _, afterName⟩ := exceptBind_ok accepted
    split at afterName
    · cases afterName
    obtain ⟨relations, related, afterRelations⟩ := exceptBind_ok afterName
    obtain ⟨_, _, remaining⟩ := exceptBind_ok afterRelations
    intro resource member
    rcases List.mem_cons.mp member with isFirst | inRest
    · rw [isFirst]
      exact relationNames_owner related
    · exact ih remaining resource inRest

theorem checkDefinition_owner {parsed : ParsedPolicy} (checked : checkDefinition parsed = .ok ()) :
    ∀ resource ∈ parsed.resources, ∀ relation ∈ resource.relations,
      relation.name = "owner" → relation.types = [] := by
  obtain ⟨_, validated, _⟩ := exceptBind_ok checked
  unfold Schema.validate at validated
  split at validated
  · cases validated
  obtain ⟨names, named, _⟩ := exceptBind_ok validated
  exact resourceNames_owner named

/-- The owner relation of every resource admits every subject. -/
def OwnerUnrestricted (policy : Policy) : Prop :=
  ∀ resource ∈ policy.resources, ∀ owner,
    resource.getRelation "owner" = some owner → owner.subjectRestriction = none

variable {parsed : PolicyResource}

theorem ownerRelation_unrestricted {owner : Relation}
    (untyped : ∀ relation ∈ parsed.relations, relation.name = "owner" → relation.types = [])
    (built : ownerRelation parsed = .ok owner) : owner.subjectRestriction = none := by
  unfold ownerRelation at built
  cases found : parsed.relations.find? fun candidate =>
      candidate.name = "owner" with
  | none =>
    simp only [found] at built
    cases built
    rfl
  | some declared =>
    simp only [found] at built
    have named := List.find?_some found
    have noTypes := untyped declared (List.mem_of_find?_eq_some found) (by simpa using named)
    unfold buildRelation at built
    rw [noTypes] at built
    cases built
    rfl

theorem buildResource_owner {spec : PolicySpecification} {resource : Resource}
    (built : buildResource spec parsed = .ok resource) :
    ∃ owner, ownerRelation parsed = .ok owner ∧ resource.getRelation "owner" = some owner := by
  obtain ⟨owner, owned, afterOwner⟩ := exceptBind_ok built
  obtain ⟨relations, _, afterRelations⟩ := exceptBind_ok afterOwner
  obtain ⟨permissions, _, made⟩ := exceptBind_ok afterRelations
  cases made
  refine ⟨owner, owned, ?_⟩
  have named := ownerRelation_name owned
  unfold Resource.getRelation
  simp [named]

end OwnerRelation

variable {policy : Policy} {policyId : String} {object : Object} {record : RelationshipRecord}

namespace AcpModule

section OwnerFits

variable {externals : Externals} {module : AcpModule}

theorem compilePolicy_ownerUnrestricted
    {text : String} {marshalType : PolicyMarshalingType} {counter : UInt64}
    {spec : Option PolicySpecification}
    (accepted : compilePolicy externals text marshalType counter spec =
      .ok policy) : OwnerUnrestricted policy := by
  obtain ⟨_, parsed, _, checked, made, _⟩ := compilePolicy_ok accepted
  intro resource member owner found
  obtain ⟨_, sources, _⟩ := assemblePolicy_resources made
  obtain ⟨source, listed, built⟩ := sources resource member
  obtain ⟨first, owned, isFirst⟩ := buildResource_owner built
  rw [isFirst] at found
  cases found
  exact ownerRelation_unrestricted (checkDefinition_owner checked source listed) owned

theorem PoliciesSound.ownerUnrestricted {id : String} (sound : PoliciesSound externals module)
    (known : module.cached id = some policy) : OwnerUnrestricted policy := by
  obtain ⟨_, _, _, record, stored, samePolicy⟩ := sound.cached id policy known
  obtain ⟨other, same, _, _, compiled, accepted, renamed⟩ :=
    sound.stored _ _ (policyKey_inFamily id) stored
  cases same
  have unrestricted : OwnerUnrestricted compiled := compilePolicy_ownerUnrestricted accepted
  rw [← samePolicy, renamed]
  exact unrestricted

theorem validateRegistrationObject_ordinary (known : module.cached policyId = some policy)
    (valid : validateRegistrationObject policyId object module = .ok ()) :
    policy.isActor object.resource = false := by
  obtain ⟨found, looked, checked⟩ := exceptBind_ok valid
  have same := cachedPolicy_ok looked
  rw [known] at same
  cases same
  by_contra actor
  rw [Bool.not_eq_false] at actor
  rw [if_pos actor] at checked
  cases checked

theorem getResource_mem {name : String}
    {resource : Resource} (ordinary : policy.isActor name = false)
    (found : policy.getResource name = some resource) : resource ∈ policy.resources := by
  unfold Policy.getResource at found
  cases declared : policy.resources.find? fun candidate =>
      candidate.name = name with
  | some first =>
    simp only [declared, Option.some.injEq] at found
    rw [← found]
    exact List.mem_of_find?_eq_some declared
  | none =>
    simp only [declared] at found
    obtain ⟨isActor, named⟩ := Option.filter_eq_some_iff.mp found
    unfold Policy.isActor at ordinary
    rw [isActor] at ordinary
    simp only at ordinary
    rw [ordinary] at named
    cases named

end OwnerFits

/-! ## Fitting relationships -/

section Fitting

def FitsPolicy (policy : Policy) (relationship : Relationship) : Prop :=
  (policy.getRelation relationship.resource relationship.relation).isSome = true →
    relationship.validate policy = .ok ()

instance (policy : Policy) (relationship : Relationship) :
    Decidable (FitsPolicy policy relationship) :=
  inferInstanceAs (Decidable (_ → _))

/-- The record fits the current version of its policy. -/
def Fitted (module : AcpModule) (record : RelationshipRecord) : Prop :=
  ∃ policy, module.cached record.policyId = some policy ∧ FitsPolicy policy record.relationship

def Fitting (module : AcpModule) : Prop :=
  ∀ key record, InFamily .relationship key →
    module.store.get key = some (.relationship record) → Fitted module record

variable (externals : Externals)

/-- What an edit would leave stored fits the definition it submits. -/
def Definition.Fits (module : AcpModule) (definition : Definition) : Prop :=
  match definition.replaced with
  | none => True
  | some policyId =>
    ∀ existing ∈ (getPolicyRecord policyId module).toOption.join,
      ∀ compiled ∈ (compilePolicy externals definition.policy definition.marshalType 0
          (some existing.policy.specification)).toOption,
        ∀ entry ∈ module.scan (relationshipPolicyPrefix policyId),
          ∀ record ∈ entry.2.decodeRelationship.toOption,
            FitsPolicy { compiled with id := policyId } record.relationship

instance (module : AcpModule) (definition : Definition) :
    Decidable (Definition.Fits externals module definition) := by
  unfold Definition.Fits
  cases definition.replaced with
  | none => exact inferInstanceAs (Decidable True)
  | some policyId => exact inferInstanceAs (Decidable (∀ _ ∈ _, _))

/-- No edit of the run narrows a relation below what is stored on it. -/
def FittingRun : AcpModule → List AcpCall → Prop
  | _, [] => True
  | module, call :: rest =>
    (∀ definition ∈ call.definition, Definition.Fits externals module definition) ∧
      FittingRun (perform externals module call) rest

instance decidableFittingRun (module : AcpModule) (calls : List AcpCall) :
    Decidable (FittingRun externals module calls) :=
  match calls with
  | [] => inferInstanceAs (Decidable True)
  | call :: rest =>
    have := decidableFittingRun (perform externals module call) rest
    inferInstanceAs (Decidable (_ ∧ _))

variable {externals} {module final : AcpModule} {request : Request}

theorem Fitted.of_cache (fitted : Fitted module record)
    (same : final.zanzibarPolicies = module.zanzibarPolicies) :
    Fitted final record := by
  obtain ⟨policy, known, fits⟩ := fitted
  refine ⟨policy, ?_, fits⟩
  unfold AcpModule.cached at known ⊢
  rw [same]
  exact known

variable {families : List Family}

theorem Fitting.within (fitting : Fitting module) (within : Within families module final)
    (unlisted : .relationship ∉ families) : Fitting final := by
  intro key record inFamily found
  rw [within.get inFamily unlisted] at found
  exact (fitting key record inFamily found).of_cache within.cache

theorem validateDeclared_fits {relationship : Relationship}
    (checked : validateDeclared policy relationship = .ok ()) :
    FitsPolicy policy relationship := by
  intro declared
  unfold validateDeclared at checked
  rw [if_pos (.inl declared)] at checked
  cases valid : relationship.validate policy with
  | ok passed => rfl
  | error error =>
    simp only [valid] at checked
    cases checked

/-- An owner fits: it is a plain actor, and the owner relation admits all. -/
theorem ownerRelationship_fits (unrestricted : OwnerUnrestricted policy)
    (ordinary : policy.isActor object.resource = false) (actor : Did) :
    FitsPolicy policy (ownerRelationship object actor) := by
  intro declared
  obtain ⟨owner, found⟩ := Option.isSome_iff_exists.mp declared
  obtain ⟨resource, looked, listed⟩ := Option.bind_eq_some_iff.mp found
  have admitsAll := unrestricted resource (getResource_mem ordinary looked) owner listed
  have actors : (ownerRelationship object actor).validateActors policy =
      .ok () := by
    unfold Relationship.validateActors
    rw [if_neg (fun wrong => by
      rw [show (ownerRelationship object actor).resource = object.resource
        from rfl, ordinary] at wrong
      cases wrong.1)]
    rfl
  have admitted : (ownerRelationship object actor).validateRestriction policy owner = .ok () := by
    unfold Relationship.validateRestriction
    rw [admitsAll]
    rfl
  unfold Relationship.validate
  rw [actors, found]
  exact admitted

theorem ownedBy_fitted {creator : Did}
    {metadata : RecordMetadata} (policies : PoliciesSound externals module)
    (valid : validateRegistrationObject policyId object module = .ok ()) :
    Fitted module (ownedBy creator policyId metadata object) := by
  obtain ⟨policy, known, _⟩ := validateRegistrationObject_ok valid
  exact ⟨policy, known, ownerRelationship_fits (policies.ownerUnrestricted known)
    (validateRegistrationObject_ordinary known valid) creator⟩

theorem OwnershipChange.added_origin {submitted : Option Submission}
    {removed : List Bytes} {added : Option RelationshipRecord}
    (change : OwnershipChange externals module submitted removed added)
    (policies : PoliciesSound externals module) :
    ∀ record ∈ added, Fitted module record ∨
      ∃ key stored, InFamily .relationship key ∧
        module.store.get key = some (.relationship stored) ∧
          stored.policyId = record.policyId ∧ stored.relationship = record.relationship := by
  intro record member
  cases change with
  | unrelated spared ordinary =>
    obtain ⟨_, policy, known, checked⟩ := ordinary record member
    exact .inl ⟨policy, known, validateDeclared_fits checked⟩
  | claimed target validated dated valid free =>
    cases member
    exact .inl (ownedBy_fitted policies valid)
  | @restated _ _ owner _ archived target found within =>
    cases member
    have entry := (registrationOwnerRecord_some found).1
    exact .inr ⟨_, owner, entry.inFamily, entry.found, rfl, rfl⟩
  | amended reveals validated dated proved found live earlier =>
    cases member
    exact .inl (ownedBy_fitted policies (revealedCommitment_ok proved).1)

theorem Fitted.ne_of_fresh {id : String}
    (fitted : Fitted module record) (policies : PoliciesSound externals module)
    (fresh : module.store.get (policyKey id) = none) : record.policyId ≠ id := by
  intro same
  obtain ⟨policy, known, _⟩ := fitted
  obtain ⟨_, _, _, stored, found, _⟩ := policies.cached _ _ known
  rw [same, fresh] at found
  cases found

theorem RelationshipsSound.mem_scan {key : Bytes}
    (sound : RelationshipsSound externals module) (inFamily : InFamily .relationship key)
    (found : module.store.get key = some (.relationship record)) : (key, .relationship record) ∈
      module.scan (relationshipPolicyPrefix record.policyId) := by
  obtain ⟨other, same, canonical, _⟩ := sound.placed key _ inFamily found
  cases same
  refine OrderedMap.mem_prefixScan_iff.mpr ⟨?_, found⟩
  rw [canonical]
  exact List.prefix_append _ _

theorem mem_scan_of_within {entry : Bytes × StoredValue} (within : Within families module final)
    (unlisted : .relationship ∉ families)
    (listed : entry ∈ final.scan (relationshipPolicyPrefix policyId)) :
    entry ∈ module.scan (relationshipPolicyPrefix policyId) := by
  obtain ⟨key, value⟩ := entry
  obtain ⟨leads, found⟩ := OrderedMap.mem_prefixScan_iff.mp listed
  have inFamily : InFamily .relationship key := by
    refine List.IsPrefix.trans ?_ leads
    unfold relationshipPolicyPrefix
    rw [List.append_assoc]
    exact List.prefix_append _ _
  rw [within.get inFamily unlisted] at found
  exact OrderedMap.mem_prefixScan_iff.mpr ⟨leads, found⟩

theorem selectKeys_decodes {mismatch : String}
    {selected : Relationship → Bool} {entries : List (Bytes × StoredValue)} {keys : List Bytes}
    (done : selectKeys externals policyId mismatch selected entries = .ok keys) :
    ∀ entry ∈ entries, ∃ record, entry.2.decodeRelationship = .ok record := by
  induction entries generalizing keys with
  | nil => exact fun _ member => (nomatch member)
  | cons first rest ih =>
    unfold selectKeys at done
    cases decoded : first.2.decodeRelationship with
    | error message =>
      simp only [decoded] at done
      cases done
    | ok record =>
      simp only [decoded] at done
      split at done
      · cases done
      obtain ⟨others, selectedRest, _⟩ := exceptBind_ok done
      intro entry member
      rcases List.mem_cons.mp member with isFirst | inRest
      · rw [isFirst]
        exact ⟨record, decoded⟩
      · exact ih selectedRest entry inRest

theorem Change.fitting (authentic : request.authentic)
    (change : Change externals request module final)
    (defined : ∀ definition ∈ request.definition, Definition.Fits externals module definition)
    (sound : OwnersSound externals module) (fitting : Fitting module) :
    Fitting final := by
  cases change with
  | kept => exact fitting
  | @policyCreated policy marshalType metadata counter compiled named counted accepted fresh =>
    intro key record inFamily found
    have notPolicy := inFamily.ne (policyKey_inFamily compiled.id) (by decide)
    have notCounter := inFamily.ne policyCounterKey_inFamily (by decide)
    rw [withPolicy_get, if_neg notPolicy, withStored_get, if_neg notCounter] at found
    have fitted := fitting key record inFamily found
    have other := fitted.ne_of_fresh sound.policies fresh
    obtain ⟨known, cachedHere, fits⟩ := fitted
    refine ⟨known, ?_, fits⟩
    rw [withPolicy_cached, if_neg other]
    exact cachedHere
  | @policyEdited policyId policy marshalType existing compiled orphans named
      found accepted complete selected =>
      intro key record inFamily stored
      have notPolicy := inFamily.ne (policyKey_inFamily policyId) (by decide)
      rw [withPolicy_get, if_neg notPolicy, foldl_withoutStored_get] at stored
      obtain ⟨gone, stored⟩ := Option.ite_none_left_eq_some.mp stored
      unfold Fitted
      rw [withPolicy_cached]
      by_cases here : record.policyId = policyId
      · -- The edited policy is the one the run's condition speaks of.
        have listed := sound.relationships.mem_scan inFamily stored
        rw [here] at listed
        obtain ⟨decoded, isDecoded⟩ := selectKeys_decodes selected _ listed
        have same : StoredValue.relationship record = .relationship decoded :=
          (decodeRelationship_ok isDecoded).1
        cases same
        refine ⟨_, if_pos here, ?_⟩
        exact defined _ named existing (by rw [found]; rfl) compiled
          (by rw [accepted]; rfl) _ listed _ (by rw [isDecoded]; rfl)
      · rw [if_neg here, (pruned_within module selected).cached]
        exact fitting key record inFamily stored
  | decided identified bounded =>
    exact fitting.within (decided_within _) (by decide)
  | paramsSet => exact fitting.within (paramsSet_within _) (by decide)
  | commanded submits validated dated applied =>
    obtain ⟨removed, added, rewrites, ownership⟩ :=
      applied.ownership (validated authentic) dated sound.policies sound.relationships
    intro key record inFamily found
    have fitted : Fitted module record := by
      rcases rewrites.stored inFamily found with ⟨written, _⟩ | ⟨old, _⟩
      · rcases ownership.added_origin sound.policies record written with
          fitted | ⟨_, stored, listed, present, samePolicy, same⟩
        · exact fitted
        · obtain ⟨policy, known, fits⟩ := fitting _ stored listed present
          rw [samePolicy] at known
          rw [same] at fits
          exact ⟨policy, known, fits⟩
      · exact fitting key record inFamily old
    exact fitted.of_cache applied.within.cache
  | expired chain => exact fitting.within chain.within (by decide)

theorem Definition.Fits.operations {definition : Definition}
    (fits : Definition.Fits externals module definition) (only : OperationsOnly module final) :
    Definition.Fits externals final definition := by
  unfold Definition.Fits at fits ⊢
  cases replaced : definition.replaced with
  | none => trivial
  | some policyId =>
    simp only [replaced] at fits
    intro existing found compiled accepted entry listed
    rw [getPolicyRecord_congr (only.within.get (policyKey_inFamily policyId) (by decide))] at found
    exact fits existing found compiled accepted entry
      (mem_scan_of_within only.within (by decide) listed)

theorem perform_fitting (call : AcpCall) (authenticated : call.Authenticated)
    (defined : ∀ definition ∈ call.definition, Definition.Fits externals module definition)
    (sound : OwnersSound externals module) (fitting : Fitting module) :
    Fitting (perform externals module call) := by
  have effect := perform_effect externals module call
  obtain ⟨before, after, first, change, last⟩ := effect.exists_change
  have changed := change.fitting authenticated
    (fun definition member => (defined definition member).operations first)
    (sound.operations first) (fitting.within first.within (by decide))
  exact changed.within last.within (by decide)

theorem FittingRun.fitting {calls : List AcpCall} (run : FittingRun externals module calls)
    (authenticated : ∀ call ∈ calls, call.Authenticated)
    (sound : OwnersSound externals module) (fitting : Fitting module) :
    Fitting (performAll externals module calls) := by
  induction calls generalizing module with
  | nil => exact fitting
  | cons call rest ih =>
    obtain ⟨defined, further⟩ := run
    have accepted := authenticated call List.mem_cons_self
    refine ih further ?_ ?_ ?_
    · intro later member
      exact authenticated later (List.mem_cons_of_mem _ member)
    · exact sound.effect accepted (perform_effect externals module call)
    · exact perform_fitting call accepted defined sound fitting

end Fitting

/-- Along every run whose edits admit what is stored, every stored relationship
on a declared relation is valid for the current version of its policy. -/
theorem stored_relationships_fit (externals : Externals) (calls : List AcpCall)
    (authenticated : ∀ call ∈ calls, call.Authenticated)
    (run : FittingRun externals AcpModule.new calls) :
    Fitting (performAll externals AcpModule.new calls) := by
  apply run.fitting authenticated OwnersSound.new
  intro key record inFamily found
  cases found

/-! ### A reader whose relation is narrowed -/

def readerText (types : String) : String :=
  "name: files\nresources:\n  - name: file\n    relations:\n" ++
    "      - name: reader\n        types: [" ++ types ++ "]\n"

def readerParsed (types : List String) : ParsedPolicy where
  name := "files"
  description := ""
  spec := .none
  metadata := []
  actorRelations := []
  resources := [⟨"file", "", [], [⟨"reader", "", types, []⟩]⟩]

def readerFields : Bytes :=
  [249, 130, 4, 153, 79, 60, 25, 244, 240, 63, 81, 80, 101, 175, 120, 158,
    121, 52, 245, 14, 163, 131, 203, 85, 210, 205, 204, 122, 227, 229, 141, 2]

def readerPolicyId : String :=
  "d5c3305f604f0439ee1b122e054803e37fdce3a456acf7f76d2d42edf46226fa"

def readerExternals : Externals :=
  { reportExternals with
    hashing := { reportHashing with
        sha256 := fun input =>
          if input = utf8 "filesfilereader" then
            readerFields
          else if input = readerFields ++ utf8 "0" then
            [104, 41, 82, 206, 10, 111, 22, 8, 169, 163, 12, 116, 151, 64, 97,
              246, 252, 58, 224, 232, 143, 164, 161, 248, 112, 214, 66, 184, 180, 183, 170, 71]
          else if input = readerFields ++ utf8 "1" then
            [213, 195, 48, 95, 96, 79, 4, 57, 238, 27, 18, 46, 5, 72, 3, 227,
              127, 220, 227, 164, 86, 172, 247, 247, 109, 45, 66, 237, 244, 98, 38, 250]
          else
            reportHashing.sha256 input }
    parsePolicyYaml := fun text =>
      if text = readerText "" then .ok (readerParsed [])
      else if text = readerText "file" then .ok (readerParsed ["file"])
      else if text = readerText "actor" then .ok (readerParsed ["actor"])
      else .error "invalid policy YAML" }

def reader : Relationship :=
  ⟨"file", "report", "reader", .entity ⟨"did:key:bob", Did.supported_bob⟩⟩

/-- A reader is set while anything may read; then only some types may. -/
def narrowingCalls (types : String) : List AcpCall :=
  [.createPolicy reportOwner (readerText "") .shortYaml,
    .directPolicyCmd reportOwner readerPolicyId (.registerObject report),
    .directPolicyCmd reportOwner readerPolicyId (.setRelationship reader),
    .editPolicy reportOwner readerPolicyId (readerText types) .shortYaml]

theorem narrowingCalls_authenticated (types : String) :
    ∀ call ∈ narrowingCalls types, call.Authenticated := by
  intro call member did actor
  simp only [narrowingCalls, List.mem_cons, List.not_mem_nil, or_false] at member
  rcases member with rfl | rfl | rfl | rfl
  · cases actor
  · cases actor
    decide
  · cases actor
    decide
  · cases actor

def storedReader (types : String) : Option RelationshipRecord :=
  ((performAll readerExternals AcpModule.new
      (narrowingCalls types)).store.get
        (relationshipKeyOf readerExternals readerPolicyId reader)).bind
    fun value => value.decodeRelationship.toOption

/-- After the relation was narrowed to files, the reader is still stored and
no longer valid. -/
theorem narrowed_reader_stays_stored :
    (∀ call ∈ narrowingCalls "file", call.Authenticated) ∧
      (storedReader "file").isSome = true ∧
        ¬ Fitting (performAll readerExternals AcpModule.new (narrowingCalls "file")) := by
  have kept : storedReader "file" = some ⟨readerPolicyId, reader, false,
      plainMetadata reportOwner⟩ := by
    decide +kernel
  refine ⟨narrowingCalls_authenticated "file", by rw [kept]; rfl, ?_⟩
  intro fitting
  obtain ⟨value, stored, decoded⟩ := Option.bind_eq_some_iff.mp kept
  have narrowed : ((performAll readerExternals AcpModule.new
      (narrowingCalls "file")).cached readerPolicyId).all
        (fun current => decide (FitsPolicy current reader)) = false := by
    decide +kernel
  cases read : value.decodeRelationship with
  | error message =>
    rw [read] at decoded
    cases decoded
  | ok record =>
    rw [read] at decoded
    cases decoded
    rw [(decodeRelationship_ok read).1] at stored
    obtain ⟨policy, known, fits⟩ := fitting _ _ (relationshipKey_inFamily _ _) stored
    rw [known] at narrowed
    exact of_decide_eq_false narrowed fits

/-- Narrowing the relation to actors admits the stored reader. -/
theorem narrowed_actor_reader_fits :
    (∀ call ∈ narrowingCalls "actor", call.Authenticated) ∧
      FittingRun readerExternals AcpModule.new (narrowingCalls "actor") ∧
        (storedReader "actor").isSome = true ∧
          Fitting (performAll readerExternals AcpModule.new (narrowingCalls "actor")) := by
  have run : FittingRun readerExternals AcpModule.new (narrowingCalls "actor") := by
    decide +kernel
  refine ⟨narrowingCalls_authenticated "actor", run, by decide +kernel, ?_⟩
  exact stored_relationships_fit readerExternals (narrowingCalls "actor")
    (narrowingCalls_authenticated "actor") run

end AcpModule

end VeraHub.Acp
