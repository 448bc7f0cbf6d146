import VeraHub.Acp.Fitting
import VeraHub.Permission.Replay
import VeraHub.Zanzibar.Lookups

/-!
# Lookups of the module's checks

Compiled policies have distinct names and valid expressions, and while a policy
does not change, every stored relationship fits it.  So a check of a declared
relation can only miss the relation that an arrow computes, on the resource a
stored tuple leads it to.
-/

namespace VeraHub.Acp

open VeraHub.Zanzibar VeraHub.Permission

/-! ## Compiled policies -/

section Compiled

theorem map_of_mapM_ok {ε α β γ : Type} {step : α → Except ε β}
    {before : α → γ} {after : β → γ} {items : List α} {results : List β}
    (kept : ∀ item result, step item = .ok result → after result = before item)
    (built : items.mapM step = .ok results) : results.map after = items.map before := by
  induction items generalizing results with
  | nil =>
    cases built
    rfl
  | cons item rest ih =>
    rw [List.mapM_cons] at built
    obtain ⟨value, first, remaining⟩ := exceptBind_ok built
    obtain ⟨values, others, listed⟩ := exceptBind_ok remaining
    cases listed
    rw [List.map_cons, List.map_cons, kept item value first, ih others]

/-- The resources of a compiled policy, the actor among them, have distinct
names. -/
theorem namesDistinct_of_assemblePolicy {id : String} {parsed : ParsedPolicy}
    {policy : Policy} (checked : checkDefinition parsed = .ok ())
    (built : assemblePolicy id parsed = .ok policy) :
    policy.NamesDistinct := by
  obtain ⟨distinct, named⟩ := checkDefinition_names checked
  obtain ⟨resources, resourced, afterResources⟩ := exceptBind_ok built
  obtain ⟨actorRelations, acted, made⟩ := exceptBind_ok afterResources
  cases made
  have names : resources.map Resource.name =
      parsed.resources.map PolicyResource.name :=
    map_of_mapM_ok (fun _ _ compiled => (buildResource_relations compiled).1) resourced
  unfold Policy.NamesDistinct Policy.sources
  rw [List.map_append, names]
  refine List.Nodup.append distinct (List.nodup_singleton _) ?_
  intro name isResource isActor
  obtain ⟨resource, member, rfl⟩ := List.mem_map.mp isResource
  exact (named resource member).1 (List.mem_singleton.mp isActor)

variable {externals : Externals} {module : AcpModule}

theorem AcpModule.PoliciesSound.valid {id : String} {policy : Policy}
    (sound : AcpModule.PoliciesSound externals module) (known : module.cached id = some policy) :
    policy.id = id ∧ policy.validate = .ok () ∧ policy.NamesDistinct := by
  obtain ⟨_, named, _, record, stored, samePolicy⟩ := sound.cached id policy known
  obtain ⟨other, same, _, _, compiled, accepted, renamed⟩ :=
    sound.stored _ _ (policyKey_inFamily id) stored
  cases same
  obtain ⟨_, parsed, _, checked, made, valid⟩ := AcpModule.compilePolicy_ok accepted
  have distinct : compiled.NamesDistinct := namesDistinct_of_assemblePolicy checked made
  rw [← samePolicy, renamed] at named ⊢
  rw [Policy.validate_rename]
  exact ⟨named, valid, distinct⟩

end Compiled

namespace AcpModule

/-! ## Runs that leave a policy as it is -/

section Unchanged

variable (externals : Externals) (policyId : String) (policy : Policy)

/-- If the module knows the policy, it is the given one. -/
def Knows (module : AcpModule) : Prop :=
  ∀ known, module.cached policyId = some known → known = policy

/-- The policy is the same in every state of the run. -/
def PolicyUnchanged : AcpModule → List AcpCall → Prop
  | module, [] => Knows policyId policy module
  | module, call :: rest =>
    Knows policyId policy module ∧ PolicyUnchanged (perform externals module call) rest

def FittedTo (module : AcpModule) : Prop :=
  ∀ key record, InFamily .relationship key →
    module.store.get key = some (.relationship record) →
      record.policyId = policyId → FitsPolicy policy record.relationship

variable {externals policyId policy} {module final : AcpModule} {request : Request}


theorem perform_fittedTo (call : AcpCall) (authenticated : call.Authenticated)
    (knows : Knows policyId policy module) (sound : OwnersSound externals module)
    (fitted : FittedTo policyId policy module) :
    FittedTo policyId policy (perform externals module call) := by
  apply (perform_effect externals module call).recordsHold sound authenticated ?_ fitted
  intro before removed added first ownership fittedBefore record written here
  rcases ownership.added_origin (sound.operations first).policies record written with
    ⟨known, cachedHere, fits⟩ | ⟨_, stored, listed, present, samePolicy, same⟩
  · rw [here, first.within.cached] at cachedHere
    rw [← knows known cachedHere]
    exact fits
  · rw [← same]
    exact fittedBefore _ stored listed present (samePolicy.trans here)

variable {calls : List AcpCall}

theorem PolicyUnchanged.fittedTo
    (unchanged : PolicyUnchanged externals policyId policy module calls)
    (authenticated : ∀ call ∈ calls, call.Authenticated) (sound : OwnersSound externals module)
    (fitted : FittedTo policyId policy module) :
    OwnersSound externals (performAll externals module calls) ∧
      FittedTo policyId policy (performAll externals module calls) := by
  induction calls generalizing module with
  | nil => exact ⟨sound, fitted⟩
  | cons call rest ih =>
    obtain ⟨knows, further⟩ := unchanged
    have accepted := authenticated call List.mem_cons_self
    refine ih further ?_ ?_ ?_
    · intro later member
      exact authenticated later (List.mem_cons_of_mem _ member)
    · exact sound.effect accepted (perform_effect externals module call)
    · exact perform_fittedTo call accepted knows sound fitted

theorem Change.cached_kept (change : Change externals request module final)
    (unedited : ∀ definition ∈ request.definition, definition.replaced ≠ some policyId)
    (sound : PoliciesSound externals module) (known : module.cached policyId = some policy) :
    final.cached policyId = some policy := by
  cases change with
  | kept => exact known
  | @policyCreated text marshalType metadata counter compiled named counted accepted fresh =>
    rw [withPolicy_cached]
    have other : policyId ≠ compiled.id := by
      rintro rfl
      obtain ⟨_, _, _, record, stored, _⟩ := sound.cached _ _ known
      rw [fresh] at stored
      cases stored
    rw [if_neg other]
    exact known
  | @policyEdited edited text marshalType existing compiled orphans named
      found accepted complete selected =>
      rw [withPolicy_cached]
      have other : policyId ≠ edited := by
        rintro rfl
        exact unedited _ named rfl
      rw [if_neg other, (pruned_within module selected).cached]
      exact known
  | decided identified bounded =>
    rw [(decided_within _).cached]
    exact known
  | paramsSet =>
    rw [(paramsSet_within _).cached]
    exact known
  | commanded submits validated dated applied =>
    rw [applied.within.cached]
    exact known
  | expired chain =>
    rw [chain.within.cached]
    exact known

theorem perform_cached_kept (call : AcpCall)
    (unedited : ∀ definition ∈ call.definition, definition.replaced ≠ some policyId)
    (sound : OwnersSound externals module) (known : module.cached policyId = some policy) :
    (perform externals module call).cached policyId = some policy := by
  have effect := perform_effect externals module call
  obtain ⟨before, after, first, change, last⟩ := effect.exists_change
  rw [last.within.cached]
  apply change.cached_kept unedited (sound.operations first).policies
  rw [first.within.cached]
  exact known

theorem performAll_cached_kept (authenticated : ∀ call ∈ calls, call.Authenticated)
    (unedited : ∀ call ∈ calls, ∀ definition ∈ call.definition, definition.replaced ≠ some policyId)
    (sound : OwnersSound externals module) (known : module.cached policyId = some policy) :
    (performAll externals module calls).cached policyId = some policy := by
  induction calls generalizing module with
  | nil => exact known
  | cons call rest ih =>
    obtain ⟨accepted, laterAccepted⟩ := List.forall_mem_cons.mp authenticated
    obtain ⟨here, later⟩ := List.forall_mem_cons.mp unedited
    apply ih laterAccepted later
    · exact sound.effect accepted (perform_effect externals module call)
    · exact perform_cached_kept call here sound known

theorem policyUnchanged_of_unedited (authenticated : ∀ call ∈ calls, call.Authenticated)
    (unedited : ∀ call ∈ calls, ∀ definition ∈ call.definition, definition.replaced ≠ some policyId)
    (sound : OwnersSound externals module)
    (known : (performAll externals module calls).cached policyId = some policy) :
    PolicyUnchanged externals policyId policy module calls := by
  have knows : Knows policyId policy module := by
    intro earlier cachedHere
    have kept := performAll_cached_kept authenticated unedited sound cachedHere
    rw [known] at kept
    exact (Option.some.inj kept).symm
  induction calls generalizing module with
  | nil => exact knows
  | cons call rest ih =>
    obtain ⟨accepted, laterAccepted⟩ := List.forall_mem_cons.mp authenticated
    obtain ⟨here, later⟩ := List.forall_mem_cons.mp unedited
    have nextSound := sound.effect accepted (perform_effect externals module call)
    refine ⟨knows, ih laterAccepted later nextSound known ?_⟩
    intro earlier cachedHere
    have kept := performAll_cached_kept laterAccepted later nextSound cachedHere
    rw [show performAll externals (perform externals module call) rest =
      performAll externals module (call :: rest) from rfl, known] at kept
    exact (Option.some.inj kept).symm

end Unchanged

/-! ## The store of a check -/

section CheckStore

variable {V : Type} {hashing : KeyHashing} {codec : RecordCodec V} {snapshot : KvStore V}

theorem readCapture_reads :
    RecordStore.Simulates (fun _ => True) (fun _ _ => True)
      (readCapture codec snapshot) (snapshotRecords snapshot) where
  readRecord key := by
    intro capture value capture' captured _
    obtain ⟨_, charged, pointRun, _⟩ := captureRead_run captured
    obtain ⟨rfl, _⟩ := capturePoint_run pointRun
    exact ⟨trivial, fun _ _ => ⟨(), rfl, trivial⟩⟩
  scanRecords start := by
    intro capture entries capture' captured _
    obtain ⟨_, charged, entriesRun, _⟩ := captureRead_run captured
    obtain ⟨rfl, _⟩ := captureEntries_run entriesRun
    exact ⟨trivial, fun _ _ => ⟨(), rfl, trivial⟩⟩

/-- Answers that another store would give too are answers of its content. -/
theorem serves_of_simulates {σ τ : Type} [Inhabited τ] {content : Content}
    {first : ZanzibarStore σ} {second : ZanzibarStore τ}
    (simulates : ZanzibarStore.Simulates (fun _ => True) (fun _ _ => True)
      first second) (serves : second.Serves content) :
    first.Serves content where
  checkPermissionDirect := by
    intro policyId resource objectId relation subject state granted final answered
    obtain ⟨_, follows⟩ := simulates.checkPermissionDirect policyId resource
      objectId relation subject state granted final answered trivial
    obtain ⟨_, same, _⟩ := follows default trivial
    exact serves.checkPermissionDirect _ _ _ _ _ _ _ _ same
  getRelationSubjects := by
    intro policyId resource objectId relation state subjects final answered
    obtain ⟨_, follows⟩ := simulates.getRelationSubjects policyId resource
      objectId relation state subjects final answered trivial
    obtain ⟨_, same, _⟩ := follows default trivial
    exact serves.getRelationSubjects _ _ _ _ _ _ _ same
  getRelationTargets := by
    intro policyId resource objectId relation state targets final answered
    obtain ⟨_, follows⟩ := simulates.getRelationTargets policyId resource
      objectId relation state targets final answered trivial
    obtain ⟨_, same, _⟩ := follows default trivial
    exact serves.getRelationTargets _ _ _ _ _ _ _ same

/-- The reads of a record store never fail with a failed lookup. -/
structure QuietRecords {σ : Type} (store : RecordStore σ V) : Prop where
  readRecord : ∀ key, Quietly (store.readRecord key)
  scanRecords : ∀ start, Quietly (store.scanRecords start)

theorem budget_quiet {σ : Type} {allowed : σ → Prop} [DecidablePred allowed] {next : σ → σ} :
    Quietly (fun state : σ =>
      if allowed state then (.ok (), next state)
      else (.error limitError, state) : Exec σ Error Unit) := by
  intro state failure final failed
  change (if allowed state then _ else _) = _ at failed
  by_cases within : allowed state
  · rw [if_pos within] at failed
    cases failed
  · rw [if_neg within] at failed
    cases failed
    exact fun missing => missing

theorem consumeRecords_quiet (amount : Nat) :
    Quietly (consumeRecords limitError amount) :=
  budget_quiet

theorem consumeBytes_quiet (amount : Nat) :
    Quietly (consumeBytes limitError amount) :=
  budget_quiet

theorem captureRead_quiet {α : Type} {key : Bytes} {request : RecordRead}
    {read : Exec ReadLimits Error α} (quiet : Quietly read) :
    Quietly (captureRead key request read) := by
  intro capture failure final failed
  have charged : Quietly (do
      consumeReads limitError 1
      consumeBytes limitError key.length
      read : Exec ReadLimits Error α) := by
    have consumed : Quietly (consumeReads limitError 1) := budget_quiet
    refine consumed.bind fun _ => ?_
    exact (consumeBytes_quiet _).bind fun _ => quiet
  unfold captureRead at failed
  change (if _ then _ else _) = _ at failed
  by_cases earlier : capture.failed = true
  · rw [if_pos earlier] at failed
    cases failed
    exact fun missing => missing
  · rw [if_neg earlier] at failed
    match outcome : (do
        consumeReads limitError 1
        consumeBytes limitError key.length
        read : Exec ReadLimits Error α).run capture.remaining with
    | (.ok value, remaining) =>
      simp only [outcome] at failed
      cases failed
    | (.error other, remaining) =>
      simp only [outcome] at failed
      cases failed
      exact charged _ _ _ outcome

theorem readCapture_quiet : QuietRecords (readCapture codec snapshot) where
  readRecord key := by
    apply captureRead_quiet
    cases snapshot.get key with
    | none => exact Quietly.pure _
    | some value =>
      refine (consumeRecords_quiet 1).bind fun _ => ?_
      exact (consumeBytes_quiet _).bind fun _ => Quietly.pure _
  scanRecords start := by
    apply captureRead_quiet
    induction snapshot.prefixScan start with
    | nil => exact Quietly.pure _
    | cons entry rest ih =>
      refine (consumeRecords_quiet 1).bind fun _ => ?_
      refine (consumeBytes_quiet _).bind fun _ => ?_
      refine (consumeBytes_quiet _).bind fun _ => ?_
      exact ih.bind fun _ => Quietly.pure _

theorem selectLive_quiet
    (decodes : ∀ value failure, codec.decodeRelationship value = .error failure → ¬ failure.Missing)
    {policyId resource objectId relation : String} {entries : List (Bytes × V)} {failure : Error}
    (failed : selectLive hashing codec policyId resource objectId relation
      entries = .error failure) : ¬ failure.Missing := by
  induction entries with
  | nil => cases failed
  | cons entry rest ih =>
    unfold selectLive at failed
    cases decoded : codec.decodeRelationship entry.2 with
    | error other =>
      rw [decoded] at failed
      cases failed
      exact decodes _ _ decoded
    | ok record =>
      rw [decoded] at failed
      change (if _ then _ else _) = _ at failed
      split at failed
      · cases failed
        exact fun missing => missing
      cases remaining : selectLive hashing codec policyId resource objectId relation rest with
      | error other =>
        rw [remaining] at failed
        cases failed
        exact ih remaining
      | ok records =>
        rw [remaining] at failed
        change (if _ then _ else _) = _ at failed
        split at failed <;> cases failed

theorem qmdbZanzibarStore_quiet {σ : Type} {store : RecordStore σ V} (quiet : QuietRecords store)
    (decodes : ∀ value failure,
      codec.decodeRelationship value = .error failure → ¬ failure.Missing) :
    (qmdbZanzibarStore hashing codec store).Quiet := by
  have records : ∀ policyId resource objectId relation,
      Quietly (liveRecords hashing codec store policyId resource objectId relation) := by
    intro policyId resource objectId relation
    refine (quiet.scanRecords _).bind fun _ => ?_
    exact Quietly.ofExcept fun _ failed => selectLive_quiet decodes failed
  have live : ∀ policyId relationship,
      Quietly (isLive hashing codec store policyId relationship) := by
    intro policyId relationship
    refine (quiet.readRecord _).bind fun answer => ?_
    cases answer with
    | none => exact Quietly.pure _
    | some value =>
      refine (Quietly.ofExcept (decodes value)).bind fun record => ?_
      split
      · exact Quietly.fail fun missing => missing
      · exact Quietly.pure _
  refine ⟨?_, ?_, ?_⟩
  · intro policyId resource objectId relation subject
    refine (live _ _).bind fun direct => ?_
    split
    · exact Quietly.pure _
    refine (live _ _).bind fun wildcard => ?_
    split
    · exact Quietly.pure _
    · exact (records _ _ _ _).bind fun _ => Quietly.pure _
  · intro policyId resource objectId relation
    exact (records _ _ _ _).bind fun _ => Quietly.pure _
  · intro policyId resource objectId relation
    exact (records _ _ _ _).bind fun _ => Quietly.pure _

theorem validateReference_of_validate {policy : Policy} {relationship : Relationship}
    (declared : (policy.getRelation relationship.resource relationship.relation).isSome = true)
    (valid : relationship.validate policy = .ok ()) :
    relationship.validateReference policy = .ok () := by
  obtain ⟨definition, found⟩ := Option.isSome_iff_exists.mp declared
  obtain ⟨_, _, afterActors⟩ := exceptBind_ok valid
  rw [found] at afterActors
  obtain ⟨_, referenced, _⟩ := exceptBind_ok afterActors
  exact referenced

theorem permissionEngine_checksPolicy {externals : Externals}
    {module : AcpModule} {policyId : String} {policy : Policy}
    (sound : OwnersSound externals module) (known : module.cached policyId = some policy)
    (fitted : FittedTo policyId policy module) :
    ChecksPolicy (module.permissionEngine externals policy) policy
      (liveContent externals.hashing externals.codec module.store) := by
  obtain ⟨named, valid, distinct⟩ := sound.policies.valid known
  refine ⟨rfl, valid, distinct, ?_, ?_, ?_⟩
  · exact serves_of_simulates (qmdbZanzibarStore_simulates _ _ readCapture_reads)
      qmdbZanzibarStore_serves
  · apply qmdbZanzibarStore_quiet readCapture_quiet
    intro value failure failed
    unfold Externals.codec at failed
    simp only at failed
    split at failed <;> cases failed
    exact fun missing => missing
  · intro relationship member declared
    obtain ⟨value, record, stored, decoded, _, samePolicy, same⟩ := mem_liveContent_iff.mp member
    rw [(codec_decodeRelationship_iff.mp decoded).1] at stored
    have fits := fitted _ record (relationshipKey_inFamily _ _) stored (samePolicy.trans named)
    rw [same] at fits
    exact validateReference_of_validate declared (fits declared)

end CheckStore

/-- While the policy is unchanged, the check of a declared relation never
misses a resource, and it misses a relation only where a stored tuple leads an
arrow to a resource that does not declare what the arrow computes. -/
theorem failed_lookups_are_dangling_arrows (externals : Externals) (calls : List AcpCall)
    (authenticated : ∀ call ∈ calls, call.Authenticated) (policyId : String) (policy : Policy)
    (unchanged : PolicyUnchanged externals policyId policy AcpModule.new calls)
    (known : (performAll externals AcpModule.new calls).cached policyId = some policy)
    (resource relation : String) (declared : (policy.getRelation resource relation).isSome = true)
    (objectId : String) (actor : Did) (capture : Capture) :
    let module := performAll externals AcpModule.new calls
    let result := (((module.permissionEngine externals policy).check
      ⟨policyId, resource, objectId, relation, actor⟩).run capture).1
    (∀ missing, result ≠ .error (.resourceNotFound missing)) ∧
      ∀ target missing, result = .error (.relationNotFound target missing) →
        policy.DanglingArrow (liveContent externals.hashing externals.codec module.store)
          target missing := by
  intro module result
  have nothingStored : FittedTo policyId policy AcpModule.new := by
    intro key record inFamily found
    cases found
  obtain ⟨sound, fitted⟩ := unchanged.fittedTo authenticated OwnersSound.new nothingStored
  have checks := permissionEngine_checksPolicy sound known fitted
  have named := (sound.policies.valid known).1
  have excused : ∀ failure, result = .error failure →
      Excused policy (liveContent externals.hashing externals.codec module.store)
        failure := by
    intro failure failed
    apply check_excused checks declared objectId capture
    rw [named]
    exact failed
  constructor
  · intro missing failed
    exact excused _ failed
  · intro target missing failed
    exact excused _ failed

/-! ### A folder that nobody can read -/

def arrowText : String :=
  "name: files\nresources:\n  - name: file\n    permissions:\n" ++
    "      - name: read\n        expr: parent->read\n    relations:\n" ++
      "      - name: parent\n        types: [folder]\n  - name: folder\n"

/-- Reading a file is reading its folder, and a folder has an owner only. -/
def arrowParsed : ParsedPolicy where
  name := "files"
  description := ""
  spec := .none
  metadata := []
  actorRelations := []
  resources :=
    [⟨"file", "", [⟨"read", "", "parent->read"⟩],
      [⟨"parent", "", ["folder"], []⟩]⟩, ⟨"folder", "", [], []⟩]

def arrowFields : Bytes :=
  [79, 91, 235, 149, 56, 22, 134, 75, 226, 28, 40, 52, 176, 30, 206, 110,
    163, 157, 14, 69, 191, 191, 5, 209, 78, 65, 24, 107, 8, 72, 199, 106]

def arrowPolicyId : String :=
  "90fd0c5b727d2737649f55c4e54ae3426413554525b7ad42557e5942009c19ed"

def arrowExternals : Externals :=
  { reportExternals with
    hashing := { reportHashing with
        sha256 := fun input =>
          if input = utf8 "filesfileparentreadparent->readfolder" then
            arrowFields
          else if input = arrowFields ++ utf8 "1" then
            [144, 253, 12, 91, 114, 125, 39, 55, 100, 159, 85, 196, 229, 74,
              227, 66, 100, 19, 85, 69, 37, 183, 173, 66, 85, 126, 89, 66, 0, 156, 25, 237]
          else
            reportHashing.sha256 input }
    parsePolicyYaml := fun text =>
      if text = arrowText then .ok arrowParsed
      else .error "invalid policy YAML" }

def arrowCalls : List AcpCall :=
  [.createPolicy reportOwner arrowText .shortYaml,
    .directPolicyCmd reportOwner arrowPolicyId (.registerObject report),
    .directPolicyCmd reportOwner arrowPolicyId (.setRelationship
      ⟨"file", "report", "parent", .entitySet "folder" "archive" ""⟩)]

theorem arrowCalls_authenticated : ∀ call ∈ arrowCalls, call.Authenticated := by
  intro call member did actor
  simp only [arrowCalls, List.mem_cons, List.not_mem_nil, or_false] at member
  rcases member with rfl | rfl | rfl
  · cases actor
  · cases actor
    decide
  · cases actor
    decide

theorem arrowCalls_unedited :
    ∀ call ∈ arrowCalls, ∀ definition ∈ call.definition,
      definition.replaced ≠ some arrowPolicyId := by
  intro call member definition defined
  simp only [arrowCalls, List.mem_cons, List.not_mem_nil, or_false] at member
  rcases member with rfl | rfl | rfl
  · cases defined
    simp
  · cases defined
  · cases defined

def arrowModule : AcpModule :=
  performAll arrowExternals AcpModule.new arrowCalls

/-- The reader checks whether they may read the file. -/
def arrowRead (policy : Policy) : Except Error Bool :=
  (((arrowModule.permissionEngine arrowExternals policy).check
    ⟨arrowPolicyId, "file", "report", "read",
      ⟨"did:key:bob", Did.supported_bob⟩⟩).run (Capture.new permissionReadLimits)).1

theorem arrowRead_fails :
    ∃ policy, arrowModule.cached arrowPolicyId = some policy ∧
      (policy.getRelation "file" "read").isSome = true ∧
        arrowRead policy = .error (.relationNotFound "folder" "read") := by
  have evaluated : ((arrowModule.cached arrowPolicyId).any fun policy =>
      (policy.getRelation "file" "read").isSome &&
        decide (arrowRead policy = .error (.relationNotFound "folder" "read"))) = true := by
    decide +kernel
  cases known : arrowModule.cached arrowPolicyId with
  | none =>
    rw [known] at evaluated
    cases evaluated
  | some policy =>
    rw [known, Option.any_some, Bool.and_eq_true] at evaluated
    exact ⟨policy, rfl, evaluated.1, of_decide_eq_true evaluated.2⟩

theorem arrowPolicy_unchanged {policy : Policy}
    (known : arrowModule.cached arrowPolicyId = some policy) :
    PolicyUnchanged arrowExternals arrowPolicyId policy AcpModule.new
      arrowCalls :=
  policyUnchanged_of_unedited arrowCalls_authenticated arrowCalls_unedited OwnersSound.new known

/-- The policy was accepted and so was the tuple, and the read of the file
fails for want of a relation on folders. -/
theorem read_of_foldered_file_misses_relation :
    (∀ call ∈ arrowCalls, call.Authenticated) ∧
      ∃ policy,
        PolicyUnchanged arrowExternals arrowPolicyId policy AcpModule.new arrowCalls ∧
          arrowModule.cached arrowPolicyId = some policy ∧
            (policy.getRelation "file" "read").isSome = true ∧
              arrowRead policy = .error (.relationNotFound "folder" "read") := by
  obtain ⟨policy, known, declared, failed⟩ := arrowRead_fails
  exact ⟨arrowCalls_authenticated, policy, arrowPolicy_unchanged known, known, declared, failed⟩

/-- The failure is the one that the arrow of the file explains. -/
theorem foldered_file_has_dangling_arrow :
    ∃ policy, arrowRead policy = .error (.relationNotFound "folder" "read") ∧
      policy.DanglingArrow
        (liveContent arrowExternals.hashing arrowExternals.codec
          arrowModule.store) "folder" "read" := by
  obtain ⟨policy, known, declared, failed⟩ := arrowRead_fails
  refine ⟨policy, failed, ?_⟩
  exact (failed_lookups_are_dangling_arrows arrowExternals arrowCalls
    arrowCalls_authenticated arrowPolicyId policy
    (arrowPolicy_unchanged known) known "file" "read" declared "report"
    ⟨"did:key:bob", Did.supported_bob⟩ (Capture.new permissionReadLimits)).2 "folder" "read" failed

end AcpModule

end VeraHub.Acp
