import VeraHub.Acp.ArrowTargets
import VeraHub.Domain.Finality
import VeraHub.Permission.Coverage

/-!
# Permission responses

A client takes a response apart without trusting the server: a light block
certifies a module root, the proofs below the root give records, and the evaluator
runs over these records alone.  The node checks with a cached policy and read limits.
-/

namespace VeraHub.Permission

open VeraHub.Acp VeraHub.Domain VeraHub.Zanzibar

/-! ## Responses and their verification -/

/-- Evidence for one read; the original format has two kinds of its own. -/
inductive PermissionRead (Original : Type) where
  | currentPoint (key : Bytes) (value : Option Bytes) (proof : Bytes)
  | currentPrefix (start proof : Bytes)
  | original (evidence : Original)

structure PermissionProof (Original : Type) where
  roots : Option (Vector B256 4)
  reads : List (PermissionRead Original)

structure PermissionResponse (Original : Type) where
  revision : LightBlock
  proof : PermissionProof Original

inductive ResponseError where
  | finalization (error : LightBlockError)
  | original (message : String)
  | permission (error : PermissionError)
deriving DecidableEq

def invalid (message : String) : ResponseError :=
  .permission (.invalid message)

structure ResponseLimits extends PermissionLimits where
  proofBytes : Nat

/-- The checks, decoders and serialized lengths a client uses; `originalReads`
verifies a proof of the original format. -/
structure Client (Key Certificate : Type) where
  verifier : Verifier Key Certificate
  system : ProofSystem
  digest : B256 → system.Digest
  proofs : ProofCodec system
  decodeEvidence : (limit : Nat) → Bytes →
    Option { evidence : PrefixEvidence system // evidence.entries.length ≤ limit }
  Original : Type
  originalReads : B256 → UInt64 → ResponseLimits → List (PermissionRead Original) →
    Except ResponseError (VerifiedRecords Bytes)
  hashing : KeyHashing
  codec : RecordCodec Bytes
  requestSize : String → AccessRequest → Nat
  revisionSize : LightBlock → Nat
  proofSize : PermissionProof Original → Nat

def combineModuleRoots (keccak256 : Bytes → B256) (roots : Vector B256 4) : B256 :=
  keccak256 (utf8 "_HUB_MODULE_ROOT" ++ roots.toList.flatMap (wordBytes 32))

def insertOnce {α : Type} (failure : String) (answers : Bytes → Option α) (key : Bytes)
    (answer : α) : Except ResponseError (Bytes → Option α) :=
  if (answers key).isSome then
    .error (invalid failure)
  else
    .ok (Function.update answers key (some answer))

section Verification

variable {Key Certificate : Type} (client : Client Key Certificate)

/-- Verify one read; `remaining` records may still be shown. -/
def currentRead (root : client.system.Digest) (held : VerifiedRecords Bytes) (remaining : Nat) :
    PermissionRead client.Original → Except ResponseError (VerifiedRecords Bytes × Nat)
  | .currentPoint key value proof =>
    if remaining < value.toList.length then
      .error (.permission .limit)
    else do
      (verifyPoint client.proofs root key value proof).mapError .permission
      let points ← insertOnce "duplicate point read" held.points key value
      .ok ({ held with points := points }, remaining - value.toList.length)
  | .currentPrefix start proof =>
    if start.length > maxKeyBytes then
      .error (.permission .limit)
    else
      match client.decodeEvidence remaining proof with
      | none => .error (invalid "prefix encoding or record limit")
      | some evidence => do
        (evidence.val.verify root start).mapError .permission
        let prefixes ← insertOnce "duplicate prefix read" held.prefixes start evidence.val.records
        .ok ({ held with prefixes := prefixes }, remaining - evidence.val.entries.length)
  | .original _ => .error (invalid "mixed proof formats")

def currentReads (root : client.system.Digest) (held : VerifiedRecords Bytes) (remaining : Nat) :
    List (PermissionRead client.Original) → Except ResponseError (VerifiedRecords Bytes)
  | [] => .ok held
  | read :: rest => do
    let (held, remaining) ← currentRead client root held remaining read
    currentReads root held remaining rest

variable (policy : String) (request : AccessRequest) (limits : ResponseLimits)

def verifyReads (root : B256) (height : UInt64) (proof : PermissionProof client.Original) :
    Except ResponseError (VerifiedRecords Bytes) :=
  match proof.roots with
  | some roots =>
    if combineModuleRoots client.verifier.keccak256 roots ≠ root then
      .error (invalid "current-state roots")
    else
      currentReads client (client.digest roots[0]) ⟨fun _ => none, fun _ => none⟩
        limits.reads.records proof.reads
  | none => client.originalReads root height limits proof.reads

def verifyPermissionProof (root : B256) (height : UInt64)
    (proof : PermissionProof client.Original) : Except ResponseError Bool := do
  (validateRequest client.requestSize policy request limits.toPermissionLimits).mapError .permission
  if proof.reads.length > limits.reads.reads ∨ client.proofSize proof > limits.proofBytes then
    .error (.permission .limit)
  else
    let records ← verifyReads client limits root height proof
    (verifiedEvaluation client.hashing client.codec records policy request
      limits.reads).mapError fun error => .permission (.evaluation error)

def PermissionResponse.verify [DecidableEq Key] (response : PermissionResponse client.Original)
    (minimumHeight : UInt64) (trustedKey : Key) : Except ResponseError Bool := do
  (validateRequest client.requestSize policy request limits.toPermissionLimits).mapError .permission
  if client.revisionSize response.revision > 2 * lightBlockMaxArtifactBytes + 2 ^ 16 ∨
      client.proofSize response.proof > limits.proofBytes then
    .error (.permission .limit)
  else
    let roots ← (verifyLightBlock client.verifier response.revision trustedKey).mapError
      .finalization
    if response.revision.height < minimumHeight then
      .error (invalid "revision precedes required minimum")
    else
      verifyPermissionProof client policy request limits roots.2 response.revision.height
        response.proof

/-! ## Accepted reads -/

/-- A module root commits to a database: whatever verifies under it is what the
database holds. -/
structure Commits (root : B256) (height : UInt64) (database : KvStore Bytes) : Prop where
  current : ∀ roots, combineModuleRoots client.verifier.keccak256 roots = root →
    client.system.Authenticates (client.digest roots[0]) database
  original : ∀ limits reads records,
    client.originalReads root height limits reads = .ok records → AnswersOf database records

theorem insertOnce_ok {α : Type} {failure : String} {answers final : Bytes → Option α}
    {key : Bytes} {answer : α} (inserted : insertOnce failure answers key answer = .ok final)
    {stored : Bytes → α} (fits : answer = stored key)
    (allFit : ∀ other found, answers other = some found → found = stored other) :
    ∀ other found, final other = some found → found = stored other := by
  obtain ⟨_, inserted⟩ := ifError_ok inserted
  cases inserted
  intro other found known
  by_cases same : other = key
  · subst same
    cases (Function.update_self ..).symm.trans known
    exact fits
  · exact allFit other found ((Function.update_of_ne same ..).symm.trans known)

variable {client} {limits} {database : KvStore Bytes} {held records : VerifiedRecords Bytes}
  {remaining : Nat}

section

variable {root : client.system.Digest} (authentic : client.system.Authenticates root database)

include authentic

theorem verifyPoint_ok {key proof : Bytes} {answer : Option Bytes}
    (verified : verifyPoint client.proofs root key answer proof = .ok ()) :
    answer = database.get key := by
  cases answer with
  | none => exact (verifyPoint_none_ok authentic verified).symm
  | some value =>
    obtain ⟨_, verified⟩ := ifError_ok verified
    cases decoded : client.proofs.membership proof with
    | none => simp [decoded] at verified
    | some membership =>
      cases valid : included key value membership root with
      | true => exact (authentic.update _ _ _ _ valid).1.symm
      | false => simp [decoded, valid] at verified

theorem currentRead_ok {left : Nat} {read : PermissionRead client.Original}
    (accepted : currentRead client root held remaining read = .ok (records, left))
    (answers : AnswersOf database held) : AnswersOf database records := by
  cases read with
  | currentPoint key value proof =>
    obtain ⟨_, accepted⟩ := ifError_ok accepted
    obtain ⟨_, verified, accepted⟩ := exceptBind_ok accepted
    obtain ⟨points, inserted, accepted⟩ := exceptBind_ok accepted
    cases accepted
    have fits := verifyPoint_ok authentic (mapError_ok verified)
    exact ⟨insertOnce_ok inserted fits answers.points, answers.prefixes⟩
  | currentPrefix start proof =>
    obtain ⟨_, accepted⟩ := ifError_ok accepted
    cases decoded : client.decodeEvidence remaining proof with
    | none => simp [decoded] at accepted
    | some evidence =>
      simp only [decoded] at accepted
      obtain ⟨_, verified, accepted⟩ := exceptBind_ok accepted
      obtain ⟨prefixes, inserted, accepted⟩ := exceptBind_ok accepted
      cases accepted
      have fits := verify_ok authentic (mapError_ok verified)
      exact ⟨answers.points, insertOnce_ok inserted fits answers.prefixes⟩
  | original evidence => cases accepted

theorem currentReads_ok {reads : List (PermissionRead client.Original)}
    (accepted : currentReads client root held remaining reads = .ok records)
    (answers : AnswersOf database held) : AnswersOf database records := by
  induction reads generalizing held remaining with
  | nil =>
    cases accepted
    exact answers
  | cons read rest ih =>
    obtain ⟨_, first, accepted⟩ := exceptBind_ok accepted
    exact ih accepted (currentRead_ok authentic first answers)

end

theorem verifyReads_ok {root : B256} {height : UInt64}
    (commits : Commits client root height database) {proof : PermissionProof client.Original}
    (verified : verifyReads client limits root height proof = .ok records) :
    AnswersOf database records := by
  unfold verifyReads at verified
  cases shown : proof.roots with
  | none =>
    simp only [shown] at verified
    exact commits.original _ _ _ verified
  | some roots =>
    simp only [shown] at verified
    obtain ⟨combined, verified⟩ := ifError_ok verified
    exact currentReads_ok (commits.current roots (not_not.mp combined)) verified
      ⟨by simp, by simp⟩

end Verification

/-! ## Decisions of clients -/

/-- The light block of an accepted response is certified by the trusted key, and
the decision is that of the full records its module root commits to. -/
theorem accepted_responses_decide_as_certified_records {Key Certificate : Type} [DecidableEq Key]
    (client : Client Key Certificate) (canonical : Canonical client.verifier)
    {signs : Key → Certificate → Option Proposal} {trustedKey : Key}
    (sound : ∀ proposal certificate,
      client.verifier.verifyCertificate trustedKey proposal certificate = true →
        signs trustedKey certificate = some proposal)
    (policy : String) (request : AccessRequest) (limits : ResponseLimits)
    (response : PermissionResponse client.Original) (minimumHeight : UInt64) (decision : Bool)
    (accepted : response.verify client policy request limits minimumHeight trustedKey =
      .ok decision) :
    ∃ block finalization, Displays client.verifier response.revision block ∧
      Finalizes client.verifier signs trustedKey finalization block ∧
        minimumHeight ≤ block.height ∧
          ∀ database, Commits client block.moduleStateRoot block.height database →
            snapshotEvaluation client.hashing client.codec database policy request =
              .ok decision := by
  obtain ⟨_, _, accepted⟩ := exceptBind_ok accepted
  obtain ⟨_, accepted⟩ := ifError_ok accepted
  obtain ⟨_, light, accepted⟩ := exceptBind_ok accepted
  obtain ⟨recent, accepted⟩ := ifError_ok accepted
  obtain ⟨block, finalized, light⟩ := exceptBind_ok (mapError_ok light)
  cases light
  obtain ⟨few, _, displays, certified, followed, checked⟩ :=
    verifyFinalizedBlock_ok canonical finalized
  obtain ⟨descendants, length, linked, isTip⟩ := followDescendants_ok canonical followed
  rw [isTip] at checked
  obtain ⟨_, finalization, _, _, verified, proposes⟩ := checkFinalization_ok checked
  rw [displays.height] at recent accepted
  refine ⟨block, finalization, displays, ⟨sound _ _ verified, descendants, length ▸ few, linked,
    proposes⟩, UInt64.not_lt.mp recent, fun database commits => ?_⟩
  obtain ⟨_, _, accepted⟩ := exceptBind_ok accepted
  obtain ⟨_, accepted⟩ := ifError_ok accepted
  obtain ⟨records, read, accepted⟩ := exceptBind_ok accepted
  obtain ⟨_, replayed⟩ := evaluateAccessRequest_simulates client.hashing client.codec
    (verifiedRecords_simulates (verifyReads_ok commits read)) policy request limits.reads decision
    _ (Prod.ext (mapError_ok accepted) rfl) trivial
  obtain ⟨_, evaluated, _⟩ := replayed () trivial
  exact congrArg Prod.fst evaluated

/-! ### A policy that is not among three records -/

def threeClient : Client Nat (Nat × Proposal) where
  verifier :=
    { pairVerifier with
      keccak256 := fun bytes =>
        if bytes.length = 144 then 72 else pairVerifier.keccak256 bytes }
  system := threeProofs
  digest _ := (3 : Nat)
  proofs := threeCodec
  decodeEvidence _ _ := none
  Original := Unit
  originalReads _ _ _ _ := .error (.original "no proof")
  hashing := planHashing
  codec := ⟨List.length, fun _ => .error (.json "EOF"), fun _ => .error (.json "EOF")⟩
  requestSize _ _ := 120
  revisionSize _ := 900
  proofSize _ := 300

def absentPolicyResponse : PermissionResponse Unit :=
  ⟨pairLight, some (Vector.replicate 4 3), [.currentPoint (policyKey "policy") none []]⟩

theorem absent_policy_is_certified :
    ∃ block, Displays threeClient.verifier pairLight block ∧ 20 ≤ block.height ∧
      snapshotEvaluation planHashing threeClient.codec threeRecords "policy" planRequest =
        .ok false := by
  obtain ⟨block, _, displays, _, recent, decides⟩ := accepted_responses_decide_as_certified_records
    threeClient pairVerifier_canonical pairSigns_of_verified "policy" planRequest
    ⟨planLimits, 4194304⟩ absentPolicyResponse 20 false (by decide +kernel)
  refine ⟨block, displays, recent, decides threeRecords ⟨fun _ _ => threeProofs_authenticates, ?_⟩⟩
  intro limits reads records read
  cases read

/-! ## Decisions of the node -/

section Node

open AcpModule

variable {policyId : String} {request : AccessRequest}

/-- Operations are granted when every check succeeds, and denied when one says
no. -/
theorem grantOperations_checks {engine : PermissionEngine Capture} {subject : Did}
    {operations : List Operation} (capture : Capture) :
    let granting := ((grantOperations engine policyId subject operations).run capture).1
    let checking := ((checkOperations engine policyId subject operations).run capture).1
    (granting = .ok () → checking = .ok true) ∧
      ∀ message, granting = .error (.unauthorized message) → checking = .ok false := by
  induction operations generalizing capture with
  | nil => exact ⟨fun _ => rfl, fun _ denied => by cases denied⟩
  | cons operation rest ih =>
    match checked : (engine.check ⟨policyId, operation.object.resource, operation.object.id,
        operation.permission, subject⟩).run capture with
    | (.error error, _) =>
      rw [Exec.run] at checked
      simp [grantOperations, Exec.run, checked]
    | (.ok granted, middle) =>
      unfold checkOperations grantOperations
      rw [Exec.run_bind_of_ok checked]
      rw [Exec.run] at checked
      cases granted with
      | false => exact ⟨by simp [Exec.run, checked], fun _ _ => rfl⟩
      | true => simpa [Exec.run, checked] using ih middle

theorem snapshotEvaluation_of_captured {V : Type} {hashing : KeyHashing} {codec : RecordCodec V}
    {database : KvStore V} {value : V} {record : PolicyRecord} {capture : Capture} {answer : Bool}
    (stored : database.get (policyKey policyId) = some value)
    (decoded : codec.decodePolicy value = .ok record) (named : record.policy.id = policyId)
    (checked : ((checkOperations (accessEngine hashing codec (readCapture codec database)
      record.policy) policyId request.actor.did request.operations).run capture).1 = .ok answer) :
    snapshotEvaluation hashing codec database policyId request = .ok answer := by
  obtain ⟨_, follows⟩ := checkOperations_simulates hashing codec readCapture_reads record.policy
    policyId request.actor.did request.operations _ _ _ (Prod.ext checked rfl) trivial
  obtain ⟨_, plain, _⟩ := follows () trivial
  unfold snapshotEvaluation evaluateAccessRequest
  simp only [snapshotRecords, Exec.run_bind, Exec.run_pure, stored, Exec.run_ofExcept, decoded,
    named, ne_eq, not_true_eq_false, if_false]
  exact congrArg Prod.fst plain

/-- In every reachable state the node decides as the evaluation of its stored
records does, if the stored policy can be read. -/
theorem check_access_decides_as_stored_records (externals : Externals)
    (calls : List { call : AcpCall // call.Authenticated }) (creator : Did) (policyId : String)
    (request : AccessRequest) (block : BlockExecCtx) (tx : TxExecCtx) :
    let module := performAll externals AcpModule.new (calls.map Subtype.val)
    let result := (checkAccess externals creator policyId request block tx module).1
    let readable := ∃ value record, module.store.get (policyKey policyId) = some value ∧
      externals.codec.decodePolicy value = .ok record
    let evaluated := snapshotEvaluation externals.hashing externals.codec module.store policyId
      request
    (∀ decision, result = .ok decision → readable → evaluated = .ok true) ∧
      ∀ message, result = .error (.unauthorized message) → readable → evaluated = .ok false := by
  intro module result readable evaluated
  have sound : OwnersSound externals module :=
    performAll_ownersSound _ (List.forall_mem_map.mpr fun call _ => call.property) .new
  suffices settled : (checkAccess externals creator policyId request block tx).Wp (fun result _ =>
      (∀ decision, result = .ok decision → readable → evaluated = .ok true) ∧ ∀ message,
        result = .error (.unauthorized message) → readable → evaluated = .ok false) module from
    settled
  refine Exec.Wp.failIf (fun _ => by simp) fun _ => ?_
  refine Exec.Wp.ofExcept (fun _ failed => ?_) fun _ _ => ?_
  · unfold DecisionRequest.id at failed
    split_ifs at failed <;> cases failed <;> simp
  refine Exec.Wp.query (fun _ failed => ?_) fun policy found => ?_
  · unfold cachedPolicy at failed
    split at failed <;> cases failed
    simp
  obtain ⟨_, named, _, kept, stored, rfl⟩ := sound.policies.cached _ _ (cachedPolicy_ok found)
  have decodes : readable → externals.codec.decodePolicy (.policy kept) = .ok kept := by
    rintro ⟨_, record, found, decoded⟩
    cases stored.symm.trans found
    simp only [Externals.codec] at decoded ⊢
    split at decoded <;> cases decoded
    cases decodePolicy_ok (by assumption)
    simp [*]
  obtain ⟨grants, denies⟩ := grantOperations_checks (Capture.new permissionReadLimits)
  refine Exec.Wp.query (fun _ failed => ?_) fun _ granted => ?_
  · refine ⟨by simp, fun message denied read => ?_⟩
    cases denied
    exact snapshotEvaluation_of_captured stored (decodes read) named (denies message failed)
  · refine Exec.Wp.modify (Exec.Wp.pure ⟨fun _ _ read => ?_, by simp⟩)
    exact snapshotEvaluation_of_captured stored (decodes read) named (grants granted)

end Node

end VeraHub.Permission
