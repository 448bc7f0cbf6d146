import VeraHub.Acp.Restart
import VeraHub.Vera.AcpEffects
import VeraHub.Vera.Revocation

/-!
# Delegated operations are applied once

A request with an identity leaves its outcome under the canonical name of its
actor.  Until the deadline in the identity the outcome stays, and a repeated
request is answered from it; from the deadline on the identity itself is
refused.  So no sequence of calls applies an operation twice.  The answer is
the recorded result unless that result is one the decoder refuses.
-/

namespace VeraHub.Vera

open VeraHub.Zanzibar VeraHub.Acp VeraHub.Acp.AcpModule VeraModule

/-! ## Results that can be read again -/

namespace DelegatedOperation

/-- The operation leaves a result that the decoder reads again: a policy that
nests not too deeply, or a relationship with an identity. -/
def Readable (externals : HubExternals) (module : AcpModule) : DelegatedOperation → Prop
  | .createPolicy policy marshalType =>
    ∀ counter compiled,
      compilePolicy externals.acp policy marshalType counter none = .ok compiled →
        2 + max (policyNesting compiled) 2 ≤ jsonLimit
  | .editPolicy policyId policy marshalType =>
    ∀ existing compiled,
      getPolicyRecord policyId module = .ok (some existing) →
        compilePolicy externals.acp policy marshalType 0
            (some existing.policy.specification) = .ok compiled →
          3 + max (policyNesting compiled) 2 ≤ jsonLimit
  | .policyCommand _ cmd => Nameable cmd
  | _ => True

theorem readResult_of_scope {first second : DelegatedOperation}
    (same : first.scope = second.scope) : first.readResult = second.readResult := by
  funext result
  cases first <;> cases second <;> cases same <;> cases result <;> rfl

end DelegatedOperation

namespace Hub

section Reading

variable {externals : HubExternals} {hub : Hub}

def ReadAgain (operation : DelegatedOperation) (value : OperationResult) :
    Prop :=
  1 + max (resultNesting value) 1 ≤ jsonLimit ∧ operation.readResult value = .ok value

theorem keeping_result {α : Type} {toResult : α → OperationResult}
    {body : AcpM α} {holds : α → Prop} {post : OperationResult → Prop}
    (ran : body.Wp (fun result _ => ∀ inner, result = .ok inner → holds inner) hub.acp)
    (kept : ∀ inner, holds inner → post (toResult inner)) :
    (keeping toResult body).Wp (fun result _ => ∀ value, result = .ok value → post value) hub := by
  apply Exec.Wp.bind
  apply Exec.Wp.within
  apply Exec.Wp.weaken ran
  intro result final held
  cases result with
  | error failure =>
    intro value succeeded
    cases succeeded
  | ok inner =>
    intro value succeeded
    cases succeeded
    exact kept inner (held inner rfl)

theorem serve_result {actor : Did} {nesting : Nat}
    {request : Hub → Except AcpError ServiceOutcome} :
    (serve externals actor nesting request).Wp
      (fun result _ => ∀ value, result = .ok value →
        ∃ encoded, value = .foreign nesting encoded) hub := by
  apply Exec.Wp.query
  · intro failure _ value succeeded
    cases succeeded
  intro outcome _
  apply Exec.Wp.step
  · intro failure _ _ value succeeded
    cases succeeded
  intro _ middle _
  apply Exec.Wp.modify
  intro value succeeded
  cases succeeded
  exact ⟨outcome.result, rfl⟩

theorem body_readAgain {context : BlockExecCtx} {submission : TxExecCtx}
    {actor worker : Did} (operation : DelegatedOperation)
    (readable : operation.Readable externals hub.acp) (accepted : didAccepts actor.asStr = true)
    (sound : AmendmentsSound hub.acp) :
    (body externals context submission actor worker operation).Wp
      (fun result _ => ∀ value, result = .ok value →
        ReadAgain operation value) hub := by
  cases operation with
  | createPolicy policy marshalType =>
    refine keeping_result createPolicyWithMetadata_result ?_
    intro record compiled
    obtain ⟨counter, compiled⟩ := compiled
    have shallow := readable counter record.policy compiled
    refine ⟨?_, rfl⟩
    simp only [resultNesting, policyRecordNesting]
    omega
  | editPolicy policyId policy marshalType =>
    refine keeping_result editPolicy_result ?_
    intro edited facts
    obtain ⟨existing, compiled, found, made, renamed⟩ := facts
    have shallow := readable existing compiled found made
    have sameNesting : policyNesting edited.2.policy =
        policyNesting compiled := by
      rw [renamed]
      rfl
    refine ⟨?_, rfl⟩
    simp only [resultNesting, policyRecordNesting, sameNesting]
    omega
  | policyCommand policyId cmd =>
    have decoded : (executePolicyCmd externals.acp actor policyId cmd context
        submission).Wp (fun result _ => ∀ inner, result = .ok inner →
          StoredValue.decodesResult inner = true) hub.acp := by
      apply Exec.Wp.weaken (executePolicyCmd_applied cmd context submission)
      intro result final outcome inner succeeded
      rw [succeeded] at outcome
      obtain ⟨metadata, eventMetadata, _, applied⟩ := outcome
      exact applied.decodes readable accepted sound
    refine keeping_result decoded ?_
    intro inner named
    refine ⟨(by decide : 1 + max 6 1 ≤ jsonLimit), ?_⟩
    simp only [DelegatedOperation.readResult, StoredValue.decodeCommand, named, if_true]
  | checkAccess policyId request =>
    have any : (checkAccess externals.acp worker policyId request context submission).Wp
        (fun result _ => ∀ inner, result = .ok inner → True) hub.acp := fun _ _ => trivial
    refine keeping_result any ?_
    intro decision _
    exact ⟨(by decide : 1 + max 4 1 ≤ jsonLimit), rfl⟩
  | ringCommand command =>
    apply Exec.Wp.weaken serve_result
    intro result final served value succeeded
    obtain ⟨encoded, same⟩ := served value succeeded
    rw [same]
    exact ⟨(by decide : 1 + max 4 1 ≤ jsonLimit), rfl⟩
  | storeThresholdObject object =>
    apply Exec.Wp.weaken serve_result
    intro result final served value succeeded
    obtain ⟨encoded, same⟩ := served value succeeded
    rw [same]
    exact ⟨(by decide : 1 + max 2 1 ≤ jsonLimit), rfl⟩

end Reading

/-! ## Retention -/

section Retention

variable {externals : HubExternals} {hub : Hub} {actor : String}
  {id : OperationId} {value : StoredValue} {now : UInt64}

theorem beBytes_expiresAt (id : OperationId) : beBytes id.expiresAt = id.bytes.take 8 := by
  have width : (id.bytes.take 8).length = 8 := by
    rw [List.length_take, id.width]
    rfl
  apply fromBigEndian_inj
  · rw [length_beBytes, width]
  · have small := fromBigEndian_lt (id.bytes.take 8)
    rw [width] at small
    rw [fromBigEndian_beBytes]
    exact UInt64.toNat_ofNat_of_lt' small

variable (externals actor id value now hub) in
def Retained : Prop :=
  hub.acp.store.get (outcomeKey externals.acp actor id.bytes) = some value ∨ id.expiresAt ≤ now

theorem Retained.perform (retained : Retained externals hub actor id value now) (call : HubCall)
    (earlier : ∀ time ∈ call.time, time ≤ now) :
    Retained externals (perform externals hub call) actor id value now := by
  rcases retained with stored | passed
  · have outcomes :=
      (@perform_acpEffect externals hub call).outcomes _ _
        (outcomeKey_inFamily actor id.bytes) stored
    rcases outcomes with kept | ⟨time, isTime, full, deadline⟩
    · exact .inl kept
    · rw [deadlineOf_outcomeKey id.width full, ← beBytes_expiresAt, beBytes_le_iff] at deadline
      exact .inr (UInt64.le_trans deadline (earlier time isTime))
  · exact .inr passed

variable {calls : List HubCall}

theorem Retained.performAll (retained : Retained externals hub actor id value now)
    (earlier : ∀ call ∈ calls, ∀ time ∈ call.time, time ≤ now) :
    Retained externals (performAll externals hub calls) actor id value
      now := by
  induction calls generalizing hub with
  | nil => exact retained
  | cons call rest ih =>
    apply ih
    · exact retained.perform call (earlier call List.mem_cons_self)
    · intro later member
      exact earlier later (List.mem_cons_of_mem _ member)

theorem Timed.earlier {last : HubCall} (timed : Timed (calls ++ [last]))
    (isLast : last.time = some now) : ∀ call ∈ calls, ∀ time ∈ call.time, time ≤ now := by
  intro call member time isTime
  unfold Timed at timed
  rw [List.filterMap_append, List.pairwise_append] at timed
  refine timed.2.2 time ?_ now ?_
  · exact List.mem_filterMap.mpr ⟨call, member, isTime⟩
  · exact List.mem_filterMap.mpr ⟨last, List.mem_singleton_self last, isLast⟩

end Retention

/-! ## Requests -/

/-- A submitted delegated operation. -/
structure DelegatedCall where
  context : BlockExecCtx
  submission : TxExecCtx
  token : String
  operation : DelegatedOperation

namespace DelegatedCall

variable (externals : HubExternals) (hub : Hub) (request : DelegatedCall)

def call : HubCall :=
  .delegate request.context request.submission request.token request.operation

def result : Except AcpError OperationResult :=
  ((delegate externals request.context request.submission request.token
    request.operation).run hub).1

def digest : Bytes :=
  request.operation.digest externals

/-- The token carries an identity for the actor of this canonical name. -/
def Carries (actor : String) (id : OperationId) : Prop :=
  ∃ claims claim, verifiedClaims externals.crypto request.token = .ok claims ∧
    claims.request = some claim ∧ claim.id = id ∧
      canonicalActor externals.acp claims.actor = .ok actor

def Admitted : Prop :=
  request.operation.precheck externals request.submission = .ok () ∧
    request.submission.txHash.length = 32 ∧
      ∃ caller actor issuer claims,
        Authorized externals request.context request.submission request.token
          request.operation.scope (request.digest externals) hub caller actor issuer claims

end DelegatedCall

section Requests

variable {externals : HubExternals} {hub : Hub} {request : DelegatedCall}
  {actor : String} {id : OperationId}

theorem parseIdentity_asStr {text : String} {did : Did}
    (parsed : parseIdentity text = .ok did) : did.asStr = text := by
  unfold parseIdentity Did.new at parsed
  by_cases accepted : didAccepts text = true
  · simp only [accepted, dite_true] at parsed
    cases parsed
    rfl
  · simp only [accepted] at parsed
    cases parsed

variable {claims : JwtClaims}

theorem DelegatedCall.Carries.claim {caller named issuer : Did}
    (carried : request.Carries externals actor id)
    (authorized : Authorized externals request.context request.submission
      request.token request.operation.scope (request.digest externals) hub
      caller named issuer claims) :
    ∃ claim, claims.request = some claim ∧ claim.id = id ∧
      operationKey externals.acp named.asStr id.bytes =
        .ok (outcomeKey externals.acp actor id.bytes) := by
  obtain ⟨found, claim, verified, identified, sameId, canonical⟩ := carried
  have accepted := (authorizeDelegation_ok authorized.accepted).verified
  rw [verified] at accepted
  cases accepted
  refine ⟨claim, identified, sameId, ?_⟩
  rw [parseIdentity_asStr authorized.named]
  exact operationKey_canonical id.bytes canonical

theorem Authorized.lt_expiresAt {caller named issuer : Did} {claim : OperationClaim}
    (authorized : Authorized externals request.context request.submission
      request.token request.operation.scope (request.digest externals) hub
      caller named issuer claims) (identified : claims.request = some claim) :
    request.context.timestamp.seconds < claim.id.expiresAt := by
  have bound := (authorizeDelegation_ok authorized.accepted).bound
  unfold checkRequest at bound
  rw [identified] at bound
  simp only at bound
  cases valid : claim.id.validate request.context.timestamp.seconds with
  | error failure =>
    simp only [valid] at bound
    cases bound
  | ok passed =>
    unfold OperationId.validate at valid
    obtain ⟨current, valid⟩ := ifError_ok valid
    push Not at current
    exact UInt64.not_le.mp current.1

variable {value : OperationResult} {record : OperationRecord}

/-- The record a finished request leaves. -/
structure Leaves (externals : HubExternals) (request : DelegatedCall)
    (id : OperationId) (value : OperationResult) (record : OperationRecord) : Prop where
  sameId : record.id = id.bytes
  sameDigest : record.digest = request.digest externals
  sameResult : record.result = value

theorem replayed_ok {read : OperationResult → Except String OperationResult}
    {digest identity : Bytes} (answered : replayed read digest identity record = .ok value) :
    record.id = identity ∧ record.digest = digest ∧ read record.result = .ok value := by
  unfold replayed at answered
  obtain ⟨matching, answered⟩ := ifError_ok answered
  push Not at matching
  cases answer : read record.result with
  | error message =>
    simp only [answer] at answered
    cases answered
  | ok found =>
    simp only [answer] at answered
    cases answered
    exact ⟨matching.1, matching.2, rfl⟩

theorem readResult_same {operation : DelegatedOperation}
    {kept : OperationResult} (answer : operation.readResult kept = .ok value) : kept = value := by
  unfold DelegatedOperation.readResult at answer
  split at answer
  · cases answer
    rfl
  · cases answer
    rfl
  · split at answer
    · cases answer
      rfl
    · cases answer
  all_goals
    cases answer
    try rfl

theorem operation_some {name : String} {identity key : Bytes} {module : AcpModule}
    (keyed : operationKey externals.acp name identity = .ok key)
    (found : AcpModule.operation externals.acp name identity module = .ok (some record)) :
    module.store.get key = some (.operation record) ∧
      1 + max (resultNesting record.result) 1 ≤ jsonLimit := by
  rw [operation_eq keyed] at found
  cases stored : module.store.get key with
  | none =>
    simp only [stored] at found
    cases found
  | some kept =>
    simp only [stored] at found
    cases kept with
    | operation other =>
      simp only [StoredValue.decodeOperation] at found
      by_cases shallow : 1 + max (resultNesting other.result) 1 ≤ jsonLimit
      · simp only [shallow, if_true] at found
        cases found
        exact ⟨rfl, shallow⟩
      · simp only [shallow, if_false] at found
        cases found
    | _ => cases found

theorem leaves_outcome (sound : AmendmentsSound hub.acp)
    (carried : request.Carries externals actor id)
    (succeeded : request.result externals hub = .ok value) :
    ∃ record, Leaves externals request id value record ∧
      (perform externals hub request.call).acp.store.get (outcomeKey externals.acp actor id.bytes) =
        some (.operation record) ∧
      (request.operation.Readable externals hub.acp →
        ReadAgain request.operation value) := by
  have outcome : (delegate externals request.context request.submission
      request.token request.operation).Wp (fun result final =>
        result = .ok value → ∃ record,
          Leaves externals request id value record ∧
            final.acp.store.get (outcomeKey externals.acp actor id.bytes) =
              some (.operation record) ∧
            (request.operation.Readable externals hub.acp →
              ReadAgain request.operation value)) hub := by
    apply delegate_wp
    · intro failure isOk
      cases isOk
    intro worker result final reached isOk
    cases reached with
    | rejected failure => cases isOk
    | replayed caller named issuer claims claim record authorized identified found =>
      obtain ⟨other, same, sameId, keyed⟩ := carried.claim authorized
      rw [identified] at same
      cases same
      rw [sameId] at isOk found
      obtain ⟨recordId, recordDigest, answer⟩ := replayed_ok isOk
      obtain ⟨stored, shallow⟩ := operation_some keyed found
      have sameResult := readResult_same answer
      refine ⟨record, ⟨recordId, recordDigest, sameResult⟩, stored, ?_⟩
      intro _
      rw [sameResult] at answer shallow
      exact ⟨shallow, answer⟩
    | performed caller named issuer claims authorized fresh result middle kept final done =>
      cases isOk
      obtain ⟨claim, identified, sameId, keyed⟩ := carried.claim authorized
      obtain ⟨key, otherKeyed, stored⟩ :=
        (@Performed.acpEffect _ _ _ _ _ _ _ _ _ _ _ _ _ _ none done fresh).2 claim identified
      rw [sameId] at otherKeyed stored
      rw [keyed] at otherKeyed
      cases otherKeyed
      refine ⟨_, ⟨rfl, rfl, rfl⟩, stored, ?_⟩
      intro readable
      have accepted := parseIdentity_ok authorized.named
      have read := @body_readAgain externals hub request.context
        request.submission named worker request.operation readable accepted sound
      unfold Exec.Wp at read
      rw [done.ran] at read
      exact read value rfl
  exact outcome succeeded

theorem retained_request
    (retained : Retained externals hub actor id (.operation record)
      request.context.timestamp.seconds)
    (carried : request.Carries externals actor id) :
    (delegate externals request.context request.submission request.token
      request.operation).Wp (fun result final => final = hub ∧
        ((∃ failure, result = .error failure) ∨
          (hub.acp.store.get (outcomeKey externals.acp actor id.bytes) = some (.operation record) ∧
            result = replayed request.operation.readResult
              (request.digest externals) id.bytes record))) hub := by
  apply delegate_wp
  · intro failure
    exact ⟨rfl, .inl ⟨failure, rfl⟩⟩
  intro worker result final reached
  cases reached with
  | rejected failure => exact ⟨rfl, .inl ⟨failure, rfl⟩⟩
  | replayed caller named issuer claims claim other authorized identified found =>
    obtain ⟨same, isSame, sameId, keyed⟩ := carried.claim authorized
    rw [identified] at isSame
    cases isSame
    rw [sameId] at found
    obtain ⟨stored, _⟩ := operation_some keyed found
    have current := authorized.lt_expiresAt identified
    rw [sameId] at current
    rcases retained with kept | passed
    · rw [kept] at stored
      cases stored
      refine ⟨rfl, .inr ⟨kept, ?_⟩⟩
      rw [sameId]
      rfl
    · exact (UInt64.not_le.mpr current passed).elim
  | performed caller named issuer claims authorized fresh value middle kept final done =>
    -- No outcome is stored, so the deadline has come, and the identity is
    -- refused.
    exfalso
    obtain ⟨claim, identified, sameId, keyed⟩ := carried.claim authorized
    have absent := (fresh claim identified).2
    rw [sameId] at absent
    have current := authorized.lt_expiresAt identified
    rw [sameId] at current
    rcases retained with stored | passed
    · rw [operation_none keyed absent] at stored
      cases stored
    · exact UInt64.not_le.mpr current passed

theorem retained_answer
    (retained : Retained externals hub actor id (.operation record)
      request.context.timestamp.seconds)
    (carried : request.Carries externals actor id) (admitted : request.Admitted externals hub)
    (shallow : 1 + max (resultNesting record.result) 1 ≤ jsonLimit) :
    request.result externals hub = replayed request.operation.readResult (request.digest externals)
        id.bytes record := by
  obtain ⟨checked, width, caller, named, issuer, claims, authorized⟩ := admitted
  obtain ⟨claim, identified, sameId, keyed⟩ := carried.claim authorized
  have current := authorized.lt_expiresAt identified
  rw [sameId] at current
  rcases retained with stored | passed
  · have found : AcpModule.operation externals.acp named.asStr claim.id.bytes
        hub.acp = .ok (some record) := by
      rw [sameId, operation_eq keyed, stored]
      simp only [StoredValue.decodeOperation, shallow, if_true]
    have answered := @withDelegation_of_kept externals request.context
      request.submission request.token request.operation.scope
      (request.digest externals) hub request.operation.readResult
      (fun actor => body externals request.context request.submission actor
        caller request.operation)
      caller named issuer claims claim record authorized identified width found
    unfold DelegatedCall.result delegate
    rw [Exec.run_ofExcept_bind checked, Exec.run_ofExcept_bind authorized.signer]
    unfold DelegatedCall.digest at answered ⊢
    rw [answered, sameId]
  · exact (UInt64.not_le.mpr current passed).elim

end Requests

/-- Along every run with nondecreasing block times, a delegated operation with
an identity is applied at most once.  A repeated request with its identity
changes neither module; it is refused when its digest differs or the outcome
was pruned; and when it passes every check, it returns the recorded result if
that result is readable. -/
theorem delegated_operations_apply_once (externals : HubExternals)
    (before later : List HubCall) (first again : DelegatedCall)
    (actor : String) (id : OperationId) (value : OperationResult)
    (timed : Timed (before ++ first.call :: later ++ [again.call]))
    (carried : first.Carries externals actor id) (carriedAgain : again.Carries externals actor id)
    (succeeded : first.result externals (performAll externals new before) = .ok value)
    (separate : again.digest externals = first.digest externals →
      again.operation.scope = first.operation.scope) :
    let hub := performAll externals new (before ++ first.call :: later)
    perform externals hub again.call = hub ∧
      (again.digest externals ≠ first.digest externals →
        ∃ failure, again.result externals hub = .error failure) ∧
      (hub.acp.store.get (outcomeKey externals.acp actor id.bytes) = none →
        ∃ failure, again.result externals hub = .error failure) ∧
      (first.operation.Readable externals (performAll externals new before).acp →
        again.digest externals = first.digest externals →
          again.Admitted externals hub → again.result externals hub = .ok value) := by
  intro hub
  have newPolicies : PoliciesSound externals.acp Hub.new.acp := .new
  have newAmendments : AmendmentsSound Hub.new.acp := .new
  have sound := performAll_amendmentsSound newPolicies newAmendments before
  obtain ⟨record, leaves, stored, readable⟩ := leaves_outcome sound carried succeeded
  have retained : Retained externals hub actor id (.operation record)
      again.context.timestamp.seconds := by
    have earlier := Timed.earlier timed
      (show again.call.time = some again.context.timestamp.seconds from rfl)
    have left : Retained externals
        (perform externals (performAll externals new before) first.call) actor
        id (.operation record) again.context.timestamp.seconds := .inl stored
    have split : hub = performAll externals
        (perform externals (performAll externals new before) first.call)
        later := List.foldl_append
    rw [split]
    apply left.performAll
    intro call member
    exact earlier call (by simp [member])
  have answered := retained_request retained carriedAgain
  unfold Exec.Wp at answered
  obtain ⟨unchanged, answer⟩ := answered
  refine ⟨unchanged, ?_, ?_, ?_⟩
  · intro different
    rcases answer with failed | ⟨_, isReplay⟩
    · exact failed
    · refine ⟨_, isReplay.trans (if_pos (.inr ?_))⟩
      rw [leaves.sameDigest]
      exact fun same => different same.symm
  · intro pruned
    rcases answer with failed | ⟨kept, _⟩
    · exact failed
    · rw [pruned] at kept
      cases kept
  · intro isReadable sameDigest admitted
    obtain ⟨shallow, reads⟩ := readable isReadable
    rw [← leaves.sameResult] at shallow
    rw [retained_answer retained carriedAgain admitted shallow]
    have matching : ¬ (record.id ≠ id.bytes ∨ record.digest ≠ again.digest externals) := by
      rw [leaves.sameId, leaves.sameDigest, sameDigest]
      simp
    unfold replayed
    rw [if_neg matching, leaves.sameResult,
      DelegatedOperation.readResult_of_scope (separate sameDigest), reads]

/-! ### A delegated creation, repeated -/

def creationId : OperationId where
  bytes := bigEndian 8 200 ++ List.replicate 24 1
  width := by decide

def creationOperation (terms : String) : DelegatedOperation :=
  .createPolicy (exclusionText terms) .shortYaml

def creationClaims (terms : String) : JwtClaims :=
  { revocableClaims with
    scope := .createPolicy
    request := some
      { id := creationId
        digest := (utf8 "vera/acp-operation/v1" ++ [0] ++
          utf8 (exclusionText terms)).reverse.take 32
        genesisId := List.replicate 32 7 } }

def creationExternals (terms : String) : HubExternals :=
  { revocationExternals with
    crypto := delegationCrypto fun _ => .ok (creationClaims terms)
    parsePolicyYaml := exclusionExternals.parsePolicyYaml
    operationJson := fun operation =>
      match operation with
      | .createPolicy policy _ => utf8 policy
      | _ => [] }

def creation (terms : String) (seconds : UInt64) : DelegatedCall where
  context := delegationContext seconds
  submission := ⟨1, List.replicate 32 9, "did:key:worker"⟩
  token := signedToken 2
  operation := creationOperation terms

/-- Both modules after the creation and the end of its block. -/
def created (terms : String) : Hub :=
  performAll (creationExternals terms) new
    [(creation terms 100).call, .acp (.endBlocker (delegationContext 110)) rfl]

theorem creation_succeeds {terms : String}
    (evaluated : ((creation terms 100).result (creationExternals terms)
      new).toOption.isSome = true) :
    ∃ value, (creation terms 100).result (creationExternals terms) new =
      .ok value := by
  cases result : (creation terms 100).result (creationExternals terms) new with
  | error failure =>
    rw [result] at evaluated
    cases evaluated
  | ok value => exact ⟨value, rfl⟩

/-- The policy with the long exclusion is created, and a repeated request that
passes every check is answered with an error. -/
theorem long_exclusion_is_not_returned :
    (∃ value, (creation exclusionTerms 100).result
        (creationExternals exclusionTerms) new = .ok value) ∧
      (creation exclusionTerms 120).Admitted
        (creationExternals exclusionTerms) (created exclusionTerms) ∧
      (∃ actor id,
        (creation exclusionTerms 100).Carries (creationExternals exclusionTerms) actor id ∧
          (creation exclusionTerms 120).Carries (creationExternals exclusionTerms) actor id) ∧
      (creation exclusionTerms 120).result (creationExternals exclusionTerms)
          (created exclusionTerms) = .error (.state "recursion limit exceeded") := by
  have verified : verifiedClaims (creationExternals exclusionTerms).crypto
      (signedToken 2) = .ok (creationClaims exclusionTerms) := by
    decide +kernel
  have canonical : canonicalActor (creationExternals exclusionTerms).acp
      (creationClaims exclusionTerms).actor = .ok "did:key:zActor" := by
    decide +kernel
  -- one evaluation for all three, since each runs the creation
  have evaluated :
      ((creation exclusionTerms 100).result (creationExternals exclusionTerms)
          new).toOption.isSome = true ∧
        authorizeDelegation (creationExternals exclusionTerms).crypto
            (creation exclusionTerms 120).context delegationWorker
            (creation exclusionTerms 120).token (creation exclusionTerms 120).operation.scope
            ((creation exclusionTerms 120).digest (creationExternals exclusionTerms))
            (created exclusionTerms).vera = .ok (creationClaims exclusionTerms) ∧
        (match (creation exclusionTerms 120).result
            (creationExternals exclusionTerms) (created exclusionTerms) with
          | .error failure =>
            decide (failure = .state "recursion limit exceeded")
          | .ok _ => false) = true := by
    decide +kernel
  obtain ⟨succeeds, authorized, failed⟩ := evaluated
  refine ⟨creation_succeeds succeeds, ?_, ?_, ?_⟩
  · refine ⟨by decide +kernel, by decide, delegationWorker, delegationActor,
      delegationActor, creationClaims exclusionTerms, ?_⟩
    exact ⟨by decide +kernel, authorized, by decide +kernel, by decide +kernel⟩
  · exact ⟨_, creationId, ⟨_, _, verified, rfl, rfl, canonical⟩,
      ⟨_, _, verified, rfl, rfl, canonical⟩⟩
  · cases result : (creation exclusionTerms 120).result
        (creationExternals exclusionTerms) (created exclusionTerms) with
    | error failure =>
      rw [result] at failed
      rw [of_decide_eq_true failed]
    | ok value =>
      rw [result] at failed
      cases failed

theorem plainCreation_readable :
    (creationOperation "r").Readable (creationExternals "r") new.acp := by
  intro counter compiled accepted
  obtain ⟨_, parsed, read, _, made, _⟩ := compilePolicy_ok accepted
  have known : parsePolicy (creationExternals "r").acp (exclusionText "r")
      .shortYaml = .ok (exclusionParsed "r") := by
    decide +kernel
  rw [known] at read
  cases read
  have readable : (assemblePolicy "" (exclusionParsed "r")).toOption.all
      (fun renamed => decide (2 + max (policyNesting renamed) 2 ≤ jsonLimit)) = true := by
    decide +kernel
  have renamed : assemblePolicy "" (exclusionParsed "r") =
      .ok { compiled with id := "" } := assemblePolicy_rename made ""
  rw [renamed] at readable
  exact of_decide_eq_true readable

/-- The same request for a plain policy is answered with that policy. -/
theorem repeated_creation_returns_its_policy :
    ∃ value,
      (creation "r" 100).result (creationExternals "r") new = .ok value ∧
        (creation "r" 120).result (creationExternals "r") (created "r") =
          .ok value := by
  have evaluated :
      ((creation "r" 100).result (creationExternals "r") new).toOption.isSome = true ∧
        authorizeDelegation (creationExternals "r").crypto
            (creation "r" 120).context delegationWorker
            (creation "r" 120).token (creation "r" 120).operation.scope
            ((creation "r" 120).digest (creationExternals "r"))
            (created "r").vera = .ok (creationClaims "r") := by
    decide +kernel
  obtain ⟨value, succeeded⟩ := creation_succeeds evaluated.1
  have verified : verifiedClaims (creationExternals "r").crypto
      (signedToken 2) = .ok (creationClaims "r") := by
    decide +kernel
  have canonical : canonicalActor (creationExternals "r").acp
      (creationClaims "r").actor = .ok "did:key:zActor" := by
    decide +kernel
  have applied := delegated_operations_apply_once (creationExternals "r") []
    [.acp (.endBlocker (delegationContext 110)) rfl] (creation "r" 100)
    (creation "r" 120) "did:key:zActor" creationId value (by decide)
    ⟨_, _, verified, rfl, rfl, canonical⟩ ⟨_, _, verified, rfl, rfl, canonical⟩
    succeeded (fun _ => rfl)
  refine ⟨value, succeeded, applied.2.2.2 plainCreation_readable rfl ?_⟩
  refine ⟨by decide +kernel, by decide, delegationWorker, delegationActor,
    delegationActor, creationClaims "r", ?_⟩
  exact ⟨by decide +kernel, evaluated.2, by decide +kernel, by decide +kernel⟩

end Hub

end VeraHub.Vera
