import VeraHub.Vera.HubRuns
import VeraHub.Vera.RelayGrants
import VeraHub.Vera.TokenCalls

/-!
# Revocation holds for good

A token record that has become invalid is never written again, and every
record holds a token that verifies.  So a delegation that was revoked, or swept
after its deadline, is refused ever after, also in the other form of its
signature.
-/

namespace VeraHub.Vera

open VeraHub.Zanzibar VeraHub.Acp VeraModule
open Exec (Wp)

variable {tokenHash : String} {record : JWSTokenRecord} {key : Bytes}

namespace VeraModule

/-! ## Genuine records -/

/-- A record holds a token that verifies, under its hash. -/
structure Genuine (crypto : Crypto) (record : JWSTokenRecord) : Prop where
  hashed : record.tokenHash = hashJwsToken crypto.sha256 record.bearerToken
  verified : ∃ claims, verifiedClaims crypto record.bearerToken = .ok claims

/-- Only a record that is not invalid may be replaced. -/
def Active (old _new : JWSTokenRecord) : Prop :=
  old.status ≠ .invalid

/-- A sound state whose records are genuine. -/
structure TokensGenuine (crypto : Crypto) (module : VeraModule) : Prop where
  sound : TokensSound module
  genuine : ∀ tokenHash record, module.held tokenHash = some record → Genuine crypto record

theorem TokensGenuine.new (crypto : Crypto) : TokensGenuine crypto VeraModule.new where
  sound := TokensSound.new
  genuine := by
    intro tokenHash record isHeld
    cases isHeld

variable {crypto : Crypto}

theorem Genuine.of_sameHolder {old new : JWSTokenRecord} (genuine : Genuine crypto old)
    (holder : SameHolder old new) : Genuine crypto new where
  hashed := by
    rw [holder.tokenHash, holder.bearerToken]
    exact genuine.hashed
  verified := by
    rw [holder.bearerToken]
    exact genuine.verified

/-- One step of the token records: checked writes, or a change beside them. -/
inductive TokenStep (crypto : Crypto) (module : VeraModule) : VeraModule → Prop where
  | wrote {final : VeraModule} (writes : TokenWrites (Genuine crypto) Active module final) :
      TokenStep crypto module final
  | beside {final : VeraModule} (sound : TokensSound module → TokensSound final)
      (same : ∀ tokenHash, final.held tokenHash = module.held tokenHash) :
      TokenStep crypto module final

def TokenSteps (crypto : Crypto) : VeraModule → VeraModule → Prop :=
  Relation.ReflTransGen (TokenStep crypto)

section Steps

variable {crypto : Crypto} {module final : VeraModule}

theorem TokensGenuine.write (genuine : TokensGenuine crypto module)
    (write : TokenWrite (Genuine crypto) Active module final) : TokensGenuine crypto final where
  sound := genuine.sound.writes (Relation.ReflTransGen.single write)
  genuine := by
    intro tokenHash record isHeld
    obtain ⟨written, previous, checked, first, kept⟩ := write
    rw [held_withToken] at isHeld
    by_cases here : tokenHash = written.tokenHash
    · rw [if_pos here] at isHeld
      cases isHeld
      cases previous with
      | none => exact first rfl
      | some old =>
        have read := checked.read
        rw [genuine.sound.getJwsToken_held] at read
        have isOld := Except.ok.inj read
        exact (genuine.genuine _ old isOld).of_sameHolder (kept old rfl).1
    · rw [if_neg here] at isHeld
      exact genuine.genuine tokenHash record isHeld

theorem TokensGenuine.writes (genuine : TokensGenuine crypto module)
    (writes : TokenWrites (Genuine crypto) Active module final) :
    TokensGenuine crypto final := by
  induction writes with
  | refl => exact genuine
  | tail _ write ih => exact ih.write write

theorem TokensGenuine.step (genuine : TokensGenuine crypto module)
    (step : TokenStep crypto module final) : TokensGenuine crypto final := by
  cases step with
  | wrote writes => exact genuine.writes writes
  | beside sound same =>
    refine ⟨sound genuine.sound, ?_⟩
    intro tokenHash record isHeld
    rw [same] at isHeld
    exact genuine.genuine tokenHash record isHeld

theorem TokensGenuine.steps (genuine : TokensGenuine crypto module)
    (steps : TokenSteps crypto module final) :
    TokensGenuine crypto final := by
  induction steps with
  | refl => exact genuine
  | tail _ step ih => exact ih.step step

theorem TokensSound.write_keeps_invalid (sound : TokensSound module)
    (write : TokenWrite (Genuine crypto) Active module final) (isHeld : module.held tokenHash = some record)
    (invalid : record.status = .invalid) : final.held tokenHash = some record := by
  obtain ⟨written, previous, checked, _, kept⟩ := write
  rw [held_withToken]
  by_cases here : tokenHash = written.tokenHash
  · have read := checked.read
    rw [sound.getJwsToken_held, ← here, isHeld] at read
    have isPrevious := (Except.ok.inj read).symm
    exact absurd invalid (kept record isPrevious).2
  · rw [if_neg here]
    exact isHeld

theorem TokensSound.writes_keep_invalid (sound : TokensSound module)
    (writes : TokenWrites (Genuine crypto) Active module final) (isHeld : module.held tokenHash = some record)
    (invalid : record.status = .invalid) : final.held tokenHash = some record := by
  induction writes with
  | refl => exact isHeld
  | tail earlier write ih =>
    exact (sound.writes earlier).write_keeps_invalid write ih invalid

theorem TokensGenuine.steps_keep_invalid (genuine : TokensGenuine crypto module)
    (steps : TokenSteps crypto module final) (isHeld : module.held tokenHash = some record)
    (invalid : record.status = .invalid) : final.held tokenHash = some record := by
  induction steps with
  | refl => exact isHeld
  | tail earlier step ih =>
    have before := genuine.steps earlier
    cases step with
    | wrote writes =>
      exact before.sound.writes_keep_invalid writes ih invalid
    | beside _ same =>
      rw [same]
      exact ih

end Steps

/-! ## Changes beside the token records -/

def otherStarts : List Bytes :=
  [utf8 "orbis/", utf8 "consensus_roster/", administrationKey, relayPrefix]

/-- A key of a record that is neither a token nor a setting. -/
def Beside (key : Bytes) : Prop :=
  ∃ start ∈ otherStarts, start <+: key

def tokenStarts : List Bytes :=
  [jwsTokenPrefix, paramsKey, chainConfigKey] ++ tokenIndexes.map TokenIndex.start

theorem Beside.ne {other start : Bytes} (beside : Beside key)
    (member : start ∈ tokenStarts) (starts : start <+: other) : other ≠ key := by
  obtain ⟨otherStart, otherMember, otherStarts⟩ := beside
  have apart : ∀ first ∈ VeraModule.otherStarts, ∀ second ∈ tokenStarts,
      Apart second first := by
    decide
  exact ne_of_starts (apart otherStart otherMember start member) starts otherStarts

variable {module : VeraModule}

theorem TokenStep.of_beside {final : VeraModule} (beside : Beside key)
    (elsewhere : ∀ other, other ≠ key → final.store.get other = module.store.get other) :
    TokenStep crypto module final := by
  have primary : ∀ other, jwsTokenPrefix <+: other →
      final.store.get other = module.store.get other :=
    fun other starts => elsewhere other (beside.ne (by decide) starts)
  have config : final.store.get chainConfigKey =
      module.store.get chainConfigKey :=
    elsewhere _ (beside.ne (by decide) List.prefix_rfl)
  apply TokenStep.beside
  · intro sound
    apply sound.congr primary
    · intro index member other starts
      have listed : index.start ∈ tokenStarts :=
        List.mem_append_right _ (List.mem_map_of_mem member)
      exact elsewhere other (beside.ne listed starts)
    · exact elsewhere _ (beside.ne (by decide) List.prefix_rfl)
    · rw [getChainConfig_congr config]
      exact sound.config
    · intro ignores
      exact ignores.congr config
  · intro tokenHash
    unfold held
    rw [primary _ (jwsTokenKey_starts tokenHash)]

theorem TokenStep.withStored {crypto : Crypto} (module : VeraModule)
    {key : Bytes} (beside : Beside key) (value : VeraValue) :
    TokenStep crypto module (module.withStored key value) := by
  apply of_beside beside
  intro other different
  rw [get_withStored, if_neg different]

theorem TokenStep.withoutStored (module : VeraModule) (beside : Beside key) :
    TokenStep crypto module (module.withoutStored key) := by
  apply of_beside beside
  intro other different
  rw [get_withoutStored, if_neg different]

theorem Beside.of_isServiceKey (isService : isServiceKey key = true) : Beside key := by
  unfold isServiceKey at isService
  rw [Bool.or_eq_true, List.isPrefixOf_iff_prefix, List.isPrefixOf_iff_prefix] at isService
  rcases isService with orbis | roster
  · exact ⟨_, by decide, orbis⟩
  · exact ⟨_, by decide, roster⟩

theorem administrationKey_beside : Beside administrationKey :=
  ⟨administrationKey, by decide, List.prefix_rfl⟩

theorem relayKey_beside {issuer : String} (keyed : relayKey crypto issuer = .ok key) :
    Beside key := by
  rw [Hub.relayKey_ok keyed]
  exact ⟨relayPrefix, by decide, List.prefix_append _ _⟩

theorem setChainConfig_step (config : ChainConfig) :
    TokenStep crypto module ((setChainConfig config).run module).2 := by
  apply TokenStep.beside
  · intro sound
    exact sound.setChainConfig config
  · intro tokenHash
    have same : (setChainConfig config).Wp
        (fun _ final => final.held tokenHash = module.held tokenHash)
        module := by
      unfold setChainConfig
      apply Wp.gets
      apply Wp.failIf
      · intro _
        rfl
      · intro _
        change (module.withStored _ _).held tokenHash = _
        unfold held
        rw [get_withStored, if_neg (chainConfigKey_ne tokenHash).symm]
    exact same

end VeraModule

/-! ## Steps of calls -/

variable {token : String}

namespace Hub

section Steps

variable {externals : HubExternals} {hub : Hub}

theorem onAcp_vera {ε α : Type} {translate : AcpError → ε} {body : AcpM α} {hub : Hub} :
    (onAcp translate body).Wp (fun _ final => final.vera = hub.vera) hub := by
  apply Wp.within
  rfl

theorem keeping_steps {α : Type} {toResult : α → OperationResult} {body : AcpM α} :
    (keeping toResult body).Wp
      (fun _ final => TokenSteps externals.crypto hub.vera final.vera) hub := by
  apply Wp.bind
  apply Wp.weaken onAcp_vera
  intro result final same
  cases result with
  | error failure =>
    rw [same]
    exact .refl
  | ok value =>
    change TokenSteps _ _ final.vera
    rw [same]
    exact .refl

theorem registerService_vera {actor : Did} (registration : Option (String × Object)) :
    (registerService externals actor registration).Wp
      (fun _ final => final.vera = hub.vera) hub := by
  cases registration with
  | none => rfl
  | some pair =>
    apply Wp.bind
    apply Wp.weaken onAcp_vera
    intro result final same
    cases result with
    | error failure => exact same
    | ok value => exact same

theorem serve_steps {actor : Did} {nesting : Nat} {request : Hub → Except AcpError ServiceOutcome} :
    (serve externals actor nesting request).Wp
      (fun _ final => TokenSteps externals.crypto hub.vera final.vera) hub := by
  apply Wp.query
  · intro failure _
    exact .refl
  intro outcome _
  apply Wp.bind
  apply Wp.weaken (registerService_vera outcome.registration)
  intro result middle same
  cases result with
  | error failure =>
    rw [same]
    exact .refl
  | ok value =>
    have beside : Beside (serviceKey outcome.path) := ⟨_, by decide, List.prefix_append _ _⟩
    have step := @TokenStep.withStored externals.crypto middle.vera _ beside
      (.service outcome.record)
    rw [← same]
    exact Relation.ReflTransGen.single step

theorem body_steps {context : BlockExecCtx} {submission : TxExecCtx}
    {actor worker : Did} (operation : DelegatedOperation) :
    (body externals context submission actor worker operation).Wp
      (fun _ final => TokenSteps externals.crypto hub.vera final.vera) hub := by
  cases operation with
  | createPolicy policy marshalType => exact keeping_steps
  | editPolicy policyId policy marshalType => exact keeping_steps
  | policyCommand policyId cmd => exact keeping_steps
  | checkAccess policyId request => exact keeping_steps
  | ringCommand command => exact serve_steps
  | storeThresholdObject object => exact serve_steps

theorem keepOutcome_vera {context : BlockExecCtx} {submission : TxExecCtx}
    {digest : Bytes} {actor : Did} {request : Option OperationClaim} {result : OperationResult} :
    (keepOutcome externals context submission digest actor request result).Wp
      (fun _ final => final.vera = hub.vera) hub := by
  cases request with
  | none => rfl
  | some request => exact onAcp_vera

theorem recordUse_writes {context : BlockExecCtx} {token : String}
    {issuer : Did} {claims : JwtClaims}
    (verified : verifiedClaims externals.crypto token = .ok claims) :
    (recordUse externals context token issuer claims).Wp
      (fun _ final => TokenWrites (Genuine externals.crypto) Active hub.vera final.vera) hub := by
  apply Wp.within
  apply storeOrUpdateJwsToken_writes
  · intro old new valid _
    unfold Active
    rw [valid]
    decide
  · intro record sameToken sameHash _
    refine ⟨?_, claims, ?_⟩
    · rw [sameToken, sameHash]
    · rw [sameToken, verified]

theorem delegate_steps {context : BlockExecCtx} {submission : TxExecCtx} {operation : DelegatedOperation} :
    (delegate externals context submission token operation).Wp
      (fun _ final => TokenSteps externals.crypto hub.vera final.vera) hub := by
  apply delegate_wp
  · intro failure
    exact .refl
  intro worker result final reached
  cases reached with
  | rejected failure => exact .refl
  | replayed => exact .refl
  | performed caller actor issuer claims authorized fresh value middle kept final done =>
    have verified := (authorizeDelegation_ok authorized.accepted).verified
    have ran : TokenSteps externals.crypto hub.vera middle.vera := by
      have steps := @body_steps externals hub context submission actor worker operation
      unfold Wp at steps
      rw [done.ran] at steps
      exact steps
    have same : kept.vera = middle.vera := by
      have outcome := @keepOutcome_vera externals middle context submission
        (operation.digest externals) actor claims.request value
      unfold Wp at outcome
      rw [done.completed] at outcome
      exact outcome
    have used : TokenWrites (Genuine externals.crypto) Active kept.vera
        final.vera := by
      have writes := @recordUse_writes externals kept context token issuer claims verified
      unfold Wp at writes
      rw [done.recorded] at writes
      exact writes
    rw [same] at used
    exact ran.tail (.wrote used)

theorem CommandEffect.steps {crypto : Crypto} {sequence : UInt64}
    {middle : Hub} {command : AdministrativeCommand}
    (effect : CommandEffect crypto sequence hub command middle) :
    TokenSteps crypto hub.vera middle.vera := by
  cases effect with
  | rotated => exact .refl
  | initialized => exact .refl
  | parameters => exact .refl
  | budget => exact .refl
  | relaySet grant key keyed =>
    exact Relation.ReflTransGen.single (TokenStep.withStored _ (relayKey_beside keyed) _)
  | relayRevoked issuer key keyed =>
    exact Relation.ReflTransGen.single (TokenStep.withoutStored _ (relayKey_beside keyed))

theorem Administered.steps {crypto : Crypto} {final : Hub} {call : AdminCall}
    (administered : Administered crypto hub call final) :
    TokenSteps crypto hub.vera final.vera := by
  obtain ⟨state, advanced, middle, _, effect⟩ := administered
  have recorded := @TokenStep.withStored crypto middle.vera _
    administrationKey_beside (.administration advanced)
  exact effect.steps.tail recorded

/-- A rejected request changes nothing; an accepted one changes other
records. -/
theorem administer_steps (call : AdminCall) :
    TokenSteps externals.crypto hub.vera (administer externals.crypto hub call).vera := by
  by_cases accepted : accepts externals.crypto hub call
  · exact (administer_of_accepted accepted).steps
  · rw [administer_of_rejected accepted]
    exact .refl

theorem seedOperators_steps (policy : OperatorPolicy) (module : VeraModule) :
    TokenSteps externals.crypto module
      ((initializeAdministration externals.crypto policy).run module).2 := by
  have outcome : (initializeAdministration externals.crypto policy).Wp
      (fun _ final => TokenSteps externals.crypto module final) module := by
    unfold initializeAdministration
    apply Wp.ofExcept
    · intro failure _
      exact .refl
    intro _ _
    apply Wp.gets
    apply Wp.failIf
    · intro _
      exact .refl
    · intro _
      exact Relation.ReflTransGen.single (TokenStep.withStored _ administrationKey_beside _)
  exact outcome

theorem withService_step (module : VeraModule)
    (isService : isServiceKey key = true) (record : Option Bytes) :
    TokenStep externals.crypto module (module.withService key record) := by
  have beside := Beside.of_isServiceKey isService
  cases record with
  | none => exact TokenStep.withoutStored module beside
  | some bytes => exact TokenStep.withStored module beside _

theorem perform_steps (sound : TokensSound hub.vera) (call : HubCall) :
    TokenSteps externals.crypto hub.vera (perform externals hub call).vera := by
  have wrote : ∀ {α : Type} {step : VeraM α},
      LeavesWrites (Genuine externals.crypto) Active step hub.vera →
        TokenSteps externals.crypto hub.vera (step.run hub.vera).2 :=
    fun writes => Relation.ReflTransGen.single (.wrote writes)
  cases call with
  | acp call direct => exact .refl
  | delegate context submission token operation => exact delegate_steps
  | seedOperators policy => exact seedOperators_steps policy hub.vera
  | administer call => exact administer_steps call
  | revoke context caller token =>
    apply wrote
    apply revokeDelegation_writes
    · intro old new active _
      exact active
    · intro record claims verified sameToken sameHash
      refine ⟨?_, claims, ?_⟩
      · rw [sameToken, sameHash]
      · rw [sameToken, verified]
  | invalidate block tx creator tokenHash =>
    apply wrote
    apply invalidateJws_writes
    intro old new active _
    exact active
  | sweep block =>
    have swept := @TokensSound.sweep (Genuine externals.crypto) Active
      (fun _ _ active _ => active) _ sound block
    exact Relation.ReflTransGen.single (.wrote swept.2.1)
  | configure config =>
    exact Relation.ReflTransGen.single (setChainConfig_step config)
  | service key isService record =>
    exact Relation.ReflTransGen.single (withService_step _ isService record)

theorem performAll_steps (genuine : TokensGenuine externals.crypto hub.vera)
    (calls : List HubCall) :
    TokenSteps externals.crypto hub.vera (performAll externals hub calls).vera := by
  induction calls generalizing hub with
  | nil => exact .refl
  | cons call rest ih =>
    have first := @perform_steps externals hub genuine.sound call
    exact first.trans (ih (genuine.steps first))

theorem performAll_genuine (calls : List HubCall) :
    TokensGenuine externals.crypto (performAll externals new calls).vera := by
  have start : TokensGenuine externals.crypto new.vera := TokensGenuine.new externals.crypto
  exact start.steps (performAll_steps start calls)

end Steps

end Hub

/-! ## The two forms of a signature -/

def CanonicalBase64 (crypto : Crypto) : Prop :=
  ∀ first second bytes, crypto.base64Decode first = .ok bytes →
    crypto.base64Decode second = .ok bytes → first = second

/-- The same token: the same text, or the same signing input with the same
signature up to the sign of its second scalar. -/
inductive SameToken (crypto : Crypto) (token : String) : String → Prop where
  | identical : SameToken crypto token token
  | resigned {other header payload firstB64 secondB64 : String}
      {firstBytes secondBytes : Bytes} {first second : Signature}
      (segmented : segments token = [header, payload, firstB64])
      (otherSegmented : segments other = [header, payload, secondB64])
      (decoded : crypto.base64Decode firstB64 = .ok firstBytes)
      (otherDecoded : crypto.base64Decode secondB64 = .ok secondBytes)
      (parsed : Signature.fromSlice firstBytes = some first)
      (otherParsed : Signature.fromSlice secondBytes = some second)
      (related : second = first ∨ second = first.negated) : SameToken crypto token other

theorem segments_injective {other : String}
    (same : segments token = segments other) : token = other := by
  have split : token.toList.splitOn '.' = other.toList.splitOn '.' :=
    List.map_injective_iff.mpr (fun _ _ => String.ofList_injective) same
  have joined : token.toList = other.toList := by
    rw [← @List.intercalate_splitOn _ token.toList _ _ '.', split, List.intercalate_splitOn]
  exact String.toList_inj.mp joined

variable {bytes : Bytes} {signature : Signature}

namespace Signature

theorem fromSlice_some (parsed : fromSlice bytes = some signature) :
    bytes.length = 64 ∧ fromBigEndian (bytes.take 32) = signature.r ∧
      fromBigEndian (bytes.drop 32) = signature.s := by
  unfold fromSlice at parsed
  dsimp only at parsed
  split at parsed
  · rename_i ranges
    cases parsed
    exact ⟨ranges.1, rfl, rfl⟩
  · cases parsed

theorem fromSlice_injective {first second : Bytes} (parsed : fromSlice first = some signature)
    (otherParsed : fromSlice second = some signature) : first = second := by
  obtain ⟨width, r, s⟩ := fromSlice_some parsed
  obtain ⟨otherWidth, otherR, otherS⟩ := fromSlice_some otherParsed
  have heads : first.take 32 = second.take 32 := by
    apply fromBigEndian_inj
    · simp [width, otherWidth]
    · rw [r, otherR]
  have tails : first.drop 32 = second.drop 32 := by
    apply fromBigEndian_inj
    · simp [width, otherWidth]
    · rw [s, otherS]
  rw [← List.take_append_drop 32 first, heads, tails, List.take_append_drop]

theorem isHigh_negated (low : signature.isHigh = false) : signature.negated.isHigh = true := by
  unfold isHigh at low ⊢
  simp only [decide_eq_false_iff_not, decide_eq_true_iff] at low ⊢
  change groupOrder / 2 < groupOrder - signature.s
  have odd : groupOrder % 2 = 1 := by decide
  omega

end Signature

theorem Crypto.readSignature_ok {crypto : Crypto} {sigB64 : String} {parsed : Signature}
    (decoded : crypto.base64Decode sigB64 = .ok bytes)
    (sliced : Signature.fromSlice bytes = some parsed)
    (read : crypto.readSignature sigB64 = .ok signature) : parsed.isHigh = false := by
  unfold Crypto.readSignature at read
  simp only [decoded, sliced] at read
  cases high : parsed.isHigh with
  | false => rfl
  | true =>
    simp only [high, if_true] at read
    cases read

variable {claims : JwtClaims}

theorem Crypto.verifyBearerToken_signature {crypto : Crypto} {header payload sigB64 : String}
    (segmented : segments token = [header, payload, sigB64])
    (verified : verifiedClaims crypto token = .ok claims) :
    ∃ signature, crypto.readSignature sigB64 = .ok signature := by
  unfold verifiedClaims Crypto.verifyBearerToken at verified
  by_cases long : (utf8 token).length > 16 * 1024
  · simp only [if_pos long] at verified
    cases verified
  · simp only [if_neg long, segmented] at verified
    split at verified
    · cases verified
    · rename_i read
      obtain ⟨_, _, read⟩ := exceptBind_ok read
      obtain ⟨_, _, read⟩ := exceptBind_ok read
      obtain ⟨_, _, read⟩ := exceptBind_ok read
      obtain ⟨signature, found, _⟩ := exceptBind_ok read
      exact ⟨signature, found⟩

theorem SameToken.eq_of_verified {crypto : Crypto} {other : String} {otherClaims : JwtClaims}
    (canonical : CanonicalBase64 crypto) (same : SameToken crypto token other)
    (verified : verifiedClaims crypto token = .ok claims)
    (otherVerified : verifiedClaims crypto other = .ok otherClaims) : other = token := by
  cases same with
  | identical => rfl
  | resigned segmented otherSegmented decoded otherDecoded parsed otherParsed related =>
    obtain ⟨_, read⟩ := Crypto.verifyBearerToken_signature segmented verified
    obtain ⟨_, otherRead⟩ := Crypto.verifyBearerToken_signature otherSegmented otherVerified
    have low := Crypto.readSignature_ok decoded parsed read
    have otherLow := Crypto.readSignature_ok otherDecoded otherParsed otherRead
    rcases related with equal | negated
    · subst equal
      have sameBytes := Signature.fromSlice_injective parsed otherParsed
      rw [← sameBytes] at otherDecoded
      have sameText := canonical _ _ _ decoded otherDecoded
      apply segments_injective
      rw [segmented, otherSegmented, sameText]
    · rw [negated, Signature.isHigh_negated low] at otherLow
      cases otherLow

namespace Hub

/-! ## Revoked tokens -/

theorem refused_of_invalid {crypto : Crypto} {module : VeraModule}
    (canonical : CanonicalBase64 crypto)
    (genuine : TokensGenuine crypto module) (isHeld : module.held tokenHash = some record)
    (invalid : record.status = .invalid) (same : SameToken crypto record.bearerToken token)
    (context : BlockExecCtx) (caller : Did) (scope : DelegationScope) (digest : Bytes) :
    ∃ failure, authorizeDelegation crypto context caller token scope digest
      module = .error failure := by
  cases outcome : authorizeDelegation crypto context caller token scope digest module with
  | error failure => exact ⟨failure, rfl⟩
  | ok claims =>
    have accepted := authorizeDelegation_ok outcome
    obtain ⟨hashed, _, verified⟩ := genuine.genuine tokenHash record isHeld
    have isToken := same.eq_of_verified canonical verified accepted.verified
    obtain ⟨_, _, sameHash, _⟩ := genuine.sound.indexed isHeld
    have current := accepted.current
    unfold checkRevocation at current
    rw [isToken, ← hashed, sameHash, genuine.sound.getJwsToken_held, isHeld] at current
    simp only [bind, Except.bind, Option.any_some, invalid] at current
    cases current

/-- Once a record is invalid it stays as it is, whatever calls follow, and the
token it holds is refused from then on: for every caller, scope, operation and
block time, and also with the negated form of its signature. -/
theorem invalid_tokens_stay_refused (externals : HubExternals)
    (canonical : CanonicalBase64 externals.crypto) (calls later : List HubCall) (tokenHash : String)
    (record : JWSTokenRecord)
    (found : getJwsToken tokenHash (performAll externals new calls).vera = .ok (some record))
    (invalid : record.status = .invalid) :
    let hub := performAll externals new (calls ++ later)
    tokenHash = hashJwsToken externals.crypto.sha256 record.bearerToken ∧
      getJwsToken tokenHash hub.vera = .ok (some record) ∧
        ∀ token, SameToken externals.crypto record.bearerToken token →
          ∀ context scope digest,
            (∀ caller, ∃ failure,
              authorizeDelegation externals.crypto context caller token scope
                digest hub.vera = .error failure) ∧
              ∀ submission read run, ∃ failure,
                (withDelegation externals context submission token scope
                  digest read run).run hub = (.error failure, hub) := by
  intro hub
  have before := @performAll_genuine externals calls
  rw [before.sound.getJwsToken_held] at found
  have isHeld := Except.ok.inj found
  have genuine := @performAll_genuine externals (calls ++ later)
  have steps : TokenSteps externals.crypto (performAll externals new calls).vera hub.vera := by
    have continued := performAll_steps before later
    unfold performAll at continued ⊢
    rw [← List.foldl_append] at continued
    exact continued
  have stays := before.steps_keep_invalid steps isHeld invalid
  obtain ⟨_, _, sameHash, _⟩ := before.sound.indexed isHeld
  refine ⟨?_, ?_, ?_⟩
  · rw [← (before.genuine tokenHash record isHeld).hashed, sameHash]
  · rw [genuine.sound.getJwsToken_held, stays]
  · intro token same context scope digest
    have refused := fun caller => refused_of_invalid canonical genuine stays
      invalid same context caller scope digest
    refine ⟨refused, ?_⟩
    intro submission read run
    have outcome : (withDelegation externals context submission token scope digest read run).Wp
        (fun result final => ∃ failure, (result, final) = (.error failure, hub)) hub := by
      apply Wp.weaken withDelegation_wp
      intro result final reached
      cases reached with
      | rejected failure => exact ⟨failure, rfl⟩
      | replayed caller actor issuer claims request kept authorized =>
        obtain ⟨failure, failed⟩ := refused caller
        rw [authorized.accepted] at failed
        cases failed
      | performed caller actor issuer claims authorized =>
        obtain ⟨failure, failed⟩ := refused caller
        rw [authorized.accepted] at failed
        cases failed
    exact outcome

/-! ### A revoked token in both forms -/

/-- Text in lowercase hexadecimal digits stands for base64. -/
def decodeCanonical (text : String) : Except String Bytes :=
  match hexDecode (utf8 text) with
  | none => .error "invalid symbol"
  | some bytes =>
    if hexEncode bytes = utf8 text then .ok bytes
    else .error "invalid symbol"

theorem decodeCanonical_ok {text : String}
    (decoded : decodeCanonical text = .ok bytes) : hexEncode bytes = utf8 text := by
  unfold decodeCanonical at decoded
  cases read : hexDecode (utf8 text) with
  | none =>
    rw [read] at decoded
    cases decoded
  | some found =>
    simp only [read] at decoded
    by_cases canonical : hexEncode found = utf8 text
    · rw [if_pos canonical] at decoded
      cases decoded
      exact canonical
    · rw [if_neg canonical] at decoded
      cases decoded

/-- One key, and a signature check that takes both forms of a signature. -/
def delegationCrypto (claims : Bytes → Except String JwtClaims) : Crypto where
  sha256 bytes := bytes.reverse.take 32
  base64Decode := decodeCanonical
  headerJson _ := .ok ⟨"ES256K", delegationType⟩
  claimsJson := claims
  multibaseDecode text :=
    if text = "zActor" then .ok ([0xe7, 0x01, 2] ++ List.replicate 32 5)
    else .error "invalid"
  compressKey _ := .error "invalid"
  readKey _ := .ok ()
  verifyPrehash _ _ signature := decide (signature.s = 2 ∨ signature.s = groupOrder - 2)
  didFromPubkey _ := .ok "did:key:zActor"

def revocableClaims : JwtClaims where
  iss := "did:key:zActor"
  sub := "did:key:worker"
  exp := 200
  aud := "vera:1"
  scope := .policyCommands
  iat := 50
  nbf := 50
  relay := none
  request := none

def revocationExternals : HubExternals where
  crypto := delegationCrypto fun _ => .ok revocableClaims
  subjectJson _ := []
  parsePolicyYaml _ := .error "invalid policy YAML"
  parsePolicyJson _ := .error "expected value at line 1 column 1"
  encodedLength _ := 1024
  policyJson _ := []
  operationJson _ := []
  validateService _ := .ok ()
  storeObject _ _ _ _ := .error (.state "ring not found")
  ringCommand _ _ _ _ := .error (.state "ring not found")

def signedToken (scalar : Nat) : String :=
  "68.01." ++ hexText (bigEndian 32 1 ++ bigEndian 32 scalar)

def delegationContext (seconds : UInt64) : BlockExecCtx where
  genesisId := List.replicate 32 7
  deploymentId := 1
  timestamp := ⟨seconds, seconds⟩

def delegationActor : Did :=
  ⟨"did:key:zActor", by decide⟩

def delegationWorker : Did :=
  ⟨"did:key:worker", by decide⟩

/-- An accepted token is revoked by its actor before its first use; after that
it is refused in both forms. -/
theorem revoked_token_is_refused_in_both_forms :
    let crypto := revocationExternals.crypto
    let calls := [HubCall.revoke (delegationContext 60) delegationActor (signedToken 2)]
    let hub := performAll revocationExternals new calls
    authorizeDelegation crypto (delegationContext 60) delegationWorker
        (signedToken 2) .policyCommands [] VeraModule.new = .ok revocableClaims ∧
      (∃ failure, authorizeDelegation crypto (delegationContext 100)
        delegationWorker (signedToken 2) .policyCommands [] hub.vera = .error failure) ∧
        ∃ failure, authorizeDelegation crypto (delegationContext 100)
          delegationWorker (signedToken (groupOrder - 2)) .policyCommands []
            hub.vera = .error failure := by
  intro crypto calls hub
  have canonical : CanonicalBase64 crypto := by
    intro first second bytes decoded otherDecoded
    apply utf8_injective
    rw [← decodeCanonical_ok decoded, ← decodeCanonical_ok otherDecoded]
  have accepted : authorizeDelegation crypto (delegationContext 60)
      delegationWorker (signedToken 2) .policyCommands [] VeraModule.new =
        .ok revocableClaims := by
    decide +kernel
  let tokenHash := hashJwsToken crypto.sha256 (signedToken 2)
  let record : JWSTokenRecord := { unusedToken tokenHash (signedToken 2) revocableClaims with
      status := .invalid
      invalidatedAt := some ⟨60, 60⟩
      invalidatedBy := "did:key:zActor" }
  have found : getJwsToken tokenHash hub.vera = .ok (some record) := by
    decide +kernel
  have refused := (invalid_tokens_stay_refused revocationExternals canonical
    calls [] tokenHash record found rfl).2.2
  have negated : SameToken crypto record.bearerToken (signedToken (groupOrder - 2)) := by
    apply @SameToken.resigned crypto record.bearerToken (signedToken (groupOrder - 2)) "68" "01"
      (hexText (bigEndian 32 1 ++ bigEndian 32 2))
      (hexText (bigEndian 32 1 ++ bigEndian 32 (groupOrder - 2))) (bigEndian 32 1 ++ bigEndian 32 2)
      (bigEndian 32 1 ++ bigEndian 32 (groupOrder - 2)) ⟨1, 2, by decide, by decide⟩
      (Signature.negated ⟨1, 2, by decide, by decide⟩)
    · decide +kernel
    · decide +kernel
    · decide +kernel
    · decide +kernel
    · decide +kernel
    · decide +kernel
    · exact .inr rfl
  exact ⟨accepted, (refused _ .identical (delegationContext 100) _ _).1 delegationWorker,
    (refused _ negated (delegationContext 100) _ _).1 delegationWorker⟩

end Hub

end VeraHub.Vera
