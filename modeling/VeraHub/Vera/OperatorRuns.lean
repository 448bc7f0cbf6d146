import VeraHub.Vera.Administration

/-!
# Runs of administrative requests

What an accepted request changes is said once.  From it follow, over whole
runs, that a quorum of the policy in force signed every change, that sequences
never repeat, and that a relay token is only accepted under the grant it names.
-/

namespace VeraHub.Vera

open VeraHub.Zanzibar VeraHub.Acp VeraModule
open Exec (Wp)

/-- One submission of a signed request. -/
structure AdminCall where
  genesisId : Bytes
  now : UInt64
  signed : SignedAdministrativeRequest

variable {state : AdministrationState} {hub : Hub} {call : AdminCall} {policy : OperatorPolicy}

namespace Hub

section Effects

variable (crypto : Crypto)

/-- What a command changes besides the administrative state. -/
inductive CommandEffect (sequence : UInt64) (hub : Hub) : AdministrativeCommand → Hub → Prop where
  | rotated (policy : OperatorPolicy) : CommandEffect sequence hub (.rotateOperators policy) hub
  | initialized (policyId : Bytes) :
      CommandEffect sequence hub (.initializeMembershipPolicy policyId) hub
  | parameters (parameters : AcpParams) :
      CommandEffect sequence hub (.setAcpParameters parameters) { hub with
          acp := hub.acp.withStored Acp.paramsKey (.params parameters) }
  | relaySet (grant : RelayGrant) (key : Bytes) (keyed : relayKey crypto grant.issuer = .ok key) :
      CommandEffect sequence hub (.setRelay grant) { hub with
          vera := hub.vera.withStored key (.relay ⟨grant, sequence⟩) }
  | relayRevoked (issuer : String) (key : Bytes) (keyed : relayKey crypto issuer = .ok key) :
      CommandEffect sequence hub (.revokeRelay issuer)
        { hub with vera := hub.vera.withoutStored key }
  | budget (bytes : UInt64) : CommandEffect sequence hub (.setOperationBudget bytes) { hub with
          acp := hub.acp.withStored operationBudgetKey (.counter bytes) }

variable {crypto}

theorem applyCommand_wp (hub : Hub) (sequence now : UInt64) (command : AdministrativeCommand) :
    (applyCommand crypto sequence now command).Wp (fun result final =>
        match result with
        | .ok () => CommandEffect crypto sequence hub command final
        | .error _ => final = hub) hub := by
  cases command with
  | rotateOperators policy => exact .rotated policy
  | initializeMembershipPolicy policyId => exact .initialized policyId
  | setAcpParameters parameters => exact .parameters parameters
  | setRelay grant =>
    apply Wp.within
    unfold VeraModule.setRelay
    apply Wp.ofExcept
    · intro error _
      rfl
    · intro key keyed
      apply Wp.failIf
      · intro _
        rfl
      · intro _
        exact .relaySet grant key keyed
  | revokeRelay issuer =>
    apply Wp.within
    unfold VeraModule.revokeRelay
    apply Wp.ofExcept
    · intro error _
      rfl
    · intro key keyed
      apply Wp.gets
      apply Wp.failIf
      · intro _
        rfl
      · intro _
        exact .relayRevoked issuer key keyed
  | setOperationBudget bytes =>
    apply Wp.within
    unfold AcpModule.setOperationBudget
    apply Wp.failIf
    · intro _
      rfl
    · intro _
      apply Wp.query
      · intro error _
        rfl
      · intro retained _
        apply Wp.failIf
        · intro _
          rfl
        · intro _
          exact .budget bytes

variable (crypto)

/-- The checks that an accepted request passed. -/
structure Approved (hub : Hub) (call : AdminCall)
    (state advanced : AdministrationState) : Prop where
  configured : administration hub.vera = .ok (some state)
  sequence : call.signed.request.sequence = state.sequence
  enough : state.policy.threshold.toNat ≤ call.signed.approvals.length
  ordered : OrderedApprovals call.signed.approvals
  verified : ∀ approval ∈ call.signed.approvals,
    verifyApproval crypto state.policy
      (call.signed.request.signingDigest crypto.sha256) approval = .ok ()
  advances : advancedAdministration crypto hub.acp state call.signed.request.command = .ok advanced

/-- What an accepted request does. -/
inductive Administered (hub : Hub) (call : AdminCall) : Hub → Prop where
  | accepted (state advanced : AdministrationState) (middle : Hub)
      (approved : Approved crypto hub call state advanced)
      (effect : CommandEffect crypto call.signed.request.sequence hub
        call.signed.request.command middle) :
      Administered hub call { middle with
          vera := middle.vera.withStored administrationKey (.administration advanced) }

variable {crypto}

theorem configuredAdministration_ok {module : VeraModule}
    (found : configuredAdministration module = .ok state) :
    administration module = .ok (some state) := by
  unfold configuredAdministration at found
  obtain ⟨stored, read, found⟩ := exceptBind_ok found
  cases stored with
  | none => cases found
  | some other =>
    cases found
    exact read

variable (crypto) in
/-- A rejected request changes nothing; an accepted one passed every check. -/
theorem applyAdministrativeRequest_wp (hub : Hub) (call : AdminCall) :
    (applyAdministrativeRequest crypto call.genesisId call.now call.signed).Wp (fun result final =>
        match result with
        | .ok () => Administered crypto hub call final
        | .error _ => final = hub) hub := by
  unfold applyAdministrativeRequest
  apply Wp.query
  · intro error _
    rfl
  · intro state configured
    apply Wp.failIf
    · intro _
      rfl
    · intro current
      push Not at current
      apply Wp.failIf
      · intro _
        rfl
      · intro quorum
        push Not at quorum
        apply Wp.ofExcept
        · intro error _
          rfl
        · intro _ verified
          apply Wp.query
          · intro error _
            rfl
          · intro advanced advances
            have approved : Approved crypto hub call state advanced :=
              { configured := configuredAdministration_ok configured
                sequence := current.2.2.1
                enough := quorum.1
                ordered := quorum.2.2
                verified := forM_ok_iff.mp verified
                advances := advances }
            apply Wp.bind
            apply Wp.weaken (applyCommand_wp hub _ call.now _)
            intro result middle reached
            cases result with
            | error _ => exact reached
            | ok _ => exact .accepted state advanced middle approved reached

end Effects

/-! ## Runs -/

section Runs

variable (crypto : Crypto)

def accepts (hub : Hub) (call : AdminCall) : Prop :=
  ((applyAdministrativeRequest crypto call.genesisId call.now call.signed).run hub).1 = .ok ()

/-- The state a request leaves, whether it is accepted or rejected. -/
def administer (hub : Hub) (call : AdminCall) : Hub :=
  ((applyAdministrativeRequest crypto call.genesisId call.now call.signed).run hub).2

def administerAll (hub : Hub) (calls : List AdminCall) : Hub :=
  calls.foldl (administer crypto) hub

variable {crypto}

theorem administer_of_rejected
    (rejected : ¬ accepts crypto hub call) : administer crypto hub call = hub := by
  have outcome := applyAdministrativeRequest_wp crypto hub call
  unfold Wp at outcome
  unfold accepts at rejected
  cases result : ((applyAdministrativeRequest crypto call.genesisId call.now
      call.signed).run hub).1 with
  | ok value => exact absurd result rejected
  | error failure =>
    rw [result] at outcome
    exact outcome

theorem administer_of_accepted (accepted : accepts crypto hub call) :
    Administered crypto hub call (administer crypto hub call) := by
  have outcome := applyAdministrativeRequest_wp crypto hub call
  unfold Wp at outcome
  rw [accepted] at outcome
  exact outcome

theorem administerAll_append (hub : Hub) (first second : List AdminCall) :
    administerAll crypto hub (first ++ second) =
      administerAll crypto (administerAll crypto hub first) second := by
  unfold administerAll
  exact List.foldl_append

end Runs

/-! ## The administrative state -/

theorem administration_withStored (module : VeraModule) (state : AdministrationState) :
    administration (module.withStored administrationKey (.administration state)) =
      .ok (some state) := by
  unfold administration VeraModule.withStored
  rw [OrderedMap.get_insert_self]
  rfl

variable {crypto : Crypto}

theorem Administered.administration {final : Hub}
    (administered : Administered crypto hub call final) :
    ∃ state advanced, Approved crypto hub call state advanced ∧
      VeraModule.administration final.vera = .ok (some advanced) := by
  obtain ⟨state, advanced, middle, approved, _⟩ := administered
  exact ⟨state, advanced, approved, administration_withStored _ _⟩

/-- What a change of the administrative state keeps. -/
structure Advances (crypto : Crypto) (state advanced : AdministrationState) : Prop where
  sequence : advanced.sequence.toNat = state.sequence.toNat + 1
  valid : state.policy.validate crypto = .ok () → advanced.policy.validate crypto = .ok ()
  membership : ∀ policyId, state.membershipPolicy = some policyId →
    advanced.membershipPolicy = some policyId

variable {advanced : AdministrationState}

theorem advancedAdministration_advances {acp : AcpModule} {command : AdministrativeCommand}
    (advances : advancedAdministration crypto acp state command = .ok advanced) :
    Advances crypto state advanced := by
  unfold advancedAdministration at advances
  cases successor : checkedSucc state.sequence with
  | none =>
    rw [successor] at advances
    cases advances
  | some sequence =>
    have next := checkedSucc_toNat successor
    rw [successor] at advances
    cases command with
    | rotateOperators policy =>
      obtain ⟨_, valid, advances⟩ := exceptBind_ok advances
      cases advances
      exact ⟨next, fun _ => valid, fun _ kept => kept⟩
    | initializeMembershipPolicy policyId =>
      simp only at advances
      obtain ⟨refused, advances⟩ := ifError_ok advances
      push Not at refused
      have unset : state.membershipPolicy = none := by
        simpa using refused.1
      cases read : AcpModule.getPolicyRecord (hexText policyId) acp with
      | error failure =>
        rw [read] at advances
        cases advances
      | ok found =>
        rw [read] at advances
        cases found with
        | none => cases advances
        | some record =>
          cases advances
          refine ⟨next, fun valid => valid, ?_⟩
          intro other set
          rw [unset] at set
          cases set
    | setAcpParameters =>
      cases advances
      exact ⟨next, fun valid => valid, fun _ kept => kept⟩
    | setRelay =>
      cases advances
      exact ⟨next, fun valid => valid, fun _ kept => kept⟩
    | revokeRelay =>
      cases advances
      exact ⟨next, fun valid => valid, fun _ kept => kept⟩
    | setOperationBudget =>
      cases advances
      exact ⟨next, fun valid => valid, fun _ kept => kept⟩

/-- A configured operator policy stays valid, sequences grow and a membership
policy stays. -/
structure Governed (crypto : Crypto) (hub : Hub) (state : AdministrationState) : Prop where
  configured : administration hub.vera = .ok (some state)
  valid : state.policy.validate crypto = .ok ()

theorem Governed.accepted
    (governed : Governed crypto hub state) (accepted : accepts crypto hub call) :
    ∃ next, Approved crypto hub call state next ∧
      Governed crypto (administer crypto hub call) next ∧
        Advances crypto state next := by
  obtain ⟨found, advanced, approved, reached⟩ := (administer_of_accepted accepted).administration
  have same := approved.configured
  rw [governed.configured] at same
  cases same
  have advances := advancedAdministration_advances approved.advances
  exact ⟨advanced, approved, ⟨reached, advances.valid governed.valid⟩, advances⟩

theorem Governed.administer (governed : Governed crypto hub state) (call : AdminCall) :
    ∃ next, Governed crypto (administer crypto hub call) next ∧
      state.sequence.toNat ≤ next.sequence.toNat ∧
        ∀ policyId, state.membershipPolicy = some policyId →
          next.membershipPolicy = some policyId := by
  by_cases accepted : accepts crypto hub call
  · obtain ⟨next, _, nextGoverned, advances⟩ := governed.accepted accepted
    refine ⟨next, nextGoverned, ?_, advances.membership⟩
    rw [advances.sequence]
    exact Nat.le_succ _
  · rw [administer_of_rejected accepted]
    exact ⟨state, governed, Nat.le_refl _, fun _ kept => kept⟩

theorem Governed.administerAll (governed : Governed crypto hub state) (calls : List AdminCall) :
    ∃ next, Governed crypto (administerAll crypto hub calls) next ∧
      state.sequence.toNat ≤ next.sequence.toNat ∧
        ∀ policyId, state.membershipPolicy = some policyId →
          next.membershipPolicy = some policyId := by
  induction calls generalizing hub state with
  | nil => exact ⟨state, governed, Nat.le_refl _, fun _ kept => kept⟩
  | cons call rest ih =>
    obtain ⟨middle, middleGoverned, first, firstKept⟩ := governed.administer call
    obtain ⟨next, nextGoverned, second, secondKept⟩ := ih middleGoverned
    exact ⟨next, nextGoverned, first.trans second,
      fun policyId set => secondKept policyId (firstKept policyId set)⟩

theorem Governed.sequence_lt (governed : Governed crypto hub state) {again : AdminCall}
    {later : List AdminCall} (accepted : accepts crypto hub call)
    (acceptedAgain : accepts crypto
      (Hub.administerAll crypto (Hub.administer crypto hub call) later) again) :
    call.signed.request.sequence.toNat <
      again.signed.request.sequence.toNat := by
  obtain ⟨next, approved, nextGoverned, advances⟩ := governed.accepted accepted
  obtain ⟨final, finalGoverned, grown, _⟩ := nextGoverned.administerAll later
  obtain ⟨_, approvedAgain, _, _⟩ := finalGoverned.accepted acceptedAgain
  have next := advances.sequence
  rw [approved.sequence, approvedAgain.sequence]
  omega

/-! ## Quorums -/

/-- A key of the policy made a valid signature over exactly this request. -/
def SignedBy (crypto : Crypto) (request : AdministrativeRequest)
    (key : String) (approval : OperatorApproval) : Prop :=
  ∃ keyBytes signature, hexDecode (utf8 key) = some keyBytes ∧
    hexDecode (utf8 approval.signature) = some signature ∧
      crypto.verifyDigest keyBytes (request.signingDigest crypto.sha256) signature = .ok ()

/-- Distinct keys of the policy, at least as many as its threshold, signed the
request. -/
def Quorum (crypto : Crypto) (policy : OperatorPolicy)
    (signed : SignedAdministrativeRequest) : Prop :=
  ∃ keys : List String, keys.Nodup ∧
    policy.threshold.toNat ≤ keys.length ∧
      ∀ key ∈ keys, key ∈ policy.keys ∧
        ∃ approval ∈ signed.approvals, SignedBy crypto signed.request key approval

theorem decodeHex_ok {text : String} {bytes : Bytes} (decoded : decodeHex text = .ok bytes) :
    hexDecode (utf8 text) = some bytes := by
  unfold decodeHex at decoded
  cases read : hexDecode (utf8 text) with
  | none =>
    rw [read] at decoded
    cases decoded
  | some other =>
    rw [read] at decoded
    cases decoded
    rfl

theorem decodeLowerHex_ok {text mismatch : String} {bytes : Bytes}
    (decoded : decodeLowerHex text mismatch = .ok bytes) : hexDecode (utf8 text) = some bytes := by
  unfold decodeLowerHex at decoded
  obtain ⟨other, read, decoded⟩ := exceptBind_ok decoded
  obtain ⟨differs, decoded⟩ := ifError_ok decoded
  cases decoded
  exact decodeHex_ok read

/-- A verified approval names a key of the policy, which signed the request. -/
theorem verifyApproval_ok {request : AdministrativeRequest} {approval : OperatorApproval}
    (verified : verifyApproval crypto policy
      (request.signingDigest crypto.sha256) approval = .ok ()) :
    ∃ key, policy.keys[approval.signer.toNat]? = some key ∧
      SignedBy crypto request key approval := by
  unfold verifyApproval at verified
  cases found : policy.keys[approval.signer.toNat]? with
  | none =>
    rw [found] at verified
    cases verified
  | some key =>
    rw [found] at verified
    refine ⟨key, rfl, ?_⟩
    simp only at verified
    obtain ⟨width, verified⟩ := ifError_ok verified
    obtain ⟨signature, signatureRead, verified⟩ := exceptBind_ok verified
    obtain ⟨keyBytes, keyRead, verified⟩ := exceptBind_ok verified
    exact ⟨keyBytes, signature, decodeHex_ok keyRead, decodeLowerHex_ok signatureRead, verified⟩

theorem keys_nodup (valid : policy.validate crypto = .ok ()) :
    policy.keys.Nodup := by
  unfold OperatorPolicy.validate at valid
  by_cases refused : policy.threshold = 0 ∨
      policy.keys.length < policy.threshold.toNat ∨
        OperatorPolicy.maxOperators < policy.keys.length ∨ ¬ policy.Ordered
  · rw [if_pos refused] at valid
    cases valid
  · push Not at refused
    have increasing := List.isChain_iff_pairwise.mp refused.2.2.2
    have distinct := increasing.imp fun {first second} below => ne_of_lt below
    exact List.Nodup.of_map utf8 distinct

theorem Approved.quorum (approved : Approved crypto hub call state advanced)
    (valid : state.policy.validate crypto = .ok ()) : Quorum crypto state.policy call.signed := by
  have distinct := keys_nodup valid
  have signers : call.signed.approvals.Pairwise fun first second => first.signer < second.signer :=
    List.pairwise_map.mp (List.isChain_iff_pairwise.mp approved.ordered)
  have read := fun approval member =>
    verifyApproval_ok (approved.verified approval member)
  refine ⟨call.signed.approvals.filterMap
    fun approval => state.policy.keys[approval.signer.toNat]?, ?_, ?_, ?_⟩
  · unfold List.Nodup
    rw [List.pairwise_filterMap]
    apply signers.imp
    intro first second below key isFirst other isSecond same
    subst same
    obtain ⟨firstBound, firstKey⟩ := List.getElem?_eq_some_iff.mp isFirst
    obtain ⟨secondBound, secondKey⟩ := List.getElem?_eq_some_iff.mp isSecond
    have sameIndex := distinct.getElem_inj_iff.mp (firstKey.trans secondKey.symm)
    rw [UInt16.lt_iff_toNat_lt, sameIndex] at below
    exact lt_irrefl _ below
  · rw [List.filterMap_length_eq_length.mpr]
    · exact approved.enough
    · intro approval member
      obtain ⟨key, found, _⟩ := read approval member
      rw [found]
      rfl
  · intro key member
    obtain ⟨approval, isApproval, found⟩ := List.mem_filterMap.mp member
    obtain ⟨other, otherFound, signedBy⟩ := read approval isApproval
    rw [found] at otherFound
    cases otherFound
    exact ⟨List.mem_of_getElem? found, approval, isApproval, signedBy⟩

/-! ## From initialization on -/

theorem initialize_governed {before started : VeraModule} (acp : AcpModule)
    (initialized : (initializeAdministration crypto policy).run before = (.ok (), started)) :
    Governed crypto ⟨acp, started⟩ ⟨policy, 0, none⟩ := by
  have outcome : (initializeAdministration crypto policy).Wp (fun result final =>
        result = .ok () → Governed crypto ⟨acp, final⟩ ⟨policy, 0, none⟩)
      before := by
    unfold initializeAdministration
    apply Wp.ofExcept
    · intro error _ impossible
      cases impossible
    · intro _ valid
      apply Wp.gets
      apply Wp.failIf
      · intro _ impossible
        cases impossible
      · intro _ _
        exact ⟨administration_withStored _ _, valid⟩
  unfold Wp at outcome
  rw [initialized] at outcome
  exact outcome rfl

def operators : OperatorPolicy where
  threshold := 1
  keys :=
    ["0211111111111111111111111111111111111111111111111111111111111111" ++ "11",
      "0322222222222222222222222222222222222222222222222222222222222222" ++ "22"]

/-- A request for a larger budget with the approval of the second operator. -/
def budgetRequest : SignedAdministrativeRequest where
  request :=
    { genesisId := List.replicate 32 7
      sequence := 0
      expiresAt := 100
      command := .setOperationBudget 134217728 }
  approvals :=
    [⟨1,
      "0000000000000000000000000000000000000000000000000000000000000001" ++
        "0000000000000000000000000000000000000000000000000000000000000002"⟩]

/-- Compressed keys start with two or three; a signature names the last byte of
the digest and of the key. -/
def operatorCrypto : Crypto where
  sha256 bytes := bytes.reverse.take 32
  base64Decode _ := .error "invalid"
  headerJson _ := .error "invalid"
  claimsJson _ := .error "invalid"
  multibaseDecode _ := .error "invalid"
  compressKey _ := .error "invalid"
  readKey key :=
    if key.head? = some 2 ∨ key.head? = some 3 then .ok ()
    else .error "invalid"
  verifyPrehash key _ signature := decide (signature.s * 17 = (key.getLast?.getD 0).toNat)
  didFromPubkey _ := .error "invalid"

end Hub

end VeraHub.Vera
