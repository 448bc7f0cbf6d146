import VeraHub.Vera.OperatorRuns

/-!
# Relay grants over runs of administrative requests

A stored grant carries the sequence of the request that installed it.  As
sequences never repeat, a relay token stops being accepted with the next change
to its issuer's grant, whatever is installed later.
-/

namespace VeraHub.Vera.Hub

open VeraHub.Zanzibar VeraHub.Acp VeraModule

variable {crypto : Crypto}

/-! ## The record of an issuer -/

def grantKey (issuer : String) : Bytes :=
  relayPrefix ++ utf8 issuer

variable {issuer : String}

theorem relayKey_ok {key : Bytes}
    (keyed : relayKey crypto issuer = .ok key) : key = grantKey issuer := by
  unfold relayKey at keyed
  by_cases long : 128 < (utf8 issuer).length
  · simp only [if_pos long] at keyed
    cases keyed
  · simp only [if_neg long] at keyed
    cases canonical : crypto.canonicalIssuer issuer with
    | error failure =>
      simp only [canonical] at keyed
      cases keyed
    | ok other =>
      simp only [canonical] at keyed
      obtain ⟨differs, keyed⟩ := ifError_ok keyed
      cases keyed
      rfl

theorem grantKey_inj {first second : String} :
    grantKey first = grantKey second ↔ first = second := by
  unfold grantKey
  rw [List.append_cancel_left_eq, utf8_inj]

theorem grantKey_ne_administrationKey (issuer : String) : grantKey issuer ≠ administrationKey := by
  intro same
  have apart : Apart relayPrefix administrationKey := by decide
  have leads : relayPrefix <+: grantKey issuer := List.prefix_append _ _
  have whole : administrationKey <+: grantKey issuer := same ▸ List.prefix_rfl
  exact apart.not_isPrefix leads whole

/-- A command that installs, replaces or removes the grant of an issuer. -/
def Touches (issuer : String) : AdministrativeCommand → Prop
  | .setRelay grant => grant.issuer = issuer
  | .revokeRelay other => other = issuer
  | _ => False

/-- The grant record after a command that touches its issuer. -/
def grantAfter (sequence : UInt64) : AdministrativeCommand → Option VeraValue
  | .setRelay grant => some (.relay ⟨grant, sequence⟩)
  | _ => none

theorem Administered.grant_of_touches {hub final : Hub} {call : AdminCall} (administered : Administered crypto hub call final)
    (touches : Touches issuer call.signed.request.command) :
    final.vera.store.get (grantKey issuer) = grantAfter call.signed.request.sequence
        call.signed.request.command := by
  obtain ⟨state, advanced, middle, _, effect⟩ := administered
  change (middle.vera.store.insert _ _).get _ = _
  rw [OrderedMap.get_insert_of_ne _ _ (grantKey_ne_administrationKey issuer)]
  revert touches effect
  cases call.signed.request.command with
  | setRelay grant =>
    rintro rfl ⟨⟩
    rename_i key keyed
    rw [relayKey_ok keyed]
    exact OrderedMap.get_insert_self _ _ _
  | revokeRelay other =>
    rintro rfl ⟨⟩
    rename_i key keyed
    rw [relayKey_ok keyed]
    change (hub.vera.store.erase _).get _ = _
    rw [OrderedMap.get_erase, if_pos rfl]
    rfl
  | rotateOperators policy => exact fun impossible => impossible.elim
  | initializeMembershipPolicy policyId =>
    exact fun impossible => impossible.elim
  | setAcpParameters parameters => exact fun impossible => impossible.elim
  | setOperationBudget bytes => exact fun impossible => impossible.elim

theorem Administered.grant_of_untouched {hub final : Hub} {call : AdminCall} (administered : Administered crypto hub call final)
    (untouched : ¬ Touches issuer call.signed.request.command) :
    final.vera.store.get (grantKey issuer) =
      hub.vera.store.get (grantKey issuer) := by
  obtain ⟨state, advanced, middle, _, effect⟩ := administered
  change (middle.vera.store.insert _ _).get _ = _
  rw [OrderedMap.get_insert_of_ne _ _ (grantKey_ne_administrationKey issuer)]
  revert untouched effect
  cases call.signed.request.command with
  | setRelay grant =>
    rintro other ⟨⟩
    rename_i key keyed
    have different : grantKey issuer ≠ key := by
      rw [relayKey_ok keyed, ne_eq, grantKey_inj]
      exact fun same => other same.symm
    exact OrderedMap.get_insert_of_ne _ _ different
  | revokeRelay issuerOther =>
    rintro other ⟨⟩
    rename_i key keyed
    have different : grantKey issuer ≠ key := by
      rw [relayKey_ok keyed, ne_eq, grantKey_inj]
      exact fun same => other same.symm
    change (hub.vera.store.erase _).get _ = _
    rw [OrderedMap.get_erase, if_neg different]
  | rotateOperators policy =>
    rintro _ ⟨⟩
    rfl
  | initializeMembershipPolicy policyId =>
    rintro _ ⟨⟩
    rfl
  | setAcpParameters parameters =>
    rintro _ ⟨⟩
    rfl
  | setOperationBudget bytes =>
    rintro _ ⟨⟩
    rfl

/-! ## Who installed a grant -/

variable (crypto)

/-- A request of the run installed this grant, and no request accepted since
touches its issuer. -/
def InstalledBy (start : Hub) (calls : List AdminCall) (issuer : String)
    (state : RelayState) : Prop :=
  ∃ earlier call later, calls = earlier ++ call :: later ∧
    accepts crypto (administerAll crypto start earlier) call ∧
      call.signed.request.command = .setRelay state.grant ∧
        state.grant.issuer = issuer ∧
          call.signed.request.sequence = state.sequence ∧
            ∀ between next rest, later = between ++ next :: rest →
              accepts crypto (administerAll crypto start (earlier ++ call :: between)) next →
                ¬ Touches issuer next.signed.request.command

variable {crypto}

variable {start : Hub} {state : RelayState}

/-- An installed grant stays installed through a call that is rejected or does
not touch its issuer. -/
theorem InstalledBy.snoc {calls : List AdminCall} {last : AdminCall}
    (installed : InstalledBy crypto start calls issuer state)
    (untouched : accepts crypto (administerAll crypto start calls) last →
      ¬ Touches issuer last.signed.request.command) :
    InstalledBy crypto start (calls ++ [last]) issuer state := by
  obtain ⟨earlier, call, later, split, accepted, installs, sameIssuer, sequence, since⟩ := installed
  refine ⟨earlier, call, later ++ [last], ?_, accepted, installs, sameIssuer, sequence, ?_⟩
  · rw [split, List.append_assoc, List.cons_append]
  · intro between next rest laterSplit nextAccepted
    rcases List.eq_nil_or_concat rest with isLast | ⟨shorter, final, longer⟩
    · -- the next request is the last one
      subst isLast
      obtain ⟨sameBetween, sameNext⟩ := List.append_inj' laterSplit rfl
      cases sameNext
      apply untouched
      rw [split, sameBetween]
      exact nextAccepted
    · rw [longer, List.concat_eq_append, ← List.cons_append, ← List.append_assoc] at laterSplit
      obtain ⟨sameLater, _⟩ := List.append_inj' laterSplit rfl
      exact since between next shorter sameLater nextAccepted

theorem grant_installed (none_yet : start.vera.store.get (grantKey issuer) = none)
    (calls : List AdminCall) {value : VeraValue}
    (found : (administerAll crypto start calls).vera.store.get (grantKey issuer) = some value) :
    ∃ state, value = .relay state ∧
      InstalledBy crypto start calls issuer state := by
  induction calls using List.reverseRecOn with
  | nil =>
    change start.vera.store.get (grantKey issuer) = some value at found
    rw [none_yet] at found
    cases found
  | append_singleton calls last ih =>
    rw [administerAll_append] at found
    change (administer crypto (administerAll crypto start calls)
      last).vera.store.get (grantKey issuer) = some value at found
    by_cases accepted : accepts crypto (administerAll crypto start calls) last
    · have effect := administer_of_accepted accepted
      by_cases touches : Touches issuer last.signed.request.command
      · rw [effect.grant_of_touches touches] at found
        cases command : last.signed.request.command with
        | setRelay grant =>
          rw [command] at found touches
          cases found
          refine ⟨_, rfl, calls, last, [], rfl, accepted, command, touches, rfl, ?_⟩
          intro between next rest impossible
          simp at impossible
        | revokeRelay other =>
          rw [command] at found
          cases found
        | rotateOperators policy =>
          rw [command] at found
          cases found
        | initializeMembershipPolicy policyId =>
          rw [command] at found
          cases found
        | setAcpParameters parameters =>
          rw [command] at found
          cases found
        | setOperationBudget bytes =>
          rw [command] at found
          cases found
      · rw [effect.grant_of_untouched touches] at found
        obtain ⟨state, isRelay, installed⟩ := ih found
        exact ⟨state, isRelay, installed.snoc fun _ => touches⟩
    · rw [administer_of_rejected accepted] at found
      obtain ⟨state, isRelay, installed⟩ := ih found
      exact ⟨state, isRelay, installed.snoc fun later => absurd later accepted⟩

/-! ## Tokens under a grant -/

variable {module : VeraModule}

theorem authorizeRelay_ok {claims : JwtClaims} {assertion : RelayAssertion} {operation : Bytes}
    {context : BlockExecCtx} (isRelay : claims.relay = some assertion)
    (authorized : authorizeRelay crypto claims operation context module = .ok ()) :
    ∃ state, relay crypto claims.iss module = .ok (some state) ∧
      assertion.grantSequence = state.sequence := by
  unfold authorizeRelay at authorized
  simp only [isRelay] at authorized
  obtain ⟨stored, read, authorized⟩ := exceptBind_ok authorized
  cases stored with
  | none => cases authorized
  | some state =>
    refine ⟨state, read, ?_⟩
    by_cases covered : assertionWithin claims assertion state operation context = true
    · unfold assertionWithin at covered
      simp only [Bool.and_eq_true, decide_eq_true_iff] at covered
      exact covered.1.1.1.1.1.1.1.1.2
    · simp only [covered] at authorized
      cases authorized

theorem relay_ok (read : relay crypto issuer module = .ok (some state)) :
    module.store.get (grantKey issuer) = some (.relay state) := by
  unfold relay at read
  obtain ⟨key, keyed, read⟩ := exceptBind_ok read
  rw [relayKey_ok keyed] at read
  cases stored : module.store.get (grantKey issuer) with
  | none =>
    simp only [stored] at read
    cases read
  | some value =>
    simp only [stored] at read
    cases value with
    | relay other =>
      cases read
      rfl
    | token record => cases read
    | marker => cases read
    | empty => cases read
    | chainConfig config => cases read
    | administration other => cases read
    | service bytes => cases read

theorem initialize_installs_nothing {policy : OperatorPolicy} {started : VeraModule}
    (initialized : (initializeAdministration crypto policy).run
      VeraModule.new = (.ok (), started)) (issuer : String) :
    started.store.get (grantKey issuer) = none := by
  have outcome : (initializeAdministration crypto policy).Wp
      (fun _ final => final.store.get (grantKey issuer) = none)
      VeraModule.new := by
    unfold initializeAdministration
    apply Exec.Wp.ofExcept
    · intro error _
      rfl
    · intro _ _
      apply Exec.Wp.gets
      apply Exec.Wp.failIf
      · intro _
        rfl
      · intro _
        exact OrderedMap.get_insert_of_ne _ _ (grantKey_ne_administrationKey issuer)
  unfold Exec.Wp at outcome
  rw [initialized] at outcome
  exact outcome

theorem sequence_lt_of_split {state : AdministrationState} (governed : Governed crypto start state)
    {earlier between : List AdminCall} {first second : AdminCall}
    (firstAccepted : accepts crypto (administerAll crypto start earlier) first)
    (secondAccepted : accepts crypto
      (administerAll crypto start (earlier ++ first :: between)) second) :
    first.signed.request.sequence.toNat <
      second.signed.request.sequence.toNat := by
  obtain ⟨_, before, _, _⟩ := governed.administerAll earlier
  apply before.sequence_lt firstAccepted
  rw [administerAll_append] at secondAccepted
  exact secondAccepted

/-- A relay token is accepted only under the grant whose installing request has
the sequence the token names, with no accepted request touching its issuer
since.  So once a grant is replaced or revoked, no token bound to it is ever
accepted again, whatever is installed later. -/
theorem relay_tokens_follow_their_grant (acp : AcpModule)
    (started : VeraModule) (policy : OperatorPolicy)
    (initialized : (initializeAdministration crypto policy).run
      VeraModule.new = (.ok (), started)) (calls : List AdminCall)
    (claims : JwtClaims) (assertion : RelayAssertion)
    (isRelay : claims.relay = some assertion) (operation : Bytes) (context : BlockExecCtx) :
    let start : Hub := ⟨acp, started⟩
    let hub := administerAll crypto start calls
    (authorizeRelay crypto claims operation context hub.vera = .ok () →
      ∃ state, relay crypto claims.iss hub.vera = .ok (some state) ∧
        state.sequence = assertion.grantSequence ∧
          InstalledBy crypto start calls claims.iss state) ∧
    ∀ earlier install between change later,
      calls = earlier ++ install :: (between ++ change :: later) →
        accepts crypto (administerAll crypto start earlier) install →
          install.signed.request.sequence = assertion.grantSequence →
            accepts crypto (administerAll crypto start (earlier ++ install :: between)) change →
              Touches claims.iss change.signed.request.command →
                authorizeRelay crypto claims operation context hub.vera ≠
                  .ok () := by
  intro start hub
  have governed : Governed crypto start ⟨policy, 0, none⟩ := initialize_governed acp initialized
  have installed : authorizeRelay crypto claims operation context hub.vera =
      .ok () → ∃ state, relay crypto claims.iss hub.vera = .ok (some state) ∧
        state.sequence = assertion.grantSequence ∧
          InstalledBy crypto start calls claims.iss state := by
    intro authorized
    obtain ⟨state, read, sequence⟩ := authorizeRelay_ok isRelay authorized
    obtain ⟨other, same, history⟩ := grant_installed
      (initialize_installs_nothing initialized claims.iss) calls (relay_ok read)
    cases same
    exact ⟨state, read, sequence.symm, history⟩
  refine ⟨installed, ?_⟩
  intro earlier install between change later split installAccepted bound
    changeAccepted touches authorized
  obtain ⟨state, _, sequence, first, call, rest, otherSplit, callAccepted, _,
    _, callSequence, since⟩ := installed authorized
  have sameSequence : call.signed.request.sequence =
      install.signed.request.sequence := by
    rw [callSequence, sequence, bound]
  rw [otherSplit] at split
  -- the installing request stands before, at or after the one of the token
  rcases List.append_eq_append_iff.mp split with
    ⟨middle, isEarlier, isRest⟩ | ⟨middle, isFirst, isRest⟩
  · cases middle with
    | nil =>
      rw [List.append_nil] at isEarlier
      subst isEarlier
      injection isRest with sameCall sameRest
      subst sameCall
      exact since between change later sameRest changeAccepted touches
    | cons head tail =>
      injection isRest with sameCall _
      subst sameCall
      rw [isEarlier] at installAccepted
      have below := sequence_lt_of_split governed callAccepted installAccepted
      rw [sameSequence] at below
      exact lt_irrefl _ below
  · cases middle with
    | nil =>
      rw [List.append_nil] at isFirst
      subst isFirst
      injection isRest with sameCall sameRest
      subst sameCall
      exact since between change later sameRest.symm changeAccepted touches
    | cons head tail =>
      injection isRest with sameInstall _
      subst sameInstall
      rw [isFirst] at callAccepted
      have below := sequence_lt_of_split governed installAccepted callAccepted
      rw [sameSequence] at below
      exact lt_irrefl _ below

/-- The key library of the operators, with one relay key. -/
def relayCrypto : Crypto :=
  { operatorCrypto with
    multibaseDecode := fun text =>
      if text = "zRelay" then .ok ([0xe7, 0x01, 2] ++ List.replicate 32 9)
      else .error "invalid"
    didFromPubkey := fun key =>
      if key = 2 :: List.replicate 32 9 then .ok "did:key:zRelay"
      else .error "invalid" }

def approvedCommand (sequence : UInt64) (command : AdministrativeCommand) : AdminCall where
  genesisId := List.replicate 32 7
  now := 50
  signed := { budgetRequest with
      request := ⟨List.replicate 32 7, sequence, 100, command⟩ }

def relayGrant : RelayGrant where
  issuer := "did:key:zRelay"
  scopes := [.policyCommands]
  expiresAt := 1000

def relayCalls : List AdminCall :=
  [approvedCommand 0 (.setRelay relayGrant), approvedCommand 1 (.revokeRelay "did:key:zRelay"),
    approvedCommand 2 (.setRelay relayGrant)]

def relayAssertion : RelayAssertion where
  actor := "did:opk:" ++ String.ofList (List.replicate 64 '0')
  genesisId := List.replicate 32 7
  grantSequence := 0
  operation := [1]

def relayClaims : JwtClaims where
  iss := "did:key:zRelay"
  sub := "did:key:worker"
  exp := 100
  aud := "vera:1"
  scope := .policyCommands
  iat := 50
  nbf := 50
  relay := some relayAssertion
  request := none

/-- The token is accepted under the first grant, and not under the identical
second one. -/
theorem relay_token_dies_with_its_grant :
    let started := ((initializeAdministration relayCrypto operators).run VeraModule.new).2
    let start : Hub := ⟨AcpModule.new, started⟩
    let context : BlockExecCtx := ⟨List.replicate 32 7, 1, ⟨60, 6⟩⟩
    authorizeRelay relayCrypto relayClaims [1] context
        (administerAll relayCrypto start (relayCalls.take 1)).vera = .ok () ∧
      relay relayCrypto "did:key:zRelay" (administerAll relayCrypto start relayCalls).vera =
        .ok (some ⟨relayGrant, 2⟩) ∧
        authorizeRelay relayCrypto relayClaims [1] context
          (administerAll relayCrypto start relayCalls).vera ≠ .ok () := by
  intro started start context
  have initialized : (initializeAdministration relayCrypto operators).run
      VeraModule.new = (.ok (), started) := by
    have succeeded : ((initializeAdministration relayCrypto operators).run
        VeraModule.new).1 = .ok () := by
      decide +kernel
    exact Prod.ext succeeded rfl
  refine ⟨by decide +kernel, by decide +kernel, ?_⟩
  apply (relay_tokens_follow_their_grant AcpModule.new started operators
    initialized relayCalls relayClaims relayAssertion rfl [1] context).2
    [] (approvedCommand 0 (.setRelay relayGrant)) []
    (approvedCommand 1 (.revokeRelay "did:key:zRelay"))
    [approvedCommand 2 (.setRelay relayGrant)] rfl
  · unfold accepts
    decide +kernel
  · rfl
  · unfold accepts
    decide +kernel
  · rfl

end VeraHub.Vera.Hub
