import VeraHub.Vera.TokenSweep

/-!
# Reachable token states

Every sequence of token calls leaves a state that the validator of restored
tokens accepts and that can be swept.
-/

namespace VeraHub.Vera

open VeraHub.Zanzibar VeraHub.Acp

/-- A call that changes token records. -/
inductive TokenCall where
  | store (block : BlockExecCtx) (bearerToken : String) (issuerDid : Did)
      (authorizedAccount : String) (issuedAt expiresAt : Timestamp)
  | recordUsage (block : BlockExecCtx) (tokenHash : String)
  | updateStatus (block : BlockExecCtx) (tokenHash : String)
      (status : JWSTokenStatus) (invalidatedBy : String)
  | revoke (context : BlockExecCtx) (caller : Did) (token : String)
  | invalidate (block : BlockExecCtx) (tx : TxExecCtx) (creator : Did) (tokenHash : String)
  | delete (tokenHash : String)
  | sweep (block : BlockExecCtx)
  | configure (config : ChainConfig)

namespace VeraModule

/-- The state a call leaves, whether it succeeds or fails. -/
def performToken (crypto : Crypto) (module : VeraModule) (call : TokenCall) :
    VeraModule :=
  match call with
  | .store block bearerToken issuerDid authorizedAccount issuedAt expiresAt =>
    ((storeOrUpdateJwsToken crypto.sha256 block bearerToken issuerDid
      authorizedAccount issuedAt expiresAt).run module).2
  | .recordUsage block tokenHash =>
    ((recordJwsTokenUsage block tokenHash).run module).2
  | .updateStatus block tokenHash status invalidatedBy =>
    ((updateJwsTokenStatus block tokenHash status invalidatedBy).run module).2
  | .revoke context caller token =>
    ((revokeDelegation crypto context caller token).run module).2
  | .invalidate block tx creator tokenHash =>
    ((invalidateJws crypto block tx creator tokenHash).run module).2
  | .delete tokenHash => ((deleteJwsToken tokenHash).run module).2
  | .sweep block => ((checkAndUpdateExpiredTokens block).run module).2
  | .configure config => ((setChainConfig config).run module).2

def performTokens (crypto : Crypto) (module : VeraModule) (calls : List TokenCall) : VeraModule :=
  calls.foldl (performToken crypto) module

/-! ## Calls keep states sound -/

variable {module : VeraModule}

theorem TokensSound.deleteJwsToken (sound : TokensSound module) (tokenHash : String) :
    TokensSound ((VeraModule.deleteJwsToken tokenHash).run module).2 := by
  have kept : (VeraModule.deleteJwsToken tokenHash).Wp
      (fun _ final => TokensSound final) module := by
    unfold VeraModule.deleteJwsToken
    apply Exec.Wp.query
    · intro error _
      exact sound
    · intro record found
      have read := requireToken_ok found
      have sameHash := getJwsToken_hash read
      rw [sound.getJwsToken_held] at read
      apply sound.withoutToken
      rw [sameHash]
      exact Except.ok.inj read
  exact kept

theorem TokensSound.setChainConfig (sound : TokensSound module) (config : ChainConfig) :
    TokensSound ((VeraModule.setChainConfig config).run module).2 := by
  have kept : (VeraModule.setChainConfig config).Wp (fun _ final => TokensSound final) module := by
    unfold VeraModule.setChainConfig
    apply Exec.Wp.gets
    apply Exec.Wp.failIf
    · intro _
      exact sound
    · intro fresh
      apply sound.withConfig
      cases stored : module.store.get chainConfigKey with
      | none => rfl
      | some value => exact absurd (by rw [stored]; rfl) fresh
  exact kept

theorem TokensSound.performToken (sound : TokensSound module) (crypto : Crypto) (call : TokenCall) :
    TokensSound (performToken crypto module call) := by
  have written : ∀ {α : Type} {step : VeraM α},
      LeavesWrites (fun _ => True) (fun _ _ => True) step module →
        TokensSound (step.run module).2 :=
    fun writes => sound.writes writes
  cases call with
  | store =>
    exact written (storeOrUpdateJwsToken_writes (fun _ _ _ _ => trivial) (fun _ _ _ _ => trivial))
  | recordUsage =>
    exact written (recordJwsTokenUsage_writes fun _ _ _ _ => trivial)
  | updateStatus =>
    exact written (updateJwsTokenStatus_writes fun _ _ => trivial)
  | revoke =>
    exact written (revokeDelegation_writes (fun _ _ _ _ => trivial) (fun _ _ _ _ _ => trivial))
  | invalidate =>
    exact written (invalidateJws_writes fun _ _ _ _ => trivial)
  | delete tokenHash => exact sound.deleteJwsToken tokenHash
  | sweep block => exact (sound.swept_held block).2.1
  | configure config => exact sound.setChainConfig config

theorem performTokens_sound (crypto : Crypto) (calls : List TokenCall) :
    TokensSound (performTokens crypto VeraModule.new calls) := by
  have kept : ∀ module, TokensSound module →
      TokensSound (performTokens crypto module calls) := by
    induction calls with
    | nil => exact fun _ sound => sound
    | cons call rest ih =>
      intro module sound
      exact ih _ (sound.performToken crypto call)
  exact kept _ TokensSound.new

/-! ## The validator accepts sound states -/

section Validation

variable {module : VeraModule} (sound : TokensSound module)

include sound

variable {index : TokenIndex}

theorem TokensSound.requireOptionalIndex (member : index ∈ tokenIndexes) {record : JWSTokenRecord}
    (isHeld : module.held record.tokenHash = some record) :
    requireOptionalIndex (index.keyOf record) index.mark module = .ok () := by
  obtain ⟨token, rfl, _, _⟩ := sound.indexed isHeld
  unfold VeraModule.requireOptionalIndex
  cases key : index.keyOf token.record with
  | none => rfl
  | some entry =>
    have stored : module.store.get (jwsTokenKey token.record.tokenHash) =
        some (.token token.record) := by
      rw [sound.get_primary, isHeld]
      rfl
    have marked := (sound.exact index member).covered token stored entry key
    change requireTokenIndex entry index.mark module = _
    unfold requireTokenIndex
    rw [if_neg]
    rw [marked]
    exact not_not.mpr rfl

variable {entry : Bytes × VeraValue}

theorem TokensSound.validateTokenEntry {config : ChainConfig}
    (configured : getChainConfig module = .ok config)
    (member : entry ∈ module.scan jwsTokenPrefix) :
    validateTokenEntry config module entry = .ok () := by
  obtain ⟨key, value⟩ := entry
  obtain ⟨starts, found⟩ := OrderedMap.mem_prefixScan_iff.mp member
  obtain ⟨token, rfl, rfl, account⟩ := sound.placed key value starts found
  have isHeld : module.held token.record.tokenHash = some token.record := by
    unfold held
    rw [found]
  have accountOk : validateRestoredAccount config token.record.authorizedAccount = .ok () := by
    unfold validateRestoredAccount
    rcases token.account with empty | named
    · obtain ⟨other, same, ignores⟩ := account empty
      rw [configured] at same
      cases same
      simp [empty, ignores]
    · rw [if_pos named.1]
      exact validateTokenSelector_ok_iff.mpr named
  have byDid := sound.requireOptionalIndex
    (show didIndex ∈ tokenIndexes by simp [tokenIndexes]) isHeld
  have byAccount := sound.requireOptionalIndex
    (show accountIndex ∈ tokenIndexes by simp [tokenIndexes]) isHeld
  have byExpiry := sound.requireOptionalIndex
    (show expiryIndex ∈ tokenIndexes by simp [tokenIndexes]) isHeld
  unfold VeraModule.validateTokenEntry
  simp only [VeraValue.decodeToken]
  rw [validateTokenSelector_ok_iff.mpr token.hash,
    validateTokenSelector_ok_iff.mpr token.issuer, accountOk]
  change (if _ then _ else _) = _
  rw [if_neg (not_not.mpr rfl)]
  change requireTokenIndex _ _ _ = _ at byDid
  change VeraModule.requireOptionalIndex _ _ _ = _ at byAccount
  change VeraModule.requireOptionalIndex _ _ _ = _ at byExpiry
  simp only [didIndex, accountIndex, expiryIndex] at byDid byAccount byExpiry
  rw [byDid]
  change (VeraModule.requireOptionalIndex _ _ _ >>= _) = _
  rw [byAccount]
  exact byExpiry

theorem TokensSound.validateIndexEntry (isIndex : index ∈ tokenIndexes)
    (member : entry ∈ module.scan index.start) :
    validateIndexEntry index module entry = .ok () := by
  obtain ⟨key, value⟩ := entry
  obtain ⟨starts, found⟩ := OrderedMap.mem_prefixScan_iff.mp member
  obtain ⟨marked, token, stored, isKey⟩ :=
    (sound.exact index isIndex).justified key value starts found
  change value = index.mark at marked
  change module.store.get (jwsTokenKey token.record.tokenHash) = _ at stored
  have isHeld : module.held token.record.tokenHash = some token.record := by
    unfold held
    rw [stored]
    rfl
  have read : index.readHash (key.drop index.start.length) =
      some token.record.tokenHash :=
    (lawful_of_mem isIndex).reads token key isKey
  have keyed : index.keyOf token.record = some key := isKey
  unfold VeraModule.validateIndexEntry
  rw [if_neg (not_not.mpr marked)]
  simp only [read, sound.getJwsToken_held, isHeld]
  change (if _ then _ else _) = _
  rw [if_neg (not_not.mpr keyed)]

theorem TokensSound.validated : validateRestoredTokens module = .ok () := by
  obtain ⟨config, configured⟩ := sound.config
  have params : getParams module = .ok () := by
    unfold getParams
    rw [sound.params]
  have primary : (module.scan jwsTokenPrefix).forM
      (VeraModule.validateTokenEntry config module) = .ok () :=
    forM_ok_iff.mpr fun _ member => sound.validateTokenEntry configured member
  unfold validateRestoredTokens
  rw [params]
  change (getChainConfig module >>= _) = _
  rw [configured]
  change ((module.scan jwsTokenPrefix).forM (VeraModule.validateTokenEntry config module) >>= _) = _
  rw [primary]
  apply forM_ok_iff.mpr
  intro index isIndex
  apply forM_ok_iff.mpr
  intro entry member
  exact sound.validateIndexEntry isIndex member

end Validation

/-! ## All reachable states -/

theorem TokensSound.eq_of_keyOf (sound : TokensSound module) {index : TokenIndex}
    (member : index ∈ tokenIndexes) {first second : JWSTokenRecord} {key : Bytes}
    (firstHeld : module.held first.tokenHash = some first)
    (secondHeld : module.held second.tokenHash = some second) (firstKey : key ∈ index.keyOf first)
    (secondKey : key ∈ index.keyOf second) : first = second := by
  obtain ⟨firstToken, rfl, _, _⟩ := sound.indexed firstHeld
  obtain ⟨secondToken, rfl, _, _⟩ := sound.indexed secondHeld
  have firstRead := (lawful_of_mem member).reads firstToken key firstKey
  have secondRead := (lawful_of_mem member).reads secondToken key secondKey
  rw [firstRead] at secondRead
  rw [← Option.some.inj secondRead, firstHeld] at secondHeld
  exact Option.some.inj secondHeld

theorem TokensSound.sweptAll_exact (sound : TokensSound module) {now : UInt64}
    {blocks : List BlockExecCtx} (atNow : ∀ block ∈ blocks, block.timestamp.seconds = now)
    (enough : (dueKeys now module).card ≤ blocks.length) {tokenHash : String}
    {record : JWSTokenRecord} (isHeld : module.held tokenHash = some record) :
    if Due now record then
      ∃ invalid, (VeraModule.sweptAll blocks module).held tokenHash =
        some invalid ∧ invalid.status = .invalid
    else
      (VeraModule.sweptAll blocks module).held tokenHash = some record := by
  obtain ⟨finalSound, onlyDue, done⟩ := sound.sweptAll atNow
  rcases onlyDue tokenHash with same | changed
  · rw [isHeld] at same
    have notDue : ¬ Due now record := by
      intro due
      obtain ⟨_, _, sameHash, _⟩ := finalSound.indexed same
      have isKey := mem_tokenExpiryKey_iff.mpr ⟨due.1, due.2.1, rfl⟩
      have member := finalSound.mem_dueKeys_iff.mpr ⟨record, sameHash ▸ same, isKey, due⟩
      rw [done enough] at member
      cases member
    rw [if_neg notDue]
    exact same
  · obtain ⟨other, invalid, otherHeld, due, finalHeld, isInvalid⟩ := changed
    rw [isHeld] at otherHeld
    cases otherHeld
    rw [if_pos due]
    exact ⟨invalid, finalHeld, isInvalid⟩

/-- Every state that token calls reach passes the validator of restored
tokens, its three indexes hold exactly one entry for each record they must
cover, no sweep of it fails, and repeated sweeps at one time invalidate exactly
the tokens whose expiry lies before it. -/
theorem reachable_tokens_restore_and_sweep (crypto : Crypto) (calls : List TokenCall) :
    let module := performTokens crypto VeraModule.new calls
    let stored := fun record : JWSTokenRecord =>
      getJwsToken record.tokenHash module = .ok (some record)
    validateRestoredTokens module = .ok () ∧
      (∀ index ∈ [didIndex, accountIndex, expiryIndex],
        (∀ key value, (key, value) ∈ module.scan index.start ↔
          value = index.mark ∧ ∃ record, stored record ∧ index.keyOf record = some key) ∧
        ∀ first second key, stored first → stored second →
          index.keyOf first = some key → index.keyOf second = some key → first = second) ∧
      (∀ block, ((checkAndUpdateExpiredTokens block).run module).1 = .ok ()) ∧
      ∀ now, ∃ bound, ∀ blocks : List BlockExecCtx,
        (∀ block ∈ blocks, block.timestamp.seconds = now) →
          bound ≤ blocks.length →
            ∀ tokenHash record, getJwsToken tokenHash module = .ok (some record) →
                if record.status ≠ .invalid ∧ record.expiresAt ≠ default ∧
                    record.expiresAt.seconds < now then
                  ∃ invalid,
                    getJwsToken tokenHash (VeraModule.sweptAll blocks module) =
                      .ok (some invalid) ∧ invalid.status = .invalid
                else
                  getJwsToken tokenHash (VeraModule.sweptAll blocks module) =
                    .ok (some record) := by
  intro module stored
  have sound : TokensSound module := performTokens_sound crypto calls
  have stored_iff : ∀ tokenHash record,
      getJwsToken tokenHash module = .ok (some record) ↔ module.held tokenHash = some record := by
    intro tokenHash record
    rw [sound.getJwsToken_held, Except.ok.injEq]
  refine ⟨sound.validated, ?_, ?_, ?_⟩
  · intro index member
    constructor
    · intro key value
      rw [sound.mem_scan_iff member]
      simp only [stored, stored_iff, Option.mem_def]
    · intro first second key firstStored secondStored
      exact sound.eq_of_keyOf member ((stored_iff _ _).mp firstStored)
        ((stored_iff _ _).mp secondStored)
  · intro block
    exact (sound.swept_held block).1
  · intro now
    refine ⟨(dueKeys now module).card, ?_⟩
    intro blocks atNow enough tokenHash record found
    have exact := sound.sweptAll_exact atNow enough ((stored_iff _ _).mp found)
    have finalSound := (sound.sweptAll atNow).1
    simp only [finalSound.getJwsToken_held, Except.ok.injEq]
    exact exact

end VeraModule

end VeraHub.Vera
