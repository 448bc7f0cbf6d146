import VeraHub.Vera.TokenIndexes

/-!
# Runs of token calls

What one token call writes is said once; every reachable state then keeps
exact indexes, passes the validator of restored state and can be swept.
-/

namespace VeraHub.Vera.VeraModule

open VeraHub.Zanzibar VeraHub.Acp
open Exec (Wp)

/-! ## Sound states -/

def IgnoresBearer (module : VeraModule) : Prop :=
  ∃ config, getChainConfig module = .ok config ∧ config.ignoreBearerAuth = true

/-- Token records are stored under their hash with well-formed components, and
all three indexes are exact. -/
structure TokensSound (module : VeraModule) : Prop where
  params : module.store.get paramsKey = none
  config : ∃ config, getChainConfig module = .ok config
  placed : ∀ key value, jwsTokenPrefix <+: key →
    module.store.get key = some value →
      ∃ token : IndexedToken, value = .token token.record ∧
        key = jwsTokenKey token.record.tokenHash ∧
          (token.record.authorizedAccount = "" → IgnoresBearer module)
  exact : ∀ index (member : index ∈ tokenIndexes),
    (index.layout (lawful_of_mem member)).Exact module.store.get

def held (module : VeraModule) (tokenHash : String) : Option JWSTokenRecord :=
  match module.store.get (jwsTokenKey tokenHash) with
  | some (.token record) => some record
  | _ => none

variable {next module : VeraModule}

theorem getChainConfig_congr
    (same : next.store.get chainConfigKey = module.store.get chainConfigKey) :
    getChainConfig next = getChainConfig module := by
  unfold getChainConfig
  rw [same]

theorem IgnoresBearer.congr (ignores : IgnoresBearer module)
    (same : next.store.get chainConfigKey = module.store.get chainConfigKey) :
    IgnoresBearer next := by
  unfold IgnoresBearer
  rw [getChainConfig_congr same]
  exact ignores

theorem TokensSound.new : TokensSound VeraModule.new where
  params := rfl
  config := ⟨ChainConfig.default, rfl⟩
  placed := by
    intro key value _ found
    cases found
  exact := by
    intro index member
    apply IndexLayout.Exact.of_empty
    intro key
    rfl

variable {tokenHash : String} {record : JWSTokenRecord}

namespace TokensSound

variable {module : VeraModule} (sound : TokensSound module)

include sound

theorem indexed (found : module.held tokenHash = some record) :
    ∃ token : IndexedToken, token.record = record ∧
      record.tokenHash = tokenHash ∧ (record.authorizedAccount = "" → IgnoresBearer module) := by
  unfold held at found
  cases stored : module.store.get (jwsTokenKey tokenHash) with
  | none =>
    rw [stored] at found
    cases found
  | some value =>
    obtain ⟨token, rfl, sameKey, account⟩ :=
      sound.placed _ value (jwsTokenKey_starts tokenHash) stored
    rw [stored] at found
    cases found
    exact ⟨token, rfl, (jwsTokenKey_inj.mp sameKey).symm, account⟩

theorem get_primary (tokenHash : String) :
    module.store.get (jwsTokenKey tokenHash) = (module.held tokenHash).map .token := by
  unfold held
  cases stored : module.store.get (jwsTokenKey tokenHash) with
  | none => rfl
  | some value =>
    obtain ⟨token, rfl, _, _⟩ := sound.placed _ value (jwsTokenKey_starts tokenHash) stored
    rfl

theorem getJwsToken_held (tokenHash : String) :
    getJwsToken tokenHash module = .ok (module.held tokenHash) := by
  unfold getJwsToken
  rw [sound.get_primary]
  cases found : module.held tokenHash with
  | none => rfl
  | some record =>
    obtain ⟨_, _, sameHash, _⟩ := sound.indexed found
    simp [VeraValue.decodeToken, sameHash]

end TokensSound

/-! ## Writing and deleting -/

/-- What is known of a record that passed the checks before its write. -/
structure Checked (record : JWSTokenRecord) (module : VeraModule)
    (previous : Option JWSTokenRecord) : Prop where
  hash : Selector record.tokenHash
  issuer : Selector record.issuerDid
  account : record.authorizedAccount = "" ∨ Selector record.authorizedAccount
  ignores : record.authorizedAccount = "" → IgnoresBearer module
  read : getJwsToken record.tokenHash module = .ok previous

theorem validateTokenAccount_ok_iff {account : String} :
    validateTokenAccount account = .ok () ↔ account = "" ∨ Selector account := by
  unfold validateTokenAccount
  by_cases empty : account = ""
  · simp [empty]
  · rw [if_neg empty, validateTokenSelector_ok_iff]
    simp [empty]

variable {previous : Option JWSTokenRecord}

theorem checkJwsToken_ok_iff :
    checkJwsToken record module = .ok previous ↔ (∃ config, getChainConfig module = .ok config) ∧
        Checked record module previous := by
  unfold checkJwsToken
  constructor
  · intro accepted
    obtain ⟨_, hash, accepted⟩ := exceptBind_ok accepted
    obtain ⟨_, issuer, accepted⟩ := exceptBind_ok accepted
    obtain ⟨_, account, accepted⟩ := exceptBind_ok accepted
    obtain ⟨config, configured, accepted⟩ := exceptBind_ok accepted
    obtain ⟨missing, accepted⟩ := ifError_ok accepted
    refine ⟨⟨config, configured⟩, validateTokenSelector_ok_iff.mp hash,
      validateTokenSelector_ok_iff.mp issuer,
      validateTokenAccount_ok_iff.mp account, ?_, accepted⟩
    intro empty
    refine ⟨config, configured, ?_⟩
    by_contra enforced
    exact missing ⟨Bool.eq_false_iff.mpr enforced, empty⟩
  · rintro ⟨⟨config, configured⟩, checked⟩
    rw [validateTokenSelector_ok_iff.mpr checked.hash,
      validateTokenSelector_ok_iff.mpr checked.issuer,
      validateTokenAccount_ok_iff.mpr checked.account, configured]
    have allowed : ¬ (config.ignoreBearerAuth = false ∧ record.authorizedAccount = "") := by
      rintro ⟨enforced, empty⟩
      obtain ⟨other, sameConfig, ignores⟩ := checked.ignores empty
      rw [configured] at sameConfig
      cases sameConfig
      rw [enforced] at ignores
      cases ignores
    change (if _ then _ else _) = _
    rw [if_neg allowed]
    exact checked.read

theorem chainConfigKey_unindexed : Unindexed chainConfigKey := by
  decide

theorem paramsKey_unindexed : Unindexed paramsKey := by
  decide

theorem chainConfigKey_ne (tokenHash : String) : chainConfigKey ≠ jwsTokenKey tokenHash :=
  ne_of_starts (show Apart chainConfigKey jwsTokenPrefix by decide)
    List.prefix_rfl (jwsTokenKey_starts tokenHash)

theorem paramsKey_ne (tokenHash : String) : paramsKey ≠ jwsTokenKey tokenHash :=
  ne_of_starts (show Apart paramsKey jwsTokenPrefix by decide)
    List.prefix_rfl (jwsTokenKey_starts tokenHash)

theorem get_withToken_config (previous : Option JWSTokenRecord)
    (record : JWSTokenRecord) (module : VeraModule) :
    (module.withToken previous record).store.get chainConfigKey =
      module.store.get chainConfigKey := by
  rw [get_withToken_unindexed chainConfigKey_unindexed, if_neg (chainConfigKey_ne _)]

theorem get_withoutToken_config (record : JWSTokenRecord) (module : VeraModule) :
    (module.withoutToken record).store.get chainConfigKey =
      module.store.get chainConfigKey := by
  rw [get_withoutToken_unindexed chainConfigKey_unindexed, if_neg (chainConfigKey_ne _)]

theorem get_withToken_primary (previous : Option JWSTokenRecord)
    (record : JWSTokenRecord) (module : VeraModule) (tokenHash : String) :
    (module.withToken previous record).store.get (jwsTokenKey tokenHash) =
      if tokenHash = record.tokenHash then some (.token record)
      else module.store.get (jwsTokenKey tokenHash) := by
  rw [get_withToken_unindexed (jwsTokenKey_unindexed tokenHash)]
  simp only [jwsTokenKey_inj]

theorem get_withoutToken_primary (record : JWSTokenRecord)
    (module : VeraModule) (tokenHash : String) :
    (module.withoutToken record).store.get (jwsTokenKey tokenHash) =
      if tokenHash = record.tokenHash then none
      else module.store.get (jwsTokenKey tokenHash) := by
  rw [get_withoutToken_unindexed (jwsTokenKey_unindexed tokenHash)]
  simp only [jwsTokenKey_inj]

namespace TokensSound

variable {module : VeraModule} (sound : TokensSound module)

include sound

theorem exists_indexed (tokenHash : String) :
    ∃ found : Option IndexedToken,
      found.map IndexedToken.record = module.held tokenHash ∧
        module.store.get (jwsTokenKey tokenHash) = found.map (fun token => .token token.record) ∧
          ∀ token ∈ found, token.record.tokenHash = tokenHash := by
  rw [sound.get_primary tokenHash]
  cases stored : module.held tokenHash with
  | none => exact ⟨none, rfl, rfl, fun _ member => nomatch member⟩
  | some record =>
    obtain ⟨token, rfl, sameHash, _⟩ := sound.indexed stored
    refine ⟨some token, rfl, rfl, ?_⟩
    rintro _ ⟨⟩
    exact sameHash

/-- Writing a checked record for the same holder keeps the state sound. -/
theorem withToken (checked : Checked record module previous)
    (kept : ∀ old ∈ previous, SameHolder old record) :
    TokensSound (module.withToken previous record) where
  params := by
    rw [get_withToken_unindexed paramsKey_unindexed, if_neg (paramsKey_ne _)]
    exact sound.params
  config := by
    rw [getChainConfig_congr (get_withToken_config previous record module)]
    exact sound.config
  placed := by
    intro key value starts found
    have sameConfig := get_withToken_config previous record module
    rw [get_withToken_unindexed (unindexed_of_starts starts (by decide))] at found
    by_cases here : key = jwsTokenKey record.tokenHash
    · rw [if_pos here] at found
      cases found
      exact ⟨⟨record, checked.hash, checked.issuer, checked.account⟩, rfl,
        here, fun empty => (checked.ignores empty).congr sameConfig⟩
    · rw [if_neg here] at found
      obtain ⟨token, isToken, sameKey, account⟩ := sound.placed key value starts found
      exact ⟨token, isToken, sameKey, fun empty => (account empty).congr sameConfig⟩
  exact := by
    intro index member
    obtain ⟨old, isHeld, oldHere, oldHash⟩ := sound.exists_indexed record.tokenHash
    have isPrevious : old.map IndexedToken.record = previous := by
      have read := checked.read
      rw [sound.getJwsToken_held] at read
      rw [isHeld, Except.ok.inj read]
    have moves := withToken_moves module kept member
    rw [← isPrevious] at moves ⊢
    let written : IndexedToken := ⟨record, checked.hash, checked.issuer, checked.account⟩
    refine TokenIndex.Moves.exact old (some written) record.tokenHash moves
      (sound.exact index member) oldHere ?_ oldHash ?_ ?_
    · rw [get_withToken_primary, if_pos rfl]
      rfl
    · rintro _ ⟨⟩
      rfl
    · intro other different
      rw [get_withToken_primary, if_neg different]

theorem withoutToken (found : module.held record.tokenHash = some record) :
    TokensSound (module.withoutToken record) where
  params := by
    rw [get_withoutToken_unindexed paramsKey_unindexed, if_neg (paramsKey_ne _)]
    exact sound.params
  config := by
    rw [getChainConfig_congr (get_withoutToken_config record module)]
    exact sound.config
  placed := by
    intro key value starts stored
    have sameConfig := get_withoutToken_config record module
    rw [get_withoutToken_unindexed (unindexed_of_starts starts (by decide))] at stored
    by_cases here : key = jwsTokenKey record.tokenHash
    · rw [if_pos here] at stored
      cases stored
    · rw [if_neg here] at stored
      obtain ⟨token, isToken, sameKey, account⟩ := sound.placed key value starts stored
      exact ⟨token, isToken, sameKey, fun empty => (account empty).congr sameConfig⟩
  exact := by
    intro index member
    obtain ⟨token, rfl, _, _⟩ := sound.indexed found
    have moves := @withoutToken_moves token.record module _ member
    refine TokenIndex.Moves.exact (some token) none token.record.tokenHash
      moves (sound.exact index member) ?_ ?_ ?_ ?_ ?_
    · rw [sound.get_primary, found]
      rfl
    · rw [get_withoutToken_primary, if_pos rfl]
      rfl
    · rintro _ ⟨⟩
      rfl
    · intro other isNew
      cases isNew
    · intro other different
      rw [get_withoutToken_primary, if_neg different]

/-- Changes outside the token keys and the configuration keep the state
sound. -/
theorem congr (primary : ∀ key, jwsTokenPrefix <+: key → next.store.get key = module.store.get key)
    (indexes : ∀ index ∈ tokenIndexes, ∀ key, index.start <+: key →
      next.store.get key = module.store.get key)
    (params : next.store.get paramsKey = module.store.get paramsKey)
    (config : ∃ config, getChainConfig next = .ok config)
    (ignores : IgnoresBearer module → IgnoresBearer next) : TokensSound next where
  params := by
    rw [params]
    exact sound.params
  config := config
  placed := by
    intro key value starts found
    rw [primary key starts] at found
    obtain ⟨token, isToken, sameKey, account⟩ := sound.placed key value starts found
    exact ⟨token, isToken, sameKey, fun empty => ignores (account empty)⟩
  exact := by
    intro index member
    apply (sound.exact index member).congr
    · intro token
      change next.store.get (jwsTokenKey _) = _ ↔ module.store.get (jwsTokenKey _) = _
      rw [primary _ (jwsTokenKey_starts _)]
    · exact indexes index member

/-- Configuring the chain once keeps the state sound: before it, no record
lacks its account. -/
theorem withConfig (config : ChainConfig) (fresh : module.store.get chainConfigKey = none) :
    TokensSound (module.withStored chainConfigKey (.chainConfig config)) := by
  have different : ∀ {start key : Bytes}, start <+: key →
      Apart chainConfigKey start → key ≠ chainConfigKey := by
    intro start key starts apart
    exact (ne_of_starts apart List.prefix_rfl starts).symm
  apply sound.congr
  · intro key starts
    rw [get_withStored, if_neg (different starts (by decide))]
  · intro index member key starts
    have apart : ∀ index ∈ tokenIndexes, Apart chainConfigKey index.start := by
      decide
    rw [get_withStored, if_neg (different starts (apart index member))]
  · rw [get_withStored, if_neg (by decide)]
  · refine ⟨config, ?_⟩
    unfold getChainConfig
    rw [get_withStored, if_pos rfl]
    rfl
  · rintro ⟨other, configured, ignores⟩
    unfold getChainConfig at configured
    rw [fresh] at configured
    cases configured
    cases ignores

end TokensSound

/-! ## What a call writes -/

/-- One checked write: a first record of an admissible origin, or a record that
may follow the one it replaces. -/
inductive TokenWrite (origin : JWSTokenRecord → Prop)
    (follows : JWSTokenRecord → JWSTokenRecord → Prop) (module : VeraModule) :
    VeraModule → Prop where
  | written (record : JWSTokenRecord) (previous : Option JWSTokenRecord)
      (checked : Checked record module previous) (first : previous = none → origin record)
      (kept : ∀ old ∈ previous, SameHolder old record ∧ follows old record) :
      TokenWrite origin follows module (module.withToken previous record)

def TokenWrites (origin : JWSTokenRecord → Prop)
    (follows : JWSTokenRecord → JWSTokenRecord → Prop) : VeraModule → VeraModule → Prop :=
  Relation.ReflTransGen (TokenWrite origin follows)

theorem TokensSound.writes {origin : JWSTokenRecord → Prop}
    {follows : JWSTokenRecord → JWSTokenRecord → Prop} {final : VeraModule}
    (sound : TokensSound module) (writes : TokenWrites origin follows module final) :
    TokensSound final := by
  induction writes with
  | refl => exact sound
  | tail _ write ih =>
    obtain ⟨record, previous, checked, _, kept⟩ := write
    apply ih.withToken checked
    intro old isPrevious
    exact (kept old isPrevious).1

theorem held_withToken (previous : Option JWSTokenRecord)
    (record : JWSTokenRecord) (module : VeraModule) (tokenHash : String) :
    (module.withToken previous record).held tokenHash =
      if tokenHash = record.tokenHash then some record
      else module.held tokenHash := by
  unfold held
  rw [get_withToken_primary]
  by_cases here : tokenHash = record.tokenHash
  · simp only [if_pos here]
  · simp only [if_neg here]

/-- A state between a call's start and its end, whatever the result. -/
def LeavesWrites (origin : JWSTokenRecord → Prop)
    (follows : JWSTokenRecord → JWSTokenRecord → Prop) {α : Type}
    (call : VeraM α) (module : VeraModule) : Prop :=
  call.Wp (fun _ final => TokenWrites origin follows module final) module

variable {block : BlockExecCtx}

section Writes

variable {origin : JWSTokenRecord → Prop}
  {follows : JWSTokenRecord → JWSTokenRecord → Prop} {module : VeraModule}

theorem setJwsToken_wp {post : Except VeraError Unit → VeraModule → Prop}
    (failed : ∀ error, post (.error error) module)
    (written : ∀ previous, Checked record module previous →
      post (.ok ()) (module.withToken previous record)) :
    (setJwsToken record).Wp post module := by
  unfold setJwsToken
  apply Wp.query
  · intro error _
    exact failed error
  · intro previous accepted
    exact written previous (checkJwsToken_ok_iff.mp accepted).2

theorem LeavesWrites.then_pure {α β : Type} {call : VeraM α} {value : β}
    (writes : LeavesWrites origin follows call module) :
    LeavesWrites origin follows (call >>= fun _ => pure value) module := by
  apply Wp.bind
  apply Wp.weaken writes
  intro result final reached
  cases result with
  | ok _ => exact reached
  | error _ => exact reached

theorem requireToken_ok (found : requireToken tokenHash module = .ok record) :
    getJwsToken tokenHash module = .ok (some record) := by
  unfold requireToken at found
  obtain ⟨stored, read, found⟩ := exceptBind_ok found
  cases stored with
  | none => cases found
  | some other =>
    cases found
    exact read

theorem getJwsToken_hash
    (found : getJwsToken tokenHash module = .ok (some record)) : record.tokenHash = tokenHash := by
  unfold getJwsToken at found
  cases stored : module.store.get (jwsTokenKey tokenHash) with
  | none =>
    rw [stored] at found
    cases found
  | some value =>
    simp only [stored] at found
    cases decoded : value.decodeToken with
    | error message =>
      simp only [decoded] at found
      cases found
    | ok other =>
      simp only [decoded] at found
      obtain ⟨different, found⟩ := ifError_ok found
      cases found
      exact not_not.mp different

theorem setJwsToken_replaces {old new : JWSTokenRecord}
    (found : getJwsToken tokenHash module = .ok (some old))
    (holder : SameHolder old new) (allowed : follows old new) :
    LeavesWrites origin follows (setJwsToken new) module := by
  apply setJwsToken_wp
  · intro error
    exact .refl
  · intro previous checked
    have sameHash := getJwsToken_hash found
    have isOld : previous = some old := by
      have read := checked.read
      rw [holder.tokenHash, sameHash, found] at read
      exact (Except.ok.inj read).symm
    subst isOld
    apply Relation.ReflTransGen.single
    apply TokenWrite.written new (some old) checked
    · intro absent
      cases absent
    · rintro _ ⟨⟩
      exact ⟨holder, allowed⟩

theorem setJwsToken_first
    (absent : getJwsToken record.tokenHash module = .ok none) (allowed : origin record) :
    LeavesWrites origin follows (setJwsToken record) module := by
  apply setJwsToken_wp
  · intro error
    exact .refl
  · intro previous checked
    have isNone : previous = none := by
      have read := checked.read
      rw [absent] at read
      exact (Except.ok.inj read).symm
    subst isNone
    apply Relation.ReflTransGen.single
    apply TokenWrite.written record none checked
    · intro _
      exact allowed
    · intro old isPrevious
      cases isPrevious

theorem recordJwsTokenUsage_writes
    (allowed : ∀ old new, old.status = .valid → SameHolder old new → follows old new) :
    LeavesWrites origin follows (recordJwsTokenUsage block tokenHash)
      module := by
  unfold LeavesWrites recordJwsTokenUsage
  apply Wp.query
  · intro error _
    exact .refl
  · intro record found
    apply Wp.failIf
    · intro _
      exact .refl
    · intro usable
      push Not at usable
      have holder : ∀ first last,
          SameHolder record { record with firstUsedAt := first, lastUsedAt := last } :=
        fun _ _ => ⟨rfl, rfl, rfl, rfl, rfl⟩
      exact setJwsToken_replaces (requireToken_ok found) (holder _ _)
        (allowed _ _ usable.1 (holder _ _))

theorem storeOrUpdateJwsToken_writes {sha256 : Bytes → Bytes} {bearerToken : String} {issuerDid : Did}
    {authorizedAccount : String} {issuedAt expiresAt : Timestamp}
    (used : ∀ old new, old.status = .valid → SameHolder old new → follows old new)
    (first : ∀ record, record.bearerToken = bearerToken →
      record.tokenHash = hashJwsToken sha256 bearerToken → record.status = .valid → origin record) :
    LeavesWrites origin follows (storeOrUpdateJwsToken sha256 block bearerToken issuerDid
        authorizedAccount issuedAt expiresAt) module := by
  unfold LeavesWrites storeOrUpdateJwsToken
  apply Wp.query
  · intro error _
    exact .refl
  · intro stored found
    cases stored with
    | some record => exact recordJwsTokenUsage_writes used
    | none =>
      apply Wp.failIf
      · intro _
        exact .refl
      · intro _
        exact setJwsToken_first found (first _ rfl rfl rfl)

theorem withStatus_sameHolder (block : BlockExecCtx) (status : JWSTokenStatus)
    (invalidatedBy : String) (record : JWSTokenRecord) :
    SameHolder record (withStatus block status invalidatedBy record) := by
  unfold withStatus
  by_cases invalid : status = .invalid
  · rw [if_pos invalid]
    exact ⟨rfl, rfl, rfl, rfl, rfl⟩
  · rw [if_neg invalid]
    exact ⟨rfl, rfl, rfl, rfl, rfl⟩

theorem updateJwsTokenStatus_writes {status : JWSTokenStatus} {invalidatedBy : String}
    (allowed : ∀ old, getJwsToken tokenHash module = .ok (some old) →
      follows old (withStatus block status invalidatedBy old)) :
    LeavesWrites origin follows
      (updateJwsTokenStatus block tokenHash status invalidatedBy) module := by
  unfold LeavesWrites updateJwsTokenStatus
  apply Wp.query
  · intro error _
    exact .refl
  · intro record found
    have read := requireToken_ok found
    have holder := withStatus_sameHolder block status invalidatedBy record
    apply LeavesWrites.then_pure
    exact setJwsToken_replaces read holder (allowed record read)

theorem invalidateJws_writes {crypto : Crypto} {tx : TxExecCtx} {creator : Did}
    (allowed : ∀ old new, old.status ≠ .invalid → SameHolder old new → follows old new) :
    LeavesWrites origin follows (invalidateJws crypto block tx creator tokenHash) module := by
  unfold LeavesWrites invalidateJws
  apply Wp.query
  · intro error _
    exact .refl
  · intro record found
    apply Wp.failIf
    · intro _
      exact .refl
    · intro active
      apply Wp.failIf
      · intro _
        exact .refl
      · intro _
        apply updateJwsTokenStatus_writes
        intro old read
        rw [requireToken_ok found] at read
        cases read
        exact allowed _ _ active (withStatus_sameHolder _ _ _ _)

theorem revokeDelegation_writes {crypto : Crypto} {context : BlockExecCtx}
    {caller : Did} {token : String}
    (replaced : ∀ old new, old.status ≠ .invalid → SameHolder old new → follows old new)
    (first : ∀ record claims, verifiedClaims crypto token = .ok claims →
      record.bearerToken = token →
        record.tokenHash = hashJwsToken crypto.sha256 token → origin record) :
    LeavesWrites origin follows (revokeDelegation crypto context caller token) module := by
  unfold LeavesWrites revokeDelegation
  apply Wp.ofExcept
  · intro error _
    exact .refl
  · intro claims verified
    apply Wp.failIf
    · intro _
      exact .refl
    · intro _
      apply Wp.query
      · intro error _
        exact .refl
      · intro stored read
        apply Wp.failIf
        · intro _
          exact .refl
        · intro active
          apply LeavesWrites.then_pure
          cases stored with
          | none =>
            exact setJwsToken_first read (first _ claims verified rfl rfl)
          | some old =>
            have holder : SameHolder old { old with
                  status := .invalid
                  invalidatedAt := some context.timestamp
                  invalidatedBy := caller.asStr } :=
              ⟨rfl, rfl, rfl, rfl, rfl⟩
            exact setJwsToken_replaces read holder (replaced _ _ active holder)

end Writes

end VeraHub.Vera.VeraModule
