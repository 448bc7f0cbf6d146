import VeraHub.Vera.Types

/-!
# Token lifecycle

Storing, using, revoking and sweeping tokens.  A token record is written
together with its issuer, account and expiry index entries, and every check
comes before the first write.
-/

namespace VeraHub.Vera

open VeraHub.Zanzibar VeraHub.Acp

/-- Vera module. -/
structure VeraModule where
  store : OrderedMap Bytes VeraValue

/-- A method that may change the module. -/
abbrev VeraM (α : Type) : Type :=
  Exec VeraModule VeraError α

namespace VeraModule

def new : VeraModule :=
  ⟨OrderedMap.empty⟩

def scan (module : VeraModule) (start : Bytes) : List (Bytes × VeraValue) :=
  module.store.prefixScan start

def withStored (module : VeraModule) (key : Bytes) (value : VeraValue) :
    VeraModule :=
  ⟨module.store.insert key value⟩

def withoutStored (module : VeraModule) (key : Bytes) : VeraModule :=
  ⟨module.store.erase key⟩

/-! ## Reads -/

def getParams (module : VeraModule) : Except VeraError Unit :=
  match module.store.get paramsKey with
  | none => .ok ()
  | some value =>
    match value.decodeParams with
    | .error message => .error (.state s!"invalid vera parameters: {message}")
    | .ok () => .ok ()

def getChainConfig (module : VeraModule) : Except VeraError ChainConfig :=
  match module.store.get chainConfigKey with
  | none => .ok ChainConfig.default
  | some value =>
    match value.decodeChainConfig with
    | .error message => .error (.state message)
    | .ok config => .ok config

def getJwsToken (tokenHash : String) (module : VeraModule) :
    Except VeraError (Option JWSTokenRecord) :=
  match module.store.get (jwsTokenKey tokenHash) with
  | none => .ok none
  | some value =>
    match value.decodeToken with
    | .error message => .error (.state message)
    | .ok record =>
      if record.tokenHash ≠ tokenHash then
        .error (.state "token record key mismatch")
      else
        .ok (some record)

def requireToken (tokenHash : String) (module : VeraModule) :
    Except VeraError JWSTokenRecord := do
  match ← getJwsToken tokenHash module with
  | none => .error (.tokenNotFound tokenHash)
  | some record => .ok record

/-! ## Writing a record with its indexes -/

/-- Index components have a length byte, so they hold 1 to 255 bytes. -/
def validateTokenSelector (value : String) : Except VeraError Unit :=
  if value = "" ∨ 255 < (utf8 value).length then
    .error (.invalidJws "token index components must contain 1–255 bytes")
  else
    .ok ()

/-- An account may be left out where bearer authorization is ignored. -/
def validateTokenAccount (account : String) : Except VeraError Unit :=
  if account = "" then .ok () else validateTokenSelector account

/-- The checks before a record is written, and the record it replaces. -/
def checkJwsToken (record : JWSTokenRecord) (module : VeraModule) :
    Except VeraError (Option JWSTokenRecord) := do
  validateTokenSelector record.tokenHash
  validateTokenSelector record.issuerDid
  validateTokenAccount record.authorizedAccount
  let config ← getChainConfig module
  if config.ignoreBearerAuth = false ∧ record.authorizedAccount = "" then
    .error (.invalidJws "authorized_account required when bearer auth is enforced")
  else
    getJwsToken record.tokenHash module

/-- Delete the expiry entry of a record, if it has one. -/
def withoutExpiry (previous : Option JWSTokenRecord) (module : VeraModule) :
    VeraModule :=
  match previous.bind tokenExpiryKey with
  | some key => module.withoutStored key
  | none => module

def withExpiry (record : JWSTokenRecord) (module : VeraModule) : VeraModule :=
  match tokenExpiryKey record with
  | some key => module.withStored key .empty
  | none => module

/-- Add the account entry of a record, if it names an account. -/
def withAccount (record : JWSTokenRecord) (module : VeraModule) : VeraModule :=
  if record.authorizedAccount = "" then
    module
  else
    module.withStored (jwsTokenByAccountKey record.authorizedAccount record.tokenHash) .marker

def withToken (previous : Option JWSTokenRecord) (record : JWSTokenRecord)
    (module : VeraModule) : VeraModule :=
  (((module.withoutExpiry previous |>.withExpiry record).withStored
    (jwsTokenKey record.tokenHash) (.token record)).withStored
      (jwsTokenByDidKey record.issuerDid record.tokenHash) .marker).withAccount record

def setJwsToken (record : JWSTokenRecord) : VeraM Unit := do
  let previous ← Exec.query (checkJwsToken record)
  Exec.modify (withToken previous record)

/-! ## Usage -/

def recordJwsTokenUsage (block : BlockExecCtx) (tokenHash : String) :
    VeraM Unit := do
  let record ← Exec.query (requireToken tokenHash)
  Exec.failIf
    (record.status ≠ .valid ∨
      record.expiresAt.seconds ≠ 0 ∧ record.expiresAt.seconds < block.timestamp.seconds)
    (.invalidJws "token is invalid or expired")
  setJwsToken { record with
      firstUsedAt :=
        match record.firstUsedAt with
        | none => some block.timestamp
        | some first => some first
      lastUsedAt := some block.timestamp }

/-- Store a token at its first use, or record another use. -/
def storeOrUpdateJwsToken (sha256 : Bytes → Bytes) (block : BlockExecCtx)
    (bearerToken : String) (issuerDid : Did) (authorizedAccount : String)
    (issuedAt expiresAt : Timestamp) : VeraM Unit := do
  let tokenHash := hashJwsToken sha256 bearerToken
  match ← Exec.query (getJwsToken tokenHash) with
  | some _ => recordJwsTokenUsage block tokenHash
  | none =>
    Exec.failIf (expiresAt ≠ default ∧ expiresAt.seconds < block.timestamp.seconds)
      (.invalidJws "token already expired at block time")
    setJwsToken
      { tokenHash := tokenHash
        bearerToken := bearerToken
        issuerDid := issuerDid.asStr
        authorizedAccount := authorizedAccount
        issuedAt := issuedAt
        expiresAt := expiresAt
        status := .valid
        firstUsedAt := some block.timestamp
        lastUsedAt := some block.timestamp
        invalidatedAt := none
        invalidatedBy := "" }

/-! ## Invalidation -/

/-- A record with another status; invalidation is dated and signed. -/
def withStatus (block : BlockExecCtx) (status : JWSTokenStatus)
    (invalidatedBy : String) (record : JWSTokenRecord) : JWSTokenRecord :=
  if status = .invalid then
    { record with
      status := .invalid
      invalidatedAt := some block.timestamp
      invalidatedBy :=
        if invalidatedBy = "" then record.invalidatedBy else invalidatedBy }
  else
    { record with status := status }

def updateJwsTokenStatus (block : BlockExecCtx) (tokenHash : String)
    (status : JWSTokenStatus) (invalidatedBy : String) :
    VeraM JWSTokenRecord := do
  let record ← Exec.query (requireToken tokenHash)
  setJwsToken (withStatus block status invalidatedBy record)
  pure (withStatus block status invalidatedBy record)

/-- Invalidate a token for its issuer or its authorized account. -/
def invalidateJws (crypto : Crypto) (block : BlockExecCtx) (tx : TxExecCtx)
    (creator : Did) (tokenHash : String) : VeraM JWSTokenRecord := do
  let record ← Exec.query (requireToken tokenHash)
  Exec.failIf (record.status = .invalid) (.tokenAlreadyInvalidated tokenHash)
  let isIssuer := crypto.matchesIssuer record.issuerDid creator.asStr
  let isAuthorizedAccount :=
    decide (record.authorizedAccount ≠ "" ∧ tx.signer = record.authorizedAccount)
  Exec.failIf (isIssuer = false ∧ isAuthorizedAccount = false)
    (.unauthorized "caller is neither issuer DID nor authorized account")
  updateJwsTokenStatus block tokenHash .invalid tx.signer

/-- A request bound to another deployment, or an execution without one. -/
def foreignGenesis (context : BlockExecCtx) (genesisId : Bytes) : Bool :=
  decide (context.genesisId = zeroId ∨ genesisId ≠ context.genesisId)

/-- Whether a caller may revoke a delegation in this deployment. -/
def mayRevoke (crypto : Crypto) (context : BlockExecCtx) (caller : String)
    (claims : JwtClaims) : Bool :=
  decide (claims.aud = JwtClaims.audience context.deploymentId) &&
    !(claims.relay.any fun relay => foreignGenesis context relay.genesisId) &&
      !(claims.request.any fun request =>
        foreignGenesis context request.genesisId) &&
        (crypto.matchesIssuer claims.iss caller || decide (caller = claims.sub))

/-- The record of a delegation that has never been used. -/
def unusedToken (tokenHash bearerToken : String) (claims : JwtClaims) : JWSTokenRecord where
  tokenHash := tokenHash
  bearerToken := bearerToken
  issuerDid := claims.iss
  authorizedAccount := claims.sub
  issuedAt := ⟨claims.iat, 0⟩
  expiresAt := ⟨claims.exp, 0⟩
  status := .valid
  firstUsedAt := none
  lastUsedAt := none
  invalidatedAt := none
  invalidatedBy := ""

/-- Errors of token verification, as errors of the module. -/
def verifiedClaims (crypto : Crypto) (token : String) :
    Except VeraError JwtClaims :=
  match crypto.verifyBearerToken token with
  | .error error => .error (.invalidJws error.text)
  | .ok claims => .ok claims

/-- Revoke a signed delegation, including one that has never been used. -/
def revokeDelegation (crypto : Crypto) (context : BlockExecCtx) (caller : Did)
    (token : String) : VeraM JWSTokenRecord := do
  let claims ← Exec.ofExcept (verifiedClaims crypto token)
  Exec.failIf (mayRevoke crypto context caller.asStr claims = false)
    (.unauthorized "delegation revocation is not authorized")
  let tokenHash := hashJwsToken crypto.sha256 token
  let stored ← Exec.query (getJwsToken tokenHash)
  let record := stored.getD (unusedToken tokenHash token claims)
  Exec.failIf (record.status = .invalid) (.tokenAlreadyInvalidated record.tokenHash)
  let revoked := { record with
      status := .invalid
      invalidatedAt := some context.timestamp
      invalidatedBy := caller.asStr }
  setJwsToken revoked
  pure revoked

/-! ## Expiry -/

def expiryBatchSize : Nat :=
  128

/-- The token of an expiry entry, or nothing when its deadline does not lie
before the current time. -/
def expiredToken (now : UInt64) (module : VeraModule) (index : Bytes)
    (value : VeraValue) : Except VeraError (Option String) :=
  if index.length ≤ jwsTokenExpiryPrefix.length + 8 ∨ value ≠ .empty then
    .error (.state "invalid token expiry index")
  else if beBytes now ≤ (index.drop jwsTokenExpiryPrefix.length).take 8 then
    .ok none
  else
    match fromUtf8 (index.drop (jwsTokenExpiryPrefix.length + 8)) with
    | none => .error (.state "invalid expiry token hash")
    | some tokenHash =>
      match getJwsToken tokenHash module with
      | .error error => .error error
      | .ok none => .error (.state "expiry token missing")
      | .ok (some record) =>
        if tokenExpiryKey record ≠ some index then
          .error (.state "token expiry index mismatch")
        else
          .ok (some tokenHash)

/-- The tokens past their deadline; the index is in deadline order, so a later
deadline ends the scan. -/
def collectExpiredTokens (now : UInt64) (module : VeraModule) :
    List (Bytes × VeraValue) → Except VeraError (List String)
  | [] => .ok []
  | (index, value) :: rest =>
    match expiredToken now module index value with
    | .error error => .error error
    | .ok none => .ok []
    | .ok (some tokenHash) =>
      match collectExpiredTokens now module rest with
      | .error error => .error error
      | .ok others => .ok (tokenHash :: others)

def invalidateTokens (block : BlockExecCtx) : List String → VeraM Unit
  | [] => pure ()
  | tokenHash :: rest => do
      let _ ← updateJwsTokenStatus block tokenHash .invalid ""
      invalidateTokens block rest

/-- Invalidate due tokens using their ordered deadline index. -/
def checkAndUpdateExpiredTokens (block : BlockExecCtx) : VeraM Unit := do
  let expired ← Exec.query fun module =>
    collectExpiredTokens block.timestamp.seconds module
      ((module.scan jwsTokenExpiryPrefix).take expiryBatchSize)
  invalidateTokens block expired

/-! ## Configuration and deletion -/

def setChainConfig (config : ChainConfig) : VeraM Unit := do
  let existing ← Exec.gets fun module => module.store.get chainConfigKey
  Exec.failIf (existing.isSome) .chainConfigAlreadySet
  Exec.modify fun module => module.withStored chainConfigKey (.chainConfig config)

/-- Delete the account entry of a record, if it names an account. -/
def withoutAccount (record : JWSTokenRecord) (module : VeraModule) :
    VeraModule :=
  if record.authorizedAccount = "" then
    module
  else
    module.withoutStored (jwsTokenByAccountKey record.authorizedAccount record.tokenHash)

def withoutToken (record : JWSTokenRecord) (module : VeraModule) : VeraModule :=
  (((module.withoutExpiry (some record)).withoutStored
    (jwsTokenKey record.tokenHash)).withoutStored
      (jwsTokenByDidKey record.issuerDid record.tokenHash)).withoutAccount record

def deleteJwsToken (tokenHash : String) : VeraM Unit := do
  let record ← Exec.query (requireToken tokenHash)
  Exec.modify (withoutToken record)

end VeraModule

end VeraHub.Vera
