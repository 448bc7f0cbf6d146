import VeraHub.Vera.Tokens

/-!
# Validation of restored tokens

Before recovered state is published, every token record is checked against its
index entries and every index entry against its record.
-/

namespace VeraHub.Vera.VeraModule

open VeraHub.Acp

/-- The bytes after a number of bytes, if there are that many. -/
def bytesFrom (start : Nat) (bytes : Bytes) : Option Bytes :=
  if start ≤ bytes.length then some (bytes.drop start) else none

/-- Parse the length-prefixed hash that ends an index key. -/
def extractHashFromIndexSuffix : Bytes → Option String
  | [] => none
  | length :: hash =>
    if length = 0 ∨ hash.length ≠ length.toNat then none else fromUtf8 hash

/-- The hash in an issuer or account entry, behind its first component. -/
def indexedHash : Bytes → Option String
  | [] => none
  | length :: rest =>
    (bytesFrom (1 + length.toNat) (length :: rest)).bind extractHashFromIndexSuffix

/-- The hash in an expiry entry, behind its deadline. -/
def deadlineHash (suffix : Bytes) : Option String :=
  (bytesFrom 8 suffix).bind fromUtf8

def requireTokenIndex (key : Bytes) (marker : VeraValue)
    (module : VeraModule) : Except VeraError Unit :=
  if module.store.get key ≠ some marker then
    .error (.state "restored token index missing or invalid")
  else
    .ok ()

/-- The account entry of a record, if it names an account. -/
def tokenAccountKey (record : JWSTokenRecord) : Option Bytes :=
  if record.authorizedAccount = "" then none
  else some (jwsTokenByAccountKey record.authorizedAccount record.tokenHash)

/-- A record names an account unless bearer authorization is ignored. -/
def validateRestoredAccount (config : ChainConfig) (account : String) :
    Except VeraError Unit :=
  if account ≠ "" then
    validateTokenSelector account
  else if config.ignoreBearerAuth = false then
    .error (.state "restored token has no authorized account")
  else
    .ok ()

/-- An index entry that a record may have is present. -/
def requireOptionalIndex (key : Option Bytes) (marker : VeraValue)
    (module : VeraModule) : Except VeraError Unit :=
  match key with
  | some key => requireTokenIndex key marker module
  | none => .ok ()

/-- Check a primary entry and that its index entries are there. -/
def validateTokenEntry (config : ChainConfig) (module : VeraModule)
    (entry : Bytes × VeraValue) : Except VeraError Unit := do
  match entry.2.decodeToken with
  | .error message => .error (.state s!"invalid restored token: {message}")
  | .ok record =>
    validateTokenSelector record.tokenHash
    validateTokenSelector record.issuerDid
    validateRestoredAccount config record.authorizedAccount
    if jwsTokenKey record.tokenHash ≠ entry.1 then
      .error (.state "restored token key mismatch")
    else do
      requireTokenIndex (jwsTokenByDidKey record.issuerDid record.tokenHash) .marker module
      requireOptionalIndex (tokenAccountKey record) .marker module
      requireOptionalIndex (tokenExpiryKey record) .empty module

/-- One index: its prefix, its value, how its keys name a token, and the key a
record has in it. -/
structure TokenIndex where
  start : Bytes
  mark : VeraValue
  invalidMark : String
  readHash : Bytes → Option String
  keyOf : JWSTokenRecord → Option Bytes

def didIndex : TokenIndex where
  start := jwsTokenByDidPrefix
  mark := .marker
  invalidMark := "invalid restored token index marker"
  readHash := indexedHash
  keyOf record := some (jwsTokenByDidKey record.issuerDid record.tokenHash)

def accountIndex : TokenIndex where
  start := jwsTokenByAccountPrefix
  mark := .marker
  invalidMark := "invalid restored token index marker"
  readHash := indexedHash
  keyOf := tokenAccountKey

def expiryIndex : TokenIndex where
  start := jwsTokenExpiryPrefix
  mark := .empty
  invalidMark := "invalid restored expiry marker"
  readHash := deadlineHash
  keyOf := tokenExpiryKey

/-- Check that an index entry is the one of the record it names. -/
def validateIndexEntry (index : TokenIndex) (module : VeraModule)
    (entry : Bytes × VeraValue) : Except VeraError Unit :=
  if entry.2 ≠ index.mark then
    .error (.state index.invalidMark)
  else
    match index.readHash (entry.1.drop index.start.length) with
    | none => .error (.state "invalid restored token index key")
    | some tokenHash => do
        match ← getJwsToken tokenHash module with
        | none => .error (.state "restored token index has no record")
        | some record =>
          if index.keyOf record ≠ some entry.1 then
            .error (.state "restored token index differs from record")
          else
            .ok ()

/-- Validate token records and both directions of their indexes. -/
def validateRestoredTokens (module : VeraModule) : Except VeraError Unit := do
  getParams module
  let config ← getChainConfig module
  (module.scan jwsTokenPrefix).forM (validateTokenEntry config module)
  [didIndex, accountIndex, expiryIndex].forM fun index =>
    (module.scan index.start).forM (validateIndexEntry index module)

end VeraHub.Vera.VeraModule
