import VeraHub.Library.Exec
import VeraHub.Library.OrderedMap
import VeraHub.Vera.Jwt

/-!
# Records of the Vera module

One store holds token records with their indexes, the chain configuration, the
operator authority, relay grants and the records of the threshold services.
Values are kept in decoded form; the records of the threshold services are
opaque here.
-/

namespace VeraHub.Vera

open VeraHub.Acp

/-! ## Tokens and configuration -/

/-- Status of a token in the invalidation registry. -/
inductive JWSTokenStatus where
  | unspecified
  | valid
  | invalid
deriving DecidableEq, Repr

/-- A stored token record tracking lifecycle and usage. -/
structure JWSTokenRecord where
  tokenHash : String
  bearerToken : String
  issuerDid : String
  authorizedAccount : String
  issuedAt : Timestamp
  expiresAt : Timestamp
  status : JWSTokenStatus
  firstUsedAt : Option Timestamp
  lastUsedAt : Option Timestamp
  invalidatedAt : Option Timestamp
  invalidatedBy : String
deriving DecidableEq

/-- Write-once chain configuration. -/
structure ChainConfig where
  allowZeroFeeTxs : Bool
  ignoreBearerAuth : Bool
deriving DecidableEq

def ChainConfig.default : ChainConfig where
  allowZeroFeeTxs := false
  ignoreBearerAuth := false

/-! ## Operators and relays -/

/-- Approval threshold and canonical compressed keys. -/
structure OperatorPolicy where
  threshold : UInt16
  keys : List String
deriving DecidableEq

/-- Current approval policy and the sequence expected for the next change. -/
structure AdministrationState where
  policy : OperatorPolicy
  sequence : UInt64
  membershipPolicy : Option Bytes
deriving DecidableEq

/-- Authority delegated to a relay by the deployment's operators. -/
structure RelayGrant where
  issuer : String
  scopes : List DelegationScope
  expiresAt : UInt64
deriving DecidableEq

/-- Active grant and the administrative sequence that installed it. -/
structure RelayState where
  grant : RelayGrant
  sequence : UInt64
deriving DecidableEq

/-! ## Values -/

inductive VeraValue where
  | token (record : JWSTokenRecord)
  | marker
  | empty
  | chainConfig (config : ChainConfig)
  | administration (state : AdministrationState)
  | relay (state : RelayState)
  | service (bytes : Bytes)
deriving DecidableEq

namespace VeraValue

def decodeToken : VeraValue → Except String JWSTokenRecord
  | .token record => .ok record
  | _ => .error "Unexpected length of input"

def decodeChainConfig : VeraValue → Except String ChainConfig
  | .chainConfig config => .ok config
  | _ => .error "Unexpected length of input"

def decodeAdministration : VeraValue → Except String AdministrationState
  | .administration state => .ok state
  | _ => .error "Unexpected length of input"

def decodeRelay : VeraValue → Except String RelayState
  | .relay state => .ok state
  | _ => .error "Unexpected length of input"

/-- Parameters have no fields, so only the empty value encodes them. -/
def decodeParams : VeraValue → Except String Unit
  | .empty => .ok ()
  | _ => .error "Not all bytes read"

end VeraValue

/-! ## Errors -/

/-- Errors produced by the module. -/
inductive VeraError where
  | invalidAdministrativeRequest (reason : String)
  | tokenNotFound (tokenHash : String)
  | tokenAlreadyInvalidated (tokenHash : String)
  | invalidJws (reason : String)
  | unauthorized (reason : String)
  | chainConfigAlreadySet
  | state (message : String)
deriving DecidableEq, Repr

def VeraError.text : VeraError → String
  | .invalidAdministrativeRequest reason =>
    s!"invalid administrative request: {reason}"
  | .tokenNotFound tokenHash => s!"JWS token not found: {tokenHash}"
  | .tokenAlreadyInvalidated tokenHash =>
    s!"JWS token already invalidated: {tokenHash}"
  | .invalidJws reason => s!"invalid JWS: {reason}"
  | .unauthorized reason => s!"unauthorized: {reason}"
  | .chainConfigAlreadySet => "chain config already set"
  | .state message => s!"state error: {message}"

/-! ## Keys -/

/-- One length byte before the bytes; nothing for no bytes. -/
def lenPrefix (data : Bytes) : Bytes :=
  if data = [] then [] else UInt8.ofNat data.length :: data

def jwsTokenPrefix : Bytes :=
  [1]

def jwsTokenByDidPrefix : Bytes :=
  [2]

def jwsTokenByAccountPrefix : Bytes :=
  [3]

def jwsTokenExpiryPrefix : Bytes :=
  [4]

def paramsKey : Bytes :=
  utf8 "p_hub"

def chainConfigKey : Bytes :=
  utf8 "chain_config"

/-- Key of the operator policy and administrative sequence. -/
def administrationKey : Bytes :=
  utf8 "admin/v1"

def relayPrefix : Bytes :=
  utf8 "relay/v1/"

def jwsTokenKey (tokenHash : String) : Bytes :=
  jwsTokenPrefix ++ utf8 tokenHash

def jwsTokenByDidKey (did tokenHash : String) : Bytes :=
  jwsTokenByDidPrefix ++ lenPrefix (utf8 did) ++ lenPrefix (utf8 tokenHash)

def jwsTokenByAccountKey (account tokenHash : String) : Bytes :=
  jwsTokenByAccountPrefix ++ lenPrefix (utf8 account) ++ lenPrefix (utf8 tokenHash)

def tokenExpiryKey (record : JWSTokenRecord) : Option Bytes :=
  if record.status = .invalid ∨ record.expiresAt = default then
    none
  else
    some (jwsTokenExpiryPrefix ++ beBytes record.expiresAt.seconds ++ utf8 record.tokenHash)

def hashJwsToken (sha256 : Bytes → Bytes) (bearerToken : String) : String :=
  hexText (sha256 (utf8 bearerToken))

end VeraHub.Vera
