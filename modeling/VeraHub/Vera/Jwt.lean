import VeraHub.Acp.Types

/-!
# Bearer tokens

A token is three segments between dots: a header, a payload of claims and a
signature over the first two.  The claims name an issuer whose key the
signature is checked against.  Decoders, hashing and the curve arithmetic are
parameters; what the verifier makes of their answers is written out.
-/

namespace VeraHub.Vera

open VeraHub.Zanzibar VeraHub.Acp

/-! ## Claims -/

/-- Operations an actor authorizes a worker to submit. -/
inductive DelegationScope where
  | policyCommands
  | createPolicy
  | editPolicy
  | recordAccessDecision
  | manageRings
  | storeThresholdObject
deriving DecidableEq, Repr

/-- The place of a scope in the order of declaration. -/
def DelegationScope.rank : DelegationScope → Nat
  | .policyCommands => 0
  | .createPolicy => 1
  | .editPolicy => 2
  | .recordAccessDecision => 3
  | .manageRings => 4
  | .storeThresholdObject => 5

/-- Eight-byte big-endian expiry followed by 24 bytes of entropy. -/
structure OperationId where
  bytes : Bytes
  width : bytes.length = 32
deriving DecidableEq

/-- Exact request bound to a signed delegation. -/
structure OperationClaim where
  id : OperationId
  digest : Bytes
  genesisId : Bytes
deriving DecidableEq

/-- Provider identity attested by an explicitly authorized relay. -/
structure RelayAssertion where
  actor : String
  genesisId : Bytes
  grantSequence : UInt64
  operation : Bytes
deriving DecidableEq

/-- Claims extracted from a bearer token. -/
structure JwtClaims where
  iss : String
  sub : String
  exp : UInt64
  aud : String
  scope : DelegationScope
  iat : UInt64
  nbf : UInt64
  relay : Option RelayAssertion
  request : Option OperationClaim
deriving DecidableEq

/-- Errors from token verification. -/
inductive JwtError where
  | invalidClaims (reason : String)
  | malformedToken (reason : String)
  | unsupportedAlgorithm (algorithm : String)
  | invalidSignature
  | invalidIssuer (reason : String)
  | payloadDecode (reason : String)
deriving DecidableEq, Repr

def JwtError.text : JwtError → String
  | .invalidClaims reason => s!"invalid delegation claims: {reason}"
  | .malformedToken reason => s!"malformed token: {reason}"
  | .unsupportedAlgorithm algorithm => s!"unsupported algorithm: {algorithm}"
  | .invalidSignature => "invalid signature"
  | .invalidIssuer reason => s!"invalid issuer: {reason}"
  | .payloadDecode reason => s!"payload decode: {reason}"

def zeroId : Bytes :=
  List.replicate 32 0

namespace OperationId

def maxOperationTtl : Nat :=
  600

def expiresAt (id : OperationId) : UInt64 :=
  UInt64.ofNat (fromBigEndian (id.bytes.take 8))

/-- Reject expired, excessively future-dated or empty operation identities. -/
def validate (id : OperationId) (now : UInt64) : Except JwtError Unit :=
  if id.expiresAt ≤ now ∨
      maxOperationTtl < id.expiresAt.toNat - now.toNat ∨ id.bytes.drop 8 = List.replicate 24 0 then
    .error (.invalidClaims "invalid operation identity or deadline")
  else
    .ok ()

end OperationId

namespace JwtClaims

/-- Actor identity; relay claims still require committed grant
verification. -/
def actor (claims : JwtClaims) : String :=
  match claims.relay with
  | some assertion => assertion.actor
  | none => claims.iss

def audience (deploymentId : UInt64) : String :=
  s!"vera:{deploymentId}"

/-- Check the authenticated caller, deployment and agreed execution time. -/
def authorize (claims : JwtClaims) (submitter : String)
    (deploymentId now : UInt64) : Except JwtError Unit :=
  if claims.sub ≠ submitter ∨ claims.aud ≠ audience deploymentId then
    .error (.invalidClaims "caller or deployment mismatch")
  else if now < claims.nbf ∨ claims.exp < now then
    .error (.invalidClaims "token is outside its validity interval")
  else
    .ok ()

end JwtClaims

/-! ## Signatures -/

def groupOrder : Nat :=
  0xFFFFFFFFFFFFFFFFFFFFFFFFFFFFFFFEBAAEDCE6AF48A03BBFD25E8CD0364141

/-- A signature: two nonzero scalars. -/
structure Signature where
  r : Nat
  s : Nat
  rRange : 0 < r ∧ r < groupOrder
  sRange : 0 < s ∧ s < groupOrder
deriving DecidableEq

namespace Signature

def fromSlice (bytes : Bytes) : Option Signature :=
  let r := fromBigEndian (bytes.take 32)
  let s := fromBigEndian (bytes.drop 32)
  if ranges : bytes.length = 64 ∧ (0 < r ∧ r < groupOrder) ∧ (0 < s ∧ s < groupOrder) then
    some ⟨r, s, ranges.2.1, ranges.2.2⟩
  else
    none

/-- Whether normalization would change the signature. -/
def isHigh (signature : Signature) : Bool :=
  groupOrder / 2 < signature.s

/-- The other signature of the same message: `s` negated modulo the order. -/
def negated (signature : Signature) : Signature where
  r := signature.r
  s := groupOrder - signature.s
  rRange := signature.rRange
  sRange := by
    have range := signature.sRange
    omega

end Signature

/-! ## Verification -/

/-- Header of a token. -/
structure TokenHeader where
  alg : String
  typ : String
deriving DecidableEq

/-- What tokens take from other libraries: hashing, the base64 and JSON
readers, key encodings and the signature check. -/
structure Crypto where
  sha256 : Bytes → Bytes
  base64Decode : String → Except String Bytes
  headerJson : Bytes → Except String TokenHeader
  claimsJson : Bytes → Except String JwtClaims
  multibaseDecode : String → Except String Bytes
  compressKey : Bytes → Except String Bytes
  readKey : Bytes → Except String Unit
  verifyPrehash : Bytes → Bytes → Signature → Bool
  didFromPubkey : Bytes → Except String String

def delegationType : String :=
  "vera-delegation-v1+jwt"

def relayType : String :=
  "vera-relay-v1+jwt"

def segments (token : String) : List String :=
  (token.toList.splitOn '.').map String.ofList

namespace Crypto

variable (crypto : Crypto)

/-- The multicodec of secp256k1 keys, in its variable-length form. -/
def secp256k1Codec : Bytes :=
  [0xe7, 0x01]

def compressedPubkeyFromDid (did : String) : Except JwtError Bytes :=
  if startsWith did didKeyPrefix = false then
    .error (.invalidIssuer "not a did:key: string")
  else
    let multibasePart := String.ofList (did.toList.drop didKeyPrefix.toList.length)
    match crypto.multibaseDecode multibasePart with
    | .error message => .error (.invalidIssuer s!"multibase decode: {message}")
    | .ok decoded =>
      if secp256k1Codec.isPrefixOf decoded = false then
        .error (.invalidIssuer "not a secp256k1 did:key")
      else
        let keyBytes := decoded.drop secp256k1Codec.length
        if keyBytes.length = 33 then
          .ok keyBytes
        else if keyBytes.length = 65 then
          match crypto.compressKey keyBytes with
          | .error message =>
            .error (.invalidIssuer s!"invalid uncompressed key: {message}")
          | .ok compressed => .ok compressed
        else
          .error (.invalidIssuer s!"expected 33 or 65 byte pubkey, got {keyBytes.length}")

def canonicalIssuer (issuer : String) : Except JwtError String := do
  let key ← crypto.compressedPubkeyFromDid issuer
  match crypto.didFromPubkey key with
  | .error message => .error (.invalidIssuer message)
  | .ok did => .ok did

/-- Whether a caller is the issuer, in any encoding of its key. -/
def matchesIssuer (issuer caller : String) : Bool :=
  decide (issuer = caller) ||
    match crypto.compressedPubkeyFromDid issuer, crypto.compressedPubkeyFromDid caller with
    | .ok issuerKey, .ok callerKey => decide (issuerKey = callerKey)
    | _, _ => false

/-- The header of a token, with a supported algorithm and type. -/
def readHeader (headerB64 : String) : Except JwtError TokenHeader :=
  match crypto.base64Decode headerB64 with
  | .error message => .error (.malformedToken s!"header base64: {message}")
  | .ok bytes =>
    match crypto.headerJson bytes with
    | .error message => .error (.malformedToken s!"header JSON: {message}")
    | .ok header =>
      if header.alg ≠ "ES256K" then
        .error (.unsupportedAlgorithm header.alg)
      else if header.typ ≠ delegationType ∧ header.typ ≠ relayType then
        .error (.invalidClaims "unsupported token type")
      else
        .ok header

/-- The claims of a token, whose relay part fits the type. -/
def readClaims (typ payloadB64 : String) : Except JwtError JwtClaims :=
  match crypto.base64Decode payloadB64 with
  | .error message => .error (.payloadDecode s!"payload base64: {message}")
  | .ok bytes =>
    match crypto.claimsJson bytes with
    | .error message => .error (.payloadDecode s!"payload JSON: {message}")
    | .ok raw =>
      if raw.relay.isSome ≠ decide (typ = relayType) then
        .error (.invalidClaims "token type and relay claims differ")
      else
        .ok raw

def issuerKey (iss : String) : Except JwtError Bytes := do
  let compressed ← crypto.compressedPubkeyFromDid iss
  match crypto.readKey compressed with
  | .error message =>
    .error (.invalidIssuer s!"invalid secp256k1 key: {message}")
  | .ok () => .ok compressed

/-- The signature of a token; only the lower of the two forms is accepted. -/
def readSignature (sigB64 : String) : Except JwtError Signature :=
  match crypto.base64Decode sigB64 with
  | .error message => .error (.malformedToken s!"signature base64: {message}")
  | .ok bytes =>
    match Signature.fromSlice bytes with
    | none => .error .invalidSignature
    | some signature =>
      if signature.isHigh then .error .invalidSignature
      else .ok signature

def checkSignature (key : Bytes) (headerB64 payloadB64 : String)
    (signature : Signature) : Except JwtError Unit :=
  let signingInput := headerB64 ++ "." ++ payloadB64
  if crypto.verifyPrehash key (crypto.sha256 (utf8 signingInput)) signature then
    .ok ()
  else
    .error .invalidSignature

/-- The subject is named and the validity interval is not empty. -/
def checkInterval (raw : JwtClaims) : Except JwtError Unit :=
  if raw.sub = "" ∨ raw.iat < raw.nbf ∨ raw.exp ≤ raw.iat then
    .error (.invalidClaims "invalid subject or validity interval")
  else
    .ok ()

def verifyBearerToken (token : String) : Except JwtError JwtClaims :=
  if (utf8 token).length > 16 * 1024 then
    .error (.malformedToken "token exceeds 16 KiB")
  else
    match segments token with
    | [headerB64, payloadB64, sigB64] => do
        let header ← crypto.readHeader headerB64
        let raw ← crypto.readClaims header.typ payloadB64
        let key ← crypto.issuerKey raw.iss
        let signature ← crypto.readSignature sigB64
        crypto.checkSignature key headerB64 payloadB64 signature
        checkInterval raw
        .ok raw
    | _ => .error (.malformedToken "expected three segments")

end Crypto

end VeraHub.Vera
