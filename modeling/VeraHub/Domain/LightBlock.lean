import VeraHub.Library.Words

/-!
# Light blocks

A light block shows a block together with a finalization certificate for the
block itself or for a descendant of it.  Verification takes everything but the
consensus key from the untrusted response: the displayed fields, the bytes of the
block and of its descendants, the certificate and the material of its epoch.
-/

namespace VeraHub.Domain

abbrev B256 : Type :=
  BitVec 256

/-! ## Blocks and proposals -/

structure Round where
  epoch : UInt64
  view : UInt64
deriving DecidableEq

/-- The context of a proposing round; the parent is a view and a digest. -/
structure ConsensusContext where
  round : Round
  leader : Bytes
  parent : UInt64 × B256
deriving DecidableEq

structure EpochInfo where
  epoch : UInt64
  rest : Bytes
deriving DecidableEq

inductive DkgPayload where
  | dealerLog (log : Bytes)
  | epochInfo (info : EpochInfo)
deriving DecidableEq

/-- A block; targets stand as their encodings. -/
structure Block where
  context : ConsensusContext
  parent : B256
  height : UInt64
  timestamp : UInt64
  prevrandao : B256
  stateRoot : B256
  moduleStateRoot : B256
  txs : List Bytes
  payload : Option DkgPayload
  dbTargets : Bytes
  nativeTargets : Option Bytes
  receiptCommitment : Option B256
deriving DecidableEq

structure Proposal where
  round : Round
  parent : UInt64
  payload : B256
deriving DecidableEq

structure Finalization (Certificate : Type) where
  proposal : Proposal
  certificate : Certificate
deriving DecidableEq

/-- Public material of an epoch: its participants, and the number of shares and
the public key of its sharing polynomial. -/
structure EpochMaterial (Key : Type) where
  participants : List Bytes
  total : Nat
  sharingPublic : Key
deriving DecidableEq

/-- Hashing, the codecs of the artifacts, and the check of a certificate against
a key and a proposal. -/
structure Verifier (Key Certificate : Type) where
  keccak256 : Bytes → B256
  sha256 : Bytes → B256
  hexFailure : Bytes → String
  encodeBlock : Block → Bytes
  decodeBlock : Bytes → Except String Block
  decodeMaterial : Bytes → Except String (EpochMaterial Key)
  decodeFinalization : Bytes → Except String (Finalization Certificate)
  verifyCertificate : Key → Proposal → Certificate → Bool

namespace Verifier

variable {Key Certificate : Type} (verifier : Verifier Key Certificate)

def id (block : Block) : B256 :=
  verifier.keccak256 (verifier.encodeBlock block)

def digest (block : Block) : B256 :=
  verifier.sha256 (wordBytes 32 (verifier.id block))

end Verifier

/-! ## Untrusted responses -/

def maxBlockTxBytes : Nat :=
  16 * 2 ^ 20

def maxBlockBytes : Nat :=
  maxBlockTxBytes + 2 ^ 20

def lightBlockMaxDescendants : Nat :=
  64

def lightBlockMaxArtifactBytes : Nat :=
  2 * maxBlockBytes + 2 ^ 20

structure LightBlock where
  blockHash : String
  parentHash : String
  height : UInt64
  timestamp : UInt64
  stateRoot : String
  moduleStateRoot : String
  epoch : UInt64
  view : UInt64
  parentView : UInt64
  block : String
  descendants : List String
  finalization : String
  epochMaterial : String
deriving DecidableEq, Repr

inductive LightBlockError where
  | limitExceeded
  | ancestryMismatch
  | hex (field message : String)
  | codec (message : String)
  | blockHashMismatch
  | blockFieldMismatch (field : String)
  | proposalMismatch
  | epochMaterial (message : String)
  | untrustedConsensusKey
  | invalidCertificate
deriving DecidableEq, Repr

/-- The digits of a hex text, which may start with `0x`. -/
def hexDigits (value : String) : Bytes :=
  match utf8 value with
  | 48 :: 120 :: digits => digits
  | digits => digits

/-- Take the digits of every artifact off the budget. -/
def spendDigits : Nat → List String → Except LightBlockError Unit
  | _, [] => .ok ()
  | remaining, value :: rest =>
    if remaining < (hexDigits value).length then
      .error .limitExceeded
    else
      spendDigits (remaining - (hexDigits value).length) rest

def LightBlock.checkArtifactLimits (light : LightBlock) :
    Except LightBlockError Unit :=
  if light.descendants.length > lightBlockMaxDescendants then
    .error .limitExceeded
  else
    spendDigits (lightBlockMaxArtifactBytes * 2)
      (light.block :: light.finalization :: light.epochMaterial :: light.descendants)

def encodeHex (bytes : Bytes) : String :=
  "0x" ++ hexText bytes

/-! ## Verification -/

section Verification

variable {Key Certificate : Type} (verifier : Verifier Key Certificate)

def decodeHex (field value : String) : Except LightBlockError Bytes :=
  match hexDecode (hexDigits value) with
  | some bytes => .ok bytes
  | none => .error (.hex field (verifier.hexFailure (hexDigits value)))

def decodeB256 (field value : String) : Except LightBlockError B256 :=
  if (hexDigits value).length ≠ 64 then
    .error (.hex field "expected 32 bytes")
  else do
    let bytes ← decodeHex verifier field value
    if bytes.length ≠ 32 then
      .error (.hex field s!"expected 32 bytes, got {bytes.length}")
    else
      .ok (wordOf 256 bytes)

/-- Failures of a decoder, as failures of the verification. -/
def codec {α : Type} (decoded : Except String α) :
    Except LightBlockError α :=
  decoded.mapError .codec

/-- Whether the block carries the artifact that ends its own epoch. -/
def isEpochEnd (block : Block) : Bool :=
  match block.payload with
  | some (.epochInfo info) =>
    checkedSucc block.context.round.epoch = some info.epoch
  | _ => false

/-- The first displayed field that differs from the block. -/
def mismatch (checks : List (Bool × String)) : Option String :=
  (checks.find? fun check => !check.1).map Prod.snd

def checkFields (light : LightBlock) (block : Block) :
    Except LightBlockError Unit := do
  let parentHash ← decodeB256 verifier "parent_hash" light.parentHash
  let stateRoot ← decodeB256 verifier "state_root" light.stateRoot
  let moduleStateRoot ← decodeB256 verifier "module_state_root" light.moduleStateRoot
  let checks : List (Bool × String) :=
    [(block.parent = parentHash, "parent_hash"), (block.height = light.height, "height"),
      (block.timestamp = light.timestamp, "timestamp"), (block.stateRoot = stateRoot, "state_root"),
      (block.moduleStateRoot = moduleStateRoot, "module_state_root"),
      (block.context.round.epoch = light.epoch, "epoch"),
      (block.context.round.view = light.view, "view"),
      (block.context.parent.1 = light.parentView, "parent_view")]
  match mismatch checks with
  | some field => .error (.blockFieldMismatch field)
  | none => .ok ()

def checkMaterial [DecidableEq Key] (light : LightBlock) (trustedKey : Key) :
    Except LightBlockError Unit := do
  let materialBytes ← decodeHex verifier "epoch_material" light.epochMaterial
  let material ← codec (verifier.decodeMaterial materialBytes)
  if material.participants.isEmpty ∨ material.total ≠ material.participants.length then
    .error (.epochMaterial "participant set and sharing polynomial disagree")
  else if material.sharingPublic ≠ trustedKey then
    .error .untrustedConsensusKey
  else
    .ok ()

/-- What is known of the last block of the chain so far. -/
structure Certified where
  epochEnd : Bool
  context : ConsensusContext
  height : UInt64
  hash : B256
deriving DecidableEq

def followDescendants (certified : Certified) : List String → Except LightBlockError Certified
  | [] => .ok certified
  | encoded :: rest => do
      let bytes ← decodeHex verifier "descendant" encoded
      let descendant ← codec (verifier.decodeBlock bytes)
      if descendant.parent ≠ certified.hash ∨
          checkedSucc certified.height ≠ some descendant.height then
        .error .ancestryMismatch
      else
        followDescendants
          { epochEnd := isEpochEnd descendant
            context := descendant.context
            height := descendant.height
            hash := verifier.keccak256 bytes } rest

def Certified.expected (certified : Certified) : Proposal where
  round := certified.context.round
  parent := certified.context.parent.1
  payload := verifier.sha256 (wordBytes 32 certified.hash)

/-- Whether a proposal puts an epoch-ending block up again in a later view. -/
def isReproposal (epochEnd : Bool) (proposal expected : Proposal) : Bool :=
  epochEnd && decide (proposal.payload = expected.payload) &&
    decide (proposal.round.epoch = expected.round.epoch) &&
    decide (proposal.round.view > expected.round.view) &&
    decide (proposal.parent ≥ expected.round.view) && decide (proposal.parent < proposal.round.view)

def checkFinalization (light : LightBlock) (trustedKey : Key)
    (certified : Certified) : Except LightBlockError Unit := do
  let finalizationBytes ← decodeHex verifier "finalization" light.finalization
  let finalization ← codec (verifier.decodeFinalization finalizationBytes)
  let expected := certified.expected verifier
  if finalization.proposal ≠ expected ∧
      isReproposal certified.epochEnd finalization.proposal expected = false then
    .error .proposalMismatch
  else if verifier.verifyCertificate trustedKey finalization.proposal
      finalization.certificate = false then
    .error .invalidCertificate
  else
    .ok ()

def verifyFinalizedBlock [DecidableEq Key] (light : LightBlock)
    (trustedKey : Key) : Except LightBlockError Block := do
  light.checkArtifactLimits
  let blockHash ← decodeB256 verifier "block_hash" light.blockHash
  let blockBytes ← decodeHex verifier "block" light.block
  if verifier.keccak256 blockBytes ≠ blockHash then
    .error .blockHashMismatch
  else
    let block ← codec (verifier.decodeBlock blockBytes)
    checkFields verifier light block
    checkMaterial verifier light trustedKey
    let certified ← followDescendants verifier
      { epochEnd := isEpochEnd block
        context := block.context
        height := block.height
        hash := blockHash } light.descendants
    checkFinalization verifier light trustedKey certified
    .ok block

def verifyLightBlock [DecidableEq Key] (light : LightBlock)
    (trustedKey : Key) : Except LightBlockError (B256 × B256) := do
  let block ← verifyFinalizedBlock verifier light trustedKey
  .ok (block.stateRoot, block.moduleStateRoot)

def LightBlock.fromParts (block : Block) (finalization epochMaterial : Bytes) : LightBlock where
  blockHash := encodeHex (wordBytes 32 (verifier.id block))
  parentHash := encodeHex (wordBytes 32 block.parent)
  height := block.height
  timestamp := block.timestamp
  stateRoot := encodeHex (wordBytes 32 block.stateRoot)
  moduleStateRoot := encodeHex (wordBytes 32 block.moduleStateRoot)
  epoch := block.context.round.epoch
  view := block.context.round.view
  parentView := block.context.parent.1
  block := encodeHex (verifier.encodeBlock block)
  descendants := []
  finalization := encodeHex finalization
  epochMaterial := encodeHex epochMaterial

end Verification

end VeraHub.Domain
