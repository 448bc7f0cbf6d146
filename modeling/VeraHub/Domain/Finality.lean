import VeraHub.Domain.LightBlock
import VeraHub.Library.Exec

/-!
# Finality of light blocks

An accepted light block shows the block it returns, and the trusted key has
certified that block or a descendant linked to it by a short chain.  The loop over
the descendants keeps the last block of the chain.
-/

namespace VeraHub.Domain

section Finality

variable {Key Certificate : Type} (verifier : Verifier Key Certificate)

/-- Each block names the one before it as parent and has the next height. -/
def Linked (block : Block) : List Block → Prop
  | [] => True
  | next :: rest =>
    next.parent = verifier.id block ∧ next.height.toNat = block.height.toNat + 1 ∧ Linked next rest

def tip (block : Block) : List Block → Block
  | [] => block
  | next :: rest => tip next rest

/-- The block carries the artifact of the epoch after its own. -/
def EndsEpoch (block : Block) : Prop :=
  ∃ info, block.payload = some (.epochInfo info) ∧
    info.epoch.toNat = block.context.round.epoch.toNat + 1

/-- The proposal puts the block up in its own round, or puts an epoch-ending
block up again in a later view of the same epoch. -/
def Proposes (proposal : Proposal) (block : Block) : Prop :=
  proposal.payload = verifier.digest block ∧
    ((proposal.round = block.context.round ∧ proposal.parent = block.context.parent.1) ∨
      EndsEpoch block ∧ proposal.round.epoch = block.context.round.epoch ∧
        block.context.round.view < proposal.round.view ∧
        block.context.round.view ≤ proposal.parent ∧ proposal.parent < proposal.round.view)

/-- The displayed hash and header fields are those of the block. -/
structure Displays (light : LightBlock) (block : Block) : Prop where
  bytes : decodeHex verifier "block" light.block = .ok (verifier.encodeBlock block)
  blockHash : decodeB256 verifier "block_hash" light.blockHash = .ok (verifier.id block)
  parentHash : decodeB256 verifier "parent_hash" light.parentHash = .ok block.parent
  height : light.height = block.height
  timestamp : light.timestamp = block.timestamp
  stateRoot : decodeB256 verifier "state_root" light.stateRoot = .ok block.stateRoot
  moduleStateRoot : decodeB256 verifier "module_state_root"
    light.moduleStateRoot = .ok block.moduleStateRoot
  epoch : light.epoch = block.context.round.epoch
  view : light.view = block.context.round.view
  parentView : light.parentView = block.context.parent.1

def Canonical : Prop :=
  ∀ bytes block, verifier.decodeBlock bytes = .ok block → verifier.encodeBlock block = bytes

variable {verifier}

theorem codec_ok {α : Type} {decoded : Except String α} {value : α}
    (read : codec decoded = .ok value) : decoded = .ok value := by
  cases decoded with
  | error message => cases read
  | ok decoded => cases read; rfl

variable {block : Block}

theorem endsEpoch_of_isEpochEnd (ends : isEpochEnd block = true) : EndsEpoch block := by
  unfold isEpochEnd at ends
  split at ends
  · rename_i info carried
    exact ⟨info, carried, checkedSucc_toNat (of_decide_eq_true ends)⟩
  · cases ends

theorem mismatch_none {checks : List (Bool × String)} (clean : mismatch checks = none) :
    ∀ check ∈ checks, check.1 = true := by
  intro check listed
  unfold mismatch at clean
  rw [Option.map_eq_none_iff, List.find?_eq_none] at clean
  have passed := clean check listed
  cases isTrue : check.1 with
  | true => rfl
  | false =>
    rw [isTrue] at passed
    exact (passed rfl).elim

variable {light : LightBlock}

theorem checkFields_ok {done : Unit} (passed : checkFields verifier light block = .ok done) :
    decodeB256 verifier "parent_hash" light.parentHash = .ok block.parent ∧
      light.height = block.height ∧ light.timestamp = block.timestamp ∧
      decodeB256 verifier "state_root" light.stateRoot = .ok block.stateRoot ∧
      decodeB256 verifier "module_state_root" light.moduleStateRoot = .ok block.moduleStateRoot ∧
      light.epoch = block.context.round.epoch ∧ light.view = block.context.round.view ∧
      light.parentView = block.context.parent.1 := by
  unfold checkFields at passed
  obtain ⟨parentHash, readParent, passed⟩ := exceptBind_ok passed
  obtain ⟨stateRoot, readState, passed⟩ := exceptBind_ok passed
  obtain ⟨moduleStateRoot, readModules, passed⟩ := exceptBind_ok passed
  dsimp only at passed
  split at passed
  · cases passed
  · rename_i clean
    have checked := mismatch_none clean
    simp only [List.forall_mem_cons, decide_eq_true_eq] at checked
    obtain ⟨sameParent, sameHeight, sameTime, sameState, sameModules,
      sameEpoch, sameView, sameParentView, _⟩ := checked
    rw [sameParent, sameState, sameModules]
    exact ⟨readParent, sameHeight.symm, sameTime.symm, readState, readModules,
      sameEpoch.symm, sameView.symm, sameParentView.symm⟩

def certifiedOf (verifier : Verifier Key Certificate) (block : Block) : Certified where
  epochEnd := isEpochEnd block
  context := block.context
  height := block.height
  hash := verifier.id block

theorem followDescendants_ok (canonical : Canonical verifier) {encoded : List String}
    {certified : Certified}
    (followed : followDescendants verifier (certifiedOf verifier block) encoded = .ok certified) :
    ∃ descendants, descendants.length = encoded.length ∧ Linked verifier block descendants ∧
      certified = certifiedOf verifier (tip block descendants) := by
  induction encoded generalizing block with
  | nil =>
    cases followed
    exact ⟨[], rfl, trivial, rfl⟩
  | cons first rest ih =>
    unfold followDescendants at followed
    obtain ⟨bytes, _, followed⟩ := exceptBind_ok followed
    obtain ⟨next, read, followed⟩ := exceptBind_ok followed
    have encoding := canonical bytes next (codec_ok read)
    have hashed : verifier.keccak256 bytes = verifier.id next := by
      rw [← encoding]
      rfl
    obtain ⟨extends_, followed⟩ := ifError_ok followed
    rw [hashed] at followed
    obtain ⟨descendants, length, linked, isTip⟩ := ih followed
    push Not at extends_
    obtain ⟨namesParent, nextHeight⟩ := extends_
    refine ⟨next :: descendants, ?_, ?_, isTip⟩
    · rw [List.length_cons, List.length_cons, length]
    · exact ⟨namesParent, checkedSucc_toNat nextHeight, linked⟩

theorem checkFinalization_ok {trustedKey : Key} {done : Unit}
    (passed : checkFinalization verifier light trustedKey (certifiedOf verifier block) = .ok done) :
    ∃ bytes finalization, decodeHex verifier "finalization" light.finalization = .ok bytes ∧
      verifier.decodeFinalization bytes = .ok finalization ∧
      verifier.verifyCertificate trustedKey finalization.proposal finalization.certificate = true ∧
      Proposes verifier finalization.proposal block := by
  unfold checkFinalization at passed
  obtain ⟨bytes, readHex, passed⟩ := exceptBind_ok passed
  obtain ⟨finalization, read, passed⟩ := exceptBind_ok passed
  dsimp only at passed
  split at passed
  · cases passed
  rename_i proposed
  split at passed
  · cases passed
  rename_i verified
  refine ⟨bytes, finalization, readHex, codec_ok read, Bool.eq_true_of_not_eq_false verified, ?_⟩
  by_cases direct : finalization.proposal = (certifiedOf verifier block).expected verifier
  · rw [direct]
    exact ⟨rfl, .inl ⟨rfl, rfl⟩⟩
  · have again : isReproposal (isEpochEnd block) finalization.proposal
        ((certifiedOf verifier block).expected verifier) = true := by
      by_contra notAgain
      exact proposed ⟨direct, Bool.eq_false_iff.mpr notAgain⟩
    simp only [isReproposal, Bool.and_eq_true, decide_eq_true_eq] at again
    obtain ⟨⟨⟨⟨⟨ends, samePayload⟩, sameEpoch⟩, later⟩, parentFrom⟩, parentBefore⟩ := again
    exact ⟨samePayload, .inr ⟨endsEpoch_of_isEpochEnd ends, sameEpoch, later,
      parentFrom, parentBefore⟩⟩

variable [DecidableEq Key]

theorem verifyFinalizedBlock_ok (canonical : Canonical verifier) {trustedKey : Key}
    (accepted : verifyFinalizedBlock verifier light trustedKey = .ok block) :
    light.descendants.length ≤ lightBlockMaxDescendants ∧
      verifier.decodeBlock (verifier.encodeBlock block) = .ok block ∧
      Displays verifier light block ∧
      ∃ certified, followDescendants verifier (certifiedOf verifier block)
          light.descendants = .ok certified ∧
        checkFinalization verifier light trustedKey certified = .ok () := by
  unfold verifyFinalizedBlock at accepted
  obtain ⟨_, limits, accepted⟩ := exceptBind_ok accepted
  obtain ⟨blockHash, readHash, accepted⟩ := exceptBind_ok accepted
  obtain ⟨blockBytes, readBytes, accepted⟩ := exceptBind_ok accepted
  split at accepted
  · cases accepted
  rename_i hashes
  obtain ⟨decoded, read, accepted⟩ := exceptBind_ok accepted
  obtain ⟨_, fields, accepted⟩ := exceptBind_ok accepted
  obtain ⟨_, _, accepted⟩ := exceptBind_ok accepted
  obtain ⟨certified, followed, accepted⟩ := exceptBind_ok accepted
  obtain ⟨_, finalized, accepted⟩ := exceptBind_ok accepted
  cases accepted
  have encoding := canonical blockBytes block (codec_ok read)
  have isId : blockHash = verifier.id block := by
    rw [← not_not.mp hashes, ← encoding]
    rfl
  rw [isId] at readHash followed
  rw [← encoding] at readBytes
  obtain ⟨parentHash, height, timestamp, stateRoot, moduleStateRoot, epoch,
    view, parentView⟩ := checkFields_ok fields
  have few : light.descendants.length ≤ lightBlockMaxDescendants := by
    unfold LightBlock.checkArtifactLimits at limits
    obtain ⟨within, limits⟩ := ifError_ok limits
    exact Nat.not_lt.mp within
  have reads : verifier.decodeBlock (verifier.encodeBlock block) =
      .ok block := by
    rw [encoding]
    exact codec_ok read
  exact ⟨few, reads, ⟨readBytes, readHash, parentHash, height, timestamp, stateRoot,
    moduleStateRoot, epoch, view, parentView⟩, certified, followed, finalized⟩

variable (verifier) in
/-- The key has signed a proposal for the block or for a descendant linked to it
by a chain of at most 64 blocks. -/
def Finalizes (signs : Key → Certificate → Option Proposal) (key : Key)
    (finalization : Finalization Certificate) (block : Block) : Prop :=
  signs key finalization.certificate = some finalization.proposal ∧
    ∃ descendants, descendants.length ≤ 64 ∧ Linked verifier block descendants ∧
      Proposes verifier finalization.proposal (tip block descendants)

/-- An accepted light block shows the returned block, and its certificate is one
of the trusted key for that block or a linked descendant.  Other epoch material
leads to no other block. -/
theorem accepted_blocks_are_certified (canonical : Canonical verifier)
    {signs : Key → Certificate → Option Proposal} {trustedKey : Key}
    (sound : ∀ proposal certificate,
      verifier.verifyCertificate trustedKey proposal certificate = true →
        signs trustedKey certificate = some proposal)
    (light : LightBlock) (block : Block)
    (accepted : verifyFinalizedBlock verifier light trustedKey = .ok block) :
    Displays verifier light block ∧
      (∃ bytes finalization, decodeHex verifier "finalization" light.finalization = .ok bytes ∧
        verifier.decodeFinalization bytes = .ok finalization ∧
        Finalizes verifier signs trustedKey finalization block) ∧
      ∀ material other,
        verifyFinalizedBlock verifier
            { light with epochMaterial := material } trustedKey = .ok other → other = block := by
  obtain ⟨few, reads, displays, certified, followed, finalized⟩ :=
    verifyFinalizedBlock_ok canonical accepted
  obtain ⟨descendants, length, linked, isTip⟩ := followDescendants_ok canonical followed
  rw [isTip] at finalized
  obtain ⟨bytes, finalization, readHex, read, verified, proposes⟩ := checkFinalization_ok finalized
  refine ⟨displays, ?_, ?_⟩
  · refine ⟨bytes, finalization, readHex, read,
      sound _ _ verified, descendants, ?_, linked, proposes⟩
    rw [length]
    exact few
  · intro material other acceptedToo
    obtain ⟨_, otherReads, otherDisplays, _⟩ := verifyFinalizedBlock_ok canonical acceptedToo
    have sameBytes : verifier.encodeBlock block = verifier.encodeBlock other :=
      Except.ok.inj (displays.bytes.symm.trans otherDisplays.bytes)
    rw [sameBytes, otherReads] at reads
    exact Except.ok.inj reads

/-! ## A re-proposed descendant -/

/-- The revision asked for, and the block that ends its epoch. -/
def shownBlock : Block where
  context := ⟨⟨4, 9⟩, [7], (8, 80)⟩
  parent := 70
  height := 20
  timestamp := 1700000000
  prevrandao := 1
  stateRoot := 71
  moduleStateRoot := 72
  txs := []
  payload := none
  dbTargets := []
  nativeTargets := none
  receiptCommitment := none

def lastBlock : Block :=
  { shownBlock with
    context := ⟨⟨4, 10⟩, [7], (9, 81)⟩
    parent := 21
    height := 21
    payload := some (.epochInfo ⟨5, []⟩) }

/-- A codec for the two blocks, and certificates that name key and proposal. -/
def pairVerifier : Verifier Nat (Nat × Proposal) where
  keccak256 bytes := BitVec.ofNat 256 (bytes.length + 20)
  sha256 bytes := wordOf 256 bytes + 1000
  hexFailure _ := "Invalid character"
  encodeBlock block := if block = shownBlock then [0] else [0, 1]
  decodeBlock bytes :=
    if bytes = [0] then
      .ok shownBlock
    else if bytes = [0, 1] then
      .ok lastBlock
    else
      .error "Unexpected End-of-Buffer"
  decodeMaterial bytes := .ok ⟨[[1], [2], [3], [4]], 4, bytes.length⟩
  decodeFinalization _ := .ok ⟨⟨⟨4, 12⟩, 11, 1022⟩, (2, ⟨⟨4, 12⟩, 11, 1022⟩)⟩
  verifyCertificate key proposal certificate := decide (certificate = (key, proposal))

theorem pairVerifier_canonical : Canonical pairVerifier := by
  intro bytes block decoded
  change (if bytes = [0] then Except.ok shownBlock
    else if bytes = [0, 1] then Except.ok lastBlock
    else Except.error "Unexpected End-of-Buffer") = .ok block at decoded
  split at decoded
  · rename_i first
    cases decoded
    rw [first]
    decide +kernel
  split at decoded
  · rename_i second
    cases decoded
    rw [second]
    decide +kernel
  · cases decoded

/-- The shown block with its epoch-ending child, which is certified in a later
view. -/
def pairLight : LightBlock :=
  { LightBlock.fromParts pairVerifier shownBlock [1] [2, 3] with
    descendants := ["0x0001"] }

def pairSigns (key : Nat) (certificate : Nat × Proposal) : Option Proposal :=
  if certificate.1 = key then some certificate.2 else none

theorem pairSigns_of_verified (proposal : Proposal) (certificate : Nat × Proposal)
    (verified : pairVerifier.verifyCertificate 2 proposal certificate = true) :
    pairSigns 2 certificate = some proposal := by
  rw [of_decide_eq_true verified]
  exact if_pos rfl

theorem pairLight_is_certified :
    Displays pairVerifier pairLight shownBlock ∧
      ∃ bytes finalization,
        decodeHex pairVerifier "finalization" pairLight.finalization = .ok bytes ∧
        pairVerifier.decodeFinalization bytes = .ok finalization ∧
        Finalizes pairVerifier pairSigns 2 finalization shownBlock := by
  have certified := accepted_blocks_are_certified pairVerifier_canonical
    pairSigns_of_verified pairLight shownBlock (by decide +kernel)
  exact ⟨certified.1, certified.2.1⟩

end Finality

end VeraHub.Domain
