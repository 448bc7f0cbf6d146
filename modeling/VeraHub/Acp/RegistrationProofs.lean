import VeraHub.Acp.Commands
import VeraHub.Library.PromotedTree

/-!
# Registration commitments and their proofs

A client commits to a batch of objects by the root of a hash tree over their
registration leaves, and later reveals each object with the siblings on its way
to the root.  Under hashes that separate the committed inputs from all others a
verified leaf is a committed one, whatever index, count and siblings the proof
claims; and every proof of a generated commitment verifies.
-/

namespace VeraHub.Acp

open VeraHub.Zanzibar

/-- The result of generating a registration commitment with proofs. -/
structure GenerateCommitmentResult where
  commitment : Bytes
  commitmentHex : String
  proofs : List RegistrationProof
  proofsJson : List String

def maxRegistrationObjects : Nat := 256

def maxRegistrationLeafBytes : Nat := 64 * 1024

section Generation

variable (sha256 : Bytes → Bytes)

/-- All levels from the leaf hashes to the root; a level at least halves the
width, so the width itself is enough rounds. -/
def buildMerkleLevels (leafHashes : List Bytes) : List (List Bytes) :=
  promotedLevels (computeInnerHash sha256) leafHashes.length leafHashes

/-- The siblings of a position through the given levels. -/
def auditSiblings : Nat → List (List Bytes) → List Bytes
  | _, [] => []
  | index, level :: rest =>
    let siblingIndex := if index % 2 = 0 then index + 1 else index - 1
    level[siblingIndex]?.toList ++ auditSiblings (index / 2) rest

def generateMerkleProof (leafIndex : Nat) (levels : List (List Bytes)) :
    List Bytes :=
  auditSiblings leafIndex levels.dropLast

/-- The checks of the remaining objects after these leaf bytes. -/
def validateLeafBytes (base : Nat) : Nat → List Object → Except AcpError Unit
  | _, [] => .ok ()
  | bytes, object :: rest =>
    if object.id.isEmpty then
      .error (.invalidAccessRequest "object ID must not be empty")
    else
      let bytes := bytes + base + (utf8 object.resource).length + (utf8 object.id).length
      if maxRegistrationLeafBytes < bytes then
        .error (.invalidAccessRequest "registration leaf byte budget exceeded")
      else
        validateLeafBytes base bytes rest

def validateCommitmentInput (policy : String) (objects : List Object)
    (actor : String) : Except AcpError Unit :=
  if objects = [] ∨ maxRegistrationObjects < objects.length then
    .error (.invalidAccessRequest "registration object count must be between 1 and 256")
  else
    validateLeafBytes ((utf8 policy).length + (utf8 actor).length +
      ((utf8 "vera/registration-leaf/v1" ++ [0]).length + 16)) 0 objects

/-- The levels over the registration leaves of the objects. -/
def registrationLevels (policyId : String) (objects : List Object)
    (actor : String) : List (List Bytes) :=
  buildMerkleLevels sha256 (objects.map fun object =>
    computeLeafHash sha256 (registrationLeaf policyId object actor))

/-- Generate the commitment to a bounded batch of objects.  The encoder of a
proof is a parameter; a proof it fails on is left empty. -/
def generateRegistrationCommitment
    (proofJson : RegistrationProof → Except String String) (policyId : String)
    (objects : List Object) (actor : String) :
    Except AcpError GenerateCommitmentResult := do
  validateCommitmentInput policyId objects actor
  let levels := registrationLevels sha256 policyId objects actor
  -- the source indexes into the last level, which validation keeps nonempty
  let commitment := (rootOf levels).getD []
  let proofs := objects.mapIdx fun index object =>
    { object := object
      merkleProof := generateMerkleProof index levels
      leafCount := UInt64.ofNat objects.length
      leafIndex := UInt64.ofNat index }
  .ok
    { commitment := commitment
      commitmentHex := hexText commitment
      proofs := proofs
      proofsJson := proofs.map fun proof =>
        (proofJson proof).toOption.getD "" }

end Generation

/-! ## Completeness -/

variable {width index : Nat} {current : Bytes}

section Completeness

variable (sha256 : Bytes → Bytes)

theorem climbMerkle_narrow (rounds : Nat) (current : Bytes) (index : Nat) (siblings : List Bytes) (narrow : width ≤ 1) :
    climbMerkle sha256 rounds current index width siblings =
      some (current, siblings) := by
  cases rounds with
  | zero => rfl
  | succ rounds =>
    unfold climbMerkle
    rw [if_pos narrow]

theorem climbMerkle_odd (rounds : Nat) (current : Bytes)
    (sibling : Bytes) (rest : List Bytes) (wide : ¬ width ≤ 1) (odd : index % 2 = 1) :
    climbMerkle sha256 (rounds + 1) current index width (sibling :: rest) =
      climbMerkle sha256 rounds (computeInnerHash sha256 sibling current)
        (index / 2) ((width + 1) / 2) rest := by
  conv_lhs => unfold climbMerkle
  rw [if_neg wide, if_pos odd]

theorem climbMerkle_paired (rounds : Nat) (current : Bytes) (sibling : Bytes) (rest : List Bytes)
    (wide : ¬ width ≤ 1) (even : ¬ index % 2 = 1) (paired : index + 1 < width) :
    climbMerkle sha256 (rounds + 1) current index width (sibling :: rest) =
      climbMerkle sha256 rounds (computeInnerHash sha256 current sibling)
        (index / 2) ((width + 1) / 2) rest := by
  conv_lhs => unfold climbMerkle
  rw [if_neg wide, if_neg even, if_pos paired]

theorem climbMerkle_promoted (rounds : Nat) (current : Bytes) (siblings : List Bytes) (wide : ¬ width ≤ 1)
    (even : ¬ index % 2 = 1) (last : ¬ index + 1 < width) :
    climbMerkle sha256 (rounds + 1) current index width siblings =
      climbMerkle sha256 rounds current (index / 2) ((width + 1) / 2)
        siblings := by
  conv_lhs => unfold climbMerkle
  rw [if_neg wide, if_neg even, if_neg last]

variable {levels : List (List Bytes)}

theorem generateMerkleProof_cons (index : Nat) (level : List Bytes) (nonempty : levels ≠ []) :
    generateMerkleProof index (level :: levels) =
      level[if index % 2 = 0 then index + 1 else index - 1]?.toList ++
        generateMerkleProof (index / 2) levels := by
  unfold generateMerkleProof
  rw [List.dropLast_cons_of_ne_nil nonempty, auditSiblings]

variable {level : List Bytes}

theorem climbMerkle_single (fuel rounds : Nat) (found : level[index]? = some current)
    (narrow : level.length ≤ 1) :
    ∃ root,
      rootOf (promotedLevels (computeInnerHash sha256) fuel level) = some root ∧
        climbMerkle sha256 rounds current index level.length
            (generateMerkleProof index (promotedLevels (computeInnerHash sha256) fuel level)) =
          some (root, []) := by
  rw [promotedLevels_narrow _ _ narrow]
  match level, index, found with
  | [_], 0, found =>
    cases found
    exact ⟨current, rfl, climbMerkle_narrow sha256 _ _ _ _ narrow⟩

theorem climbMerkle_generated (fuel rounds : Nat) (found : level[index]? = some current)
    (enough : level.length ≤ fuel + 1) (halving : level.length ≤ 2 ^ rounds) :
    ∃ root,
      rootOf (promotedLevels (computeInnerHash sha256) fuel level) = some root ∧
        climbMerkle sha256 rounds current index level.length
            (generateMerkleProof index (promotedLevels (computeInnerHash sha256) fuel level)) =
          some (root, []) := by
  induction fuel generalizing rounds level index current with
  | zero => exact climbMerkle_single sha256 0 rounds found enough
  | succ fuel ih =>
    by_cases narrow : level.length ≤ 1
    · exact climbMerkle_single sha256 (fuel + 1) rounds found narrow
    · obtain ⟨remaining, rfl⟩ : ∃ remaining, rounds = remaining + 1 := by
        cases rounds with
        | zero => exact (narrow halving).elim
        | succ remaining => exact ⟨remaining, rfl⟩
      have inside : index < level.length := (List.getElem?_eq_some_iff.mp found).1
      have half := length_pairUp (computeInnerHash sha256) level
      have halved : (level.length + 1) / 2 ≤ 2 ^ remaining := by
        rw [Nat.pow_succ] at halving
        omega
      -- what the climb reaches in one round stands in the next level
      have onward : ∀ next,
          (pairUp (computeInnerHash sha256) level)[index / 2]? = some next →
            ∃ root,
              rootOf (promotedLevels (computeInnerHash sha256) fuel
                  (pairUp (computeInnerHash sha256) level)) = some root ∧
                climbMerkle sha256 remaining next (index / 2) ((level.length + 1) / 2)
                    (generateMerkleProof (index / 2)
                      (promotedLevels (computeInnerHash sha256) fuel
                        (pairUp (computeInnerHash sha256) level))) =
                  some (root, []) := by
        intro next stands
        rw [← half]
        exact ih remaining stands (by omega) (by omega)
      have present := promotedLevels_ne_nil (computeInnerHash sha256) fuel
        (pairUp (computeInnerHash sha256) level)
      rw [promotedLevels_wide _ _ narrow, rootOf_cons level present,
        generateMerkleProof_cons index level present]
      by_cases odd : index % 2 = 1
      · have even : 2 * (index / 2) = index - 1 := by omega
        have after : 2 * (index / 2) + 1 = index := by omega
        have before : index - 1 < level.length := by omega
        have sibling : level[index - 1]? = some level[index - 1] := List.getElem?_eq_getElem before
        have first : level[2 * (index / 2)]? = some level[index - 1] := by
          rw [even, sibling]
        have second : level[2 * (index / 2) + 1]? = some current := by
          rw [after, found]
        have combined := getElem?_pairUp_both (computeInnerHash sha256) first second
        rw [if_neg (by omega), sibling, Option.toList_some,
          List.singleton_append, climbMerkle_odd _ _ _ _ _ narrow odd]
        exact onward _ combined
      · have even : 2 * (index / 2) = index := by omega
        have first : level[2 * (index / 2)]? = some current := by
          rw [even, found]
        rw [if_pos (by omega)]
        by_cases paired : index + 1 < level.length
        · have sibling : level[index + 1]? = some level[index + 1] :=
            List.getElem?_eq_getElem paired
          have second : level[2 * (index / 2) + 1]? = some level[index + 1] := by
            rw [even, sibling]
          have combined := getElem?_pairUp_both (computeInnerHash sha256) first second
          rw [sibling, Option.toList_some, List.singleton_append,
            climbMerkle_paired _ _ _ _ _ narrow odd paired]
          exact onward _ combined
        · have last : level[index + 1]? = none := List.getElem?_eq_none (by omega)
          have second : level[2 * (index / 2) + 1]? = none := by
            rw [even, last]
          have promoted := getElem?_pairUp_last (computeInnerHash sha256) first second
          rw [last, Option.toList_none, List.nil_append,
            climbMerkle_promoted _ _ _ _ narrow odd paired]
          exact onward _ promoted

theorem mem_auditSiblings {sibling : Bytes} (member : sibling ∈ auditSiblings index levels) :
    ∃ level ∈ levels, sibling ∈ level := by
  induction levels generalizing index with
  | nil => exact (nomatch member)
  | cons level rest ih =>
    rcases List.mem_append.mp member with here | later
    · have found := Option.mem_toList.mp here
      exact ⟨level, List.mem_cons_self .., List.mem_of_getElem? found⟩
    · obtain ⟨later, stands, inside⟩ := ih later
      exact ⟨later, List.mem_cons_of_mem _ stands, inside⟩

theorem length_auditSiblings_le (index : Nat) (levels : List (List Bytes)) :
    (auditSiblings index levels).length ≤ levels.length := by
  induction levels generalizing index with
  | nil => simp [auditSiblings]
  | cons level rest ih =>
    have later := ih (index / 2)
    have here : ∀ found : Option Bytes, found.toList.length ≤ 1 := by
      intro found
      cases found <;> simp
    have sibling := here level[if index % 2 = 0 then index + 1 else index - 1]?
    rw [auditSiblings, List.length_append, List.length_cons]
    omega

end Completeness

/-! ## Verification -/

section Verification

variable {sha256 : Bytes → Bytes} {proof : RegistrationProof}

theorem verifyMerkleProof_eq_true {root : Bytes} {leafData : Bytes} :
    verifyMerkleProof sha256 root proof leafData = true ↔
      root.length = 32 ∧ proof.leafIndex < proof.leafCount ∧ proof.merkleProof.length ≤ 64 ∧
        (∀ sibling ∈ proof.merkleProof, sibling.length = 32) ∧
        climbMerkle sha256 64 (computeLeafHash sha256 leafData)
            proof.leafIndex.toNat proof.leafCount.toNat proof.merkleProof = some (root, []) := by
  unfold verifyMerkleProof
  constructor
  · intro accepted
    split at accepted
    · cases accepted
    · rename_i passed
      push Not at passed
      obtain ⟨sized, _, inside, short, siblings⟩ := passed
      have width : ∀ sibling ∈ proof.merkleProof, sibling.length = 32 := by
        simpa using siblings
      refine ⟨sized, UInt64.not_le.mp inside, short, width, ?_⟩
      split at accepted
      · rename_i current climbed
        rw [climbed, of_decide_eq_true accepted]
      · cases accepted
  · rintro ⟨sized, inside, short, width, climbed⟩
    have nonzero : proof.leafCount ≠ 0 := by
      intro zero
      rw [zero] at inside
      exact UInt64.not_lt_zero inside
    have siblings : ¬ (proof.merkleProof.any fun sibling =>
        decide (sibling.length ≠ 32)) = true := by
      simpa using width
    rw [if_neg, climbed]
    · exact decide_eq_true rfl
    · push Not
      exact ⟨sized, nonzero, UInt64.not_le.mpr inside, short, siblings⟩

theorem exists_climb_of_climbMerkle {rounds : Nat} {final : Bytes} {siblings rest : List Bytes}
    (climbed : climbMerkle sha256 rounds current index width siblings = some (final, rest)) :
    ∃ steps : List (PathStep Bytes),
      PathStep.climb (computeInnerHash sha256) current steps = final ∧
        ∀ step ∈ steps, step.sibling ∈ siblings := by
  induction rounds generalizing current index width siblings with
  | zero =>
    cases climbed
    exact ⟨[], rfl, fun _ member => (nomatch member)⟩
  | succ rounds ih =>
    have onward : ∀ {next : Bytes} {sibling : Bytes} {later : List Bytes}
        (step : PathStep Bytes), step.sibling = sibling →
        computeInnerHash sha256 (step.pair current).1 (step.pair current).2 = next →
        climbMerkle sha256 rounds next (index / 2) ((width + 1) / 2) later = some (final, rest) →
        ∃ steps : List (PathStep Bytes),
          PathStep.climb (computeInnerHash sha256) current steps = final ∧
            ∀ step ∈ steps, step.sibling ∈ sibling :: later := by
      rintro next sibling later step rfl rfl climbed
      obtain ⟨steps, reached, among⟩ := ih climbed
      refine ⟨step :: steps, reached, ?_⟩
      intro other member
      rcases List.mem_cons.mp member with rfl | member
      · exact List.mem_cons_self ..
      · exact List.mem_cons_of_mem _ (among other member)
    unfold climbMerkle at climbed
    split at climbed
    · cases climbed
      exact ⟨[], rfl, fun _ member => (nomatch member)⟩
    · split at climbed
      · split at climbed
        · cases climbed
        · rename_i sibling later
          exact onward (.onLeft sibling) rfl rfl climbed
      · split at climbed
        · split at climbed
          · cases climbed
          · rename_i sibling later
            exact onward (.onRight sibling) rfl rfl climbed
        · exact ih climbed

def combinedPairs (levels : List (List Bytes)) : List (Bytes × Bytes) :=
  levels.flatMap levelPairs

variable (sha256) in
/-- The hashes of a committed tree are separate from all others: the leaf hash
and the inner hash are injective at the inputs of the tree, and neither takes a
value that the other has there.  Injectivity everywhere is out of reach for a
digest of fixed width. -/
structure SeparateHashes (leaves : List Bytes) : Prop where
  leaf : ∀ leaf ∈ leaves, ∀ data,
    computeLeafHash sha256 data = computeLeafHash sha256 leaf → data = leaf
  inner : ∀ pair ∈ combinedPairs (buildMerkleLevels sha256 (leaves.map (computeLeafHash sha256))),
    ∀ left right, left.length = 32 → right.length = 32 →
      computeInnerHash sha256 left right =
        computeInnerHash sha256 pair.1 pair.2 → (left, right) = pair
  innerOffLeaves : ∀ leaf ∈ leaves, ∀ left right, left.length = 32 →
    right.length = 32 → computeInnerHash sha256 left right ≠ computeLeafHash sha256 leaf
  leafOffInner : ∀ pair ∈ combinedPairs (buildMerkleLevels sha256
      (leaves.map (computeLeafHash sha256))),
    ∀ data, computeLeafHash sha256 data ≠ computeInnerHash sha256 pair.1 pair.2

variable (sized : ∀ data, (sha256 data).length = 32)

include sized in
theorem SeparateHashes.mem_of_verified {leaves : List Bytes} {root : Bytes}
    (separate : SeparateHashes sha256 leaves) (nonempty : leaves ≠ [])
    (built : rootOf (buildMerkleLevels sha256 (leaves.map (computeLeafHash sha256))) = some root)
    {leafData : Bytes} (accepted : verifyMerkleProof sha256 root proof leafData = true) :
    leafData ∈ leaves := by
  obtain ⟨_, _, _, width, climbed⟩ := verifyMerkleProof_eq_true.mp accepted
  obtain ⟨steps, reached, among⟩ := exists_climb_of_climbMerkle climbed
  have present : leaves.map (computeLeafHash sha256) ≠ [] := by
    intro empty
    exact nonempty (List.map_eq_nil_iff.mp empty)
  obtain ⟨tree, digest, hashes, placed⟩ := HashTree.exists_of_rootOf _ present (Nat.le_succ _) built
  have committed : ∀ pair ∈ tree.pairs (computeInnerHash sha256),
      pair ∈ combinedPairs (buildMerkleLevels sha256 (leaves.map (computeLeafHash sha256))) := by
    intro pair member
    exact List.mem_flatMap.mpr (placed pair member)
  have started : computeLeafHash sha256 leafData ∈ tree.leaves := by
    apply @HashTree.mem_leaves_of_climb Bytes (computeInnerHash sha256)
      (fun hash => hash.length = 32) (fun _ _ => sized _) _ (sized _) steps
      (fun step member => width _ (among step member)) tree (reached.trans digest.symm)
    · intro pair member left right leftSized rightSized same
      exact separate.inner pair (committed pair member) left right leftSized rightSized same
    · intro value member left right leftSized rightSized same
      rw [hashes] at member
      obtain ⟨leaf, stands, rfl⟩ := List.mem_map.mp member
      exact separate.innerOffLeaves leaf stands left right leftSized rightSized same
    · intro pair member
      exact separate.leafOffInner pair (committed pair member) leafData
  rw [hashes] at started
  obtain ⟨leaf, stands, same⟩ := List.mem_map.mp started
  rw [separate.leaf leaf stands leafData same.symm]
  exact stands

include sized in
theorem verifyMerkleProof_generated {leaves : List Bytes} {object : Object}
    {index : Nat} {leafData : Bytes} (few : leaves.length ≤ 2 ^ 8)
    (found : leaves[index]? = some leafData) :
    ∃ root,
      rootOf (buildMerkleLevels sha256 (leaves.map (computeLeafHash sha256))) = some root ∧
        verifyMerkleProof sha256 root
          { object := object
            merkleProof := generateMerkleProof index
              (buildMerkleLevels sha256 (leaves.map (computeLeafHash sha256)))
            leafCount := UInt64.ofNat leaves.length
            leafIndex := UInt64.ofNat index } leafData = true := by
  let hashes := leaves.map (computeLeafHash sha256)
  have counted : hashes.length = leaves.length := List.length_map _
  have stands : hashes[index]? = some (computeLeafHash sha256 leafData) := by
    rw [List.getElem?_map, found]
    rfl
  have inside : index < leaves.length := (List.getElem?_eq_some_iff.mp found).1
  have countNat : (UInt64.ofNat leaves.length).toNat = leaves.length :=
    UInt64.toNat_ofNat_of_lt' (by
      simp only [UInt64.size]
      omega)
  have indexNat : (UInt64.ofNat index).toNat = index := UInt64.toNat_ofNat_of_lt' (by
      simp only [UInt64.size]
      omega)
  have valid : ∀ hash ∈ hashes, hash.length = 32 := by
    intro hash member
    obtain ⟨leaf, _, rfl⟩ := List.mem_map.mp member
    exact sized _
  have everywhere :=
    @forall_promotedLevels _ (computeInnerHash sha256)
      (fun hash => hash.length = 32) (fun _ _ => sized _) hashes.length hashes valid
  obtain ⟨root, built, climbed⟩ := climbMerkle_generated sha256 hashes.length
    64 stands (Nat.le_succ _) (by omega)
  refine ⟨root, built, verifyMerkleProof_eq_true.mpr ⟨?_, ?_, ?_, ?_, ?_⟩⟩
  · obtain ⟨level, member, top⟩ := mem_of_rootOf built
    exact everywhere level member root top
  · rw [UInt64.lt_iff_toNat_lt, countNat, indexNat]
    exact inside
  · have levels := @length_promotedLevels_le _ (computeInnerHash sha256) 8
      hashes.length hashes (by omega)
    have siblings := length_auditSiblings_le index (buildMerkleLevels sha256 hashes).dropLast
    rw [List.length_dropLast] at siblings
    have fewSiblings : (generateMerkleProof index
        (buildMerkleLevels sha256 hashes)).length ≤ 8 := by
      apply siblings.trans
      unfold buildMerkleLevels
      omega
    exact fewSiblings.trans (by decide)
  · intro sibling member
    obtain ⟨level, among, inLevel⟩ := mem_auditSiblings member
    exact everywhere level (List.dropLast_subset _ among) sibling inLevel
  · rw [countNat, indexNat, ← counted]
    exact climbed

theorem validateCommitmentInput_count {policy : String} {objects : List Object} {actor : String}
    (valid : validateCommitmentInput policy objects actor = .ok ()) :
    objects ≠ [] ∧ objects.length ≤ maxRegistrationObjects := by
  unfold validateCommitmentInput at valid
  obtain ⟨bounded, valid⟩ := ifError_ok valid
  push Not at bounded
  exact bounded

end Verification

/-- Against the root of committed leaves only a committed leaf is verified, for
every index, count and list of siblings; and for every batch of objects that
passes validation a commitment is generated, with one proof for each object,
which verifies against it. -/
theorem registration_proofs_sound_and_complete (sha256 : Bytes → Bytes)
    (sized : ∀ data, (sha256 data).length = 32) :
    (∀ leaves root, leaves ≠ [] → SeparateHashes sha256 leaves →
      rootOf (buildMerkleLevels sha256 (leaves.map (computeLeafHash sha256))) = some root →
        ∀ (proof : RegistrationProof) (leafData : Bytes),
          verifyMerkleProof sha256 root proof leafData = true → leafData ∈ leaves) ∧
      ∀ proofJson policyId objects actor,
        validateCommitmentInput policyId objects actor = .ok () →
          ∃ result,
            generateRegistrationCommitment sha256 proofJson policyId objects actor = .ok result ∧
              result.proofs.length = objects.length ∧
              ∀ (index : Nat) (proof : RegistrationProof),
                result.proofs[index]? = some proof →
                  objects[index]? = some proof.object ∧ proof.leafIndex = UInt64.ofNat index ∧
                    proof.leafCount = UInt64.ofNat objects.length ∧
                    verifyMerkleProof sha256 result.commitment proof
                      (registrationLeaf policyId proof.object actor) =
                        true := by
  constructor
  · intro leaves root nonempty separate built proof leafData accepted
    exact separate.mem_of_verified sized nonempty built accepted
  · intro proofJson policyId objects actor valid
    obtain ⟨_, few⟩ := validateCommitmentInput_count valid
    refine ⟨_, by rw [generateRegistrationCommitment, valid]; rfl, ?_, ?_⟩
    · exact List.length_mapIdx
    · intro index proof found
      rw [List.getElem?_mapIdx] at found
      obtain ⟨object, stands, rfl⟩ := Option.map_eq_some_iff.mp found
      refine ⟨stands, rfl, rfl, ?_⟩
      let leaves := objects.map fun object =>
        registrationLeaf policyId object actor
      have counted : leaves.length = objects.length := List.length_map _
      have leaf : leaves[index]? =
          some (registrationLeaf policyId object actor) := by
        rw [List.getElem?_map, stands]
        rfl
      have levels : registrationLevels sha256 policyId objects actor =
          buildMerkleLevels sha256 (leaves.map (computeLeafHash sha256)) := by
        unfold registrationLevels
        rw [List.map_map]
        rfl
      obtain ⟨root, built, verified⟩ := @verifyMerkleProof_generated sha256
        sized leaves object index _ (by rw [counted]; exact few) leaf
      rw [counted] at verified
      simp only [levels, built, Option.getD_some]
      exact verified

/-- A hash given by a table: the digest of an input is its position, and all
other inputs share one digest. -/
def tableHash (table : List Bytes) (data : Bytes) : Bytes :=
  bigEndian 32 (table.idxOf data)

theorem tableHash_eq {table : List Bytes} {input other : Bytes}
    (small : table.length < 256) (member : input ∈ table)
    (same : tableHash table other = tableHash table input) : other = input := by
  have decoded := congrArg fromBigEndian same
  unfold tableHash at decoded
  have bounded : ∀ data, table.idxOf data % 256 ^ 32 = table.idxOf data := by
    intro data
    apply Nat.mod_eq_of_lt
    have position : table.idxOf data ≤ table.length := List.idxOf_le_length
    exact (Nat.lt_of_le_of_lt position small).trans (by decide +kernel)
  rw [fromBigEndian_bigEndian, fromBigEndian_bigEndian, bounded, bounded] at decoded
  exact ((List.idxOf_inj member).mp decoded.symm).symm

def reports : List Object :=
  [⟨"report", "a"⟩, ⟨"report", "b"⟩, ⟨"report", "c"⟩]

def reportLeaves : List Bytes :=
  reports.map fun object => registrationLeaf "policy" object "did:key:alice"

/-- The inputs hashed for three reports: their leaves, the first two leaves and
the root, where the third leaf is promoted. -/
def reportTable : List Bytes :=
  reportLeaves.map (0 :: ·) ++
    [1 :: bigEndian 32 0 ++ bigEndian 32 1, 1 :: bigEndian 32 3 ++ bigEndian 32 2]

theorem reportTable_leaf {leaf : Bytes} (member : leaf ∈ reportLeaves) : 0 :: leaf ∈ reportTable :=
  List.mem_append_left _ (List.mem_map.mpr ⟨leaf, member, rfl⟩)

theorem reportTable_inner {pair : Bytes × Bytes}
    (member : pair ∈ combinedPairs (buildMerkleLevels (tableHash reportTable)
      (reportLeaves.map (computeLeafHash (tableHash reportTable))))) :
    1 :: pair.1 ++ pair.2 ∈ reportTable ∧ pair.1.length = 32 := by
  have evaluated : ∀ pair ∈ combinedPairs (buildMerkleLevels (tableHash reportTable)
      (reportLeaves.map (computeLeafHash (tableHash reportTable)))),
      1 :: pair.1 ++ pair.2 ∈ reportTable ∧ pair.1.length = 32 := by
    decide +kernel
  exact evaluated pair member

theorem reportTable_separate : SeparateHashes (tableHash reportTable) reportLeaves where
  leaf leaf member data same := by
    have input := tableHash_eq (by decide) (reportTable_leaf member) same
    exact (List.cons.inj input).2
  inner pair member left right leftSized _ same := by
    obtain ⟨known, width⟩ := reportTable_inner member
    have input := tableHash_eq (by decide) known same
    have parts := List.append_inj (List.cons.inj input).2 (leftSized.trans width.symm)
    exact Prod.ext parts.1 parts.2
  innerOffLeaves leaf member left right _ _ same := by
    have input := tableHash_eq (by decide) (reportTable_leaf member) same
    exact absurd (List.cons.inj input).1 (by decide)
  leafOffInner pair member data same := by
    have input := tableHash_eq (by decide) (reportTable_inner member).1 same
    exact absurd (List.cons.inj input).1 (by decide)

/-- A commitment to three reports verifies its three proofs and nothing else. -/
theorem report_commitment_verifies :
    ∃ result,
      generateRegistrationCommitment (tableHash reportTable) (fun _ => .ok "")
          "policy" reports "did:key:alice" = .ok result ∧
        (∀ proof ∈ result.proofs,
          verifyMerkleProof (tableHash reportTable) result.commitment proof
            (registrationLeaf "policy" proof.object "did:key:alice") = true) ∧
        ∀ proof leafData,
          verifyMerkleProof (tableHash reportTable) result.commitment proof
            leafData = true → leafData ∈ reportLeaves := by
  have sized : ∀ data, (tableHash reportTable data).length = 32 := fun data => length_bigEndian 32 _
  obtain ⟨sound, complete⟩ := registration_proofs_sound_and_complete (tableHash reportTable) sized
  obtain ⟨result, generated, _, verifies⟩ := complete (fun _ => .ok "")
    "policy" reports "did:key:alice" (by decide +kernel)
  refine ⟨result, generated, ?_, ?_⟩
  · intro proof member
    obtain ⟨index, found⟩ := List.mem_iff_getElem?.mp member
    exact (verifies index proof found).2.2.2
  · have built : rootOf (buildMerkleLevels (tableHash reportTable)
        (reportLeaves.map (computeLeafHash (tableHash reportTable)))) =
          some (bigEndian 32 4) := by
      decide +kernel
    have committed : (generateRegistrationCommitment (tableHash reportTable)
        (fun _ => .ok "") "policy" reports "did:key:alice").toOption.map
          (fun result => result.commitment) = some (bigEndian 32 4) := by
      decide +kernel
    rw [generated] at committed
    have commitment : result.commitment = bigEndian 32 4 := Option.some.inj committed
    intro proof leafData accepted
    rw [commitment] at accepted
    exact sound reportLeaves _ (by decide) reportTable_separate built proof leafData accepted

end VeraHub.Acp
