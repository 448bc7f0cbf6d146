import VeraHub.Executor.ValidatorRegistry

/-!
# Members of the validator registry

The storage of the registry represents a list of members: the array holds their
addresses in order, every record holds the words of its member, and all other
positions and records are zero.  The dispatches append a member, move the last
member into the place of a removed one, or rewrite one record, so a run keeps a
list of distinct members with a committee that is neither empty nor too large.
-/

namespace VeraHub.Executor.ValidatorRegistry

/-! ## Encoded words -/

variable {address : Address}

section Words

theorem wordBytes_packAddressActive (address : Address) (active : Bool) :
    wordBytes 32 (packAddressActive address active) =
      wordBytes 20 address ++ (if active then 1 else 0) :: List.replicate 11 0 := by
  unfold packAddressActive
  apply wordBytes_wordOf (by decide +kernel)
  simp

@[simp]
theorem unpackAddressActive_packAddressActive (address : Address) (active : Bool) :
    unpackAddressActive (packAddressActive address active) = (address, active) := by
  unfold unpackAddressActive
  rw [wordBytes_packAddressActive]
  have front : (wordBytes 20 address).length = 20 := length_wordBytes address
  simp only [List.take_left' front, List.getD_eq_getElem?_getD]
  rw [List.getElem?_append_right (by omega), front, wordOf_wordBytes (by decide +kernel)]
  cases active <;> rfl

theorem packAddressActive_wellFormed (address : Address) (active : Bool) :
    ¬ (wordBytes 32 (packAddressActive address active)).getD 20 0 > 1 ∧
      ((wordBytes 32 (packAddressActive address active)).drop 21).any
        (fun byte => byte ≠ 0) = false := by
  rw [wordBytes_packAddressActive]
  have front : (wordBytes 20 address).length = 20 := length_wordBytes address
  constructor
  · rw [List.getD_eq_getElem?_getD, List.getElem?_append_right (by omega), front]
    cases active <;> decide
  · rw [List.drop_append, front]
    have nothing : (wordBytes 20 address).drop 21 = [] := by
      apply List.drop_eq_nil_of_le
      omega
    rw [nothing]
    cases active <;> rfl

theorem packAddressActive_ne_zero (nonzero : address ≠ 0)
    (active : Bool) : packAddressActive address active ≠ 0 := by
  intro isZero
  have unpacked := unpackAddressActive_packAddressActive address active
  rw [isZero] at unpacked
  have zero : unpackAddressActive 0 = (0, false) := by decide +kernel
  rw [zero] at unpacked
  exact nonzero (Prod.mk.inj unpacked).1.symm

@[simp]
theorem u256ToAddress_addressToPaddedU256 (address : Address) :
    u256ToAddress (addressToPaddedU256 address) = address := by
  unfold u256ToAddress addressToPaddedU256
  rw [wordBytes_wordOf (by decide +kernel) (by simp)]
  have front : (List.replicate 12 (0 : UInt8)).length = 12 := by simp
  rw [List.drop_left' front, wordOf_wordBytes (by decide +kernel)]

theorem take_paddedRoute {route : Bytes} (fits : route.length ≤ 32) :
    (wordBytes 32 (paddedRoute route)).take route.length = route := by
  have full : (route.take 32 ++ List.replicate (32 - min route.length 32) 0).length = 32 := by
    simp
    omega
  unfold paddedRoute
  rw [wordBytes_wordOf (by decide +kernel) full, List.take_of_length_le fits, List.take_left' rfl]

end Words

/-! ## Slots -/

/-- What the registry keeps in a storage slot. -/
inductive Slot where
  | policyId
  | count
  | position (index : UInt64)
  | field (member : Address) (offset : Fin 5)
deriving DecidableEq

def Slot.key (host : Host) : Slot → U256
  | .policyId => slotPolicyId
  | .count => slotValidatorCount
  | .position index => arrayElementSlot host slotValidatorsArrayBase index
  | .field member offset =>
    mappingSlot host member slotValidatorsMappingBase + BitVec.ofNat 256 offset.val

def Separated (host : Host) : Prop :=
  Function.Injective (Slot.key host)

/-! ## Members -/

structure Member where
  address : Address
  consensusKey : B256
  route : String
  active : Bool
deriving DecidableEq

namespace Member

def word (member : Member) (index : Nat) (offset : Fin 5) : U256 :=
  match offset with
  | 0 => packAddressActive member.address member.active
  | 1 => member.consensusKey
  | 2 => BitVec.ofNat 256 index
  | 3 => BitVec.ofNat 256 (utf8 member.route).length
  | 4 => paddedRoute (utf8 member.route)

def stored (member : Member) (index : Nat) : StoredValidator where
  evmAddress := member.address
  consensusPubkey := member.consensusKey
  p2pAddress := member.route
  active := member.active
  index := UInt64.ofNat index

def info (member : Member) (index : Nat) : ValidatorInfo :=
  toValidatorInfo (member.stored index)

@[simp]
theorem info_active (member : Member) (index : Nat) : (member.info index).active = member.active :=
  rfl

theorem info_consensusPubkey (member : Member) (index : Nat) : (member.info index).consensusPubkey =
      hexText (wordBytes 32 member.consensusKey) :=
  rfl

end Member

variable {index first second : Nat} {member : Member}

section Loading

variable (host : Host)

/-- The storage holds exactly the members, in their order. -/
structure Represents (storage : Storage) (members : List Member) : Prop where
  count : storage (Slot.key host .count) = BitVec.ofNat 256 members.length
  position : ∀ index member, members[index]? = some member →
    storage (Slot.key host (.position (UInt64.ofNat index))) = addressToPaddedU256 member.address
  vacant : ∀ index : UInt64, members.length ≤ index.toNat →
    storage (Slot.key host (.position index)) = 0
  record : ∀ index (member : Member), members[index]? = some member →
    ∀ offset, storage (Slot.key host (.field member.address offset)) = member.word index offset
  absent : ∀ address, (∀ member ∈ members, member.address ≠ address) →
    ∀ offset, storage (Slot.key host (.field address offset)) = 0

/-- Distinct members with valid keys and routes that can be stored. -/
structure WellFormed (members : List Member) : Prop where
  nonzero : ∀ member ∈ members, member.address ≠ 0
  addresses : (members.map Member.address).Nodup
  keys : (members.map Member.consensusKey).Nodup
  readable : ∀ member ∈ members, host.readsPublicKey member.consensusKey = true
  routes : ∀ member ∈ members, (utf8 member.route).length ≤ 32
  size : members.length ≤ maxDkgParticipants

/-- The storage holds one member's record, and the array agrees. -/
structure Holds (storage : Storage) (index : Nat) (member : Member) : Prop where
  words : ∀ offset,
    storage (Slot.key host (.field member.address offset)) = member.word index offset
  element : storage (Slot.key host (.position (UInt64.ofNat index))) =
    addressToPaddedU256 member.address

variable {host} {storage : Storage} {members : List Member}

theorem toNat_position (small : index ≤ 64) : (UInt64.ofNat index).toNat = index :=
  UInt64.toNat_ofNat_of_lt (by unfold UInt64.size; omega)

theorem lowLimb_ofNat {number : Nat} (small : number ≤ 64) :
    lowLimb (BitVec.ofNat 256 number) = UInt64.ofNat number := by
  unfold lowLimb
  rw [BitVec.toNat_ofNat, Nat.mod_eq_of_lt (by omega)]

theorem ofNat_lt_iff (firstSmall : first ≤ 64) (secondSmall : second ≤ 64) :
    BitVec.ofNat 256 first < BitVec.ofNat 256 second ↔ first < second := by
  rw [BitVec.lt_def, BitVec.toNat_ofNat, BitVec.toNat_ofNat,
    Nat.mod_eq_of_lt (by omega), Nat.mod_eq_of_lt (by omega)]

theorem run_journalSload_bind {α : Type} {slot value : U256}
    {next : U256 → RegistryM α} (read : storage slot = value) :
    (journalSload slot >>= next).run storage = (next value).run storage := by
  rw [← read]
  rfl

@[simp]
theorem Slot.key_field_zero (address : Address) : Slot.key host (.field address 0) =
      mappingSlot host address slotValidatorsMappingBase :=
  BitVec.add_zero _

theorem run_loadMemberCount {count : Nat} (bounded : count ≤ 64)
    (counted : storage (Slot.key host .count) = BitVec.ofNat 256 count) :
    loadMemberCount.run storage = (.ok (UInt64.ofNat count), storage) := by
  have within : ¬ BitVec.ofNat 256 count >
      BitVec.ofNat 256 maxDkgParticipants := by
    have limit : maxDkgParticipants ≤ 64 := le_refl 64
    rw [gt_iff_lt, ofNat_lt_iff limit bounded]
    exact Nat.not_lt.mpr bounded
  have read : storage slotValidatorCount = BitVec.ofNat 256 count := counted
  simp only [loadMemberCount, journalSload, Exec.run_bind, Exec.run_gets,
    Exec.run_failIf, Exec.run_pure, read, if_neg within, lowLimb_ofNat bounded]

theorem run_loadValidatorRaw {count : Nat} (holds : Holds host storage index member)
    (counted : storage (Slot.key host .count) = BitVec.ofNat 256 count)
    (bounded : count ≤ 64) (within : index < count)
    (nonzero : member.address ≠ 0) (fits : (utf8 member.route).length ≤ 32) :
    (loadValidatorRaw host member.address).run storage =
      (.ok (some (member.stored index)), storage) := by
  have key : storage (mappingSlot host member.address
      slotValidatorsMappingBase + 1) = member.consensusKey := holds.words 1
  have placed : storage (mappingSlot host member.address
      slotValidatorsMappingBase + 2) = BitVec.ofNat 256 index := holds.words 2
  have length : storage (mappingSlot host member.address slotValidatorsMappingBase + 3) =
        BitVec.ofNat 256 (utf8 member.route).length := holds.words 3
  have route : storage (mappingSlot host member.address
      slotValidatorsMappingBase + 4) = paddedRoute (utf8 member.route) := holds.words 4
  have element : storage (arrayElementSlot host slotValidatorsArrayBase
      (UInt64.ofNat index)) = addressToPaddedU256 member.address := holds.element
  have packed : storage (mappingSlot host member.address slotValidatorsMappingBase) =
        packAddressActive member.address member.active := by
    rw [← Slot.key_field_zero]
    exact holds.words 0
  have present := packAddressActive_ne_zero nonzero member.active
  obtain ⟨status, zeros⟩ := packAddressActive_wellFormed member.address member.active
  have unpacked := unpackAddressActive_packAddressActive member.address member.active
  have identified : ¬ ((unpackAddressActive (packAddressActive member.address
      member.active)).1 ≠ member.address ∨
      (wordBytes 32 (packAddressActive member.address member.active)).getD 20 0 > 1 ∨
      ((wordBytes 32 (packAddressActive member.address
        member.active)).drop 21).any (fun byte => byte ≠ 0) = true) := by
    rintro (differs | large | trailing)
    · rw [unpacked] at differs
      exact differs rfl
    · exact status large
    · rw [zeros] at trailing
      cases trailing
  have inRange : ¬ BitVec.ofNat 256 index ≥ BitVec.ofNat 256 (UInt64.ofNat count).toNat := by
    rw [toNat_position bounded, ge_iff_le, not_le, ofNat_lt_iff (by omega) bounded]
    exact within
  have short : ¬ BitVec.ofNat 256 (utf8 member.route).length >
      BitVec.ofNat 256 maxP2pAddressLen := by
    have limit : maxP2pAddressLen ≤ 64 := by decide
    rw [gt_iff_lt, ofNat_lt_iff limit (by omega)]
    exact Nat.not_lt.mpr fits
  have readRoute : fromUtf8 ((wordBytes 32 (paddedRoute
      (utf8 member.route))).take (lowLimb (BitVec.ofNat 256
        (utf8 member.route).length)).toNat) = some member.route := by
    rw [lowLimb_ofNat (by omega), toNat_position (by omega), take_paddedRoute fits, fromUtf8_utf8]
  have counting := run_loadMemberCount bounded counted
  unfold loadValidatorRaw
  rw [run_journalSload_bind packed, if_neg present]
  dsimp only
  rw [Exec.run_failIf_bind identified, run_journalSload_bind key,
    run_journalSload_bind placed, Exec.run_bind_of_ok counting,
    Exec.run_failIf_bind inRange, lowLimb_ofNat (by omega),
    run_journalSload_bind element, Exec.run_failIf_bind (not_not_intro rfl),
    run_journalSload_bind length, Exec.run_failIf_bind short,
    run_journalSload_bind route, readRoute, unpacked]
  rfl

theorem run_loadValidatorRaw_absent (vacant : storage (Slot.key host (.field address 0)) = 0) :
    (loadValidatorRaw host address).run storage = (.ok none, storage) := by
  rw [Slot.key_field_zero] at vacant
  unfold loadValidatorRaw journalSload
  simp only [Exec.run_bind, Exec.run_gets, vacant, if_true, Exec.run_pure]

/-! ### Loading the members -/

variable (represents : Represents host storage members) (wellFormed : WellFormed host members)

include represents in
theorem Represents.holds (found : members[index]? = some member) :
    Holds host storage index member where
  words := represents.record index member found
  element := represents.position index member found

include represents wellFormed

theorem Represents.loadMemberCount :
    loadMemberCount.run storage = (.ok (UInt64.ofNat members.length), storage) :=
  run_loadMemberCount wellFormed.size represents.count

theorem Represents.loadMember (found : members[index]? = some member) :
    (loadValidatorRaw host member.address).run storage =
      (.ok (some (member.stored index)), storage) := by
  have listed : member ∈ members := List.mem_of_getElem? found
  have within : index < members.length := (List.getElem?_eq_some_iff.mp found).1
  exact run_loadValidatorRaw (represents.holds found) represents.count
    wellFormed.size within (wellFormed.nonzero member listed) (wellFormed.routes member listed)

omit wellFormed in
theorem Represents.loadAbsent (absent : ∀ member ∈ members, member.address ≠ address) :
    (loadValidatorRaw host address).run storage = (.ok none, storage) :=
  run_loadValidatorRaw_absent (represents.absent address absent 0)

theorem Represents.load (address : Address) :
    (∃ index, ∃ member : Member, members[index]? = some member ∧
        member.address = address ∧
          (loadValidatorRaw host address).run storage =
            (.ok (some (member.stored index)), storage)) ∨
      ((∀ member ∈ members, member.address ≠ address) ∧
        (loadValidatorRaw host address).run storage = (.ok none, storage)) := by
  by_cases listed : ∃ member ∈ members, member.address = address
  · obtain ⟨member, inMembers, rfl⟩ := listed
    obtain ⟨index, found⟩ := List.mem_iff_getElem?.mp inMembers
    exact .inl ⟨index, member, found, rfl, represents.loadMember wellFormed found⟩
  · have absent : ∀ member ∈ members, member.address ≠ address := by
      intro member inMembers same
      exact listed ⟨member, inMembers, same⟩
    exact .inr ⟨absent, represents.loadAbsent absent⟩

theorem Represents.loadAt {entries : List (Member × Nat)}
    (listed : ∀ entry ∈ entries, members[entry.2]? = some entry.1) :
    (loadValidatorsAt host (entries.map fun entry => UInt64.ofNat entry.2)).run storage =
      (.ok (entries.map fun entry => entry.1.info entry.2), storage) := by
  induction entries with
  | nil => rfl
  | cons entry rest ih =>
    obtain ⟨found, others⟩ := List.forall_mem_cons.mp listed
    have element := represents.position entry.2 entry.1 found
    have loaded := represents.loadMember wellFormed found
    have remaining := ih others
    change storage (arrayElementSlot host slotValidatorsArrayBase
      (UInt64.ofNat entry.2)) = _ at element
    rw [List.map_cons]
    unfold loadValidatorsAt
    rw [run_journalSload_bind element]
    dsimp only
    rw [u256ToAddress_addressToPaddedU256, Exec.run_bind_of_ok loaded]
    dsimp only
    have agrees : ¬ ((entry.1.stored entry.2).evmAddress ≠ entry.1.address ∨
        (entry.1.stored entry.2).index ≠ UInt64.ofNat entry.2) := by
      rintro (differs | moved)
      · exact differs rfl
      · exact moved rfl
    rw [Exec.run_failIf_bind agrees, Exec.run_bind_of_ok remaining]
    rfl

omit represents wellFormed in
/-- What the members look like when they are all loaded. -/
def infos (members : List Member) : List ValidatorInfo :=
  members.zipIdx.map fun entry => entry.1.info entry.2

theorem Represents.loadAllValidators :
    (loadAllValidators host).run storage = (.ok (infos members), storage) := by
  have counting := represents.loadMemberCount wellFormed
  have indices : (List.range (UInt64.ofNat members.length).toNat).map
      UInt64.ofNat = members.zipIdx.map fun entry => UInt64.ofNat entry.2 := by
    rw [toNat_position wellFormed.size, List.range_eq_range',
      ← List.zipIdx_map_snd 0 members, List.map_map]
    rfl
  have listed : ∀ entry ∈ members.zipIdx, members[entry.2]? = some entry.1 := by
    intro entry member
    exact List.mem_zipIdx_iff_getElem?.mp member
  have loaded := represents.loadAt wellFormed listed
  unfold ValidatorRegistry.loadAllValidators
  rw [Exec.run_bind_of_ok counting, indices]
  exact loaded

end Loading

/-! ## The committee -/

section Committee

variable {host : Host} {members : List Member}

def activeCount (members : List Member) : Nat :=
  members.countP Member.active

theorem length_activeMembers (members : List Member) :
    (activeMembers (infos members)).length = activeCount members := by
  unfold activeMembers infos activeCount
  rw [← List.countP_eq_length_filter, List.countP_map]
  calc members.zipIdx.countP (fun entry => entry.1.active)
      = (members.zipIdx.map Prod.fst).countP Member.active := List.countP_map.symm
    _ = members.countP Member.active := by rw [List.zipIdx_map_fst]

theorem any_consensusPubkey_iff {key : B256} :
    (infos members).any (fun existing => existing.consensusPubkey =
        hexText (wordBytes 32 key)) = true ↔ ∃ member ∈ members, member.consensusKey = key := by
  have sameKey : ∀ member : Member, ∀ index,
      (member.info index).consensusPubkey = hexText (wordBytes 32 key) ↔
        member.consensusKey = key := by
    intro member index
    rw [Member.info_consensusPubkey]
    constructor
    · intro sameText
      have sameBytes := congrArg utf8 sameText
      rw [utf8_hexText, utf8_hexText] at sameBytes
      exact (wordBytes_inj (by decide +kernel)).mp (hexEncode_injective sameBytes)
    · rintro rfl
      rfl
  rw [List.any_eq_true]
  simp only [decide_eq_true_eq]
  constructor
  · rintro ⟨existing, listed, same⟩
    obtain ⟨entry, inMembers, rfl⟩ := List.mem_map.mp listed
    exact ⟨entry.1, List.fst_mem_of_mem_zipIdx inMembers, (sameKey entry.1 entry.2).mp same⟩
  · rintro ⟨member, listed, same⟩
    obtain ⟨index, found⟩ := List.mem_iff_getElem?.mp listed
    have inMembers : (member, index) ∈ members.zipIdx := List.mem_zipIdx_iff_getElem?.mpr found
    exact ⟨member.info index, List.mem_map.mpr ⟨_, inMembers, rfl⟩, (sameKey member index).mpr same⟩

theorem decodeKeys_map {entries : List (Member × Nat)}
    (readable : ∀ entry ∈ entries, host.readsPublicKey entry.1.consensusKey = true) :
    decodeKeys host (activeMembers (entries.map fun entry => entry.1.info entry.2)) =
      .ok (((entries.map Prod.fst).filter Member.active).map fun member =>
        wordBytes 32 member.consensusKey) := by
  induction entries with
  | nil => rfl
  | cons entry rest ih =>
    obtain ⟨here, others⟩ := List.forall_mem_cons.mp readable
    have remaining := ih others
    unfold activeMembers at remaining ⊢
    rw [List.map_cons, List.map_cons]
    cases status : entry.1.active with
    | false =>
      rw [List.filter_cons_of_neg (by rw [Member.info_active, status]; simp),
        List.filter_cons_of_neg (by rw [status]; simp)]
      exact remaining
    | true =>
      rw [List.filter_cons_of_pos (by rw [Member.info_active, status]),
        List.filter_cons_of_pos status]
      have decoded : hexDecode (utf8 (entry.1.info entry.2).consensusPubkey) =
            some (wordBytes 32 entry.1.consensusKey) := by
        rw [Member.info_consensusPubkey, utf8_hexText, hexDecode_hexEncode]
      have full : ¬ (wordBytes 32 entry.1.consensusKey).length ≠ 32 :=
        not_not_intro (length_wordBytes _)
      have valid : ¬ host.readsPublicKey (wordOf 256
          (wordBytes 32 entry.1.consensusKey)) = false := by
        rw [wordOf_wordBytes (by decide +kernel), here]
        decide
      unfold decodeKeys
      rw [decoded]
      dsimp only
      rw [if_neg full, if_neg valid, remaining]
      rfl

theorem decodeKeys_infos (readable : ∀ member ∈ members,
      host.readsPublicKey member.consensusKey = true) :
    decodeKeys host (activeMembers (infos members)) =
      .ok ((members.filter Member.active).map fun member =>
        wordBytes 32 member.consensusKey) := by
  unfold infos
  rw [decodeKeys_map fun entry listed =>
    readable entry.1 (List.fst_mem_of_mem_zipIdx listed), List.zipIdx_map_fst]

theorem repeats_eq_false {keys : List Bytes} (distinct : keys.Nodup) : repeats keys = false := by
  induction keys with
  | nil => rfl
  | cons first rest ih =>
    obtain ⟨fresh, others⟩ := List.nodup_cons.mp distinct
    cases rest with
    | nil => rfl
    | cons second later =>
      unfold repeats
      have differs : ¬ first = second := by
        rintro rfl
        exact fresh List.mem_cons_self
      rw [decide_eq_false differs, Bool.false_or]
      exact ih others

theorem Represents.activeConsensusKeys {storage : Storage}
    (represents : Represents host storage members)
    (wellFormed : WellFormed host members) (active : 1 ≤ activeCount members) :
    ∃ keys, (activeConsensusKeys host).run storage = (.ok keys, storage) := by
  have loaded := represents.loadAllValidators wellFormed
  have decoded := decodeKeys_infos wellFormed.readable
  have distinct : ((members.filter Member.active).map fun member =>
      wordBytes 32 member.consensusKey).Nodup := by
    have all : (members.map fun member =>
        wordBytes 32 member.consensusKey).Nodup := by
      have mapped : (members.map fun member =>
          wordBytes 32 member.consensusKey) =
            (members.map Member.consensusKey).map (wordBytes 32) := by
        rw [List.map_map]
        rfl
      rw [mapped]
      apply wellFormed.keys.map
      intro first second same
      exact (wordBytes_inj (by decide +kernel)).mp same
    exact all.sublist (List.filter_sublist.map _)
  generalize keysEq : ((members.filter Member.active).map fun member =>
    wordBytes 32 member.consensusKey) = keys at decoded distinct
  have sortedKeys := List.perm_insertionSort (· ≤ ·) keys
  have sortedDistinct := sortedKeys.nodup_iff.mpr distinct
  have someKey : (keys.insertionSort (· ≤ ·)).length = activeCount members := by
    rw [sortedKeys.length_eq, ← keysEq, List.length_map, ← List.countP_eq_length_filter]
    rfl
  have accepted : ¬ ((keys.insertionSort (· ≤ ·)).isEmpty = true ∨
      repeats (keys.insertionSort (· ≤ ·)) = true) := by
    rintro (empty | repeated)
    · rw [List.isEmpty_iff.mp empty, List.length_nil] at someKey
      omega
    · rw [repeats_eq_false sortedDistinct] at repeated
      cases repeated
  refine ⟨keys.insertionSort (· ≤ ·), ?_⟩
  unfold ValidatorRegistry.activeConsensusKeys
  rw [Exec.run_bind_of_ok loaded, Exec.run_ofExcept_bind decoded]
  dsimp only
  rw [Exec.run_failIf_bind accepted]
  rfl

end Committee

/-! ## Writes -/

section Writes

variable {host : Host}

def write (host : Host) (storage : Storage) (slot : Slot) (value : U256) :
    Storage :=
  Function.update storage (Slot.key host slot) value

def writeRecord (host : Host) (storage : Storage) (address : Address)
    (words : Fin 5 → U256) : Storage :=
  let first := write host storage (.field address 0) (words 0)
  let second := write host first (.field address 1) (words 1)
  let third := write host second (.field address 2) (words 2)
  let fourth := write host third (.field address 3) (words 3)
  write host fourth (.field address 4) (words 4)

variable (separated : Separated host) {storage : Storage}

include separated

theorem read_write (slot other : Slot) (value : U256) :
    write host storage slot value (Slot.key host other) =
      if other = slot then value else storage (Slot.key host other) := by
  unfold write
  by_cases same : other = slot
  · rw [if_pos same, same, Function.update_self]
  · rw [if_neg same, Function.update_of_ne]
    exact fun collides => same (separated collides)

theorem read_write_of_ne {slot other : Slot} (differs : other ≠ slot) (value : U256) :
    write host storage slot value (Slot.key host other) =
      storage (Slot.key host other) := by
  rw [read_write separated, if_neg differs]

theorem read_writeRecord_of_ne {other : Slot}
    (differs : ∀ offset, other ≠ .field address offset) (words : Fin 5 → U256) :
    writeRecord host storage address words (Slot.key host other) =
      storage (Slot.key host other) := by
  unfold writeRecord
  simp only [read_write_of_ne separated (differs _)]

theorem read_writeRecord (address other : Address) (words : Fin 5 → U256) (offset : Fin 5) :
    writeRecord host storage address words (Slot.key host (.field other offset)) =
      if other = address then words offset else storage (Slot.key host (.field other offset)) := by
  by_cases same : other = address
  · unfold writeRecord
    simp only [read_write separated, Slot.field.injEq, same, true_and, if_true]
    match offset with
    | 0 => rfl
    | 1 => rfl
    | 2 => rfl
    | 3 => rfl
    | 4 => rfl
  · rw [if_neg same, read_writeRecord_of_ne separated]
    exact fun written field => same (Slot.field.inj field).1

omit separated in
theorem run_storeValidatorRaw (member : Member) (small : index ≤ 64) :
    (storeValidatorRaw host member.address member.consensusKey member.route
        member.active (UInt64.ofNat index)).run storage =
      (.ok (), writeRecord host storage member.address (member.word index)) := by
  unfold storeValidatorRaw writeRecord write
  rw [toNat_position small, Slot.key_field_zero]
  rfl

omit separated in
theorem run_clearValidator (address : Address) :
    (clearValidator host address).run storage =
      (.ok (), writeRecord host storage address fun _ => 0) := by
  rfl

end Writes

/-! ## Changes of the member list -/

section Changes

variable {host : Host} (separated : Separated host) {storage : Storage} {members : List Member}

theorem position_inj (firstSmall : first ≤ 64) (secondSmall : second ≤ 64) :
    UInt64.ofNat first = UInt64.ofNat second ↔ first = second := by
  constructor
  · intro same
    have numbers := congrArg UInt64.toNat same
    rw [toNat_position firstSmall, toNat_position secondSmall] at numbers
    exact numbers
  · rintro rfl
    rfl

theorem index_eq_of_address {other : Member}
    (distinct : (members.map Member.address).Nodup) (found : members[first]? = some member)
    (listed : members[second]? = some other)
    (same : member.address = other.address) : first = second := by
  have within : first < (members.map Member.address).length := by
    rw [List.length_map]
    exact (List.getElem?_eq_some_iff.mp found).1
  apply (List.getElem?_inj within distinct).mp
  rw [List.getElem?_map, List.getElem?_map, found, listed, Option.map_some, Option.map_some, same]

include separated

theorem Represents.rewrite {index : Nat} {old member : Member}
    (represents : Represents host storage members) (distinct : (members.map Member.address).Nodup)
    (found : members[index]? = some old) (same : member.address = old.address) :
    Represents host (writeRecord host storage member.address (member.word index))
      (members.set index member) := by
  have within : index < members.length := (List.getElem?_eq_some_iff.mp found).1
  have cases : ∀ position (other : Member),
      (members.set index member)[position]? = some other →
        (position = index ∧ other = member) ∨
          (members[position]? = some other ∧ other.address ≠ member.address) := by
    intro position other listed
    by_cases here : position = index
    · rw [here, List.getElem?_set_self within] at listed
      exact .inl ⟨here, (Option.some.inj listed).symm⟩
    · rw [List.getElem?_set_ne (Ne.symm here)] at listed
      refine .inr ⟨listed, fun sameAddress => here ?_⟩
      exact index_eq_of_address distinct listed found (sameAddress.trans same)
  refine ⟨?_, ?_, ?_, ?_, ?_⟩
  · rw [read_writeRecord_of_ne separated (by simp), List.length_set]
    exact represents.count
  · intro position other listed
    rw [read_writeRecord_of_ne separated (by simp)]
    rcases cases position other listed with ⟨rfl, rfl⟩ | ⟨kept, _⟩
    · rw [same]
      exact represents.position position old found
    · exact represents.position position other kept
  · intro position beyond
    rw [List.length_set] at beyond
    rw [read_writeRecord_of_ne separated (by simp)]
    exact represents.vacant position beyond
  · intro position other listed offset
    rcases cases position other listed with ⟨rfl, rfl⟩ | ⟨kept, differs⟩
    · rw [read_writeRecord separated, if_pos rfl]
    · rw [read_writeRecord separated, if_neg differs]
      exact represents.record position other kept offset
  · intro address absent offset
    have here : member ∈ members.set index member :=
      List.mem_of_getElem? (List.getElem?_set_self within)
    have differs : address ≠ member.address := (absent member here).symm
    rw [read_writeRecord separated, if_neg differs]
    apply represents.absent address
    intro other listed sameAddress
    obtain ⟨position, atPosition⟩ := List.mem_iff_getElem?.mp listed
    by_cases there : position = index
    · rw [there, found] at atPosition
      cases atPosition
      exact differs (sameAddress.symm.trans same.symm)
    · have kept : (members.set index member)[position]? = some other := by
        rw [List.getElem?_set_ne (Ne.symm there)]
        exact atPosition
      exact absent other (List.mem_of_getElem? kept) sameAddress

theorem Represents.append (represents : Represents host storage members)
    (room : members.length < 64) (fresh : ∀ other ∈ members, other.address ≠ member.address) :
    Represents host
      (write host
        (write host (writeRecord host storage member.address (member.word members.length))
          (.position (UInt64.ofNat members.length)) (addressToPaddedU256 member.address))
        .count (BitVec.ofNat 256 (members.length + 1)))
      (members ++ [member]) := by
  have cases : ∀ position (other : Member),
      (members ++ [member])[position]? = some other →
        (position < members.length ∧ members[position]? = some other) ∨
          (position = members.length ∧ other = member) := by
    intro position other listed
    by_cases early : position < members.length
    · rw [List.getElem?_append_left early] at listed
      exact .inl ⟨early, listed⟩
    · rw [List.getElem?_append_right (by omega)] at listed
      have here : position = members.length := by
        have within := (List.getElem?_eq_some_iff.mp listed).1
        rw [List.length_singleton] at within
        omega
      rw [here, Nat.sub_self] at listed
      exact .inr ⟨here, (Option.some.inj listed).symm⟩
  refine ⟨?_, ?_, ?_, ?_, ?_⟩
  · rw [read_write separated, if_pos rfl, List.length_append, List.length_singleton]
  · intro position other listed
    rw [read_write_of_ne separated (by simp), read_write separated]
    rcases cases position other listed with ⟨early, kept⟩ | ⟨rfl, rfl⟩
    · have elsewhere : ¬ Slot.position (UInt64.ofNat position) =
          .position (UInt64.ofNat members.length) := by
        rw [Slot.position.injEq, position_inj (by omega) (by omega)]
        omega
      rw [if_neg elsewhere, read_writeRecord_of_ne separated (by simp)]
      exact represents.position position other kept
    · rw [if_pos rfl]
  · intro position beyond
    rw [List.length_append, List.length_singleton] at beyond
    have elsewhere : Slot.position position ≠
        .position (UInt64.ofNat members.length) := by
      intro same
      have number := congrArg UInt64.toNat (Slot.position.inj same)
      rw [toNat_position (by omega)] at number
      omega
    rw [read_write_of_ne separated (by simp), read_write_of_ne separated elsewhere,
      read_writeRecord_of_ne separated (by simp)]
    exact represents.vacant position (by omega)
  · intro position other listed offset
    rw [read_write_of_ne separated (by simp), read_write_of_ne separated (by simp)]
    rcases cases position other listed with ⟨early, kept⟩ | ⟨rfl, rfl⟩
    · have differs := fresh other (List.mem_of_getElem? kept)
      rw [read_writeRecord separated, if_neg differs]
      exact represents.record position other kept offset
    · rw [read_writeRecord separated, if_pos rfl]
  · intro address absent offset
    have differs : address ≠ member.address := (absent member (by simp)).symm
    rw [read_write_of_ne separated (by simp), read_write_of_ne separated (by simp),
      read_writeRecord separated, if_neg differs]
    apply represents.absent address
    intro other listed
    exact absent other (List.mem_append_left _ listed)

omit separated in
/-- The last member moves to the place of the removed one, which may be its own. -/
theorem Represents.remove {removed last : Member} {final : Storage}
    (represents : Represents host storage members) (wellFormed : WellFormed host members)
    (found : members[index]? = some removed) (atEnd : members[members.length - 1]? = some last)
    (counted : final (Slot.key host .count) = BitVec.ofNat 256 (members.length - 1))
    (positions : ∀ place, final (Slot.key host (.position place)) =
      if place = UInt64.ofNat (members.length - 1) then 0
      else if place = UInt64.ofNat index then addressToPaddedU256 last.address
      else storage (Slot.key host (.position place)))
    (fields : ∀ address offset, final (Slot.key host (.field address offset)) =
      if address = removed.address then 0
      else if address = last.address then last.word index offset
      else storage (Slot.key host (.field address offset))) :
    Represents host final (members.set index last).dropLast := by
  have size : members.length ≤ 64 := wellFormed.size
  have within : index < members.length := (List.getElem?_eq_some_iff.mp found).1
  have kept : ∀ position (other : Member),
      (members.set index last).dropLast[position]? = some other ↔
        position < members.length - 1 ∧
          (position = index ∧ other = last ∨
            position ≠ index ∧ members[position]? = some other) := by
    intro position other
    rw [List.getElem?_dropLast, List.length_set, List.getElem?_set]
    grind
  have sameIndex : ∀ {position place : Nat} {other another : Member},
      members[position]? = some other → members[place]? = some another →
        other.address = another.address → position = place :=
    index_eq_of_address wellFormed.addresses
  refine ⟨?_, ?_, ?_, ?_, ?_⟩
  · rw [List.length_dropLast, List.length_set]
    exact counted
  · intro position other listed
    obtain ⟨early, place⟩ := (kept position other).mp listed
    have notEnd : UInt64.ofNat position ≠ UInt64.ofNat (members.length - 1) := by
      rw [ne_eq, position_inj (by omega) (by omega)]
      omega
    rw [positions, if_neg notEnd]
    rcases place with ⟨rfl, rfl⟩ | ⟨elsewhere, before⟩
    · rw [if_pos rfl]
    · rw [if_neg (by rw [position_inj (by omega) (by omega)]; exact elsewhere)]
      exact represents.position position other before
  · intro place beyond
    rw [List.length_dropLast, List.length_set] at beyond
    rw [positions]
    by_cases isEnd : place.toNat = members.length - 1
    · rw [if_pos (by rw [← isEnd, UInt64.ofNat_toNat])]
    · have past : ∀ position < members.length, place ≠ UInt64.ofNat position := by
        rintro position inside rfl
        rw [toNat_position (by omega)] at beyond isEnd
        omega
      rw [if_neg (past _ (by omega)), if_neg (past index within)]
      exact represents.vacant place (by omega)
  · intro position other listed offset
    obtain ⟨early, place⟩ := (kept position other).mp listed
    rw [fields]
    rcases place with ⟨rfl, rfl⟩ | ⟨elsewhere, before⟩
    · rw [if_neg fun same => by have := sameIndex atEnd found same; omega, if_pos rfl]
    · rw [if_neg fun same => elsewhere (sameIndex before found same),
        if_neg fun same => by have := sameIndex before atEnd same; omega]
      exact represents.record position other before offset
  · intro address absent offset
    rw [fields]
    by_cases gone : address = removed.address
    · rw [if_pos gone]
    have remains : ∀ (position : Nat) (other : Member), members[position]? = some other →
        other.address ≠ address := by
      intro position other there same
      have inside := (List.getElem?_eq_some_iff.mp there).1
      have moved : ∃ place : Nat, (members.set index last).dropLast[place]? = some other := by
        by_cases isEnd : position = members.length - 1
        · subst isEnd
          rw [there] at atEnd
          cases atEnd
          refine ⟨index, (kept _ _).mpr ⟨?_, .inl ⟨rfl, rfl⟩⟩⟩
          by_contra notBefore
          have isLast : index = members.length - 1 := by omega
          rw [isLast, there] at found
          cases found
          exact gone same.symm
        · refine ⟨position, (kept _ _).mpr ⟨by omega, .inr ⟨?_, there⟩⟩⟩
          rintro rfl
          rw [there] at found
          cases found
          exact gone same.symm
      obtain ⟨place, listed⟩ := moved
      exact absent other (List.mem_of_getElem? listed) same
    rw [if_neg gone, if_neg fun same => remains _ last atEnd same.symm]
    apply represents.absent address
    intro other listed
    obtain ⟨position, there⟩ := List.mem_iff_getElem?.mp listed
    exact remains position other there

end Changes

end VeraHub.Executor.ValidatorRegistry
