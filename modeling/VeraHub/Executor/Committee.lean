import VeraHub.Executor.MembershipRuns

/-!
# The committee over whole runs

The steps of the members keep them distinct and keep somebody active within the
capacity of an epoch.  Genesis storage represents its validators.  So after every
sequence of dispatches array and records agree, and the roster can be read.
-/

namespace VeraHub.Executor.ValidatorRegistry

/-! ## Members over a step -/

variable {index : Nat} {address : Address}

section Members

variable {host : Host} {maxActiveMembers : Nat} {storage : Storage}
  {dispatch : Dispatch} {members after : List Member}

/-- Between one and the maximal number of members are active. -/
def Staffed (maxActiveMembers : Nat) (members : List Member) : Prop :=
  1 ≤ activeCount members ∧ activeCount members ≤ maxActiveMembers

/-- Moving the last member into the place of the removed one removes just that
one. -/
theorem swapRemove_perm {removed last : Member}
    (found : members[index]? = some removed) (atEnd : members[members.length - 1]? = some last) :
    (removed :: (members.set index last).dropLast).Perm members := by
  obtain ⟨init, rfl⟩ : ∃ init, members = init ++ [last] := by
    rw [← List.getLast?_eq_getElem?] at atEnd
    exact List.getLast?_eq_some_iff.mp atEnd
  by_cases early : index < init.length
  · rw [List.getElem?_append_left early] at found
    obtain ⟨_, element⟩ := List.getElem?_eq_some_iff.mp found
    rw [List.set_append_left _ _ early, List.dropLast_concat]
    have moved : (init.set index last).Perm (last :: init.eraseIdx index) :=
      List.set_perm_cons_eraseIdx early last
    have kept : (removed :: init.eraseIdx index).Perm init := by
      rw [← element]
      exact List.getElem_cons_eraseIdx_perm early
    have swapped : (removed :: last :: init.eraseIdx index).Perm
        (last :: removed :: init.eraseIdx index) := List.Perm.swap _ _ _
    have atFront : (removed :: init.set index last).Perm (last :: init) :=
      ((moved.cons removed).trans swapped).trans (kept.cons last)
    exact atFront.trans (List.perm_append_singleton _ _).symm
  · have within := (List.getElem?_eq_some_iff.mp found).1
    rw [List.length_append, List.length_singleton] at within
    have isLast : index = init.length := by omega
    rw [isLast, List.getElem?_concat_length] at found
    rw [isLast, List.set_append_right _ _ (Nat.le_refl _), Nat.sub_self,
      List.set_cons_zero, List.dropLast_concat, Option.some.inj found]
    exact (List.perm_append_singleton _ _).symm

theorem activeCount_set {index : Nat} {old member : Member} (found : members[index]? = some old) :
    activeCount (members.set index member) + (if old.active then 1 else 0) =
      activeCount members + (if member.active then 1 else 0) := by
  obtain ⟨within, element⟩ := List.getElem?_eq_some_iff.mp found
  have replaced : (members.set index member).Perm (member :: members.eraseIdx index) :=
    List.set_perm_cons_eraseIdx within member
  have original : (old :: members.eraseIdx index).Perm members := by
    rw [← element]
    exact List.getElem_cons_eraseIdx_perm within
  unfold activeCount
  rw [replaced.countP_eq, ← original.countP_eq, List.countP_cons, List.countP_cons]
  omega

/-- A column that the new member shares with the old one does not change. -/
theorem map_set_of_eq {α : Type} (column : Member → α)
    {old member : Member} (found : members[index]? = some old) (same : column member = column old) :
    (members.set index member).map column = members.map column := by
  obtain ⟨within, element⟩ := List.getElem?_eq_some_iff.mp found
  rw [List.map_set, same, ← element]
  have inMap : index < (members.map column).length := by
    rw [List.length_map]
    exact within
  have entry : column members[index] = (members.map column)[index] :=
    List.getElem_map column |>.symm
  rw [entry, List.set_getElem_self]

theorem WellFormed.of_perm_cons {removed : Member} (wellFormed : WellFormed host members)
    (perm : (removed :: after).Perm members) : WellFormed host after := by
  have listed : ∀ member ∈ after, member ∈ members := by
    intro member kept
    exact perm.mem_iff.mp (List.mem_cons_of_mem removed kept)
  have addresses := (perm.map Member.address).nodup_iff.mpr wellFormed.addresses
  have keys := (perm.map Member.consensusKey).nodup_iff.mpr wellFormed.keys
  refine ⟨?_, ?_, ?_, ?_, ?_, ?_⟩
  · exact fun member kept => wellFormed.nonzero member (listed member kept)
  · exact (List.nodup_cons.mp addresses).2
  · exact (List.nodup_cons.mp keys).2
  · exact fun member kept => wellFormed.readable member (listed member kept)
  · exact fun member kept => wellFormed.routes member (listed member kept)
  · have size := wellFormed.size
    rw [← perm.length_eq, List.length_cons] at size
    omega

theorem WellFormed.append {member : Member}
    (wellFormed : WellFormed host members) (nonzero : member.address ≠ 0)
    (readable : host.readsPublicKey member.consensusKey = true)
    (fits : (utf8 member.route).length ≤ 32)
    (fresh : ∀ other ∈ members, other.address ≠ member.address)
    (unused : ∀ other ∈ members, other.consensusKey ≠ member.consensusKey)
    (room : members.length < 64) : WellFormed host (members ++ [member]) := by
  have forall_append : ∀ property : Member → Prop,
      (∀ other ∈ members, property other) → property member →
        ∀ other ∈ members ++ [member], property other :=
    fun property before here =>
      List.forall_mem_append.mpr ⟨before, List.forall_mem_singleton.mpr here⟩
  have distinct : ∀ {α : Type} (column : Member → α),
      (members.map column).Nodup →
        (∀ other ∈ members, column other ≠ column member) →
          ((members ++ [member]).map column).Nodup := by
    intro α column before differs
    rw [List.map_append, List.map_singleton, ← List.concat_eq_append]
    refine before.concat fun listed => ?_
    obtain ⟨other, early, same⟩ := List.mem_map.mp listed
    exact differs other early same
  refine ⟨?_, ?_, ?_, ?_, ?_, ?_⟩
  · exact forall_append _ wellFormed.nonzero nonzero
  · exact distinct _ wellFormed.addresses fresh
  · exact distinct _ wellFormed.keys unused
  · exact forall_append _ wellFormed.readable readable
  · exact forall_append _ wellFormed.routes fits
  · rw [List.length_append, List.length_singleton]
    exact room

theorem WellFormed.rewrite {index : Nat} {old member : Member}
    (wellFormed : WellFormed host members) (found : members[index]? = some old)
    (sameAddress : member.address = old.address) (sameKey : member.consensusKey = old.consensusKey)
    (fits : (utf8 member.route).length ≤ 32) :
    WellFormed host (members.set index member) := by
  have listed : old ∈ members := List.mem_of_getElem? found
  have forall_set : ∀ property : Member → Prop,
      (∀ other ∈ members, property other) → property member →
        ∀ other ∈ members.set index member, property other := by
    intro property before here other kept
    rcases List.mem_or_eq_of_mem_set kept with early | rfl
    · exact before other early
    · exact here
  refine ⟨?_, ?_, ?_, ?_, ?_, ?_⟩
  · apply forall_set _ wellFormed.nonzero
    rw [sameAddress]
    exact wellFormed.nonzero old listed
  · rw [map_set_of_eq Member.address found sameAddress]
    exact wellFormed.addresses
  · rw [map_set_of_eq Member.consensusKey found sameKey]
    exact wellFormed.keys
  · apply forall_set _ wellFormed.readable
    rw [sameKey]
    exact wellFormed.readable old listed
  · exact forall_set _ wellFormed.routes fits
  · rw [List.length_set]
    exact wellFormed.size

theorem Step.wellFormed (wellFormed : WellFormed host members)
    (step : Step host maxActiveMembers storage dispatch members after) :
    WellFormed host after := by
  cases step with
  | kept => exact wellFormed
  | added subject active nonzero readable fits fresh unused room capacity =>
    exact wellFormed.append nonzero readable fits fresh unused room
  | removed called found atEnd staffed =>
    exact wellFormed.of_perm_cons (swapRemove_perm found atEnd)
  | rewritten subject found sameAddress sameKey fits staffed capacity =>
    exact wellFormed.rewrite found sameAddress sameKey fits

theorem Step.staffed (staffed : Staffed maxActiveMembers members)
    (step : Step host maxActiveMembers storage dispatch members after) :
    Staffed maxActiveMembers after := by
  cases step with
  | kept => exact staffed
  | added subject active nonzero readable fits fresh unused room capacity =>
    rename_i member
    have counted : activeCount (members ++ [member]) = activeCount members + 1 := by
      unfold activeCount
      rw [List.countP_append, List.countP_singleton, if_pos active]
    unfold Staffed at *
    rw [counted]
    omega
  | removed called found atEnd someoneLeft =>
    rename_i index removed last
    have counted : activeCount (members.set index last).dropLast +
        (if removed.active then 1 else 0) = activeCount members := by
      unfold activeCount
      rw [← (swapRemove_perm found atEnd).countP_eq, List.countP_cons]
    unfold Staffed at *
    split at counted
    · rename_i active
      have left := someoneLeft active
      omega
    · omega
  | rewritten subject found sameAddress sameKey fits someoneLeft capacity =>
    rename_i index old member
    have counted := @activeCount_set members index old member found
    unfold Staffed at *
    cases wasActive : old.active with
    | true =>
      cases active : member.active with
      | true =>
        rw [wasActive, active] at counted
        omega
      | false =>
        have left := someoneLeft wasActive active
        rw [wasActive, active, if_pos rfl, if_neg (by simp)] at counted
        omega
    | false =>
      cases active : member.active with
      | true =>
        have room := capacity wasActive active
        rw [wasActive, active, if_pos rfl, if_neg (by simp)] at counted
        omega
      | false =>
        rw [wasActive, active] at counted
        omega

/-! ## Other members -/

/-- A member that the step is not about stays where it is, unless it is the last
one and takes the place of a removed one. -/
theorem Step.keeps {position : Nat} {other : Member}
    (step : Step host maxActiveMembers storage dispatch members after)
    (found : members[position]? = some other)
    (untouched : touched host storage dispatch ≠ some other.address) :
    after[position]? = some other ∨
      (∃ removed, dispatch.call = .removeValidator removed) ∧
        position = members.length - 1 ∧ ∃ place : Nat, after[place]? = some other := by
  have within : position < members.length := (List.getElem?_eq_some_iff.mp found).1
  cases step with
  | kept => exact .inl found
  | added subject active nonzero readable fits fresh unused room capacity =>
    left
    rw [List.getElem?_append_left within]
    exact found
  | removed called gone atEnd staffed =>
    rename_i index removed last
    have present : index < members.length := (List.getElem?_eq_some_iff.mp gone).1
    have elsewhere : position ≠ index := by
      rintro rfl
      rw [gone] at found
      cases found
      apply untouched
      rw [touched, called]
    by_cases isLast : position = members.length - 1
    · right
      refine ⟨⟨_, called⟩, isLast, index, ?_⟩
      rw [isLast, atEnd] at found
      rw [List.getElem?_dropLast, List.length_set, if_pos (by omega),
        List.getElem?_set_self present]
      exact found
    · left
      rw [List.getElem?_dropLast, List.length_set, if_pos (by omega),
        List.getElem?_set_ne (Ne.symm elsewhere)]
      exact found
  | rewritten subject gone sameAddress sameKey fits staffed capacity =>
    rename_i index old member
    have elsewhere : position ≠ index := by
      rintro rfl
      rw [gone] at found
      cases found
      exact untouched (sameAddress ▸ subject)
    left
    rw [List.getElem?_set_ne (Ne.symm elsewhere)]
    exact found

theorem Step.newcomer (step : Step host maxActiveMembers storage dispatch members after)
    (absent : ∀ member ∈ members, member.address ≠ address)
    (untouched : touched host storage dispatch ≠ some address) :
    ∀ member ∈ after, member.address ≠ address := by
  cases step with
  | kept => exact absent
  | added subject active nonzero readable fits fresh unused room capacity =>
    intro member listed same
    rcases List.mem_append.mp listed with early | last
    · exact absent member early same
    · rw [List.mem_singleton.mp last] at same
      exact untouched (same ▸ subject)
  | removed called gone atEnd staffed =>
    intro member listed
    apply absent member
    rw [← (swapRemove_perm gone atEnd).mem_iff]
    exact List.mem_cons_of_mem _ listed
  | rewritten subject gone sameAddress sameKey fits staffed capacity =>
    intro member listed same
    rcases List.mem_or_eq_of_mem_set listed with early | rfl
    · exact absent member early same
    · exact untouched (same ▸ subject)

variable (host storage dispatch) in
def MovedByRemoval (address : Address) : Prop :=
  (∃ removed, dispatch.call = .removeValidator removed) ∧
    storage (Slot.key host (.position
      (lowLimb (storage (Slot.key host .count)) - 1))) = addressToPaddedU256 address

theorem Member.word_of_ne {offset : Fin 5} (differs : offset ≠ 2)
    (member : Member) (first second : Nat) :
    member.word first offset = member.word second offset := by
  match offset, differs with
  | 0, _ => rfl
  | 1, _ => rfl
  | 2, differs => exact (differs rfl).elim
  | 3, _ => rfl
  | 4, _ => rfl

theorem Step.frame {final : Storage}
    (step : Step host maxActiveMembers storage dispatch members after)
    (wellFormed : WellFormed host members) (before : Represents host storage members)
    (afterwards : Represents host final after)
    (untouched : touched host storage dispatch ≠ some address) {offset : Fin 5}
    (unmoved : offset = 2 → ¬ MovedByRemoval host storage dispatch address) :
    final (Slot.key host (.field address offset)) =
      storage (Slot.key host (.field address offset)) := by
  by_cases listed : ∃ member ∈ members, member.address = address
  · obtain ⟨other, isMember, rfl⟩ := listed
    obtain ⟨position, found⟩ := List.mem_iff_getElem?.mp isMember
    rw [before.record position other found]
    rcases step.keeps found untouched with
      stays | ⟨removal, isLast, place, moved⟩
    · exact afterwards.record position other stays offset
    · have notPosition : offset ≠ 2 := by
        intro isPosition
        apply unmoved isPosition
        have size : members.length ≤ 64 := wellFormed.size
        have within : position < members.length := (List.getElem?_eq_some_iff.mp found).1
        refine ⟨removal, ?_⟩
        rw [before.count, lowLimb_ofNat size, position_pred (by omega) size, ← isLast]
        exact before.position position other found
      rw [afterwards.record place other moved]
      exact Member.word_of_ne notPosition other place position
  · have absent : ∀ member ∈ members, member.address ≠ address :=
      fun member isMember same => listed ⟨member, isMember, same⟩
    rw [before.absent address absent, afterwards.absent address (step.newcomer absent untouched)]

end Members

/-! ## Genesis -/

variable {slot : Slot} {value : U256}

section Genesis

variable {host : Host} {validators : List GenesisValidator} {policyIdHash : B256}

def GenesisValidator.member (validator : GenesisValidator) : Member where
  address := validator.evmAddress
  consensusKey := validator.consensusPubkey
  route := validator.p2pAddress
  active := true

/-- The entries of a member, with the slots they are for. -/
def Member.entries (member : Member) (index : Nat) : List (Slot × U256) :=
  (.position (UInt64.ofNat index), addressToPaddedU256 member.address) ::
    (List.finRange 5).map fun offset =>
      (.field member.address offset, member.word index offset)

/-- The entries of the genesis, with the slots they are for. -/
def genesisSlots (validators : List GenesisValidator) (policyIdHash : B256) : List (Slot × U256) :=
  (.policyId, policyIdHash) ::
    (.count, BitVec.ofNat 256 validators.length) ::
      validators.zipIdx.flatMap fun entry => entry.1.member.entries entry.2

theorem genesisStorageEntries_eq :
    genesisStorageEntries host validators policyIdHash =
      (genesisSlots validators policyIdHash).map fun entry =>
        (entry.1.key host, entry.2) := by
  have perMember : ∀ entry : GenesisValidator × Nat, entry ∈ validators.zipIdx →
      genesisEntries host entry.1 entry.2 = (entry.1.member.entries entry.2).map fun entry =>
        (entry.1.key host, entry.2) := by
    intro entry _
    have first := @Slot.key_field_zero host entry.1.evmAddress
    exact List.cons_eq_cons.mpr ⟨rfl, List.cons_eq_cons.mpr ⟨Prod.ext first.symm rfl, rfl⟩⟩
  unfold genesisStorageEntries genesisSlots
  rw [List.map_cons, List.map_cons, List.map_flatMap]
  exact congrArg _ (congrArg _ (List.flatMap_congr perMember))

variable {entries : List (Slot × U256)}

theorem read_foldl_of_forall_ne (separated : Separated host)
    (others : ∀ entry ∈ entries, entry.1 ≠ slot) (storage : Storage) :
    entries.foldl (fun storage entry => write host storage entry.1 entry.2)
        storage (slot.key host) =
      storage (slot.key host) := by
  induction entries generalizing storage with
  | nil => rfl
  | cons entry rest ih =>
    have later : ∀ entry ∈ rest, entry.1 ≠ slot :=
      fun entry listed => others entry (List.mem_cons_of_mem _ listed)
    have first : entry.1 ≠ slot := others entry List.mem_cons_self
    rw [List.foldl_cons, ih later, read_write_of_ne separated first.symm]

theorem read_foldl_of_mem (separated : Separated host) (listed : (slot, value) ∈ entries)
    (agree : ∀ other, (slot, other) ∈ entries → other = value) (storage : Storage) :
    entries.foldl (fun storage entry => write host storage entry.1 entry.2)
        storage (slot.key host) = value := by
  induction entries generalizing storage with
  | nil => exact (nomatch listed)
  | cons entry rest ih =>
    rw [List.foldl_cons]
    by_cases later : (slot, value) ∈ rest
    · apply ih later
      exact fun other inRest => agree other (List.mem_cons_of_mem _ inRest)
    · have first : entry = (slot, value) := by
        rcases List.mem_cons.mp listed with same | inRest
        · exact same.symm
        · exact (later inRest).elim
      have others : ∀ entry ∈ rest, entry.1 ≠ slot := by
        rintro ⟨_, other⟩ inRest rfl
        apply later
        rw [← agree other (List.mem_cons_of_mem _ inRest)]
        exact inRest
      rw [read_foldl_of_forall_ne separated others, first, read_write separated, if_pos rfl]

theorem mem_entries_iff {member : Member} :
    (slot, value) ∈ member.entries index ↔
      (slot = .position (UInt64.ofNat index) ∧ value = addressToPaddedU256 member.address) ∨
      ∃ offset, slot = .field member.address offset ∧ value = member.word index offset := by
  unfold Member.entries
  rw [List.mem_cons, Prod.mk.injEq, List.mem_map]
  constructor
  · rintro (here | ⟨offset, _, same⟩)
    · exact .inl here
    · cases same
      exact .inr ⟨offset, rfl, rfl⟩
  · rintro (here | ⟨offset, rfl, rfl⟩)
    · exact .inl here
    · exact .inr ⟨offset, List.mem_finRange offset, rfl⟩

theorem mem_genesisSlots_iff :
    (slot, value) ∈ genesisSlots validators policyIdHash ↔
      (slot = .policyId ∧ value = policyIdHash) ∨
      (slot = .count ∧ value = BitVec.ofNat 256 validators.length) ∨
      ∃ index, ∃ member : Member,
        (validators.map GenesisValidator.member)[index]? =
          some member ∧ (slot, value) ∈ member.entries index := by
  unfold genesisSlots
  rw [List.mem_cons, List.mem_cons, Prod.mk.injEq, Prod.mk.injEq, List.mem_flatMap]
  have members : (∃ entry ∈ validators.zipIdx, (slot, value) ∈ entry.1.member.entries entry.2) ↔
      ∃ index, ∃ member : Member,
        (validators.map GenesisValidator.member)[index]? =
          some member ∧ (slot, value) ∈ member.entries index := by
    constructor
    · rintro ⟨⟨validator, index⟩, listed, inEntries⟩
      refine ⟨index, validator.member, ?_, inEntries⟩
      rw [List.getElem?_map, List.mem_zipIdx_iff_getElem?.mp listed]
      rfl
    · rintro ⟨index, member, found, inEntries⟩
      rw [List.getElem?_map] at found
      obtain ⟨validator, atIndex, rfl⟩ := Option.map_eq_some_iff.mp found
      exact ⟨(validator, index), List.mem_zipIdx_iff_getElem?.mpr atIndex, inEntries⟩
  rw [members]

/-- The entries of members with distinct addresses agree on every slot. -/
theorem genesisSlots_agree (size : validators.length ≤ 64)
    (distinct : (validators.map GenesisValidator.evmAddress).Nodup) {first second : U256}
    (isFirst : (slot, first) ∈ genesisSlots validators policyIdHash)
    (isSecond : (slot, second) ∈ genesisSlots validators policyIdHash) : second = first := by
  have addresses : ((validators.map GenesisValidator.member).map Member.address).Nodup := by
    rw [List.map_map]
    exact distinct
  have bound : ∀ index (member : Member),
      (validators.map GenesisValidator.member)[index]? = some member → index ≤ 64 := by
    intro index member found
    have within := (List.getElem?_eq_some_iff.mp found).1
    rw [List.length_map] at within
    exact within.le.trans size
  rw [mem_genesisSlots_iff] at isFirst isSecond
  simp only [mem_entries_iff] at isFirst isSecond
  cases slot with
  | policyId =>
    simp only [reduceCtorEq, true_and, false_and, exists_false, and_false, or_false] at *
    rw [isFirst, isSecond]
  | count =>
    simp only [reduceCtorEq, true_and, false_and, exists_false, and_false, or_false,
      false_or] at *
    rw [isFirst, isSecond]
  | position place =>
    simp only [reduceCtorEq, false_and, exists_false, or_false, false_or,
      Slot.position.injEq] at isFirst isSecond
    obtain ⟨index, member, found, rfl, rfl⟩ := isFirst
    obtain ⟨position, other, there, same, rfl⟩ := isSecond
    rw [position_inj (bound _ _ found) (bound _ _ there)] at same
    rw [← same, found] at there
    rw [Option.some.inj there]
  | field address offset =>
    simp only [reduceCtorEq, false_and, false_or, Slot.field.injEq] at isFirst isSecond
    obtain ⟨index, member, found, _, ⟨rfl, rfl⟩, rfl⟩ := isFirst
    obtain ⟨position, other, there, _, ⟨sameAddress, rfl⟩, rfl⟩ := isSecond
    have here := index_eq_of_address addresses found there sameAddress
    rw [← here, found] at there
    rw [Option.some.inj there, here]

theorem genesis_represents (separated : Separated host) (size : validators.length ≤ 64)
    (distinct : (validators.map GenesisValidator.evmAddress).Nodup) :
    Represents host (genesisStorage host validators policyIdHash)
      (validators.map GenesisValidator.member) := by
  have written : genesisStorage host validators policyIdHash =
      (genesisSlots validators policyIdHash).foldl
        (fun storage entry => write host storage entry.1 entry.2) fun _ => 0 := by
    unfold genesisStorage
    rw [genesisStorageEntries_eq, List.foldl_map]
    rfl
  have reads : ∀ {slot : Slot} {value : U256},
      (slot, value) ∈ genesisSlots validators policyIdHash →
        genesisStorage host validators policyIdHash (slot.key host) =
          value := by
    intro slot value listed
    rw [written]
    apply read_foldl_of_mem separated listed
    intro other also
    exact genesisSlots_agree size distinct listed also
  have empty : ∀ {slot : Slot},
      (∀ value, (slot, value) ∉ genesisSlots validators policyIdHash) →
        genesisStorage host validators policyIdHash (slot.key host) = 0 := by
    intro slot unlisted
    rw [written, read_foldl_of_forall_ne separated]
    rintro ⟨_, value⟩ listed rfl
    exact unlisted value listed
  refine ⟨?_, ?_, ?_, ?_, ?_⟩
  · rw [List.length_map]
    exact reads (mem_genesisSlots_iff.mpr (.inr (.inl ⟨rfl, rfl⟩)))
  · intro index member found
    apply reads
    rw [mem_genesisSlots_iff]
    exact .inr (.inr ⟨index, member, found, mem_entries_iff.mpr (.inl ⟨rfl, rfl⟩)⟩)
  · intro index beyond
    apply empty
    intro value listed
    simp only [mem_genesisSlots_iff, mem_entries_iff, reduceCtorEq, false_and, exists_false,
      or_false, false_or, Slot.position.injEq] at listed
    obtain ⟨position, member, found, rfl, _⟩ := listed
    have within := (List.getElem?_eq_some_iff.mp found).1
    rw [List.length_map] at within beyond
    rw [toNat_position (by omega)] at beyond
    omega
  · intro index member found offset
    apply reads
    rw [mem_genesisSlots_iff]
    exact .inr (.inr ⟨index, member, found, mem_entries_iff.mpr (.inr ⟨offset, rfl, rfl⟩)⟩)
  · intro address absent offset
    apply empty
    intro value listed
    simp only [mem_genesisSlots_iff, mem_entries_iff, reduceCtorEq, false_and, false_or,
      Slot.field.injEq] at listed
    obtain ⟨position, member, found, _, ⟨sameAddress, _⟩, _⟩ := listed
    exact absent member (List.mem_of_getElem? found) sameAddress.symm

end Genesis

/-! ## Runs -/

section Runs

variable {host : Host} {maxActiveMembers : Nat} {storage : Storage} {members : List Member}

/-- A committee the registry may start with. -/
structure SoundGenesis (host : Host) (maxActiveMembers : Nat)
    (validators : List GenesisValidator) : Prop where
  nonempty : 1 ≤ validators.length
  size : validators.length ≤ maxDkgParticipants
  capacity : validators.length ≤ maxActiveMembers
  nonzero : ∀ validator ∈ validators, validator.evmAddress ≠ 0
  addresses : (validators.map GenesisValidator.evmAddress).Nodup
  keys : (validators.map GenesisValidator.consensusPubkey).Nodup
  readable : ∀ validator ∈ validators, host.readsPublicKey validator.consensusPubkey = true
  routes : ∀ validator ∈ validators, (utf8 validator.p2pAddress).length ≤ maxP2pAddressLen

/-- Array and records agree, and nothing is left over in the storage. -/
structure Consistent (host : Host) (storage : Storage) : Prop where
  count : (storage (Slot.key host .count)).toNat ≤ maxDkgParticipants
  recorded : ∀ index : UInt64,
    index.toNat < (storage (Slot.key host .count)).toNat →
      ∃ address, storage (Slot.key host (.position index)) = addressToPaddedU256 address ∧
        storage (Slot.key host (.field address 0)) ≠ 0 ∧
        storage (Slot.key host (.field address 2)) = BitVec.ofNat 256 index.toNat
  listed : ∀ address, storage (Slot.key host (.field address 0)) ≠ 0 →
    ∃ index : UInt64, index.toNat < (storage (Slot.key host .count)).toNat ∧
      storage (Slot.key host (.position index)) = addressToPaddedU256 address
  vacant : ∀ index : UInt64,
    (storage (Slot.key host .count)).toNat ≤ index.toNat →
      storage (Slot.key host (.position index)) = 0
  cleared : ∀ address, storage (Slot.key host (.field address 0)) = 0 →
    ∀ offset, storage (Slot.key host (.field address offset)) = 0
  keys : ∀ first second, storage (Slot.key host (.field first 0)) ≠ 0 →
    storage (Slot.key host (.field second 0)) ≠ 0 →
    storage (Slot.key host (.field first 1)) = storage (Slot.key host (.field second 1)) →
    first = second

theorem Represents.recorded_iff (represents : Represents host storage members)
    (wellFormed : WellFormed host members) :
    storage (Slot.key host (.field address 0)) ≠ 0 ↔
      ∃ member ∈ members, member.address = address := by
  constructor
  · intro recorded
    by_contra unlisted
    apply recorded
    apply represents.absent
    intro member listed same
    exact unlisted ⟨member, listed, same⟩
  · rintro ⟨member, listed, rfl⟩
    obtain ⟨index, found⟩ := List.mem_iff_getElem?.mp listed
    rw [represents.record index member found]
    exact packAddressActive_ne_zero (wellFormed.nonzero member listed) _

theorem Represents.consistent (represents : Represents host storage members)
    (wellFormed : WellFormed host members) : Consistent host storage := by
  have size : members.length ≤ 64 := wellFormed.size
  have counted : (storage (Slot.key host .count)).toNat = members.length := by
    rw [represents.count, BitVec.toNat_ofNat, Nat.mod_eq_of_lt]
    omega
  refine ⟨?_, ?_, ?_, ?_, ?_, ?_⟩
  · rw [counted]
    exact size
  · intro index within
    rw [counted] at within
    have found : members[index.toNat]? = some members[index.toNat] :=
      List.getElem?_eq_getElem within
    have element := represents.position _ _ found
    rw [UInt64.ofNat_toNat] at element
    refine ⟨_, element, ?_, represents.record _ _ found 2⟩
    rw [represents.recorded_iff wellFormed]
    exact ⟨_, List.mem_of_getElem? found, rfl⟩
  · intro address recorded
    obtain ⟨member, listed, rfl⟩ := (represents.recorded_iff wellFormed).mp recorded
    obtain ⟨index, found⟩ := List.mem_iff_getElem?.mp listed
    have within := (List.getElem?_eq_some_iff.mp found).1
    refine ⟨UInt64.ofNat index, ?_, represents.position index member found⟩
    rw [counted, toNat_position (by omega)]
    exact within
  · intro index beyond
    rw [counted] at beyond
    exact represents.vacant index beyond
  · intro address empty
    apply represents.absent
    intro member listed same
    exact (represents.recorded_iff wellFormed).mpr ⟨member, listed, same⟩ empty
  · intro first second isFirst isSecond same
    obtain ⟨member, listed, rfl⟩ := (represents.recorded_iff wellFormed).mp isFirst
    obtain ⟨other, alsoListed, rfl⟩ := (represents.recorded_iff wellFormed).mp isSecond
    obtain ⟨index, found⟩ := List.mem_iff_getElem?.mp listed
    obtain ⟨position, there⟩ := List.mem_iff_getElem?.mp alsoListed
    rw [represents.record index member found, represents.record position other there] at same
    have sameMember : member = other :=
      List.inj_on_of_nodup_map wellFormed.keys listed alsoListed same
    rw [sameMember]

/-- What holds between any two dispatches. -/
structure Sound (host : Host) (maxActiveMembers : Nat) (storage : Storage)
    (members : List Member) : Prop where
  represents : Represents host storage members
  wellFormed : WellFormed host members
  staffed : Staffed maxActiveMembers members

theorem Sound.perform (separated : Separated host)
    (sound : Sound host maxActiveMembers storage members) (dispatch : Dispatch) :
    ∃ after, Step host maxActiveMembers storage dispatch members after ∧
      Sound host maxActiveMembers (perform host maxActiveMembers storage dispatch) after := by
  obtain ⟨after, step, represents⟩ := perform_step separated sound.represents
    sound.wellFormed dispatch
  exact ⟨after, step, represents, step.wellFormed sound.wellFormed, step.staffed sound.staffed⟩

theorem Sound.performAll (separated : Separated host)
    (sound : Sound host maxActiveMembers storage members) (dispatches : List Dispatch) :
    ∃ after, Sound host maxActiveMembers
      (performAll host maxActiveMembers storage dispatches) after := by
  induction dispatches generalizing storage members with
  | nil => exact ⟨members, sound⟩
  | cons dispatch rest ih =>
    obtain ⟨after, _, next⟩ := sound.perform separated dispatch
    exact ih next

theorem SoundGenesis.sound {validators : List GenesisValidator}
    (genesis : SoundGenesis host maxActiveMembers validators)
    (separated : Separated host) (policyIdHash : B256) :
    Sound host maxActiveMembers (genesisStorage host validators policyIdHash)
      (validators.map GenesisValidator.member) := by
  have everybody : activeCount (validators.map GenesisValidator.member) =
      validators.length := by
    unfold activeCount
    rw [List.countP_map]
    exact congrFun List.countP_true validators

  refine ⟨genesis_represents separated genesis.size genesis.addresses,
    ⟨?_, ?_, ?_, ?_, ?_, ?_⟩, ?_, ?_⟩
  · exact List.forall_mem_map.mpr genesis.nonzero
  · rw [List.map_map]
    exact genesis.addresses
  · rw [List.map_map]
    exact genesis.keys
  · exact List.forall_mem_map.mpr genesis.readable
  · exact List.forall_mem_map.mpr genesis.routes
  · rw [List.length_map]
    exact genesis.size
  · rw [everybody]
    exact genesis.nonempty
  · rw [everybody]
    exact genesis.capacity

theorem Sound.cleared (separated : Separated host)
    (sound : Sound host maxActiveMembers storage members) {dispatch : Dispatch} {removed : Address}
    (called : dispatch.call = .removeValidator removed) {result : DispatchResult} {final : Storage}
    (success : (dispatchWithJournal host maxActiveMembers dispatch).run
      storage = (.ok result, final)) (offset : Fin 5) :
    final (Slot.key host (.field removed offset)) = 0 := by
  obtain ⟨_, handling⟩ := Exec.run_failIf_bind_ok success
  obtain ⟨answer, handled⟩ := run_answer_ok handling
  unfold handle at handled
  simp only [called] at handled
  obtain ⟨_, removing⟩ := authorized_ok handled
  obtain ⟨index, member, last, found, rfl, atEnd, _, afterwards⟩ :=
    removeValidator_ok separated sound.represents sound.wellFormed removing
  apply afterwards.absent
  have addresses := ((swapRemove_perm found atEnd).map
    Member.address).nodup_iff.mpr sound.wellFormed.addresses
  intro other listed same
  exact (List.nodup_cons.mp addresses).1 (List.mem_map.mpr ⟨other, listed, same⟩)

/-- From a proper genesis array and records agree after every run, the members
and the roster can be read, the committee is within its bounds, and a dispatch
changes no other member's record but the position of a moved one. -/
theorem registry_consistent_over_runs (separated : Separated host)
    {validators : List GenesisValidator} (genesis : SoundGenesis host maxActiveMembers validators)
    (policyIdHash : B256) (dispatches : List Dispatch) :
    let storage := performAll host maxActiveMembers
      (genesisStorage host validators policyIdHash) dispatches
    Consistent host storage ∧
      (∃ loaded, (loadAllValidators host).run storage = (.ok loaded, storage) ∧
        1 ≤ (activeMembers loaded).length ∧ (activeMembers loaded).length ≤ maxActiveMembers) ∧
      (∃ keys, (activeConsensusKeys host).run storage = (.ok keys, storage)) ∧
      ∀ dispatch,
        (∀ address, touched host storage dispatch ≠ some address →
          ∀ offset,
            (offset = 2 → ¬ MovedByRemoval host storage dispatch address) →
              perform host maxActiveMembers storage dispatch
                  (Slot.key host (.field address offset)) =
                storage (Slot.key host (.field address offset))) ∧
        ∀ removed, dispatch.call = .removeValidator removed →
          ∀ result final, (dispatchWithJournal host maxActiveMembers
              dispatch).run storage = (.ok result, final) →
            ∀ offset, final (Slot.key host (.field removed offset)) = 0 := by
  intro storage
  obtain ⟨members, sound⟩ : ∃ members,
      Sound host maxActiveMembers storage members :=
    (genesis.sound separated policyIdHash).performAll separated dispatches
  refine ⟨sound.represents.consistent sound.wellFormed,
    ⟨infos members, sound.represents.loadAllValidators sound.wellFormed, ?_, ?_⟩,
    sound.represents.activeConsensusKeys sound.wellFormed sound.staffed.1, ?_⟩
  · rw [length_activeMembers]
    exact sound.staffed.1
  · rw [length_activeMembers]
    exact sound.staffed.2
  · intro dispatch
    obtain ⟨after, step, next⟩ := sound.perform separated dispatch
    refine ⟨?_, ?_⟩
    · intro address untouched offset unmoved
      exact step.frame sound.wellFormed sound.represents next.represents untouched unmoved
    · intro removed called result final success offset
      exact sound.cleared separated called success offset

def spacedHost : Host where
  keccak256 input :=
    if input.length = 64 then
      BitVec.ofNat 256 (2 ^ 200 + 8 * (wordOf 160 ((input.drop 12).take 20) : Address).toNat)
    else
      BitVec.ofNat 256 (2 ^ 255)
  readsPublicKey key := decide (key ≠ 0)
  parseSocketAddr _ := .ok ()
  parseAddress _ := some 11
  evmAddressFromDid _ := none

theorem spacedHost_keccak256 {input : Bytes} (total : input.length = 64) :
    spacedHost.keccak256 input = BitVec.ofNat 256 (2 ^ 200 +
      8 * (wordOf 160 ((input.drop 12).take 20) : Address).toNat) :=
  if_pos total

def spacedNumber : Slot → Nat
  | .policyId => 0
  | .count => 1
  | .position index => 2 ^ 255 + index.toNat
  | .field member offset => 2 ^ 200 + 8 * member.toNat + offset.val

theorem spacedHost_key (slot : Slot) :
    slot.key spacedHost = BitVec.ofNat 256 (spacedNumber slot) := by
  cases slot with
  | policyId => rfl
  | count => rfl
  | position index =>
    change BitVec.ofNat 256 (2 ^ 255) + BitVec.ofNat 256 index.toNat = _
    rw [← BitVec.ofNat_add]
    rfl
  | field member offset =>
    have hashed : mappingSlot spacedHost member slotValidatorsMappingBase =
        BitVec.ofNat 256 (2 ^ 200 + 8 * member.toNat) := by
      have total : (List.replicate 12 0 ++ wordBytes 20 member ++
          wordBytes 32 slotValidatorsMappingBase).length = 64 := by
        rw [List.length_append, List.length_append, length_wordBytes,
          length_wordBytes, List.length_replicate]
      have inside : ((List.replicate 12 0 ++ wordBytes 20 member ++
          wordBytes 32 slotValidatorsMappingBase).drop 12).take 20 =
            wordBytes 20 member := by
        rw [List.append_assoc, List.drop_left' List.length_replicate,
          List.take_left' (length_wordBytes member)]
      unfold mappingSlot
      rw [spacedHost_keccak256 total, inside, wordOf_wordBytes (by decide +kernel)]
    change mappingSlot spacedHost member slotValidatorsMappingBase + BitVec.ofNat 256 offset.val = _
    rw [hashed, ← BitVec.ofNat_add]
    rfl

theorem spacedNumber_lt (slot : Slot) : spacedNumber slot < 2 ^ 256 := by
  cases slot with
  | policyId => decide +kernel
  | count => decide +kernel
  | position index =>
    have bound := index.toNat_lt
    change 2 ^ 255 + index.toNat < 2 ^ 256
    omega
  | field member offset =>
    have bound := member.isLt
    have small := offset.isLt
    change 2 ^ 200 + 8 * member.toNat + offset.val < 2 ^ 256
    omega

theorem spacedNumber_injective : Function.Injective spacedNumber := by
  have field_lt : ∀ member offset, spacedNumber (.field member offset) < 2 ^ 255 := by
    intro member offset
    have bound := member.isLt
    have small := offset.isLt
    change 2 ^ 200 + 8 * member.toNat + offset.val < 2 ^ 255
    omega
  rintro (_ | _ | index | ⟨member, offset⟩) (_ | _ | other | ⟨other, place⟩) same
  case policyId.policyId => rfl
  case count.count => rfl
  case position.position =>
    have equal : index = other := by
      apply UInt64.toNat_inj.mp
      exact Nat.add_left_cancel same
    rw [equal]
  case field.field =>
    have small := offset.isLt
    have alsoSmall := place.isLt
    change 2 ^ 200 + 8 * member.toNat + offset.val = 2 ^ 200 + 8 * other.toNat + place.val at same
    have sameMember : member = other := by
      apply BitVec.eq_of_toNat_eq
      omega
    have sameOffset : offset = place := by
      apply Fin.ext
      omega
    rw [sameMember, sameOffset]
  case position.field =>
    have bound := field_lt other place
    rw [← same] at bound
    change 2 ^ 255 + index.toNat < 2 ^ 255 at bound
    omega
  case field.position =>
    have bound := field_lt member offset
    rw [same] at bound
    change 2 ^ 255 + other.toNat < 2 ^ 255 at bound
    omega
  all_goals
    simp only [spacedNumber] at same
    omega

theorem spacedHost_separated : Separated spacedHost := by
  intro first second same
  rw [spacedHost_key, spacedHost_key] at same
  have numbers := congrArg BitVec.toNat same
  rw [BitVec.toNat_ofNat, BitVec.toNat_ofNat, Nat.mod_eq_of_lt (spacedNumber_lt first),
    Nat.mod_eq_of_lt (spacedNumber_lt second)] at numbers
  exact spacedNumber_injective numbers

def pairOfValidators : List GenesisValidator :=
  [⟨11, 101, "10.0.0.1:26656"⟩, ⟨12, 102, "10.0.0.2:26656"⟩]

theorem pairOfValidators_sound : SoundGenesis spacedHost 3 pairOfValidators where
  nonempty := by decide
  size := by decide
  capacity := by decide
  nonzero := by decide +kernel
  addresses := by decide +kernel
  keys := by decide +kernel
  readable := by decide +kernel
  routes := by decide +kernel

/-- A third validator joins and the first one leaves. -/
def handover : List Dispatch :=
  [.addValidator 13 103 "10.0.0.3:26656", .removeValidator 11].map fun call =>
    { call := call
      inputLength := 100
      signer := "did:key:z6Mk"
      gasLimit := 1000000
      membershipPolicy := .ok (some 5)
      verifyAccess := fun _ _ => .ok true }

theorem registry_consistent_after_handover :
    Consistent spacedHost
      (performAll spacedHost 3 (genesisStorage spacedHost pairOfValidators 5) handover) :=
  (registry_consistent_over_runs spacedHost_separated pairOfValidators_sound 5 handover).1

end Runs

end VeraHub.Executor.ValidatorRegistry
