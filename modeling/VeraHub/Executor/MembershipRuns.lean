import VeraHub.Executor.Membership

/-!
# Runs of the validator registry

Every accepted dispatch changes the represented list of members in one of three
ways and rewrites no other record; rejected dispatches are rolled back.  So from
a genesis with a proper committee the storage represents distinct members with a
proper committee after every sequence of dispatches.
-/

namespace VeraHub.Executor.ValidatorRegistry

open VeraHub.Zanzibar (Did)
open Exec (run_bind_of_ok run_bind_ok run_failIf_bind_ok run_pure)

/-! ## Accepted dispatches -/

variable {done : Unit} {index : Nat} {evmAddr : Address} {active : Bool}

section Accepted

variable {host : Host} {maxActiveMembers : Nat}

def touched (host : Host) (storage : Storage) (dispatch : Dispatch) :
    Option Address :=
  match dispatch.call with
  | .addValidator evmAddr _ _ => some evmAddr
  | .removeValidator evmAddr => some evmAddr
  | .setValidatorStatus evmAddr _ => some evmAddr
  | .setValidatorStatusByIndex index _ =>
    some (u256ToAddress (storage (Slot.key host (.position (lowLimb index)))))
  | .updateP2PAddress _ =>
    some (evmAddressFromSigner host dispatch.signer)
  | _ => none

variable (host maxActiveMembers) in
/-- What an accepted dispatch does to the members. -/
inductive Step (storage : Storage) (dispatch : Dispatch)
    (members : List Member) : List Member → Prop
  | kept : Step storage dispatch members members
  | added {member : Member} (subject : touched host storage dispatch = some member.address)
      (active : member.active = true) (nonzero : member.address ≠ 0)
      (readable : host.readsPublicKey member.consensusKey = true)
      (fits : (utf8 member.route).length ≤ 32)
      (fresh : ∀ other ∈ members, other.address ≠ member.address)
      (unused : ∀ other ∈ members, other.consensusKey ≠ member.consensusKey)
      (room : members.length < 64) (capacity : activeCount members < maxActiveMembers) :
      Step storage dispatch members (members ++ [member])
  | removed {index : Nat} {removed last : Member}
      (called : dispatch.call = .removeValidator removed.address)
      (found : members[index]? = some removed) (atEnd : members[members.length - 1]? = some last)
      (staffed : removed.active = true → 1 < activeCount members) :
      Step storage dispatch members (members.set index last).dropLast
  | rewritten {index : Nat} {old member : Member}
      (subject : touched host storage dispatch = some member.address)
      (found : members[index]? = some old) (sameAddress : member.address = old.address)
      (sameKey : member.consensusKey = old.consensusKey) (fits : (utf8 member.route).length ≤ 32)
      (staffed : old.active = true → member.active = false → 1 < activeCount members)
      (capacity : old.active = false → member.active = true →
        activeCount members < maxActiveMembers) :
      Step storage dispatch members (members.set index member)

variable {storage final : Storage} {dispatch : Dispatch}

theorem loadPolicyId_ok {policyId : String}
    (loaded : (loadPolicyId dispatch).run storage = (.ok policyId, final)) : final = storage := by
  unfold loadPolicyId at loaded
  cases installed : dispatch.membershipPolicy with
  | error message =>
    simp only [installed] at loaded
    cases loaded
  | ok policy =>
    cases policy with
    | some policy =>
      simp only [installed, run_pure] at loaded
      exact (Prod.mk.inj loaded).2.symm
    | none =>
      simp only [installed] at loaded
      rw [run_journalSload_bind rfl, run_pure] at loaded
      exact (Prod.mk.inj loaded).2.symm

theorem checkManageAccess_ok {policyId : String} {callerDid : Did}
    (passed : (checkManageAccess dispatch policyId callerDid).run storage = (.ok done, final)) :
    final = storage := by
  unfold checkManageAccess at passed
  split at passed
  · cases passed
  split at passed
  · exact (Prod.mk.inj passed).2.symm
  · cases passed
  · cases passed

theorem authorize_ok (passed : (authorize dispatch).run storage = (.ok done, final)) :
    final = storage := by
  obtain ⟨policyId, middle, loaded, checked⟩ := run_bind_ok passed
  rw [loadPolicyId_ok loaded] at checked
  split at checked
  · cases checked
  · exact checkManageAccess_ok checked

theorem requireP2pAddress_ok {address : String}
    (passed : (requireP2pAddress host address).run storage = (.ok done, final)) :
    final = storage ∧ (utf8 address).length ≤ 32 := by
  unfold requireP2pAddress at passed
  split at passed
  · cases passed
  · rename_i valid
    cases passed
    refine ⟨rfl, ?_⟩
    unfold validateP2pAddress at valid
    split at valid
    · cases valid
    obtain ⟨short, valid⟩ := ifError_ok valid
    exact Nat.not_lt.mp short

theorem run_storePosition_bind {α : Type} {index : UInt64} {value : U256}
    {next : Unit → RegistryM α} :
    (journalSstore (arrayElementSlot host slotValidatorsArrayBase index)
        value >>= next).run storage = (next ()).run (write host storage (.position index) value) :=
  rfl

variable (host) in
theorem run_storeCount_bind {α : Type} {value : U256} {next : Unit → RegistryM α} :
    (journalSstore slotValidatorCount value >>= next).run storage =
      (next ()).run (write host storage .count value) :=
  rfl

theorem toNat_position_succ (small : index < 64) : (UInt64.ofNat index + 1).toNat = index + 1 := by
  rw [UInt64.toNat_add, toNat_position (by omega)]
  change (index + 1) % 2 ^ 64 = index + 1
  omega

theorem position_pred (positive : 0 < index) (small : index ≤ 64) :
    UInt64.ofNat index - 1 = UInt64.ofNat (index - 1) := by
  apply UInt64.toNat_inj.mp
  rw [toNat_position (by omega), UInt64.toNat_sub_of_le, toNat_position small]
  · rfl
  · rw [UInt64.le_iff_toNat_le, toNat_position small]
    exact positive

variable {storage final : Storage} {dispatch : Dispatch}
  {members : List Member} {events : List RegistryEvent}

/-- The storage afterwards represents the members after a step. -/
def Leads (host : Host) (maxActiveMembers : Nat) (storage : Storage) (dispatch : Dispatch)
    (members : List Member) (final : Storage) : Prop :=
  ∃ after, Step host maxActiveMembers storage dispatch members after ∧ Represents host final after

theorem run_answer_ok {α β : Type} {handler : RegistryM α} {answer : α → β} {result : β}
    (success : (handler >>= fun value => pure (answer value)).run storage = (.ok result, final)) :
    ∃ value, handler.run storage = (.ok value, final) := by
  obtain ⟨value, middle, handled, finished⟩ := run_bind_ok success
  rw [run_pure] at finished
  have ended : middle = final := (Prod.mk.inj finished).2
  exact ⟨value, ended ▸ handled⟩

variable {answer : Returned × List RegistryEvent}

theorem authorized_ok {handler : RegistryM (List RegistryEvent)}
    (success : (authorize dispatch >>= fun _ => handler >>= fun events =>
      pure (Returned.nothing, events)).run storage = (.ok answer, final)) :
    ∃ events, handler.run storage = (.ok events, final) := by
  obtain ⟨_, middle, passed, afterCheck⟩ := run_bind_ok success
  rw [authorize_ok passed] at afterCheck
  exact run_answer_ok afterCheck

variable (separated : Separated host) (represents : Represents host storage members)
  (wellFormed : WellFormed host members)

include represents wellFormed

theorem run_removesLastActive (active : Bool) :
    (removesLastActive host active).run storage =
      (.ok (active && decide (activeCount members ≤ 1)), storage) := by
  unfold removesLastActive
  cases active with
  | false => rfl
  | true =>
    rw [if_pos rfl, run_bind_of_ok
      (represents.loadAllValidators wellFormed), length_activeMembers]
    rfl

theorem storeStatus_ok {old : Member} (found : members[index]? = some old)
    (success : (storeStatus host maxActiveMembers (old.stored index)
      active).run storage = (.ok done, final)) :
    final = writeRecord host storage old.address (Member.word { old with active := active } index) ∧
      (old.active = true → active = false → 1 < activeCount members) ∧
      (old.active = false → active = true → activeCount members < maxActiveMembers) := by
  have within : index < members.length := (List.getElem?_eq_some_iff.mp found).1
  have size : members.length ≤ 64 := wellFormed.size
  have stored : (storeValidatorRaw host (old.stored index).evmAddress
      (old.stored index).consensusPubkey (old.stored index).p2pAddress active
      (old.stored index).index).run storage =
        (.ok (), writeRecord host storage old.address
          (Member.word { old with active := active } index)) :=
    run_storeValidatorRaw { old with active := active } (by omega)
  unfold storeStatus at success
  cases active with
  | false =>
    rw [if_pos rfl, run_bind_of_ok (run_removesLastActive represents wellFormed _)] at success
    obtain ⟨someoneLeft, afterCheck⟩ := run_failIf_bind_ok success
    dsimp only at afterCheck
    rw [if_neg (by simp), stored] at afterCheck
    refine ⟨(Prod.mk.inj afterCheck).2.symm, ?_, by simp⟩
    intro wasActive _
    by_contra few
    apply someoneLeft
    change (old.active && decide (activeCount members ≤ 1)) = true
    rw [wasActive, Bool.true_and]
    exact decide_eq_true (Nat.le_of_not_lt few)
  | true =>
    rw [if_neg (by simp)] at success
    dsimp only at success
    by_cases activates : old.active = false
    · rw [if_pos ⟨rfl, activates⟩, run_bind_of_ok
        (represents.loadAllValidators wellFormed)] at success
      obtain ⟨capacity, afterCheck⟩ := run_failIf_bind_ok success
      rw [length_activeMembers] at capacity
      rw [stored] at afterCheck
      exact ⟨(Prod.mk.inj afterCheck).2.symm, by simp, fun _ _ => Nat.lt_of_not_le capacity⟩
    · rw [if_neg (fun both => activates both.2), stored] at success
      exact ⟨(Prod.mk.inj success).2.symm, by simp, fun inactive => (activates inactive).elim⟩

include separated

theorem addValidator_step {key : B256} {route : String}
    (subject : touched host storage dispatch = some evmAddr)
    (success : (addValidator host maxActiveMembers evmAddr key route).run
      storage = (.ok events, final)) :
    Leads host maxActiveMembers storage dispatch members final := by
  let member : Member := ⟨evmAddr, key, route, true⟩
  unfold addValidator at success
  obtain ⟨nonzero, success⟩ := run_failIf_bind_ok success
  obtain ⟨validKey, success⟩ := run_failIf_bind_ok success
  obtain ⟨_, middle, routed, afterRoute⟩ := run_bind_ok success
  obtain ⟨same, fits⟩ := requireP2pAddress_ok routed
  rw [same] at afterRoute
  clear success same routed
  rcases represents.load wellFormed evmAddr with
    ⟨index, other, found, isOther, loaded⟩ | ⟨fresh, loaded⟩
  · rw [run_bind_of_ok loaded] at afterRoute
    obtain ⟨unknown, _⟩ := run_failIf_bind_ok afterRoute
    exact (unknown rfl).elim
  rw [run_bind_of_ok loaded] at afterRoute
  obtain ⟨_, afterRoute⟩ := run_failIf_bind_ok afterRoute
  rw [run_bind_of_ok (represents.loadMemberCount wellFormed)] at afterRoute
  obtain ⟨notFull, afterRoute⟩ := run_failIf_bind_ok afterRoute
  have size : members.length ≤ 64 := wellFormed.size
  have room : members.length < 64 := by
    rcases Nat.lt_or_eq_of_le size with below | full
    · exact below
    · rw [full] at notFull
      exact (notFull rfl).elim
  rw [run_bind_of_ok (represents.loadAllValidators wellFormed)] at afterRoute
  obtain ⟨capacity, afterRoute⟩ := run_failIf_bind_ok afterRoute
  rw [length_activeMembers] at capacity
  obtain ⟨notUsed, afterRoute⟩ := run_failIf_bind_ok afterRoute
  rw [any_consensusPubkey_iff] at notUsed
  have stored : (storeValidatorRaw host evmAddr key route true
      (UInt64.ofNat members.length)).run storage =
        (.ok (), writeRecord host storage evmAddr (member.word members.length)) :=
    run_storeValidatorRaw member size
  rw [run_bind_of_ok stored, run_storePosition_bind,
    run_storeCount_bind host, toNat_position_succ room, run_pure] at afterRoute
  have written := (Prod.mk.inj afterRoute).2
  have appended : ∀ other ∈ members, other.address ≠ member.address := fresh
  have afterwards := represents.append separated room appended
  refine ⟨members ++ [member], ?_, written ▸ afterwards⟩
  have readable : host.readsPublicKey key = true := by
    by_contra unreadable
    apply validKey
    right
    exact Bool.eq_false_iff.mpr unreadable
  refine .added subject rfl nonzero readable fits appended ?_ room (Nat.lt_of_not_le capacity)
  intro other listed sameKey
  exact notUsed ⟨other, listed, sameKey⟩

/-- The position of the removed member is overwritten before the record of the
last member is read, and the array still agrees with that record. -/
theorem run_moveLast {last : Member}
    (atEnd : members[members.length - 1]? = some last) (notLast : index + 1 < members.length) :
    (moveLast host (UInt64.ofNat index) (UInt64.ofNat (members.length - 1))).run storage =
      (.ok (), write host
        (writeRecord host
          (write host storage (.position (UInt64.ofNat index)) (addressToPaddedU256 last.address))
          last.address (last.word index))
        (.position (UInt64.ofNat (members.length - 1))) 0) := by
  have size : members.length ≤ 64 := wellFormed.size
  have listed : last ∈ members := List.mem_of_getElem? atEnd
  have element : storage (arrayElementSlot host slotValidatorsArrayBase
      (UInt64.ofNat (members.length - 1))) =
        addressToPaddedU256 last.address :=
    represents.position _ last atEnd
  have elsewhere : Slot.position (UInt64.ofNat (members.length - 1)) ≠
      .position (UInt64.ofNat index) := by
    rw [ne_eq, Slot.position.injEq, position_inj (by omega) (by omega)]
    omega
  have holds : Holds host
      (write host storage (.position (UInt64.ofNat index))
        (addressToPaddedU256 last.address)) (members.length - 1) last := by
    constructor
    · intro offset
      rw [read_write_of_ne separated (by simp)]
      exact represents.record _ last atEnd offset
    · rw [read_write_of_ne separated elsewhere]
      exact represents.position _ last atEnd
  have counted : write host storage (.position (UInt64.ofNat index))
      (addressToPaddedU256 last.address) (Slot.key host .count) =
        BitVec.ofNat 256 members.length := by
    rw [read_write_of_ne separated (by simp)]
    exact represents.count
  have loaded := run_loadValidatorRaw holds counted size (by omega)
    (wellFormed.nonzero last listed) (wellFormed.routes last listed)
  have stored : ∀ middle, (storeValidatorRaw host (last.stored (members.length - 1)).evmAddress
      (last.stored (members.length - 1)).consensusPubkey
      (last.stored (members.length - 1)).p2pAddress (last.stored (members.length - 1)).active
      (UInt64.ofNat index)).run middle =
        (.ok (), writeRecord host middle last.address (last.word index)) :=
    fun middle => run_storeValidatorRaw last (by omega)
  unfold moveLast
  dsimp only
  rw [run_journalSload_bind element, run_storePosition_bind,
    u256ToAddress_addressToPaddedU256, run_bind_of_ok loaded]
  dsimp only
  rw [run_bind_of_ok (stored _)]
  rfl

theorem removeValidator_ok (success : (removeValidator host evmAddr).run storage = (.ok events, final)) :
    ∃ index removed last, members[index]? = some removed ∧ removed.address = evmAddr ∧
      members[members.length - 1]? = some last ∧ (removed.active = true → 1 < activeCount members) ∧
      Represents host final (members.set index last).dropLast := by
  unfold removeValidator at success
  rcases represents.load wellFormed evmAddr with
    ⟨index, removed, found, rfl, loaded⟩ | ⟨_, loaded⟩
  rotate_left
  · rw [run_bind_of_ok loaded] at success
    cases success
  have size : members.length ≤ 64 := wellFormed.size
  have within : index < members.length := (List.getElem?_eq_some_iff.mp found).1
  obtain ⟨last, atEnd⟩ : ∃ last, members[members.length - 1]? = some last := by
    refine ⟨members[members.length - 1], ?_⟩
    exact List.getElem?_eq_getElem (by omega)
  rw [run_bind_of_ok loaded] at success
  dsimp only at success
  rw [run_bind_of_ok (run_removesLastActive represents wellFormed _)] at success
  obtain ⟨someoneLeft, success⟩ := run_failIf_bind_ok success
  rw [run_bind_of_ok (represents.loadMemberCount wellFormed),
    position_pred (by omega) size] at success
  have staffed : removed.active = true → 1 < activeCount members := by
    intro active
    by_contra few
    apply someoneLeft
    change (removed.active && decide (activeCount members ≤ 1)) = true
    rw [active, Bool.true_and]
    exact decide_eq_true (Nat.le_of_not_lt few)
  refine ⟨index, removed, last, found, rfl, atEnd, staffed, ?_⟩
  have cleared : ∀ middle,
      (clearValidator host removed.address).run middle =
        (.ok (), writeRecord host middle removed.address fun _ => 0) :=
    fun middle => run_clearValidator removed.address
  by_cases isLast : index + 1 = members.length
  · have here : (removed.stored index).index = UInt64.ofNat (members.length - 1) := by
      change UInt64.ofNat index = _
      rw [← isLast, Nat.add_sub_cancel]
    have same : removed = last := by
      rw [← isLast, Nat.add_sub_cancel, found] at atEnd
      exact Option.some.inj atEnd
    rw [if_neg (fun differs => differs here), here, run_storePosition_bind,
      run_bind_of_ok (cleared _), run_storeCount_bind host,
      toNat_position (by omega), run_pure] at success
    rw [← (Prod.mk.inj success).2]
    apply represents.remove wellFormed found atEnd
    · rw [read_write separated, if_pos rfl]
    · intro place
      rw [read_write_of_ne separated (by simp), read_writeRecord_of_ne separated (by simp),
        read_write separated, ← isLast, Nat.add_sub_cancel]
      simp only [Slot.position.injEq]
      split_ifs <;> rfl
    · intro address offset
      rw [read_write_of_ne separated (by simp), read_writeRecord separated,
        read_write_of_ne separated (by simp), ← same]
      split_ifs <;> rfl
  · have elsewhere : (removed.stored index).index ≠ UInt64.ofNat (members.length - 1) := by
      intro same
      have equal := congrArg UInt64.toNat same
      change (UInt64.ofNat index).toNat = _ at equal
      rw [toNat_position (by omega), toNat_position (by omega)] at equal
      omega
    have notLast : index + 1 < members.length := by omega
    have moved := run_moveLast separated represents wellFormed atEnd notLast
    have same : (removed.stored index).index = UInt64.ofNat index := rfl
    rw [if_pos elsewhere, same, run_bind_of_ok moved,
      run_bind_of_ok (cleared _), run_storeCount_bind host,
      toNat_position (by omega), run_pure] at success
    rw [← (Prod.mk.inj success).2]
    apply represents.remove wellFormed found atEnd
    · rw [read_write separated, if_pos rfl]
    · intro place
      rw [read_write_of_ne separated (by simp), read_writeRecord_of_ne separated (by simp),
        read_write separated, read_writeRecord_of_ne separated (by simp), read_write separated]
      simp only [Slot.position.injEq]
    · intro address offset
      rw [read_write_of_ne separated (by simp), read_writeRecord separated,
        read_write_of_ne separated (by simp), read_writeRecord separated,
        read_write_of_ne separated (by simp)]

theorem removeValidator_step (called : dispatch.call = .removeValidator evmAddr)
    (success : (removeValidator host evmAddr).run storage = (.ok events, final)) :
    Leads host maxActiveMembers storage dispatch members final := by
  obtain ⟨index, removed, last, found, isRemoved, atEnd, staffed,
    afterwards⟩ := removeValidator_ok separated represents wellFormed success
  rw [← isRemoved] at called
  exact ⟨_, .removed called found atEnd staffed, afterwards⟩

theorem storeStatus_step {old : Member} (found : members[index]? = some old)
    (subject : touched host storage dispatch = some old.address)
    (success : (storeStatus host maxActiveMembers (old.stored index)
      active).run storage = (.ok done, final)) :
    Leads host maxActiveMembers storage dispatch members final := by
  obtain ⟨written, staffed, capacity⟩ := storeStatus_ok represents wellFormed found success
  have listed : old ∈ members := List.mem_of_getElem? found
  let member : Member := { old with active := active }
  have afterwards := @Represents.rewrite host separated storage members index
    old member represents wellFormed.addresses found rfl
  exact ⟨members.set index member,
    .rewritten subject found rfl rfl (wellFormed.routes old listed) staffed
      capacity, written ▸ afterwards⟩

theorem setValidatorStatus_step (subject : touched host storage dispatch = some evmAddr)
    (success : (setValidatorStatus host maxActiveMembers evmAddr active).run
      storage = (.ok events, final)) :
    Leads host maxActiveMembers storage dispatch members final := by
  unfold setValidatorStatus at success
  rcases represents.load wellFormed evmAddr with
    ⟨index, old, found, rfl, loaded⟩ | ⟨_, loaded⟩
  · rw [run_bind_of_ok loaded] at success
    obtain ⟨_, stored⟩ := run_answer_ok success
    exact storeStatus_step separated represents wellFormed found subject stored
  · rw [run_bind_of_ok loaded] at success
    cases success

theorem setValidatorStatusByIndex_step {index : U256}
    (subject : touched host storage dispatch = some (u256ToAddress
      (storage (Slot.key host (.position (lowLimb index))))))
    (success : (setValidatorStatusByIndex host maxActiveMembers index
      active).run storage = (.ok events, final)) :
    Leads host maxActiveMembers storage dispatch members final := by
  have size : members.length ≤ 64 := wellFormed.size
  unfold setValidatorStatusByIndex at success
  rw [run_bind_of_ok (represents.loadMemberCount wellFormed), toNat_position size] at success
  obtain ⟨_, success⟩ := run_failIf_bind_ok success
  rw [run_journalSload_bind rfl] at success
  dsimp only at success
  rcases represents.load wellFormed (u256ToAddress
      (storage (Slot.key host (.position (lowLimb index))))) with
    ⟨position, old, found, isOld, loaded⟩ | ⟨_, loaded⟩
  · erw [run_bind_of_ok loaded] at success
    obtain ⟨_, stored⟩ := run_answer_ok success
    rw [← isOld] at subject
    exact storeStatus_step separated represents wellFormed found subject stored
  · erw [run_bind_of_ok loaded] at success
    cases success

theorem updateP2PAddress_step {p2pAddr : String}
    (subject : touched host storage dispatch = some (evmAddressFromSigner host dispatch.signer))
    (success : (updateP2PAddress host dispatch.signer p2pAddr).run storage = (.ok events, final)) :
    Leads host maxActiveMembers storage dispatch members final := by
  unfold updateP2PAddress at success
  dsimp only at success
  obtain ⟨_, success⟩ := run_failIf_bind_ok success
  obtain ⟨_, middle, routed, afterRoute⟩ := run_bind_ok success
  obtain ⟨same, fits⟩ := requireP2pAddress_ok routed
  rw [same] at afterRoute
  rcases represents.load wellFormed (evmAddressFromSigner host dispatch.signer) with
    ⟨index, old, found, isOld, loaded⟩ | ⟨_, loaded⟩
  · have size : members.length ≤ 64 := wellFormed.size
    have within : index < members.length := (List.getElem?_eq_some_iff.mp found).1
    let member : Member := { old with route := p2pAddr }
    have stored : (storeValidatorRaw host (old.stored index).evmAddress
        (old.stored index).consensusPubkey p2pAddr (old.stored index).active
        (old.stored index).index).run storage =
          (.ok (), writeRecord host storage old.address (member.word index)) :=
      run_storeValidatorRaw member (by omega)
    rw [run_bind_of_ok loaded] at afterRoute
    dsimp only at afterRoute
    rw [run_bind_of_ok stored, run_pure] at afterRoute
    have written := (Prod.mk.inj afterRoute).2
    have afterwards := @Represents.rewrite host separated storage members index
      old member represents wellFormed.addresses found rfl
    rw [← isOld] at subject
    refine ⟨members.set index member, ?_, written ▸ afterwards⟩
    refine .rewritten subject found rfl rfl fits ?_ ?_
    · intro wasActive inactive
      exact (Bool.eq_false_iff.mp inactive wasActive).elim
    · intro wasInactive active
      exact (Bool.eq_false_iff.mp wasInactive active).elim
  · rw [run_bind_of_ok loaded] at afterRoute
    cases afterRoute

theorem handle_step
    (success : (handle host maxActiveMembers dispatch).run storage = (.ok answer, final)) :
    Leads host maxActiveMembers storage dispatch members final := by
  have reads : final = storage → Leads host maxActiveMembers storage dispatch members final :=
    fun same => ⟨members, .kept, same ▸ represents⟩
  unfold handle at success
  cases called : dispatch.call with
  | addValidator evmAddr key route =>
    simp only [called] at success
    obtain ⟨_, handled⟩ := authorized_ok success
    have subject : touched host storage dispatch = some evmAddr := by
      rw [touched, called]
    exact addValidator_step separated represents wellFormed subject handled
  | removeValidator evmAddr =>
    simp only [called] at success
    obtain ⟨_, handled⟩ := authorized_ok success
    exact removeValidator_step separated represents wellFormed called handled
  | setPolicy =>
    simp only [called] at success
    cases success
  | setValidatorStatus evmAddr active =>
    simp only [called] at success
    obtain ⟨_, handled⟩ := authorized_ok success
    have subject : touched host storage dispatch = some evmAddr := by
      rw [touched, called]
    exact setValidatorStatus_step separated represents wellFormed subject handled
  | setValidatorStatusByIndex index active =>
    simp only [called] at success
    obtain ⟨_, handled⟩ := authorized_ok success
    have subject : touched host storage dispatch = some (u256ToAddress
        (storage (Slot.key host (.position (lowLimb index))))) := by
      rw [touched, called]
    exact setValidatorStatusByIndex_step separated represents wellFormed subject handled
  | updateP2PAddress route =>
    simp only [called] at success
    obtain ⟨_, handled⟩ := run_answer_ok success
    have subject : touched host storage dispatch =
        some (evmAddressFromSigner host dispatch.signer) := by
      rw [touched, called]
    exact updateP2PAddress_step separated represents wellFormed subject handled
  | getValidators =>
    simp only [called] at success
    rw [run_bind_of_ok (represents.loadAllValidators wellFormed), run_pure] at success
    exact reads (Prod.mk.inj success).2.symm
  | getValidator evmAddr =>
    simp only [called] at success
    rcases represents.load wellFormed evmAddr with
      ⟨_, _, _, _, loaded⟩ | ⟨_, loaded⟩
    · rw [run_bind_of_ok loaded, run_pure] at success
      exact reads (Prod.mk.inj success).2.symm
    · rw [run_bind_of_ok loaded, run_pure] at success
      exact reads (Prod.mk.inj success).2.symm
  | getActiveValidatorCount =>
    simp only [called] at success
    rw [run_bind_of_ok (represents.loadAllValidators wellFormed), run_pure] at success
    exact reads (Prod.mk.inj success).2.symm

/-- Every dispatch is a step of the members, and a rejected one keeps the
storage. -/
theorem perform_step (dispatch : Dispatch) :
    Leads host maxActiveMembers storage dispatch members
      (perform host maxActiveMembers storage dispatch) := by
  unfold perform
  split
  · rename_i result final success
    obtain ⟨_, handling⟩ := run_failIf_bind_ok success
    obtain ⟨answer, handled⟩ := run_answer_ok handling
    exact handle_step separated represents wellFormed handled
  · exact ⟨members, .kept, represents⟩

end Accepted

end VeraHub.Executor.ValidatorRegistry
