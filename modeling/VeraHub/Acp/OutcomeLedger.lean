import VeraHub.Acp.Outcomes

/-!
# The ledger of operation outcomes

The outcomes are kept with an index by deadline, a count of their bytes and a
budget.  Index and count are exact after every change, so a sweep finds for each
entry the record it names and takes off no more bytes than were counted.
-/

namespace VeraHub.Acp

open VeraHub.Zanzibar

namespace AcpModule

def outcomeBytes (externals : Externals) (module : AcpModule) : Nat :=
  ((module.scan operationPrefix).map fun entry =>
    externals.encodedLength entry.2).sum

/-- Index, count and budget agree with the retained outcomes. -/
structure Ledger (externals : Externals) (module : AcpModule) : Prop where
  records : ∀ key value, InFamily .operation key →
    module.store.get key = some value →
      ∃ hash record, hash.length = 32 ∧ record.id.length = 32 ∧
        key = operationPrefix ++ hash ++ record.id ∧ value = .operation record
  expiries : ∀ index value, InFamily .operationExpiry index →
    (module.store.get index = some value ↔
      ∃ key record, InFamily .operation key ∧
        module.store.get key = some (.operation record) ∧
          index = operationExpiryKey record.id key ∧ value = .reference key)
  counted : ∃ bytes budget, operationBytes module = .ok bytes ∧
    operationBudget module = .ok budget ∧
      bytes.toNat = outcomeBytes externals module ∧ bytes ≤ budget

/-! ## Keys -/

section Keys

variable {hash id : Bytes}

theorem operationExpiryKey_eq (hash id : Bytes) :
    operationExpiryKey id (operationPrefix ++ hash ++ id) =
      operationExpiryPrefix ++ (id.take 8 ++ (hash ++ id)) := by
  unfold operationExpiryKey
  rw [List.append_assoc operationPrefix, List.drop_left, List.append_assoc]

theorem expiryOf_operationExpiryKey (width : id.length = 32) (key : Bytes) :
    expiryOf (operationExpiryKey id key) = id.take 8 := by
  unfold expiryOf operationExpiryKey
  rw [List.append_assoc, List.drop_left]
  have taken : (id.take 8).length = 8 := by
    rw [List.length_take, width]
    rfl
  exact List.take_left' taken

theorem wellFormedReference_operationExpiryKey (hashWidth : hash.length = 32)
    (width : id.length = 32) :
    wellFormedReference (operationExpiryKey id (operationPrefix ++ hash ++ id))
      (operationPrefix ++ hash ++ id) = true := by
  have taken : (id.take 8).length = 8 := by
    rw [List.length_take, width]
    rfl
  have deadline : expiryOf (operationExpiryKey id (operationPrefix ++ hash ++ id)) = id.take 8 :=
    expiryOf_operationExpiryKey width _
  have body : (operationExpiryKey id (operationPrefix ++ hash ++ id)).drop
      (operationExpiryPrefix.length + 8) = hash ++ id := by
    rw [operationExpiryKey_eq, ← List.drop_drop, List.drop_left]
    exact List.drop_left' taken
  have identity : (operationPrefix ++ hash ++ id).drop (operationPrefix.length + 32) = id := by
    rw [List.append_assoc, ← List.drop_drop, List.drop_left]
    exact List.drop_left' hashWidth
  unfold wellFormedReference
  rw [deadline, body, identity, operationExpiryKey_eq]
  simp [hashWidth, width, List.append_assoc]

theorem operationExpiryKey_inj {otherHash otherId : Bytes}
    (width : id.length = 32) (otherWidth : otherId.length = 32)
    (same : operationExpiryKey id (operationPrefix ++ hash ++ id) =
      operationExpiryKey otherId (operationPrefix ++ otherHash ++ otherId)) :
    operationPrefix ++ hash ++ id = operationPrefix ++ otherHash ++ otherId := by
  rw [operationExpiryKey_eq, operationExpiryKey_eq, List.append_cancel_left_eq] at same
  have sameWidth : (id.take 8).length = (otherId.take 8).length := by
    rw [List.length_take, List.length_take, width, otherWidth]
  have sameBody := (List.append_inj same sameWidth).2
  rw [List.append_assoc, List.append_assoc, sameBody]

theorem operationKey_split {externals : Externals} {actor : String} {key : Bytes}
    (hashWidth : ∀ bytes, (externals.hashing.sha256 bytes).length = 32)
    (named : operationKey externals actor id = .ok key) :
    ∃ hash, hash.length = 32 ∧ key = operationPrefix ++ hash ++ id := by
  rw [operationKey_eq] at named
  cases canonical : canonicalActor externals actor with
  | error failure =>
    rw [canonical] at named
    cases named
  | ok name =>
    rw [canonical] at named
    cases named
    exact ⟨_, hashWidth _, rfl⟩

end Keys

/-! ## Steps -/

section Steps

variable {externals : Externals} {module final : AcpModule}

theorem Ledger.new : Ledger externals AcpModule.new where
  records := nofun
  expiries := by
    intro index value _
    constructor
    · exact nofun
    · rintro ⟨_, _, _, stored, _⟩
      cases stored
  counted := ⟨0, defaultOperationBytes, rfl, rfl, rfl, by decide⟩

theorem Ledger.index_eq (ledger : Ledger externals module) {first second : Bytes}
    {firstRecord secondRecord : OperationRecord} (firstFamily : InFamily .operation first)
    (firstStored : module.store.get first = some (.operation firstRecord))
    (secondFamily : InFamily .operation second)
    (secondStored : module.store.get second = some (.operation secondRecord))
    (same : operationExpiryKey firstRecord.id first =
      operationExpiryKey secondRecord.id second) : first = second := by
  obtain ⟨_, _, _, firstWidth, rfl, isFirst⟩ := ledger.records first _ firstFamily firstStored
  obtain ⟨_, _, _, secondWidth, rfl, isSecond⟩ := ledger.records second _ secondFamily secondStored
  cases isFirst
  cases isSecond
  exact operationExpiryKey_inj firstWidth secondWidth same

theorem operationBytes_congr
    (same : final.store.get operationBytesKey = module.store.get operationBytesKey) :
    operationBytes final = operationBytes module := by
  unfold operationBytes readCounter
  rw [same]

theorem operationBudget_congr
    (same : final.store.get operationBudgetKey = module.store.get operationBudgetKey) :
    operationBudget final = operationBudget module := by
  unfold operationBudget
  rw [same]

theorem operationBytes_of_stored {bytes : UInt64}
    (stored : module.store.get operationBytesKey = some (.counter bytes)) :
    operationBytes module = .ok bytes := by
  simp [operationBytes, readCounter, stored, StoredValue.asCounter]

theorem operationBudget_of_stored {bytes : UInt64}
    (stored : module.store.get operationBudgetKey = some (.counter bytes)) :
    operationBudget module = .ok bytes := by
  simp [operationBudget, stored, StoredValue.asCounter]

theorem outcomeBytes_congr
    (same : ∀ key, InFamily .operation key → final.store.get key = module.store.get key) :
    outcomeBytes externals final = outcomeBytes externals module :=
  ((OrderedMap.prefixScan_perm same).map _).sum_nat

section

variable (ledger : Ledger externals module)

include ledger

theorem Ledger.congr
    (same : ∀ family ∈ operationFamilies, ∀ key, InFamily family key →
      final.store.get key = module.store.get key) : Ledger externals final := by
  have outcomes := same .operation (by decide)
  have counter := same .operationBytes (by decide) _ operationBytesKey_inFamily
  have limit := same .operationBudget (by decide) _ operationBudgetKey_inFamily
  constructor
  · intro key value inFamily stored
    rw [outcomes key inFamily] at stored
    exact ledger.records key value inFamily stored
  · intro index value inFamily
    rw [same .operationExpiry (by decide) index inFamily, ledger.expiries index value inFamily]
    constructor
    · rintro ⟨key, record, keyFamily, stored, rest⟩
      rw [← outcomes key keyFamily] at stored
      exact ⟨key, record, keyFamily, stored, rest⟩
    · rintro ⟨key, record, keyFamily, stored, rest⟩
      rw [outcomes key keyFamily] at stored
      exact ⟨key, record, keyFamily, stored, rest⟩
  · rw [operationBytes_congr counter, operationBudget_congr limit, outcomeBytes_congr outcomes]
    exact ledger.counted

theorem Ledger.change {request : Request} (change : Change externals request module final) :
    Ledger externals final :=
  ledger.congr fun _ listed _ inFamily => change.operations_get listed inFamily

theorem setOperationBudget_ledger (bytes : UInt64) :
    (setOperationBudget bytes).Wp (fun _ final => Ledger externals final) module := by
  apply Exec.Wp.failIf
  · intro _
    exact ledger
  intro _
  apply Exec.Wp.query
  · intro failure _
    exact ledger
  intro retained read
  apply Exec.Wp.failIf
  · intro _
    exact ledger
  intro enough
  have other : ∀ family ∈ operationFamilies, family ≠ .operationBudget → ∀ key,
      InFamily family key → (module.withStored operationBudgetKey (.counter bytes)).store.get key =
          module.store.get key := by
    intro family _ different key inFamily
    rw [withStored_get, if_neg (inFamily.ne operationBudgetKey_inFamily different)]
  have outcomes := other .operation (by decide) (by decide)
  have counter := other .operationBytes (by decide) (by decide) _ operationBytesKey_inFamily
  obtain ⟨counted, _, isCounted, _, exactly, _⟩ := ledger.counted
  constructor
  · intro key value inFamily stored
    exact ledger.records key value inFamily (outcomes key inFamily ▸ stored)
  · intro index value inFamily
    have sameIndex := other .operationExpiry (by decide) (by decide) index inFamily
    change (module.withStored operationBudgetKey (.counter bytes)).store.get index = _ ↔ _
    rw [sameIndex, ledger.expiries index value inFamily]
    refine exists_congr fun key => exists_congr fun record => and_congr_right fun keyFamily => ?_
    change _ ↔ (module.withStored operationBudgetKey (.counter bytes)).store.get key = _ ∧ _
    rw [outcomes key keyFamily]
  · have enoughCounted : counted ≤ bytes := by
      rw [read] at isCounted
      cases isCounted
      exact UInt64.not_lt.mp enough
    refine ⟨counted, bytes, (operationBytes_congr counter).trans isCounted, ?_,
      exactly.trans (outcomeBytes_congr outcomes).symm, enoughCounted⟩
    exact operationBudget_of_stored ((withStored_get _ _ _).trans (if_pos rfl))

variable {record : OperationRecord}

theorem Ledger.added {hash : Bytes} (hashWidth : hash.length = 32) (width : record.id.length = 32)
    (fresh : module.store.get (operationPrefix ++ hash ++ record.id) = none)
    (outcomes : ∀ other, InFamily .operation other → final.store.get other =
      if other = operationPrefix ++ hash ++ record.id then some (.operation record)
      else module.store.get other)
    (indexes : ∀ other, InFamily .operationExpiry other → final.store.get other =
      if other = operationExpiryKey record.id (operationPrefix ++ hash ++ record.id) then
        some (.reference (operationPrefix ++ hash ++ record.id))
      else module.store.get other)
    (counted : ∃ bytes budget, operationBytes final = .ok bytes ∧
      operationBudget final = .ok budget ∧
        bytes.toNat = outcomeBytes externals module +
          externals.encodedLength (.operation record) ∧ bytes ≤ budget) :
    Ledger externals final := by
  have isOutcome : InFamily .operation (operationPrefix ++ hash ++ record.id) := by
    simp [InFamily, Family.header]
  have total : outcomeBytes externals final =
      outcomeBytes externals module + externals.encodedLength (.operation record) := by
    have scanned := OrderedMap.prefixScan_perm_cons isOutcome fresh outcomes
    have sums := (scanned.map fun entry => externals.encodedLength entry.2).sum_nat
    simpa [outcomeBytes, scan, Family.header, Nat.add_comm] using sums
  have before : ∀ key held, InFamily .operation key →
      module.store.get key = some (.operation held) →
        key ≠ operationPrefix ++ hash ++ record.id := by
    rintro key held _ stored rfl
    rw [fresh] at stored
    cases stored
  constructor
  · intro key value inFamily stored
    rw [outcomes key inFamily] at stored
    split at stored
    · rename_i same
      cases stored
      exact ⟨hash, record, hashWidth, width, same, rfl⟩
    · exact ledger.records key value inFamily stored
  · intro index value inFamily
    rw [indexes index inFamily]
    constructor
    · intro stored
      split at stored
      · rename_i same
        cases stored
        exact ⟨_, record, isOutcome, by rw [outcomes _ isOutcome, if_pos rfl], same, rfl⟩
      · obtain ⟨key, held, keyFamily, found, rest⟩ :=
          (ledger.expiries index value inFamily).mp stored
        have different := before key held keyFamily found
        exact ⟨key, held, keyFamily, by rw [outcomes key keyFamily, if_neg different, found], rest⟩
    · rintro ⟨key, held, keyFamily, found, rfl, rfl⟩
      rw [outcomes key keyFamily] at found
      split at found
      · rename_i same
        cases found
        rw [same, if_pos rfl]
      · have different : operationExpiryKey held.id key ≠
            operationExpiryKey record.id (operationPrefix ++ hash ++ record.id) := by
          intro same
          obtain ⟨_, _, _, heldWidth, rfl, isHeld⟩ := ledger.records key _ keyFamily found
          cases isHeld
          exact before _ _ keyFamily found (operationExpiryKey_inj heldWidth width same)
        rw [if_neg different]
        exact (ledger.expiries _ _ inFamily).mpr ⟨key, held, keyFamily, found, rfl, rfl⟩
  · rw [total]
    exact counted

end

theorem retainedWith_ok {added : Nat} {retained : UInt64}
    (counted : retainedWith added module = .ok retained) :
    ∃ bytes budget, operationBytes module = .ok bytes ∧ operationBudget module = .ok budget ∧
      retained.toNat = bytes.toNat + added ∧ retained ≤ budget := by
  unfold retainedWith at counted
  split at counted
  · cases counted
  obtain ⟨bytes, isBytes, counted⟩ := exceptBind_ok counted
  split at counted
  · cases counted
  rename_i noOverflow
  obtain ⟨budget, isBudget, counted⟩ := exceptBind_ok counted
  split at counted
  · cases counted
  rename_i within
  cases counted
  refine ⟨bytes, budget, isBytes, isBudget, ?_, UInt64.not_lt.mp within⟩
  exact UInt64.toNat_ofNat_of_lt' (Nat.not_le.mp noOverflow)

theorem completeOperation_ledger (ledger : Ledger externals module)
    (hashWidth : ∀ bytes, (externals.hashing.sha256 bytes).length = 32) {actor : String}
    (width : record.id.length = 32)
    (fresh : ∀ key, operationKey externals actor record.id = .ok key →
      module.store.get key = none) :
    (completeOperation externals actor record).Wp (fun _ final => Ledger externals final)
      module := by
  apply Exec.Wp.ofExcept
  · intro failure _
    exact ledger
  intro key named
  apply Exec.Wp.query
  · intro failure _
    exact ledger
  intro retained counted
  apply Exec.Wp.modify
  apply Exec.Wp.modify
  have keyFamily := operationKey_inFamily named
  have indexFamily := operationExpiryKey_inFamily record.id key
  obtain ⟨hash, isHash, rfl⟩ := operationKey_split hashWidth named
  obtain ⟨bytes, budget, isBytes, isBudget, sum, within⟩ := retainedWith_ok counted
  obtain ⟨_, _, sameBytes, _, exactly, _⟩ := ledger.counted
  rw [isBytes] at sameBytes
  cases sameBytes
  apply ledger.added isHash width (fresh _ named)
  · intro other inFamily
    change ((((module.withStored _ _).withStored _ _).withStored _ _).store.get other) = _
    rw [withStored_get, if_neg (inFamily.ne operationBytesKey_inFamily (by decide)),
      withStored_get, if_neg (inFamily.ne indexFamily (by decide)), withStored_get]
  · intro other inFamily
    change ((((module.withStored _ _).withStored _ _).withStored _ _).store.get other) = _
    rw [withStored_get, if_neg (inFamily.ne operationBytesKey_inFamily (by decide)),
      withStored_get, withStored_get (operationPrefix ++ hash ++ record.id),
      if_neg (inFamily.ne keyFamily (by decide))]
  · refine ⟨retained, budget, ?_, ?_, by rw [sum, exactly], within⟩
    · exact operationBytes_of_stored ((withStored_get _ _ _).trans (if_pos rfl))
    · rw [← isBudget]
      apply operationBudget_congr
      have inFamily := operationBudgetKey_inFamily
      change ((((module.withStored _ _).withStored _ _).withStored _ _).store.get _) = _
      rw [withStored_get, if_neg (inFamily.ne operationBytesKey_inFamily (by decide)),
        withStored_get, if_neg (inFamily.ne indexFamily (by decide)), withStored_get,
        if_neg (inFamily.ne keyFamily (by decide))]

end Steps

/-! ## Sweeps -/

section Sweeps

variable {externals : Externals} {module : AcpModule}

/-- An outcome record under its key. -/
abbrev Outcome : Type :=
  Bytes × OperationRecord

namespace Outcome

def index (outcome : Outcome) : Bytes :=
  operationExpiryKey outcome.2.id outcome.1

def expiry (outcome : Outcome) : Bytes × StoredValue :=
  (outcome.index, .reference outcome.1)

def Held (module : AcpModule) (outcome : Outcome) : Prop :=
  InFamily .operation outcome.1 ∧ module.store.get outcome.1 = some (.operation outcome.2)

end Outcome

def bytesOf (externals : Externals) (outcomes : List Outcome) : Nat :=
  (outcomes.map fun outcome => externals.encodedLength (.operation outcome.2)).sum

theorem Ledger.mem_index_iff (ledger : Ledger externals module) {entry : Bytes × StoredValue} :
    entry ∈ module.scan operationExpiryPrefix ↔
      ∃ outcome : Outcome, outcome.Held module ∧ entry = outcome.expiry := by
  obtain ⟨index, value⟩ := entry
  unfold scan
  rw [OrderedMap.mem_prefixScan_iff]
  constructor
  · rintro ⟨starts, stored⟩
    obtain ⟨key, record, keyFamily, found, rfl, rfl⟩ :=
      (ledger.expiries index value starts).mp stored
    exact ⟨(key, record), ⟨keyFamily, found⟩, rfl⟩
  · rintro ⟨⟨key, record⟩, ⟨keyFamily, found⟩, same⟩
    cases same
    have inFamily := operationExpiryKey_inFamily record.id key
    exact ⟨inFamily, (ledger.expiries _ _ inFamily).mpr ⟨key, record, keyFamily, found, rfl, rfl⟩⟩

/-- A sweep goes through the index until a deadline that has not passed, and finds
what each entry names. -/
theorem Ledger.collect (ledger : Ledger externals module) (now : UInt64)
    {entries : List (Bytes × StoredValue)} {removed : Nat}
    (scanned : ∀ entry ∈ entries, entry ∈ module.scan operationExpiryPrefix)
    (small : ∀ gone : List Outcome, (∀ outcome ∈ gone, outcome.Held module) →
      gone.map Outcome.expiry <+: entries → removed + bytesOf externals gone < 2 ^ 64) :
    ∃ gone : List Outcome, (∀ outcome ∈ gone, outcome.Held module) ∧
      gone.map Outcome.expiry <+: entries ∧
        collectOutcomes externals now module entries removed =
          .ok (gone.map fun outcome => (outcome.index, outcome.1),
            removed + bytesOf externals gone) := by
  induction entries generalizing removed with
  | nil => exact ⟨[], nofun, List.nil_prefix, rfl⟩
  | cons entry rest ih =>
    obtain ⟨⟨key, record⟩, held, rfl⟩ := ledger.mem_index_iff.mp (scanned entry List.mem_cons_self)
    obtain ⟨hash, same, hashWidth, width, isKey, isRecord⟩ :=
      ledger.records key (.operation record) held.1 held.2
    cases isRecord
    obtain rfl := isKey
    have deadline := expiryOf_operationExpiryKey width (operationPrefix ++ hash ++ record.id)
    have long : ¬ (record.id.take 8).length < 8 := by simp [width]
    unfold collectOutcomes
    dsimp only [Outcome.expiry, Outcome.index]
    unfold expiredOutcome
    rw [deadline, if_neg long]
    by_cases later : beBytes now < record.id.take 8
    · rw [if_pos later]
      exact ⟨[], nofun, List.nil_prefix, rfl⟩
    · have one := small [(operationPrefix ++ hash ++ record.id, record)]
        (by simpa using held) (by simp)
      simp only [bytesOf, List.map_cons, List.map_nil, List.sum_cons, List.sum_nil] at one
      have noOverflow : ¬ 2 ^ 64 ≤ removed + externals.encodedLength (.operation record) := by
        omega
      have formed := wellFormedReference_operationExpiryKey hashWidth width
      obtain ⟨gone, allHeld, leads, collected⟩ := @ih
        (removed + externals.encodedLength (.operation record))
        (fun other member => scanned other (List.mem_cons_of_mem _ member)) (by
          intro gone allHeld leads
          have more := small ((operationPrefix ++ hash ++ record.id, record) :: gone)
            (List.forall_mem_cons.mpr ⟨held, allHeld⟩) (List.cons_prefix_cons.mpr ⟨rfl, leads⟩)
          simp only [bytesOf, List.map_cons, List.sum_cons] at more ⊢
          omega)
      refine ⟨(operationPrefix ++ hash ++ record.id, record) :: gone,
        List.forall_mem_cons.mpr ⟨held, allHeld⟩, List.cons_prefix_cons.mpr ⟨rfl, leads⟩, ?_⟩
      have found := held.2
      dsimp only at found
      simp only [if_neg later, formed, found, if_neg noOverflow, collected, Bool.true_eq_false,
        if_false]
      simp [bytesOf, Outcome.index, Nat.add_assoc]

variable {gone : List Outcome}

theorem nodup_of_expiry
    (leads : gone.map Outcome.expiry <+:
      (module.scan operationExpiryPrefix).take operationPruneLimit) : gone.Nodup := by
  have distinct : (module.scan operationExpiryPrefix).Nodup := OrderedMap.prefixScan_nodup _ _
  exact (distinct.sublist (leads.sublist.trans (List.take_sublist _ _))).of_map

theorem bytesOf_le {gone : List Outcome} (distinct : gone.Nodup)
    (held : ∀ outcome ∈ gone, outcome.Held module) :
    bytesOf externals gone ≤ outcomeBytes externals module := by
  have inject : Function.Injective fun outcome : Outcome =>
      (outcome.1, StoredValue.operation outcome.2) := by
    rintro ⟨first, firstRecord⟩ ⟨second, secondRecord⟩ same
    simpa using same
  have subset : gone.map (fun outcome => (outcome.1, StoredValue.operation outcome.2)) ⊆
      module.scan operationPrefix := by
    intro entry member
    obtain ⟨outcome, inGone, rfl⟩ := List.mem_map.mp member
    exact OrderedMap.mem_prefixScan_iff.mpr (held outcome inGone)
  obtain ⟨listed, same, sub⟩ := List.subperm_of_subset (distinct.map inject) subset
  have sums := (same.map fun entry => externals.encodedLength entry.2).sum_nat
  have bound := (sub.map fun entry => externals.encodedLength entry.2).sum_le_sum
    (fun _ _ => Nat.zero_le _)
  unfold bytesOf outcomeBytes
  rw [sums, List.map_map] at bound
  exact bound

variable (ledger : Ledger externals module)

include ledger

theorem Ledger.removed {final : AcpModule} (distinct : gone.Nodup)
    (held : ∀ outcome ∈ gone, outcome.Held module)
    (outcomes : ∀ other, InFamily .operation other → final.store.get other =
      if other ∈ gone.map Prod.fst then none else module.store.get other)
    (indexes : ∀ other, InFamily .operationExpiry other → final.store.get other =
      if other ∈ gone.map Outcome.index then none else module.store.get other)
    (counted : ∃ bytes budget, operationBytes final = .ok bytes ∧
      operationBudget final = .ok budget ∧
        bytes.toNat = outcomeBytes externals module - bytesOf externals gone ∧
          bytes ≤ budget) : Ledger externals final := by
  have total : outcomeBytes externals module =
      bytesOf externals gone + outcomeBytes externals final := by
    have inject : Function.Injective fun outcome : Outcome =>
        (outcome.1, StoredValue.operation outcome.2) := by
      rintro ⟨first, firstRecord⟩ ⟨second, secondRecord⟩ same
      simpa using same
    have scanned := OrderedMap.prefixScan_perm_append (distinct.map inject) (by
        intro entry member
        obtain ⟨outcome, inGone, rfl⟩ := List.mem_map.mp member
        exact OrderedMap.mem_prefixScan_iff.mpr (held outcome inGone))
      (by
        intro other starts
        rw [outcomes other starts, List.map_map]
        rfl)
    have sums := (scanned.map fun entry => externals.encodedLength entry.2).sum_nat
    simpa [outcomeBytes, bytesOf, scan, Family.header, Function.comp_def] using sums
  have sameSide : ∀ outcome : Outcome, outcome.Held module →
      (outcome.index ∈ gone.map Outcome.index ↔ outcome.1 ∈ gone.map Prod.fst) := by
    intro outcome isHeld
    constructor
    · intro member
      obtain ⟨other, inGone, same⟩ := List.mem_map.mp member
      have otherHeld := held other inGone
      rw [← ledger.index_eq otherHeld.1 otherHeld.2 isHeld.1 isHeld.2 same]
      exact List.mem_map_of_mem inGone
    · intro member
      obtain ⟨other, inGone, same⟩ := List.mem_map.mp member
      have otherHeld := (held other inGone).2
      rw [same, isHeld.2] at otherHeld
      have isOther : outcome = other := Prod.ext same.symm (by simpa using otherHeld)
      rw [isOther]
      exact List.mem_map_of_mem inGone
  constructor
  · intro key value inFamily stored
    rw [outcomes key inFamily] at stored
    obtain ⟨_, stored⟩ := Option.ite_none_left_eq_some.mp stored
    exact ledger.records key value inFamily stored
  · intro index value inFamily
    rw [indexes index inFamily]
    constructor
    · intro stored
      obtain ⟨kept, stored⟩ := Option.ite_none_left_eq_some.mp stored
      obtain ⟨key, record, keyFamily, found, rfl, rfl⟩ :=
        (ledger.expiries index value inFamily).mp stored
      have keptKey := mt (sameSide (key, record) ⟨keyFamily, found⟩).mpr kept
      exact ⟨key, record, keyFamily, by rw [outcomes key keyFamily, if_neg keptKey, found],
        rfl, rfl⟩
    · rintro ⟨key, record, keyFamily, found, rfl, rfl⟩
      rw [outcomes key keyFamily] at found
      obtain ⟨kept, found⟩ := Option.ite_none_left_eq_some.mp found
      have keptIndex := mt (sameSide (key, record) ⟨keyFamily, found⟩).mp kept
      have entered := (ledger.expiries _ _ inFamily).mpr ⟨key, record, keyFamily, found, rfl, rfl⟩
      exact (if_neg keptIndex).trans entered
  · obtain ⟨bytes, budget, isBytes, isBudget, sum, within⟩ := counted
    exact ⟨bytes, budget, isBytes, isBudget, by omega, within⟩

theorem Ledger.prune (now : UInt64) :
    ∃ final, (pruneOperations externals now).run module = (.ok (), final) ∧
      Ledger externals final := by
  obtain ⟨bytes, budget, isBytes, isBudget, exactly, within⟩ := ledger.counted
  have bound := bytes.toNat_lt
  obtain ⟨gone, held, leads, collected⟩ := @Ledger.collect _ _ ledger now
    ((module.scan operationExpiryPrefix).take operationPruneLimit) 0
    (fun _ member => List.mem_of_mem_take member) (by
      intro gone held leads
      have part := @bytesOf_le externals _ _ (nodup_of_expiry leads) held
      omega)
  rw [Nat.zero_add] at collected
  have distinct := nodup_of_expiry leads
  have part := @bytesOf_le externals _ _ distinct held
  by_cases none : gone = []
  · subst none
    have pruned : prunedOutcomes externals now module = .ok Option.none := by
      unfold prunedOutcomes
      rw [collected]
      rfl
    refine ⟨module, ?_, ledger⟩
    unfold pruneOperations
    rw [Exec.run_query_bind module pruned]
    rfl
  · have pruned : prunedOutcomes externals now module =
        .ok (some (gone.flatMap fun outcome => [outcome.1, outcome.index],
          UInt64.ofNat (bytes.toNat - bytesOf externals gone))) := by
      unfold prunedOutcomes
      rw [collected]
      simp [none, isBytes, exactly, List.flatMap_map, Nat.not_lt.mpr part]
    refine ⟨((gone.flatMap fun outcome => [outcome.1, outcome.index]).foldl withoutStored
      module).withStored operationBytesKey
        (.counter (UInt64.ofNat (bytes.toNat - bytesOf externals gone))), ?_, ?_⟩
    · unfold pruneOperations
      rw [Exec.run_query_bind module pruned]
      rfl
    have isIndex : ∀ outcome : Outcome, InFamily .operationExpiry outcome.index :=
      fun outcome => operationExpiryKey_inFamily _ _
    apply ledger.removed distinct held
    · intro other inFamily
      rw [withStored_get, if_neg (inFamily.ne operationBytesKey_inFamily (by decide)),
        foldl_withoutStored_get]
      have listed : (other ∈ gone.flatMap fun outcome => [outcome.1, outcome.index]) ↔
          other ∈ gone.map Prod.fst := by
        have apart : ∀ outcome : Outcome, other ≠ outcome.index :=
          fun outcome => inFamily.ne (isIndex outcome) (by decide)
        simp [apart, eq_comm]
      simp only [listed]
    · intro other inFamily
      rw [withStored_get, if_neg (inFamily.ne operationBytesKey_inFamily (by decide)),
        foldl_withoutStored_get]
      have listed : (other ∈ gone.flatMap fun outcome => [outcome.1, outcome.index]) ↔
          other ∈ gone.map Outcome.index := by
        have apart : ∀ outcome ∈ gone, other ≠ outcome.1 :=
          fun outcome member => inFamily.ne (held outcome member).1 (by decide)
        simp only [List.mem_flatMap, List.mem_map, List.mem_cons, List.not_mem_nil, or_false]
        constructor
        · rintro ⟨outcome, member, isKey | isEntry⟩
          · exact absurd isKey (apart outcome member)
          · exact ⟨outcome, member, isEntry.symm⟩
        · rintro ⟨outcome, member, isEntry⟩
          exact ⟨outcome, member, .inr isEntry.symm⟩
      simp only [listed]
    · refine ⟨UInt64.ofNat (bytes.toNat - bytesOf externals gone), budget, ?_, ?_, ?_, ?_⟩
      · exact operationBytes_of_stored ((withStored_get _ _ _).trans (if_pos rfl))
      · rw [← isBudget]
        apply operationBudget_congr
        have inFamily := operationBudgetKey_inFamily
        rw [withStored_get, if_neg (inFamily.ne operationBytesKey_inFamily (by decide)),
          foldl_withoutStored_get, if_neg]
        simp only [List.mem_flatMap, List.mem_cons, List.not_mem_nil, or_false]
        rintro ⟨outcome, member, isKey | isEntry⟩
        · exact inFamily.ne (held outcome member).1 (by decide) isKey
        · exact inFamily.ne (isIndex outcome) (by decide) isEntry
      · rw [UInt64.toNat_ofNat_of_lt' (by change _ < 2 ^ 64; omega), exactly]
      · rw [UInt64.le_iff_toNat_le] at within ⊢
        rw [UInt64.toNat_ofNat_of_lt' (by change _ < 2 ^ 64; omega)]
        omega

/-- The retained outcomes, and one entry of the index for each of them. -/
theorem Ledger.index_perm :
    ∃ retained : List Outcome,
      module.scan operationPrefix =
          retained.map (fun outcome => (outcome.1, .operation outcome.2)) ∧
        (∀ outcome ∈ retained, outcome.2.id.length = 32) ∧
          (module.scan operationExpiryPrefix).Perm (retained.map Outcome.expiry) := by
  have typed : ∀ entries : List (Bytes × StoredValue),
      (∀ entry ∈ entries, ∃ record, entry.2 = .operation record) →
        ∃ retained : List Outcome,
          entries = retained.map fun outcome => (outcome.1, .operation outcome.2) := by
    intro entries
    induction entries with
    | nil => exact fun _ => ⟨[], rfl⟩
    | cons entry rest ih =>
      intro all
      obtain ⟨record, isRecord⟩ := all entry List.mem_cons_self
      obtain ⟨retained, same⟩ := ih fun other member => all other (List.mem_cons_of_mem _ member)
      exact ⟨(entry.1, record) :: retained, by simp [same, ← isRecord]⟩
  have stored : ∀ entry ∈ module.scan operationPrefix, InFamily .operation entry.1 ∧
      module.store.get entry.1 = some entry.2 :=
    fun entry member => OrderedMap.mem_prefixScan_iff.mp member
  obtain ⟨retained, same⟩ := typed (module.scan operationPrefix) fun entry member => by
    obtain ⟨_, record, _, _, _, isRecord⟩ :=
      ledger.records _ _ (stored entry member).1 (stored entry member).2
    exact ⟨record, isRecord⟩
  have isHeld : ∀ outcome : Outcome, outcome ∈ retained ↔ outcome.Held module := by
    intro outcome
    have listed : (outcome.1, StoredValue.operation outcome.2) ∈ module.scan operationPrefix ↔
        outcome ∈ retained := by
      rw [same]
      simp
    rw [← listed]
    exact OrderedMap.mem_prefixScan_iff
  refine ⟨retained, same, ?_, ?_⟩
  · intro outcome member
    have held := (isHeld outcome).mp member
    obtain ⟨_, record, _, width, _, isRecord⟩ := ledger.records _ _ held.1 held.2
    cases isRecord
    exact width
  · have distinct : retained.Nodup := by
      have scanned : (module.scan operationPrefix).Nodup := OrderedMap.prefixScan_nodup _ _
      rw [same] at scanned
      exact scanned.of_map
    apply (List.perm_ext_iff_of_nodup (OrderedMap.prefixScan_nodup _ _) (distinct.map_on ?_)).mpr
    · intro entry
      rw [List.mem_map]
      refine ledger.mem_index_iff.trans (exists_congr fun outcome => ?_)
      rw [isHeld, eq_comm]
    · intro first inFirst second inSecond sameEntry
      have heldFirst := (isHeld first).mp inFirst
      have heldSecond := (isHeld second).mp inSecond
      have sameKey : first.1 = second.1 := by simpa [Outcome.expiry] using congrArg Prod.snd sameEntry
      have sameValue := heldSecond.2
      rw [← sameKey, heldFirst.2] at sameValue
      exact Prod.ext sameKey (by simpa using sameValue)

end Sweeps

end AcpModule

end VeraHub.Acp
