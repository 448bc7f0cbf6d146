import VeraHub.Backend.BatchState

/-!
# Pending changes over a state

An overlay answers reads from a change set and asks the state below for the rest.
Change sets of consecutive blocks or transactions can be stacked as overlays or
merged into one.  Merging keeps only the latest destruction flag of an account, so
the two agree unless an account destroyed by the older set is touched, and neither
destroyed nor created, by the newer one.
-/

namespace VeraHub.Backend

open VeraHub.Executor (Address)

namespace ChangeSet

def merge (changes other : ChangeSet) : ChangeSet :=
  other.accounts.entries.foldl (fun changes entry => changes.insert entry.1 entry.2) changes

end ChangeSet

/-- The reads of a state database. -/
structure StateDbRead where
  nonce : Address → Except StateDbError UInt64
  balance : Address → Except StateDbError U256
  codeHash : Address → Except StateDbError B256
  code : B256 → Except StateDbError Bytes
  storage : Address → U256 → Except StateDbError U256

def overlayState (base : StateDbRead) (changes : ChangeSet) : StateDbRead where
  nonce address :=
    match changes.accounts.get address with
    | some update => .ok update.nonce
    | none => base.nonce address
  balance address :=
    match changes.accounts.get address with
    | some update => .ok update.balance
    | none => base.balance address
  codeHash address :=
    match changes.accounts.get address with
    | some update => .ok update.codeHash
    | none => base.codeHash address
  code hash :=
    match changes.accounts.entries.findSome? fun entry =>
        if entry.2.codeHash = hash then entry.2.code else none with
    | some code => .ok code
    | none => base.code hash
  storage address slot :=
    match changes.accounts.get address with
    | some update =>
      if update.selfdestructed then .ok 0
      else
        match update.storage.get slot with
        | some value => .ok value
        | none =>
          if update.created then .ok 0 else base.storage address slot
    | none => base.storage address slot

/-! ## Merged change sets -/

/-- What a merge leaves for an account that both sets may name. -/
def mergedUpdate (older : Option AccountUpdate) (newer : AccountUpdate) :
    AccountUpdate :=
  match older with
  | some existing => existing.merge newer
  | none => newer

theorem ChangeSet.insert_eq (changes : ChangeSet) (address : Address) (update : AccountUpdate) :
    (changes.insert address update).accounts =
      changes.accounts.insert address (mergedUpdate (changes.accounts.get address) update) := by
  unfold ChangeSet.insert mergedUpdate
  cases changes.accounts.get address with
  | some existing => rfl
  | none => rfl

theorem ChangeSet.accounts_foldl_insert
    (entries : List (Address × AccountUpdate)) (changes : ChangeSet) :
    (entries.foldl (fun changes entry => changes.insert entry.1 entry.2) changes).accounts =
      entries.foldl
        (fun accounts entry => accounts.insert entry.1
          (mergedUpdate (accounts.get entry.1) entry.2)) changes.accounts := by
  induction entries generalizing changes with
  | nil => rfl
  | cons entry rest ih =>
    rw [List.foldl_cons, List.foldl_cons, ih, ChangeSet.insert_eq]

theorem ChangeSet.get_merge (older newer : ChangeSet) (address : Address) :
    (older.merge newer).accounts.get address =
      match newer.accounts.get address with
      | some update =>
        some (mergedUpdate (older.accounts.get address) update)
      | none => older.accounts.get address := by
  unfold ChangeSet.merge
  rw [ChangeSet.accounts_foldl_insert,
    OrderedMap.get_foldl_combine mergedUpdate newer.accounts.sorted]
  unfold OrderedMap.get
  cases newer.accounts.entries.lookup address with
  | some update => rfl
  | none => rfl

theorem AccountUpdate.get_merge_storage (older newer : AccountUpdate)
    (alive : newer.selfdestructed = false) (slot : U256) : (older.merge newer).storage.get slot =
      match newer.storage.get slot with
      | some value => some value
      | none =>
        if newer.created then none else older.storage.get slot := by
  unfold AccountUpdate.merge
  have folded := OrderedMap.get_foldl_combine (fun _ value => value) newer.storage.sorted
    (if newer.created = true ∨ newer.selfdestructed = true then .empty
      else older.storage) slot
  dsimp only
  rw [alive, if_neg (by decide)]
  rw [alive] at folded
  rw [folded]
  cases written : newer.storage.get slot with
  | some value =>
    unfold OrderedMap.get at written
    rw [written]
  | none =>
    unfold OrderedMap.get at written
    rw [written]
    cases newer.created with
    | true => rfl
    | false => rfl

/-! ## Merging and stacking -/

/-- Two states answer every read of accounts and slots in the same way. -/
def SameReads (first second : StateDbRead) : Prop :=
  ∀ address, first.nonce address = second.nonce address ∧
    first.balance address = second.balance address ∧
    first.codeHash address = second.codeHash address ∧
    ∀ slot, first.storage address slot = second.storage address slot

/-- An update leaves a slot of a destroyed account alone. -/
def AccountUpdate.Revives (older newer : AccountUpdate) (slot : U256) : Prop :=
  older.selfdestructed = true ∧ newer.selfdestructed = false ∧
    newer.created = false ∧ newer.storage.get slot = none

/-- Nothing of a destroyed account shows through a newer update: each slot that
it leaves alone was written as zero, or not at all in an account that was
created. -/
def AccountUpdate.Forgets (older newer : AccountUpdate) : Prop :=
  ∀ slot, older.Revives newer slot →
    match older.storage.get slot with
    | some value => value = 0
    | none => older.created = true

/-- No account of the older set shows through the newer one. -/
def ChangeSet.Forgets (older newer : ChangeSet) : Prop :=
  ∀ address first second, older.accounts.get address = some first →
    newer.accounts.get address = some second → first.Forgets second

/-- Slots of one address, from the update that an overlay holds for it. -/
def updateSlot (update : AccountUpdate) (below : Except StateDbError U256)
    (slot : U256) : Except StateDbError U256 :=
  if update.selfdestructed then .ok 0
  else
    match update.storage.get slot with
    | some value => .ok value
    | none => if update.created then .ok 0 else below

variable {older newer : AccountUpdate}

/-- A revived slot is empty in the stack, and what the older update wrote, or
what lies below it, in the merge. -/
theorem updateSlot_of_revives {slot : U256} (revives : older.Revives newer slot)
    (below : Except StateDbError U256) :
    updateSlot newer (updateSlot older below slot) slot = .ok 0 ∧
      updateSlot (older.merge newer) below slot =
        match older.storage.get slot with
        | some value => .ok value
        | none => if older.created then .ok 0 else below := by
  obtain ⟨gone, alive, kept, untouched⟩ := revives
  have created : (older.merge newer).created = (older.created || newer.created) := rfl
  have destroyed : (older.merge newer).selfdestructed =
      newer.selfdestructed := rfl
  unfold updateSlot
  constructor
  · rw [alive, untouched, kept, gone]
    rfl
  · rw [destroyed, alive, created, kept,
      AccountUpdate.get_merge_storage older newer alive, untouched, kept, Bool.or_false]
    rfl

theorem updateSlot_merge {slot : U256} (ordinary : ¬ older.Revives newer slot)
    (below : Except StateDbError U256) :
    updateSlot (older.merge newer) below slot =
      updateSlot newer (updateSlot older below slot) slot := by
  have created : (older.merge newer).created = (older.created || newer.created) := rfl
  have destroyed : (older.merge newer).selfdestructed =
      newer.selfdestructed := rfl
  unfold updateSlot
  rw [destroyed]
  cases alive : newer.selfdestructed with
  | true => rfl
  | false =>
    rw [AccountUpdate.get_merge_storage older newer alive, created]
    cases written : newer.storage.get slot with
    | some value => rfl
    | none =>
      cases fresh : newer.created with
      | true =>
        rw [Bool.or_true]
        rfl
      | false =>
        rw [Bool.or_false]
        cases gone : older.selfdestructed with
        | true => exact absurd ⟨gone, alive, fresh, written⟩ ordinary
        | false => rfl

theorem overlayState_storage (base : StateDbRead) (changes : ChangeSet)
    (address : Address) (slot : U256) : (overlayState base changes).storage address slot =
      match changes.accounts.get address with
      | some update => updateSlot update (base.storage address slot) slot
      | none => base.storage address slot :=
  rfl

/-- The slots of a merge agree with those of the stack, below any state, where the
older set is forgotten. -/
theorem storage_merge_of_forgets {older newer : ChangeSet}
    (forgets : older.Forgets newer) (base : StateDbRead) (address : Address) (slot : U256) :
    (overlayState base (older.merge newer)).storage address slot =
      (overlayState (overlayState base older) newer).storage address
        slot := by
  rw [overlayState_storage, overlayState_storage, overlayState_storage, ChangeSet.get_merge]
  cases second : newer.accounts.get address with
  | none => rfl
  | some newest =>
    cases first : older.accounts.get address with
    | none => rfl
    | some oldest =>
      change updateSlot (oldest.merge newest) _ slot =
        updateSlot newest (updateSlot oldest _ slot) slot
      by_cases revives : oldest.Revives newest slot
      · obtain ⟨stacked, merged⟩ := updateSlot_of_revives revives (base.storage address slot)
        have shown := forgets address oldest newest first second slot revives
        rw [stacked, merged]
        cases written : oldest.storage.get slot with
        | some value =>
          rw [written] at shown
          change value = 0 at shown
          rw [shown]
        | none =>
          rw [written] at shown
          change oldest.created = true at shown
          exact if_pos shown
      · exact updateSlot_merge revives (base.storage address slot)

theorem field_merge {α : Type} (field : AccountUpdate → α)
    (latest : ∀ older newer : AccountUpdate, field (older.merge newer) = field newer)
    (older newer : ChangeSet) (address : Address) (below : Except StateDbError α) :
    (match (older.merge newer).accounts.get address with
      | some update => Except.ok (field update)
      | none => below) =
      match newer.accounts.get address with
      | some update => .ok (field update)
      | none =>
        match older.accounts.get address with
        | some update => .ok (field update)
        | none => below := by
  rw [ChangeSet.get_merge]
  cases newer.accounts.get address with
  | none => rfl
  | some newest =>
    cases older.accounts.get address with
    | none => rfl
    | some oldest => exact congrArg Except.ok (latest oldest newest)

def onesState : StateDbRead where
  nonce _ := .ok 0
  balance _ := .ok 0
  codeHash _ := .ok 0
  code hash := .error (.codeNotFound hash)
  storage _ _ := .ok 1

/-- Merged change sets read as stacked ones, over every state, exactly when no
account that the older set destroys shows through an update of the newer one. -/
theorem merged_reads_as_stacked_iff (older newer : ChangeSet) :
    (∀ base, SameReads (overlayState base (older.merge newer))
      (overlayState (overlayState base older) newer)) ↔
      older.Forgets newer := by
  constructor
  · intro same address oldest newest first second slot revives
    have agree := (same onesState address).2.2.2 slot
    rw [overlayState_storage, overlayState_storage, overlayState_storage,
      ChangeSet.get_merge, second, first] at agree
    change updateSlot (oldest.merge newest) (.ok 1) slot =
      updateSlot newest (updateSlot oldest (.ok 1) slot) slot at agree
    obtain ⟨stacked, merged⟩ := updateSlot_of_revives revives (.ok 1)
    rw [stacked, merged] at agree
    cases written : oldest.storage.get slot with
    | some value =>
      rw [written] at agree
      exact Except.ok.inj agree
    | none =>
      rw [written] at agree
      change oldest.created = true
      cases created : oldest.created with
      | true => rfl
      | false =>
        rw [created] at agree
        exact absurd (Except.ok.inj agree) (by decide)
  · intro forgets base address
    exact ⟨field_merge AccountUpdate.nonce (fun _ _ => rfl) older newer address
        _,
      field_merge AccountUpdate.balance (fun _ _ => rfl) older newer address _,
      field_merge AccountUpdate.codeHash (fun _ _ => rfl) older newer address
        _,
      storage_merge_of_forgets forgets base address⟩

def plainUpdate (balance : U256) : AccountUpdate where
  created := false
  selfdestructed := false
  nonce := 0
  balance := balance
  codeHash := 0
  code := none
  storage := .empty

/-- A contract that is created, writes a slot and is destroyed again. -/
def transientContract : EvmAccount where
  touched := true
  created := true
  selfdestructed := true
  nonce := 1
  balance := 0
  codeHash := 7
  code := none
  storage := [(1, 5)]

/-- The slot of a transient contract is read again after a transfer to its
address, though it is empty in the stacked states. -/
theorem transient_slot_shows_through :
    (overlayState onesState
      ((extractChanges [(9, transientContract)]).merge
        (ChangeSet.new.insert 9 (plainUpdate 3)))).storage 9 1 = .ok 5 ∧
      (overlayState (overlayState onesState (extractChanges [(9, transientContract)]))
        (ChangeSet.new.insert 9 (plainUpdate 3))).storage 9 1 = .ok 0 := by
  decide +kernel

end VeraHub.Backend
