import VeraHub.Executor.CallFrames
import VeraHub.Library.Words

/-!
# Account and storage state over pending batches

An executed block becomes a change set, which is written into three batches:
account records by address, storage values by address, generation and slot, and
code by its hash.  The generation of an account stands in its record and is
raised when the account is created or destroyed, so that values written before
are no longer found.  A destroyed account loses its record together with the
generation, and counting starts again with the next update.
-/

namespace VeraHub.Backend

open VeraHub.Executor (Address)

abbrev U256 : Type :=
  BitVec 256

abbrev B256 : Type :=
  BitVec 256

/-! ## Change sets -/

/-- The state changes of one account. -/
structure AccountUpdate where
  created : Bool
  selfdestructed : Bool
  nonce : UInt64
  balance : U256
  codeHash : B256
  code : Option Bytes
  storage : OrderedMap U256 U256

/-- Account changes by address. -/
structure ChangeSet where
  accounts : OrderedMap Address AccountUpdate

namespace AccountUpdate

def merge (update other : AccountUpdate) : AccountUpdate :=
  let cleared :=
    if other.created ∨ other.selfdestructed then .empty else update.storage
  { created := update.created || other.created
    selfdestructed := other.selfdestructed
    nonce := other.nonce
    balance := other.balance
    codeHash := other.codeHash
    code :=
      if update.codeHash ≠ other.codeHash ∨ other.code.isSome then other.code
      else update.code
    storage :=
      if other.selfdestructed then cleared
      else other.storage.entries.foldl
        (fun storage entry => storage.insert entry.1 entry.2) cleared }

end AccountUpdate

namespace ChangeSet

def new : ChangeSet :=
  ⟨.empty⟩

def insert (changes : ChangeSet) (address : Address) (update : AccountUpdate) :
    ChangeSet :=
  match changes.accounts.get address with
  | some existing => ⟨changes.accounts.insert address (existing.merge update)⟩
  | none => ⟨changes.accounts.insert address update⟩

end ChangeSet

/-- An account of the executed state, with the flags the change set reads. -/
structure EvmAccount where
  touched : Bool
  created : Bool
  selfdestructed : Bool
  nonce : UInt64
  balance : U256
  codeHash : B256
  code : Option Bytes
  storage : List (U256 × U256)

def EvmAccount.update (account : EvmAccount) : AccountUpdate where
  created := account.created
  selfdestructed := account.selfdestructed
  nonce := account.nonce
  balance := account.balance
  codeHash := account.codeHash
  code := account.code
  storage := account.storage.foldl (fun storage entry => storage.insert entry.1 entry.2) .empty

def extractChanges (state : List (Address × EvmAccount)) : ChangeSet :=
  state.foldl (fun changes entry =>
    if entry.2.touched then changes.insert entry.1 entry.2.update
    else changes) .new

/-! ## Keys and records -/

def accountKey (address : Address) : Bytes :=
  wordBytes 20 address

def codeKey (hash : B256) : Bytes :=
  wordBytes 32 hash

def storageKey (address : Address) (generation : UInt64) (slot : U256) :
    Bytes :=
  wordBytes 20 address ++ beBytes generation ++ wordBytes 32 slot

/-- Nonce, balance, code hash and generation. -/
abbrev AccountRecord : Type :=
  UInt64 × U256 × B256 × UInt64

namespace AccountEncoding

def size : Nat := 80

def encode (nonce : UInt64) (balance : U256) (codeHash : B256) (generation : UInt64) : Bytes :=
  beBytes nonce ++ wordBytes 32 balance ++ wordBytes 32 codeHash ++ beBytes generation

def decode (bytes : Bytes) : Option AccountRecord :=
  if bytes.length < size then none
  else do
    let nonce ← fromBeBytes (bytes.take 8)
    let balance := wordOf 256 ((bytes.drop 8).take 32)
    let codeHash := wordOf 256 ((bytes.drop 40).take 32)
    let generation ← fromBeBytes ((bytes.drop 72).take 8)
    some (nonce, balance, codeHash, generation)

@[simp]
theorem decode_encode (nonce : UInt64) (balance : U256) (codeHash : B256) (generation : UInt64) :
    decode (encode nonce balance codeHash generation) =
      some (nonce, balance, codeHash, generation) := by
  have covers : 2 ^ 256 ≤ 256 ^ 32 := by decide +kernel
  have whole : ¬ (encode nonce balance codeHash generation).length < size := by
    simp [encode, size]
  unfold decode
  rw [if_neg whole]
  simp [encode, List.drop_append, wordOf_wordBytes covers,
    List.take_of_length_le, List.drop_eq_nil_of_le]

end AccountEncoding

theorem accountKey_inj {first second : Address} :
    accountKey first = accountKey second ↔ first = second :=
  wordBytes_inj (by decide +kernel)

theorem storageKey_inj {first second : Address} {old new : UInt64} {left right : U256} :
    storageKey first old left = storageKey second new right ↔
      first = second ∧ old = new ∧ left = right := by
  constructor
  · intro same
    obtain ⟨front, slots⟩ := List.append_inj same (by simp)
    obtain ⟨addresses, generations⟩ := List.append_inj front (by simp)
    exact ⟨(wordBytes_inj (by decide +kernel)).mp addresses, beBytes_injective generations,
      (wordBytes_inj (by decide +kernel)).mp slots⟩
  · rintro ⟨rfl, rfl, rfl⟩
    rfl

/-! ## Writing -/

/-- The pending batches of accounts, storage and code. -/
structure Batches where
  accountBatch : OrderedMap Bytes Bytes
  storageBatch : OrderedMap Bytes U256
  codeBatch : OrderedMap Bytes Bytes

def writeBatch {V : Type} (batch : OrderedMap Bytes V) (key : Bytes) : Option V → OrderedMap Bytes V
  | some value => batch.insert key value
  | none => batch.erase key

def saturatingSucc (generation : UInt64) : UInt64 :=
  if generation = UInt64.ofNat (UInt64.size - 1) then generation
  else generation + 1

namespace Batches

def empty : Batches :=
  ⟨.empty, .empty, .empty⟩

/-- The generation in the record of an address; a database that fails to
answer is left out. -/
def currentGeneration (batches : Batches) (address : Address) : UInt64 :=
  match batches.accountBatch.get (accountKey address) with
  | some value =>
    match AccountEncoding.decode value with
    | some (_, _, _, generation) => generation
    | none => 0
  | none => 0

def writeStorage (address : Address) (generation : UInt64)
    (batch : OrderedMap Bytes U256) (entry : U256 × U256) :
    OrderedMap Bytes U256 :=
  writeBatch batch (storageKey address generation entry.1)
    (if entry.2 = 0 then none else some entry.2)

def applyUpdate (batches : Batches) (entry : Address × AccountUpdate) :
    Batches :=
  let address := entry.1
  let update := entry.2
  let current := batches.currentGeneration address
  let generation :=
    if update.created ∨ update.selfdestructed then saturatingSucc current
    else current
  { accountBatch :=
      writeBatch batches.accountBatch (accountKey address) (if update.selfdestructed then none
          else some (AccountEncoding.encode update.nonce update.balance update.codeHash generation))
    storageBatch :=
      update.storage.entries.foldl (writeStorage address generation) batches.storageBatch
    codeBatch :=
      if update.selfdestructed then batches.codeBatch
      else
        match update.code with
        | some code => batches.codeBatch.insert (codeKey update.codeHash) code
        | none => batches.codeBatch }

def applyChanges (batches : Batches) (changes : ChangeSet) : Batches :=
  changes.accounts.entries.foldl applyUpdate batches

end Batches

/-! ## Reading -/

inductive StateDbError where
  | accountNotFound (address : Address)
  | codeNotFound (hash : B256)
  | storage (message : String)
deriving DecidableEq, Repr

namespace Batches

variable (batches : Batches)

def account (address : Address) : Except StateDbError (Option AccountRecord) :=
  match batches.accountBatch.get (accountKey address) with
  | none => .ok none
  | some value =>
    match AccountEncoding.decode value with
    | some record => .ok (some record)
    | none => .error (.storage "undecodable account record")

def requireAccount (address : Address) : Except StateDbError AccountRecord := do
  match ← batches.account address with
  | some record => .ok record
  | none => .error (.accountNotFound address)

def nonce (address : Address) : Except StateDbError UInt64 := do
  return (← batches.requireAccount address).1

def balance (address : Address) : Except StateDbError U256 := do
  return (← batches.requireAccount address).2.1

def codeHash (address : Address) : Except StateDbError B256 := do
  return (← batches.requireAccount address).2.2.1

def code (hash : B256) : Except StateDbError Bytes :=
  match batches.codeBatch.get (codeKey hash) with
  | some code => .ok code
  | none => .error (.codeNotFound hash)

def storage (address : Address) (slot : U256) : Except StateDbError U256 := do
  match ← batches.account address with
  | none => .ok 0
  | some (_, _, _, generation) =>
    .ok ((batches.storageBatch.get (storageKey address generation slot)).getD 0)

end Batches

/-! ## What a history of one address leaves

Updates of one address are listed from the newest to the oldest. -/

/-- The generation that an update uses after one with this generation. -/
def AccountUpdate.generation (current : UInt64) (update : AccountUpdate) :
    UInt64 :=
  if update.created ∨ update.selfdestructed then saturatingSucc current
  else current

/-- The number of creations since the account was last destroyed. -/
def generationOf : List AccountUpdate → UInt64
  | [] => 0
  | update :: older =>
    if update.selfdestructed then 0
    else update.generation (generationOf older)

def liveAccount : List AccountUpdate → Option AccountUpdate
  | [] => none
  | update :: _ => if update.selfdestructed then none else some update

/-- The value last written to a slot by an update that does not destroy the
account and that no later update creates again or destroys. -/
def liveSlot (slot : U256) : List AccountUpdate → Option U256
  | [] => none
  | update :: older =>
    if update.selfdestructed then none
    else
      match update.storage.get slot with
      | some value => some value
      | none => if update.created then none else liveSlot slot older

/-- The updates before the account was last created or destroyed. -/
def earlierLives : List AccountUpdate → List AccountUpdate
  | [] => []
  | update :: older =>
    if update.selfdestructed then update :: older
    else if update.created then older
    else earlierLives older

/-- The value last written to a slot under a generation. -/
def lastWritten (generation : UInt64) (slot : U256) : List AccountUpdate → Option U256
  | [] => none
  | update :: older =>
    let earlier := lastWritten generation slot older
    if update.generation (generationOf older) = generation then
      (update.storage.get slot).or earlier
    else earlier

/-- No value of an earlier life shows through: the address has no account, or
the slot was written in its present life, or the earlier updates that used the
same generation left it at zero. -/
def Hidden (slot : U256) (updates : List AccountUpdate) : Prop :=
  liveAccount updates = none ∨ (liveSlot slot updates).isSome ∨
    (lastWritten (generationOf updates) slot (earlierLives updates)).getD 0 = 0

/-- What is found under the present generation is the present life, or what
earlier lives left under the same number. -/
theorem lastWritten_generationOf (slot : U256) (updates : List AccountUpdate) :
    lastWritten (generationOf updates) slot updates =
      (liveSlot slot updates).or
        (lastWritten (generationOf updates) slot (earlierLives updates)) := by
  induction updates with
  | nil => rfl
  | cons update older ih =>
    by_cases destroyed : update.selfdestructed = true
    · simp only [liveSlot, earlierLives, destroyed, if_true, Option.none_or]
    · have current : generationOf (update :: older) =
          update.generation (generationOf older) := by
        rw [generationOf, if_neg destroyed]
      rw [lastWritten, if_pos current.symm, liveSlot, if_neg destroyed,
        earlierLives, if_neg destroyed]
      cases update.storage.get slot with
      | some value => rfl
      | none =>
        by_cases created : update.created = true
        · simp only [created, if_true, Option.none_or]
        · have same : update.generation (generationOf older) =
              generationOf older := by
            simp [AccountUpdate.generation, created, destroyed]
          simp only [created, Bool.false_eq_true, if_false, Option.none_or, current, same, ih]

/-! ## The batches reflect the history -/

def nonzero (value : Option U256) : Option U256 :=
  value.filter (· ≠ 0)

def recordOf : List AccountUpdate → Option Bytes
  | [] => none
  | update :: older =>
    if update.selfdestructed then none
    else some (AccountEncoding.encode update.nonce update.balance
      update.codeHash (update.generation (generationOf older)))

/-- The batches hold for every address what its updates left. -/
structure Reflects (batches : Batches) (updates : Address → List AccountUpdate) : Prop where
  record : ∀ address, batches.accountBatch.get (accountKey address) = recordOf (updates address)
  slot : ∀ address generation slot,
    batches.storageBatch.get (storageKey address generation slot) =
      nonzero (lastWritten generation slot (updates address))

theorem get_writeBatch {V : Type} (batch : OrderedMap Bytes V)
    (key other : Bytes) (value : Option V) : (writeBatch batch key value).get other =
      if other = key then value else batch.get other := by
  cases value with
  | some value =>
    rw [writeBatch, OrderedMap.get_insert]
    split <;> rfl
  | none =>
    rw [writeBatch, OrderedMap.get_erase]
    split <;> rfl

/-- The slots of an update are written under its address and generation, and
nothing else is. -/
theorem get_foldl_writeStorage (address other : Address)
    (generation used : UInt64) (slot : U256) {entries : List (U256 × U256)}
    (sorted : entries.Pairwise fun first second => first.1 < second.1)
    (batch : OrderedMap Bytes U256) :
    (entries.foldl (Batches.writeStorage address used) batch).get
        (storageKey other generation slot) =
      if other = address ∧ generation = used then
        match entries.lookup slot with
        | some value => nonzero (some value)
        | none => batch.get (storageKey other generation slot)
      else batch.get (storageKey other generation slot) := by
  induction entries generalizing batch with
  | nil => simp
  | cons entry rest ih =>
    obtain ⟨above, restSorted⟩ := List.pairwise_cons.mp sorted
    have kept : (if entry.2 = 0 then none else some entry.2) =
        nonzero (some entry.2) := by
      simp [nonzero, Option.filter]
    rw [List.foldl_cons, ih restSorted,
      Batches.writeStorage, get_writeBatch, kept, List.lookup_cons]
    by_cases here : other = address ∧ generation = used
    · rw [if_pos here, if_pos here]
      by_cases same : slot = entry.1
      · have absent : rest.lookup slot = none := by
          apply List.lookup_eq_none_iff.mpr
          intro later member
          have apart := (above later member).ne
          rw [same]
          exact bne_iff_ne.mpr apart
        rw [absent, if_pos (storageKey_inj.mpr ⟨here.1, here.2, same⟩), beq_iff_eq.mpr same]
      · rw [beq_eq_false_iff_ne.mpr same, if_neg (fun whole => same (storageKey_inj.mp whole).2.2)]
    · have apart : storageKey other generation slot ≠
          storageKey address used entry.1 := by
        intro whole
        obtain ⟨sameAddress, sameGeneration, _⟩ := storageKey_inj.mp whole
        exact here ⟨sameAddress, sameGeneration⟩
      rw [if_neg here, if_neg here, if_neg apart]

variable {updates : Address → List AccountUpdate} {batches : Batches}

theorem Reflects.currentGeneration (reflects : Reflects batches updates) (address : Address) :
    batches.currentGeneration address = generationOf (updates address) := by
  unfold Batches.currentGeneration
  rw [reflects.record address]
  cases updates address with
  | nil => rfl
  | cons update older =>
    by_cases destroyed : update.selfdestructed = true
    · simp [recordOf, generationOf, destroyed]
    · simp [recordOf, generationOf, destroyed]

theorem Reflects.applyUpdate (reflects : Reflects batches updates) (address : Address)
    (update : AccountUpdate) :
    Reflects (batches.applyUpdate (address, update))
      (Function.update updates address (update :: updates address)) := by
  have used : (if update.created ∨ update.selfdestructed then
        saturatingSucc (batches.currentGeneration address)
      else batches.currentGeneration address) =
        update.generation (generationOf (updates address)) := by
    rw [reflects.currentGeneration]
    rfl
  constructor
  · intro other
    unfold Batches.applyUpdate
    simp only [get_writeBatch, accountKey_inj, used]
    by_cases same : other = address
    · subst same
      rw [if_pos rfl, Function.update_self]
      rfl
    · rw [if_neg same, Function.update_of_ne same, reflects.record]
  · intro other generation slot
    unfold Batches.applyUpdate
    simp only [used]
    rw [get_foldl_writeStorage _ _ _ _ _ update.storage.sorted, reflects.slot]
    by_cases same : other = address
    · subst same
      rw [Function.update_self, lastWritten]
      by_cases current : generation = update.generation (generationOf (updates other))
      · rw [if_pos ⟨rfl, current⟩, if_pos current.symm]
        unfold OrderedMap.get
        cases update.storage.entries.lookup slot with
        | some value => rfl
        | none => rfl
      · rw [if_neg (fun both => current both.2), if_neg (fun equality => current equality.symm)]
    · rw [Function.update_of_ne same, if_neg (fun both => same both.1)]

theorem Reflects.foldl_applyUpdate (reflects : Reflects batches updates)
    {entries : List (Address × AccountUpdate)}
    (sorted : entries.Pairwise fun first second => first.1 < second.1) :
    Reflects (entries.foldl Batches.applyUpdate batches)
      fun address => (entries.lookup address).toList ++ updates address := by
  induction entries generalizing batches updates with
  | nil => exact reflects
  | cons entry rest ih =>
    obtain ⟨above, restSorted⟩ := List.pairwise_cons.mp sorted
    have later := ih (reflects.applyUpdate entry.1 entry.2) restSorted
    have joined : (fun address => (rest.lookup address).toList ++
          Function.update updates entry.1 (entry.2 :: updates entry.1) address) =
        fun address => ((entry :: rest).lookup address).toList ++
          updates address := by
      funext address
      rw [List.lookup_cons]
      by_cases same : address = entry.1
      · have absent : rest.lookup address = none := by
          apply List.lookup_eq_none_iff.mpr
          intro other member
          rw [same]
          exact bne_iff_ne.mpr (above other member).ne
        rw [absent, same, Function.update_self, beq_self_eq_true]
        rfl
      · rw [Function.update_of_ne same, beq_eq_false_iff_ne.mpr same]
    rw [joined] at later
    exact later

/-- The updates of an address along a history, from the newest to the
oldest. -/
def updatesOf (history : List ChangeSet) (address : Address) :
    List AccountUpdate :=
  (history.filterMap fun changes => changes.accounts.get address).reverse

theorem Reflects.foldl_applyChanges (reflects : Reflects batches updates)
    (history : List ChangeSet) :
    Reflects (history.foldl Batches.applyChanges batches)
      fun address => updatesOf history address ++ updates address := by
  induction history generalizing batches updates with
  | nil => exact reflects
  | cons changes rest ih =>
    have later := ih (reflects.foldl_applyUpdate changes.accounts.sorted)
    have joined : (fun address => updatesOf rest address ++
          ((changes.accounts.entries.lookup address).toList ++ updates address)) =
        fun address => updatesOf (changes :: rest) address ++
          updates address := by
      funext address
      unfold updatesOf OrderedMap.get
      rw [List.filterMap_cons]
      cases changes.accounts.entries.lookup address with
      | none => rfl
      | some update => simp
    rw [joined] at later
    exact later

theorem reflects_history (history : List ChangeSet) :
    Reflects (history.foldl Batches.applyChanges .empty) (updatesOf history) := by
  have empty : Reflects .empty fun _ => [] := ⟨fun _ => rfl, fun _ _ _ => rfl⟩
  have reflects := empty.foldl_applyChanges history
  simpa using reflects

/-! ## Reads -/

section Reads

variable {batches : Batches} {updates : Address → List AccountUpdate}

theorem Reflects.account (reflects : Reflects batches updates) (address : Address) :
    batches.account address = .ok ((liveAccount (updates address)).map fun update =>
        (update.nonce, update.balance, update.codeHash,
          generationOf (updates address))) := by
  unfold Batches.account
  rw [reflects.record address]
  cases updates address with
  | nil => rfl
  | cons update older =>
    by_cases destroyed : update.selfdestructed = true
    · simp [recordOf, liveAccount, destroyed]
    · simp [recordOf, liveAccount, generationOf, destroyed]

theorem Reflects.requireAccount (reflects : Reflects batches updates) (address : Address) :
    batches.requireAccount address =
      match liveAccount (updates address) with
      | some update =>
        .ok (update.nonce, update.balance, update.codeHash, generationOf (updates address))
      | none => .error (.accountNotFound address) := by
  unfold Batches.requireAccount
  rw [reflects.account address]
  cases liveAccount (updates address) with
  | none => rfl
  | some update => rfl

theorem Reflects.read {α : Type} (reflects : Reflects batches updates)
    (address : Address) (field : AccountRecord → α) :
    (do return field (← batches.requireAccount address)) =
      match liveAccount (updates address) with
      | some update =>
        .ok (field (update.nonce, update.balance, update.codeHash, generationOf (updates address)))
      | none => .error (.accountNotFound address) := by
  rw [reflects.requireAccount address]
  cases liveAccount (updates address) with
  | none => rfl
  | some update => rfl

theorem getD_nonzero (value : Option U256) : (nonzero value).getD 0 = value.getD 0 := by
  cases value with
  | none => rfl
  | some value =>
    by_cases zero : value = 0#256
    · simp [nonzero, Option.filter, zero]
    · simp [nonzero, Option.filter, zero]

theorem Reflects.storage (reflects : Reflects batches updates) (address : Address) (slot : U256) :
    batches.storage address slot =
      match liveAccount (updates address) with
      | some _ =>
        .ok ((lastWritten (generationOf (updates address)) slot (updates address)).getD 0)
      | none => .ok 0 := by
  unfold Batches.storage
  rw [reflects.account address]
  cases liveAccount (updates address) with
  | none => rfl
  | some update =>
    change Except.ok _ = _
    rw [reflects.slot, getD_nonzero]

theorem liveSlot_of_liveAccount {slot : U256} {updates : List AccountUpdate}
    (dead : liveAccount updates = none) : liveSlot slot updates = none := by
  cases updates with
  | nil => rfl
  | cons update older =>
    by_cases destroyed : update.selfdestructed = true
    · rw [liveSlot, if_pos destroyed]
    · rw [liveAccount, if_neg destroyed] at dead
      cases dead

/-- A slot reads as the present life left it exactly when no earlier life shows
through. -/
theorem Reflects.storage_eq_live_iff (reflects : Reflects batches updates)
    (address : Address) (slot : U256) :
    batches.storage address slot = .ok ((liveSlot slot (updates address)).getD 0) ↔
      Hidden slot (updates address) := by
  rw [reflects.storage address slot]
  unfold Hidden
  cases alive : liveAccount (updates address) with
  | none => simp [liveSlot_of_liveAccount alive]
  | some update =>
    rw [lastWritten_generationOf]
    cases liveSlot slot (updates address) with
    | some value => simp
    | none => simp

end Reads

/-- After every history of change sets the account reads give the newest
update of the address, and a storage read gives what was written since the
account was last created or destroyed, exactly when no earlier life of the
account shows through. -/
theorem batch_reads_follow_history (history : List ChangeSet) (address : Address) (slot : U256) :
    let batches := history.foldl Batches.applyChanges .empty
    let updates := updatesOf history address
    batches.nonce address = (match liveAccount updates with
        | some update => .ok update.nonce
        | none => .error (.accountNotFound address)) ∧
      batches.balance address = (match liveAccount updates with
        | some update => .ok update.balance
        | none => .error (.accountNotFound address)) ∧
      batches.codeHash address = (match liveAccount updates with
        | some update => .ok update.codeHash
        | none => .error (.accountNotFound address)) ∧
      (batches.storage address slot = .ok ((liveSlot slot updates).getD 0) ↔
        Hidden slot updates) := by
  intro batches updates
  have reflects : Reflects batches (updatesOf history) := reflects_history history
  exact ⟨reflects.read address fun record => record.1,
    reflects.read address fun record => record.2.1,
    reflects.read address fun record => record.2.2.1, reflects.storage_eq_live_iff address slot⟩

/-- A contract writes a slot and destroys itself in the transaction that
created it. -/
def destroyedContract : EvmAccount where
  touched := true
  created := true
  selfdestructed := true
  nonce := 1
  balance := 0
  codeHash := 7
  code := none
  storage := [(1, 5)]

/-- A later transaction creates it once more, without writing to storage. -/
def createdAgain : EvmAccount :=
  { destroyedContract with selfdestructed := false, storage := [] }

/-- The value written before the destruction is read in the new contract. -/
theorem destroyed_storage_shows_through :
    let history := [extractChanges [(0xc0de, destroyedContract)],
      extractChanges [(0xc0de, createdAgain)]]
    (history.foldl Batches.applyChanges .empty).storage 0xc0de 1 = .ok 5 ∧
      (liveSlot 1 (updatesOf history 0xc0de)).getD 0 = 0 := by
  decide +kernel



end VeraHub.Backend
