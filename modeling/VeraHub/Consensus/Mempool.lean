import VeraHub.Domain.LightBlock

/-!
# The in-memory mempool

Pending transactions are kept three times over: in a map by identifier, in a queue
in order of admission and as a count of their bytes.  Arithmetic that would pass
below zero and a queued identifier without a transaction stop the program; both
are `none` here.
-/

namespace VeraHub.Consensus

abbrev TxId : Type :=
  Domain.B256

def maxTxBytes : Nat :=
  12 * 2 ^ 20 + 4096

def maxBlockTxs : Nat :=
  256

def maxPendingBytes : Nat :=
  64 * 2 ^ 20

def maxPendingTxs : Nat :=
  4096

/-- Seven bits to a byte, lowest first, the top bit set on all but the last. -/
def varint (value : Nat) : Bytes :=
  if value < 128 then [UInt8.ofNat value]
  else UInt8.ofNat (value % 128 + 128) :: varint (value / 128)
termination_by value
decreasing_by omega

/-- Raw transaction bytes. -/
structure Tx where
  bytes : Bytes
deriving DecidableEq

namespace Tx

def encode (tx : Tx) : Bytes :=
  varint tx.bytes.length ++ tx.bytes

def encodeSize (tx : Tx) : Nat :=
  tx.encode.length

def id (keccak256 : Bytes → TxId) (tx : Tx) : TxId :=
  keccak256 tx.encode

end Tx

def checkedSub (value amount : Nat) : Option Nat :=
  if amount ≤ value then some (value - amount) else none

structure Pending where
  txs : OrderedMap TxId Tx
  order : List TxId
  bytes : Nat

namespace Pending

def new : Pending :=
  ⟨OrderedMap.empty, [], 0⟩

def containsKey (pending : Pending) (id : TxId) : Bool :=
  (pending.txs.get id).isSome

def ordered (pending : Pending) : Option (List (TxId × Tx)) :=
  pending.order.mapM fun id => (pending.txs.get id).map fun tx => (id, tx)

def accepts (pending : Pending) (id : TxId) (tx : Tx) : Option Bool :=
  if maxTxBytes < tx.bytes.length then some false
  else if pending.containsKey id then some true
  else if maxPendingTxs ≤ pending.txs.entries.length then some false
  else do
    let room ← checkedSub maxPendingBytes pending.bytes
    pure (decide (tx.bytes.length ≤ room))

def canInsert (keccak256 : Bytes → TxId) (pending : Pending) (tx : Tx) :
    Option Bool :=
  pending.accepts (tx.id keccak256) tx

def insert (keccak256 : Bytes → TxId) (pending : Pending) (tx : Tx) : Option (Bool × Pending) := do
  let id := tx.id keccak256
  let accepted ← pending.accepts id tx
  if !accepted || pending.containsKey id then
    pure (false, pending)
  else
    pure (true, {
      txs := pending.txs.insert id tx
      order := pending.order ++ [id]
      bytes := pending.bytes + tx.bytes.length })

/-- Take one transaction out of the map and its bytes off the count. -/
def remove (pending : Pending) (id : TxId) : Option Pending :=
  match pending.txs.get id with
  | none => some pending
  | some tx => do
      let bytes ← checkedSub pending.bytes tx.bytes.length
      pure { pending with
        txs := pending.txs.erase id
        bytes := bytes }

def prune (pending : Pending) (txIds : List TxId) : Option Pending :=
  if txIds.isEmpty then some pending
  else do
    let removed ← txIds.foldlM remove pending
    pure { removed with order := removed.order.filter removed.containsKey }

/-- The beginning of the transactions that fits the remaining bytes. -/
def takeFitting : Nat → List (TxId × Tx) → List (TxId × Tx)
  | _, [] => []
  | remaining, (id, tx) :: rest =>
    if maxTxBytes < tx.bytes.length ∨ remaining < tx.encodeSize then []
    else (id, tx) :: takeFitting (remaining - tx.encodeSize) rest

/-- Select a prefix that fits the encoded transaction budget of one block. -/
def buildBlock (pending : Pending) (maxTxs : Nat) (excluded : List TxId) :
    Option (List Tx) := do
  let queued ← pending.ordered
  let candidates := queued.filter fun entry => entry.1 ∉ excluded
  let counted := candidates.take (min maxTxs maxBlockTxs)
  pure ((takeFitting (Domain.maxBlockTxBytes - 5) counted).map Prod.snd)

def build (pending : Pending) (maxTxs : Nat) (excluded : List TxId) :
    Option (List Tx) := do
  let queued ← pending.ordered
  let candidates := queued.filter fun entry => entry.1 ∉ excluded
  pure ((candidates.take maxTxs).map Prod.snd)

end Pending

/-! ## Runs -/

inductive MempoolCall
  | insert (tx : Tx)
  | prune (txIds : List TxId)
  | build (maxTxs : Nat) (excluded : List TxId)
  | buildBlock (maxTxs : Nat) (excluded : List TxId)

/-- A mempool with the identifiers it admitted so far, in order. -/
structure MempoolRun where
  pending : Pending
  admitted : List TxId

namespace MempoolRun

def start : MempoolRun :=
  ⟨Pending.new, []⟩

def perform (keccak256 : Bytes → TxId) (run : MempoolRun) : MempoolCall → Option MempoolRun
  | .insert tx => do
      let (inserted, pending) ← run.pending.insert keccak256 tx
      pure {
        pending := pending
        admitted :=
          if inserted then run.admitted ++ [tx.id keccak256]
          else run.admitted }
  | .prune txIds => do
      let pending ← run.pending.prune txIds
      pure { run with pending := pending }
  | .build maxTxs excluded => do
      let _ ← run.pending.build maxTxs excluded
      pure run
  | .buildBlock maxTxs excluded => do
      let _ ← run.pending.buildBlock maxTxs excluded
      pure run

end MempoolRun

/-! ## Encoded sizes -/

/-! ## The invariant -/

namespace Pending

def heldBytes (pending : Pending) : Nat :=
  (pending.txs.entries.map fun entry => entry.2.bytes.length).sum

/-- Map and count agree, within the limits. -/
structure Counted (keccak256 : Bytes → TxId) (pending : Pending) : Prop where
  bytes : pending.bytes = pending.heldBytes
  capped : pending.bytes ≤ maxPendingBytes
  held : ∀ id tx, pending.txs.get id = some tx → id = tx.id keccak256 ∧ tx.bytes.length ≤ maxTxBytes

/-- Map, queue and count agree, and the queue is in order of the latest
admissions. -/
structure Sound (keccak256 : Bytes → TxId) (pending : Pending)
    (admitted : List TxId) : Prop extends Counted keccak256 pending where
  bounded : pending.txs.entries.length ≤ maxPendingTxs
  known : ∀ id, pending.containsKey id = true → id ∈ admitted
  order : pending.order = admitted.dedup.filter pending.containsKey

section Steps

variable {keccak256 : Bytes → TxId} {pending : Pending}

theorem checkedSub_of_le {value amount : Nat} (enough : amount ≤ value) :
    checkedSub value amount = some (value - amount) :=
  if_pos enough

variable {id : TxId}

theorem containsKey_eq_true : pending.containsKey id = true ↔ ∃ tx, pending.txs.get id = some tx :=
  Option.isSome_iff_exists

theorem heldBytes_insert (tx : Tx) (absent : pending.txs.get id = none) :
    ((pending.txs.insert id tx).entries.map fun entry =>
      entry.2.bytes.length).sum = pending.heldBytes + tx.bytes.length := by
  have added := pending.txs.entries_insert_perm tx absent
  rw [(added.map fun entry => entry.2.bytes.length).sum_nat, List.map_cons,
    List.sum_cons, Nat.add_comm]
  rfl

theorem heldBytes_erase {tx : Tx} (found : pending.txs.get id = some tx) :
    pending.heldBytes = tx.bytes.length + ((pending.txs.erase id).entries.map fun entry =>
        entry.2.bytes.length).sum := by
  have taken := pending.txs.entries_perm_erase found
  unfold heldBytes
  rw [(taken.map fun entry => entry.2.bytes.length).sum_nat, List.map_cons, List.sum_cons]

theorem Counted.remove (counted : Counted keccak256 pending) (id : TxId) :
    ∃ final, pending.remove id = some final ∧ Counted keccak256 final ∧
      final.order = pending.order ∧ final.txs.entries.length ≤ pending.txs.entries.length ∧
      ∀ other, final.txs.get other =
        if other = id then none else pending.txs.get other := by
  unfold Pending.remove
  cases found : pending.txs.get id with
  | none =>
    refine ⟨pending, rfl, counted, rfl, Nat.le_refl _, ?_⟩
    intro other
    by_cases same : other = id
    · rw [if_pos same, same, found]
    · rw [if_neg same]
  | some tx =>
    have split := heldBytes_erase found
    have enough : tx.bytes.length ≤ pending.bytes := by
      rw [counted.bytes, split]
      exact Nat.le_add_right _ _
    have shorter := (pending.txs.entries_perm_erase found).length_eq
    rw [List.length_cons] at shorter
    have isShorter : (pending.txs.erase id).entries.length ≤
        pending.txs.entries.length := by omega
    refine ⟨⟨pending.txs.erase id, pending.order,
      pending.bytes - tx.bytes.length⟩, ?_, ?_, rfl, isShorter, pending.txs.get_erase id⟩
    · dsimp only
      rw [checkedSub_of_le enough]
      rfl
    constructor
    · change pending.bytes - tx.bytes.length = _
      rw [counted.bytes, split, Nat.add_sub_cancel_left]
      rfl
    · exact (Nat.sub_le _ _).trans counted.capped
    · intro other held stored
      rw [OrderedMap.get_erase] at stored
      obtain ⟨_, stored⟩ := Option.ite_none_left_eq_some.mp stored
      exact counted.held other held stored

theorem Counted.removeAll (counted : Counted keccak256 pending) (txIds : List TxId) :
    ∃ final, txIds.foldlM Pending.remove pending = some final ∧
      Counted keccak256 final ∧ final.order = pending.order ∧
      final.txs.entries.length ≤ pending.txs.entries.length ∧ ∀ other, final.txs.get other =
        if other ∈ txIds then none else pending.txs.get other := by
  induction txIds generalizing pending with
  | nil => exact ⟨pending, rfl, counted, rfl, Nat.le_refl _, fun _ => rfl⟩
  | cons id rest ih =>
    obtain ⟨next, removed, nextCounted, sameOrder, nextLength, nextTxs⟩ := counted.remove id
    obtain ⟨final, removedRest, finalCounted, finalOrder, finalLength, finalTxs⟩ := ih nextCounted
    refine ⟨final, ?_, finalCounted, finalOrder.trans sameOrder, finalLength.trans nextLength, ?_⟩
    · rw [List.foldlM_cons, removed]
      exact removedRest
    · intro other
      rw [finalTxs, nextTxs]
      by_cases inRest : other ∈ rest
      · rw [if_pos inRest, if_pos (List.mem_cons_of_mem id inRest)]
      · rw [if_neg inRest]
        by_cases same : other = id
        · rw [if_pos same, if_pos (List.mem_cons.mpr (.inl same))]
        · have outside : other ∉ id :: rest := by
            rw [List.mem_cons]
            exact not_or.mpr ⟨same, inRest⟩
          rw [if_neg same, if_neg outside]

variable {admitted : List TxId}

theorem Sound.new : Sound keccak256 Pending.new [] where
  bytes := rfl
  capped := Nat.zero_le _
  held := nofun
  bounded := Nat.zero_le _
  known := nofun
  order := rfl

theorem Sound.prune (sound : Sound keccak256 pending admitted) (txIds : List TxId) :
    ∃ final, pending.prune txIds = some final ∧
      Sound keccak256 final admitted := by
  unfold Pending.prune
  by_cases empty : txIds.isEmpty = true
  · rw [if_pos empty]
    exact ⟨pending, rfl, sound⟩
  · rw [if_neg empty]
    obtain ⟨removed, ran, counted, sameOrder, shorter, txs⟩ := sound.toCounted.removeAll txIds
    rw [ran]
    have fewer : ∀ id, removed.containsKey id = true → pending.containsKey id = true := by
      intro id contained
      unfold containsKey at contained ⊢
      rw [txs] at contained
      split at contained
      · cases contained
      · exact contained
    refine ⟨_, rfl, ⟨counted.bytes, counted.capped, counted.held⟩,
      shorter.trans sound.bounded, fun id contained =>
        sound.known id (fewer id contained), ?_⟩
    change removed.order.filter removed.containsKey = admitted.dedup.filter removed.containsKey
    rw [sameOrder, sound.order, List.filter_filter]
    apply List.filter_congr
    intro id _
    cases contained : removed.containsKey id with
    | false => rfl
    | true => rw [fewer id contained]; rfl

theorem dedup_snoc (admitted : List TxId) (id : TxId) :
    (admitted ++ [id]).dedup = (admitted.dedup.filter fun other => other ≠ id) ++ [id] := by
  induction admitted with
  | nil => rfl
  | cons head tail ih =>
    rw [List.cons_append]
    by_cases inTail : head ∈ tail
    · rw [List.dedup_cons_of_mem (List.mem_append_left _ inTail), List.dedup_cons_of_mem inTail, ih]
    · rw [List.dedup_cons_of_notMem inTail]
      by_cases same : head = id
      · have later : head ∈ tail ++ [id] := by
          rw [same]
          exact List.mem_append_right _ List.mem_cons_self
        rw [List.dedup_cons_of_mem later, ih, List.filter_cons_of_neg (by simpa using same)]
      · have fresh : head ∉ tail ++ [id] := by
          rw [List.mem_append, List.mem_singleton]
          exact not_or.mpr ⟨inTail, same⟩
        rw [List.dedup_cons_of_notMem fresh, ih,
          List.filter_cons_of_pos (by simpa using same), List.cons_append]

theorem accepts_eq (sound : Counted keccak256 pending) (id : TxId) (tx : Tx) :
    ∃ accepted, pending.accepts id tx = some accepted ∧
      (accepted = true → pending.txs.get id = none → tx.bytes.length ≤ maxTxBytes ∧
        pending.txs.entries.length < maxPendingTxs ∧
        pending.bytes + tx.bytes.length ≤ maxPendingBytes) := by
  unfold accepts
  by_cases large : maxTxBytes < tx.bytes.length
  · rw [if_pos large]
    exact ⟨false, rfl, nofun⟩
  · rw [if_neg large]
    by_cases contained : pending.containsKey id = true
    · rw [if_pos contained]
      refine ⟨true, rfl, fun _ absent => ?_⟩
      obtain ⟨held, found⟩ := containsKey_eq_true.mp contained
      rw [absent] at found
      cases found
    · rw [if_neg contained]
      by_cases full : maxPendingTxs ≤ pending.txs.entries.length
      · rw [if_pos full]
        exact ⟨false, rfl, nofun⟩
      · rw [if_neg full, checkedSub_of_le sound.capped]
        refine ⟨_, rfl, fun accepted _ => ?_⟩
        have room : tx.bytes.length ≤ maxPendingBytes - pending.bytes := of_decide_eq_true accepted
        have capped := sound.capped
        refine ⟨Nat.not_lt.mp large, Nat.not_le.mp full, ?_⟩
        omega

theorem Sound.queued (sound : Sound keccak256 pending admitted) {tx : Tx}
    (absent : pending.txs.get (tx.id keccak256) = none) (small : tx.bytes.length ≤ maxTxBytes)
    (count : pending.txs.entries.length < maxPendingTxs)
    (capped : pending.bytes + tx.bytes.length ≤ maxPendingBytes) :
    Sound keccak256
      ⟨pending.txs.insert (tx.id keccak256) tx, pending.order ++ [tx.id keccak256],
        pending.bytes + tx.bytes.length⟩
      (admitted ++ [tx.id keccak256]) := by
  have contains : ∀ other,
      ((pending.txs.insert (tx.id keccak256) tx).get other).isSome =
        (decide (other = tx.id keccak256) || pending.containsKey other) := by
    intro other
    rw [OrderedMap.get_insert]
    by_cases same : other = tx.id keccak256
    · rw [if_pos same, decide_eq_true same]
      rfl
    · rw [if_neg same, decide_eq_false same]
      rfl
  constructor
  · constructor
    · change pending.bytes + tx.bytes.length = _
      rw [sound.bytes]
      exact (heldBytes_insert tx absent).symm
    · exact capped
    · intro other held stored
      rw [OrderedMap.get_insert] at stored
      split at stored
      · rename_i same
        obtain rfl := Option.some.inj stored
        exact ⟨same, small⟩
      · exact sound.held other held stored
  · change (pending.txs.insert _ _).entries.length ≤ _
    rw [(pending.txs.entries_insert_perm tx absent).length_eq]
    exact count
  · intro other contained
    change ((pending.txs.insert _ _).get other).isSome = true at contained
    rw [contains, Bool.or_eq_true, decide_eq_true_iff] at contained
    rcases contained with rfl | before
    · exact List.mem_append_right _ List.mem_cons_self
    · exact List.mem_append_left _ (sound.known other before)
  · change pending.order ++ [tx.id keccak256] =
      (admitted ++ [tx.id keccak256]).dedup.filter fun other =>
        ((pending.txs.insert (tx.id keccak256) tx).get other).isSome
    have heldNow : ((pending.txs.insert (tx.id keccak256) tx).get
        (tx.id keccak256)).isSome = true := by
      rw [contains, decide_eq_true rfl]
      rfl
    have last : [tx.id keccak256].filter (fun other =>
        ((pending.txs.insert (tx.id keccak256) tx).get other).isSome) = [tx.id keccak256] := by
      rw [List.filter_cons, if_pos heldNow]
      rfl
    rw [dedup_snoc, List.filter_append, List.filter_filter, sound.order, last,
      List.append_cancel_right_eq]
    apply List.filter_congr
    intro other _
    rw [contains]
    by_cases same : other = tx.id keccak256
    · have notHeld : pending.containsKey other = false := by
        unfold containsKey
        rw [same, absent]
        rfl
      rw [notHeld, decide_eq_true same]
      simp [same]
    · simp [same]

theorem Sound.insert (sound : Sound keccak256 pending admitted) (tx : Tx) :
    ∃ inserted final, pending.insert keccak256 tx = some (inserted, final) ∧
      Sound keccak256 final (if inserted = true then admitted ++ [tx.id keccak256]
        else admitted) := by
  obtain ⟨accepted, checked, room⟩ := accepts_eq sound.toCounted (tx.id keccak256) tx
  dsimp only [Pending.insert]
  rw [checked, Option.bind_eq_bind, Option.bind_some]
  by_cases refused : (!accepted || pending.containsKey (tx.id keccak256)) = true
  · rw [if_pos refused]
    exact ⟨false, pending, rfl, sound⟩
  · rw [if_neg refused]
    rw [Bool.or_eq_true, Bool.not_eq_true', not_or, Bool.not_eq_false] at refused
    have absent : pending.txs.get (tx.id keccak256) = none := by
      rw [← Option.not_isSome_iff_eq_none]
      exact refused.2
    obtain ⟨small, count, capped⟩ := room refused.1 absent
    exact ⟨true, _, rfl, sound.queued absent small count capped⟩

end Steps

/-! ## Blocks -/

section Blocks

variable {keccak256 : Bytes → TxId} {pending : Pending} {admitted : List TxId}

theorem Sound.nodup_order (sound : Sound keccak256 pending admitted) :
    pending.order.Nodup := by
  rw [sound.order]
  exact (List.nodup_dedup admitted).filter _

theorem Sound.mem_order_iff (sound : Sound keccak256 pending admitted)
    {id : TxId} : id ∈ pending.order ↔ pending.containsKey id = true := by
  rw [sound.order, List.mem_filter, List.mem_dedup]
  constructor
  · exact And.right
  · intro contained
    exact ⟨sound.known id contained, contained⟩

theorem keys_nodup (txs : OrderedMap TxId Tx) : (txs.entries.map Prod.fst).Nodup := by
  apply List.Pairwise.map Prod.fst _ txs.sorted
  intro first second below
  exact ne_of_lt below

theorem Sound.order_perm (sound : Sound keccak256 pending admitted) :
    pending.order.Perm (pending.txs.entries.map Prod.fst) := by
  apply (List.perm_ext_iff_of_nodup sound.nodup_order (keys_nodup pending.txs)).mpr
  intro id
  rw [sound.mem_order_iff, containsKey_eq_true, List.mem_map]
  constructor
  · rintro ⟨tx, found⟩
    exact ⟨(id, tx), pending.txs.mem_entries_iff.mpr found, rfl⟩
  · rintro ⟨⟨_, tx⟩, member, rfl⟩
    exact ⟨tx, pending.txs.mem_entries_iff.mp member⟩

/-- The transactions held that are not excluded, in order of their latest
admission. -/
def waiting (pending : Pending) (admitted excluded : List TxId) : List Tx :=
  (admitted.dedup.filter fun id => id ∉ excluded).filterMap pending.txs.get

theorem ordered_eq {ids : List TxId} (held : ∀ id ∈ ids, pending.containsKey id = true) :
    ids.mapM (fun id => (pending.txs.get id).map fun tx => (id, tx)) = some (ids.filterMap fun id =>
        (pending.txs.get id).map fun tx => (id, tx)) := by
  induction ids with
  | nil => rfl
  | cons id rest ih =>
    obtain ⟨tx, found⟩ := containsKey_eq_true.mp (held id List.mem_cons_self)
    rw [List.mapM_cons, ih fun other member =>
      held other (List.mem_cons_of_mem id member), List.filterMap_cons, found]
    rfl

theorem candidates_eq (ids excluded : List TxId) : ((ids.filterMap fun id =>
        (pending.txs.get id).map fun tx => (id, tx)).filter
          fun entry => entry.1 ∉ excluded).map Prod.snd =
      ((ids.filter pending.containsKey).filter fun id =>
        id ∉ excluded).filterMap pending.txs.get := by
  induction ids with
  | nil => rfl
  | cons id rest ih =>
    rw [List.filterMap_cons]
    cases found : pending.txs.get id with
    | none =>
      have absent : ¬ pending.containsKey id = true := by
        unfold containsKey
        rw [found]
        exact nofun
      rw [List.filter_cons_of_neg absent]
      exact ih
    | some tx =>
      have present : pending.containsKey id = true := by
        unfold containsKey
        rw [found]
        rfl
      rw [List.filter_cons_of_pos present]
      by_cases isExcluded : id ∈ excluded
      · simpa [isExcluded] using ih
      · simpa [isExcluded, found] using ih

theorem filterMap_filter_contains (ids : List TxId) :
    (ids.filter pending.containsKey).filterMap pending.txs.get =
      ids.filterMap pending.txs.get := by
  induction ids with
  | nil => rfl
  | cons id rest ih =>
    cases found : pending.txs.get id with
    | none => simp [containsKey, found, ih]
    | some tx => simp [containsKey, found, ih]

theorem Sound.candidates (sound : Sound keccak256 pending admitted) (excluded : List TxId) :
    ∃ queued, pending.ordered = some queued ∧
      (queued.filter fun entry => entry.1 ∉ excluded).map Prod.snd =
        pending.waiting admitted excluded := by
  refine ⟨_, ordered_eq fun id member => sound.mem_order_iff.mp member, ?_⟩
  rw [candidates_eq]
  unfold waiting
  have allHeld : pending.order.filter pending.containsKey =
      admitted.dedup.filter pending.containsKey := by
    rw [sound.order, List.filter_filter]
    simp
  rw [allHeld, List.filter_comm, filterMap_filter_contains]

theorem takeFitting_eq (remaining : Nat) (entries : List (TxId × Tx))
    (small : ∀ entry ∈ entries, entry.2.bytes.length ≤ maxTxBytes) :
    ∃ count ≤ entries.length, takeFitting remaining entries = entries.take count ∧
      ((entries.take count).map fun entry => entry.2.encodeSize).sum ≤ remaining ∧
      (count = entries.length ∨ ∃ next, entries[count]? = some next ∧
        remaining < ((entries.take count).map fun entry =>
          entry.2.encodeSize).sum + next.2.encodeSize) := by
  induction entries generalizing remaining with
  | nil => exact ⟨0, Nat.le_refl _, rfl, Nat.zero_le _, .inl rfl⟩
  | cons head tail ih =>
    obtain ⟨id, tx⟩ := head
    have headSmall : ¬ maxTxBytes < tx.bytes.length :=
      Nat.not_lt.mpr (small (id, tx) List.mem_cons_self)
    unfold takeFitting
    by_cases large : remaining < tx.encodeSize
    · rw [if_pos (.inr large)]
      refine ⟨0, Nat.zero_le _, rfl, Nat.zero_le _, .inr ⟨(id, tx), rfl, ?_⟩⟩
      simpa using large
    · rw [if_neg (not_or.mpr ⟨headSmall, large⟩)]
      obtain ⟨count, within, taken, fits, stops⟩ :=
        ih (remaining - tx.encodeSize) fun entry member =>
          small entry (List.mem_cons_of_mem _ member)
      refine ⟨count + 1, Nat.succ_le_succ within, ?_, ?_, ?_⟩
      · rw [taken, List.take_succ_cons]
      · rw [List.take_succ_cons, List.map_cons, List.sum_cons]
        dsimp only
        omega
      · rcases stops with all | ⟨next, isNext, exceeds⟩
        · exact .inl (congrArg Nat.succ all)
        · refine .inr ⟨next, isNext, ?_⟩
          rw [List.take_succ_cons, List.map_cons, List.sum_cons]
          dsimp only
          omega

/-- A block of a number of the transactions waiting stops at the count limit, at
the byte budget or at the end of the queue. -/
structure Stops (waiting : List Tx) (limit budget count : Nat) : Prop where
  limited : count ≤ limit
  fits : ((waiting.take count).map Tx.encodeSize).sum ≤ budget
  reason : count = limit ∨ count = waiting.length ∨
    ∃ next, waiting[count]? = some next ∧
      budget < ((waiting.take count).map Tx.encodeSize).sum + next.encodeSize

theorem Sound.buildBlock (sound : Sound keccak256 pending admitted)
    (maxTxs : Nat) (excluded : List TxId) :
    ∃ count,
      pending.buildBlock maxTxs excluded = some ((pending.waiting admitted excluded).take count) ∧
      Stops (pending.waiting admitted excluded) (min maxTxs maxBlockTxs)
        (Domain.maxBlockTxBytes - 5) count := by
  obtain ⟨queued, read, isWaiting⟩ := sound.candidates excluded
  generalize isCandidates : (queued.filter fun entry =>
    entry.1 ∉ excluded) = candidates at isWaiting
  have small : ∀ entry ∈ candidates.take (min maxTxs maxBlockTxs),
      entry.2.bytes.length ≤ maxTxBytes := by
    intro entry member
    have isHeld : entry.2 ∈ pending.waiting admitted excluded := by
      rw [← isWaiting]
      exact List.mem_map_of_mem (List.mem_of_mem_take member)
    obtain ⟨id, _, found⟩ := List.mem_filterMap.mp isHeld
    exact (sound.held id entry.2 found).2
  obtain ⟨count, within, taken, fits, stops⟩ := takeFitting_eq (Domain.maxBlockTxBytes - 5) _ small
  rw [List.length_take] at within
  have limited : count ≤ min maxTxs maxBlockTxs := within.trans (min_le_left _ _)
  have sameTake : (candidates.take (min maxTxs maxBlockTxs)).take count =
      candidates.take count := by
    rw [List.take_take, min_eq_left limited]
  have sameSizes : ((pending.waiting admitted excluded).take count).map
      Tx.encodeSize = (candidates.take count).map fun entry => entry.2.encodeSize := by
    rw [← isWaiting, ← List.map_take, List.map_map]
    rfl
  rw [sameTake] at taken fits stops
  refine ⟨count, ?_, limited, ?_, ?_⟩
  · unfold Pending.buildBlock
    rw [read, Option.bind_eq_bind, Option.bind_some]
    dsimp only
    rw [isCandidates, taken, List.map_take, isWaiting]
    rfl
  · rw [sameSizes]
    exact fits
  · rw [sameSizes]
    rcases stops with all | ⟨next, isNext, exceeds⟩
    · rw [List.length_take] at all
      have sameLength : (pending.waiting admitted excluded).length =
          candidates.length := by
        rw [← isWaiting, List.length_map]
      rw [sameLength]
      omega
    · have below : count < min maxTxs maxBlockTxs := by
        obtain ⟨inside, _⟩ := List.getElem?_eq_some_iff.mp isNext
        exact (List.length_take_le _ _).trans_lt' inside
      rw [List.getElem?_take_of_lt below] at isNext
      refine .inr (.inr ⟨next.2, ?_, exceeds⟩)
      rw [← isWaiting, List.getElem?_map, isNext]
      rfl

theorem Sound.build (sound : Sound keccak256 pending admitted)
    (maxTxs : Nat) (excluded : List TxId) : pending.build maxTxs excluded =
      some ((pending.waiting admitted excluded).take maxTxs) := by
  obtain ⟨queued, read, isWaiting⟩ := sound.candidates excluded
  unfold Pending.build
  rw [read, ← isWaiting, ← List.map_take]
  rfl

end Blocks

end Pending

/-! ## Every run -/

namespace MempoolRun

variable {keccak256 : Bytes → TxId}

theorem perform_sound {run : MempoolRun}
    (sound : run.pending.Sound keccak256 run.admitted) (call : MempoolCall) :
    ∃ final, run.perform keccak256 call = some final ∧
      final.pending.Sound keccak256 final.admitted := by
  cases call with
  | insert tx =>
    obtain ⟨inserted, pending, ran, finalSound⟩ := sound.insert tx
    dsimp only [perform]
    rw [ran]
    exact ⟨_, rfl, finalSound⟩
  | prune txIds =>
    obtain ⟨pending, ran, finalSound⟩ := sound.prune txIds
    dsimp only [perform]
    rw [ran]
    exact ⟨_, rfl, finalSound⟩
  | build maxTxs excluded =>
    dsimp only [perform]
    rw [sound.build]
    exact ⟨run, rfl, sound⟩
  | buildBlock maxTxs excluded =>
    obtain ⟨count, built, _⟩ := sound.buildBlock maxTxs excluded
    dsimp only [perform]
    rw [built]
    exact ⟨run, rfl, sound⟩

theorem performAll_sound {run : MempoolRun} (sound : run.pending.Sound keccak256 run.admitted)
    (calls : List MempoolCall) : ∃ final, calls.foldlM (perform keccak256) run = some final ∧
      final.pending.Sound keccak256 final.admitted := by
  induction calls generalizing run with
  | nil => exact ⟨run, rfl, sound⟩
  | cons call rest ih =>
    obtain ⟨next, ran, nextSound⟩ := perform_sound sound call
    obtain ⟨final, ranRest, finalSound⟩ := ih nextSound
    refine ⟨final, ?_, finalSound⟩
    rw [List.foldlM_cons, ran]
    exact ranRest

/-- Any calls on a new mempool run through.  The queue is then a duplicate-free
permutation of the keys of the map, in order of the latest admissions, and the
count is that of the bytes held, within its cap; and blocks are built from the
beginning of the queue without the excluded transactions, up to a limit. -/
theorem mempool_keeps_admission_order (calls : List MempoolCall) :
    ∃ run, calls.foldlM (perform keccak256) start = some run ∧ run.pending.order.Nodup ∧
      run.pending.order.Perm (run.pending.txs.entries.map Prod.fst) ∧
      run.pending.order = run.admitted.dedup.filter run.pending.containsKey ∧
      run.pending.bytes = (run.pending.txs.entries.map fun entry =>
        entry.2.bytes.length).sum ∧
      run.pending.bytes ≤ maxPendingBytes ∧
      ∀ maxTxs excluded,
        run.pending.build maxTxs excluded =
          some ((run.pending.waiting run.admitted excluded).take maxTxs) ∧
        ∃ count,
          run.pending.buildBlock maxTxs excluded =
            some ((run.pending.waiting run.admitted excluded).take count) ∧
          Pending.Stops (run.pending.waiting run.admitted excluded)
            (min maxTxs maxBlockTxs) (Domain.maxBlockTxBytes - 5) count := by
  have startSound : start.pending.Sound keccak256 start.admitted := Pending.Sound.new
  obtain ⟨run, ran, sound⟩ := performAll_sound startSound calls
  refine ⟨run, ran, sound.nodup_order, sound.order_perm, sound.order, sound.bytes, sound.capped, ?_⟩
  intro maxTxs excluded
  exact ⟨sound.build maxTxs excluded, sound.buildBlock maxTxs excluded⟩

end MempoolRun

end VeraHub.Consensus
