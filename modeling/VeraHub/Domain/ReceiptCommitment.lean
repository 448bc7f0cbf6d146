import VeraHub.Domain.Finality
import VeraHub.Library.Codec

/-!
# Receipt commitments

A block commits to its execution limit and receipts by one hash over all their
fields.  The hashed bytes are delimited by lengths and flags alone, and still
tell every field.  So a response that verifies against a finalized block shows
the receipts the block was built with, or a collision of the hash.
-/

namespace VeraHub.Domain

/-! ## Receipts -/

structure Log where
  address : BitVec 160
  topics : Vec B256
  data : Vec UInt8
deriving DecidableEq

/-- The status of a receipt: a result, or a state root of the legacy form. -/
inductive Eip658Value where
  | eip658 (success : Bool)
  | postState (root : B256)
deriving DecidableEq

structure ExecutionReceipt where
  txHash : B256
  status : Eip658Value
  cumulativeGasUsed : UInt64
  logs : Vec Log
  gasUsed : UInt64
  contractAddress : Option (BitVec 160)
deriving DecidableEq

/-- A legacy status counts as a success. -/
def ExecutionReceipt.success (receipt : ExecutionReceipt) : Bool :=
  match receipt.status with
  | .eip658 success => success
  | .postState _ => true

/-- The fields of a receipt that the commitment covers. -/
structure Committed where
  txHash : B256
  gasUsed : UInt64
  cumulativeGasUsed : UInt64
  success : Bool
  contractAddress : Option (BitVec 160)
  logs : Vec Log
deriving DecidableEq

def ExecutionReceipt.committed (receipt : ExecutionReceipt) : Committed :=
  ⟨receipt.txHash, receipt.gasUsed, receipt.cumulativeGasUsed, receipt.success,
    receipt.contractAddress, receipt.logs⟩

/-! ## Commitments -/

def flag (condition : Bool) : UInt8 :=
  if condition then 1 else 0

def logBytes (log : Log) : Bytes :=
  wordBytes 20 log.address ++ Vec.bytes (wordBytes 32) log.topics ++
    Vec.bytes (fun byte => [byte]) log.data

def receiptBytes (receipt : Committed) : Bytes :=
  wordBytes 32 receipt.txHash ++ beBytes receipt.gasUsed ++ beBytes receipt.cumulativeGasUsed ++
    [flag receipt.success] ++ [flag receipt.contractAddress.isSome] ++
    receipt.contractAddress.elim [] (wordBytes 20) ++ Vec.bytes logBytes receipt.logs

def commitmentBytes (gasLimit : UInt64) (receipts : Vec ExecutionReceipt) : Bytes :=
  utf8 "vera/receipts/v1" ++ beBytes gasLimit ++
    Vec.bytes receiptBytes (Vec.map ExecutionReceipt.committed receipts)

def receiptCommitment (keccak256 : Bytes → B256) (gasLimit : UInt64)
    (receipts : Vec ExecutionReceipt) : B256 :=
  keccak256 (commitmentBytes gasLimit receipts)

/-! ## Responses -/

structure ReceiptResponse where
  revision : LightBlock
  gasLimit : UInt64
  receipts : Vec ExecutionReceipt

inductive ReceiptResponseError where
  | finality (error : LightBlockError)
  | invalid (reason : String)
deriving DecidableEq

section Responses

variable {Key Certificate : Type} [DecidableEq Key] (verifier : Verifier Key Certificate)

def ReceiptResponse.verify (response : ReceiptResponse) (submission : B256) (trusted : Key) :
    Except ReceiptResponseError ExecutionReceipt := do
  let block ← (verifyFinalizedBlock verifier response.revision trusted).mapError .finality
  if response.receipts.1.length ≠ block.txs.length then
    .error (.invalid "receipt count")
  else if response.receipts.1.any (fun receipt => receipt.status matches .postState _) = true then
    .error (.invalid "receipt status")
  else if block.receiptCommitment ≠
      some (receiptCommitment verifier.keccak256 response.gasLimit response.receipts) then
    .error (.invalid "receipt commitment")
  else
    match response.receipts.1.filter fun receipt => receipt.txHash = submission with
    | [] => .error (.invalid "requested submission missing")
    | [receipt] => .ok receipt
    | _ => .error (.invalid "duplicate submission")

end Responses

/-! ## Delimited fields -/

def Collides (hash : Bytes → B256) (first second : Bytes) : Prop :=
  first ≠ second ∧ hash first = hash second

theorem wordBytes_delimited {width count : Nat} (covers : 2 ^ width ≤ 256 ^ count) :
    Delimited (wordBytes count : BitVec width → Bytes) :=
  .of_length length_wordBytes fun _ _ same => (wordBytes_inj covers).mp same

theorem address_delimited : Delimited (wordBytes 20 : BitVec 160 → Bytes) :=
  wordBytes_delimited (by decide +kernel)

theorem hash_delimited : Delimited (wordBytes 32 : B256 → Bytes) :=
  wordBytes_delimited (by decide +kernel)

theorem beBytes_delimited : Delimited beBytes :=
  .of_length length_beBytes beBytes_injective

theorem byte_delimited : Delimited fun byte : UInt8 => [byte] :=
  .of_length (fun _ => rfl) fun _ _ => List.singleton_inj.mp

theorem flag_injective : Function.Injective flag := by
  decide

theorem logBytes_delimited : Delimited logBytes := by
  intro first second rest others same
  simp only [logBytes, List.append_assoc] at same
  obtain ⟨address, afterAddress⟩ := address_delimited same
  obtain ⟨topics, afterTopics⟩ := hash_delimited.counted afterAddress
  obtain ⟨data, ends⟩ := byte_delimited.counted afterTopics
  cases first
  cases second
  exact ⟨by simp_all, ends⟩

/-- The flag before the contract address tells whether one follows. -/
theorem contractAddress_delimited : Delimited fun contract : Option (BitVec 160) =>
    [flag contract.isSome] ++ contract.elim [] (wordBytes 20) := by
  intro first second rest others same
  cases first with
  | none =>
    cases second with
    | none => exact ⟨rfl, (List.cons.inj same).2⟩
    | some other => cases (List.cons.inj same).1
  | some address =>
    cases second with
    | none => cases (List.cons.inj same).1
    | some other =>
      simp only [Option.elim, List.cons_append, List.nil_append, List.cons.injEq] at same
      obtain ⟨isOther, ends⟩ := address_delimited same.2
      exact ⟨congrArg some isOther, ends⟩

theorem receiptBytes_delimited : Delimited receiptBytes := by
  intro first second rest others same
  simp only [receiptBytes, List.append_assoc] at same
  obtain ⟨hash, afterHash⟩ := hash_delimited same
  obtain ⟨used, afterUsed⟩ := beBytes_delimited afterHash
  obtain ⟨total, afterTotal⟩ := beBytes_delimited afterUsed
  obtain ⟨flags, afterStatus⟩ := byte_delimited afterTotal
  have success := flag_injective flags
  rw [← List.append_assoc, ← List.append_assoc [flag second.contractAddress.isSome]] at afterStatus
  obtain ⟨contract, afterContract⟩ := contractAddress_delimited afterStatus
  obtain ⟨logs, ends⟩ := logBytes_delimited.counted afterContract
  cases first
  cases second
  exact ⟨by simp_all, ends⟩

variable {receipts others : Vec ExecutionReceipt} {otherLimit : UInt64}

theorem commitmentBytes_inj {gasLimit : UInt64}
    (same : commitmentBytes gasLimit receipts = commitmentBytes otherLimit others) :
    gasLimit = otherLimit ∧ Vec.map ExecutionReceipt.committed receipts =
      Vec.map ExecutionReceipt.committed others := by
  simp only [commitmentBytes, List.append_assoc, List.append_cancel_left_eq] at same
  obtain ⟨limit, afterLimit⟩ := beBytes_delimited same
  rw [← List.append_nil (Vec.bytes _ _), ← List.append_nil (Vec.bytes _ (Vec.map _ others))]
    at afterLimit
  exact ⟨limit, (receiptBytes_delimited.counted afterLimit).1⟩

section Binding

variable {Key Certificate : Type} {verifier : Verifier Key Certificate}

theorem receiptCommitment_inj {gasLimit : UInt64}
    (same : receiptCommitment verifier.keccak256 gasLimit receipts =
      receiptCommitment verifier.keccak256 otherLimit others) :
    (gasLimit = otherLimit ∧ Vec.map ExecutionReceipt.committed receipts =
        Vec.map ExecutionReceipt.committed others) ∨
      Collides verifier.keccak256 (commitmentBytes gasLimit receipts)
        (commitmentBytes otherLimit others) := by
  by_cases equal : commitmentBytes gasLimit receipts = commitmentBytes otherLimit others
  · exact .inl (commitmentBytes_inj equal)
  · exact .inr ⟨equal, same⟩

variable [DecidableEq Key]

theorem verify_ok {response : ReceiptResponse} {submission : B256} {trusted : Key}
    {receipt : ExecutionReceipt}
    (verified : response.verify verifier submission trusted = .ok receipt) :
    ∃ block, verifyFinalizedBlock verifier response.revision trusted = .ok block ∧
      block.receiptCommitment =
        some (receiptCommitment verifier.keccak256 response.gasLimit response.receipts) ∧
      response.receipts.1.filter (fun receipt => receipt.txHash = submission) = [receipt] := by
  obtain ⟨block, accepted, checked⟩ := exceptBind_ok verified
  split at checked
  · cases checked
  split at checked
  · cases checked
  split at checked
  · cases checked
  rename_i committed
  refine ⟨block, mapError_ok accepted, not_not.mp committed, ?_⟩
  split at checked
  · cases checked
  · rename_i found
    cases checked
    exact found
  · cases checked

/-- Equal commitments are to equal limits and receipts, and a verified receipt is
that of the only execution of its submission; or the hash has a collision. -/
theorem receipt_commitment_binds :
    (∀ gasLimit otherLimit receipts others,
      receiptCommitment verifier.keccak256 gasLimit receipts =
          receiptCommitment verifier.keccak256 otherLimit others →
        (gasLimit = otherLimit ∧ Vec.map ExecutionReceipt.committed receipts =
            Vec.map ExecutionReceipt.committed others) ∨
          Collides verifier.keccak256 (commitmentBytes gasLimit receipts)
            (commitmentBytes otherLimit others)) ∧
      ∀ response submission trusted receipt,
        ReceiptResponse.verify verifier response submission trusted = .ok receipt →
      ∀ block, verifyFinalizedBlock verifier response.revision trusted = .ok block →
      ∀ gasLimit original, block.receiptCommitment =
          some (receiptCommitment verifier.keccak256 gasLimit original) →
        (∃ executed, original.1.filter (fun other => other.txHash = submission) = [executed] ∧
          executed.committed = receipt.committed) ∨
        Collides verifier.keccak256 (commitmentBytes response.gasLimit response.receipts)
          (commitmentBytes gasLimit original) := by
  refine ⟨fun _ _ _ _ => receiptCommitment_inj, ?_⟩
  intro response submission trusted receipt verified block accepted gasLimit original committed
  obtain ⟨shown, isShown, commits, found⟩ := verify_ok verified
  cases isShown.symm.trans accepted
  rw [commits] at committed
  refine (receiptCommitment_inj (Option.some.inj committed)).imp_left fun same => ?_
  have lists := congrArg Subtype.val same.2
  have filtered := congrArg (List.filter fun fields => fields.txHash = submission) lists
  simp only [Vec.map, List.filter_map] at filtered
  change (response.receipts.1.filter fun receipt => receipt.txHash = submission).map _ =
    (original.1.filter fun receipt => receipt.txHash = submission).map _ at filtered
  rw [found] at filtered
  obtain ⟨executed, isOnly, fields⟩ := List.map_eq_singleton_iff.mp filtered.symm
  exact ⟨executed, isOnly, fields⟩

end Binding

/-! ## A paid revision -/

def paidReceipt : ExecutionReceipt :=
  ⟨5, .eip658 true, 21000, ⟨[], by decide⟩, 21000, none⟩

def paidBlock : Block :=
  { shownBlock with
    txs := [[1]]
    receiptCommitment := some 110 }

def paidVerifier : Verifier Nat (Nat × Proposal) :=
  { pairVerifier with
    encodeBlock := fun _ => [0]
    decodeBlock := fun _ => .ok paidBlock
    decodeFinalization := fun _ => .ok ⟨⟨⟨4, 9⟩, 8, 1021⟩, (2, ⟨⟨4, 9⟩, 8, 1021⟩)⟩ }

def paidResponse : ReceiptResponse :=
  ⟨LightBlock.fromParts paidVerifier paidBlock [1] [2, 3], 30000000, ⟨[paidReceipt], by decide⟩⟩

theorem paid_receipt_is_bound :
    (∃ executed, paidResponse.receipts.1.filter (fun other => other.txHash = 5) = [executed] ∧
        executed.committed = paidReceipt.committed) ∨
      Collides paidVerifier.keccak256
        (commitmentBytes paidResponse.gasLimit paidResponse.receipts)
        (commitmentBytes paidResponse.gasLimit paidResponse.receipts) :=
  receipt_commitment_binds.2 paidResponse 5 2 paidReceipt (by decide +kernel) paidBlock
    (by decide +kernel) paidResponse.gasLimit paidResponse.receipts (by decide +kernel)

end VeraHub.Domain
