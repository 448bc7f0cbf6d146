import VeraHub.Acp.RecordStore

/-!
# Captured and verified reads

A server captures the reads of one evaluation over a snapshot; a client replays
the evaluation over verified answers to these reads.  Both charge every read
against limits, with code of their own.
-/

namespace VeraHub.Permission

open VeraHub.Acp VeraHub.Zanzibar

/-- A point read or complete prefix enumeration needed by an evaluation. -/
inductive RecordRead where
  | key (bytes : Bytes)
  | keyPrefix (bytes : Bytes)
deriving DecidableEq, Repr

/-- Limits on evaluation reads, including repeated requests. -/
structure ReadLimits where
  reads : Nat
  records : Nat
  bytes : Nat
deriving DecidableEq, Repr

/-! ## Budget arithmetic -/

section Budget

variable (failure : Error) (amount : Nat)

def consumeReads : Exec ReadLimits Error Unit :=
  fun limits =>
    if amount ≤ limits.reads then
      (.ok (), { limits with reads := limits.reads - amount })
    else
      (.error failure, limits)

def consumeRecords : Exec ReadLimits Error Unit :=
  fun limits =>
    if amount ≤ limits.records then
      (.ok (), { limits with records := limits.records - amount })
    else
      (.error failure, limits)

def consumeBytes : Exec ReadLimits Error Unit :=
  fun limits =>
    if amount ≤ limits.bytes then
      (.ok (), { limits with bytes := limits.bytes - amount })
    else
      (.error failure, limits)

end Budget

/-! ## Capture over a snapshot -/

def limitError : Error :=
  .serialization "permission read budget exceeded"

structure Capture where
  remaining : ReadLimits
  requests : List RecordRead
  failed : Bool

namespace Capture

def new (limits : ReadLimits) : Capture where
  remaining := limits
  requests := []
  failed := false

/-- The distinct required reads, or an error if capture exceeded its
budget. -/
def distinctRequests (capture : Capture) : Except Error (List RecordRead) :=
  if capture.failed then .error limitError else .ok capture.requests

end Capture

section ReadCapture

variable {V : Type} (codec : RecordCodec V) (snapshot : KvStore V)

/-- Charge a read, run it and record its request; after a failure every later
read fails. -/
def captureRead {α : Type} (key : Bytes) (request : RecordRead)
    (read : Exec ReadLimits Error α) : Exec Capture Error α :=
  fun capture =>
    if capture.failed then
      (.error limitError, capture)
    else
      let charged : Exec ReadLimits Error α := do
        consumeReads limitError 1
        consumeBytes limitError key.length
        read
      match charged.run capture.remaining with
      | (.ok value, remaining) =>
        (.ok value, { capture with
            remaining := remaining
            requests := capture.requests.insert request })
      | (.error error, remaining) =>
        (.error error, { capture with remaining := remaining, failed := true })

def capturePoint : Option V → Exec ReadLimits Error (Option V)
  | none => pure none
  | some value => do
      consumeRecords limitError 1
      consumeBytes limitError (codec.size value)
      pure (some value)

def captureEntries : List (Bytes × V) → Exec ReadLimits Error (List (Bytes × V))
  | [] => pure []
  | (key, value) :: rest => do
      consumeRecords limitError 1
      consumeBytes limitError key.length
      consumeBytes limitError (codec.size value)
      let entries ← captureEntries rest
      pure ((key, value) :: entries)

/-- Captures read requests while the evaluator reads one snapshot. -/
def readCapture : RecordStore Capture V where
  readRecord key := captureRead key (.key key) (capturePoint codec (snapshot.get key))
  scanRecords start :=
    captureRead start (.keyPrefix start) (captureEntries codec (snapshot.prefixScan start))

end ReadCapture

/-! ## Replay over verified answers -/

def unavailable : Error :=
  .serialization "permission read unavailable or budget exhausted"

/-- The verified answers a client holds. -/
structure VerifiedRecords (V : Type) where
  points : Bytes → Option (Option V)
  prefixes : Bytes → Option (List (Bytes × V))

section VerifiedRecords

/-- Key bytes and value bytes are taken together, or not at all. -/
def consumeEntryBytes (keyBytes valueBytes : Nat) :
    Exec ReadLimits Error Unit :=
  fun budget =>
    if keyBytes ≤ budget.bytes ∧ valueBytes ≤ budget.bytes - keyBytes then
      (.ok (), { budget with bytes := budget.bytes - keyBytes - valueBytes })
    else
      (.error unavailable, budget)

def chargeEntries : List (Nat × Nat) → Exec ReadLimits Error Unit
  | [] => pure ()
  | (keyBytes, valueBytes) :: rest => do
      consumeRecords unavailable 1
      consumeEntryBytes keyBytes valueBytes
      chargeEntries rest

def chargeRead (key : Bytes) (entries : List (Nat × Nat)) :
    Exec ReadLimits Error Unit :=
  fun budget =>
    let charged : Exec ReadLimits Error Unit := do
      consumeReads unavailable 1
      consumeBytes unavailable key.length
      chargeEntries entries
    match charged.run budget with
    | (.ok (), remaining) => (.ok (), remaining)
    | (.error error, remaining) =>
      (.error error, { remaining with reads := 0 })

variable {V : Type} (codec : RecordCodec V) (records : VerifiedRecords V)

def verifiedRecords : RecordStore ReadLimits V where
  readRecord key := do
    match records.points key with
    | none => Exec.fail unavailable
    | some answer =>
      chargeRead key (answer.toList.map fun value => (0, codec.size value))
      pure answer
  scanRecords start := do
    match records.prefixes start with
    | none => Exec.fail unavailable
    | some entries =>
      chargeRead start (entries.map fun entry => (entry.1.length, codec.size entry.2))
      pure entries

end VerifiedRecords

/-! ## Capture requests -/

/-- Aggregate limits for one request and its evaluation. -/
structure PermissionLimits where
  reads : ReadLimits
  operations : Nat
  requestBytes : Nat

inductive PermissionError where
  | limit
  | invalid (message : String)
  | evaluation (error : Error)
deriving DecidableEq, Repr

/-- Validate a request before evaluation; `encodedSize` is the length of the
serialized policy ID and request. -/
def validateRequest (encodedSize : String → AccessRequest → Nat)
    (policy : String) (request : AccessRequest)
    (limits : PermissionLimits) : Except PermissionError Unit :=
  if policy = "" ∨ request.operations = [] then
    .error (.invalid "policy and operations must be nonempty")
  else if request.operations.length > limits.operations then
    .error .limit
  else if encodedSize policy request > limits.requestBytes then
    .error .limit
  else
    .ok ()

section CaptureReads

variable {V : Type} (hashing : KeyHashing) (codec : RecordCodec V)
  (encodedSize : String → AccessRequest → Nat)

/-- The captured evaluation of a request over a snapshot. -/
def capturedEvaluation (snapshot : KvStore V) (policy : String)
    (request : AccessRequest) (limits : ReadLimits) : Except Error Bool × Capture :=
  (evaluateAccessRequest hashing codec (readCapture codec snapshot)
    policy request).run (Capture.new limits)

/-- Capture required reads from one immutable module snapshot. -/
def captureReads (snapshot : KvStore V) (policy : String)
    (request : AccessRequest) (limits : PermissionLimits) :
    Except PermissionError (List RecordRead) := do
  validateRequest encodedSize policy request limits
  match capturedEvaluation hashing codec snapshot policy request limits.reads with
  | (.error error, _) => .error (.evaluation error)
  | (.ok _, capture) =>
    match capture.distinctRequests with
    | .error error => .error (.evaluation error)
    | .ok requests => .ok requests

/-- The evaluation of a request over verified records. -/
def verifiedEvaluation (records : VerifiedRecords V) (policy : String)
    (request : AccessRequest) (limits : ReadLimits) : Except Error Bool :=
  ((evaluateAccessRequest hashing codec (verifiedRecords codec records)
    policy request).run limits).1

/-- The evaluation of a request over a full snapshot, without read limits. -/
def snapshotEvaluation (snapshot : KvStore V) (policy : String)
    (request : AccessRequest) : Except Error Bool :=
  ((evaluateAccessRequest hashing codec (snapshotRecords snapshot) policy request).run ()).1

end CaptureReads

end VeraHub.Permission
