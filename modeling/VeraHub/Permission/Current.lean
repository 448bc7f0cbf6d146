import VeraHub.Permission.Reads

/-!
# Current-state evidence

A root commits to an ordered database in which every record also carries the
next key in cyclic order.  Point absence and complete prefixes are read off
chains of such records.
-/

namespace VeraHub.Permission

/-- Maximum record key accepted by the native storage and proof codecs. -/
def maxKeyBytes : Nat :=
  65536

/-- Maximum record value accepted by the native storage and proof codecs. -/
def maxValueBytes : Nat :=
  1048576

/-! ## Proofs of stored operations -/

/-- An operation of the authenticated log: an active record with its successor
key, or the floor of a commit. -/
inductive StoredOperation where
  | update (key value nextKey : Bytes)
  | commitFloor (metadata : Option Bytes) (location : Nat)
deriving DecidableEq

/-- The proofs of the authenticated database and their verification. -/
structure ProofSystem where
  Proof : Type
  Digest : Type
  location : Proof → Nat
  verify : Proof → StoredOperation → Digest → Bool

/-- What a verifying proof says about the database a root commits to: an
update is an active record with its cyclic successor, and a commit floor
excludes keys only from an empty database. -/
structure ProofSystem.Authenticates (system : ProofSystem)
    (root : system.Digest) (database : OrderedMap Bytes Bytes) : Prop where
  update : ∀ proof key value nextKey,
    system.verify proof (.update key value nextKey) root = true →
      database.get key = some value ∧ database.IsSuccessor key nextKey
  commitFloor : ∀ proof metadata location,
    system.verify proof (.commitFloor metadata location) root = true → database.entries = []

section Evidence

variable (system : ProofSystem)

/-- Membership evidence, including the authenticated successor key. -/
structure Membership where
  proof : system.Proof
  nextKey : Bytes

/-- Absence evidence: a record whose span covers the key, or the commit floor
of an empty database. -/
inductive Exclusion where
  | keyValue (proof : system.Proof) (key value nextKey : Bytes)
  | commit (proof : system.Proof) (metadata : Option Bytes)

/-- One authenticated entry in a complete prefix. -/
structure Entry where
  key : Bytes
  value : Bytes
  proof : Membership system

/-- A prefix boundary followed by every authenticated successor inside the
prefix. -/
structure PrefixEvidence where
  boundary : Option (Exclusion system)
  entries : List (Entry system)

/-- The bounded decoders of the two proof formats. -/
structure ProofCodec where
  membership : Bytes → Option (Membership system)
  exclusion : Bytes → Option (Exclusion system)

variable {system}

def included (key value : Bytes) (proof : Membership system) (root : system.Digest) : Bool :=
  system.verify proof.proof (.update key value proof.nextKey) root

def excluded (key : Bytes) (root : system.Digest) : Exclusion system → Bool
  | .keyValue proof start value stop =>
    let within :=
      if start < stop then
        decide (start < key) && decide (key < stop)
      else
        decide (start < key) || decide (key < stop)
    within && system.verify proof (.update start value stop) root
  | .commit proof metadata =>
    system.verify proof (.commitFloor metadata (system.location proof)) root

def verifyPoint (codec : ProofCodec system) (root : system.Digest)
    (key : Bytes) (value : Option Bytes) (proof : Bytes) :
    Except PermissionError Unit :=
  if key.length > maxKeyBytes ∨ value.any (fun bytes => bytes.length > maxValueBytes) = true then
    .error .limit
  else
    let valid : Except PermissionError Bool :=
      match value with
      | some value =>
        match codec.membership proof with
        | none => .error (.invalid "membership encoding")
        | some membership => .ok (included key value membership root)
      | none =>
        match codec.exclusion proof with
        | none => .error (.invalid "exclusion encoding")
        | some exclusion => .ok (excluded key root exclusion)
    match valid with
    | .error error => .error error
    | .ok true => .ok ()
    | .ok false => .error (.invalid "current-state point")

/-- Next in-prefix key; crossing the maximum key wraps and terminates
enumeration. -/
def successor (key next keyPrefix : Bytes) : Option Bytes :=
  if key < next ∧ OrderedMap.keyStartsWith keyPrefix next = true then
    some next
  else
    none

/-- Where the listing begins: at the start key itself, or after an absent
start key at the successor of its span. -/
def firstKey (root : system.Digest) (keyPrefix start : Bytes) :
    Option (Exclusion system) → Except PermissionError (Option Bytes)
  | none => .ok (some start)
  | some boundary =>
    if excluded start root boundary then
      match boundary with
      | .keyValue _ _ _ nextKey => .ok (successor start nextKey keyPrefix)
      | .commit _ _ => .ok none
    else
      .error (.invalid "prefix boundary")

/-- Follow the entries from an expected key to the key expected next. -/
def followEntries (root : system.Digest) (keyPrefix : Bytes) :
    List (Entry system) → Option Bytes → Except PermissionError (Option Bytes)
  | [], next => .ok next
  | entry :: rest, next =>
    if next = some entry.key ∧ included entry.key entry.value entry.proof root = true then
      followEntries root keyPrefix rest (successor entry.key entry.proof.nextKey keyPrefix)
    else
      .error (.invalid "prefix successor")

namespace PrefixEvidence

variable (evidence : PrefixEvidence system)

def verifySpan (root : system.Digest) (keyPrefix start : Bytes) :
    Except PermissionError (Option Bytes) := do
  let next ← firstKey root keyPrefix start evidence.boundary
  followEntries root keyPrefix evidence.entries next

def verify (root : system.Digest) (keyPrefix : Bytes) :
    Except PermissionError Unit := do
  let next ← evidence.verifySpan root keyPrefix keyPrefix
  if next.isSome then .error (.invalid "incomplete prefix") else .ok ()

/-- Verify consecutive page entries without treating a partial page as
complete coverage. -/
def verifyPage (root : system.Digest) (keyPrefix start : Bytes) :
    Except PermissionError (Option Bytes) :=
  if keyPrefix.length > maxKeyBytes ∨ start.length > maxKeyBytes ∨
      OrderedMap.keyStartsWith keyPrefix start = false then
    .error (.invalid "page selection")
  else do
    let next ← evidence.verifySpan root keyPrefix start
    if next.isSome ∧ evidence.entries = [] then
      .error (.invalid "empty nonterminal page")
    else
      .ok next

def records : List (Bytes × Bytes) :=
  evidence.entries.map fun entry => (entry.key, entry.value)

end PrefixEvidence

end Evidence

end VeraHub.Permission
