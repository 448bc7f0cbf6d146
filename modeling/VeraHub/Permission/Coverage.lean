import VeraHub.Permission.Current

/-!
# Coverage of current-state evidence

Evidence that verifies at a root lists exactly the records of the database the
root commits to.  The argument follows the chain of cyclic successors: at every
key the listing expects next, the records that remain are those of the prefix
from that key on.
-/

namespace VeraHub.Permission

variable {key value record start : Bytes}

section Coverage

variable {database : OrderedMap Bytes Bytes} {keyPrefix : Bytes}

/-- The records of a prefix from the expected key on. -/
def remaining (database : OrderedMap Bytes Bytes) (keyPrefix : Bytes) :
    Option Bytes → List (Bytes × Bytes)
  | none => []
  | some key =>
    database.entries.filter fun entry =>
      key ≤ entry.1 ∧ OrderedMap.keyStartsWith keyPrefix entry.1 = true

theorem mem_remaining_some_iff {entryKey : Bytes} :
    (entryKey, value) ∈ remaining database keyPrefix (some key) ↔
      database.get entryKey = some value ∧ key ≤ entryKey ∧ keyPrefix <+: entryKey := by
  unfold remaining
  rw [List.mem_filter, decide_eq_true_iff, database.mem_entries_iff, OrderedMap.keyStartsWith_iff]

theorem remaining_sorted (next : Option Bytes) :
    (remaining database keyPrefix next).Pairwise fun first second => first.1 < second.1 := by
  cases next with
  | none => exact .nil
  | some key => exact database.sorted.filter _

variable {next : Bytes}

theorem successor_eq_some_iff {found : Bytes} :
    successor key next keyPrefix = some found ↔ found = next ∧ key < next ∧ keyPrefix <+: next := by
  unfold successor
  rw [← OrderedMap.keyStartsWith_iff]
  by_cases follows : key < next ∧ OrderedMap.keyStartsWith keyPrefix next = true
  · rw [if_pos follows]
    constructor
    · intro equality
      exact ⟨(Option.some.inj equality).symm, follows⟩
    · intro found
      rw [found.1]
  · rw [if_neg follows]
    constructor
    · intro equality
      cases equality
    · intro found
      exact absurd found.2 follows

theorem next_le_of_present (adjacent : database.IsSuccessor record next)
    (covered : start = record ∨ OrderedMap.InArc record next start) (after : start < key)
    (present : database.get key ≠ none) : start < next ∧ next ≤ key := by
  have outside : ¬ OrderedMap.InArc record next key := fun inside =>
    present (adjacent.adjacent key inside)
  unfold OrderedMap.InArc at covered outside
  by_cases forward : record < next
  · rw [if_pos forward] at covered outside
    have recordLe : record ≤ start := by
      rcases covered with equality | arc
      · exact equality.ge
      · exact arc.1.le
    have startLt : start < next := by
      rcases covered with equality | arc
      · exact equality ▸ forward
      · exact arc.2
    have nextLe : next ≤ key := by
      by_contra below
      exact outside ⟨lt_of_le_of_lt recordLe after, not_le.mp below⟩
    exact ⟨startLt, nextLe⟩
  · rw [if_neg forward] at covered outside
    obtain ⟨keyLe, nextLe⟩ := not_or.mp outside
    have keyLe := not_lt.mp keyLe
    have nextLe := not_lt.mp nextLe
    rcases covered with equality | beyond | before
    · rw [equality] at after
      exact absurd after (not_lt_of_ge keyLe)
    · exact absurd (beyond.trans after) (not_lt_of_ge keyLe)
    · exact ⟨before, nextLe⟩

/-- After a covered key exactly the records from its successor on remain. -/
theorem mem_remaining_successor_iff (adjacent : database.IsSuccessor record next)
    (covered : start = record ∨ OrderedMap.InArc record next start)
    (inPrefix : keyPrefix <+: start) :
    (key, value) ∈ remaining database keyPrefix (successor start next keyPrefix) ↔
      database.get key = some value ∧ start < key ∧ keyPrefix <+: key := by
  constructor
  · intro member
    cases found : successor start next keyPrefix with
    | none =>
      rw [found] at member
      cases member
    | some reached =>
      rw [found] at member
      obtain ⟨rfl, startLt, _⟩ := successor_eq_some_iff.mp found
      obtain ⟨present, nextLe, keyInPrefix⟩ := mem_remaining_some_iff.mp member
      exact ⟨present, lt_of_lt_of_le startLt nextLe, keyInPrefix⟩
  · intro remains
    obtain ⟨present, after, keyInPrefix⟩ := remains
    have presentKey : database.get key ≠ none := by
      rw [present]
      exact Option.some_ne_none value
    obtain ⟨startLt, nextLe⟩ := next_le_of_present adjacent covered after presentKey
    have prefixLe : keyPrefix ≤ next := (le_of_isPrefix inPrefix).trans startLt.le
    have nextInPrefix : keyPrefix <+: next := isPrefix_of_le_of_le prefixLe nextLe keyInPrefix
    have found : successor start next keyPrefix = some next :=
      successor_eq_some_iff.mpr ⟨rfl, startLt, nextInPrefix⟩
    rw [found]
    exact mem_remaining_some_iff.mpr ⟨present, nextLe, keyInPrefix⟩

theorem remaining_of_present (present : database.get key = some value)
    (adjacent : database.IsSuccessor key next) (inPrefix : keyPrefix <+: key) :
    remaining database keyPrefix (some key) = (key, value) ::
        remaining database keyPrefix (successor key next keyPrefix) := by
  have remainsIff : ∀ {other otherValue : Bytes},
      (other, otherValue) ∈ remaining database keyPrefix (successor key next keyPrefix) ↔
        database.get other = some otherValue ∧ key < other ∧ keyPrefix <+: other :=
    mem_remaining_successor_iff adjacent (Or.inl rfl) inPrefix
  apply OrderedMap.eq_of_mem_iff (remaining_sorted _)
  · refine List.pairwise_cons.mpr ⟨?_, remaining_sorted _⟩
    intro entry member
    exact (remainsIff.mp member).2.1
  · intro entry
    obtain ⟨other, otherValue⟩ := entry
    rw [mem_remaining_some_iff, List.mem_cons, remainsIff]
    constructor
    · intro remains
      obtain ⟨found, keyLe, otherInPrefix⟩ := remains
      rcases keyLe.eq_or_lt with rfl | keyLt
      · rw [present] at found
        exact Or.inl (by rw [Option.some.inj found])
      · exact Or.inr ⟨found, keyLt, otherInPrefix⟩
    · intro listed
      rcases listed with equality | ⟨found, keyLt, otherInPrefix⟩
      · cases equality
        exact ⟨present, le_refl _, inPrefix⟩
      · exact ⟨found, keyLt.le, otherInPrefix⟩

/-- An absent key inside a span leaves the records from the end of the span
on. -/
theorem remaining_of_absent (adjacent : database.IsSuccessor record next)
    (covered : OrderedMap.InArc record next start) (inPrefix : keyPrefix <+: start) :
    remaining database keyPrefix (some start) =
      remaining database keyPrefix (successor start next keyPrefix) := by
  have absent := adjacent.adjacent start covered
  apply OrderedMap.eq_of_mem_iff (remaining_sorted _) (remaining_sorted _)
  intro entry
  obtain ⟨key, value⟩ := entry
  rw [mem_remaining_some_iff, mem_remaining_successor_iff adjacent (Or.inr covered) inPrefix]
  constructor
  · intro remains
    obtain ⟨found, startLe, keyInPrefix⟩ := remains
    have different : start ≠ key := by
      intro equality
      rw [← equality, absent] at found
      cases found
    exact ⟨found, lt_of_le_of_ne startLe different, keyInPrefix⟩
  · intro remains
    exact ⟨remains.1, remains.2.1.le, remains.2.2⟩

end Coverage

/-! ## Verification follows the chain -/

variable {next : Option Bytes}

section Verification

variable {system : ProofSystem} {root : system.Digest} {database : OrderedMap Bytes Bytes}
  (authentic : system.Authenticates root database)

include authentic

/-- A verified exclusion of a key by a record puts the key inside the record's
span. -/
theorem inArc_of_excluded {next : Bytes} {proof : system.Proof}
    (verified : excluded key root (.keyValue proof record value next) = true) :
    database.IsSuccessor record next ∧
      OrderedMap.InArc record next key := by
  unfold excluded at verified
  rw [Bool.and_eq_true] at verified
  obtain ⟨within, proven⟩ := verified
  refine ⟨(authentic.update _ _ _ _ proven).2, ?_⟩
  unfold OrderedMap.InArc
  by_cases forward : record < next
  · rw [if_pos forward] at within ⊢
    simpa using within
  · rw [if_neg forward] at within ⊢
    simpa using within

theorem get_eq_none_of_excluded {exclusion : Exclusion system}
    (verified : excluded key root exclusion = true) : database.get key = none := by
  cases exclusion with
  | keyValue proof record value next =>
    obtain ⟨adjacent, covered⟩ := inArc_of_excluded authentic verified
    exact adjacent.adjacent key covered
  | commit proof metadata =>
    have empty := authentic.commitFloor _ _ _ verified
    unfold OrderedMap.get
    rw [empty]
    rfl

theorem verifyPoint_none_ok {codec : ProofCodec system} {proof : Bytes}
    (verified : verifyPoint codec root key none proof = .ok ()) : database.get key = none := by
  unfold verifyPoint at verified
  obtain ⟨limited, verified⟩ := ifError_ok verified
  cases decoded : codec.exclusion proof with
  | none =>
    simp only [decoded] at verified
    cases verified
  | some exclusion =>
    simp only [decoded] at verified
    cases valid : excluded key root exclusion with
    | true => exact get_eq_none_of_excluded authentic valid
    | false =>
      rw [valid] at verified
      cases verified

variable {keyPrefix : Bytes}

theorem firstKey_ok {boundary : Option (Exclusion system)} (inPrefix : keyPrefix <+: start)
    (first : firstKey root keyPrefix start boundary = .ok next) :
    remaining database keyPrefix (some start) = remaining database keyPrefix next ∧
      ∀ key, next = some key → keyPrefix <+: key := by
  cases boundary with
  | none =>
    cases first
    refine ⟨rfl, fun key equality => ?_⟩
    cases equality
    exact inPrefix
  | some boundary =>
    unfold firstKey at first
    by_cases verified : excluded start root boundary = true
    · simp only [verified, if_true] at first
      cases boundary with
      | keyValue proof record value nextKey =>
        cases first
        obtain ⟨adjacent, covered⟩ := inArc_of_excluded authentic verified
        refine ⟨remaining_of_absent adjacent covered inPrefix, fun key found => ?_⟩
        obtain ⟨rfl, _, foundInPrefix⟩ := successor_eq_some_iff.mp found
        exact foundInPrefix
      | commit proof metadata =>
        cases first
        have empty := authentic.commitFloor _ _ _ verified
        refine ⟨?_, fun key impossible => by cases impossible⟩
        unfold remaining
        rw [empty]
        rfl
    · simp only [verified] at first
      cases first

/-- Each entry is the next record, and the expected key moves to its
successor. -/
theorem followEntries_ok {entries : List (Entry system)} {final : Option Bytes}
    (inPrefix : ∀ key, next = some key → keyPrefix <+: key)
    (followed : followEntries root keyPrefix entries next = .ok final) :
    remaining database keyPrefix next = (entries.map fun entry => (entry.key, entry.value)) ++
        remaining database keyPrefix final := by
  induction entries generalizing next with
  | nil =>
    cases followed
    rfl
  | cons entry rest ih =>
    unfold followEntries at followed
    by_cases expected : next = some entry.key ∧
        included entry.key entry.value entry.proof root = true
    · rw [if_pos expected] at followed
      obtain ⟨rfl, proven⟩ := expected
      obtain ⟨present, adjacent⟩ := authentic.update _ _ _ _ proven
      have entryInPrefix := inPrefix entry.key rfl
      have restInPrefix : ∀ key,
          successor entry.key entry.proof.nextKey keyPrefix = some key → keyPrefix <+: key := by
        intro key found
        obtain ⟨rfl, _, foundInPrefix⟩ := successor_eq_some_iff.mp found
        exact foundInPrefix
      have restListed := ih restInPrefix followed
      rw [remaining_of_present present adjacent entryInPrefix, restListed]
      rfl
    · rw [if_neg expected] at followed
      cases followed

variable {evidence : PrefixEvidence system}

theorem verifySpan_ok (inPrefix : keyPrefix <+: start)
    (verified : evidence.verifySpan root keyPrefix start = .ok next) :
    remaining database keyPrefix (some start) =
      evidence.records ++ remaining database keyPrefix next := by
  unfold PrefixEvidence.verifySpan at verified
  cases first : firstKey root keyPrefix start evidence.boundary with
  | error error =>
    rw [first] at verified
    cases verified
  | ok expected =>
    rw [first] at verified
    obtain ⟨begins, expectedInPrefix⟩ := firstKey_ok authentic inPrefix first
    rw [begins]
    exact followEntries_ok authentic expectedInPrefix verified

omit authentic in
theorem remaining_self (keyPrefix : Bytes) : remaining database keyPrefix (some keyPrefix) =
      database.prefixScan keyPrefix := by
  rw [OrderedMap.prefixScan_eq_filter]
  unfold remaining
  apply List.filter_congr
  intro entry _
  by_cases kept : OrderedMap.keyStartsWith keyPrefix entry.1 = true
  · have above := le_of_isPrefix (OrderedMap.keyStartsWith_iff.mp kept)
    simp [kept, above]
  · simp [kept]

theorem verify_ok (verified : evidence.verify root keyPrefix = .ok ()) :
    evidence.records = database.prefixScan keyPrefix := by
  unfold PrefixEvidence.verify at verified
  cases span : evidence.verifySpan root keyPrefix keyPrefix with
  | error error =>
    rw [span] at verified
    cases verified
  | ok next =>
    rw [span] at verified
    have listed := verifySpan_ok authentic List.prefix_rfl span
    cases next with
    | none =>
      rw [remaining_self] at listed
      rw [listed]
      exact (List.append_nil _).symm
    | some key => cases verified

theorem verifyPage_ok (verified : evidence.verifyPage root keyPrefix start = .ok next) :
    remaining database keyPrefix (some start) =
      evidence.records ++ remaining database keyPrefix next := by
  unfold PrefixEvidence.verifyPage at verified
  obtain ⟨selection, verified⟩ := ifError_ok verified
  have inPrefix : keyPrefix <+: start := by
    have starts := (not_or.mp (not_or.mp selection).2).2
    exact OrderedMap.keyStartsWith_iff.mp (by simpa using starts)
  cases span : evidence.verifySpan root keyPrefix start with
  | error error =>
    rw [span] at verified
    cases verified
  | ok reached =>
    rw [span] at verified
    change (if _ then _ else _) = _ at verified
    obtain ⟨stalled, verified⟩ := ifError_ok verified
    cases verified
    exact verifySpan_ok authentic inPrefix span

end Verification

/-! ## Pages -/

section Pages

variable {system : ProofSystem} {root : system.Digest}
  {database : OrderedMap Bytes Bytes} {keyPrefix : Bytes}

/-- The records of one page: from its start key to the key it continues
with. -/
def pageRecords (database : OrderedMap Bytes Bytes)
    (keyPrefix start : Bytes) (next : Option Bytes) : List (Bytes × Bytes) :=
  database.entries.filter fun entry =>
    OrderedMap.keyStartsWith keyPrefix entry.1 = true ∧ start ≤ entry.1 ∧
      ∀ stop ∈ next, entry.1 < stop

theorem mem_pageRecords_iff :
    (key, value) ∈ pageRecords database keyPrefix start next ↔
      (key, value) ∈ remaining database keyPrefix (some start) ∧ ∀ stop ∈ next, key < stop := by
  unfold pageRecords
  rw [mem_remaining_some_iff, List.mem_filter, decide_eq_true_iff,
    database.mem_entries_iff, OrderedMap.keyStartsWith_iff]
  constructor
  · intro listed
    obtain ⟨found, inPrefix, startLe, below⟩ := listed
    exact ⟨⟨found, startLe, inPrefix⟩, below⟩
  · intro remains
    obtain ⟨⟨found, startLe, inPrefix⟩, below⟩ := remains
    exact ⟨found, inPrefix, startLe, below⟩

theorem records_eq_pageRecords {records : List (Bytes × Bytes)}
    (split :
      remaining database keyPrefix (some start) = records ++ remaining database keyPrefix next) :
    records = pageRecords database keyPrefix start next := by
  have sorted :
      (records ++ remaining database keyPrefix next).Pairwise
        fun first second => first.1 < second.1 :=
    split ▸ remaining_sorted (some start)
  obtain ⟨recordsSorted, _, precede⟩ := List.pairwise_append.mp sorted
  apply OrderedMap.eq_of_mem_iff recordsSorted (database.sorted.filter _)
  intro entry
  obtain ⟨key, value⟩ := entry
  change _ ↔ (key, value) ∈ pageRecords database keyPrefix start next
  rw [mem_pageRecords_iff, split, List.mem_append]
  constructor
  · intro listed
    refine ⟨Or.inl listed, fun stop continued => ?_⟩
    by_contra beyond
    have inRemaining : (key, value) ∈ remaining database keyPrefix (some start) :=
      split ▸ List.mem_append_left _ listed
    obtain ⟨found, _, inPrefix⟩ := mem_remaining_some_iff.mp inRemaining
    have inRest : (key, value) ∈ remaining database keyPrefix next := by
      rw [Option.mem_def.mp continued]
      exact mem_remaining_some_iff.mpr ⟨found, not_lt.mp beyond, inPrefix⟩
    exact lt_irrefl key (precede _ listed _ inRest)
  · intro remains
    rcases remains with ⟨listed | inRest, below⟩
    · exact listed
    · cases next with
      | none => cases inRest
      | some stop =>
        have stopLe := (mem_remaining_some_iff.mp inRest).2.1
        exact absurd (below stop rfl) (not_lt_of_ge stopLe)

/-- Pages at one root, each starting where the one before continues, up to a
page that continues nowhere. -/
inductive PageChain (root : system.Digest) (keyPrefix : Bytes) :
    Bytes → List (PrefixEvidence system) → Prop
  | last {start : Bytes} {page : PrefixEvidence system} :
      page.verifyPage root keyPrefix start = .ok none → PageChain root keyPrefix start [page]
  | more {start next : Bytes} {page : PrefixEvidence system}
      {pages : List (PrefixEvidence system)} :
      page.verifyPage root keyPrefix start = .ok (some next) → PageChain root keyPrefix next pages →
      PageChain root keyPrefix start (page :: pages)

theorem pageChain_records (authentic : system.Authenticates root database) {pages : List (PrefixEvidence system)}
    (chain : PageChain root keyPrefix start pages) : pages.flatMap PrefixEvidence.records =
      remaining database keyPrefix (some start) := by
  induction chain with
  | last verified =>
    rw [verifyPage_ok authentic verified]
    simp [remaining]
  | more verified _ ih =>
    rw [verifyPage_ok authentic verified, List.flatMap_cons, ih]

end Pages

/-- Verified evidence lists exactly the records of a prefix or of a page of
it, pages chained from the prefix itself list the whole prefix, and a verified
absence is an absence. -/
theorem verified_evidence_is_exact (system : ProofSystem) (codec : ProofCodec system)
    (root : system.Digest) (database : OrderedMap Bytes Bytes)
    (authentic : system.Authenticates root database) :
    (∀ keyPrefix (evidence : PrefixEvidence system),
      evidence.verify root keyPrefix = .ok () → evidence.records = database.prefixScan keyPrefix) ∧
    (∀ keyPrefix start next (evidence : PrefixEvidence system),
      evidence.verifyPage root keyPrefix start = .ok next →
        evidence.records = pageRecords database keyPrefix start next) ∧
    (∀ keyPrefix pages,
      PageChain root keyPrefix keyPrefix pages →
        pages.flatMap PrefixEvidence.records = database.prefixScan keyPrefix) ∧
    ∀ key proof, verifyPoint codec root key none proof = .ok () → database.get key = none := by
  refine ⟨?_, ?_, ?_, ?_⟩
  · intro keyPrefix evidence verified
    exact verify_ok authentic verified
  · intro keyPrefix start next evidence verified
    exact records_eq_pageRecords (verifyPage_ok authentic verified)
  · intro keyPrefix pages chain
    rw [pageChain_records authentic chain, remaining_self]
  · intro key proof verified
    exact verifyPoint_none_ok authentic verified

/-! ## Three records, two of them under one prefix -/

def threeRecords : OrderedMap Bytes Bytes :=
  ((OrderedMap.empty.insert [97, 1] [10]).insert [97, 2] [20]).insert [98] [30]

/-- The active operations of the three records; a proof is the location of the
operation it proves, and the root is the number of operations. -/
def threeOperations : List StoredOperation :=
  [.update [97, 1] [10] [97, 2], .update [97, 2] [20] [98], .update [98] [30] [97, 1]]

def threeProofs : ProofSystem where
  Proof := Nat
  Digest := Nat
  location proof := proof
  verify proof operation root := root = 3 ∧ threeOperations[proof]? = some operation

theorem mem_threeOperations_of_verify {proof : Nat} {operation : StoredOperation}
    (verified : threeProofs.verify proof operation (3 : Nat) = true) :
    operation ∈ threeOperations := by
  have proven : (3 : Nat) = 3 ∧ threeOperations[proof]? = some operation :=
    of_decide_eq_true verified
  exact List.mem_of_getElem? proven.2

theorem threeProofs_authenticates : threeProofs.Authenticates (3 : Nat) threeRecords where
  update := by
    intro proof key value nextKey verified
    have listed := mem_threeOperations_of_verify verified
    have present : ∀ other, threeRecords.get other ≠ none → other ∈ [[97, 1], [97, 2], [98]] := by
      intro other found
      obtain ⟨otherValue, found⟩ := Option.ne_none_iff_exists'.mp found
      have member := threeRecords.mem_entries_iff.mpr found
      exact List.mem_map_of_mem (f := Prod.fst) member
    have outside : ∀ other ∈ [[97, 1], [97, 2], [98]], ¬ OrderedMap.InArc key nextKey other := by
      simp only [threeOperations, List.mem_cons, List.not_mem_nil, or_false,
        StoredOperation.update.injEq] at listed
      rcases listed with ⟨rfl, rfl, rfl⟩ | ⟨rfl, rfl, rfl⟩ | ⟨rfl, rfl, rfl⟩
      all_goals decide
    have stored : threeRecords.get key = some value ∧ (threeRecords.get nextKey).isSome = true := by
      simp only [threeOperations, List.mem_cons, List.not_mem_nil, or_false,
        StoredOperation.update.injEq] at listed
      rcases listed with ⟨rfl, rfl, rfl⟩ | ⟨rfl, rfl, rfl⟩ | ⟨rfl, rfl, rfl⟩
      all_goals decide
    refine ⟨stored.1, stored.2, fun other inside => ?_⟩
    by_contra found
    exact outside other (present other found) inside
  commitFloor := by
    intro proof metadata location verified
    have listed := mem_threeOperations_of_verify verified
    simp [threeOperations] at listed

/-- The key before the prefix wraps around from the last record. -/
def threeBoundary : Exclusion threeProofs :=
  .keyValue (2 : Nat) [98] [30] [97, 1]

def threeEntries : List (Entry threeProofs) :=
  [⟨[97, 1], [10], ⟨(0 : Nat), [97, 2]⟩⟩, ⟨[97, 2], [20], ⟨(1 : Nat), [98]⟩⟩]

def threeCodec : ProofCodec threeProofs where
  membership _ := none
  exclusion _ := some threeBoundary

theorem verified_evidence_three_records :
    (⟨some threeBoundary, threeEntries⟩ : PrefixEvidence threeProofs).records =
      threeRecords.prefixScan [97] ∧
    (⟨some threeBoundary, threeEntries.take 1⟩ : PrefixEvidence threeProofs).records =
      pageRecords threeRecords [97] [97] (some [97, 2]) ∧
    ([⟨some threeBoundary, threeEntries.take 1⟩,
        ⟨none, threeEntries.drop 1⟩] : List (PrefixEvidence threeProofs)).flatMap
        PrefixEvidence.records = threeRecords.prefixScan [97] ∧
    threeRecords.get [97] = none := by
  obtain ⟨complete, paged, chained, absent⟩ :=
    verified_evidence_is_exact threeProofs threeCodec (3 : Nat)
      threeRecords threeProofs_authenticates
  have firstPage :
      (⟨some threeBoundary, threeEntries.take 1⟩ :
          PrefixEvidence threeProofs).verifyPage (3 : Nat) [97] [97] = .ok (some [97, 2]) := by
    rfl
  have secondPage :
      (⟨none, threeEntries.drop 1⟩ : PrefixEvidence threeProofs).verifyPage (3 : Nat) [97] [97, 2] =
        .ok none := by
    rfl
  refine ⟨complete _ _ rfl, paged _ _ _ _ firstPage, ?_, absent _ [] rfl⟩
  exact chained _ _ (.more firstPage (.last secondPage))

end VeraHub.Permission
