import VeraHub.Permission.Reads

/-!
# Replay of captured reads

The captured evaluation and the evaluation over its verified answers charge the
same amounts and read the same values, and whatever verified answers decide is
what the full snapshot decides.
-/

namespace VeraHub.Permission

open VeraHub.Acp VeraHub.Zanzibar
open Exec (run_bind_of_ok run_bind_ok)

/-! ## Successful charges -/

section Charges

variable {failure : Error} {amount : Nat} {limits limits' : ReadLimits}

theorem consumeReads_ok_iff :
    (consumeReads failure amount).run limits = (.ok (), limits') ↔
      amount ≤ limits.reads ∧ limits' = { limits with reads := limits.reads - amount } := by
  unfold consumeReads Exec.run
  by_cases within : amount ≤ limits.reads
  · simp [within, eq_comm]
  · simp [within]

theorem consumeRecords_ok_iff :
    (consumeRecords failure amount).run limits = (.ok (), limits') ↔
      amount ≤ limits.records ∧ limits' = { limits with records := limits.records - amount } := by
  unfold consumeRecords Exec.run
  by_cases within : amount ≤ limits.records
  · simp [within, eq_comm]
  · simp [within]

theorem consumeBytes_ok_iff :
    (consumeBytes failure amount).run limits = (.ok (), limits') ↔
      amount ≤ limits.bytes ∧ limits' = { limits with bytes := limits.bytes - amount } := by
  unfold consumeBytes Exec.run
  by_cases within : amount ≤ limits.bytes
  · simp [within, eq_comm]
  · simp [within]

/-- The two byte charges of a captured entry amount to one verified charge. -/
theorem consumeEntryBytes_run {keyBytes valueBytes : Nat} {middle : ReadLimits}
    (keyCharged : (consumeBytes limitError keyBytes).run limits = (.ok (), middle))
    (valueCharged : (consumeBytes limitError valueBytes).run middle = (.ok (), limits')) :
    (consumeEntryBytes keyBytes valueBytes).run limits = (.ok (), limits') := by
  obtain ⟨keyWithin, rfl⟩ := consumeBytes_ok_iff.mp keyCharged
  obtain ⟨valueWithin, rfl⟩ := consumeBytes_ok_iff.mp valueCharged
  exact if_pos ⟨keyWithin, valueWithin⟩

end Charges

section Entries

variable {V : Type} {codec : RecordCodec V} {limits limits' : ReadLimits}

theorem chargeEntries_cons_run {keyBytes valueBytes : Nat} {rest : List (Nat × Nat)}
    {counted middle : ReadLimits}
    (recordCharged : (consumeRecords limitError 1).run limits = (.ok (), counted))
    (bytesCharged : (consumeEntryBytes keyBytes valueBytes).run counted = (.ok (), middle))
    (restCharged : (chargeEntries rest).run middle = (.ok (), limits')) :
    (chargeEntries ((keyBytes, valueBytes) :: rest)).run limits = (.ok (), limits') := by
  have recordCharged' : (consumeRecords unavailable 1).run limits = (.ok (), counted) :=
    consumeRecords_ok_iff.mpr (consumeRecords_ok_iff.mp recordCharged)
  unfold chargeEntries
  rw [run_bind_of_ok recordCharged', run_bind_of_ok bytesCharged]
  exact restCharged

theorem capturePoint_run {answer result : Option V}
    (captured : (capturePoint codec answer).run limits = (.ok result, limits')) :
    result = answer ∧
      (chargeEntries (answer.toList.map fun value => (0, codec.size value))).run limits =
        (.ok (), limits') := by
  cases answer with
  | none =>
    cases captured
    exact ⟨rfl, rfl⟩
  | some value =>
    obtain ⟨_, counted, recordCharged, bytesRun⟩ := run_bind_ok captured
    obtain ⟨_, charged, bytesCharged, finalRun⟩ := run_bind_ok bytesRun
    cases finalRun
    have noKeyBytes : (consumeBytes limitError 0).run counted = (.ok (), counted) :=
      consumeBytes_ok_iff.mpr ⟨Nat.zero_le _, rfl⟩
    exact ⟨rfl, chargeEntries_cons_run recordCharged
      (consumeEntryBytes_run noKeyBytes bytesCharged) rfl⟩

theorem captureEntries_run {entries result : List (Bytes × V)}
    (captured : (captureEntries codec entries).run limits = (.ok result, limits')) :
    result = entries ∧ (chargeEntries (entries.map fun entry =>
          (entry.1.length, codec.size entry.2))).run limits =
        (.ok (), limits') := by
  induction entries generalizing limits result with
  | nil =>
    cases captured
    exact ⟨rfl, rfl⟩
  | cons entry rest ih =>
    obtain ⟨key, value⟩ := entry
    obtain ⟨_, counted, recordCharged, keyRun⟩ := run_bind_ok captured
    obtain ⟨_, keyed, keyCharged, valueRun⟩ := run_bind_ok keyRun
    obtain ⟨_, valued, valueCharged, restRun⟩ := run_bind_ok valueRun
    obtain ⟨restResult, final, restCaptured, finalRun⟩ := run_bind_ok restRun
    cases finalRun
    obtain ⟨sameRest, restCharged⟩ := ih restCaptured
    have entryCharged := consumeEntryBytes_run keyCharged valueCharged
    exact ⟨by rw [sameRest], chargeEntries_cons_run recordCharged entryCharged restCharged⟩

/-- A successful captured read charges what the verifier charges, and records
its request. -/
theorem captureRead_run {α : Type} {key : Bytes} {request : RecordRead}
    {read : Exec ReadLimits Error α} {capture capture' : Capture} {value : α}
    (captured : (captureRead key request read).run capture = (.ok value, capture')) :
    capture'.requests = capture.requests.insert request ∧
      ∃ charged,
        read.run charged = (.ok value, capture'.remaining) ∧
          ∀ entries,
            (chargeEntries entries).run charged = (.ok (), capture'.remaining) →
              (chargeRead key entries).run capture.remaining = (.ok (), capture'.remaining) := by
  unfold captureRead at captured
  change (if _ then _ else _) = _ at captured
  by_cases failed : capture.failed = true
  · rw [if_pos failed] at captured
    cases captured
  · rw [if_neg failed] at captured
    match outcome : (do
          consumeReads limitError 1
          consumeBytes limitError key.length
          read : Exec ReadLimits Error α).run capture.remaining with
    | (.error error, remaining) =>
      simp only [outcome] at captured
      cases captured
    | (.ok result, remaining) =>
      simp only [outcome] at captured
      cases captured
      obtain ⟨_, counted, readCharged, bytesRun⟩ := run_bind_ok outcome
      obtain ⟨_, charged, keyCharged, readRun⟩ := run_bind_ok bytesRun
      refine ⟨rfl, charged, readRun, fun entries entriesCharged => ?_⟩
      have readCharged' : (consumeReads unavailable 1).run capture.remaining = (.ok (), counted) :=
        consumeReads_ok_iff.mpr (consumeReads_ok_iff.mp readCharged)
      have keyCharged' : (consumeBytes unavailable key.length).run counted = (.ok (), charged) :=
        consumeBytes_ok_iff.mpr (consumeBytes_ok_iff.mp keyCharged)
      have whole : (do
            consumeReads unavailable 1
            consumeBytes unavailable key.length
            chargeEntries entries : Exec ReadLimits Error Unit).run
              capture.remaining = (.ok (), remaining) := by
        rw [run_bind_of_ok readCharged', run_bind_of_ok keyCharged']
        exact entriesCharged
      change chargeRead key entries capture.remaining = _
      unfold chargeRead
      simp only [whole]

end Entries

/-! ## From the capture to the verifier -/

section Replay

variable {V : Type} (codec : RecordCodec V) (snapshot : KvStore V)

/-- The verified records that hold exactly the snapshot's answers to some
reads. -/
def answersTo (reads : List RecordRead) : VerifiedRecords V where
  points key :=
    if .key key ∈ reads then some (snapshot.get key) else none
  prefixes start :=
    if .keyPrefix start ∈ reads then some (snapshot.prefixScan start)
    else none

/-- Every answer held is the snapshot's own. -/
structure AnswersOf (records : VerifiedRecords V) : Prop where
  points : ∀ key answer, records.points key = some answer → answer = snapshot.get key
  prefixes : ∀ start entries,
    records.prefixes start = some entries → entries = snapshot.prefixScan start

variable {codec snapshot} {reads : List RecordRead}

theorem mem_of_insert_subset {request : RecordRead} {requests : List RecordRead}
    (included : requests.insert request ⊆ reads) : requests ⊆ reads ∧ request ∈ reads :=
  ⟨fun _ member => included (List.mem_insert_of_mem member), included List.mem_insert_self⟩

/-- As long as the final requests are among the answered ones, the verifier
follows the capture with an equal budget. -/
theorem readCapture_simulates (reads : List RecordRead) :
    RecordStore.Simulates (fun capture : Capture => capture.requests ⊆ reads)
      (fun capture budget => capture.remaining = budget) (readCapture codec snapshot)
      (verifiedRecords codec (answersTo snapshot reads)) where
  readRecord key := by
    intro capture value capture' captured included
    obtain ⟨requests, charged, pointRun, replay⟩ := captureRead_run captured
    rw [requests] at included
    obtain ⟨earlier, answered⟩ := mem_of_insert_subset included
    obtain ⟨rfl, entriesCharged⟩ := capturePoint_run pointRun
    refine ⟨earlier, fun budget same => ⟨capture'.remaining, ?_, rfl⟩⟩
    subst same
    have held : (answersTo snapshot reads).points key =
        some (snapshot.get key) :=
      if_pos answered
    unfold verifiedRecords
    simp only [held]
    rw [run_bind_of_ok (replay _ entriesCharged)]
    rfl
  scanRecords start := by
    intro capture entries capture' captured included
    obtain ⟨requests, charged, entriesRun, replay⟩ := captureRead_run captured
    rw [requests] at included
    obtain ⟨earlier, answered⟩ := mem_of_insert_subset included
    obtain ⟨rfl, entriesCharged⟩ := captureEntries_run entriesRun
    refine ⟨earlier, fun budget same => ⟨capture'.remaining, ?_, rfl⟩⟩
    subst same
    have held : (answersTo snapshot reads).prefixes start =
        some (snapshot.prefixScan start) :=
      if_pos answered
    unfold verifiedRecords
    simp only [held]
    rw [run_bind_of_ok (replay _ entriesCharged)]
    rfl

theorem verifiedRecords_simulates
    {records : VerifiedRecords V} (answers : AnswersOf snapshot records) :
    RecordStore.Simulates (fun _ : ReadLimits => True) (fun _ _ => True)
      (verifiedRecords codec records) (snapshotRecords snapshot) where
  readRecord key := by
    intro budget value budget' success _
    refine ⟨trivial, fun target _ => ⟨target, ?_, trivial⟩⟩
    unfold verifiedRecords at success
    cases held : records.points key with
    | none =>
      simp only [held] at success
      cases success
    | some answer =>
      simp only [held] at success
      obtain ⟨_, middle, _, finalRun⟩ := run_bind_ok success
      cases finalRun
      rw [answers.points key value held]
      rfl
  scanRecords start := by
    intro budget value budget' success _
    refine ⟨trivial, fun target _ => ⟨target, ?_, trivial⟩⟩
    unfold verifiedRecords at success
    cases held : records.prefixes start with
    | none =>
      simp only [held] at success
      cases success
    | some entries =>
      simp only [held] at success
      obtain ⟨_, middle, _, finalRun⟩ := run_bind_ok success
      cases finalRun
      rw [answers.prefixes start value held]
      rfl

theorem answersTo_answersOf (reads : List RecordRead) :
    AnswersOf snapshot (answersTo snapshot reads) where
  points key answer held := by
    by_cases asked : RecordRead.key key ∈ reads
    · exact (Option.some.inj ((if_pos asked).symm.trans held)).symm
    · have absent : (answersTo snapshot reads).points key = none := if_neg asked
      rw [absent] at held
      cases held
  prefixes start entries held := by
    by_cases asked : RecordRead.keyPrefix start ∈ reads
    · exact (Option.some.inj ((if_pos asked).symm.trans held)).symm
    · have absent : (answersTo snapshot reads).prefixes start = none := if_neg asked
      rw [absent] at held
      cases held

/-- A successful capture ran its evaluation to a decision and returned the
requests it made. -/
theorem captureReads_ok {hashing : KeyHashing} {encodedSize : String → AccessRequest → Nat}
    {policy : String} {request : AccessRequest} {limits : PermissionLimits}
    (captured : captureReads hashing codec encodedSize snapshot policy request limits = .ok reads) :
    ∃ decision capture,
      capturedEvaluation hashing codec snapshot policy request limits.reads =
          (.ok decision, capture) ∧ capture.requests = reads := by
  unfold captureReads at captured
  cases validated : validateRequest encodedSize policy request limits with
  | error error =>
    rw [validated] at captured
    cases captured
  | ok _ =>
    simp only [validated, bind, Except.bind] at captured
    match outcome : capturedEvaluation hashing codec snapshot policy request limits.reads with
    | (.error error, capture) =>
      rw [outcome] at captured
      cases captured
    | (.ok decision, capture) =>
      rw [outcome] at captured
      refine ⟨decision, capture, rfl, ?_⟩
      unfold Capture.distinctRequests at captured
      by_cases failed : capture.failed = true
      · simp only [failed, if_true] at captured
        cases captured
      · simp only [failed] at captured
        exact Except.ok.inj captured

end Replay

/-- Captured reads replay to the captured decision, and verified answers of a
snapshot never decide otherwise than the snapshot. -/
theorem verified_reads_decide_as_snapshot {V : Type} (hashing : KeyHashing) (codec : RecordCodec V)
    (encodedSize : String → AccessRequest → Nat) (snapshot : KvStore V)
    (policy : String) (request : AccessRequest) (decision : Bool) :
    (∀ limits reads,
      captureReads hashing codec encodedSize snapshot policy request limits = .ok reads →
        (capturedEvaluation hashing codec snapshot policy request limits.reads).1 = .ok decision →
          verifiedEvaluation hashing codec (answersTo snapshot reads) policy
            request limits.reads = .ok decision) ∧
      ∀ records limits,
        AnswersOf snapshot records →
          verifiedEvaluation hashing codec records policy request limits = .ok decision →
            snapshotEvaluation hashing codec snapshot policy request =
              .ok decision := by
  constructor
  · intro limits reads captured decided
    obtain ⟨decided', capture, evaluated, requests⟩ := captureReads_ok captured
    have sameDecision : decided' = decision := by
      rw [evaluated] at decided
      exact Except.ok.inj decided
    subst sameDecision
    have included : capture.requests ⊆ reads := requests ▸ List.Subset.refl _
    obtain ⟨_, replayed⟩ :=
      evaluateAccessRequest_simulates hashing codec
        (readCapture_simulates reads) policy request _ _ _ evaluated included
    obtain ⟨budget, verified, _⟩ := replayed limits.reads rfl
    exact congrArg Prod.fst verified
  · intro records limits answers verified
    obtain ⟨_, followed⟩ :=
      evaluateAccessRequest_simulates hashing codec
        (verifiedRecords_simulates answers) policy request limits decision _
        (Prod.ext verified rfl) trivial
    obtain ⟨_, evaluated, _⟩ := followed () trivial
    exact congrArg Prod.fst evaluated

/-! ## A plan that everybody may read -/

def planReader : Did :=
  ⟨"did:key:alice", Did.supported_alice⟩

def planMetadata : RecordMetadata :=
  ⟨⟨0, 1⟩, [], "", "did:key:alice"⟩

def planPolicy : PolicyRecord where
  policy :=
    ⟨"policy", "plans", "", none, [⟨"document", "", [⟨"reader", "", .this, none, []⟩]⟩], [], .none⟩
  rawPolicy := ""
  marshalType := .shortYaml
  metadata := planMetadata

def planGrant : RelationshipRecord :=
  ⟨"policy", ⟨"document", "plan", "reader", .wildcard⟩, false, planMetadata⟩

/-- The subject encoding and the digests of the two subjects that reading the
plan asks for. -/
def planHashing : KeyHashing where
  subjectJson subject :=
    match subject with
    | .wildcard => utf8 "\"Wildcard\""
    | .entity did =>
      utf8 ("\x7b\"Entity\":\"" ++ did.asStr ++ "\"\x7d")
    | _ => []
  sha256 input :=
    if input = subjectDomain ++ utf8 "\"Wildcard\"" then
      [0, 65, 74, 177, 66, 13, 90, 150, 139, 42, 184, 142, 246, 139, 34, 73,
        123, 3, 28, 208, 74, 38, 191, 34, 56, 12, 179, 248, 69, 250, 24, 177]
    else
      [77, 35, 79, 70, 252, 12, 239, 38, 189, 28, 238, 97, 196, 191, 92, 8,
        207, 151, 151, 79, 65, 246, 234, 202, 121, 60, 126, 21, 141, 220, 197, 191]

def planCodec : RecordCodec (PolicyRecord ⊕ RelationshipRecord) where
  size
    | .inl _ => 340
    | .inr _ => 252
  decodePolicy
    | .inl record => .ok record
    | .inr _ => .error (.json "missing field")
  decodeRelationship
    | .inl _ => .error (.json "missing field")
    | .inr record => .ok record

def planSnapshot : KvStore (PolicyRecord ⊕ RelationshipRecord) :=
  (OrderedMap.empty.insert (policyKey "policy") (.inl planPolicy)).insert
    (canonicalKey planHashing planGrant) (.inr planGrant)

def planRequest : AccessRequest :=
  ⟨[⟨⟨"document", "plan"⟩, "reader"⟩], ⟨planReader⟩⟩

def planLimits : PermissionLimits :=
  ⟨⟨256, 4096, 1048576⟩, 64, 65536⟩

def planReads : List RecordRead :=
  [.key (canonicalKey planHashing planGrant),
    .key (relationshipKey "policy"
      (relationshipStorageKey planHashing ⟨"document", "plan", "reader", .entity planReader⟩)),
    .key (policyKey "policy")]

theorem verified_reads_decide_plan :
    captureReads planHashing planCodec (fun _ _ => 120) planSnapshot
        "policy" planRequest planLimits = .ok planReads ∧
      verifiedEvaluation planHashing planCodec
          (answersTo planSnapshot planReads) "policy" planRequest planLimits.reads = .ok true ∧
        snapshotEvaluation planHashing planCodec planSnapshot "policy" planRequest = .ok true := by
  have captured :
      captureReads planHashing planCodec (fun _ _ => 120) planSnapshot
        "policy" planRequest planLimits = .ok planReads := by
    decide +kernel
  have decided :
      (capturedEvaluation planHashing planCodec planSnapshot "policy"
        planRequest planLimits.reads).1 = .ok true := by
    decide +kernel
  have agrees := verified_reads_decide_as_snapshot planHashing planCodec
    (fun _ _ => 120) planSnapshot "policy" planRequest true
  have verified := agrees.1 planLimits planReads captured decided
  exact ⟨captured, verified, agrees.2 _ planLimits.reads (answersTo_answersOf planReads) verified⟩

end VeraHub.Permission
