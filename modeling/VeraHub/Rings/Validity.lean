import VeraHub.Rings.Reports
import VeraHub.Vera.TokenRuns

/-!
# Valid ring records

What validation says about a record, and what reading and sealing records say
about the store.  A store is sound when it holds nothing but valid records below
the ring keys; then every ring can be read.
-/

namespace VeraHub.Rings

open VeraHub.Acp VeraHub.Vera VeraHub.Vera.VeraModule

variable {done : Unit}

theorem require_ok {condition : Prop} [Decidable condition] {error : RingError} (passed : require condition error = .ok done) :
    condition := by
  unfold require at passed
  split at passed
  · assumption
  · cases passed

theorem require_of {condition : Prop} [Decidable condition] {error : RingError}
    (holds : condition) : require condition error = .ok () :=
  if_pos holds

theorem asInvalid_ok {ε α : Type} {text : ε → String} {result : Except ε α}
    {value : α} (succeeded : asInvalid text result = .ok value) : result = .ok value :=
  mapError_ok succeeded

/-! ## Searching -/

variable {values : List String}

theorem contains_iff {value : String} : contains values value = true ↔ value ∈ values := by
  unfold contains binarySearch
  cases found : values.findIdx? (fun other => other = value) with
  | none =>
    have absent := List.findIdx?_eq_none_iff.mp found
    simp only [decide_eq_false_iff_not] at absent
    constructor
    · intro impossible
      cases impossible
    · intro listed
      exact (absent value listed rfl).elim
  | some index =>
    obtain ⟨within, same, _⟩ := List.findIdx?_eq_some_iff_getElem.mp found
    constructor
    · intro _
      rw [← of_decide_eq_true same]
      exact List.getElem_mem within
    · intro _
      rfl

/-- A failed search means absence, and the insertion point is in range. -/
theorem binarySearch_error {value : String} {position : Nat}
    (missing : binarySearch values value = .error position) :
    value ∉ values ∧ position ≤ values.length := by
  unfold binarySearch at missing
  split at missing
  · cases missing
  · rename_i found
    have absent := List.findIdx?_eq_none_iff.mp found
    simp only [decide_eq_false_iff_not] at absent
    cases missing
    exact ⟨fun listed => absent value listed rfl, List.countP_le_length⟩

theorem Sorted.nodup (sorted : Sorted values) :
    values.Nodup := by
  have increasing : (values.map utf8).Pairwise (· < ·) := List.isChain_iff_pairwise.mp sorted
  have distinct : (values.map utf8).Nodup := increasing.imp fun less => ne_of_lt less
  exact distinct.of_map

/-! ## Validation -/

variable {record : RingRecord} {id : String} {revision : Timestamp} {sealed : Sealed}

section Validity

variable {host : RingHost}

theorem keys_sorted {empty : Bool}
    (passed : keys host values empty = .ok done) : Sorted values := by
  obtain ⟨_, checked, _⟩ := exceptBind_ok passed
  have bounds := require_ok checked
  by_contra unsorted
  exact bounds (.inr (.inr unsorted))

theorem config_sorted {config : RingConfig} (passed : config.validate host = .ok done) :
    Sorted config.peerNodeKeys := by
  obtain ⟨_, _, passed⟩ := exceptBind_ok passed
  obtain ⟨_, peers, _⟩ := exceptBind_ok passed
  exact keys_sorted peers

/-- What a pending state has to satisfy. -/
structure ValidPending (config : RingConfig) (publicKey : Option String)
    (confirmations : List String) : Prop where
  sorted : Sorted confirmations
  fewer : confirmations.length < config.peerNodeKeys.length
  participants : ∀ key ∈ confirmations, key ∈ config.peerNodeKeys
  announced : publicKey.isSome = !confirmations.isEmpty

/-- What validation says about a record. -/
structure Valid (record : RingRecord) (id : String) : Prop where
  id : record.id = id
  peers : Sorted record.config.peerNodeKeys
  pending : ∀ publicKey confirmations,
    record.state = .pending publicKey confirmations →
      ValidPending record.config publicKey confirmations
  schedule : record.currentSettings.SoundSchedule

theorem settings_schedule {settings : RingSettings} (passed : settings.validate host record = .ok done) :
    settings.SoundSchedule := by
  obtain ⟨_, _, passed⟩ := exceptBind_ok passed
  obtain ⟨_, _, passed⟩ := exceptBind_ok passed
  obtain ⟨_, scheduled, _⟩ := exceptBind_ok passed
  exact require_ok scheduled

theorem validateState_pending {publicKey : Option String} {confirmations : List String}
    (state : record.state = .pending publicKey confirmations)
    (passed : record.validateState host = .ok done) :
    ValidPending record.config publicKey confirmations := by
  unfold RingRecord.validateState at passed
  simp only [state] at passed
  obtain ⟨_, keyed, passed⟩ := exceptBind_ok passed
  obtain ⟨_, checked, _⟩ := exceptBind_ok passed
  have bounds := require_ok checked
  push Not at bounds
  obtain ⟨fewer, participants, announced⟩ := bounds
  refine ⟨keys_sorted keyed, fewer, ?_, ?_⟩
  · intro key listed
    by_contra outside
    apply participants
    rw [List.any_eq_true]
    refine ⟨key, listed, ?_⟩
    rw [Bool.not_eq_true', Bool.eq_false_iff]
    exact fun found => outside (contains_iff.mp found)
  · cases some? : publicKey.isSome with
    | true =>
      rw [some?] at announced
      cases empty : confirmations.isEmpty with
      | true => exact (announced empty.symm).elim
      | false => rfl
    | false =>
      rw [some?] at announced
      cases empty : confirmations.isEmpty with
      | true => rfl
      | false => exact (announced empty.symm).elim

theorem validate_ok (passed : record.validate host id = .ok done) : Valid record id := by
  unfold RingRecord.validate at passed
  obtain ⟨_, named, passed⟩ := exceptBind_ok passed
  obtain ⟨_, committed, passed⟩ := exceptBind_ok passed
  obtain ⟨_, configured, _⟩ := exceptBind_ok committed
  obtain ⟨_, _, passed⟩ := exceptBind_ok passed
  have schedule : record.currentSettings.SoundSchedule ∧ record.validateState host = .ok done := by
    cases current : record.settings with
    | none =>
      simp only [current] at passed
      refine ⟨?_, passed⟩
      unfold RingRecord.currentSettings
      rw [current]
      exact fun upgrade scheduled => nomatch scheduled
    | some settings =>
      simp only [current] at passed
      obtain ⟨_, validSettings, state⟩ := exceptBind_ok passed
      refine ⟨?_, state⟩
      unfold RingRecord.currentSettings
      rw [current]
      exact settings_schedule validSettings
  exact ⟨require_ok named, config_sorted configured,
    fun _ _ state => validateState_pending state schedule.2, schedule.1⟩

/-! ## Keys -/

theorem ringPath_starts (id : String) : utf8 "orbis/ring/v1/" <+: ringPath id := by
  unfold ringPath Hub.serviceKey
  rw [utf8_append, ← List.append_assoc]
  exact List.prefix_append _ _

theorem ringPath_inj {first second : String} :
    ringPath first = ringPath second ↔ first = second := by
  unfold ringPath Hub.serviceKey
  rw [List.append_cancel_left_eq, utf8_append, utf8_append, List.append_cancel_left_eq, utf8_inj]

theorem ringKey_ok {key : Bytes} (keyed : ringKey id = .ok key) : key = ringPath id := by
  obtain ⟨_, _, found⟩ := exceptBind_ok keyed
  exact (Except.ok.inj found).symm

/-! ## Stored rings -/

variable (host) in
def held (module : VeraModule) (id : String) : Option RingRecord :=
  match module.store.get (ringPath id) with
  | some (.service bytes) => (host.readRecord bytes).toOption
  | _ => none

variable (host) in
/-- Nothing but valid records within the byte limit lies below the ring
keys. -/
structure RingsSound (module : VeraModule) : Prop where
  stored : ∀ id value, module.store.get (ringPath id) = some value →
    ∃ record, value = .service (host.recordJson record) ∧ ringKey id = .ok (ringPath id) ∧
      record.validate host id = .ok () ∧ (host.recordJson record).length ≤ maxRingRecordBytes

variable (host) in
def RoundTrips : Prop :=
  ∀ record, host.readRecord (host.recordJson record) = .ok record

variable {module : VeraModule}

theorem held_some (roundTrips : RoundTrips host) (sound : RingsSound host module)
    (found : held host module id = some record) :
    module.store.get (ringPath id) = some (.service (host.recordJson record)) ∧
      ringKey id = .ok (ringPath id) ∧ record.validate host id = .ok () ∧
      (host.recordJson record).length ≤ maxRingRecordBytes := by
  unfold held at found
  cases stored : module.store.get (ringPath id) with
  | none =>
    rw [stored] at found
    cases found
  | some value =>
    obtain ⟨other, rfl, keyed, valid, short⟩ := sound.stored id value stored
    simp only [stored, roundTrips other] at found
    have same : other = record := Option.some.inj found
    subst same
    exact ⟨rfl, keyed, valid, short⟩

theorem held_none (roundTrips : RoundTrips host) (sound : RingsSound host module)
    (missing : held host module id = none) : module.store.get (ringPath id) = none := by
  cases stored : module.store.get (ringPath id) with
  | none => rfl
  | some value =>
    obtain ⟨other, rfl, _⟩ := sound.stored id value stored
    unfold held at missing
    simp only [stored, roundTrips other] at missing
    cases missing

theorem thresholdRing_held (roundTrips : RoundTrips host)
    (sound : RingsSound host module) {key : Bytes} (keyed : ringKey id = .ok key) :
    thresholdRing host id module = .ok (held host module id) := by
  unfold thresholdRing
  rw [exceptBind_of_ok keyed, ringKey_ok keyed]
  cases found : held host module id with
  | none =>
    rw [held_none roundTrips sound found]
  | some record =>
    obtain ⟨stored, _, valid, short⟩ := held_some roundTrips sound found
    have read : asInvalid (fun message => message)
        (host.readRecord (host.recordJson record)) = .ok record := by
      rw [roundTrips record]
      rfl
    rw [stored]
    dsimp only [serviceBytes]
    rw [exceptBind_of_ok (show asInvalid _ (Except.ok _) = .ok _ from rfl),
      exceptBind_of_ok (require_of short), exceptBind_of_ok read, exceptBind_of_ok valid]

theorem requireRing_ok (read : requireRing host id module = .ok record) :
    held host module id = some record ∧ Valid record id := by
  obtain ⟨found, reading, answered⟩ := exceptBind_ok read
  cases found with
  | none => cases answered
  | some other =>
    cases answered
    obtain ⟨key, keyed, reading⟩ := exceptBind_ok reading
    rw [ringKey_ok keyed] at reading
    unfold held
    split at reading
    · cases reading
    · rename_i value stored
      obtain ⟨bytes, isService, reading⟩ := exceptBind_ok reading
      obtain ⟨_, _, reading⟩ := exceptBind_ok reading
      obtain ⟨decoded, isRecord, reading⟩ := exceptBind_ok reading
      obtain ⟨_, valid, reading⟩ := exceptBind_ok reading
      cases reading
      have service : value = .service bytes := by
        have readBytes := asInvalid_ok isService
        cases value with
        | service found => rw [Except.ok.inj readBytes]
        | token => cases readBytes
        | marker => cases readBytes
        | empty => cases readBytes
        | chainConfig => cases readBytes
        | administration => cases readBytes
        | relay => cases readBytes
      rw [stored, service]
      simp only [asInvalid_ok isRecord]
      exact ⟨rfl, validate_ok valid⟩

/-! ## Sealed records -/

/-- What a sealed record is. -/
structure SealedFrom (host : RingHost) (revision : Timestamp)
    (record : RingRecord) (sealed : Sealed) : Prop where
  counted : sealed.record.sequence.toNat = record.sequence.toNat + 1
  rest : sealed.record = { record with
      sequence := sealed.record.sequence
      revision := revision }
  key : sealed.key = ringPath record.id
  keyed : ringKey record.id = .ok (ringPath record.id)
  bytes : sealed.bytes = host.recordJson sealed.record
  valid : sealed.record.validate host record.id = .ok ()
  short : (host.recordJson sealed.record).length ≤ maxRingRecordBytes

theorem sealRecord_ok (done : sealRecord host revision record = .ok sealed) :
    SealedFrom host revision record sealed := by
  obtain ⟨next, advanced, done⟩ := exceptBind_ok done
  obtain ⟨bytes, encoded, done⟩ := exceptBind_ok done
  obtain ⟨key, keyed, done⟩ := exceptBind_ok done
  cases done
  unfold RingRecord.advance at advanced
  cases succ : checkedSucc record.sequence with
  | none =>
    rw [succ] at advanced
    cases advanced
  | some sequence =>
    rw [succ] at advanced
    cases advanced
    obtain ⟨_, valid, encoded⟩ := exceptBind_ok encoded
    obtain ⟨_, short, encoded⟩ := exceptBind_ok encoded
    cases encoded
    refine ⟨checkedSucc_toNat succ, rfl, ringKey_ok keyed, ?_, rfl, valid, require_ok short⟩
    rw [keyed, ringKey_ok keyed]

theorem get_withSealed (from_ : SealedFrom host revision record sealed) (id : String) :
    (withSealed sealed module).store.get (ringPath id) =
      if id = record.id then
        some (.service (host.recordJson sealed.record))
      else
        module.store.get (ringPath id) := by
  unfold withSealed
  rw [get_withStored, from_.key, from_.bytes]
  by_cases here : id = record.id
  · rw [if_pos here, if_pos (ringPath_inj.mpr here)]
  · rw [if_neg here, if_neg fun same => here (ringPath_inj.mp same)]

/-- A sealed record is held afterwards, and the other rings are as before. -/
theorem held_withSealed (roundTrips : RoundTrips host)
    (from_ : SealedFrom host revision record sealed) (id : String) :
    held host (withSealed sealed module) id =
      if id = record.id then some sealed.record else held host module id := by
  unfold held
  rw [get_withSealed from_]
  by_cases here : id = record.id
  · simp only [if_pos here, roundTrips sealed.record]
    rfl
  · simp only [if_neg here]

theorem RingsSound.withSealed (sound : RingsSound host module)
    (from_ : SealedFrom host revision record sealed) :
    RingsSound host (withSealed sealed module) := by
  constructor
  intro id value stored
  rw [get_withSealed from_] at stored
  by_cases here : id = record.id
  · rw [if_pos here] at stored
    cases stored
    rw [here]
    exact ⟨sealed.record, rfl, from_.keyed, from_.valid, from_.short⟩
  · rw [if_neg here] at stored
    exact sound.stored id value stored

theorem RingsSound.congr {next : VeraModule} (sound : RingsSound host module)
    (same : ∀ id, next.store.get (ringPath id) =
      module.store.get (ringPath id)) : RingsSound host next := by
  constructor
  intro id value stored
  rw [same] at stored
  exact sound.stored id value stored

theorem held_congr {next : VeraModule}
    (same : next.store.get (ringPath id) = module.store.get (ringPath id)) :
    held host next id = held host module id := by
  unfold held
  rw [same]

end Validity

end VeraHub.Rings
