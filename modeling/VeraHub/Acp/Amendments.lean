import VeraHub.Acp.Ownership
import VeraHub.Library.IndexedStore

/-!
# Amendments

Revealing an older commitment of a registered object records an amendment, and
its new owner may flag it.  Amendments are numbered, lie under their own keys,
belong to known policies and are indexed by them.
-/

namespace VeraHub.Acp.AcpModule

open VeraHub.Zanzibar

/-! ## Index layout -/

theorem append_beBytes_inj {first second : Bytes} {left right : UInt64}
    (same : first ++ beBytes left = second ++ beBytes right) : left = right := by
  have lengths : (beBytes left).length = (beBytes right).length := by
    rw [length_beBytes, length_beBytes]
  exact beBytes_injective (List.append_inj_right' same lengths)

def amendmentLayout : IndexLayout Bytes StoredValue AmendmentEvent where
  recordKey event := amendmentEventKey event.id
  wrap := .amendment
  entry event := some (amendmentEventPolicyIndexKey event.policyId event.id)
  mark := .empty
  IsEntry := InFamily .amendmentPolicy
  entry_isEntry := by
    intro event key member
    cases member
    exact amendmentEventPolicyIndexKey_inFamily _ _
  entry_determines := by
    intro first second key firstMember secondMember
    cases firstMember
    have same := Option.some.inj secondMember
    rw [append_beBytes_inj same]

/-! ## Numbered records -/

section Numbered

variable {module final : AcpModule} {recordKey : UInt64 → Bytes} {counterKey : Bytes}

/-- A counter that can be read and has reached every number in use. -/
structure Numbered (recordKey : UInt64 → Bytes) (counterKey : Bytes)
    (module : AcpModule) : Prop where
  readable : Counts module counterKey 0
  reached : ∀ id, (module.store.get (recordKey id)).isSome = true →
    Counts module counterKey id.toNat

theorem Numbered.new : Numbered recordKey counterKey AcpModule.new where
  readable := .inl ⟨rfl, rfl⟩
  reached := by
    intro id found
    cases found

theorem Numbered.congr (numbered : Numbered recordKey counterKey module)
    (sameCounter : final.store.get counterKey = module.store.get counterKey)
    (fewer : ∀ id, (final.store.get (recordKey id)).isSome = true →
      (module.store.get (recordKey id)).isSome = true) :
    Numbered recordKey counterKey final where
  readable := numbered.readable.congr sameCounter
  reached := by
    intro id found
    exact (numbered.reached id (fewer id found)).congr sameCounter

theorem Numbered.next {invalid exhausted : String} {next : UInt64}
    (numbered : Numbered recordKey counterKey module)
    (counted : nextCounter counterKey invalid exhausted module = .ok next)
    (stored : final.store.get counterKey = some (.counter next))
    (fewer : ∀ id, id ≠ next →
      (final.store.get (recordKey id)).isSome = true →
        (module.store.get (recordKey id)).isSome = true) :
    Numbered recordKey counterKey final where
  readable := .inr ⟨next, stored, Nat.zero_le _⟩
  reached := by
    intro id found
    refine .inr ⟨next, stored, ?_⟩
    by_cases here : id = next
    · rw [here]
    · have reached := numbered.reached id (fewer id here found)
      exact (reached.lt_next counted).le

end Numbered

/-! ## Steps -/

section Steps

variable {externals : Externals} {request : Request} {module middle final : AcpModule}

/-- What a command does to the amendments. -/
inductive AmendmentStep (module : AcpModule) : AcpModule → Prop where
  | kept : AmendmentStep module module
  | amended (event : AmendmentEvent) (known : (module.cached event.policyId).isSome = true)
      (named : didAccepts event.previousOwner.did.asStr = true)
      (counted : nextCounter amendmentEventCounterKey
        "invalid record counter" "record counter exhausted" module = .ok event.id)
      (fresh : module.store.get (amendmentEventKey event.id) = none) :
      AmendmentStep module (withAmendment event module)
  | flagged (event : AmendmentEvent)
      (found : module.store.get (amendmentEventKey event.id) = some (.amendment event)) :
      AmendmentStep module
        (module.withStored (amendmentEventKey event.id)
          (.amendment { event with hijackFlag := true }))

theorem getAmendmentEventById_ok {id : UInt64} {event : AmendmentEvent}
    (found : getAmendmentEventById id module = .ok (some event)) :
    module.store.get (amendmentEventKey id) = some (.amendment event) ∧ event.id = id := by
  unfold getAmendmentEventById at found
  cases stored : module.store.get (amendmentEventKey id) with
  | none =>
    rw [stored] at found
    cases found
  | some value =>
    rw [stored] at found
    cases value with
    | amendment other =>
      simp only [decodeAmendmentOf, StoredValue.decodeAmendment] at found
      split at found
      · cases found
      · rename_i matching
        cases found
        push Not at matching
        exact ⟨rfl, matching.2⟩
    | _ => cases found

theorem amendedOwner_accepted {commitment : RegistrationsCommitment}
    {existing : RelationshipRecord} {previous : Did}
    (earlier : amendedOwner commitment existing = .ok previous) :
    didAccepts previous.asStr = true := by
  unfold amendedOwner Did.new at earlier
  split at earlier
  · cases earlier
  by_cases accepted : didAccepts existing.metadata.ownerDid = true
  · simp only [accepted, dite_true] at earlier
    cases earlier
    exact accepted
  · simp only [accepted] at earlier
    cases earlier

theorem Applied.amendments {inContext : Bool} {creator : Did}
    {policyId : String} {metadata eventMetadata : RecordMetadata}
    {cmd : PolicyCmd} {result : PolicyCmdResult}
    (applied : Applied externals inContext creator policyId metadata
      eventMetadata module cmd result final) :
    ∃ middle, AmendmentStep module middle ∧
      Within (.relationship :: commitmentFamilies) middle final := by
  have start : Within (.relationship :: commitmentFamilies) module module := .refl
  cases applied with
  | relationshipKept found => exact ⟨module, .kept, start⟩
  | relationshipSet known reserved fresh fits =>
    exact ⟨module, .kept, start.withStored _ (relationshipKey_inFamily _ _) (by decide)⟩
  | relationshipDeleted known reserved =>
    exact ⟨module, .kept, start.withoutStored (relationshipKey_inFamily _ _) (by decide)⟩
  | registered valid free =>
    exact ⟨module, .kept, start.withStored _ (relationshipKey_inFamily _ _) (by decide)⟩
  | archivedAlready => exact ⟨module, .kept, start⟩
  | archived owner found entitled selected =>
    have pruned : Within (.relationship :: commitmentFamilies) module _ :=
      (pruned_within module selected).mono (by decide)
    exact ⟨module, .kept, pruned.withStored _ (relationshipKey_inFamily _ _) (by decide)⟩
  | unarchived found entitled =>
    exact ⟨module, .kept, start.withStored _ (relationshipKey_inFamily _ _) (by decide)⟩
  | committed contextFree known width settings counted fresh =>
    exact ⟨module, .kept, (withNewCommitment_within module _).mono (by decide)⟩
  | recommitted contextual known width settings counted fresh =>
    exact ⟨module, .kept,
      ((withNewCommitment_within module _).trans (withCommitment_within _ _ _)).mono (by decide)⟩
  | revealed proved free =>
    exact ⟨module, .kept, start.withStored _ (relationshipKey_inFamily _ _) (by decide)⟩
  | @amended commitmentId proof commitment existing previous next proved found
      earlier counted fresh =>
      obtain ⟨policy, known, _⟩ := validateRegistrationObject_ok (revealedCommitment_ok proved).1
      let event := amendmentOf creator policyId eventMetadata proof.object
        previous commitmentId next
      have step : AmendmentStep module (withAmendment event module) :=
        .amended event (Option.isSome_iff_exists.mpr ⟨policy, known⟩)
          (amendedOwner_accepted earlier) counted fresh
      have noted : Within (.relationship :: commitmentFamilies)
          (withAmendment event module) (withAmendment event module) := .refl
      have released := noted.withoutStored
        (relationshipKey_inFamily policyId
          (relationshipStorageKey externals.hashing existing.relationship))
        (by decide)
      exact ⟨_, step, released.withStored _ (relationshipKey_inFamily _ _) (by decide)⟩
  | @flagged eventId event found entitled =>
    obtain ⟨stored, sameId⟩ := getAmendmentEventById_ok found
    rw [← sameId] at stored
    exact ⟨_, .flagged event stored, .refl⟩

end Steps

/-! ## Sound amendments -/

section Sound

variable {externals : Externals} {request : Request}
  {module middle final : AcpModule} {event : AmendmentEvent}

/-- Amendments lie under their own keys, belong to known policies, name their
previous owner and are numbered and indexed exactly. -/
structure AmendmentsSound (module : AcpModule) : Prop where
  placed : ∀ key value, InFamily .amendment key →
    module.store.get key = some value →
      ∃ event, value = .amendment event ∧ key = amendmentEventKey event.id ∧
        event.id ≠ 0 ∧ (module.cached event.policyId).isSome = true ∧
          didAccepts event.previousOwner.did.asStr = true
  indexed : amendmentLayout.Exact module.store.get
  numbered : Numbered amendmentEventKey amendmentEventCounterKey module

theorem AmendmentsSound.new : AmendmentsSound AcpModule.new where
  placed := by
    intro key value inFamily found
    cases found
  indexed := .of_empty fun _ => rfl
  numbered := .new

theorem ResourcesKept.cached {id : String} (kept : ResourcesKept module final)
    (known : (module.cached id).isSome = true) : (final.cached id).isSome = true := by
  obtain ⟨policy, found⟩ := Option.isSome_iff_exists.mp known
  obtain ⟨later, stillFound, _⟩ := kept id policy found
  exact Option.isSome_iff_exists.mpr ⟨later, stillFound⟩

theorem AmendmentsSound.frame (sound : AmendmentsSound module) (kept : ResourcesKept module final)
    (same : ∀ family ∈ amendmentFamilies, ∀ key, InFamily family key →
      final.store.get key = module.store.get key) :
    AmendmentsSound final where
  placed := by
    intro key value inFamily found
    rw [same .amendment (by decide) key inFamily] at found
    obtain ⟨event, isEvent, isKey, positive, known, named⟩ := sound.placed key value inFamily found
    exact ⟨event, isEvent, isKey, positive, kept.cached known, named⟩
  indexed := by
    refine sound.indexed.congr ?_ ?_
    · intro record
      have sameRecord : final.store.get (amendmentLayout.recordKey record) =
          module.store.get (amendmentLayout.recordKey record) :=
        same .amendment (by decide) _ (amendmentEventKey_inFamily record.id)
      unfold IndexLayout.Stored
      rw [sameRecord]
    · intro key isEntry
      exact same .amendmentPolicy (by decide) key isEntry
  numbered := by
    refine sound.numbered.congr ?_ ?_
    · exact same .amendmentCounter (by decide) _ amendmentEventCounterKey_inFamily
    · intro id found
      rw [same .amendment (by decide) _ (amendmentEventKey_inFamily id)] at found
      exact found

theorem amendmentEventKey_injective :
    Function.Injective amendmentEventKey := by
  intro first second same
  exact append_beBytes_inj same

theorem withAmendment_get_event (id : UInt64) :
    (withAmendment event module).store.get (amendmentEventKey id) =
      if id = event.id then some (.amendment event)
      else module.store.get (amendmentEventKey id) := by
  have keyFamily := amendmentEventKey_inFamily id
  have notIndex := keyFamily.ne (amendmentEventPolicyIndexKey_inFamily event.policyId event.id)
    (by decide)
  have notCounter := keyFamily.ne amendmentEventCounterKey_inFamily (by decide)
  unfold withAmendment
  rw [withStored_get, if_neg notIndex, withStored_get, withStored_get, if_neg notCounter]
  by_cases here : id = event.id
  · rw [if_pos here, if_pos (congrArg amendmentEventKey here)]
  · rw [if_neg here, if_neg fun same => here (amendmentEventKey_injective same)]

theorem withAmendment_get_index {key : Bytes} (isIndex : InFamily .amendmentPolicy key) :
    (withAmendment event module).store.get key =
      if key = amendmentEventPolicyIndexKey event.policyId event.id then
        some .empty
      else module.store.get key := by
  have notEvent := isIndex.ne (amendmentEventKey_inFamily event.id) (by decide)
  have notCounter := isIndex.ne amendmentEventCounterKey_inFamily (by decide)
  unfold withAmendment
  rw [withStored_get, withStored_get, if_neg notEvent, withStored_get, if_neg notCounter]

theorem withAmendment_get_counter :
    (withAmendment event module).store.get amendmentEventCounterKey =
      some (.counter event.id) := by
  have keyFamily := amendmentEventCounterKey_inFamily
  have notIndex := keyFamily.ne (amendmentEventPolicyIndexKey_inFamily event.policyId event.id)
    (by decide)
  have notEvent := keyFamily.ne (amendmentEventKey_inFamily event.id) (by decide)
  unfold withAmendment
  rw [withStored_get, if_neg notIndex, withStored_get, if_neg notEvent, withStored_get, if_pos rfl]

theorem AmendmentsSound.amended_indexed (sound : AmendmentsSound module)
    (fresh : module.store.get (amendmentEventKey event.id) = none) :
    amendmentLayout.Exact (withAmendment event module).store.get := by
  refine @IndexLayout.Exact.replace _ _ _ _ _ _ (amendmentEventKey event.id)
    none (some event) sound.indexed ?_ ?_ ?_ ?_ ?_ ?_ ?_ ?_
  · intro record sameKey stored
    have here : module.store.get (amendmentEventKey record.id) =
        some (.amendment record) := stored
    rw [show amendmentEventKey record.id = amendmentEventKey event.id from sameKey, fresh] at here
    cases here
  · intro record sameKey
    have sameId := amendmentEventKey_injective sameKey
    change (withAmendment event module).store.get (amendmentEventKey record.id) =
      some (.amendment record) ↔ _
    rw [withAmendment_get_event, if_pos sameId]
    simp only [Option.some.injEq, StoredValue.amendment.injEq, Option.mem_def]
  · exact fun _ member => (nomatch member)
  · intro record member
    cases member
    rfl
  · intro record otherKey
    have otherId : record.id ≠ event.id := fun same => otherKey (congrArg amendmentEventKey same)
    change (withAmendment event module).store.get (amendmentEventKey record.id) =
      some (.amendment record) ↔
        module.store.get (amendmentEventKey record.id) = some (.amendment record)
    rw [withAmendment_get_event, if_neg otherId]
  · intro record member entry indexed
    cases member
    cases indexed
    rw [withAmendment_get_index (amendmentEventPolicyIndexKey_inFamily _ _), if_pos rfl]
    rfl
  · intro entry _ _ isOld
    obtain ⟨old, member, _⟩ := isOld
    cases member
  · intro entry isEntry notNew _
    have different : entry ≠
        amendmentEventPolicyIndexKey event.policyId event.id :=
      fun same => notNew event rfl (congrArg some same.symm)
    rw [withAmendment_get_index isEntry, if_neg different]

theorem AmendmentsSound.amended (sound : AmendmentsSound module)
    (known : (module.cached event.policyId).isSome = true)
    (named : didAccepts event.previousOwner.did.asStr = true)
    (counted : nextCounter amendmentEventCounterKey "invalid record counter"
      "record counter exhausted" module = .ok event.id)
    (fresh : module.store.get (amendmentEventKey event.id) = none) :
    AmendmentsSound (withAmendment event module) where
  placed := by
    intro key value inFamily found
    have notIndex := inFamily.ne (amendmentEventPolicyIndexKey_inFamily event.policyId event.id)
      (by decide)
    have notCounter := inFamily.ne amendmentEventCounterKey_inFamily (by decide)
    unfold withAmendment at found
    rw [withStored_get, if_neg notIndex, withStored_get] at found
    by_cases here : key = amendmentEventKey event.id
    · rw [if_pos here] at found
      cases found
      have positive := sound.numbered.readable.lt_next counted
      refine ⟨event, rfl, here, ?_, known, named⟩
      intro zero
      rw [zero] at positive
      exact absurd positive (Nat.lt_irrefl 0)
    · rw [if_neg here, withStored_get, if_neg notCounter] at found
      exact sound.placed key value inFamily found
  indexed := sound.amended_indexed fresh
  numbered := by
    refine sound.numbered.next counted withAmendment_get_counter ?_
    intro id other found
    rw [withAmendment_get_event, if_neg other] at found
    exact found

theorem flagged_get_event (id : UInt64) {marked : AmendmentEvent} :
    (module.withStored (amendmentEventKey event.id)
        (.amendment marked)).store.get (amendmentEventKey id) =
      if id = event.id then some (.amendment marked)
      else module.store.get (amendmentEventKey id) := by
  rw [withStored_get]
  by_cases here : id = event.id
  · rw [if_pos here, if_pos (congrArg amendmentEventKey here)]
  · rw [if_neg here, if_neg fun same => here (amendmentEventKey_injective same)]

theorem AmendmentsSound.flagged_indexed (sound : AmendmentsSound module)
    (stored : module.store.get (amendmentEventKey event.id) = some (.amendment event)) :
    amendmentLayout.Exact
      (module.withStored (amendmentEventKey event.id)
        (.amendment { event with hijackFlag := true })).store.get := by
  have sameIndex : ∀ entry, InFamily .amendmentPolicy entry →
      (module.withStored (amendmentEventKey event.id)
        (.amendment { event with hijackFlag := true })).store.get entry =
          module.store.get entry := by
    intro entry isEntry
    rw [withStored_get, if_neg (isEntry.ne (amendmentEventKey_inFamily event.id) (by decide))]
  refine @IndexLayout.Exact.replace _ _ _ _ _ _ (amendmentEventKey event.id)
    (some event) (some { event with hijackFlag := true }) sound.indexed ?_ ?_ ?_ ?_ ?_ ?_ ?_ ?_
  · intro record sameKey present
    have here : module.store.get (amendmentEventKey record.id) =
        some (.amendment record) := present
    rw [show amendmentEventKey record.id = amendmentEventKey event.id from sameKey, stored] at here
    cases here
    rfl
  · intro record sameKey
    have sameId := amendmentEventKey_injective sameKey
    change (module.withStored (amendmentEventKey event.id)
      (.amendment { event with hijackFlag := true })).store.get
        (amendmentEventKey record.id) = some (.amendment record) ↔ _
    rw [flagged_get_event, if_pos sameId]
    simp only [Option.some.injEq, StoredValue.amendment.injEq, Option.mem_def]
  · intro record member
    cases member
    rfl
  · intro record member
    cases member
    rfl
  · intro record otherKey
    have otherId : record.id ≠ event.id := fun same => otherKey (congrArg amendmentEventKey same)
    change (module.withStored (amendmentEventKey event.id)
      (.amendment { event with hijackFlag := true })).store.get
        (amendmentEventKey record.id) = some (.amendment record) ↔
          module.store.get (amendmentEventKey record.id) = some (.amendment record)
    rw [flagged_get_event, if_neg otherId]
  · intro record member entry indexed
    cases member
    rw [sameIndex entry (amendmentLayout.entry_isEntry _ _ indexed)]
    exact sound.indexed.covered event stored entry indexed
  · intro entry _ notNew isOld
    obtain ⟨old, member, indexed⟩ := isOld
    cases member
    exact (notNew _ rfl indexed).elim
  · intro entry isEntry _ _
    exact sameIndex entry isEntry

theorem AmendmentsSound.flagged (sound : AmendmentsSound module)
    (stored : module.store.get (amendmentEventKey event.id) = some (.amendment event)) :
    AmendmentsSound
      (module.withStored (amendmentEventKey event.id)
        (.amendment { event with hijackFlag := true })) where
  placed := by
    intro key value inFamily found
    rw [withStored_get] at found
    by_cases here : key = amendmentEventKey event.id
    · rw [if_pos here] at found
      cases found
      obtain ⟨old, isOld, _, positive, known, named⟩ :=
        sound.placed _ _ (amendmentEventKey_inFamily event.id) stored
      cases isOld
      exact ⟨_, rfl, here, positive, known, named⟩
    · rw [if_neg here] at found
      exact sound.placed key value inFamily found
  indexed := sound.flagged_indexed stored
  numbered := by
    refine sound.numbered.congr ?_ ?_
    · rw [withStored_get, if_neg (amendmentEventCounterKey_inFamily.ne
        (amendmentEventKey_inFamily event.id) (by decide))]
    · intro id found
      rw [flagged_get_event] at found
      by_cases here : id = event.id
      · rw [here, stored]
        rfl
      · rw [if_neg here] at found
        exact found

theorem AmendmentsSound.step (sound : AmendmentsSound module)
    (step : AmendmentStep module final) : AmendmentsSound final := by
  cases step with
  | kept => exact sound
  | amended event known named counted fresh =>
    exact sound.amended known named counted fresh
  | flagged event found => exact sound.flagged found

theorem AmendmentsSound.within {families : List Family}
    (sound : AmendmentsSound module) (within : Within families module final)
    (unlisted : ∀ family ∈ amendmentFamilies, family ∉ families) :
    AmendmentsSound final :=
  sound.frame (.of_cache within.cache)
    fun family member _ inFamily => within.get inFamily (unlisted family member)

theorem Change.amendmentsSound (change : Change externals request module final)
    (policies : PoliciesSound externals module)
    (sound : AmendmentsSound module) : AmendmentsSound final := by
  cases change.commitmentChange with
  | elsewhere same =>
    refine sound.frame (change.resourcesKept policies) ?_
    intro family member key inFamily
    have unlisted : family ∉ recordFamilies := by
      revert member
      cases family <;> decide
    exact same.get inFamily unlisted
  | commanded submitted creator metadata eventMetadata result submits dated applied =>
    obtain ⟨middle, step, within⟩ := applied.amendments
    exact (sound.step step).within within (by decide)
  | expired chain => exact sound.within chain.within (by decide)

theorem AmendmentsSound.effect (sound : AmendmentsSound module)
    (policies : PoliciesSound externals module) (effect : Effect externals request module final) :
    AmendmentsSound final := by
  obtain ⟨before, after, first, change, last⟩ := effect.exists_change
  have soundBefore := sound.within first.within (by decide)
  have policiesBefore := policies.frame first.within (by decide) (by decide)
  have soundAfter := change.amendmentsSound policiesBefore soundBefore
  exact soundAfter.within last.within (by decide)

end Sound

end VeraHub.Acp.AcpModule
