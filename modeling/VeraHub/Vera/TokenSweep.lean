import VeraHub.Vera.TokenRuns

/-!
# The expiry sweep

A sweep invalidates the first due tokens of the deadline index.  On a sound
state it never fails, and as long as some token is due it takes at least one
out of the index.
-/

namespace VeraHub.Vera.VeraModule

open VeraHub.Zanzibar VeraHub.Acp

/-! ## Entries of the deadline index -/

def Due (now : UInt64) (record : JWSTokenRecord) : Prop :=
  record.status ≠ .invalid ∧ record.expiresAt ≠ default ∧ record.expiresAt.seconds < now

instance (now : UInt64) (record : JWSTokenRecord) :
    Decidable (Due now record) :=
  inferInstanceAs (Decidable (_ ∧ _ ∧ _))

variable {key : Bytes} {module : VeraModule}

/-- An index of a sound state marks exactly the keys of stored records. -/
theorem TokensSound.mem_scan_iff (sound : TokensSound module) {index : TokenIndex}
    (member : index ∈ tokenIndexes) {value : VeraValue} :
    (key, value) ∈ module.scan index.start ↔
      value = index.mark ∧ ∃ record,
        module.held record.tokenHash = some record ∧ key ∈ index.keyOf record := by
  have exact := sound.exact index member
  unfold scan
  rw [OrderedMap.mem_prefixScan_iff]
  constructor
  · rintro ⟨starts, found⟩
    obtain ⟨marked, token, stored, isKey⟩ :=
      exact.justified key value starts found
    change module.store.get (jwsTokenKey token.record.tokenHash) = _ at stored
    rw [sound.get_primary] at stored
    obtain ⟨record, isHeld, same⟩ := Option.map_eq_some_iff.mp stored
    injection same with same
    subst same
    exact ⟨marked, token.record, isHeld, isKey⟩
  · rintro ⟨rfl, record, isHeld, isKey⟩
    obtain ⟨token, rfl, _, _⟩ := sound.indexed isHeld
    have stored : module.store.get (jwsTokenKey token.record.tokenHash) =
        some (.token token.record) := by
      rw [sound.get_primary, isHeld]
      rfl
    exact ⟨(lawful_of_mem member).starts token.record key isKey,
      exact.covered token stored key isKey⟩

theorem TokensSound.mem_expiries_iff (sound : TokensSound module) {value : VeraValue} :
    (key, value) ∈ module.scan jwsTokenExpiryPrefix ↔
      value = .empty ∧ ∃ record,
        module.held record.tokenHash = some record ∧ key ∈ tokenExpiryKey record :=
  sound.mem_scan_iff (show expiryIndex ∈ tokenIndexes by simp [tokenIndexes])

/-- An entry is due when its deadline bytes lie before the current time. -/
def dueKey (now : UInt64) (key : Bytes) : Bool :=
  decide ((key.drop jwsTokenExpiryPrefix.length).take 8 < beBytes now)

variable {record : JWSTokenRecord}

theorem deadline_of_mem (isKey : key ∈ tokenExpiryKey record) :
    (key.drop jwsTokenExpiryPrefix.length).take 8 = beBytes record.expiresAt.seconds ∧
      key.drop (jwsTokenExpiryPrefix.length + 8) = utf8 record.tokenHash := by
  obtain ⟨_, _, rfl⟩ := mem_tokenExpiryKey_iff.mp isKey
  have width := length_beBytes record.expiresAt.seconds
  rw [List.append_assoc, ← List.drop_drop, List.drop_left]
  constructor
  · rw [← width, List.take_left]
  · rw [← width, List.drop_left]

variable {now : UInt64}

theorem dueKey_iff
    (isKey : key ∈ tokenExpiryKey record) : dueKey now key = true ↔ Due now record := by
  obtain ⟨active, ends, _⟩ := mem_tokenExpiryKey_iff.mp isKey
  unfold dueKey Due
  rw [(deadline_of_mem isKey).1, decide_eq_true_iff, beBytes_lt_iff]
  simp [active, ends]

theorem TokensSound.expiredToken_eq (sound : TokensSound module) (now : UInt64)
    (isHeld : module.held record.tokenHash = some record) (isKey : key ∈ tokenExpiryKey record) :
    expiredToken now module key .empty =
      .ok (if dueKey now key then some record.tokenHash else none) := by
  obtain ⟨deadline, hash⟩ := deadline_of_mem isKey
  obtain ⟨token, rfl, _, _⟩ := sound.indexed isHeld
  have long : ¬ (key.length ≤ jwsTokenExpiryPrefix.length + 8 ∨ VeraValue.empty ≠ .empty) := by
    have positive := token.hash.length_pos
    rw [← hash, List.length_drop] at positive
    simp only [ne_eq, not_true_eq_false, or_false]
    omega
  unfold expiredToken dueKey
  rw [if_neg long]
  by_cases early : beBytes now ≤ (key.drop jwsTokenExpiryPrefix.length).take 8
  · rw [if_pos early]
    simp [not_lt.mpr early]
  · rw [if_neg early, hash, fromUtf8_utf8]
    have member : tokenExpiryKey token.record = some key := isKey
    simp only [sound.getJwsToken_held, isHeld, member, ne_eq,
      not_true_eq_false, if_false, not_le.mp early, decide_true, if_true]

/-! ## Collecting -/

/-- The hashes collected from entries in key order: each is the hash of a due
token with an entry, and a due first entry is among them. -/
structure CollectedTokens (now : UInt64) (module : VeraModule)
    (entries : List (Bytes × VeraValue)) (hashes : List String) : Prop where
  nodup : hashes.Nodup
  due : ∀ tokenHash ∈ hashes, ∃ record key,
    module.held tokenHash = some record ∧ key ∈ tokenExpiryKey record ∧
      (key, .empty) ∈ entries ∧ Due now record
  first : ∀ key value rest, entries = (key, value) :: rest →
    dueKey now key → ∀ record, key ∈ tokenExpiryKey record → record.tokenHash ∈ hashes

theorem TokensSound.collectExpiredTokens_ok (sound : TokensSound module) (now : UInt64)
    {entries : List (Bytes × VeraValue)}
    (indexed : ∀ entry ∈ entries, entry ∈ module.scan jwsTokenExpiryPrefix)
    (sorted : entries.Pairwise fun first second => first.1 < second.1) :
    ∃ hashes, collectExpiredTokens now module entries = .ok hashes ∧
      CollectedTokens now module entries hashes := by
  induction entries with
  | nil =>
    refine ⟨[], rfl, List.nodup_nil, ?_, ?_⟩
    · intro tokenHash member
      cases member
    · intro key value rest impossible
      cases impossible
  | cons entry rest ih =>
    obtain ⟨key, value⟩ := entry
    obtain ⟨headBelow, tailSorted⟩ := List.pairwise_cons.mp sorted
    obtain ⟨rfl, record, isHeld, isKey⟩ := sound.mem_expiries_iff.mp (indexed _ List.mem_cons_self)
    obtain ⟨hashes, collected, ⟨nodup, due, _⟩⟩ :=
      ih (fun entry member => indexed entry (List.mem_cons_of_mem _ member)) tailSorted
    have scanned := sound.expiredToken_eq now isHeld isKey
    by_cases isDue : dueKey now key = true
    · rw [if_pos isDue] at scanned
      refine ⟨record.tokenHash :: hashes, ?_, ?_, ?_, ?_⟩
      · unfold collectExpiredTokens
        simp only [scanned, collected]
      · -- a later entry of the same token would have the same key
        refine List.nodup_cons.mpr ⟨?_, nodup⟩
        intro repeated
        obtain ⟨other, otherKey, otherHeld, isOther, later, _⟩ := due _ repeated
        rw [isHeld] at otherHeld
        cases otherHeld
        have same : key = otherKey := by
          have first : tokenExpiryKey record = some key := isKey
          have second : tokenExpiryKey record = some otherKey := isOther
          rw [first] at second
          exact Option.some.inj second
        have below := headBelow _ later
        rw [same] at below
        exact lt_irrefl _ below
      · intro tokenHash member
        rcases List.mem_cons.mp member with rfl | inRest
        · exact ⟨record, key, isHeld, isKey, List.mem_cons_self, (dueKey_iff isKey).mp isDue⟩
        · obtain ⟨other, otherKey, otherHeld, isOther, later, otherDue⟩ := due tokenHash inRest
          exact ⟨other, otherKey, otherHeld, isOther, List.mem_cons_of_mem _ later, otherDue⟩
      · rintro _ _ _ ⟨⟩ _ other isOther
        have sameHash : other.tokenHash = record.tokenHash := by
          apply utf8_injective
          rw [← (deadline_of_mem isOther).2, (deadline_of_mem isKey).2]
        rw [sameHash]
        exact List.mem_cons_self
    · rw [if_neg isDue] at scanned
      refine ⟨[], ?_, List.nodup_nil, ?_, ?_⟩
      · unfold collectExpiredTokens
        simp only [scanned]
      · intro tokenHash member
        cases member
      · rintro _ _ _ ⟨⟩ headDue
        exact absurd headDue isDue

/-! ## Invalidating -/

theorem TokensSound.updateJwsTokenStatus_run (sound : TokensSound module)
    (isHeld : module.held record.tokenHash = some record) (block : BlockExecCtx)
    (status : JWSTokenStatus) (invalidatedBy : String) :
    Checked (withStatus block status invalidatedBy record) module (some record) ∧
      (updateJwsTokenStatus block record.tokenHash status invalidatedBy).run module =
        (.ok (withStatus block status invalidatedBy record),
          module.withToken (some record) (withStatus block status invalidatedBy record)) := by
  obtain ⟨token, rfl, _, account⟩ := sound.indexed isHeld
  have holder := withStatus_sameHolder block status invalidatedBy token.record
  have read := sound.getJwsToken_held token.record.tokenHash
  rw [isHeld] at read
  have checked : Checked (withStatus block status invalidatedBy token.record)
      module (some token.record) := by
    constructor
    · rw [holder.tokenHash]
      exact token.hash
    · rw [holder.issuerDid]
      exact token.issuer
    · rw [holder.authorizedAccount]
      exact token.account
    · rw [holder.authorizedAccount]
      exact account
    · rw [holder.tokenHash]
      exact read
  have accepted := checkJwsToken_ok_iff.mpr ⟨sound.config, checked⟩
  refine ⟨checked, ?_⟩
  have required : requireToken token.record.tokenHash module =
      .ok token.record := by
    unfold requireToken
    rw [read]
    rfl
  have written : (setJwsToken
      (withStatus block status invalidatedBy token.record)).run module =
        (.ok (), module.withToken (some token.record)
          (withStatus block status invalidatedBy token.record)) := by
    unfold setJwsToken
    rw [Exec.run_bind, Exec.run_query, accepted]
    rfl
  unfold updateJwsTokenStatus
  rw [Exec.run_bind, Exec.run_query, required]
  simp only
  rw [Exec.run_bind, written]
  rfl

theorem TokensSound.invalidateTokens_run {origin : JWSTokenRecord → Prop}
    {follows : JWSTokenRecord → JWSTokenRecord → Prop}
    (allowed : ∀ old new, old.status ≠ .invalid → SameHolder old new → follows old new)
    (block : BlockExecCtx) {hashes : List String} (nodup : hashes.Nodup)
    {module : VeraModule} (sound : TokensSound module)
    (active : ∀ tokenHash ∈ hashes, ∃ record,
      module.held tokenHash = some record ∧ record.status ≠ .invalid) :
    ∃ final, (invalidateTokens block hashes).run module = (.ok (), final) ∧
      TokenWrites origin follows module final ∧ ∀ tokenHash, final.held tokenHash =
          if tokenHash ∈ hashes then
            (module.held tokenHash).map (withStatus block .invalid "")
          else module.held tokenHash := by
  induction hashes generalizing module with
  | nil =>
    refine ⟨module, rfl, .refl, ?_⟩
    intro tokenHash
    rw [if_neg (by simp)]
  | cons head rest ih =>
    obtain ⟨notRest, restNodup⟩ := List.nodup_cons.mp nodup
    obtain ⟨record, isHeld, isActive⟩ := active head List.mem_cons_self
    obtain ⟨_, _, sameHash, _⟩ := sound.indexed isHeld
    rw [← sameHash] at isHeld
    obtain ⟨checked, updated⟩ := sound.updateJwsTokenStatus_run isHeld block .invalid ""
    have holder := withStatus_sameHolder block .invalid "" record
    have write : TokenWrite origin follows module
        (module.withToken (some record) (withStatus block .invalid "" record)) := by
      apply TokenWrite.written _ _ checked
      · intro absent
        cases absent
      · rintro _ ⟨⟩
        exact ⟨holder, allowed _ _ isActive holder⟩
    have middleHeld := held_withToken (some record) (withStatus block .invalid "" record) module
    rw [holder.tokenHash, sameHash] at middleHeld
    have restActive : ∀ tokenHash ∈ rest, ∃ other,
        (module.withToken (some record)
          (withStatus block .invalid "" record)).held tokenHash =
            some other ∧ other.status ≠ .invalid := by
      intro tokenHash member
      have different : tokenHash ≠ head := by
        rintro rfl
        exact notRest member
      rw [middleHeld, if_neg different]
      exact active tokenHash (List.mem_cons_of_mem _ member)
    obtain ⟨final, done, writes, finalHeld⟩ :=
      ih restNodup (sound.writes (Relation.ReflTransGen.single write)) restActive
    refine ⟨final, ?_, Relation.ReflTransGen.head write writes, ?_⟩
    · unfold invalidateTokens
      rw [sameHash] at updated
      rw [Exec.run_bind, updated]
      exact done
    · intro tokenHash
      rw [finalHeld, middleHeld]
      rw [sameHash] at isHeld
      by_cases isHead : tokenHash = head
      · subst isHead
        rw [if_neg notRest, if_pos rfl, if_pos List.mem_cons_self, isHeld]
        rfl
      · simp [isHead]

/-! ## One sweep -/

def swept (block : BlockExecCtx) (module : VeraModule) : VeraModule :=
  ((checkAndUpdateExpiredTokens block).run module).2

/-- A sweep of a sound state succeeds, and invalidates collected tokens. -/
theorem TokensSound.sweep {origin : JWSTokenRecord → Prop}
    {follows : JWSTokenRecord → JWSTokenRecord → Prop}
    (allowed : ∀ old new, old.status ≠ .invalid → SameHolder old new → follows old new)
    {module : VeraModule} (sound : TokensSound module) (block : BlockExecCtx) :
    ((checkAndUpdateExpiredTokens block).run module).1 = .ok () ∧
      TokenWrites origin follows module (swept block module) ∧
        ∃ hashes,
          CollectedTokens block.timestamp.seconds module
              ((module.scan jwsTokenExpiryPrefix).take expiryBatchSize) hashes ∧
            ∀ tokenHash, (swept block module).held tokenHash =
              if tokenHash ∈ hashes then
                (module.held tokenHash).map (withStatus block .invalid "")
              else module.held tokenHash := by
  have scanSorted :
      (module.scan jwsTokenExpiryPrefix).Pairwise fun first second => first.1 < second.1 := by
    unfold scan
    rw [OrderedMap.prefixScan_eq_filter]
    exact module.store.sorted.filter _
  obtain ⟨hashes, collected, facts⟩ :=
    sound.collectExpiredTokens_ok block.timestamp.seconds
      (fun entry member => List.mem_of_mem_take member)
      (scanSorted.sublist (List.take_sublist expiryBatchSize _))
  have active : ∀ tokenHash ∈ hashes, ∃ record,
      module.held tokenHash = some record ∧ record.status ≠ .invalid := by
    intro tokenHash member
    obtain ⟨record, _, isHeld, _, _, due⟩ := facts.due tokenHash member
    exact ⟨record, isHeld, due.1⟩
  obtain ⟨final, done, writes, finalHeld⟩ :=
    @TokensSound.invalidateTokens_run origin follows allowed block hashes
      facts.nodup module sound active
  have run : (checkAndUpdateExpiredTokens block).run module = (.ok (), final) := by
    unfold checkAndUpdateExpiredTokens
    rw [Exec.run_bind, Exec.run_query, collected]
    exact done
  unfold swept
  rw [run]
  exact ⟨rfl, writes, hashes, facts, finalHeld⟩

/-! ## Sweeping again and again -/

def sweptAll (blocks : List BlockExecCtx) (module : VeraModule) : VeraModule :=
  blocks.foldl (fun state block => swept block state) module

/-- Between two states only due tokens changed, and these became invalid. -/
def OnlyDueInvalidated (now : UInt64) (module final : VeraModule) : Prop :=
  ∀ tokenHash, final.held tokenHash = module.held tokenHash ∨
    ∃ record swept, module.held tokenHash = some record ∧ Due now record ∧
      final.held tokenHash = some swept ∧ swept.status = .invalid

theorem OnlyDueInvalidated.trans {middle final : VeraModule}
    (first : OnlyDueInvalidated now module middle) (second : OnlyDueInvalidated now middle final) :
    OnlyDueInvalidated now module final := by
  intro tokenHash
  rcases first tokenHash with same | changed
  · rw [← same]
    exact second tokenHash
  · obtain ⟨record, invalid, isHeld, due, middleHeld, isInvalid⟩ := changed
    rcases second tokenHash with same | changed
    · right
      rw [← same] at middleHeld
      exact ⟨record, invalid, isHeld, due, middleHeld, isInvalid⟩
    · obtain ⟨other, _, otherHeld, otherDue, _, _⟩ := changed
      rw [middleHeld] at otherHeld
      cases otherHeld
      exact absurd isInvalid otherDue.1

def dueKeys (now : UInt64) (module : VeraModule) : Finset Bytes :=
  (((module.scan jwsTokenExpiryPrefix).map Prod.fst).filter fun key => dueKey now key).toFinset

section Sweeps

variable {module : VeraModule} (sound : TokensSound module)

include sound

theorem TokensSound.mem_dueKeys_iff :
    key ∈ dueKeys now module ↔
      ∃ record, module.held record.tokenHash = some record ∧
        key ∈ tokenExpiryKey record ∧ Due now record := by
  unfold dueKeys
  rw [List.mem_toFinset, List.mem_filter, List.mem_map]
  constructor
  · rintro ⟨⟨⟨_, value⟩, member, rfl⟩, isDue⟩
    obtain ⟨_, record, isHeld, isKey⟩ := sound.mem_expiries_iff.mp member
    exact ⟨record, isHeld, isKey, (dueKey_iff isKey).mp isDue⟩
  · rintro ⟨record, isHeld, isKey, due⟩
    refine ⟨⟨(key, .empty), ?_, rfl⟩, (dueKey_iff isKey).mpr due⟩
    exact sound.mem_expiries_iff.mpr ⟨rfl, record, isHeld, isKey⟩

theorem TokensSound.swept_held (block : BlockExecCtx) :
    ((checkAndUpdateExpiredTokens block).run module).1 = .ok () ∧
      TokensSound (swept block module) ∧
        ∃ hashes,
          CollectedTokens block.timestamp.seconds module
              ((module.scan jwsTokenExpiryPrefix).take expiryBatchSize) hashes ∧
            ∀ tokenHash, (swept block module).held tokenHash =
              if tokenHash ∈ hashes then
                (module.held tokenHash).map (withStatus block .invalid "")
              else module.held tokenHash := by
  obtain ⟨succeeded, writes, collected⟩ := @TokensSound.sweep
    (fun _ => True) (fun _ _ => True) (fun _ _ _ _ => trivial) module sound block
  exact ⟨succeeded, sound.writes writes, collected⟩

theorem TokensSound.swept_onlyDue (block : BlockExecCtx) :
    OnlyDueInvalidated block.timestamp.seconds module (swept block module) := by
  obtain ⟨_, _, hashes, facts, finalHeld⟩ := sound.swept_held block
  intro tokenHash
  rw [finalHeld]
  by_cases member : tokenHash ∈ hashes
  · obtain ⟨record, _, isHeld, _, _, due⟩ := facts.due tokenHash member
    right
    refine ⟨record, withStatus block .invalid "" record, isHeld, due, ?_, rfl⟩
    rw [if_pos member, isHeld]
    rfl
  · left
    rw [if_neg member]

theorem TokensSound.dueKeys_swept_subset (now : UInt64) (block : BlockExecCtx) :
    dueKeys now (swept block module) ⊆ dueKeys now module := by
  have nextSound := (sound.swept_held block).2.1
  intro key member
  obtain ⟨record, isHeld, isKey, due⟩ := nextSound.mem_dueKeys_iff.mp member
  rcases sound.swept_onlyDue block record.tokenHash with same | changed
  · rw [same] at isHeld
    exact sound.mem_dueKeys_iff.mpr ⟨record, isHeld, isKey, due⟩
  · obtain ⟨_, _, _, _, invalidHeld, isInvalid⟩ := changed
    rw [isHeld] at invalidHeld
    cases invalidHeld
    exact absurd isInvalid due.1

/-- The index is in deadline order, so the first entry is due when any is. -/
theorem TokensSound.first_due (isDue : key ∈ dueKeys now module) :
    ∃ first rest, module.scan jwsTokenExpiryPrefix = (first, .empty) :: rest ∧
      dueKey now first = true := by
  obtain ⟨record, isHeld, isKey, due⟩ := sound.mem_dueKeys_iff.mp isDue
  have member := sound.mem_expiries_iff.mpr ⟨rfl, record, isHeld, isKey⟩
  have sorted :
      (module.scan jwsTokenExpiryPrefix).Pairwise fun first second => first.1 < second.1 := by
    unfold scan
    rw [OrderedMap.prefixScan_eq_filter]
    exact module.store.sorted.filter _
  cases scanned : module.scan jwsTokenExpiryPrefix with
  | nil =>
    rw [scanned] at member
    cases member
  | cons entry rest =>
    obtain ⟨first, value⟩ := entry
    have firstMember : (first, value) ∈
        module.scan jwsTokenExpiryPrefix := by
      rw [scanned]
      exact List.mem_cons_self
    obtain ⟨rfl, firstRecord, _, firstKey⟩ := sound.mem_expiries_iff.mp firstMember
    refine ⟨first, rest, rfl, ?_⟩
    by_contra notDue
    -- a later deadline at the front would put the due entry before it
    have later : record.expiresAt.seconds <
        firstRecord.expiresAt.seconds := by
      have notEarly : ¬ firstRecord.expiresAt.seconds < now := by
        intro early
        obtain ⟨active, ends, _⟩ := mem_tokenExpiryKey_iff.mp firstKey
        exact notDue ((dueKey_iff firstKey).mpr ⟨active, ends, early⟩)
      have order := due.2.2
      rw [UInt64.lt_iff_toNat_lt] at order notEarly ⊢
      omega
    obtain ⟨_, _, keyShape⟩ := mem_tokenExpiryKey_iff.mp isKey
    obtain ⟨_, _, firstShape⟩ := mem_tokenExpiryKey_iff.mp firstKey
    have before : key < first := by
      rw [keyShape, firstShape]
      apply append_lt_append_of_lt (by simp)
      exact List.cons_lt_cons_iff.mpr (Or.inr ⟨rfl, beBytes_lt_iff.mpr later⟩)
    rw [scanned] at member sorted
    rcases List.mem_cons.mp member with same | inRest
    · cases same
      exact lt_irrefl _ before
    · have after := (List.pairwise_cons.mp sorted).1 _ inRest
      exact lt_asymm before after

theorem TokensSound.card_dueKeys_swept_lt (block : BlockExecCtx)
    (some_due : (dueKeys block.timestamp.seconds module).Nonempty) :
    (dueKeys block.timestamp.seconds (swept block module)).card <
      (dueKeys block.timestamp.seconds module).card := by
  obtain ⟨key, isDue⟩ := some_due
  obtain ⟨first, rest, scanned, firstDue⟩ := sound.first_due isDue
  have firstMember : (first, VeraValue.empty) ∈
      module.scan jwsTokenExpiryPrefix := by
    rw [scanned]
    exact List.mem_cons_self
  obtain ⟨_, record, isHeld, isKey⟩ := sound.mem_expiries_iff.mp firstMember
  obtain ⟨_, nextSound, hashes, facts, finalHeld⟩ := sound.swept_held block
  apply Finset.card_lt_card
  rw [Finset.ssubset_iff_of_subset (sound.dueKeys_swept_subset _ block)]
  refine ⟨first, ?_, ?_⟩
  · exact sound.mem_dueKeys_iff.mpr ⟨record, isHeld, isKey, (dueKey_iff isKey).mp firstDue⟩
  · intro remains
    obtain ⟨other, otherHeld, otherKey, otherDue⟩ := nextSound.mem_dueKeys_iff.mp remains
    have collected : other.tokenHash ∈ hashes := by
      apply facts.first first .empty (rest.take (expiryBatchSize - 1)) ?_ firstDue other otherKey
      rw [scanned]
      rfl
    rw [finalHeld, if_pos collected] at otherHeld
    obtain ⟨old, _, changed⟩ := Option.map_eq_some_iff.mp otherHeld
    apply otherDue.1
    rw [← changed]
    rfl

omit sound in
theorem TokensSound.sweptAll {blocks : List BlockExecCtx}
    (atNow : ∀ block ∈ blocks, block.timestamp.seconds = now) (sound : TokensSound module) :
    TokensSound (sweptAll blocks module) ∧
      OnlyDueInvalidated now module (VeraModule.sweptAll blocks module) ∧
        ((dueKeys now module).card ≤ blocks.length →
          dueKeys now (VeraModule.sweptAll blocks module) = ∅) := by
  induction blocks generalizing module with
  | nil =>
    refine ⟨sound, fun _ => Or.inl rfl, ?_⟩
    intro few
    exact Finset.card_eq_zero.mp (Nat.le_zero.mp few)
  | cons block rest ih =>
    have here := atNow block List.mem_cons_self
    have onlyDue := sound.swept_onlyDue block
    rw [here] at onlyDue
    obtain ⟨finalSound, restOnly, restDone⟩ :=
      ih (fun other member => atNow other (List.mem_cons_of_mem _ member))
        (sound.swept_held block).2.1
    refine ⟨finalSound, onlyDue.trans restOnly, ?_⟩
    intro few
    apply restDone
    rw [List.length_cons] at few
    by_cases some_due : (dueKeys now module).Nonempty
    · rw [← here] at some_due few
      have fewer := sound.card_dueKeys_swept_lt block some_due
      rw [here] at fewer few
      omega
    · have none_due : dueKeys now (swept block module) = ∅ := by
        apply Finset.subset_empty.mp
        rw [← Finset.not_nonempty_iff_eq_empty.mp some_due]
        exact sound.dueKeys_swept_subset now block
      rw [none_due]
      exact Nat.zero_le _

end Sweeps

end VeraHub.Vera.VeraModule
