import VeraHub.Library.IndexedStore
import VeraHub.Vera.Restoration

/-!
# Token records and their indexes

Issuer, account and expiry entries name the hash of the token they belong to,
and the validator reads that hash back.  So an entry determines its record, and
writing or deleting a record together with its entries keeps every index exact.
-/

namespace VeraHub.Vera

open VeraHub.Acp

/-! ## Reading keys back -/

def Selector (value : String) : Prop :=
  value ≠ "" ∧ (utf8 value).length ≤ 255

theorem utf8_eq_nil_iff {text : String} : utf8 text = [] ↔ text = "" := by
  have empty : utf8 "" = [] := rfl
  rw [← empty, utf8_inj]

variable {value : String}

theorem Selector.lenPrefix (selector : Selector value) :
    lenPrefix (utf8 value) = UInt8.ofNat (utf8 value).length :: utf8 value := by
  have present : utf8 value ≠ [] := by
    rw [ne_eq, utf8_eq_nil_iff]
    exact selector.1
  rw [Vera.lenPrefix, if_neg present]

theorem Selector.toNat_length (selector : Selector value) :
    (UInt8.ofNat (utf8 value).length).toNat = (utf8 value).length := by
  have bound := selector.2
  rw [UInt8.toNat_ofNat']
  omega

theorem Selector.length_pos (selector : Selector value) : 0 < (utf8 value).length := by
  apply List.length_pos_iff.mpr
  rw [ne_eq, utf8_eq_nil_iff]
  exact selector.1

namespace VeraModule

theorem validateTokenSelector_ok_iff : validateTokenSelector value = .ok () ↔ Selector value := by
  unfold validateTokenSelector Selector
  by_cases refused : value = "" ∨ 255 < (utf8 value).length
  · rw [if_pos refused]
    constructor
    · intro accepted
      cases accepted
    · intro selector
      rcases refused with empty | long
      · exact absurd empty selector.1
      · omega
  · rw [if_neg refused]
    push Not at refused
    exact ⟨fun _ => refused, fun _ => rfl⟩

variable {tokenHash : String}

theorem extractHashFromIndexSuffix_lenPrefix (selector : Selector tokenHash) :
    extractHashFromIndexSuffix (lenPrefix (utf8 tokenHash)) =
      some tokenHash := by
  have width := selector.toNat_length
  have positive := selector.length_pos
  have nonzero : UInt8.ofNat (utf8 tokenHash).length ≠ 0 := by
    intro zero
    rw [zero] at width
    change 0 = _ at width
    omega
  rw [selector.lenPrefix, extractHashFromIndexSuffix]
  rw [if_neg (by rw [width]; simp [nonzero]), fromUtf8_utf8]

theorem indexedHash_lenPrefix {component : String} (first : Selector component)
    (second : Selector tokenHash) :
    indexedHash (lenPrefix (utf8 component) ++ lenPrefix (utf8 tokenHash)) =
      some tokenHash := by
  have width := first.toNat_length
  have enough :
      1 + (utf8 component).length ≤
        (UInt8.ofNat (utf8 component).length ::
          (utf8 component ++ lenPrefix (utf8 tokenHash))).length := by
    rw [List.length_cons, List.length_append]
    omega
  rw [first.lenPrefix, List.cons_append, indexedHash, width, bytesFrom,
    if_pos enough, Nat.add_comm, List.drop_succ_cons, List.drop_left, Option.bind_some]
  exact extractHashFromIndexSuffix_lenPrefix second

theorem deadlineHash_beBytes (seconds : UInt64) (tokenHash : String) :
    deadlineHash (beBytes seconds ++ utf8 tokenHash) = some tokenHash := by
  have width := length_beBytes seconds
  have enough : 8 ≤ (beBytes seconds ++ utf8 tokenHash).length := by
    rw [List.length_append]
    omega
  have dropped : (beBytes seconds ++ utf8 tokenHash).drop 8 = utf8 tokenHash := by
    rw [← width]
    exact List.drop_left
  rw [deadlineHash, bytesFrom, if_pos enough, dropped, Option.bind_some, fromUtf8_utf8]

end VeraModule

/-! ## Records that can be indexed -/

/-- A token record whose index components have the right lengths. -/
structure IndexedToken where
  record : JWSTokenRecord
  hash : Selector record.tokenHash
  issuer : Selector record.issuerDid
  account : record.authorizedAccount = "" ∨ Selector record.authorizedAccount

variable {index : TokenIndex}

namespace VeraModule

/-- The keys of an index lie below its prefix and name their token. -/
structure TokenIndex.Lawful (index : TokenIndex) : Prop where
  starts : ∀ record, ∀ key ∈ index.keyOf record, index.start <+: key
  reads : ∀ token : IndexedToken, ∀ key ∈ index.keyOf token.record,
    index.readHash (key.drop index.start.length) = some token.record.tokenHash

theorem didIndex_lawful : didIndex.Lawful where
  starts := by
    intro record key member
    cases member
    exact ⟨_, (List.append_assoc _ _ _).symm⟩
  reads := by
    intro token key member
    cases member
    exact indexedHash_lenPrefix token.issuer token.hash

variable {key : Bytes} {record : JWSTokenRecord}

theorem mem_didIndex_iff :
    key ∈ didIndex.keyOf record ↔ key = jwsTokenByDidKey record.issuerDid record.tokenHash := by
  rw [didIndex, Option.mem_some_iff, eq_comm]

theorem mem_tokenAccountKey_iff :
    key ∈ tokenAccountKey record ↔
      record.authorizedAccount ≠ "" ∧ key = jwsTokenByAccountKey record.authorizedAccount
          record.tokenHash := by
  unfold tokenAccountKey
  by_cases named : record.authorizedAccount = ""
  · simp [named]
  · simp [named, eq_comm]

theorem mem_tokenExpiryKey_iff :
    key ∈ tokenExpiryKey record ↔
      record.status ≠ .invalid ∧ record.expiresAt ≠ default ∧
        key = jwsTokenExpiryPrefix ++ beBytes record.expiresAt.seconds ++
          utf8 record.tokenHash := by
  unfold tokenExpiryKey
  by_cases inactive : record.status = .invalid ∨ record.expiresAt = default
  · rw [if_pos inactive]
    constructor
    · intro member
      cases member
    · intro active
      rcases inactive with invalid | endless
      · exact absurd invalid active.1
      · exact absurd endless active.2.1
  · rw [if_neg inactive]
    push Not at inactive
    rw [Option.mem_some_iff]
    exact ⟨fun same => ⟨inactive.1, inactive.2, same.symm⟩, fun active => active.2.2.symm⟩

theorem accountIndex_lawful : accountIndex.Lawful where
  starts := by
    intro record key member
    obtain ⟨_, rfl⟩ := mem_tokenAccountKey_iff.mp member
    exact ⟨_, (List.append_assoc _ _ _).symm⟩
  reads := by
    intro token key member
    obtain ⟨named, rfl⟩ := mem_tokenAccountKey_iff.mp member
    exact indexedHash_lenPrefix (token.account.resolve_left named) token.hash

theorem expiryIndex_lawful : expiryIndex.Lawful where
  starts := by
    intro record key member
    obtain ⟨_, _, rfl⟩ := mem_tokenExpiryKey_iff.mp member
    exact ⟨_, (List.append_assoc _ _ _).symm⟩
  reads := by
    intro token key member
    obtain ⟨_, _, rfl⟩ := mem_tokenExpiryKey_iff.mp member
    exact deadlineHash_beBytes _ _

def tokenIndexes : List TokenIndex :=
  [didIndex, accountIndex, expiryIndex]

theorem lawful_of_mem (member : index ∈ tokenIndexes) :
    index.Lawful := by
  simp only [tokenIndexes, List.mem_cons, List.not_mem_nil, or_false] at member
  rcases member with rfl | rfl | rfl
  · exact didIndex_lawful
  · exact accountIndex_lawful
  · exact expiryIndex_lawful

def TokenIndex.layout (index : TokenIndex) (lawful : index.Lawful) :
    IndexLayout Bytes VeraValue IndexedToken where
  recordKey token := jwsTokenKey token.record.tokenHash
  wrap token := .token token.record
  entry token := index.keyOf token.record
  mark := index.mark
  IsEntry key := index.start <+: key
  entry_isEntry token := lawful.starts token.record
  entry_determines := by
    intro first second key firstMember secondMember
    have firstRead := lawful.reads first key firstMember
    have secondRead := lawful.reads second key secondMember
    rw [firstRead] at secondRead
    rw [Option.some.inj secondRead]

/-! ## Lookups after a write -/

@[simp]
theorem jwsTokenKey_inj {first second : String} :
    jwsTokenKey first = jwsTokenKey second ↔ first = second := by
  unfold jwsTokenKey
  rw [List.append_cancel_left_eq, utf8_inj]

theorem ne_of_starts {first second other : Bytes} (apart : Apart first second)
    (keyStarts : first <+: key) (otherStarts : second <+: other) : key ≠ other := by
  rintro rfl
  exact apart.not_isPrefix keyStarts otherStarts

theorem jwsTokenKey_starts (tokenHash : String) : jwsTokenPrefix <+: jwsTokenKey tokenHash :=
  List.prefix_append _ _

theorem get_withStored (module : VeraModule) (key other : Bytes) (value : VeraValue) :
    (module.withStored key value).store.get other =
      if other = key then some value else module.store.get other := by
  unfold withStored
  rw [OrderedMap.get_insert]
  congr

theorem get_withoutStored (module : VeraModule) (key other : Bytes) :
    (module.withoutStored key).store.get other =
      if other = key then none else module.store.get other := by
  unfold withoutStored
  rw [OrderedMap.get_erase]
  congr

theorem get_withoutExpiry (previous : Option JWSTokenRecord) (module : VeraModule) (key : Bytes) :
    (module.withoutExpiry previous).store.get key =
      if key ∈ previous.bind tokenExpiryKey then none
      else module.store.get key := by
  unfold withoutExpiry
  cases previous.bind tokenExpiryKey with
  | none => simp
  | some expiry => simp [get_withoutStored, eq_comm]

theorem get_withExpiry (record : JWSTokenRecord) (module : VeraModule) (key : Bytes) :
    (module.withExpiry record).store.get key =
      if key ∈ tokenExpiryKey record then some .empty
      else module.store.get key := by
  unfold withExpiry
  cases tokenExpiryKey record with
  | none => simp
  | some expiry => simp [get_withStored, eq_comm]

theorem get_withAccount (record : JWSTokenRecord) (module : VeraModule) (key : Bytes) :
    (module.withAccount record).store.get key =
      if key ∈ tokenAccountKey record then some .marker
      else module.store.get key := by
  unfold withAccount
  simp only [mem_tokenAccountKey_iff]
  by_cases named : record.authorizedAccount = ""
  · simp [named]
  · simp [named, get_withStored]

theorem get_withoutAccount (record : JWSTokenRecord) (module : VeraModule) (key : Bytes) :
    (module.withoutAccount record).store.get key =
      if key ∈ tokenAccountKey record then none
      else module.store.get key := by
  unfold withoutAccount
  simp only [mem_tokenAccountKey_iff]
  by_cases named : record.authorizedAccount = ""
  · simp [named]
  · simp [named, get_withoutStored]

theorem get_withToken (previous : Option JWSTokenRecord)
    (record : JWSTokenRecord) (module : VeraModule) (key : Bytes) :
    (module.withToken previous record).store.get key =
      if key ∈ accountIndex.keyOf record then some .marker
      else if key ∈ didIndex.keyOf record then some .marker
      else if key = jwsTokenKey record.tokenHash then some (.token record)
      else if key ∈ expiryIndex.keyOf record then some .empty
      else if key ∈ previous.bind expiryIndex.keyOf then none
      else module.store.get key := by
  unfold withToken
  rw [get_withAccount, get_withStored, get_withStored, get_withExpiry, get_withoutExpiry]
  simp only [mem_didIndex_iff]
  rfl

theorem get_withoutToken (record : JWSTokenRecord) (module : VeraModule) (key : Bytes) :
    (module.withoutToken record).store.get key =
      if key ∈ accountIndex.keyOf record then none
      else if key ∈ didIndex.keyOf record then none
      else if key = jwsTokenKey record.tokenHash then none
      else if key ∈ expiryIndex.keyOf record then none
      else module.store.get key := by
  unfold withoutToken
  rw [get_withoutAccount, get_withoutStored, get_withoutStored, get_withoutExpiry]
  simp only [mem_didIndex_iff]
  rfl

theorem notMem_keyOf (lawful : index.Lawful) {start : Bytes} (starts : start <+: key)
    (apart : Apart start index.start) (record : JWSTokenRecord) : key ∉ index.keyOf record := by
  intro member
  exact apart.not_isPrefix starts (lawful.starts record key member)

def Unindexed (key : Bytes) : Prop :=
  ∀ index ∈ tokenIndexes, ¬ index.start <+: key

instance (key : Bytes) : Decidable (Unindexed key) :=
  inferInstanceAs (Decidable (∀ index ∈ tokenIndexes, ¬ index.start <+: key))

theorem Unindexed.notMem (unindexed : Unindexed key) (member : index ∈ tokenIndexes)
    (record : JWSTokenRecord) : key ∉ index.keyOf record := by
  intro isKey
  exact unindexed index member ((lawful_of_mem member).starts record key isKey)

theorem notMem_bind {previous : Option JWSTokenRecord}
    (absent : ∀ record, key ∉ index.keyOf record) : key ∉ previous.bind index.keyOf := by
  cases previous with
  | none => exact fun member => nomatch member
  | some old => exact absent old

theorem unindexed_of_starts {start : Bytes} (starts : start <+: key)
    (apart : ∀ index ∈ tokenIndexes, Apart start index.start) : Unindexed key :=
  fun index member => (apart index member).not_isPrefix starts

theorem jwsTokenKey_unindexed (tokenHash : String) :
    Unindexed (jwsTokenKey tokenHash) :=
  unindexed_of_starts (jwsTokenKey_starts tokenHash) (by decide)

section Unindexed

variable {key : Bytes} (unindexed : Unindexed key) (record : JWSTokenRecord) (module : VeraModule)

include unindexed

theorem get_withToken_unindexed (previous : Option JWSTokenRecord) :
    (module.withToken previous record).store.get key =
      if key = jwsTokenKey record.tokenHash then some (.token record)
      else module.store.get key := by
  have noAccount := unindexed.notMem (show accountIndex ∈ tokenIndexes by simp [tokenIndexes])
  have noDid := unindexed.notMem (show didIndex ∈ tokenIndexes by simp [tokenIndexes])
  have noExpiry := unindexed.notMem (show expiryIndex ∈ tokenIndexes by simp [tokenIndexes])
  rw [get_withToken, if_neg (noAccount record), if_neg (noDid record),
    if_neg (noExpiry record), if_neg (notMem_bind noExpiry)]

theorem get_withoutToken_unindexed : (module.withoutToken record).store.get key =
      if key = jwsTokenKey record.tokenHash then none
      else module.store.get key := by
  have noAccount := unindexed.notMem (show accountIndex ∈ tokenIndexes by simp [tokenIndexes])
  have noDid := unindexed.notMem (show didIndex ∈ tokenIndexes by simp [tokenIndexes])
  have noExpiry := unindexed.notMem (show expiryIndex ∈ tokenIndexes by simp [tokenIndexes])
  rw [get_withoutToken, if_neg (noAccount record), if_neg (noDid record), if_neg (noExpiry record)]

end Unindexed

section Indexed

variable {key : Bytes} (record : JWSTokenRecord) (module : VeraModule)

theorem get_withToken_did (starts : didIndex.start <+: key) (previous : Option JWSTokenRecord) :
    (module.withToken previous record).store.get key =
      if key ∈ didIndex.keyOf record then some .marker
      else module.store.get key := by
  have noAccount := notMem_keyOf accountIndex_lawful starts (by decide)
  have noExpiry := notMem_keyOf expiryIndex_lawful starts (by decide)
  have notPrimary := ne_of_starts (by decide) starts (jwsTokenKey_starts record.tokenHash)
  rw [get_withToken, if_neg (noAccount record), if_neg notPrimary,
    if_neg (noExpiry record), if_neg (notMem_bind noExpiry)]

theorem get_withToken_account (starts : accountIndex.start <+: key)
    (previous : Option JWSTokenRecord) : (module.withToken previous record).store.get key =
      if key ∈ accountIndex.keyOf record then some .marker
      else module.store.get key := by
  have noDid := notMem_keyOf didIndex_lawful starts (by decide)
  have noExpiry := notMem_keyOf expiryIndex_lawful starts (by decide)
  have notPrimary := ne_of_starts (by decide) starts (jwsTokenKey_starts record.tokenHash)
  rw [get_withToken, if_neg (noDid record), if_neg notPrimary,
    if_neg (noExpiry record), if_neg (notMem_bind noExpiry)]

theorem get_withToken_expiry (starts : expiryIndex.start <+: key)
    (previous : Option JWSTokenRecord) : (module.withToken previous record).store.get key =
      if key ∈ expiryIndex.keyOf record then some .empty
      else if key ∈ previous.bind expiryIndex.keyOf then none
      else module.store.get key := by
  have noAccount := notMem_keyOf accountIndex_lawful starts (by decide)
  have noDid := notMem_keyOf didIndex_lawful starts (by decide)
  have notPrimary := ne_of_starts (by decide) starts (jwsTokenKey_starts record.tokenHash)
  rw [get_withToken, if_neg (noAccount record), if_neg (noDid record), if_neg notPrimary]

theorem get_withoutToken_indexed (member : index ∈ tokenIndexes) (starts : index.start <+: key) :
    (module.withoutToken record).store.get key =
      if key ∈ index.keyOf record then none else module.store.get key := by
  simp only [tokenIndexes, List.mem_cons, List.not_mem_nil, or_false] at member
  rw [get_withoutToken]
  rcases member with rfl | rfl | rfl
  · have noAccount := notMem_keyOf accountIndex_lawful starts (by decide)
    have noExpiry := notMem_keyOf expiryIndex_lawful starts (by decide)
    have notPrimary := ne_of_starts (by decide) starts (jwsTokenKey_starts record.tokenHash)
    rw [if_neg (noAccount record), if_neg notPrimary, if_neg (noExpiry record)]
  · have noDid := notMem_keyOf didIndex_lawful starts (by decide)
    have noExpiry := notMem_keyOf expiryIndex_lawful starts (by decide)
    have notPrimary := ne_of_starts (by decide) starts (jwsTokenKey_starts record.tokenHash)
    rw [if_neg (noDid record), if_neg notPrimary, if_neg (noExpiry record)]
  · have noAccount := notMem_keyOf accountIndex_lawful starts (by decide)
    have noDid := notMem_keyOf didIndex_lawful starts (by decide)
    have notPrimary := ne_of_starts (by decide) starts (jwsTokenKey_starts record.tokenHash)
    rw [if_neg (noAccount record), if_neg (noDid record), if_neg notPrimary]

end Indexed

/-! ## Exact indexes -/

/-- A record that takes the place of another belongs to the same token. -/
structure SameHolder (old new : JWSTokenRecord) : Prop where
  tokenHash : new.tokenHash = old.tokenHash
  bearerToken : new.bearerToken = old.bearerToken
  issuerDid : new.issuerDid = old.issuerDid
  authorizedAccount : new.authorizedAccount = old.authorizedAccount
  expiresAt : new.expiresAt = old.expiresAt

/-- The entry of one record takes the place of another's. -/
structure TokenIndex.Moves (index : TokenIndex) (old new : Option JWSTokenRecord)
    (lookup next : Bytes → Option VeraValue) : Prop where
  marked : ∀ record ∈ new, ∀ key ∈ index.keyOf record, next key = some index.mark
  unmarked : ∀ key, index.start <+: key →
    (∀ record ∈ new, key ∉ index.keyOf record) →
      (∃ record ∈ old, key ∈ index.keyOf record) → next key = none
  untouched : ∀ key, index.start <+: key →
    (∀ record ∈ new, key ∉ index.keyOf record) →
      (∀ record ∈ old, key ∉ index.keyOf record) → next key = lookup key

section Moves

variable {previous : Option JWSTokenRecord} {record : JWSTokenRecord} (module : VeraModule)

theorem TokenIndex.Moves.of_stable (lawful : index.Lawful) {next : VeraModule}
    (same : ∀ old ∈ previous, index.keyOf old = index.keyOf record)
    (found : ∀ key, index.start <+: key → next.store.get key =
        if key ∈ index.keyOf record then some index.mark
        else module.store.get key) :
    index.Moves previous (some record) module.store.get next.store.get where
  marked := by
    rintro _ ⟨⟩ key member
    rw [found key (lawful.starts record key member), if_pos member]
  unmarked := by
    intro key starts absent old
    obtain ⟨other, isPrevious, member⟩ := old
    rw [same other isPrevious] at member
    exact absurd member (absent record rfl)
  untouched := by
    intro key starts absent _
    rw [found key starts, if_neg (absent record rfl)]

theorem withToken_moves (kept : ∀ old ∈ previous, SameHolder old record) (member : index ∈ tokenIndexes) :
    index.Moves previous (some record) module.store.get
      (module.withToken previous record).store.get := by
  simp only [tokenIndexes, List.mem_cons, List.not_mem_nil, or_false] at member
  rcases member with rfl | rfl | rfl
  · apply TokenIndex.Moves.of_stable module didIndex_lawful
    · intro old isPrevious
      have holder := kept old isPrevious
      simp only [didIndex, holder.issuerDid, holder.tokenHash]
    · intro key starts
      exact get_withToken_did record module starts previous
  · apply TokenIndex.Moves.of_stable module accountIndex_lawful
    · intro old isPrevious
      have holder := kept old isPrevious
      simp only [accountIndex, tokenAccountKey, holder.authorizedAccount, holder.tokenHash]
    · intro key starts
      exact get_withToken_account record module starts previous
  · constructor
    · rintro _ ⟨⟩ key isKey
      rw [get_withToken_expiry record module
        (expiryIndex_lawful.starts record key isKey), if_pos isKey]
      rfl
    · intro key starts absent old
      obtain ⟨other, isPrevious, isKey⟩ := old
      rw [get_withToken_expiry record module starts,
        if_neg (absent record rfl), if_pos (Option.mem_bind_iff.mpr ⟨other, isPrevious, isKey⟩)]
    · intro key starts absent noOld
      have notPrevious : key ∉ previous.bind expiryIndex.keyOf := by
        intro isKey
        obtain ⟨other, isPrevious, isOther⟩ := Option.mem_bind_iff.mp isKey
        exact noOld other isPrevious isOther
      rw [get_withToken_expiry record module starts, if_neg (absent record rfl), if_neg notPrevious]

theorem withoutToken_moves {index : TokenIndex} (member : index ∈ tokenIndexes) :
    index.Moves (some record) none module.store.get (module.withoutToken record).store.get where
  marked := by
    intro other isNew
    cases isNew
  unmarked := by
    intro key starts _ old
    obtain ⟨_, ⟨⟩, isKey⟩ := old
    rw [get_withoutToken_indexed record module member starts, if_pos isKey]
  untouched := by
    intro key starts _ absent
    rw [get_withoutToken_indexed record module member starts, if_neg (absent record rfl)]

end Moves

theorem TokenIndex.Moves.exact {lawful : index.Lawful}
    (old new : Option IndexedToken) (tokenHash : String) {lookup next : Bytes → Option VeraValue}
    (moves : index.Moves (old.map IndexedToken.record) (new.map IndexedToken.record) lookup next)
    (exact : (index.layout lawful).Exact lookup)
    (oldHere : lookup (jwsTokenKey tokenHash) = old.map fun token => .token token.record)
    (newHere : next (jwsTokenKey tokenHash) = new.map fun token => .token token.record)
    (oldHash : ∀ token ∈ old, token.record.tokenHash = tokenHash)
    (newHash : ∀ token ∈ new, token.record.tokenHash = tokenHash)
    (elsewhere : ∀ other, other ≠ tokenHash →
      next (jwsTokenKey other) = lookup (jwsTokenKey other)) :
    (index.layout lawful).Exact next := by
  -- a token is stored under the hash exactly when it is the one found there
  have stored_iff : ∀ (found : Option IndexedToken) (read : Bytes → Option VeraValue),
      read (jwsTokenKey tokenHash) = found.map (fun token => .token token.record) →
        ∀ token : IndexedToken,
          jwsTokenKey token.record.tokenHash = jwsTokenKey tokenHash →
            ((index.layout lawful).Stored read token ↔ token ∈ found) := by
    intro found read here token sameKey
    change read (jwsTokenKey token.record.tokenHash) = _ ↔ _
    rw [sameKey, here]
    cases found with
    | none => exact ⟨fun absent => (nomatch absent), fun absent =>
      (nomatch absent)⟩
    | some other =>
      obtain ⟨record, _, _, _⟩ := token
      obtain ⟨otherRecord, _, _, _⟩ := other
      constructor
      · intro same
        cases same
        rfl
      · intro same
        cases same
        rfl
  have inMap : ∀ (found : Option IndexedToken) (token : IndexedToken),
      token ∈ found → token.record ∈ found.map IndexedToken.record := by
    rintro _ token ⟨⟩
    rfl
  refine exact.replace
    (fun token sameKey stored => (stored_iff old lookup oldHere token sameKey).mp stored)
    (stored_iff new next newHere) ?_ ?_ ?_ ?_ ?_ ?_
  · intro token member
    exact jwsTokenKey_inj.mpr (oldHash token member)
  · intro token member
    exact jwsTokenKey_inj.mpr (newHash token member)
  · intro token different
    have notHere : token.record.tokenHash ≠ tokenHash :=
      fun same => different (jwsTokenKey_inj.mpr same)
    change next (jwsTokenKey token.record.tokenHash) = _ ↔
      lookup (jwsTokenKey token.record.tokenHash) = _
    rw [elsewhere _ notHere]
  · intro token member key isKey
    exact moves.marked token.record (inMap new token member) key isKey
  · intro key starts absent old
    obtain ⟨token, member, isKey⟩ := old
    apply moves.unmarked key starts
    · intro record isNew
      obtain ⟨other, otherNew, rfl⟩ := Option.map_eq_some_iff.mp isNew
      exact absent other otherNew
    · exact ⟨token.record, inMap _ token member, isKey⟩
  · intro key starts absentNew absentOld
    apply moves.untouched key starts
    · intro record isNew
      obtain ⟨other, otherNew, rfl⟩ := Option.map_eq_some_iff.mp isNew
      exact absentNew other otherNew
    · intro record isOld
      obtain ⟨other, otherOld, rfl⟩ := Option.map_eq_some_iff.mp isOld
      exact absentOld other otherOld

end VeraModule

end VeraHub.Vera
