import Mathlib

/-!
# Records with an index

Records of one kind are stored under their own keys, and an index marks a
second key for some of them.  The index is exact when it marks the keys of the
stored records and no others.  Only the lookup function of the store matters
here.
-/

namespace VeraHub

/-- Where records are stored and which index key each of them has. -/
structure IndexLayout (K V R : Type) where
  recordKey : R → K
  wrap : R → V
  entry : R → Option K
  mark : V
  IsEntry : K → Prop
  entry_isEntry : ∀ record, ∀ key ∈ entry record, IsEntry key
  entry_determines : ∀ first second key,
    key ∈ entry first → key ∈ entry second → recordKey first = recordKey second

namespace IndexLayout

variable {K V R : Type} (layout : IndexLayout K V R)

def Stored (lookup : K → Option V) (record : R) : Prop :=
  lookup (layout.recordKey record) = some (layout.wrap record)

/-- The index marks exactly the keys of stored records. -/
structure Exact (lookup : K → Option V) : Prop where
  covered : ∀ record, layout.Stored lookup record →
    ∀ key ∈ layout.entry record, lookup key = some layout.mark
  justified : ∀ key value, layout.IsEntry key → lookup key = some value →
    value = layout.mark ∧ ∃ record, layout.Stored lookup record ∧ key ∈ layout.entry record

variable {layout} {lookup next : K → Option V}

theorem Exact.of_empty (empty : ∀ key, lookup key = none) : layout.Exact lookup where
  covered := by
    intro record stored
    unfold Stored at stored
    rw [empty] at stored
    cases stored
  justified := by
    intro key value _ found
    rw [empty] at found
    cases found

theorem Exact.congr (exact : layout.Exact lookup)
    (records : ∀ record, layout.Stored next record ↔ layout.Stored lookup record)
    (entries : ∀ key, layout.IsEntry key → next key = lookup key) : layout.Exact next where
  covered := by
    intro record stored key member
    rw [entries key (layout.entry_isEntry record key member)]
    exact exact.covered record ((records record).mp stored) key member
  justified := by
    intro key value isEntry found
    rw [entries key isEntry] at found
    obtain ⟨marked, record, stored, member⟩ :=
      exact.justified key value isEntry found
    exact ⟨marked, record, (records record).mpr stored, member⟩

/-- Replacing the record under one key, together with its index entry, keeps
the index exact.  Either record may be missing. -/
theorem Exact.replace {key : K} {old new : Option R} (exact : layout.Exact lookup)
    (oldHere : ∀ record, layout.recordKey record = key → layout.Stored lookup record → record ∈ old)
    (newHere : ∀ record, layout.recordKey record = key → (layout.Stored next record ↔ record ∈ new))
    (oldKey : ∀ record ∈ old, layout.recordKey record = key)
    (newKey : ∀ record ∈ new, layout.recordKey record = key)
    (elsewhere : ∀ record, layout.recordKey record ≠ key →
      (layout.Stored next record ↔ layout.Stored lookup record))
    (marked : ∀ record ∈ new, ∀ entry ∈ layout.entry record, next entry = some layout.mark)
    (unmarked : ∀ entry, layout.IsEntry entry →
      (∀ record ∈ new, entry ∉ layout.entry record) →
        (∃ record ∈ old, entry ∈ layout.entry record) → next entry = none)
    (untouched : ∀ entry, layout.IsEntry entry →
      (∀ record ∈ new, entry ∉ layout.entry record) →
        (∀ record ∈ old, entry ∉ layout.entry record) → next entry = lookup entry) :
    layout.Exact next where
  covered := by
    intro record stored entry member
    by_cases here : layout.recordKey record = key
    · exact marked record ((newHere record here).mp stored) entry member
    · have notNew : ∀ other ∈ new, entry ∉ layout.entry other := by
        intro other otherNew otherMember
        apply here
        rw [layout.entry_determines record other entry member otherMember]
        exact newKey other otherNew
      have notOld : ∀ other ∈ old, entry ∉ layout.entry other := by
        intro other otherOld otherMember
        apply here
        rw [layout.entry_determines record other entry member otherMember]
        exact oldKey other otherOld
      rw [untouched entry (layout.entry_isEntry record entry member) notNew notOld]
      exact exact.covered record ((elsewhere record here).mp stored) entry member
  justified := by
    intro entry value isEntry found
    by_cases isNew : ∃ record ∈ new, entry ∈ layout.entry record
    · obtain ⟨record, member, indexed⟩ := isNew
      rw [marked record member entry indexed] at found
      cases found
      have stored := (newHere record (newKey record member)).mpr member
      exact ⟨rfl, record, stored, indexed⟩
    · have notNew : ∀ record ∈ new, entry ∉ layout.entry record :=
        fun record member indexed => isNew ⟨record, member, indexed⟩
      by_cases isOld : ∃ record ∈ old, entry ∈ layout.entry record
      · rw [unmarked entry isEntry notNew isOld] at found
        cases found
      · have notOld : ∀ record ∈ old, entry ∉ layout.entry record :=
          fun record member indexed => isOld ⟨record, member, indexed⟩
        rw [untouched entry isEntry notNew notOld] at found
        obtain ⟨isMark, record, stored, indexed⟩ :=
          exact.justified entry value isEntry found
        refine ⟨isMark, record, ?_, indexed⟩
        apply (elsewhere record ?_).mpr stored
        intro here
        exact notOld record (oldHere record here stored) indexed

end IndexLayout

end VeraHub
