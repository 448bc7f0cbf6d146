import VeraHub.Library.Bytes

/-!
# Ordered maps

A map is a list of entries with strictly increasing keys.  The invariant is a
field, so every map has one representation and a scan is a contiguous part of
the entries.
-/

namespace VeraHub

/-- A finite map whose entries are kept in key order. -/
structure OrderedMap (K V : Type) [LinearOrder K] where
  entries : List (K × V)
  sorted : entries.Pairwise fun first second => first.1 < second.1

namespace OrderedMap

section Operations

variable {K V : Type} [LinearOrder K]

def empty : OrderedMap K V :=
  ⟨[], .nil⟩

def get (map : OrderedMap K V) (key : K) : Option V :=
  map.entries.lookup key

/-- Insert into sorted entries, replacing the value of an equal key. -/
def insertEntry (key : K) (value : V) : List (K × V) → List (K × V)
  | [] => [(key, value)]
  | entry :: rest =>
    if key < entry.1 then
      (key, value) :: entry :: rest
    else if key = entry.1 then
      (key, value) :: rest
    else
      entry :: insertEntry key value rest

variable {entries : List (K × V)}

theorem mem_insertEntry {key : K} {value : V} {entry : K × V}
    (member : entry ∈ insertEntry key value entries) : entry = (key, value) ∨ entry ∈ entries := by
  induction entries with
  | nil =>
    exact Or.inl (List.mem_singleton.mp member)
  | cons head tail ih =>
    unfold insertEntry at member
    by_cases below : key < head.1
    · rw [if_pos below] at member
      exact List.mem_cons.mp member
    · rw [if_neg below] at member
      by_cases same : key = head.1
      · rw [if_pos same] at member
        rcases List.mem_cons.mp member with inserted | inTail
        · exact Or.inl inserted
        · exact Or.inr (List.mem_cons_of_mem head inTail)
      · rw [if_neg same] at member
        rcases List.mem_cons.mp member with atHead | inTail
        · exact Or.inr (atHead ▸ List.mem_cons_self)
        · rcases ih inTail with inserted | older
          · exact Or.inl inserted
          · exact Or.inr (List.mem_cons_of_mem head older)

theorem insertEntry_sorted (key : K) (value : V)
    (sorted : entries.Pairwise fun first second => first.1 < second.1) :
    (insertEntry key value entries).Pairwise fun first second => first.1 < second.1 := by
  induction entries with
  | nil =>
    exact List.pairwise_singleton _ _
  | cons head tail ih =>
    obtain ⟨headBelow, tailSorted⟩ := List.pairwise_cons.mp sorted
    unfold insertEntry
    by_cases below : key < head.1
    · rw [if_pos below]
      refine List.pairwise_cons.mpr ⟨fun entry member => ?_, sorted⟩
      rcases List.mem_cons.mp member with rfl | inTail
      · exact below
      · exact below.trans (headBelow entry inTail)
    · rw [if_neg below]
      by_cases same : key = head.1
      · rw [if_pos same]
        refine List.pairwise_cons.mpr ⟨fun entry member => ?_, tailSorted⟩
        change key < entry.1
        rw [same]
        exact headBelow entry member
      · rw [if_neg same]
        refine List.pairwise_cons.mpr ⟨fun entry member => ?_, ih tailSorted⟩
        rcases mem_insertEntry member with rfl | older
        · exact lt_of_le_of_ne (not_lt.mp below) (Ne.symm same)
        · exact headBelow entry older

def insert (map : OrderedMap K V) (key : K) (value : V) : OrderedMap K V :=
  ⟨insertEntry key value map.entries, insertEntry_sorted key value map.sorted⟩

def erase (map : OrderedMap K V) (key : K) : OrderedMap K V :=
  ⟨map.entries.filter fun entry => entry.1 ≠ key, map.sorted.filter _⟩

end Operations

/-! ## Lookup -/

section Lookup

variable {K V : Type} [LinearOrder K]

private theorem lookup_cons (other : K) (entry : K × V) (entries : List (K × V)) :
    (entry :: entries).lookup other =
      if other = entry.1 then some entry.2 else entries.lookup other := by
  rw [List.lookup_cons]
  by_cases same : other = entry.1
  · rw [if_pos same, beq_iff_eq.mpr same]
  · rw [if_neg same, beq_eq_false_iff_ne.mpr same]

theorem lookup_insertEntry (key other : K) (value : V) (entries : List (K × V)) :
    (insertEntry key value entries).lookup other =
      if other = key then some value else entries.lookup other := by
  induction entries with
  | nil =>
    exact lookup_cons other (key, value) []
  | cons head tail ih =>
    unfold insertEntry
    by_cases below : key < head.1
    · rw [if_pos below, lookup_cons]
    · rw [if_neg below]
      by_cases atHead : key = head.1
      · rw [if_pos atHead, lookup_cons, lookup_cons, ← atHead]
        by_cases same : other = key
        · rw [if_pos same, if_pos same]
        · rw [if_neg same, if_neg same, if_neg same]
      · rw [if_neg atHead, lookup_cons, lookup_cons, ih]
        by_cases sameHead : other = head.1
        · have notKey : other ≠ key := by
            rw [sameHead]
            exact Ne.symm atHead
          rw [if_pos sameHead, if_pos sameHead, if_neg notKey]
        · rw [if_neg sameHead, if_neg sameHead]

variable {key : K} {value : V}

theorem lookup_eq_some_iff {entries : List (K × V)}
    (sorted : entries.Pairwise fun first second => first.1 < second.1) :
    entries.lookup key = some value ↔ (key, value) ∈ entries := by
  induction entries with
  | nil => simp
  | cons head tail ih =>
    obtain ⟨headBelow, tailSorted⟩ := List.pairwise_cons.mp sorted
    rw [lookup_cons, List.mem_cons]
    by_cases same : key = head.1
    · have notTail : (key, value) ∉ tail := by
        intro member
        have below := headBelow _ member
        rw [← same] at below
        exact lt_irrefl _ below
      rw [if_pos same, Option.some.injEq, or_iff_left notTail, Prod.ext_iff]
      constructor
      · intro found
        exact ⟨same, found.symm⟩
      · intro found
        exact found.2.symm
    · have notHead : (key, value) ≠ head := by
        intro equality
        exact same (congrArg Prod.fst equality)
      rw [if_neg same, or_iff_right notHead]
      exact ih tailSorted

variable (map : OrderedMap K V)

@[simp]
theorem get_empty (key : K) : (empty : OrderedMap K V).get key = none :=
  rfl

theorem get_insert (key other : K) (value : V) : (map.insert key value).get other =
      if other = key then some value else map.get other :=
  lookup_insertEntry key other value map.entries

@[simp]
theorem get_insert_self (key : K) (value : V) : (map.insert key value).get key = some value := by
  rw [get_insert, if_pos rfl]

theorem get_insert_of_ne {other : K} (value : V) (different : other ≠ key) :
    (map.insert key value).get other = map.get other := by
  rw [get_insert, if_neg different]

theorem mem_entries_iff : (key, value) ∈ map.entries ↔ map.get key = some value :=
  (lookup_eq_some_iff map.sorted).symm

theorem get_erase (key other : K) : (map.erase key).get other =
      if other = key then none else map.get other := by
  apply Option.ext
  intro value
  rw [← mem_entries_iff]
  unfold erase
  rw [List.mem_filter, mem_entries_iff]
  by_cases same : other = key
  · simp [same]
  · simp [same]

theorem entries_nodup : map.entries.Nodup := by
  apply map.sorted.imp
  intro first second below same
  rw [same] at below
  exact lt_irrefl _ below

theorem entries_insert_perm (value : V) (absent : map.get key = none) :
    (map.insert key value).entries.Perm ((key, value) :: map.entries) := by
  have fresh : (key, value) ∉ map.entries := by
    rw [mem_entries_iff, absent]
    exact nofun
  apply (List.perm_ext_iff_of_nodup (entries_nodup _)
    (List.nodup_cons.mpr ⟨fresh, map.entries_nodup⟩)).mpr
  rintro ⟨other, found⟩
  rw [List.mem_cons, mem_entries_iff, mem_entries_iff, get_insert]
  by_cases same : other = key
  · rw [if_pos same, same, absent]
    simp [eq_comm]
  · rw [if_neg same]
    simp [same]

theorem entries_perm_erase (found : map.get key = some value) :
    map.entries.Perm ((key, value) :: (map.erase key).entries) := by
  have erased : (key, value) ∉ (map.erase key).entries := by
    rw [mem_entries_iff, get_erase, if_pos rfl]
    exact nofun
  apply (List.perm_ext_iff_of_nodup map.entries_nodup
    (List.nodup_cons.mpr ⟨erased, entries_nodup _⟩)).mpr
  rintro ⟨other, stored⟩
  rw [List.mem_cons, mem_entries_iff, mem_entries_iff, get_erase]
  by_cases same : other = key
  · rw [if_pos same, same, found]
    simp [eq_comm]
  · rw [if_neg same]
    simp [same]

/-- Entries in key order are combined into a map one by one, each with the value
the map had for its key. -/
theorem get_foldl_combine {W : Type} (combine : Option V → W → V) {entries : List (K × W)}
    (sorted : entries.Pairwise fun first second => first.1 < second.1)
    (map : OrderedMap K V) (key : K) : (entries.foldl (fun map entry =>
        map.insert entry.1 (combine (map.get entry.1) entry.2))
      map).get key =
      match entries.lookup key with
      | some value => some (combine (map.get key) value)
      | none => map.get key := by
  induction entries generalizing map with
  | nil => rfl
  | cons head tail ih =>
    obtain ⟨headBelow, tailSorted⟩ := List.pairwise_cons.mp sorted
    rw [List.foldl_cons, ih tailSorted, lookup_cons, get_insert]
    by_cases same : key = head.1
    · have absent : tail.lookup key = none := by
        apply List.lookup_eq_none_iff.mpr
        intro later member
        rw [same]
        exact bne_iff_ne.mpr (headBelow later member).ne
      rw [absent, if_pos same, if_pos same, same]
    · rw [if_neg same, if_neg same]

end Lookup

/-! ## Lists in key order -/

section KeyOrder

variable {K V : Type} [LinearOrder K]

theorem eq_of_mem_iff {first second : List (K × V)}
    (firstSorted : first.Pairwise fun left right => left.1 < right.1)
    (secondSorted : second.Pairwise fun left right => left.1 < right.1)
    (same : ∀ entry, entry ∈ first ↔ entry ∈ second) : first = second := by
  induction first generalizing second with
  | nil =>
    symm
    rw [List.eq_nil_iff_forall_not_mem]
    intro entry member
    have impossible := (same entry).mpr member
    cases impossible
  | cons head tail ih =>
    cases second with
    | nil =>
      have impossible := (same head).mp List.mem_cons_self
      cases impossible
    | cons otherHead otherTail =>
      obtain ⟨headBelow, tailSorted⟩ := List.pairwise_cons.mp firstSorted
      obtain ⟨otherBelow, otherTailSorted⟩ := List.pairwise_cons.mp secondSorted
      have sameHead : head = otherHead := by
        rcases List.mem_cons.mp ((same head).mp List.mem_cons_self) with
          equality | inOtherTail
        · exact equality
        rcases List.mem_cons.mp ((same otherHead).mpr List.mem_cons_self) with
          equality | inTail
        · exact equality.symm
        exact absurd (headBelow otherHead inTail) (not_lt_of_gt (otherBelow head inOtherTail))
      subst sameHead
      have sameTail : ∀ entry, entry ∈ tail ↔ entry ∈ otherTail := by
        intro entry
        have entrySame := same entry
        rw [List.mem_cons, List.mem_cons] at entrySame
        constructor
        · intro member
          have notHead : entry ≠ head := by
            intro equality
            have below := headBelow entry member
            rw [equality] at below
            exact lt_irrefl _ below
          exact (entrySame.mp (Or.inr member)).resolve_left notHead
        · intro member
          have notHead : entry ≠ head := by
            intro equality
            have below := otherBelow entry member
            rw [equality] at below
            exact lt_irrefl _ below
          exact (entrySame.mpr (Or.inr member)).resolve_left notHead
      rw [ih tailSorted otherTailSorted sameTail]

theorem ext_get {first second : OrderedMap K V} (same : ∀ key, first.get key = second.get key) :
    first = second := by
  have entries : first.entries = second.entries := by
    apply eq_of_mem_iff first.sorted second.sorted
    intro entry
    obtain ⟨key, value⟩ := entry
    rw [mem_entries_iff, mem_entries_iff, same]
  cases first
  cases second
  cases entries
  rfl

theorem length_insert_le (map : OrderedMap K V) (key : K) (value : V) :
    (map.insert key value).entries.length ≤ map.entries.length + 1 := by
  change (insertEntry key value map.entries).length ≤ _
  induction map.entries with
  | nil => simp [insertEntry]
  | cons entry rest ih =>
    unfold insertEntry
    by_cases below : key < entry.1
    · simp [below]
    · by_cases same : key = entry.1
      · simp [same]
      · simp only [below, same, if_false, List.length_cons]
        omega

theorem length_insertEntry_of_mem {key : K} {old : V} (value : V) {entries : List (K × V)}
    (sorted : entries.Pairwise fun first second => first.1 < second.1)
    (member : (key, old) ∈ entries) : (insertEntry key value entries).length = entries.length := by
  induction entries with
  | nil => cases member
  | cons entry rest ih =>
    obtain ⟨headBelow, tailSorted⟩ := List.pairwise_cons.mp sorted
    unfold insertEntry
    rcases List.mem_cons.mp member with atHead | inTail
    · have same : key = entry.1 := by rw [← atHead]
      simp [same]
    · have below := headBelow _ inTail
      have notBelow : ¬ key < entry.1 := not_lt_of_gt below
      have different : key ≠ entry.1 := ne_of_gt below
      simp only [notBelow, different, if_false, List.length_cons]
      rw [ih tailSorted inTail]

theorem length_insert_of_get {map : OrderedMap K V} {key : K} {old : V}
    (value : V) (found : map.get key = some old) :
    (map.insert key value).entries.length = map.entries.length :=
  length_insertEntry_of_mem value map.sorted (map.mem_entries_iff.mpr found)

end KeyOrder

/-! ## Cyclic successors -/

section Cyclic

variable {K V : Type} [LinearOrder K]

/-- The open arc from one key forward to another: it wraps around when the
second key does not follow the first, and leaves out only the key itself when
both are the same. -/
def InArc (start stop key : K) : Prop :=
  if start < stop then start < key ∧ key < stop
  else start < key ∨ key < stop

instance (start stop key : K) : Decidable (InArc start stop key) :=
  inferInstanceAs (Decidable (if start < stop then start < key ∧ key < stop
      else start < key ∨ key < stop))

/-- The next key of the map in cyclic key order. -/
structure IsSuccessor (map : OrderedMap K V) (key next : K) : Prop where
  present : (map.get next).isSome = true
  adjacent : ∀ other, InArc key next other → map.get other = none

end Cyclic

/-! ## Contiguous scans -/

section Scans

variable {α : Type} {relation : α → α → Prop} {keep : α → Bool}

theorem takeWhile_eq_filter {items : List α} (sorted : items.Pairwise relation)
    (closed : ∀ first second, relation first second → keep second = true → keep first = true) :
    items.takeWhile keep = items.filter keep := by
  induction items with
  | nil => rfl
  | cons head tail ih =>
    obtain ⟨headBelow, tailSorted⟩ := List.pairwise_cons.mp sorted
    by_cases kept : keep head = true
    · rw [List.takeWhile_cons_of_pos kept, List.filter_cons_of_pos kept, ih tailSorted]
    · rw [List.takeWhile_cons_of_neg kept, List.filter_cons_of_neg kept,
        eq_comm, List.filter_eq_nil_iff]
      intro later member laterKept
      exact kept (closed head later (headBelow later member) laterKept)

theorem dropWhile_eq_filter {items : List α} (sorted : items.Pairwise relation)
    (closed : ∀ first second, relation first second → keep second = true → keep first = true) :
    items.dropWhile keep = items.filter fun item => !keep item := by
  induction items with
  | nil => rfl
  | cons head tail ih =>
    obtain ⟨headBelow, tailSorted⟩ := List.pairwise_cons.mp sorted
    by_cases kept : keep head = true
    · rw [List.dropWhile_cons_of_pos kept, ih tailSorted, List.filter_cons_of_neg (by simp [kept])]
    · rw [List.dropWhile_cons_of_neg kept, eq_comm, List.filter_eq_self]
      intro item member
      rcases List.mem_cons.mp member with rfl | inTail
      · simpa using kept
      · have notKept : ¬ keep item = true := fun itemKept =>
          kept (closed head item (headBelow item inTail) itemKept)
        simpa using notKept

end Scans

section PrefixScan

variable {α V : Type} [LinearOrder α]

def keyStartsWith (start key : List α) : Bool :=
  start.isPrefixOf key

variable {key start : List α}

theorem keyStartsWith_iff : keyStartsWith start key = true ↔ start <+: key :=
  List.isPrefixOf_iff_prefix

/-- The entries from the prefix on, as long as they have the prefix. -/
def prefixScan (map : OrderedMap (List α) V) (start : List α) : List (List α × V) :=
  (map.entries.dropWhile fun entry => entry.1 < start).takeWhile
    fun entry => keyStartsWith start entry.1

theorem prefixScan_eq_filter (map : OrderedMap (List α) V) (start : List α) :
    map.prefixScan start = map.entries.filter fun entry => keyStartsWith start entry.1 := by
  unfold prefixScan
  have dropped :
      (map.entries.dropWhile fun entry => entry.1 < start) =
        map.entries.filter fun entry => !decide (entry.1 < start) := by
    apply dropWhile_eq_filter map.sorted
    intro first second below secondBelow
    rw [decide_eq_true_iff] at secondBelow ⊢
    exact below.trans secondBelow
  have closed :
      ((map.entries.filter fun entry => !decide (entry.1 < start)).takeWhile
          fun entry => keyStartsWith start entry.1) = (map.entries.filter fun entry =>
            !decide (entry.1 < start)).filter
          fun entry => keyStartsWith start entry.1 := by
    have bounded : (map.entries.filter fun entry =>
            !decide (entry.1 < start)).Pairwise
          fun first second => start ≤ first.1 ∧ first.1 < second.1 := by
      refine (map.sorted.filter _).imp_of_mem ?_
      intro first second firstMember _ below
      have above := (List.mem_filter.mp firstMember).2
      simp only [Bool.not_eq_true', decide_eq_false_iff_not, not_lt] at above
      exact ⟨above, below⟩
    apply takeWhile_eq_filter bounded
    intro first second order secondKept
    rw [keyStartsWith_iff] at secondKept ⊢
    exact isPrefix_of_le_of_le order.1 order.2.le secondKept
  rw [dropped, closed, List.filter_filter]
  apply List.filter_congr
  intro entry _
  by_cases kept : keyStartsWith start entry.1 = true
  · have above := le_of_isPrefix (keyStartsWith_iff.mp kept)
    simp [kept, not_lt.mpr above]
  · simp [kept]

variable {map : OrderedMap (List α) V}

theorem mem_prefixScan_iff {value : V} :
    (key, value) ∈ map.prefixScan start ↔ start <+: key ∧ map.get key = some value := by
  rw [prefixScan_eq_filter, List.mem_filter, mem_entries_iff, keyStartsWith_iff, and_comm]

theorem prefixScan_nodup (map : OrderedMap (List α) V) (start : List α) :
    (map.prefixScan start).Nodup := by
  rw [prefixScan_eq_filter]
  exact map.entries_nodup.filter _

variable {final : OrderedMap (List α) V}

theorem prefixScan_perm (same : ∀ key, start <+: key → final.get key = map.get key) :
    (final.prefixScan start).Perm (map.prefixScan start) := by
  apply (List.perm_ext_iff_of_nodup (prefixScan_nodup final start) (prefixScan_nodup map start)).mpr
  rintro ⟨key, value⟩
  rw [mem_prefixScan_iff, mem_prefixScan_iff]
  apply and_congr_right
  intro starts
  rw [same key starts]

theorem prefixScan_perm_cons {value : V} (starts : start <+: key) (absent : map.get key = none)
    (added : ∀ other, start <+: other → final.get other =
      if other = key then some value else map.get other) :
    (final.prefixScan start).Perm ((key, value) :: map.prefixScan start) := by
  have fresh : (key, value) ∉ map.prefixScan start := by
    rw [mem_prefixScan_iff, absent]
    exact fun found => nomatch found.2
  apply (List.perm_ext_iff_of_nodup (prefixScan_nodup final start)
    (List.nodup_cons.mpr ⟨fresh, prefixScan_nodup map start⟩)).mpr
  rintro ⟨other, found⟩
  rw [List.mem_cons, mem_prefixScan_iff, mem_prefixScan_iff]
  constructor
  · rintro ⟨otherStarts, stored⟩
    rw [added other otherStarts] at stored
    split at stored
    · rename_i same
      exact .inl (by rw [same, Option.some.inj stored])
    · exact .inr ⟨otherStarts, stored⟩
  · rintro (same | ⟨otherStarts, stored⟩)
    · obtain ⟨rfl, rfl⟩ := Prod.ext_iff.mp same
      exact ⟨starts, by rw [added _ starts, if_pos rfl]⟩
    · have different : other ≠ key := by
        rintro rfl
        rw [absent] at stored
        cases stored
      exact ⟨otherStarts, by rw [added other otherStarts, if_neg different, stored]⟩

theorem prefixScan_perm_append {gone : List (List α × V)} (distinct : gone.Nodup)
    (scanned : ∀ entry ∈ gone, entry ∈ map.prefixScan start)
    (removed : ∀ other, start <+: other → final.get other =
      if other ∈ gone.map Prod.fst then none else map.get other) :
    (map.prefixScan start).Perm (gone ++ final.prefixScan start) := by
  have remains : ∀ other value, (other, value) ∈ final.prefixScan start ↔
      (other, value) ∈ map.prefixScan start ∧ other ∉ gone.map Prod.fst := by
    intro other value
    rw [mem_prefixScan_iff, mem_prefixScan_iff]
    constructor
    · rintro ⟨otherStarts, stored⟩
      rw [removed other otherStarts] at stored
      obtain ⟨kept, stored⟩ := Option.ite_none_left_eq_some.mp stored
      exact ⟨⟨otherStarts, stored⟩, kept⟩
    · rintro ⟨⟨otherStarts, stored⟩, kept⟩
      exact ⟨otherStarts, by rw [removed other otherStarts, if_neg kept, stored]⟩
  have disjoint : (gone ++ final.prefixScan start).Nodup := by
    apply List.nodup_append.mpr
    refine ⟨distinct, prefixScan_nodup final start, ?_⟩
    rintro ⟨key, value⟩ inGone ⟨other, found⟩ inFinal same
    obtain ⟨rfl, rfl⟩ := Prod.ext_iff.mp same
    exact ((remains _ _).mp inFinal).2 (List.mem_map_of_mem inGone)
  apply (List.perm_ext_iff_of_nodup (prefixScan_nodup map start) disjoint).mpr
  rintro ⟨key, value⟩
  rw [List.mem_append, remains]
  constructor
  · intro inMap
    by_cases taken : key ∈ gone.map Prod.fst
    · obtain ⟨⟨_, other⟩, inGone, rfl⟩ := List.mem_map.mp taken
      have stored := (mem_prefixScan_iff.mp (scanned _ inGone)).2
      rw [(mem_prefixScan_iff.mp inMap).2] at stored
      exact .inl (by rw [Option.some.inj stored]; exact inGone)
    · exact .inr ⟨inMap, taken⟩
  · rintro (inGone | ⟨inMap, _⟩)
    · exact scanned _ inGone
    · exact inMap

end PrefixScan

end OrderedMap

end VeraHub
