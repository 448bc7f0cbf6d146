import VeraHub.Vera.TokenIndexes

/-!
# Consensus rosters

The committee of an epoch is recorded once and kept while its epoch is among the
latest three.  A record is written only for an epoch above every retained one, so
the window moves forward and no epoch comes back.
-/

namespace VeraHub.Vera

/-- A consensus identity of 32 bytes. -/
abbrev ConsensusIdentity : Type :=
  { key : Bytes // key.length = 32 }

variable {first second other : UInt64} {bytes : Bytes} {calls : List RosterCall} {call : RosterCall}

namespace VeraModule

def rosterPrefix : Bytes :=
  utf8 "consensus_roster/"

def rosterKey (epoch : UInt64) : Bytes :=
  rosterPrefix ++ beBytes epoch

def rosterBytes (keys : List ConsensusIdentity) : Bytes :=
  keys.flatMap Subtype.val

def SortedRoster (keys : List ConsensusIdentity) : Prop :=
  keys ≠ [] ∧ (keys.map Subtype.val).IsChain (· < ·)

instance (keys : List ConsensusIdentity) : Decidable (SortedRoster keys) :=
  inferInstanceAs (Decidable (_ ∧ _))

def consensusRoster (epoch : UInt64) (module : VeraModule) : Option Bytes :=
  match module.store.get (rosterKey epoch) with
  | some (.service bytes) => some bytes
  | _ => none

/-- The keys of the epochs that fall out of the window. -/
def expiredRosters (epoch : UInt64) (module : VeraModule) : List Bytes :=
  ((module.scan rosterPrefix).takeWhile fun entry =>
    entry.1 < rosterKey (UInt64.ofNat (epoch.toNat - 2))).map Prod.fst

/-- Retain the latest three epoch selections without replacing or resurrecting
one. -/
def recordConsensusRoster (epoch : UInt64) (keys : List ConsensusIdentity) :
    VeraM Unit := do
  Exec.failIf (¬ SortedRoster keys) (.state "consensus roster must be nonempty and strictly sorted")
  match ← Exec.gets (consensusRoster epoch) with
  | some existing =>
    Exec.failIf (existing ≠ rosterBytes keys) (.state "consensus roster already selected")
  | none => do
      let latest ← Exec.gets fun module =>
        (module.scan rosterPrefix).getLast?
      Exec.failIf (latest.any (fun entry => decide (rosterKey epoch ≤ entry.1)) = true)
        (.state "consensus roster is older than the retained window")
      Exec.modify fun module =>
        ((expiredRosters epoch module).foldl VeraModule.withoutStored
          module).withStored (rosterKey epoch) (.service (rosterBytes keys))

/-! ## Keys -/

theorem rosterKey_inj : rosterKey first = rosterKey second ↔ first = second := by
  unfold rosterKey
  rw [List.append_cancel_left_eq]
  exact beBytes_injective.eq_iff

theorem rosterKey_lt_of_lt (below : first < second) : rosterKey first < rosterKey second := by
  unfold rosterKey
  exact List.append_left_lt (beBytes_lt_iff.mpr below)

theorem rosterKey_lt_iff : rosterKey first < rosterKey second ↔ first < second := by
  constructor
  · intro below
    by_contra notBelow
    rcases UInt64.lt_or_eq_of_le (UInt64.not_lt.mp notBelow) with above | same
    · exact lt_asymm below (rosterKey_lt_of_lt above)
    · rw [same] at below
      exact lt_irrefl _ below
  · exact rosterKey_lt_of_lt

theorem rosterKey_le_iff : rosterKey first ≤ rosterKey second ↔ first ≤ second := by
  rw [← not_lt, rosterKey_lt_iff, UInt64.not_lt]

theorem rosterKey_starts (epoch : UInt64) : rosterPrefix <+: rosterKey epoch :=
  List.prefix_append _ _

/-! ## Retained rosters -/

/-- Nothing but rosters lies below the roster keys. -/
structure RostersSound (module : VeraModule) : Prop where
  stored : ∀ key value, rosterPrefix <+: key →
    module.store.get key = some value →
      ∃ epoch bytes, key = rosterKey epoch ∧ value = .service bytes

section Reads

variable {module : VeraModule}

theorem consensusRoster_eq_some {epoch : UInt64} :
    consensusRoster epoch module = some bytes ↔
      module.store.get (rosterKey epoch) = some (.service bytes) := by
  unfold consensusRoster
  constructor
  · intro found
    split at found
    · rename_i stored
      rw [stored, Option.some.inj found]
    · cases found
  · intro stored
    rw [stored]

theorem RostersSound.mem_scan_iff (sound : RostersSound module) {key : Bytes} {value : VeraValue} :
    (key, value) ∈ module.scan rosterPrefix ↔
      ∃ epoch bytes, key = rosterKey epoch ∧ value = .service bytes ∧
        consensusRoster epoch module = some bytes := by
  unfold scan
  rw [OrderedMap.mem_prefixScan_iff]
  constructor
  · rintro ⟨starts, stored⟩
    obtain ⟨epoch, bytes, rfl, rfl⟩ := sound.stored key value starts stored
    exact ⟨epoch, bytes, rfl, rfl, consensusRoster_eq_some.mpr stored⟩
  · rintro ⟨epoch, bytes, rfl, rfl, found⟩
    exact ⟨rosterKey_starts epoch, consensusRoster_eq_some.mp found⟩

theorem scan_sorted (module : VeraModule) (start : Bytes) :
    (module.scan start).Pairwise fun first second => first.1 < second.1 := by
  unfold scan
  rw [OrderedMap.prefixScan_eq_filter]
  exact module.store.sorted.filter _

theorem exists_getLast_of_mem {V : Type} {entries : List (Bytes × V)}
    (sorted : entries.Pairwise fun first second => first.1 < second.1)
    {entry : Bytes × V} (member : entry ∈ entries) :
    ∃ last, entries.getLast? = some last ∧ entry.1 ≤ last.1 := by
  induction entries generalizing entry with
  | nil => cases member
  | cons head tail ih =>
    obtain ⟨headBelow, tailSorted⟩ := List.pairwise_cons.mp sorted
    cases tail with
    | nil =>
      obtain rfl := List.mem_singleton.mp member
      exact ⟨entry, rfl, le_rfl⟩
    | cons next rest =>
      rw [List.getLast?_cons_cons]
      rcases List.mem_cons.mp member with rfl | later
      · obtain ⟨last, isLast, above⟩ := ih tailSorted List.mem_cons_self
        have below := headBelow next List.mem_cons_self
        exact ⟨last, isLast, below.le.trans above⟩
      · exact ih tailSorted later

/-- The check against the newest entry is one against every retained epoch. -/
theorem RostersSound.latest_iff (sound : RostersSound module) (epoch : UInt64) :
    (module.scan rosterPrefix).getLast?.any
        (fun entry => decide (rosterKey epoch ≤ entry.1)) = true ↔
      ∃ other bytes, consensusRoster other module = some bytes ∧ epoch ≤ other := by
  constructor
  · intro reached
    cases isLast : (module.scan rosterPrefix).getLast? with
    | none =>
      rw [isLast] at reached
      cases reached
    | some last =>
      rw [isLast] at reached
      have above : rosterKey epoch ≤ last.1 := of_decide_eq_true reached
      obtain ⟨other, bytes, isKey, _, found⟩ := sound.mem_scan_iff.mp (List.mem_of_getLast? isLast)
      rw [isKey, rosterKey_le_iff] at above
      exact ⟨other, bytes, found, above⟩
  · rintro ⟨other, bytes, found, above⟩
    have member : (rosterKey other, VeraValue.service bytes) ∈
        module.scan rosterPrefix :=
      sound.mem_scan_iff.mpr ⟨other, bytes, rfl, rfl, found⟩
    obtain ⟨last, isLast, greatest⟩ :=
      exists_getLast_of_mem (scan_sorted module rosterPrefix) member
    rw [isLast]
    exact decide_eq_true ((rosterKey_le_iff.mpr above).trans greatest)

theorem toNat_cutoff (epoch : UInt64) :
    (UInt64.ofNat (epoch.toNat - 2)).toNat = epoch.toNat - 2 := by
  apply UInt64.toNat_ofNat_of_lt'
  have bound := epoch.toNat_lt
  change epoch.toNat - 2 < 2 ^ 64
  omega

theorem RostersSound.mem_expired_iff (sound : RostersSound module) {epoch : UInt64} :
    rosterKey other ∈ expiredRosters epoch module ↔
      (consensusRoster other module).isSome = true ∧ other.toNat + 2 < epoch.toNat := by
  unfold expiredRosters
  have filtered := OrderedMap.takeWhile_eq_filter (scan_sorted module rosterPrefix)
    (show ∀ first second : Bytes × VeraValue, first.1 < second.1 →
      decide (second.1 < rosterKey (UInt64.ofNat (epoch.toNat - 2))) = true →
      decide (first.1 < rosterKey (UInt64.ofNat (epoch.toNat - 2))) = true from
        fun first second order kept =>
          decide_eq_true (order.trans (of_decide_eq_true kept)))
  rw [filtered, List.mem_map]
  have below : rosterKey other < rosterKey (UInt64.ofNat (epoch.toNat - 2)) ↔
      other.toNat + 2 < epoch.toNat := by
    rw [rosterKey_lt_iff, UInt64.lt_iff_toNat_lt, toNat_cutoff]
    omega
  constructor
  · rintro ⟨⟨key, value⟩, member, isKey⟩
    obtain ⟨scanned, expired⟩ := List.mem_filter.mp member
    change key = rosterKey other at isKey
    subst isKey
    obtain ⟨retained, bytes, sameKey, _, found⟩ := sound.mem_scan_iff.mp scanned
    rw [← rosterKey_inj.mp sameKey] at found
    rw [found]
    exact ⟨rfl, below.mp (of_decide_eq_true expired)⟩
  · rintro ⟨retained, old⟩
    obtain ⟨bytes, found⟩ := Option.isSome_iff_exists.mp retained
    refine ⟨(rosterKey other, .service bytes), ?_, rfl⟩
    exact List.mem_filter.mpr
      ⟨sound.mem_scan_iff.mpr ⟨other, bytes, rfl, rfl, found⟩, decide_eq_true (below.mpr old)⟩

theorem get_foldl_withoutStored (keys : List Bytes) (module : VeraModule) (key : Bytes) :
    (keys.foldl VeraModule.withoutStored module).store.get key =
      if key ∈ keys then none else module.store.get key := by
  induction keys generalizing module with
  | nil => simp
  | cons head tail ih =>
    rw [List.foldl_cons, ih, get_withoutStored]
    by_cases later : key ∈ tail
    · rw [if_pos later, if_pos (List.mem_cons_of_mem _ later)]
    · rw [if_neg later]
      by_cases here : key = head
      · rw [if_pos here, if_pos (here ▸ List.mem_cons_self)]
      · rw [if_neg here, if_neg fun member =>
          (List.mem_cons.mp member).elim here later]

end Reads

/-! ## Calls -/

/-- What a call does to the retained rosters. -/
inductive Recorded (module : VeraModule) (epoch : UInt64) (bytes : Bytes) :
    Except VeraError Unit → VeraModule → Prop
  | rejected (failure : VeraError) : Recorded module epoch bytes (.error failure) module
  | repeated (known : consensusRoster epoch module = some bytes) :
      Recorded module epoch bytes (.ok ()) module
  | written (final : VeraModule)
      (newest : ∀ other, (consensusRoster other module).isSome = true → other < epoch)
      (sound : RostersSound final) (rosters : ∀ other, consensusRoster other final =
        if other = epoch then some bytes
        else if other.toNat + 2 < epoch.toNat then none
        else consensusRoster other module) :
      Recorded module epoch bytes (.ok ()) final

section Calls

variable {module : VeraModule} {epoch : UInt64}

/-- The rosters once the expired ones are gone and the new one is written. -/
theorem consensusRoster_written (sound : RostersSound module) (bytes : Bytes) (other : UInt64) :
    consensusRoster other
      (((expiredRosters epoch module).foldl VeraModule.withoutStored
        module).withStored (rosterKey epoch) (.service bytes)) =
      if other = epoch then some bytes
      else if other.toNat + 2 < epoch.toNat then none
      else consensusRoster other module := by
  unfold consensusRoster
  rw [get_withStored, get_foldl_withoutStored]
  by_cases same : other = epoch
  · rw [if_pos same, if_pos (rosterKey_inj.mpr same)]
  · rw [if_neg same, if_neg fun sameKey => same (rosterKey_inj.mp sameKey)]
    by_cases expired : rosterKey other ∈ expiredRosters epoch module
    · rw [if_pos expired, if_pos (sound.mem_expired_iff.mp expired).2]
    · rw [if_neg expired]
      by_cases old : other.toNat + 2 < epoch.toNat
      · rw [if_pos old]
        have absent : consensusRoster other module = none := by
          rw [← Option.not_isSome_iff_eq_none]
          intro retained
          exact expired (sound.mem_expired_iff.mpr ⟨retained, old⟩)
        exact absent
      · rw [if_neg old]

theorem RostersSound.written (sound : RostersSound module) (bytes : Bytes) :
    RostersSound
      (((expiredRosters epoch module).foldl VeraModule.withoutStored
        module).withStored (rosterKey epoch) (.service bytes)) := by
  constructor
  intro key value starts stored
  rw [get_withStored, get_foldl_withoutStored] at stored
  by_cases same : key = rosterKey epoch
  · rw [if_pos same] at stored
    exact ⟨epoch, bytes, same, (Option.some.inj stored).symm⟩
  · rw [if_neg same] at stored
    obtain ⟨expired, stored⟩ := Option.ite_none_left_eq_some.mp stored
    exact sound.stored key value starts stored

theorem recordConsensusRoster_wp (sound : RostersSound module) (keys : List ConsensusIdentity) :
    (recordConsensusRoster epoch keys).Wp (Recorded module epoch (rosterBytes keys)) module := by
  apply Exec.Wp.failIf
  · intro _
    exact .rejected _
  intro _
  apply Exec.Wp.gets
  cases known : consensusRoster epoch module with
  | some existing =>
    unfold Exec.Wp
    dsimp only
    rw [Exec.run_failIf]
    by_cases differs : existing ≠ rosterBytes keys
    · rw [if_pos differs]
      exact .rejected _
    · rw [if_neg differs]
      rw [not_not.mp differs] at known
      exact .repeated known
  | none =>
    apply Exec.Wp.gets
    apply Exec.Wp.failIf
    · intro _
      exact .rejected _
    intro fresh
    refine .written _ ?_ (sound.written _) (consensusRoster_written sound (rosterBytes keys))
    intro other retained
    by_contra notBelow
    obtain ⟨bytes, found⟩ := Option.isSome_iff_exists.mp retained
    exact fresh ((sound.latest_iff epoch).mpr ⟨other, bytes, found, UInt64.not_lt.mp notBelow⟩)

/-- An epoch at or below a retained one that is not retained itself is
refused. -/
theorem recordConsensusRoster_refused (sound : RostersSound module) (retained : (consensusRoster other module).isSome = true)
    (above : epoch ≤ other) (absent : consensusRoster epoch module = none)
    (keys : List ConsensusIdentity) :
    ∃ failure, (recordConsensusRoster epoch keys).run module = (.error failure, module) := by
  have outcome := @recordConsensusRoster_wp module epoch sound keys
  unfold Exec.Wp at outcome
  generalize (recordConsensusRoster epoch keys).run module = ran at outcome
  obtain ⟨result, final⟩ := ran
  cases outcome with
  | rejected failure => exact ⟨failure, rfl⟩
  | repeated known =>
    rw [absent] at known
    cases known
  | written _ newest _ _ =>
    have below := newest other retained
    exact absurd above (UInt64.not_le.mpr below)

end Calls

/-! ## Runs -/

/-- A call with its arguments. -/
structure RosterCall where
  epoch : UInt64
  keys : List ConsensusIdentity

/-- The module after a call, whether it succeeds or fails. -/
def recordRoster (module : VeraModule) (call : RosterCall) : VeraModule :=
  ((recordConsensusRoster call.epoch call.keys).run module).2

def rostersAfter (calls : List RosterCall) : VeraModule :=
  calls.foldl recordRoster VeraModule.new

def acceptsRoster (module : VeraModule) (call : RosterCall) : Bool :=
  match ((recordConsensusRoster call.epoch call.keys).run module).1 with
  | .ok () => true
  | .error _ => false

def RecordedIn (calls : List RosterCall) (epoch : UInt64) : Prop :=
  ∃ earlier call later, calls = earlier ++ call :: later ∧
    call.epoch = epoch ∧ acceptsRoster (rostersAfter earlier) call = true

theorem rostersAfter_snoc (calls : List RosterCall) (call : RosterCall) :
    rostersAfter (calls ++ [call]) = recordRoster (rostersAfter calls) call := by
  unfold rostersAfter
  rw [List.foldl_append]
  rfl

variable {epoch : UInt64}

theorem RecordedIn.snoc (recorded : RecordedIn calls epoch) (call : RosterCall) :
    RecordedIn (calls ++ [call]) epoch := by
  obtain ⟨earlier, made, later, rfl, rest⟩ := recorded
  refine ⟨earlier, made, later ++ [call], ?_, rest⟩
  rw [List.append_assoc, List.cons_append]

theorem RecordedIn.of_snoc (recorded : RecordedIn (calls ++ [call]) epoch) :
    RecordedIn calls epoch ∨
      call.epoch = epoch ∧ acceptsRoster (rostersAfter calls) call = true := by
  obtain ⟨earlier, made, later, split, isEpoch, accepted⟩ := recorded
  rcases List.eq_nil_or_concat later with rfl | ⟨rest, last, rfl⟩
  · have parts := List.append_inj' split rfl
    obtain ⟨rfl, sameCall⟩ := parts
    obtain rfl := (List.cons.inj sameCall).1
    exact .inr ⟨isEpoch, accepted⟩
  · have regrouped : calls ++ [call] = (earlier ++ made :: rest) ++ [last] := by
      rw [split, List.concat_eq_append, List.append_assoc, List.cons_append]
    have parts := List.append_inj' regrouped rfl
    exact .inl ⟨earlier, made, rest, parts.1, isEpoch, accepted⟩

/-- The window: retained epochs were recorded, none of the recorded ones is more
than two above them, and the latest recorded one is retained. -/
structure Window (calls : List RosterCall) : Prop where
  sound : RostersSound (rostersAfter calls)
  recorded : ∀ epoch,
    (consensusRoster epoch (rostersAfter calls)).isSome = true → RecordedIn calls epoch
  recent : ∀ epoch,
    (consensusRoster epoch (rostersAfter calls)).isSome = true →
      ∀ other, RecordedIn calls other → other.toNat ≤ epoch.toNat + 2
  latest : ∀ epoch, RecordedIn calls epoch →
    ∃ last, (consensusRoster last (rostersAfter calls)).isSome = true ∧
      ∀ other, RecordedIn calls other → other ≤ last

theorem recordRoster_recorded {module : VeraModule}
    (sound : RostersSound module) (call : RosterCall) :
    Recorded module call.epoch (rosterBytes call.keys)
      ((recordConsensusRoster call.epoch call.keys).run module).1 (recordRoster module call) :=
  recordConsensusRoster_wp sound call.keys

theorem recordedIn_snoc_iff :
    RecordedIn (calls ++ [call]) epoch ↔ RecordedIn calls epoch ∨
      call.epoch = epoch ∧ acceptsRoster (rostersAfter calls) call = true := by
  constructor
  · exact RecordedIn.of_snoc
  · rintro (recorded | ⟨isEpoch, accepted⟩)
    · exact recorded.snoc call
    · exact ⟨calls, call, [], rfl, isEpoch, accepted⟩

/-- A call that writes nothing and records no new epoch keeps the window. -/
theorem Window.of_same (window : Window calls)
    (same : rostersAfter (calls ++ [call]) = rostersAfter calls)
    (known : acceptsRoster (rostersAfter calls) call = true → RecordedIn calls call.epoch) :
    Window (calls ++ [call]) := by
  have recordedSame : ∀ epoch, RecordedIn (calls ++ [call]) epoch →
      RecordedIn calls epoch := by
    intro epoch recorded
    rcases recorded.of_snoc with before | ⟨rfl, accepted⟩
    · exact before
    · exact known accepted
  constructor
  · rw [same]
    exact window.sound
  · intro epoch retained
    rw [same] at retained
    exact (window.recorded epoch retained).snoc call
  · intro epoch retained other recorded
    rw [same] at retained
    exact window.recent epoch retained other (recordedSame other recorded)
  · intro epoch recorded
    rw [same]
    obtain ⟨last, retained, greatest⟩ := window.latest epoch (recordedSame epoch recorded)
    exact ⟨last, retained, fun other recordedOther =>
      greatest other (recordedSame other recordedOther)⟩

theorem Window.lt_of_newest (window : Window calls)
    (newest : ∀ other, (consensusRoster other (rostersAfter calls)).isSome = true → other < epoch)
    (recorded : RecordedIn calls other) : other < epoch := by
  obtain ⟨last, retained, greatest⟩ := window.latest other recorded
  exact UInt64.lt_of_le_of_lt (greatest other recorded) (newest last retained)

theorem Window.snoc (window : Window calls) (call : RosterCall) : Window (calls ++ [call]) := by
  have outcome := recordRoster_recorded window.sound call
  have after := rostersAfter_snoc calls call
  have accepts : acceptsRoster (rostersAfter calls) call =
      match ((recordConsensusRoster call.epoch call.keys).run (rostersAfter calls)).1 with
      | .ok () => true
      | .error _ => false := rfl
  rw [← after] at outcome
  generalize ((recordConsensusRoster call.epoch call.keys).run
    (rostersAfter calls)).1 = result at outcome accepts
  generalize same : rostersAfter (calls ++ [call]) = final at outcome
  cases outcome with
  | rejected failure =>
    apply window.of_same same
    intro accepted
    rw [accepts] at accepted
    cases accepted
  | repeated known =>
    apply window.of_same same
    intro _
    apply window.recorded call.epoch
    rw [known]
    rfl
  | written _ newest sound rosters =>
    have below : ∀ other, RecordedIn calls other → other < call.epoch := by
      intro other recorded
      exact window.lt_of_newest newest recorded
    have recordedNow : RecordedIn (calls ++ [call]) call.epoch :=
      recordedIn_snoc_iff.mpr (.inr ⟨rfl, accepts⟩)
    have greatest : ∀ other, RecordedIn (calls ++ [call]) other → other ≤ call.epoch := by
      intro other recorded
      rcases recorded.of_snoc with before | ⟨rfl, _⟩
      · exact UInt64.le_of_lt (below other before)
      · exact UInt64.le_refl _
    constructor
    · rw [same]
      exact sound
    · intro epoch retained
      rw [same, rosters] at retained
      split at retained
      · rename_i isEpoch
        rw [isEpoch]
        exact recordedNow
      · split at retained
        · cases retained
        · exact (window.recorded epoch retained).snoc call
    · intro epoch retained other recorded
      have atMost : other.toNat ≤ call.epoch.toNat :=
        UInt64.le_iff_toNat_le.mp (greatest other recorded)
      rw [same, rosters] at retained
      split at retained
      · rename_i isEpoch
        rw [isEpoch]
        omega
      · split at retained
        · cases retained
        · omega
    · intro _ _
      refine ⟨call.epoch, ?_, greatest⟩
      rw [same, rosters, if_pos rfl]
      rfl

theorem window_rostersAfter (calls : List RosterCall) : Window calls := by
  induction calls using List.reverseRecOn with
  | nil =>
    have nothing : ∀ epoch, ¬ RecordedIn [] epoch := by
      rintro epoch ⟨earlier, call, later, split, _⟩
      cases earlier <;> cases split
    constructor
    · constructor
      intro key value _ stored
      cases stored
    · intro epoch retained
      cases retained
    · intro epoch retained
      cases retained
    · intro epoch recorded
      exact absurd recorded (nothing epoch)
  | append_singleton calls call window => exact window.snoc call

theorem consensusRoster_snoc (found : consensusRoster epoch (rostersAfter calls) = some bytes)
    (call : RosterCall) :
    consensusRoster epoch (rostersAfter (calls ++ [call])) = some bytes ∨
      consensusRoster epoch (rostersAfter (calls ++ [call])) = none := by
  have outcome := recordRoster_recorded (window_rostersAfter calls).sound call
  rw [rostersAfter_snoc]
  generalize ((recordConsensusRoster call.epoch call.keys).run
    (rostersAfter calls)).1 = result at outcome
  generalize recordRoster (rostersAfter calls) call = final at outcome
  cases outcome with
  | rejected _ => exact .inl found
  | repeated _ => exact .inl found
  | written _ newest _ rosters =>
    have retained : (consensusRoster epoch (rostersAfter calls)).isSome = true := by
      rw [found]
      rfl
    have different : epoch ≠ call.epoch := UInt64.ne_of_lt (newest epoch retained)
    rw [rosters, if_neg different]
    split
    · exact .inr rfl
    · exact .inl found

theorem consensusRoster_absent_snoc {latest : UInt64} (recorded : RecordedIn calls latest)
    (passed : epoch ≤ latest) (absent : consensusRoster epoch (rostersAfter calls) = none)
    (call : RosterCall) : consensusRoster epoch (rostersAfter (calls ++ [call])) = none := by
  have window := window_rostersAfter calls
  have outcome := recordRoster_recorded window.sound call
  rw [rostersAfter_snoc]
  generalize ((recordConsensusRoster call.epoch call.keys).run
    (rostersAfter calls)).1 = result at outcome
  generalize recordRoster (rostersAfter calls) call = final at outcome
  cases outcome with
  | rejected _ => exact absent
  | repeated _ => exact absent
  | written _ newest _ rosters =>
    have below : latest < call.epoch := window.lt_of_newest newest recorded
    have different : epoch ≠ call.epoch := UInt64.ne_of_lt (UInt64.lt_of_le_of_lt passed below)
    rw [rosters, if_neg different, absent, ite_self]

theorem RecordedIn.append (recorded : RecordedIn calls epoch) (more : List RosterCall) :
    RecordedIn (calls ++ more) epoch := by
  obtain ⟨earlier, made, later, rfl, rest⟩ := recorded
  refine ⟨earlier, made, later ++ more, ?_, rest⟩
  rw [List.append_assoc, List.cons_append]

theorem consensusRoster_absent_append {latest : UInt64} (recorded : RecordedIn calls latest)
    (passed : epoch ≤ latest) (absent : consensusRoster epoch (rostersAfter calls) = none)
    (more : List RosterCall) : consensusRoster epoch (rostersAfter (calls ++ more)) = none := by
  induction more using List.reverseRecOn with
  | nil =>
    rw [List.append_nil]
    exact absent
  | append_singleton more call ih =>
    rw [← List.append_assoc]
    exact consensusRoster_absent_snoc (recorded.append more) passed ih call

theorem consensusRoster_append (found : consensusRoster epoch (rostersAfter calls) = some bytes)
    (more : List RosterCall) :
    consensusRoster epoch (rostersAfter (calls ++ more)) = some bytes ∨
      consensusRoster epoch (rostersAfter (calls ++ more)) = none := by
  have recorded : RecordedIn calls epoch := by
    apply (window_rostersAfter calls).recorded
    rw [found]
    rfl
  induction more using List.reverseRecOn with
  | nil =>
    rw [List.append_nil]
    exact .inl found
  | append_singleton more call ih =>
    rw [← List.append_assoc]
    rcases ih with kept | dropped
    · exact consensusRoster_snoc kept call
    · exact .inr (consensusRoster_absent_snoc (recorded.append more)
        (UInt64.le_refl epoch) dropped call)

theorem mem_latest_three {last : UInt64} (atMost : epoch ≤ last)
    (recent : last.toNat ≤ epoch.toNat + 2) :
    epoch ∈ [last, UInt64.ofNat (last.toNat - 1), UInt64.ofNat (last.toNat - 2)] := by
  have atMostNat := UInt64.le_iff_toNat_le.mp atMost
  have offsets : last.toNat = epoch.toNat ∨ last.toNat - 1 = epoch.toNat ∨
      last.toNat - 2 = epoch.toNat := by omega
  simp only [List.mem_cons, List.not_mem_nil, or_false]
  rcases offsets with same | same | same
  · exact .inl (UInt64.toNat_inj.mp same.symm)
  · rw [same, UInt64.ofNat_toNat]
    exact .inr (.inl rfl)
  · rw [same, UInt64.ofNat_toNat]
    exact .inr (.inr rfl)

theorem Window.length_scan_le (window : Window calls) :
    ((rostersAfter calls).scan rosterPrefix).length ≤ 3 := by
  by_cases empty : (rostersAfter calls).scan rosterPrefix = []
  · rw [empty]
    exact Nat.zero_le 3
  · obtain ⟨⟨_, _⟩, member⟩ := List.exists_mem_of_ne_nil _ empty
    obtain ⟨some₀, bytes₀, _, _, found₀⟩ := window.sound.mem_scan_iff.mp member
    have recorded₀ : RecordedIn calls some₀ := by
      apply window.recorded
      rw [found₀]
      rfl
    obtain ⟨last, retainedLast, greatest⟩ := window.latest some₀ recorded₀
    have recordedLast := window.recorded last retainedLast
    have distinct : (((rostersAfter calls).scan rosterPrefix).map Prod.fst).Nodup := by
      apply List.Pairwise.map Prod.fst _ (scan_sorted (rostersAfter calls) rosterPrefix)
      intro first second below
      exact ne_of_lt below
    have within : ((rostersAfter calls).scan rosterPrefix).map Prod.fst ⊆
        [last, UInt64.ofNat (last.toNat - 1), UInt64.ofNat (last.toNat - 2)].map rosterKey := by
      intro key inScan
      obtain ⟨⟨_, value⟩, scanned, rfl⟩ := List.mem_map.mp inScan
      obtain ⟨epoch, bytes, isKey, _, found⟩ := window.sound.mem_scan_iff.mp scanned
      have retained : (consensusRoster epoch (rostersAfter calls)).isSome = true := by
        rw [found]
        rfl
      apply List.mem_map.mpr
      exact ⟨epoch, mem_latest_three (greatest epoch (window.recorded epoch retained))
        (window.recent epoch retained last recordedLast), isKey.symm⟩
    have bound := (List.subperm_of_subset distinct within).length_le
    rw [List.length_map] at bound
    exact bound

/-- After any calls at most three rosters are retained, each recorded and within
two epochs of every recorded one; a retained roster keeps its bytes or is
dropped; and an epoch at or below a recorded one that is not retained is refused
by every later call. -/
theorem consensus_rosters_keep_their_window (calls : List RosterCall) :
    ((rostersAfter calls).scan rosterPrefix).length ≤ 3 ∧
    (∀ key value, (key, value) ∈ (rostersAfter calls).scan rosterPrefix →
      ∃ epoch bytes, key = rosterKey epoch ∧ value = .service bytes ∧
        consensusRoster epoch (rostersAfter calls) = some bytes) ∧
    (∀ epoch, (consensusRoster epoch (rostersAfter calls)).isSome = true →
      RecordedIn calls epoch ∧ ∀ latest, RecordedIn calls latest → latest.toNat ≤ epoch.toNat + 2) ∧
    (∀ epoch bytes,
      consensusRoster epoch (rostersAfter calls) = some bytes → ∀ more,
        consensusRoster epoch (rostersAfter (calls ++ more)) = some bytes ∨
        consensusRoster epoch (rostersAfter (calls ++ more)) = none) ∧
    ∀ epoch latest, RecordedIn calls latest → epoch ≤ latest →
      consensusRoster epoch (rostersAfter calls) = none → ∀ more keys,
        consensusRoster epoch (rostersAfter (calls ++ more)) = none ∧
        ∃ failure,
          (recordConsensusRoster epoch keys).run
            (rostersAfter (calls ++ more)) = (.error failure, rostersAfter (calls ++ more)) := by
  have window := window_rostersAfter calls
  refine ⟨window.length_scan_le, ?_, ?_, ?_, ?_⟩
  · intro key value member
    exact window.sound.mem_scan_iff.mp member
  · intro epoch retained
    exact ⟨window.recorded epoch retained, window.recent epoch retained⟩
  · intro epoch bytes found more
    exact consensusRoster_append found more
  · intro epoch latest recorded passed absent more keys
    have stillAbsent := consensusRoster_absent_append recorded passed absent more
    have laterWindow := window_rostersAfter (calls ++ more)
    obtain ⟨last, retained, greatest⟩ := laterWindow.latest latest (recorded.append more)
    have above : epoch ≤ last := UInt64.le_trans passed (greatest latest (recorded.append more))
    exact ⟨stillAbsent, recordConsensusRoster_refused laterWindow.sound
      retained above stillAbsent keys⟩

/-- An epoch that was skipped is refused and one that repeats is accepted. -/
example :
    let key : ConsensusIdentity := ⟨List.replicate 32 7, by decide⟩
    let calls : List RosterCall := [⟨1, [key]⟩, ⟨4, [key]⟩, ⟨5, [key]⟩]
    [acceptsRoster (rostersAfter calls) ⟨3, [key]⟩, acceptsRoster (rostersAfter calls) ⟨4, [key]⟩,
      acceptsRoster (rostersAfter calls) ⟨1, [key]⟩] = [false, true, false] := by
  decide +kernel

end VeraModule

end VeraHub.Vera
