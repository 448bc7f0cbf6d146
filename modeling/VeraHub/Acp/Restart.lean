import VeraHub.Acp.Policies

/-!
# Restarting a module

A restarted module has the cache that its stored policies decode to.  It is the
cache of the module that kept running, unless a policy nests deeper than the
decoder reads.
-/

namespace VeraHub.Acp

open VeraHub.Zanzibar

def ReadablePolicy (policy : Policy) : Prop :=
  1 + max (policyNesting policy) 2 ≤ jsonLimit

instance (policy : Policy) : Decidable (ReadablePolicy policy) :=
  inferInstanceAs (Decidable (_ ≤ _))

variable {record : PolicyRecord}

namespace AcpModule

/-! ## Rebuilding the cache -/

/-- Cache a stored policy, unless it cannot be decoded. -/
def cacheStored (policies : OrderedMap Bytes Policy)
    (entry : Bytes × StoredValue) : OrderedMap Bytes Policy :=
  match entry.2.decodePolicy with
  | .ok record => policies.insert (utf8 record.policy.id) record.policy
  | .error _ => policies

/-- Reconstruct from a deserialized store, rebuilding the policy cache. -/
def fromStore (store : KvStore StoredValue) : AcpModule where
  store := store
  zanzibarPolicies := (store.prefixScan policyPrefix).foldl cacheStored OrderedMap.empty

section Rebuild

variable {externals : Externals} {module : AcpModule}

theorem decodePolicy_policy (readable : ReadablePolicy record.policy) :
    (StoredValue.policy record).decodePolicy = .ok record :=
  if_pos readable

theorem decodePolicy_readable {value : StoredValue} (decoded : value.decodePolicy = .ok record) :
    ReadablePolicy record.policy := by
  rw [decodePolicy_ok decoded] at decoded
  by_contra unreadable
  have failed : (StoredValue.policy record).decodePolicy =
      .error "recursion limit exceeded" := if_neg unreadable
  rw [failed] at decoded
  cases decoded

def Decodes (entries : List (Bytes × StoredValue)) (key : Bytes) : Prop :=
  ∃ entry ∈ entries, ∃ record, entry.2.decodePolicy = .ok record ∧ utf8 record.policy.id = key

/-- Entries that agree with a table rebuild the part of it they decode to. -/
theorem foldl_cacheStored_get {entries : List (Bytes × StoredValue)}
    {table : Bytes → Option Policy} (policies : OrderedMap Bytes Policy)
    (agrees : ∀ entry ∈ entries, ∀ record,
      entry.2.decodePolicy = .ok record →
        table (utf8 record.policy.id) = some record.policy) (key : Bytes) :
    (Decodes entries key → (entries.foldl cacheStored policies).get key = table key) ∧
      (¬ Decodes entries key →
        (entries.foldl cacheStored policies).get key = policies.get key) := by
  induction entries generalizing policies with
  | nil =>
    refine ⟨fun decodes => ?_, fun _ => rfl⟩
    obtain ⟨entry, member, _⟩ := decodes
    cases member
  | cons entry rest ih =>
    have restAgrees : ∀ other ∈ rest, ∀ record,
        other.2.decodePolicy = .ok record → table (utf8 record.policy.id) = some record.policy :=
      fun other member => agrees other (List.mem_cons_of_mem entry member)
    obtain ⟨found, missing⟩ := ih (cacheStored policies entry) restAgrees
    constructor
    · intro decodes
      by_cases later : Decodes rest key
      · exact found later
      · -- Only the first entry decodes to this key.
        rw [List.foldl_cons, missing later]
        obtain ⟨other, member, record, decoded, named⟩ := decodes
        rcases List.mem_cons.mp member with isFirst | inRest
        · rw [isFirst] at decoded
          unfold cacheStored
          simp only [decoded]
          rw [named, OrderedMap.get_insert_self, ← named]
          exact (agrees entry List.mem_cons_self record decoded).symm
        · exact (later ⟨other, inRest, record, decoded, named⟩).elim
    · intro undecoded
      have notLater : ¬ Decodes rest key := by
        intro later
        obtain ⟨other, member, decodes⟩ := later
        exact undecoded ⟨other, List.mem_cons_of_mem entry member, decodes⟩
      rw [List.foldl_cons, missing notLater]
      unfold cacheStored
      cases decoded : entry.2.decodePolicy with
      | error message => rfl
      | ok record =>
        have different : key ≠ utf8 record.policy.id := by
          intro same
          exact undecoded ⟨entry, List.mem_cons_self, record, decoded, same.symm⟩
        exact OrderedMap.get_insert_of_ne _ _ different

variable (sound : PoliciesSound externals module)

include sound

theorem PoliciesSound.of_decoded {entry : Bytes × StoredValue}
    (member : entry ∈ module.store.prefixScan policyPrefix)
    (decoded : entry.2.decodePolicy = .ok record) :
    module.cached record.policy.id = some record.policy := by
  obtain ⟨inFamily, stored⟩ := OrderedMap.mem_prefixScan_iff.mp member
  obtain ⟨other, isPolicy, _, cachedHere, _⟩ := sound.stored entry.1 entry.2 inFamily stored
  rw [decodePolicy_ok decoded] at isPolicy
  cases isPolicy
  exact cachedHere

/-- A cached policy decodes from the store exactly when it is readable. -/
theorem PoliciesSound.decodes_iff {key : Bytes} {policy : Policy}
    (found : module.zanzibarPolicies.get key = some policy) :
    Decodes (module.store.prefixScan policyPrefix) key ↔
      ReadablePolicy policy := by
  have named := sound.named key policy found
  rw [named] at found
  constructor
  · intro decodes
    obtain ⟨entry, member, record, decoded, sameKey⟩ := decodes
    have cachedHere := sound.of_decoded member decoded
    unfold AcpModule.cached at cachedHere
    rw [sameKey, named, found] at cachedHere
    cases cachedHere
    exact decodePolicy_readable decoded
  · intro readable
    obtain ⟨_, _, _, record, stored, samePolicy⟩ := sound.cached policy.id policy found
    refine ⟨(policyKey policy.id, .policy record), ?_, record, ?_, ?_⟩
    · exact OrderedMap.mem_prefixScan_iff.mpr ⟨policyKey_inFamily policy.id, stored⟩
    · exact decodePolicy_policy (samePolicy ▸ readable)
    · rw [samePolicy, named]

/-- A restarted module is the same exactly when every policy is readable. -/
theorem PoliciesSound.fromStore_eq_iff :
    fromStore module.store = module ↔
      ∀ id policy, module.cached id = some policy → ReadablePolicy policy := by
  have rebuilt := foldl_cacheStored_get OrderedMap.empty
    (fun entry member record decoded => sound.of_decoded member decoded)
  constructor
  · intro same id policy found
    by_contra unreadable
    have undecoded := mt (sound.decodes_iff found).mp unreadable
    have lost := (rebuilt (utf8 id)).2 undecoded
    have kept : (fromStore module.store).zanzibarPolicies.get (utf8 id) =
        some policy := by
      rw [same]
      exact found
    rw [show (fromStore module.store).zanzibarPolicies.get (utf8 id) = none from lost] at kept
    cases kept
  · intro readable
    have samePolicies : (fromStore module.store).zanzibarPolicies =
          module.zanzibarPolicies := by
      refine OrderedMap.ext_get fun key => ?_
      by_cases decodes : Decodes (module.store.prefixScan policyPrefix) key
      · exact (rebuilt key).1 decodes
      · refine ((rebuilt key).2 decodes).trans ?_
        cases found : module.zanzibarPolicies.get key with
        | none => rfl
        | some policy =>
          have named := sound.named key policy found
          rw [named] at found
          have readableHere := readable policy.id policy found
          rw [← named] at found
          exact (decodes ((sound.decodes_iff found).mpr readableHere)).elim
    change AcpModule.mk module.store (fromStore module.store).zanzibarPolicies = module
    rw [samePolicies]

end Rebuild

/-! ## Runs with readable policies -/

section Runs

variable (externals : Externals)

/-- A submitted definition compiles to a readable policy, if it compiles. -/
def Definition.Readable (module : AcpModule) (definition : Definition) :
    Prop :=
  match definition.replaced with
  | none =>
    ∀ counter policy,
      compilePolicy externals definition.policy definition.marshalType counter none = .ok policy →
        ReadablePolicy policy
  | some policyId =>
    ∀ existing policy,
      getPolicyRecord policyId module = .ok (some existing) →
        compilePolicy externals definition.policy definition.marshalType 0
            (some existing.policy.specification) = .ok policy → ReadablePolicy policy

/-- Every policy that a run creates or edits is readable. -/
def ReadableRun : AcpModule → List AcpCall → Prop
  | _, [] => True
  | module, call :: rest =>
    (∀ definition ∈ call.definition, Definition.Readable externals module definition) ∧
      ReadableRun (perform externals module call) rest

variable {externals} {module final : AcpModule}

def PoliciesReadable (module : AcpModule) : Prop :=
  ∀ id policy, module.cached id = some policy → ReadablePolicy policy

theorem PoliciesReadable.of_cache (readable : PoliciesReadable module)
    (same : final.zanzibarPolicies = module.zanzibarPolicies) :
    PoliciesReadable final := by
  intro id policy found
  apply readable id policy
  unfold AcpModule.cached at found ⊢
  rw [← same]
  exact found

theorem PoliciesReadable.withPolicy (readable : PoliciesReadable module)
    {policyId : String} (recordReadable : ReadablePolicy record.policy) :
    PoliciesReadable (withPolicy policyId record module) := by
  intro id policy found
  rw [withPolicy_cached] at found
  by_cases here : id = policyId
  · rw [if_pos here] at found
    cases found
    exact recordReadable
  · rw [if_neg here] at found
    exact readable id policy found

theorem Change.policiesReadable {request : Request} (change : Change externals request module final)
    (defined : ∀ definition ∈ request.definition, Definition.Readable externals module definition)
    (readable : PoliciesReadable module) : PoliciesReadable final := by
  cases change with
  | kept => exact readable
  | @policyCreated policy marshalType metadata counter compiled named counted accepted fresh =>
    have counting : PoliciesReadable (module.withStored policyCounterKey (.counter counter)) :=
      readable.of_cache rfl
    exact counting.withPolicy (defined _ named counter compiled accepted)
  | @policyEdited policyId policy marshalType existing compiled orphans named
      found accepted complete selected =>
      have pruned := readable.of_cache (pruned_within module selected).cache
      have compiledReadable : ReadablePolicy compiled :=
        defined _ named existing compiled found accepted
      exact pruned.withPolicy compiledReadable
  | decided identified bounded => exact readable.of_cache rfl
  | paramsSet => exact readable.of_cache rfl
  | commanded submits validated dated applied =>
    exact readable.of_cache applied.within.cache
  | expired chain => exact readable.of_cache chain.within.cache

theorem Definition.Readable.operations {definition : Definition}
    (readable : Definition.Readable externals module definition)
    (only : OperationsOnly module final) :
    Definition.Readable externals final definition := by
  unfold Definition.Readable at readable ⊢
  cases replaced : definition.replaced with
  | none =>
    simp only [replaced] at readable
    exact readable
  | some policyId =>
    simp only [replaced] at readable
    intro existing policy found
    rw [getPolicyRecord_congr (only.within.get (policyKey_inFamily policyId) (by decide))] at found
    exact readable existing policy found

theorem perform_policiesReadable (call : AcpCall)
    (defined : ∀ definition ∈ call.definition, Definition.Readable externals module definition)
    (readable : PoliciesReadable module) :
    PoliciesReadable (perform externals module call) := by
  have effect := perform_effect externals module call
  obtain ⟨before, after, first, change, last⟩ := effect.exists_change
  have readableAfter := change.policiesReadable
    (fun definition member => (defined definition member).operations first)
    (readable.of_cache first.within.cache)
  exact readableAfter.of_cache last.within.cache

theorem ReadableRun.policiesReadable {calls : List AcpCall}
    (run : ReadableRun externals module calls) (readable : PoliciesReadable module) :
    PoliciesReadable (performAll externals module calls) := by
  induction calls generalizing module with
  | nil => exact readable
  | cons call rest ih =>
    obtain ⟨defined, further⟩ := run
    exact ih further (perform_policiesReadable call defined readable)

end Runs

/-- In every reachable state, restarting rebuilds the same module exactly when
every policy is readable; so it does along every run whose definitions are. -/
theorem restarted_module_same_iff (externals : Externals) (calls : List AcpCall) :
    (fromStore (performAll externals AcpModule.new calls).store =
        performAll externals AcpModule.new calls ↔
      PoliciesReadable (performAll externals AcpModule.new calls)) ∧
    (ReadableRun externals AcpModule.new calls →
      fromStore (performAll externals AcpModule.new calls).store =
        performAll externals AcpModule.new calls) := by
  have sound := performAll_policiesSound calls
    (PoliciesSound.new : PoliciesSound externals AcpModule.new)
  have restarted := sound.fromStore_eq_iff
  refine ⟨restarted, fun run => restarted.mpr ?_⟩
  apply run.policiesReadable
  intro id policy found
  cases found

/-! ### A policy with a long exclusion -/

/-- Eighty terms, each excluded from what precedes it. -/
def exclusionTerms : String :=
  "r-r-r-r-r-r-r-r-r-r-r-r-r-r-r-r-r-r-r-r-r-r-r-r-r-r-" ++
    "r-r-r-r-r-r-r-r-r-r-r-r-r-r-r-r-r-r-r-r-r-r-r-r-r-r-" ++
    "r-r-r-r-r-r-r-r-r-r-r-r-r-r-r-r-r-r-r-r-r-r-r-r-r-r-" ++ "r-r"

def exclusionText (terms : String) : String :=
  "name: deep\nresources:\n  - name: f\n    relations:\n      - name: r\n" ++
    "    permissions:\n      - name: p\n        expr: " ++ terms ++ "\n"

def exclusionParsed (terms : String) : ParsedPolicy where
  name := "deep"
  description := ""
  spec := .none
  metadata := []
  actorRelations := []
  resources := [⟨"f", "", [⟨"p", "", terms⟩], [⟨"r", "", [], []⟩]⟩]

def exclusionFields : Bytes :=
  [77, 8, 217, 235, 157, 41, 186, 220, 245, 193, 145, 150, 252, 58, 1, 100,
    157, 18, 98, 74, 1, 67, 27, 156, 104, 160, 145, 99, 142, 239, 182, 7]

def plainFields : Bytes :=
  [136, 205, 201, 37, 209, 206, 28, 45, 233, 151, 95, 8, 214, 101, 39, 84, 66,
    3, 106, 128, 99, 187, 53, 4, 32, 102, 34, 208, 221, 245, 221, 226]

def exclusionExternals : Externals where
  hashing :=
    { subjectJson := fun _ => []
      sha256 := fun input =>
        if input = utf8 ("deepfrp" ++ exclusionTerms) then exclusionFields
        else if input = utf8 "deepfrpr" then plainFields
        else if input = exclusionFields ++ utf8 "1" then
          [44, 176, 203, 9, 214, 232, 88, 45, 164, 133, 70, 69, 46, 25, 157,
            189, 152, 160, 38, 61, 204, 79, 110, 250, 121, 32, 36, 84, 114, 77, 185, 106]
        else
          [3, 139, 82, 29, 68, 250, 185, 212, 4, 161, 128, 103, 198, 132, 52,
            12, 51, 99, 72, 113, 239, 162, 91, 23, 108, 230, 116, 252, 173, 150, 121, 61] }
  parsePolicyYaml text :=
    if text = exclusionText exclusionTerms then
      .ok (exclusionParsed exclusionTerms)
    else if text = exclusionText "r" then .ok (exclusionParsed "r")
    else .error "invalid policy YAML"
  parsePolicyJson _ := .error "expected value at line 1 column 1"
  encodedLength _ := 1024
  policyJson _ := []
  canonicalIssuer text := .ok text

def exclusionOwner : Did :=
  ⟨"did:key:alice", Did.supported_alice⟩

def exclusionCalls (terms : String) : List AcpCall :=
  [.createPolicy exclusionOwner (exclusionText terms) .shortYaml]

/-- The policy with the long exclusion is created, and lost by a restart. -/
theorem long_exclusion_lost_by_restart :
    ∃ id,
      ((performAll exclusionExternals AcpModule.new
          (exclusionCalls exclusionTerms)).cached id).isSome = true ∧
        ((fromStore (performAll exclusionExternals AcpModule.new
          (exclusionCalls exclusionTerms)).store).cached id).isSome =
            false := by
  exact ⟨"2cb0cb09d6e8582da48546452e199dbd98a0263dcc4f6efa79202454724db96a",
    by decide +kernel⟩

theorem exclusionExternals_parse {parsed : ParsedPolicy}
    (read : parsePolicy exclusionExternals (exclusionText "r") .shortYaml =
      .ok parsed) : parsed = exclusionParsed "r" := by
  have known : parsePolicy exclusionExternals (exclusionText "r") .shortYaml =
      .ok (exclusionParsed "r") := by
    decide +kernel
  rw [known] at read
  exact (Except.ok.inj read).symm

/-- The same policy without the exclusion survives a restart. -/
theorem plain_policy_survives_restart :
    ReadableRun exclusionExternals AcpModule.new (exclusionCalls "r") ∧
      fromStore (performAll exclusionExternals AcpModule.new (exclusionCalls "r")).store =
        performAll exclusionExternals AcpModule.new (exclusionCalls "r") := by
  have run : ReadableRun exclusionExternals AcpModule.new (exclusionCalls "r") := by
    refine ⟨?_, trivial⟩
    intro definition member
    cases member
    intro counter policy accepted
    obtain ⟨_, parsed, read, _, made, _⟩ := compilePolicy_ok accepted
    rw [exclusionExternals_parse read] at made
    have readable : (assemblePolicy "" (exclusionParsed "r")).toOption.all
        (fun renamed => decide (ReadablePolicy renamed)) = true := by
      decide +kernel
    have renamed : assemblePolicy "" (exclusionParsed "r") =
        .ok { policy with id := "" } := assemblePolicy_rename made ""
    rw [renamed] at readable
    exact of_decide_eq_true readable
  exact ⟨run, (restarted_module_same_iff exclusionExternals (exclusionCalls "r")).2 run⟩

end AcpModule

end VeraHub.Acp
