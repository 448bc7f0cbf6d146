import Mathlib

/-!
# Fallible computations over a state that survives failure

`Exec σ ε α` runs from a state to a result and a state.  Unlike a plain
`StateT σ (Except ε)`, the state reached by a failing computation is still
visible, which is what a mutable receiver or a shared handle gives a program
whose operations return a result value.

The second half is a small calculus: `Spec` states what holds after success
and after failure, and `Simulates` compares a computation with one that
succeeds whenever the first does.
-/

namespace VeraHub

/-! ## Results -/

section Results

variable {ε α β : Type} {next : α → Except ε β} {first : Except ε α}

/-- A sequence succeeds when its first step does and the rest after it. -/
theorem exceptBind_ok {result : β} (succeeded : first >>= next = .ok result) :
    ∃ value, first = .ok value ∧ next value = .ok result := by
  cases first with
  | error failure => cases succeeded
  | ok value => exact ⟨value, rfl, succeeded⟩

variable {value : α}

theorem exceptBind_of_ok (succeeded : first = .ok value) : first >>= next = next value := by
  rw [succeeded]
  rfl

theorem ifError_ok {condition : Prop} [Decidable condition] {failure : ε} {rest : Except ε α}
    (succeeded : (if condition then .error failure else rest) = .ok value) :
    ¬ condition ∧ rest = .ok value := by
  split at succeeded
  · cases succeeded
  · exact ⟨by assumption, succeeded⟩

theorem mapError_ok {result : Except ε α} {translate : ε → β}
    (succeeded : result.mapError translate = .ok value) : result = .ok value := by
  cases result with
  | error failure => cases succeeded
  | ok found =>
    cases succeeded
    rfl

variable {items : List α} {step : α → Except ε β}

theorem mem_of_mapM_ok {results : List β} (built : items.mapM step = .ok results) :
    ∀ result ∈ results, ∃ item ∈ items, step item = .ok result := by
  induction items generalizing results with
  | nil =>
    cases built
    intro result member
    cases member
  | cons item rest ih =>
    rw [List.mapM_cons] at built
    obtain ⟨value, first, remaining⟩ := exceptBind_ok built
    obtain ⟨values, others, listed⟩ := exceptBind_ok remaining
    cases listed
    intro result member
    rcases List.mem_cons.mp member with atHead | inTail
    · exact ⟨item, List.mem_cons_self, atHead ▸ first⟩
    · obtain ⟨source, inRest, same⟩ := ih others result inTail
      exact ⟨source, List.mem_cons_of_mem item inRest, same⟩

theorem exists_of_mapM_ok {results : List β} (built : items.mapM step = .ok results) :
    ∀ item ∈ items, ∃ result ∈ results, step item = .ok result := by
  induction items generalizing results with
  | nil =>
    intro item member
    cases member
  | cons first rest ih =>
    rw [List.mapM_cons] at built
    obtain ⟨value, done, remaining⟩ := exceptBind_ok built
    obtain ⟨values, others, listed⟩ := exceptBind_ok remaining
    cases listed
    intro item member
    rcases List.mem_cons.mp member with atHead | inTail
    · exact ⟨value, List.mem_cons_self, atHead ▸ done⟩
    · obtain ⟨result, inRest, same⟩ := ih others item inTail
      exact ⟨result, List.mem_cons_of_mem value inRest, same⟩

theorem forM_ok_iff {check : α → Except ε Unit} :
    items.forM check = .ok () ↔ ∀ item ∈ items, check item = .ok () := by
  induction items with
  | nil => exact ⟨fun _ _ member => (nomatch member), fun _ => rfl⟩
  | cons item rest ih =>
    change (check item >>= fun _ => rest.forM check) = .ok () ↔ _
    rw [List.forall_mem_cons, ← ih]
    constructor
    · intro passed
      obtain ⟨_, first, others⟩ := exceptBind_ok passed
      exact ⟨first, others⟩
    · intro passed
      rw [passed.1]
      exact passed.2

end Results

/-- A computation that reads and updates a state and may fail with an error. -/
def Exec (σ ε α : Type) : Type :=
  σ → Except ε α × σ

variable {condition : Prop}

namespace Exec

variable {σ τ ε α β : Type}

def run (computation : Exec σ ε α) (state : σ) : Except ε α × σ :=
  computation state

/-- Continue after a success and stop at the first failure. -/
def bind (first : Exec σ ε α) (next : α → Exec σ ε β) : Exec σ ε β :=
  fun state =>
    match first state with
    | (.ok value, middle) => next value middle
    | (.error failure, middle) => (.error failure, middle)

instance : Monad (Exec σ ε) where
  pure value := fun state => (.ok value, state)
  bind := Exec.bind

def fail (failure : ε) : Exec σ ε α :=
  fun state => (.error failure, state)

def gets (project : σ → α) : Exec σ ε α :=
  fun state => (.ok (project state), state)

def modify (update : σ → σ) : Exec σ ε Unit :=
  fun state => (.ok (), update state)

/-- Propagate a result that does not depend on the state. -/
def ofExcept (result : Except ε α) : Exec σ ε α :=
  fun state => (result, state)

def query (read : σ → Except ε α) : Exec σ ε α :=
  fun state => (read state, state)

def failIf (condition : Prop) [Decidable condition] (failure : ε) :
    Exec σ ε Unit :=
  fun state =>
    if condition then (.error failure, state) else (.ok (), state)

def restoring (body : Exec σ ε α) : Exec σ ε α :=
  fun state =>
    match body state with
    | (.ok value, final) => (.ok value, final)
    | (.error failure, _) => (.error failure, state)

/-- Run a computation on a part of the state, translating its errors. -/
def within {δ : Type} (part : τ → σ) (replace : τ → σ → τ) (translate : ε → δ)
    (body : Exec σ ε α) : Exec τ δ α :=
  fun state =>
    match body (part state) with
    | (.ok value, inner) => (.ok value, replace state inner)
    | (.error failure, inner) =>
      (.error (translate failure), replace state inner)

@[simp]
theorem run_pure (value : α) (state : σ) :
    (pure value : Exec σ ε α).run state = (.ok value, state) :=
  rfl

@[simp]
theorem run_gets (project : σ → α) (state : σ) :
    (gets project : Exec σ ε α).run state = (.ok (project state), state) :=
  rfl

@[simp]
theorem run_modify (update : σ → σ) (state : σ) :
    (modify update : Exec σ ε Unit).run state = (.ok (), update state) :=
  rfl

@[simp]
theorem run_ofExcept (result : Except ε α) (state : σ) :
    (ofExcept result : Exec σ ε α).run state = (result, state) :=
  rfl

@[simp]
theorem run_query (read : σ → Except ε α) (state : σ) :
    (query read).run state = (read state, state) :=
  rfl

@[simp]
theorem run_failIf (condition : Prop) [Decidable condition] (failure : ε) (state : σ) :
    (failIf condition failure : Exec σ ε Unit).run state =
      if condition then (.error failure, state) else (.ok (), state) :=
  rfl

theorem run_bind (first : Exec σ ε α) (next : α → Exec σ ε β) (state : σ) :
    (first >>= next).run state =
      match first.run state with
      | (.ok value, middle) => (next value).run middle
      | (.error failure, middle) => (.error failure, middle) :=
  rfl

variable {first : Exec σ ε α} {next : α → Exec σ ε β} {state : σ} {value : α}

theorem run_bind_of_ok {middle : σ} (success : first.run state = (.ok value, middle)) :
    (first >>= next).run state = (next value).run middle := by
  rw [run_bind, success]

variable {read : σ → Except ε α}

theorem run_query_bind (state : σ) (answer : read state = .ok value) :
    (query read >>= next).run state = (next value).run state := by
  apply run_bind_of_ok
  rw [run_query, answer]

variable {result : Except ε α}

theorem run_ofExcept_bind (answer : result = .ok value) :
    (ofExcept result >>= next).run state = (next value).run state := by
  apply run_bind_of_ok
  rw [run_ofExcept, answer]

variable {failure : ε}

theorem run_failIf_bind [Decidable condition] {next : Unit → Exec σ ε β} (passed : ¬ condition) :
    (failIf condition failure >>= next).run state = (next ()).run state := by
  apply run_bind_of_ok
  rw [run_failIf, if_neg passed]

/-- A successful sequence is a successful first part followed by a successful
second part. -/
theorem run_bind_ok {final : σ} {result : β}
    (success : (first >>= next).run state = (.ok result, final)) :
    ∃ value middle,
      first.run state = (.ok value, middle) ∧ (next value).run middle = (.ok result, final) := by
  rw [run_bind] at success
  match outcome : first.run state, success with
  | (.ok value, middle), success => exact ⟨value, middle, rfl, success⟩

theorem run_failIf_bind_ok [Decidable condition] {next : Unit → Exec σ ε β} {final : σ} {result : β}
    (success : (failIf condition failure >>= next).run state = (.ok result, final)) :
    ¬ condition ∧ (next ()).run state = (.ok result, final) := by
  by_cases holds : condition
  · rw [run_bind, run_failIf, if_pos holds] at success
    cases success
  · rw [run_failIf_bind holds] at success
    exact ⟨holds, success⟩

/-! ## Preconditions and postconditions -/

/-- From a state satisfying `before`, success establishes `after` and failure
establishes `broken`. -/
def Spec (before : σ → Prop) (computation : Exec σ ε α)
    (after : α → σ → Prop) (broken : ε → σ → Prop) : Prop :=
  ∀ state, before state →
    match computation.run state with
    | (.ok value, final) => after value final
    | (.error failure, final) => broken failure final

namespace Spec

variable {before middle : σ → Prop} {after : α → σ → Prop} {later : β → σ → Prop}
  {broken : ε → σ → Prop} {computation : Exec σ ε α}

theorem ok (triple : Spec before computation after broken) {final : σ} (start : before state)
    (success : computation.run state = (.ok value, final)) : after value final := by
  have outcome := triple state start
  rw [success] at outcome
  exact outcome

/-- A postcondition common to success and failure holds of the final state. -/
theorem final {common : σ → Prop}
    (triple : Spec before computation (fun _ state => common state) (fun _ state => common state))
    (start : before state) : common (computation.run state).2 := by
  have outcome := triple state start
  match computation.run state, outcome with
  | (.ok _, _), reached => exact reached
  | (.error _, _), reached => exact reached

theorem weaken {before' : σ → Prop} {after' : α → σ → Prop} {broken' : ε → σ → Prop}
    (triple : Spec before computation after broken)
    (strengthen : ∀ state, before' state → before state)
    (success : ∀ value state, after value state → after' value state)
    (failure : ∀ error state, broken error state → broken' error state) :
    Spec before' computation after' broken' := by
  intro state start
  have outcome := triple state (strengthen state start)
  match computation.run state, outcome with
  | (.ok value, final), reached => exact success value final reached
  | (.error error, final), reached => exact failure error final reached

theorem pure (holds : ∀ state, before state → after value state) :
    Spec before (Pure.pure value : Exec σ ε α) after broken :=
  fun state start => holds state start

theorem fail (holds : ∀ state, before state → broken failure state) :
    Spec before (Exec.fail failure : Exec σ ε α) after broken :=
  fun state start => holds state start

theorem modify {update : σ → σ} {later : Unit → σ → Prop}
    (holds : ∀ state, before state → later () (update state)) :
    Spec before (Exec.modify update : Exec σ ε Unit) later broken :=
  fun state start => holds state start

theorem ofExcept (success : ∀ value, result = .ok value → ∀ state, before state → after value state)
    (failure : ∀ error, result = .error error → ∀ state, before state → broken error state) :
    Spec before (Exec.ofExcept result : Exec σ ε α) after broken := by
  intro state start
  cases result with
  | ok value => exact success value rfl state start
  | error error => exact failure error rfl state start

theorem bind (firstTriple : Spec before first after broken)
    (nextTriple : ∀ value, Spec (after value) (next value) later broken) :
    Spec before (first >>= next) later broken := by
  intro state start
  have outcome := firstTriple state start
  rw [run_bind]
  match first.run state, outcome with
  | (.ok value, reached), holds => exact nextTriple value reached holds
  | (.error failure, reached), holds => exact holds

end Spec

/-! ## Weakest preconditions -/

/-- `post` holds of the result and of the state that is left. -/
def Wp (computation : Exec σ ε α) (post : Except ε α → σ → Prop) (state : σ) : Prop :=
  post (computation.run state).1 (computation.run state).2

namespace Wp

variable {state : σ} {post : Except ε α → σ → Prop}
  {later : Except ε β → σ → Prop} {next : α → Exec σ ε β} {unitNext : Unit → Exec σ ε β}

theorem pure (holds : post (.ok value) state) : Wp (Pure.pure value : Exec σ ε α) post state :=
  holds

theorem fail (holds : post (.error failure) state) :
    Wp (Exec.fail failure : Exec σ ε α) post state :=
  holds

theorem bind
    (holds : Wp first (fun result middle =>
        match result with
        | .ok value => Wp (next value) later middle
        | .error failure => later (.error failure) middle) state) :
    Wp (first >>= next) later state := by
  unfold Wp at holds ⊢
  rw [run_bind]
  match first.run state, holds with
  | (.ok value, middle), continued => exact continued
  | (.error failure, middle), stopped => exact stopped

theorem step {first : Exec σ ε α}
    (failed : ∀ failure middle, first.run state = (.error failure, middle) →
      later (.error failure) middle)
    (continued : ∀ value middle, first.run state = (.ok value, middle) →
      Wp (next value) later middle) :
    Wp (first >>= next) later state := by
  apply bind
  unfold Wp
  match outcome : first.run state with
  | (.ok value, middle) => exact continued value middle outcome
  | (.error failure, middle) => exact failed failure middle outcome

theorem query (failed : ∀ failure, read state = .error failure → later (.error failure) state)
    (continued : ∀ value, read state = .ok value → Wp (next value) later state) :
    Wp (Exec.query read >>= next) later state := by
  apply bind
  unfold Wp
  rw [run_query]
  cases answer : read state with
  | error failure => exact failed failure answer
  | ok value => exact continued value answer

theorem ofExcept (failed : ∀ failure, result = .error failure → later (.error failure) state)
    (continued : ∀ value, result = .ok value → Wp (next value) later state) :
    Wp (Exec.ofExcept result >>= next) later state := by
  change Wp (Exec.query (fun _ => result) >>= next) later state
  exact query failed continued

theorem failIf [Decidable condition] (failed : condition → later (.error failure) state)
    (continued : ¬ condition → Wp (unitNext ()) later state) :
    Wp (Exec.failIf condition failure >>= unitNext) later state := by
  apply bind
  unfold Wp
  rw [run_failIf]
  by_cases holds : condition
  · rw [if_pos holds]
    exact failed holds
  · rw [if_neg holds]
    exact continued holds

theorem gets {project : σ → α} (continued : Wp (next (project state)) later state) :
    Wp (Exec.gets project >>= next) later state :=
  bind continued

theorem modify {update : σ → σ} (continued : Wp (unitNext ()) later (update state)) :
    Wp (Exec.modify update >>= unitNext) later state :=
  bind continued

theorem within {δ : Type} {part : τ → σ} {replace : τ → σ → τ}
    {translate : ε → δ} {body : Exec σ ε α} {whole : τ} {outer : Except δ α → τ → Prop}
    (holds : Wp body (fun result inner => outer (match result with
          | .ok value => .ok value
          | .error failure => .error (translate failure))
        (replace whole inner)) (part whole)) :
    Wp (Exec.within part replace translate body) outer whole := by
  unfold Wp at holds ⊢
  unfold Exec.within Exec.run at *
  match outcome : body (part whole), holds with
  | (.ok value, inner), holds => simpa [outcome] using holds
  | (.error failure, inner), holds => simpa [outcome] using holds

theorem restoring {body : Exec σ ε α} (holds : Wp body (fun result final =>
        match result with
        | .ok value => post (.ok value) final
        | .error failure => post (.error failure) state) state) :
    Wp (Exec.restoring body) post state := by
  unfold Wp at holds ⊢
  unfold Exec.restoring Exec.run at *
  match outcome : body state, holds with
  | (.ok value, final), succeeded => simpa [outcome] using succeeded
  | (.error failure, final), failed => simpa [outcome] using failed

theorem weaken {computation : Exec σ ε α} {stronger : Except ε α → σ → Prop}
    (holds : Wp computation stronger state)
    (implied : ∀ result final, stronger result final → post result final) :
    Wp computation post state :=
  implied _ _ holds

end Wp

/-! ## All or nothing -/

def AllOrNothing (computation : Exec σ ε α) (state : σ) : Prop :=
  ∀ failure, (computation.run state).1 = .error failure → (computation.run state).2 = state

namespace AllOrNothing

variable {state : σ} {computation : Exec σ ε α}

theorem of_wp (holds : Wp computation (fun result final =>
        match result with
        | .ok _ => True
        | .error _ => final = state) state) :
    AllOrNothing computation state := by
  intro failure failed
  unfold Wp at holds
  rw [failed] at holds
  exact holds

/-- On a part of the state, when replacing a part by itself changes
nothing. -/
theorem within {δ : Type} {part : τ → σ} {replace : τ → σ → τ} {translate : ε → δ} {whole : τ}
    (kept : replace whole (part whole) = whole) (clean : AllOrNothing computation (part whole)) :
    AllOrNothing (Exec.within part replace translate computation) whole := by
  apply of_wp
  apply Wp.within
  unfold Wp
  cases outcome : (computation.run (part whole)).1 with
  | ok value => trivial
  | error failure =>
    change replace whole _ = whole
    rw [clean failure outcome]
    exact kept

end AllOrNothing

/-! ## Simulation between computations -/

/-- Whenever `first` succeeds in an admissible state, it started in one, and
`second` succeeds with the same value from every related state. -/
def Simulates (admissible : σ → Prop) (related : σ → τ → Prop)
    (first : Exec σ ε α) (second : Exec τ ε α) : Prop :=
  ∀ source value source',
    first.run source = (.ok value, source') →
      admissible source' →
        admissible source ∧
          ∀ target, related source target →
            ∃ target', second.run target = (.ok value, target') ∧ related source' target'

namespace Simulates

variable {admissible : σ → Prop} {related : σ → τ → Prop}

theorem pure (value : α) :
    Simulates admissible related (Pure.pure value : Exec σ ε α) (Pure.pure value : Exec τ ε α) := by
  intro source result source' success reached
  cases success
  exact ⟨reached, fun target relation => ⟨target, rfl, relation⟩⟩

theorem fail (failure : ε) (second : Exec τ ε α) :
    Simulates admissible related (Exec.fail failure : Exec σ ε α) second := by
  intro source result source' success
  cases success

theorem ofExcept (result : Except ε α) :
    Simulates admissible related (Exec.ofExcept result : Exec σ ε α)
      (Exec.ofExcept result : Exec τ ε α) := by
  cases result with
  | ok value => exact pure value
  | error failure => exact fail failure _

variable {second : Exec τ ε α}

theorem bind {firstNext : α → Exec σ ε β} {secondNext : α → Exec τ ε β}
    (simulated : Simulates admissible related first second)
    (continued : ∀ value, Simulates admissible related (firstNext value) (secondNext value)) :
    Simulates admissible related (first >>= firstNext) (second >>= secondNext) := by
  intro source result source' success reached
  obtain ⟨value, middle, firstRun, nextRun⟩ := run_bind_ok success
  obtain ⟨middleReached, nextSimulated⟩ := continued value middle result source' nextRun reached
  obtain ⟨sourceReached, firstSimulated⟩ := simulated source value middle firstRun middleReached
  refine ⟨sourceReached, fun target relation => ?_⟩
  obtain ⟨targetMiddle, secondRun, middleRelation⟩ := firstSimulated target relation
  obtain ⟨target', nextRun', finalRelation⟩ := nextSimulated targetMiddle middleRelation
  refine ⟨target', ?_, finalRelation⟩
  rw [run_bind, secondRun]
  exact nextRun'

theorem ite [Decidable condition] {first' : Exec σ ε α} {second' : Exec τ ε α}
    (positive : Simulates admissible related first second)
    (negative : Simulates admissible related first' second') :
    Simulates admissible related (if condition then first else first')
      (if condition then second else second') := by
  by_cases holds : condition
  · rw [if_pos holds, if_pos holds]
    exact positive
  · rw [if_neg holds, if_neg holds]
    exact negative

end Simulates

end Exec

end VeraHub
