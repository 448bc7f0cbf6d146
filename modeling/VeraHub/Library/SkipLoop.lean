import VeraHub.Library.Exec

/-!
# Loops that skip failing items

A loop attempts its items one after another.  A failed attempt either ends the
loop or is skipped, and only a lenient loop skips: a strict one ends at the
first failure.  Where a skipped attempt leaves no trace in the state, the items
that a lenient loop kept run through a strict loop to the same state.
-/

namespace VeraHub

/-- How an attempt fails: a lenient loop goes on after a `skip`. -/
inductive Failure (ε : Type) where
  | skip (error : ε)
  | abort (error : ε)
deriving DecidableEq

def Failure.error {ε : Type} : Failure ε → ε
  | .skip error => error
  | .abort error => error

section SkipLoop

variable {σ ε ι : Type}

/-- Attempt the items in order; the result is the last state together with the
items whose attempt succeeded. -/
def skipLoop (lenient : Bool) (attempt : ι → Exec σ (Failure ε) Unit) :
    List ι → σ → Except ε (σ × List ι)
  | [], state => .ok (state, [])
  | item :: rest, state =>
    match (attempt item).run state with
    | (.ok (), next) =>
      match skipLoop lenient attempt rest next with
      | .ok (final, kept) => .ok (final, item :: kept)
      | .error error => .error error
    | (.error (.skip error), next) =>
      if lenient then skipLoop lenient attempt rest next
      else .error error
    | (.error (.abort error), _) => .error error

def SkipsCleanly (attempt : ι → Exec σ (Failure ε) Unit) : Prop :=
  ∀ (item : ι) (state next : σ) (error : ε),
    (attempt item).run state = (.error (.skip error), next) → next = state

variable {lenient : Bool} {attempt : ι → Exec σ (Failure ε) Unit}

variable {item : ι} {rest kept : List ι} {state final : σ}

theorem skipLoop_cons_ok
    (through : skipLoop lenient attempt (item :: rest) state = .ok (final, kept)) :
    (∃ next keptRest,
      (attempt item).run state = (.ok (), next) ∧
        skipLoop lenient attempt rest next = .ok (final, keptRest) ∧ kept = item :: keptRest) ∨
    (∃ error next,
      (attempt item).run state = (.error (.skip error), next) ∧ lenient = true ∧
        skipLoop lenient attempt rest next = .ok (final, kept)) := by
  unfold skipLoop at through
  rcases attempted : (attempt item).run state with ⟨result, next⟩
  rw [attempted] at through
  cases result with
  | ok value =>
    simp only at through
    rcases looped : skipLoop lenient attempt rest next with error | reached
    · rw [looped] at through
      cases through
    · rw [looped] at through
      simp only [Except.ok.injEq, Prod.mk.injEq] at through
      obtain ⟨finalEq, keptEq⟩ := through
      subst finalEq
      exact Or.inl ⟨next, reached.2, rfl, looped, keptEq.symm⟩
  | error failure =>
    cases failure with
    | abort error => cases through
    | skip error =>
      cases lenient with
      | false => cases through
      | true => exact Or.inr ⟨error, next, rfl, rfl, through⟩

variable {items : List ι}

theorem skipLoop_kept_sublist (through : skipLoop lenient attempt items state = .ok (final, kept)) :
    kept.Sublist items := by
  induction items generalizing state kept with
  | nil =>
    cases through
    exact List.Sublist.refl []
  | cons item rest ih =>
    rcases skipLoop_cons_ok through with
      ⟨next, keptRest, _, looped, keptEq⟩ | ⟨error, next, _, _, looped⟩
    · rw [keptEq]
      exact (ih looped).cons_cons item
    · exact (ih looped).cons item

theorem strict_kept
    (through : skipLoop false attempt items state = .ok (final, kept)) : kept = items := by
  induction items generalizing state kept with
  | nil =>
    cases through
    rfl
  | cons item rest ih =>
    rcases skipLoop_cons_ok through with
      ⟨next, keptRest, _, looped, keptEq⟩ | ⟨_, _, _, strict, _⟩
    · rw [keptEq, ih looped]
    · cases strict

/-- The kept items of a loop, replayed strictly, reach the same state.  The
replayed items may be other ones that are attempted in the same way. -/
theorem strict_of_skipLoop {κ : Type} {view : ι → κ} {attempt : κ → Exec σ (Failure ε) Unit}
    (clean : SkipsCleanly attempt) {replayed : List ι}
    (through : skipLoop lenient (fun item => attempt (view item)) items state = .ok (final, kept))
    (same : replayed.map view = kept.map view) :
    skipLoop false (fun item => attempt (view item)) replayed state =
      .ok (final, replayed) := by
  induction items generalizing state kept replayed with
  | nil =>
    cases through
    have empty : replayed = [] := by simpa using same
    rw [empty]
    rfl
  | cons item rest ih =>
    rcases skipLoop_cons_ok through with
      ⟨next, keptRest, done, looped, keptEq⟩ | ⟨error, next, skipped, _, looped⟩
    · subst keptEq
      rw [List.map_cons] at same
      obtain ⟨first, others, replayedEq, firstView, othersView⟩ := List.map_eq_cons_iff.mp same
      have replayedRest := ih looped othersView
      subst replayedEq
      have doneFirst : (attempt (view first)).run state = (.ok (), next) := by
        rw [firstView]
        exact done
      simp only [skipLoop, doneFirst, replayedRest]
    · have unchanged : next = state := clean _ _ _ _ skipped
      rw [unchanged] at looped
      exact ih looped same

/-- A property of the state and of the items done so far that every successful
and every skipped attempt keeps holds at the end of the loop. -/
theorem skipLoop_invariant (holds : σ → List ι → Prop)
    (skip : ∀ (item : ι) (before : List ι) (state next : σ) (error : ε),
      (attempt item).run state = (.error (.skip error), next) →
        holds state before → holds next before)
    (step : ∀ (item : ι) (before : List ι) (state next : σ),
      (attempt item).run state = (.ok (), next) → holds state before →
        holds next (before ++ [item]))
    (through : skipLoop lenient attempt items state = .ok (final, kept))
    (initial : holds state []) :
    holds final kept := by
  -- the induction carries the items done before the current ones
  suffices general : ∀ (state : σ) (kept before : List ι),
      skipLoop lenient attempt items state = .ok (final, kept) →
        holds state before → holds final (before ++ kept) from
    general state kept [] through initial
  clear through initial
  induction items with
  | nil =>
    intro state kept before through held
    cases through
    rw [List.append_nil]
    exact held
  | cons item rest ih =>
    intro state kept before through held
    rcases skipLoop_cons_ok through with
      ⟨next, keptRest, done, looped, keptEq⟩ | ⟨error, next, skipped, _, looped⟩
    · have reached := ih next keptRest (before ++ [item])
        looped (step item before state next done held)
      rw [keptEq, List.append_cons]
      exact reached
    · exact ih next kept before looped (skip item before state next error skipped held)

/-- A loop over two lists is a loop over the second from where the first
ended. -/
theorem skipLoop_append (first second : List ι) (state : σ) :
    skipLoop lenient attempt (first ++ second) state =
      match skipLoop lenient attempt first state with
      | .error error => .error error
      | .ok (middle, kept) =>
        (skipLoop lenient attempt second middle).map fun result =>
          (result.1, kept ++ result.2) := by
  induction first generalizing state with
  | nil =>
    simp only [List.nil_append, skipLoop]
    cases skipLoop lenient attempt second state with
    | error error => rfl
    | ok result => rfl
  | cons item rest ih =>
    rw [List.cons_append, skipLoop, skipLoop]
    rcases (attempt item).run state with ⟨result, next⟩
    cases result with
    | ok value =>
      simp only [ih next]
      rcases skipLoop lenient attempt rest next with error | ⟨middle, kept⟩
      · rfl
      · simp only
        cases skipLoop lenient attempt second middle with
        | error error => rfl
        | ok result => rfl
    | error failure =>
      cases failure with
      | abort error => rfl
      | skip error =>
        cases lenient with
        | false => rfl
        | true => exact ih next

/-- A lenient loop reaches the same state without an item that it skips. -/
theorem skipLoop_drop_skipped {first : List ι} {middle : σ} {error : ε}
    (through : skipLoop true attempt first state = .ok (middle, kept))
    (skipped : (attempt item).run middle = (.error (.skip error), middle)) :
    skipLoop true attempt (first ++ item :: rest) state =
      skipLoop true attempt (first ++ rest) state := by
  have dropped : skipLoop true attempt (item :: rest) middle =
      skipLoop true attempt rest middle := by
    rw [skipLoop, skipped]
    rfl
  rw [skipLoop_append, skipLoop_append, through]
  simp only [dropped]

theorem skipLoop_strict_skipped {first : List ι} {middle : σ} {error : ε}
    (through : skipLoop false attempt first state = .ok (middle, kept))
    (skipped : (attempt item).run middle = (.error (.skip error), middle)) :
    skipLoop false attempt (first ++ item :: rest) state = .error error := by
  have ended : skipLoop false attempt (item :: rest) middle =
      .error error := by
    rw [skipLoop, skipped]
    rfl
  rw [skipLoop_append, through]
  simp only [ended]
  rfl

/-- The state a loop reaches depends on how the items are attempted only. -/
theorem skipLoop_view {κ : Type} (view : ι → κ)
    (attempt : κ → Exec σ (Failure ε) Unit) (items : List ι) (state : σ) :
    (skipLoop lenient (fun item => attempt (view item)) items state).map Prod.fst =
      (skipLoop lenient attempt (items.map view) state).map Prod.fst := by
  induction items generalizing state with
  | nil => rfl
  | cons item rest ih =>
    rw [List.map_cons, skipLoop, skipLoop]
    rcases (attempt (view item)).run state with ⟨result, next⟩
    cases result with
    | ok value =>
      have same := ih next
      simp only
      rcases looped : skipLoop lenient (fun item => attempt (view item))
          rest next with error | reached
      · rw [looped] at same
        rcases viewed : skipLoop lenient attempt (rest.map view) next with
          other | other
        · rw [viewed] at same
          exact same
        · rw [viewed] at same
          cases same
      · rw [looped] at same
        rcases viewed : skipLoop lenient attempt (rest.map view) next with
          other | other
        · rw [viewed] at same
          cases same
        · rw [viewed] at same
          exact same
    | error failure =>
      cases failure with
      | abort error => rfl
      | skip error =>
        cases lenient with
        | false => rfl
        | true => exact ih next

end SkipLoop

end VeraHub
