import VeraHub.Executor.ModuleJournal

/-!
# Transactions on the module journal

What a run leaves is told by the nesting of its frames alone: a change stays when
the transaction and every frame around it ended in success.  A frame saves the
modules at its first change only, so the entry of an open frame is read together
with the current modules: either of them is what the modules were when it opened.
-/

namespace VeraHub.Executor

variable {M : Type}

/-! ## Sequences of operations -/

inductive JournalOperation (M : Type) where
  | begin
  | enter
  | call (change : M → M)
  | leave (success : Bool)
  | finish (success : Bool)

namespace ModuleJournal

def new (modules : M) : ModuleJournal M :=
  ⟨modules, []⟩

/-- One operation; `none` is a failed assertion or a call outside every frame. -/
def perform (journal : ModuleJournal M) : JournalOperation M → Option (ModuleJournal M)
  | .begin => journal.begin
  | .enter => some journal.openFrame
  | .call change =>
    match journal.checkpoint with
    | .error _ => none
    | .ok saved => some { saved with modules := change saved.modules }
  | .leave success => journal.endFrame success
  | .finish success => journal.finish success

def performAll (journal : ModuleJournal M) (operations : List (JournalOperation M)) :
    Option (ModuleJournal M) :=
  operations.foldlM perform journal

def takeModules (journal : ModuleJournal M) : Option M :=
  (journal.finish true).map modules

end ModuleJournal

/-! ## Well-nested sequences -/

/-- What happens in a frame: changes of the modules and frames that were closed. -/
inductive FrameBody (M : Type) where
  | done
  | call (change : M → M) (next : FrameBody M)
  | frame (success : Bool) (body next : FrameBody M)

/-- A transaction that succeeds has closed its frames; one that fails may leave some open,
each after what happened in the frame around it. -/
inductive JournalTransaction (M : Type) where
  | succeeded (body : FrameBody M)
  | failed (opened : List (FrameBody M)) (body : FrameBody M)

namespace FrameBody

def operations : FrameBody M → List (JournalOperation M)
  | done => []
  | call change next => .call change :: next.operations
  | frame success body next => .enter :: body.operations ++ .leave success :: next.operations

def kept : FrameBody M → List (M → M)
  | done => []
  | call change next => change :: next.kept
  | frame success body next => (if success then body.kept else []) ++ next.kept

end FrameBody

namespace JournalTransaction

def operations : JournalTransaction M → List (JournalOperation M)
  | succeeded body => .begin :: body.operations ++ [.finish true]
  | failed opened body =>
    .begin :: ((opened.flatMap fun around => around.operations ++ [.enter]) ++ body.operations) ++
      [.finish false]

def kept : JournalTransaction M → List (M → M)
  | succeeded body => body.kept
  | failed _ _ => []

end JournalTransaction

def applied (changes : List (M → M)) (modules : M) : M :=
  changes.foldl (fun current change => change current) modules

/-! ## Runs -/

namespace ModuleJournal

variable {modules : M} {frame : Option M} {outer : List (Option M)}

@[simp]
theorem performAll_nil (journal : ModuleJournal M) : journal.performAll [] = some journal :=
  rfl

@[simp]
theorem performAll_cons (journal : ModuleJournal M) (operation : JournalOperation M)
    (rest : List (JournalOperation M)) : journal.performAll (operation :: rest) =
      (journal.perform operation).bind fun next => next.performAll rest :=
  rfl

@[simp]
theorem performAll_append (journal : ModuleJournal M) (first second : List (JournalOperation M)) :
    journal.performAll (first ++ second) =
      (journal.performAll first).bind fun next => next.performAll second :=
  List.foldlM_append

/-- A closed frame leaves its changes or none, and the frame around it still tells what the
modules were. -/
theorem endFrame_inner {saved : Option M} {current : M} (base : saved.getD current = modules)
    (success : Bool) :
    ∃ next : Option M, next.getD (if success then current else modules) = frame.getD modules ∧
      (⟨current, saved :: frame :: outer⟩ : ModuleJournal M).endFrame success =
        some ⟨if success then current else modules, next :: outer⟩ := by
  subst base
  cases saved with
  | none => exact ⟨frame, by simp, by simp [endFrame]⟩
  | some before =>
    cases success with
    | false => exact ⟨frame, rfl, rfl⟩
    | true =>
      cases frame with
      | none => exact ⟨some before, rfl, rfl⟩
      | some around => exact ⟨some around, rfl, rfl⟩

/-- A body applies the changes it keeps, and the modules of the time when its frame opened can
still be read from the frame. -/
theorem performAll_body (body : FrameBody M) :
    ∃ saved : Option M, saved.getD (applied body.kept modules) = frame.getD modules ∧
      (⟨modules, frame :: outer⟩ : ModuleJournal M).performAll body.operations =
        some ⟨applied body.kept modules, saved :: outer⟩ := by
  induction body generalizing modules frame outer with
  | done => exact ⟨frame, rfl, rfl⟩
  | call change next ih =>
    obtain ⟨saved, base, ran⟩ := @ih (change modules) (some (frame.getD modules)) outer
    refine ⟨saved, base, ?_⟩
    cases frame <;> exact ran
  | frame success body next inner rest =>
    obtain ⟨saved, base, ran⟩ := @inner modules none (frame :: outer)
    obtain ⟨around, kept, closed⟩ := @endFrame_inner M modules frame outer saved _ base success
    obtain ⟨last, told, went⟩ := @rest (if success then applied body.kept modules else modules)
      around outer
    have split : applied (FrameBody.frame success body next).kept modules =
        applied next.kept (if success then applied body.kept modules else modules) := by
      cases success <;> simp [FrameBody.kept, applied]
    rw [split]
    refine ⟨last, told.trans kept, ?_⟩
    simp [FrameBody.operations, perform, openFrame, ran, closed, went]

theorem performAll_opened (opened : List (FrameBody M)) (body : FrameBody M) :
    ∃ final : ModuleJournal M,
      final.unwound = (⟨modules, frame :: outer⟩ : ModuleJournal M).unwound ∧
        (⟨modules, frame :: outer⟩ : ModuleJournal M).performAll
          ((opened.flatMap fun around => around.operations ++ [.enter]) ++ body.operations) =
            some final := by
  induction opened generalizing modules frame outer with
  | nil =>
    obtain ⟨saved, base, ran⟩ := @performAll_body M modules frame outer body
    exact ⟨_, by simp [unwound, base], ran⟩
  | cons around opened ih =>
    obtain ⟨saved, base, ran⟩ := @performAll_body M modules frame outer around
    obtain ⟨final, whole, went⟩ := @ih (applied around.kept modules) none (saved :: outer)
    refine ⟨final, whole.trans (by simp [unwound, base]), ?_⟩
    simpa [perform, openFrame, ran] using went

theorem performAll_transaction (transaction : JournalTransaction M) :
    (new modules).performAll transaction.operations =
      some (new (applied transaction.kept modules)) := by
  cases transaction with
  | succeeded body =>
    obtain ⟨saved, base, ran⟩ := @performAll_body M modules none [] body
    have closed : (⟨applied body.kept modules, [saved]⟩ : ModuleJournal M).finish true =
        some (new (applied body.kept modules)) := by
      cases saved <;> rfl
    simpa [JournalTransaction.operations, JournalTransaction.kept, perform, begin, new, ran]
      using closed
  | failed opened body =>
    obtain ⟨final, whole, ran⟩ := @performAll_opened M modules none [] opened body
    have opening : (new modules).perform .begin = some ⟨modules, [none]⟩ := rfl
    have restored : final.unwound = modules := whole
    rw [JournalTransaction.operations, performAll_append, performAll_cons, opening,
      Option.bind_some, ran]
    simp [perform, finish, restored, new, JournalTransaction.kept, applied]

theorem journal_keeps_successful_changes (transactions : List (JournalTransaction M))
    (modules : M) :
    (new modules).performAll (transactions.flatMap JournalTransaction.operations) =
        some (new (applied (transactions.flatMap JournalTransaction.kept) modules)) ∧
      ((new modules).performAll (transactions.flatMap JournalTransaction.operations)).bind
          takeModules =
        some (applied (transactions.flatMap JournalTransaction.kept) modules) := by
  have ran : (new modules).performAll (transactions.flatMap JournalTransaction.operations) =
      some (new (applied (transactions.flatMap JournalTransaction.kept) modules)) := by
    induction transactions generalizing modules with
    | nil => rfl
    | cons transaction rest ih =>
      simp [performAll_transaction, ih, applied]
  rw [ran]
  exact ⟨rfl, rfl⟩

end ModuleJournal

end VeraHub.Executor
