import VeraHub.Executor.CallFrames

/-!
# Module checkpoints of an execution

The journal holds the modules and one entry for each open call or creation
frame, innermost first.  An entry is empty until the frame calls a module; then
it keeps the modules from before the call, which a failed frame puts back.

The interpreter reaches the journal in three ways only: it opens a frame, it
closes the frame it opened last, and it calls a precompile.  `Interaction` is
what one transaction does in these terms.
-/

namespace VeraHub.Executor

/-- The modules with a checkpoint for each open frame, innermost first. -/
structure ModuleJournal (M : Type) where
  modules : M
  frames : List (Option M)
deriving DecidableEq

variable {depth : Nat}

namespace ModuleJournal

variable {M : Type}

/-- Open the base frame of a transaction; `none` is the failed assertion that
no frame is left open. -/
def begin (journal : ModuleJournal M) : Option (ModuleJournal M) :=
  match journal.frames with
  | [] => some { journal with frames := [none] }
  | _ :: _ => none

def openFrame (journal : ModuleJournal M) : ModuleJournal M :=
  { journal with frames := none :: journal.frames }

/-- Save the modules in the innermost frame unless it has saved them. -/
def checkpoint (journal : ModuleJournal M) :
    Except String (ModuleJournal M) :=
  match journal.frames with
  | [] => .error "module call has no execution checkpoint"
  | none :: outer =>
    .ok { journal with frames := some journal.modules :: outer }
  | some _ :: _ => .ok journal

/-- Whether the modules have left the map roots they had at the innermost
checkpoint. -/
def changed (sharesValues : M → M → Bool) (journal : ModuleJournal M) : Bool :=
  match journal.frames with
  | some before :: _ => !sharesValues before journal.modules
  | _ => false

/-- Close the innermost frame.  A failed frame puts its modules back; a
successful one leaves them to an enclosing frame that has saved none. -/
def endFrame (success : Bool) (journal : ModuleJournal M) :
    Option (ModuleJournal M) :=
  match journal.frames with
  | [] => none
  | none :: outer => some { journal with frames := outer }
  | some before :: outer =>
    if success then
      match outer with
      | none :: rest => some { journal with frames := some before :: rest }
      | _ => some { journal with frames := outer }
    else some ⟨before, outer⟩

def unwound (journal : ModuleJournal M) : M :=
  journal.frames.foldl (fun modules frame => frame.getD modules) journal.modules

/-- End the transaction: a success closes the base frame, which must be the only
one, and a failure closes all that are open. -/
def finish (success : Bool) (journal : ModuleJournal M) :
    Option (ModuleJournal M) :=
  if success then
    match journal.frames with
    | [] => some journal
    | [_] => journal.endFrame true
    | _ => none
  else some ⟨journal.unwound, []⟩

/-- The base frame and `depth` more are open, and failing them all gives the
modules `base`. -/
structure Guards (journal : ModuleJournal M) (depth : Nat) (base : M) : Prop where
  frames_length : journal.frames.length = depth + 1
  unwound_eq : journal.unwound = base

variable {journal : ModuleJournal M}

theorem begin_guards {opened : ModuleJournal M} (started : journal.begin = some opened) :
    journal.frames = [] ∧ opened.Guards 0 journal.modules := by
  obtain ⟨modules, frames⟩ := journal
  cases frames with
  | nil =>
    cases started
    exact ⟨rfl, rfl, rfl⟩
  | cons frame rest => cases started

variable {base : M}

theorem openFrame_guards
    (guarded : journal.Guards depth base) : journal.openFrame.Guards (depth + 1) base := by
  constructor
  · have count := guarded.frames_length
    simp only [openFrame, List.length_cons, count]
  · exact guarded.unwound_eq

theorem checkpoint_guards {saved : ModuleJournal M} (guarded : journal.Guards depth base) (taken : journal.checkpoint = .ok saved) :
    saved.Guards depth base ∧ ∃ before outer, saved.frames = some before :: outer := by
  obtain ⟨modules, frames⟩ := journal
  cases frames with
  | nil => cases taken
  | cons frame outer =>
    cases frame with
    | none =>
      cases taken
      exact ⟨⟨guarded.frames_length, guarded.unwound_eq⟩, modules, outer, rfl⟩
    | some before =>
      cases taken
      exact ⟨guarded, before, outer, rfl⟩

/-- Behind a checkpoint the modules may change: unwinding does not see them. -/
theorem write_guards (guarded : journal.Guards depth base) {before : M} {outer : List (Option M)}
    (saved : journal.frames = some before :: outer) (written : M) :
    ({ journal with modules := written } : ModuleJournal M).Guards depth
      base := by
  constructor
  · exact guarded.frames_length
  · have whole := guarded.unwound_eq
    simp only [unwound, saved, List.foldl_cons, Option.getD_some] at whole ⊢
    exact whole

/-- Closing a frame above the base frame works and keeps what unwinding
gives. -/
theorem endFrame_guards (guarded : journal.Guards (depth + 1) base) (success : Bool) :
    ∃ closed, journal.endFrame success = some closed ∧
      closed.Guards depth base := by
  obtain ⟨modules, frames⟩ := journal
  obtain ⟨count, whole⟩ := guarded
  match frames with
  | [] => simp at count
  | [_] => simp at count
  | none :: parent :: rest =>
    exact ⟨_, rfl, by simpa using count, whole⟩
  | some before :: parent :: rest =>
    have outerCount : (parent :: rest).length = depth + 1 := by
      simpa using count
    cases success with
    | false => exact ⟨_, rfl, outerCount, whole⟩
    | true =>
      cases parent with
      | none => exact ⟨_, rfl, outerCount, whole⟩
      | some outerBefore => exact ⟨_, rfl, outerCount, whole⟩

end ModuleJournal

/-! ## One transaction on the journal -/

/-- What the interpreter does with a transaction at a frame depth, until it
returns: the replies of the precompiles decide how it goes on. -/
inductive Interaction (Reply R : Type) : Nat → Type where
  | done {depth : Nat} (result : R) : Interaction Reply R depth
  | openFrame {depth : Nat} (next : Interaction Reply R (depth + 1)) : Interaction Reply R depth
  | closeFrame {depth : Nat} (success : Bool)
      (next : Interaction Reply R depth) : Interaction Reply R (depth + 1)
  | precompile {depth : Nat} (inputs : CallInputs) (gasLimit : UInt64)
      (next : Reply → Interaction Reply R depth) : Interaction Reply R depth

namespace Interaction

variable {M Reply R : Type}

/-- Run an interaction on a journal with the given precompiles; `none` is a
failed assertion of the journal. -/
def drive (precompiles : CallInputs → UInt64 → ModuleJournal M → Reply × ModuleJournal M) :
    {depth : Nat} → Interaction Reply R depth → ModuleJournal M → Option (R × ModuleJournal M)
  | _, .done result, journal => some (result, journal)
  | _, .openFrame next, journal => next.drive precompiles journal.openFrame
  | _, .closeFrame success next, journal =>
    match journal.endFrame success with
    | some closed => next.drive precompiles closed
    | none => none
  | _, .precompile inputs gasLimit next, journal =>
    let (reply, called) := precompiles inputs gasLimit journal
    (next reply).drive precompiles called

/-- The precompiles leave the open frames and what unwinding gives. -/
def PrecompilesGuard
    (precompiles : CallInputs → UInt64 → ModuleJournal M → Reply × ModuleJournal M) :
    Prop :=
  ∀ (inputs : CallInputs) (gasLimit : UInt64) (journal : ModuleJournal M)
    (depth : Nat) (base : M), journal.Guards depth base →
      (precompiles inputs gasLimit journal).2.Guards depth base

theorem drive_guards {precompiles : CallInputs → UInt64 → ModuleJournal M → Reply × ModuleJournal M}
    (keeps : PrecompilesGuard precompiles) (interaction : Interaction Reply R depth)
    {journal : ModuleJournal M} {base : M} (guarded : journal.Guards depth base) :
    ∃ result final finalDepth, interaction.drive precompiles journal = some (result, final) ∧
        final.Guards finalDepth base := by
  induction interaction generalizing journal with
  | done result => exact ⟨result, journal, _, rfl, guarded⟩
  | openFrame next ih =>
    exact ih (ModuleJournal.openFrame_guards guarded)
  | closeFrame success next ih =>
    obtain ⟨closed, ended, closedGuarded⟩ := ModuleJournal.endFrame_guards guarded success
    obtain ⟨result, final, finalDepth, driven, finalGuarded⟩ := ih closedGuarded
    refine ⟨result, final, finalDepth, ?_, finalGuarded⟩
    simp only [drive, ended]
    exact driven
  | precompile inputs gasLimit next ih =>
    exact ih (precompiles inputs gasLimit journal).1 (keeps inputs gasLimit journal _ base guarded)

end Interaction

end VeraHub.Executor
