import SourceAtlas.Noted

/-!
Results of noted work. Work never looks at what has been noted before it, so a piece of work has one
result, and the result of a sequence follows from those of its parts.
-/
namespace SourceAtlas

theorem run_bind {ε σ α β : Type} (work : ExceptT ε (StateM σ) α)
    (next : α → ExceptT ε (StateM σ) β) (state : σ) :
    StateT.run (ExceptT.run (work >>= next)) state =
      match StateT.run (ExceptT.run work) state with
      | (.ok a, later) => StateT.run (ExceptT.run (next a)) later
      | (.error failure, later) => (.error failure, later) := by
  rw [ExceptT.run_bind, StateT.run_bind]
  cases StateT.run (ExceptT.run work) state with
  | mk result later => cases result <;> rfl

theorem run_tryCatch {σ α : Type} (work : ExceptT Failure (StateM σ) α)
    (handler : Failure → ExceptT Failure (StateM σ) α) (state : σ) :
    StateT.run (ExceptT.run (tryCatch work handler)) state =
      match StateT.run (ExceptT.run work) state with
      | (.ok a, later) => (.ok a, later)
      | (.error failure, later) => StateT.run (ExceptT.run (handler failure)) later := by
  change StateT.run (ExceptT.run (ExceptT.tryCatch work handler)) state = _
  rw [ExceptT.tryCatch, ExceptT.run_mk, StateT.run_bind]
  -- running does not change the work, so `rw` has left it bare where the statement runs it
  change (StateT.run (ExceptT.run work) state >>= _) = _
  cases StateT.run (ExceptT.run work) state with
  | mk result later => cases result <;> rfl

theorem exists_of_bind {ε α β : Type} {x : Except ε α} {f : α → Except ε β} {b : β}
    (whole : (x >>= f) = .ok b) : ∃ a, x = .ok a ∧ f a = .ok b := by
  cases x with
  | error e => cases whole
  | ok a => exact ⟨a, rfl, whole⟩

theorem bind_of_ok {ε α β : Type} {x : Except ε α} {a : α} (done : x = .ok a)
    (f : α → Except ε β) : (x >>= f) = f a := by
  rw [done]
  rfl

theorem bind_of_error {ε α β : Type} {x : Except ε α} {e : ε} (failed : x = .error e)
    (f : α → Except ε β) : (x >>= f) = .error e := by
  rw [failed]
  rfl

theorem toOption_eq_some {ε α : Type} {result : Except ε α} {a : α} :
    result.toOption = some a ↔ result = .ok a := by
  cases result with
  | error e => exact iff_of_false nofun nofun
  | ok b => exact ⟨fun same => congrArg _ (Option.some.inj same), fun same => congrArg _
      (Except.ok.inj same)⟩

namespace Noted

variable {α β : Type}

/-- The work has this result, whatever has been noted before. -/
def Gives (work : Noted α) (result : Except Failure α) : Prop :=
  ∀ journal, (StateT.run (ExceptT.run work) journal).1 = result

theorem Gives.outcome {work : Noted α} {result : Except Failure α} (given : Gives work result) :
    work.outcome.1 = result := given []

theorem gives_pure (a : α) : Gives (pure a) (.ok a) := fun _ => rfl

theorem gives_fail (failure : Failure) : Gives (fail failure : Noted α) (.error failure) :=
  fun _ => rfl

theorem gives_note (record : Record) : Gives (note record) (.ok ()) := fun _ => rfl

theorem gives_noteAll (records : Journal) : Gives (noteAll records) (.ok ()) := fun _ => rfl

theorem gives_ofPath (a : α) : Gives (ofPath (.ok a)) (.ok a) := gives_pure a

theorem gives_ofPath_error (fault : PathFault) :
    Gives (ofPath (.error fault) : Noted α) (.error (.path fault)) := gives_fail _

theorem gives_ofOs (a : α) : Gives (ofOs (.ok a)) (.ok a) := gives_pure a

theorem gives_ofOs_error (error : OsError) :
    Gives (ofOs (.error error) : Noted α) (.error (.os error)) := gives_fail _

theorem Gives.seq {work : Noted α} {next : α → Noted β} {a : α} {result : Except Failure β}
    (first : Gives work (.ok a)) (second : Gives (next a) result) :
    Gives (work >>= next) result := by
  intro journal
  have given := first journal
  rw [run_bind]
  cases ran : StateT.run (ExceptT.run work) journal with
  | mk value noted =>
      rw [ran] at given
      subst given
      exact second noted

theorem Gives.stop {work : Noted α} {failure : Failure} (first : Gives work (.error failure))
    (next : α → Noted β) : Gives (work >>= next) (.error failure) := by
  intro journal
  have given := first journal
  rw [run_bind]
  cases ran : StateT.run (ExceptT.run work) journal with
  | mk value noted =>
      rw [ran] at given
      subst given
      rfl

theorem Gives.kept {work : Noted α} {a : α} (done : Gives work (.ok a))
    (handler : Failure → Noted α) : Gives (tryCatch work handler) (.ok a) := by
  intro journal
  have given := done journal
  rw [run_tryCatch]
  cases ran : StateT.run (ExceptT.run work) journal with
  | mk value noted =>
      rw [ran] at given
      subst given
      rfl

theorem Gives.caught {work : Noted α} {handler : Failure → Noted α} {failure : Failure}
    {result : Except Failure α} (failed : Gives work (.error failure))
    (handled : Gives (handler failure) result) : Gives (tryCatch work handler) result := by
  intro journal
  have given := failed journal
  rw [run_tryCatch]
  cases ran : StateT.run (ExceptT.run work) journal with
  | mk value noted =>
      rw [ran] at given
      subst given
      exact handled noted

theorem gives_checked (refused : Prop) [Decidable refused] (failure : Failure)
    (next : Unit → Noted α) (a : α) :
    Gives (if refused then fail failure >>= next else pure a)
      (if refused then .error failure else .ok a) := by
  split
  · exact (gives_fail failure).stop next
  · exact gives_pure a

theorem gives_refused (failure : Failure) (next : Unit → Noted α) :
    Gives (if (!false) = true then fail failure >>= next else next ()) (.error failure) :=
  (gives_fail failure).stop next

theorem gives_passed {failure : Failure} {next : Unit → Noted α} {result : Except Failure α}
    (given : Gives (next ()) result) :
    Gives (if (!true) = true then fail failure >>= next else next ()) result := given

end Noted

end SourceAtlas
