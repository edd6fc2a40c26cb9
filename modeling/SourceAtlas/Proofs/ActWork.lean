import SourceAtlas.Act
import SourceAtlas.Proofs.NotedWork

/-!
What work does to a site. Work never looks at its journal either, so on one site a piece of work has
one result and leaves one site behind.
-/
namespace SourceAtlas.Act

variable {α β : Type}

def Does (act : Act α) (site : Site) (result : Except Failure α) (after : Site) : Prop :=
  ∀ journal, ∃ later, StateT.run (ExceptT.run act) ⟨site, journal⟩ = (result, ⟨after, later⟩)

theorem exists_of_run_bind {work : Act α} {next : α → Act β} {before later : Progress} {b : β}
    (whole : StateT.run (ExceptT.run (work >>= next)) before = (.ok b, later)) :
    ∃ a between, StateT.run (ExceptT.run work) before = (.ok a, between) ∧
      StateT.run (ExceptT.run (next a)) between = (.ok b, later) := by
  rw [run_bind] at whole
  split at whole
  next a between ran => exact ⟨a, between, ran, whole⟩
  · cases whole

variable {site : Site}

theorem Does.outcome {act : Act α} {result : Except Failure α} {after : Site}
    (does : Does act site result after) :
    (act.outcome site).1 = result ∧ (act.outcome site).2.site = after := by
  obtain ⟨later, ran⟩ := does []
  change StateT.run (ExceptT.run act) ⟨site, []⟩ = _ at ran
  rw [Act.outcome, ran]
  exact ⟨rfl, rfl⟩

theorem does_pure (a : α) : Does (pure a) site (.ok a) site := fun journal => ⟨journal, rfl⟩

theorem does_fail (failure : Failure) : Does (fail failure : Act α) site (.error failure) site :=
  fun journal => ⟨journal, rfl⟩

theorem does_site : Does Act.site site (.ok site) site := fun journal => ⟨journal, rfl⟩

theorem does_setSite (after : Site) : Does (setSite after) site (.ok ()) after :=
  fun journal => ⟨journal, rfl⟩

theorem does_note (record : Record) : Does (note record) site (.ok ()) site :=
  fun journal => ⟨journal ++ [record], rfl⟩

theorem does_noteAll (records : Journal) : Does (noteAll records) site (.ok ()) site :=
  fun journal => ⟨journal ++ records, rfl⟩

theorem Does.seq {work : Act α} {next : α → Act β} {a : α} {result : Except Failure β}
    {between after : Site} (first : Does work site (.ok a) between)
    (second : Does (next a) between result after) : Does (work >>= next) site result after := by
  intro journal
  obtain ⟨noted, ran⟩ := first journal
  obtain ⟨later, went⟩ := second noted
  refine ⟨later, ?_⟩
  rw [run_bind, ran]
  exact went

theorem Does.stop {work : Act α} {failure : Failure} {after : Site}
    (first : Does work site (.error failure) after) (next : α → Act β) :
    Does (work >>= next) site (.error failure) after := by
  intro journal
  obtain ⟨noted, ran⟩ := first journal
  exact ⟨noted, by rw [run_bind, ran]⟩

theorem outcome_of_ok {work : Act α} {a : α} (done : work.outcome site = (.ok a, ⟨site, []⟩))
    (next : α → Act β) : (work >>= next).outcome site = (next a).outcome site := by
  change StateT.run (ExceptT.run work) ⟨site, []⟩ = _ at done
  rw [outcome, run_bind, done]
  rfl

theorem outcome_of_error {work : Act α} {failure : Failure} {progress : Progress}
    (failed : work.outcome site = (.error failure, progress)) (next : α → Act β) :
    (work >>= next).outcome site = (.error failure, progress) := by
  change StateT.run (ExceptT.run work) ⟨site, []⟩ = _ at failed
  rw [outcome, run_bind, failed]

theorem Does.kept {work : Act α} {a : α} {after : Site} (done : Does work site (.ok a) after)
    (handler : Failure → Act α) : Does (tryCatch work handler) site (.ok a) after := by
  intro journal
  obtain ⟨noted, ran⟩ := done journal
  exact ⟨noted, by rw [run_tryCatch, ran]⟩

theorem Does.caught {work : Act α} {handler : Failure → Act α} {failure : Failure}
    {result : Except Failure α} {between after : Site}
    (failed : Does work site (.error failure) between)
    (handled : Does (handler failure) between result after) :
    Does (tryCatch work handler) site result after := by
  intro journal
  obtain ⟨noted, ran⟩ := failed journal
  obtain ⟨later, went⟩ := handled noted
  exact ⟨later, by rw [run_tryCatch, ran]; exact went⟩

theorem does_ofNoted {work : Noted α} {result : Except Failure α} (given : work.Gives result) :
    Does (ofNoted work) site result site := by
  have outcome := given.outcome
  unfold ofNoted
  cases ran : work.outcome with
  | mk value journal =>
      rw [ran] at outcome
      subst outcome
      refine (does_noteAll journal).seq ?_
      cases value with
      | ok a => exact does_pure a
      | error failure => exact does_fail failure

/-- Both pieces of work have the same result, as far as it is looked at, and leave the same site
behind, from wherever they start. -/
def Alike {γ : Type} (view : α → γ) (first second : Act α) : Prop :=
  ∀ progress, (StateT.run (ExceptT.run first) progress).1.map view =
      (StateT.run (ExceptT.run second) progress).1.map view ∧
    (StateT.run (ExceptT.run first) progress).2.site =
      (StateT.run (ExceptT.run second) progress).2.site

theorem Alike.refl {γ : Type} (view : α → γ) (act : Act α) : Alike view act act :=
  fun _ => ⟨rfl, rfl⟩

theorem Alike.after {γ : Type} {view : β → γ} (work : Act α) {first second : α → Act β}
    (alike : ∀ a, Alike view (first a) (second a)) :
    Alike view (work >>= first) (work >>= second) := by
  intro progress
  rw [run_bind, run_bind]
  cases StateT.run (ExceptT.run work) progress with
  | mk result later =>
      cases result with
      | ok a => exact alike a later
      | error failure => exact ⟨rfl, rfl⟩

theorem alike_of_does {γ : Type} {view : α → γ} {first second : Act α} {a b : α}
    (one : ∀ site, Does first site (.ok a) site) (two : ∀ site, Does second site (.ok b) site)
    (same : view a = view b) : Alike view first second := by
  intro progress
  obtain ⟨noted, ran⟩ := one progress.site progress.journal
  obtain ⟨later, went⟩ := two progress.site progress.journal
  rw [ran, went]
  exact ⟨congrArg Except.ok same, rfl⟩

theorem Alike.outcome {γ : Type} {view : α → γ} {first second : Act α}
    (alike : Alike view first second) (site : Site) :
    (first.outcome site).1.map view = (second.outcome site).1.map view ∧
      (first.outcome site).2.site = (second.outcome site).2.site := alike { site := site }

end SourceAtlas.Act
