import SourceAtlas.Noted

/-!
Work that also changes the site. What was written or noted before a failure stays.
-/
namespace SourceAtlas

/-- The site and the journal of a piece of work. -/
structure Progress where
  site : Site
  journal : Journal := []

abbrev Act (α : Type) := ExceptT Failure (StateM Progress) α

namespace Act

def site : Act Site := do return (← get).site

def setSite (site : Site) : Act Unit := modify fun progress => { progress with site := site }

def note (record : Record) : Act Unit :=
  modify fun progress => { progress with journal := progress.journal ++ [record] }

def noteAll (records : Journal) : Act Unit :=
  modify fun progress => { progress with journal := progress.journal ++ records }

def fail {α : Type} (failure : Failure) : Act α := throw failure

/-- Work that leaves the site as it is. -/
def ofNoted {α : Type} (work : Noted α) : Act α := do
  let (result, journal) := work.outcome
  noteAll journal
  match result with
  | .ok a => return a
  | .error failure => fail failure

/-- The result of a act on a site, and what it leaves behind. -/
def outcome {α : Type} (act : Act α) (site : Site) : Except Failure α × Progress :=
  StateT.run (ExceptT.run act) { site := site }

end Act

end SourceAtlas
