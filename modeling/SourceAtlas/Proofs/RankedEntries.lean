import Mathlib
import SourceAtlas.Profiles
import SourceAtlas.Proofs.TextOrder
import SourceAtlas.Ranking

/-!
The best entries of a list. Ranking puts higher scores first and takes paths where scores are equal,
so entries with different paths are ranked in one way only, and a front of the ranking holds the
best of them. A flag moves the score of its entry by a fixed amount, whatever the adapter adds for
the path, and an entry that gains in score only passes others.
-/
namespace SourceAtlas
open Text

/-- An entry ranks above another one: its score is higher, or as high and its path comes first. -/
def Entry.Above (a b : Entry) : Prop :=
  b.score < a.score ∨ a.score = b.score ∧ a.path < b.path

def Entry.rankKey (entry : Entry) : ℤ ×ₗ String := toLex (-entry.score, entry.path)

theorem Entry.above_iff {a b : Entry} : a.Above b ↔ a.rankKey < b.rankKey := by
  simp [Above, rankKey, Prod.Lex.toLex_lt_toLex]

theorem ranksBefore_iff {a b : Entry} : ranksBefore a b = true ↔ a.rankKey ≤ b.rankKey := by
  simp [ranksBefore, Entry.rankKey, Prod.Lex.toLex_le_toLex, precedes_iff_le]

theorem ranksBefore_trans (a b c : Entry) (first : ranksBefore a b = true)
    (second : ranksBefore b c = true) : ranksBefore a c = true := by
  rw [ranksBefore_iff] at *
  exact first.trans second

theorem ranksBefore_total (a b : Entry) : (ranksBefore a b || ranksBefore b a) = true := by
  rw [Bool.or_eq_true, ranksBefore_iff, ranksBefore_iff]
  exact le_total _ _

theorem Entry.path_eq_of_rankKey_eq {a b : Entry} (same : a.rankKey = b.rankKey) :
    a.path = b.path :=
  congrArg (fun key => (ofLex key).2) same

variable {entries others : List Entry}

theorem rank_perm (entries : List Entry) : (rank entries).Perm entries :=
  List.mergeSort_perm entries _

theorem rank_sorted (entries : List Entry) :
    (rank entries).Pairwise fun a b => a.rankKey ≤ b.rankKey :=
  (List.pairwise_mergeSort ranksBefore_trans ranksBefore_total entries).imp ranksBefore_iff.mp

theorem rank_eq_of_perm (apart : (entries.map Entry.path).Nodup) (perm : others.Perm entries) :
    rank others = rank entries := by
  refine List.Perm.eq_of_pairwise ?_ (rank_sorted others) (rank_sorted entries)
    ((rank_perm others).trans (perm.trans (rank_perm entries).symm))
  intro a b left right first second
  refine List.inj_on_of_nodup_map apart (perm.mem_iff.mp ((rank_perm others).mem_iff.mp left))
    ((rank_perm entries).mem_iff.mp right) ?_
  exact Entry.path_eq_of_rankKey_eq (le_antisymm first second)

theorem rank_apart (apart : (entries.map Entry.path).Nodup) :
    ((rank entries).map Entry.path).Nodup :=
  ((rank_perm entries).map _).nodup_iff.mpr apart

theorem rank_above (apart : (entries.map Entry.path).Nodup) :
    (rank entries).Pairwise Entry.Above := by
  refine ((rank_sorted entries).and (List.pairwise_map.mp (rank_apart apart))).imp fun both => ?_
  exact Entry.above_iff.mpr
    (lt_of_le_of_ne both.1 fun same => both.2 (Entry.path_eq_of_rankKey_eq same))

/-- The best of some entries, as many as there are up to the limit, with the best first. -/
structure BestOf (entries : List Entry) (limit : Int) (chosen : List Entry) : Prop where
  count : (chosen.length : Int) = min (entries.length : Int) (max limit 0)
  given : chosen ⊆ entries
  ordered : chosen.Pairwise Entry.Above
  above : ∀ left ∈ entries, left ∉ chosen → ∀ entry ∈ chosen, entry.Above left

theorem bestOf_selectCandidates (apart : (entries.map Entry.path).Nodup) (limit : Int) :
    BestOf entries limit (selectCandidates entries limit) where
  count := by
    rw [selectCandidates, List.length_take, (rank_perm entries).length_eq]
    omega
  given _ member := (rank_perm entries).mem_iff.mp (List.mem_of_mem_take member)
  ordered := (rank_above apart).take
  above left inside omitted entry chosen := by
    have whole := rank_above apart
    have ranked := (rank_perm entries).mem_iff.mpr inside
    rw [← List.take_append_drop limit.toNat (rank entries)] at whole ranked
    have behind := (List.mem_append.mp ranked).resolve_left omitted
    exact (List.pairwise_append.mp whole).2.2 entry chosen left behind

namespace BestOf
variable {limit : Int} {first second : List Entry}

theorem nodup (best : BestOf entries limit first) : first.Nodup := by
  refine best.ordered.imp ?_
  rintro entry _ above rfl
  exact lt_irrefl _ (Entry.above_iff.mp above)

theorem length_eq (one : BestOf entries limit first) (two : BestOf entries limit second) :
    first.length = second.length :=
  Int.ofNat_inj.mp (one.count.trans two.count.symm)

theorem subset (one : BestOf entries limit first) (two : BestOf entries limit second) :
    first ⊆ second := by
  intro entry inside
  by_contra outside
  obtain ⟨other, listed, left⟩ : ∃ other ∈ second, other ∉ first := by
    by_contra none
    push Not at none
    have perm := (two.nodup.subperm none).perm_of_length_le (one.length_eq two).le
    exact outside (perm.mem_iff.mpr inside)
  have above := one.above other (two.given listed) left entry inside
  have below := two.above entry (one.given inside) outside other listed
  exact (Entry.above_iff.mp above).asymm (Entry.above_iff.mp below)

theorem unique (one : BestOf entries limit first) (two : BestOf entries limit second) :
    first = second := by
  have perm := (one.nodup.subperm (one.subset two)).perm_of_length_le (one.length_eq two).ge
  refine List.Perm.eq_of_pairwise ?_ one.ordered two.ordered perm
  intro a b _ _ above below
  exact absurd (Entry.above_iff.mp above) (Entry.above_iff.mp below).asymm

end BestOf

/-- Which entries are selected and in which order is told by what the best of them are, so the order
in which the entries come does not count, and a higher limit only adds at the end. -/
theorem selectCandidates_best (apart : (entries.map Entry.path).Nodup) :
    (∀ limit chosen, chosen = selectCandidates entries limit ↔ BestOf entries limit chosen) ∧
    (∀ limit others, others.Perm entries →
      selectCandidates others limit = selectCandidates entries limit) ∧
    ∀ limit larger, limit ≤ larger →
      selectCandidates entries limit <+: selectCandidates entries larger := by
  refine ⟨fun limit chosen => ⟨?_, ?_⟩, fun limit others perm => ?_, fun limit larger le => ?_⟩
  · rintro rfl
    exact bestOf_selectCandidates apart limit
  · intro best
    exact best.unique (bestOf_selectCandidates apart limit)
  · rw [selectCandidates, selectCandidates, rank_eq_of_perm apart perm]
  · exact List.take_prefix_take_left (Int.toNat_le_toNat le)

def tiedEntries : List Entry :=
  [{ path := "b", score := 5 }, { path := "a", score := 5 }, { path := "c", score := 9 }]

theorem tiedEntries_best :
    (tiedEntries.map Entry.path).Nodup ∧
      BestOf tiedEntries 2 [{ path := "c", score := 9 }, { path := "a", score := 5 }] ∧
      selectCandidates tiedEntries.reverse 2 = selectCandidates tiedEntries 2 ∧
      selectCandidates tiedEntries (-1) <+: selectCandidates tiedEntries 2 := by
  have apart : (tiedEntries.map Entry.path).Nodup := by decide
  obtain ⟨best, invariant, fronts⟩ := selectCandidates_best apart
  exact ⟨apart, (best 2 _).mp (by cbv), invariant 2 _ (List.reverse_perm _), fronts _ _ (by decide)⟩

theorem rank_of_gain {f g : Entry} (path : g.path = f.path) (gain : f.score ≤ g.score)
    (others : List Entry) : ∃ ahead passed behind,
      rank (f :: others) = ahead ++ passed ++ f :: behind ∧
        rank (g :: others) = ahead ++ g :: (passed ++ behind) := by
  obtain ⟨before, after, whole, rest, _⟩ :=
    List.mergeSort_cons ranksBefore_trans ranksBefore_total f others
  obtain ⟨ahead, later, gained, again, beaten⟩ :=
    List.mergeSort_cons ranksBefore_trans ranksBefore_total g others
  have gains : g.rankKey ≤ f.rankKey := by
    rw [Entry.rankKey, Entry.rankKey, path, Prod.Lex.toLex_le_toLex']
    exact ⟨Int.neg_le_neg gain, fun _ => le_refl _⟩
  have front : ahead <+: before := by
    have own : before <+: ahead ++ later := by
      rw [← again, rest]
      exact List.prefix_append before after
    have either := List.prefix_or_prefix_of_prefix (List.prefix_append ahead later) own
    refine either.elim id fun longer => ?_
    obtain ⟨more, rfl⟩ := longer
    cases more with
    | nil => simp
    | cons next more =>
        -- `next` stands behind `f` in one ranking and before `g` in the other
        have behind : next ∈ after := by
          rw [rest, List.append_assoc] at again
          rw [List.append_cancel_left again]
          exact List.mem_append_left _ List.mem_cons_self
        have sorted := rank_sorted (f :: others)
        rw [rank, whole] at sorted
        have least := (List.pairwise_cons.mp (List.pairwise_append.mp sorted).2.1).1 next behind
        have most := beaten next (List.mem_append_right _ List.mem_cons_self)
        rw [ranksBefore_iff.mpr (gains.trans least)] at most
        exact absurd most Bool.false_ne_true
  obtain ⟨passed, rfl⟩ := front
  refine ⟨ahead, passed, after, whole, ?_⟩
  rw [rest, List.append_assoc] at again
  rw [rank, gained, List.append_cancel_left again]

/-- A flag that speaks for an entry: two that are set, and one that is not. -/
inductive Favour
  | entrypoint
  | config
  | handwritten

namespace Favour

def grant : Favour → Entry → Entry
  | .entrypoint, entry => { entry with isEntrypoint := true }
  | .config, entry => { entry with isConfig := true }
  | .handwritten, entry => { entry with isGenerated := false }

def granted : Favour → Entry → Bool
  | .entrypoint, entry => entry.isEntrypoint
  | .config, entry => entry.isConfig
  | .handwritten, entry => !entry.isGenerated

def worth : Favour → Int
  | .entrypoint => entrypointBonus
  | .config => configBonus
  | .handwritten => generatedPenalty

theorem worth_nonneg (favour : Favour) : 0 ≤ favour.worth := by cases favour <;> decide

theorem path_grant (favour : Favour) (entry : Entry) : (favour.grant entry).path = entry.path := by
  cases favour <;> rfl

end Favour

def Entry.modifier (entry : Entry) : Option Adapter → Except String Int
  | some adapter => adapter.modifier entry.path entry.depth entry.isEntrypoint entry.isConfig
  | none => .ok 0

def Entry.ownScore (entry : Entry) (priority : List Rule) : Int :=
  cond entry.isEntrypoint entrypointBonus 0 + cond entry.isConfig configBonus 0 +
    depthBonus entry.depth - cond entry.isGenerated generatedPenalty 0 +
    cond (priority.any (·.holds entry.path false)) priorityBonus 0

theorem scoreOf_of_modifier {entry : Entry} {adapter : Option Adapter} {n : Int}
    (weighed : entry.modifier adapter = .ok n) (priority : List Rule) :
    scoreOf entry adapter priority = .ok (n + entry.ownScore priority) := by
  have parts : scoreOf entry adapter priority = (entry.modifier adapter).map fun n =>
      n + (if entry.isEntrypoint then entrypointBonus else 0) +
        (if entry.isConfig then configBonus else 0) + depthBonus entry.depth -
        (if entry.isGenerated then generatedPenalty else 0) +
        (if priority.any (·.holds entry.path false) then priorityBonus else 0) := by
    cases adapter with
    | none => rfl
    | some adapter => exact bind_pure_comp _ _
  rw [parts, weighed]
  refine congrArg Except.ok ?_
  simp only [Entry.ownScore, Bool.cond_eq_ite]
  ring

theorem ownScore_grant {favour : Favour} {entry : Entry} (lacking : favour.granted entry = false)
    (priority : List Rule) :
    (favour.grant entry).ownScore priority = entry.ownScore priority + favour.worth := by
  cases favour with
  | entrypoint =>
      have off : entry.isEntrypoint = false := lacking
      simp only [Favour.grant, Entry.ownScore, Favour.worth, off, cond_true, cond_false]
      ring
  | config =>
      have off : entry.isConfig = false := lacking
      simp only [Favour.grant, Entry.ownScore, Favour.worth, off, cond_true, cond_false]
      ring
  | handwritten =>
      have on : entry.isGenerated = true := by simpa [Favour.granted] using lacking
      simp only [Favour.grant, Entry.ownScore, Favour.worth, on, cond_true, cond_false]
      ring

/-- The adapters that can weigh every path: those that are always there, and any that weighs a path
without regard to the flags. -/
def Adapter.Steady (adapter : Adapter) : Prop :=
  adapter ∈ Profiles.all ∨ ∀ path depth, ∃ n, ∀ isEntrypoint isConfig,
    adapter.adjust path depth isEntrypoint isConfig = .ok n

theorem Adapter.Steady.exists_modifier {adapter : Adapter} (steady : adapter.Steady)
    (path : String) (depth : Int) : ∃ n, ∀ isEntrypoint isConfig,
      adapter.modifier path depth isEntrypoint isConfig = .ok n := by
  have weighed : ∃ n, ∀ isEntrypoint isConfig,
      adapter.adjust path depth isEntrypoint isConfig = .ok n := by
    rcases steady with known | plain
    · simp only [Profiles.all, List.mem_cons, List.not_mem_nil, or_false] at known
      rcases known with rfl | rfl | rfl | rfl <;> exact ⟨_, fun _ _ => rfl⟩
    · exact plain path depth
  obtain ⟨n, given⟩ := weighed
  refine ⟨adapter.pathBonus path + n, fun isEntrypoint isConfig => ?_⟩
  rw [Adapter.modifier, given]
  rfl

theorem exists_modifier {adapter : Option Adapter} (steady : ∀ known ∈ adapter, known.Steady)
    (entry : Entry) : ∃ n, entry.modifier adapter = .ok n ∧
      ∀ favour : Favour, (favour.grant entry).modifier adapter = .ok n := by
  cases adapter with
  | none => exact ⟨0, rfl, fun _ => rfl⟩
  | some known =>
      obtain ⟨n, weighed⟩ := (steady known rfl).exists_modifier entry.path entry.depth
      refine ⟨n, weighed _ _, fun favour => ?_⟩
      cases favour <;> exact weighed _ _

theorem scoreOf_granted (favour : Favour) {f : Entry} {adapter : Option Adapter}
    {priority : List Rule} (steady : ∀ known ∈ adapter, known.Steady)
    (scored : scoreOf f adapter priority = .ok f.score) (lacking : favour.granted f = false) :
    scoreOf (favour.grant f) adapter priority = .ok (f.score + favour.worth) := by
  obtain ⟨n, weighed, again⟩ := exists_modifier steady f
  rw [scoreOf_of_modifier weighed] at scored
  rw [scoreOf_of_modifier (again favour), ownScore_grant lacking, ← Except.ok.inj scored, add_assoc]

def rankPlace (entries : List Entry) (path : String) : Nat :=
  ((rank entries).map Entry.path).idxOf path

theorem mem_selectCandidates_iff (apart : (entries.map Entry.path).Nodup) {entry : Entry}
    (member : entry ∈ entries) (limit : Int) :
    entry ∈ selectCandidates entries limit ↔ rankPlace entries entry.path < limit.toNat := by
  have ranked := (rank_perm entries).mem_iff.mpr member
  rw [rankPlace, ← List.mem_take_iff_idxOf_lt (List.mem_map_of_mem ranked), ← List.map_take,
    selectCandidates]
  constructor
  · exact List.mem_map_of_mem
  · intro inside
    obtain ⟨other, chosen, same⟩ := List.mem_map.mp inside
    have whole := List.mem_of_mem_take chosen
    exact List.inj_on_of_nodup_map (rank_apart apart) whole ranked same ▸ chosen

theorem rankPlace_of_parts {ahead behind : List Entry} {entry : Entry}
    (apart : (entries.map Entry.path).Nodup) (parts : rank entries = ahead ++ entry :: behind) :
    rankPlace entries entry.path = ahead.length := by
  have paths := rank_apart apart
  rw [parts, List.map_append, List.map_cons] at paths
  have fresh : entry.path ∉ ahead.map Entry.path := fun inside =>
    (List.nodup_append.mp paths).2.2 _ inside _ List.mem_cons_self rfl
  rw [rankPlace, parts, List.map_append, List.map_cons, List.idxOf_append_of_notMem fresh,
    List.idxOf_cons_self, List.length_map, Nat.add_zero]

/-- An entry that gets a flag that speaks for it never stands further back, the other entries keep
their order, and it is among the candidates if it was before. -/
theorem favour_never_demotes {before after : List Entry} {f : Entry} {adapter : Option Adapter}
    {priority : List Rule} (favour : Favour)
    (apart : ((before ++ f :: after).map Entry.path).Nodup)
    (steady : ∀ known ∈ adapter, known.Steady)
    (scored : scoreOf f adapter priority = .ok f.score) (lacking : favour.granted f = false) :
    ∃ score, scoreOf (favour.grant f) adapter priority = .ok score ∧
      ∀ g, g = { favour.grant f with score := score } →
        rankPlace (before ++ g :: after) f.path ≤ rankPlace (before ++ f :: after) f.path ∧
        (rank (before ++ g :: after)).filter (·.path ≠ f.path) =
          (rank (before ++ f :: after)).filter (·.path ≠ f.path) ∧
        ∀ limit, f ∈ selectCandidates (before ++ f :: after) limit →
          g ∈ selectCandidates (before ++ g :: after) limit := by
  refine ⟨f.score + favour.worth, scoreOf_granted favour steady scored lacking, ?_⟩
  intro g same
  have path : g.path = f.path := by
    rw [same]
    exact favour.path_grant f
  have gain : f.score ≤ g.score := by
    rw [same]
    exact Int.le_add_of_nonneg_right favour.worth_nonneg
  have still : ((before ++ g :: after).map Entry.path).Nodup := by simpa [path] using apart
  obtain ⟨ahead, passed, behind, first, second⟩ := rank_of_gain path gain (before ++ after)
  rw [rank_eq_of_perm apart List.perm_middle.symm] at first
  rw [rank_eq_of_perm still List.perm_middle.symm] at second
  have place : rankPlace (before ++ g :: after) f.path ≤
      rankPlace (before ++ f :: after) f.path := by
    rw [rankPlace_of_parts apart first, ← path, rankPlace_of_parts still second,
      List.length_append]
    exact Nat.le_add_right _ _
  refine ⟨place, ?_, fun limit chosen => ?_⟩
  · rw [first, second]
    simp [path]
  · rw [mem_selectCandidates_iff apart (by simp)] at chosen
    rw [mem_selectCandidates_iff still (by simp), path]
    omega

def lowEntry : Entry := { path := "src/b.py", depth := 1, language := some "python", score := 50 }

def highEntry : Entry := { path := "a.txt", score := 60 }

theorem lowEntry_promoted :
    (([highEntry] ++ lowEntry :: []).map Entry.path).Nodup ∧
      scoreOf lowEntry (some Profiles.python) [] = .ok 50 ∧ lowEntry.isConfig = false ∧
      rankPlace [highEntry, lowEntry] "src/b.py" = 1 ∧
      ∃ score, scoreOf { lowEntry with isConfig := true } (some Profiles.python) [] = .ok score ∧
        rankPlace [highEntry, { lowEntry with isConfig := true, score := score }] "src/b.py" ≤
          1 := by
  have apart : (([highEntry] ++ lowEntry :: []).map Entry.path).Nodup := by decide
  have steady : ∀ known ∈ some Profiles.python, known.Steady := by
    rintro _ ⟨⟩
    exact .inl (by simp [Profiles.all])
  have scored : scoreOf lowEntry (some Profiles.python) [] = .ok 50 := rfl
  have place : rankPlace [highEntry, lowEntry] "src/b.py" = 1 := by cbv
  obtain ⟨score, given, facts⟩ := favour_never_demotes .config apart steady scored rfl
  have moved := (facts _ rfl).1
  exact ⟨apart, scored, rfl, place, score, given, moved.trans_eq place⟩

end SourceAtlas
