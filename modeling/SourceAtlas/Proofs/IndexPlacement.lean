import SourceAtlas.Indexing
import SourceAtlas.Proofs.TwinSites

/-!
Where a run keeps its index. The index stands in a directory of its own below the root, and its name
is a proper one whatever the name of the root.
-/
namespace SourceAtlas

open Text

theorem Slugs.alphanum_of_mem_runsFrom {run text : List Char} (clean : ∀ c ∈ run, c.isAlphanum)
    {piece : List Char} (member : piece ∈ runsFrom run text) : ∀ c ∈ piece, c.isAlphanum := by
  fun_induction runsFrom run text
  case case1 => simp at member
  case case2 run filled =>
    rw [List.mem_singleton.mp member]
    simpa using clean
  case case3 run c rest alphanum ih => exact ih (List.forall_mem_cons.mpr ⟨alphanum, clean⟩) member
  case case4 run c rest other empty ih => exact ih (by simp) member
  case case5 run c rest other filled ih =>
    rcases List.mem_cons.mp member with rfl | later
    · simpa using clean
    · exact ih (by simp) later

theorem forall_mem_intercalate {α : Type} {p : α → Prop} {separator : α} (spare : p separator)
    {pieces : List (List α)} (each : ∀ piece ∈ pieces, ∀ a ∈ piece, p a) :
    ∀ a ∈ [separator].intercalate pieces, p a := by
  induction pieces with
  | nil => simp
  | cons piece rest ih =>
      rw [List.forall_mem_cons] at each
      cases rest with
      | nil => simpa using each.1
      | cons next rest =>
          rw [List.intercalate_cons_cons]
          intro a member
          rcases List.mem_append.mp member with front | later
          · rcases List.mem_append.mp front with inside | between
            · exact each.1 a inside
            · exact List.mem_singleton.mp between ▸ spare
          · exact ih each.2 a later

theorem toLower_cases (c : Char) :
    c.toLower.isLower = true ∨ c.isUpper = false ∧ c.toLower = c := by
  by_cases upper : c.val ≥ 'A'.val ∧ c.val ≤ 'Z'.val
  · have low : 65 ≤ c.val.toNat := upper.1
    have high : c.val.toNat ≤ 90 := upper.2
    have value : (c.val + 32).toNat = c.val.toNat + 32 := by
      rw [UInt32.toNat_add]
      change (c.val.toNat + 32) % 4294967296 = _
      omega
    have down : c.toLower.val = c.val + 32 := congrArg Char.val (dif_pos upper)
    refine .inl (Bool.and_eq_true_iff.mpr ⟨decide_eq_true ?_, decide_eq_true ?_⟩) <;> rw [down]
    · change 97 ≤ (c.val + 32).toNat
      omega
    · change (c.val + 32).toNat ≤ 122
      omega
  · exact .inr ⟨decide_eq_false upper, dif_neg upper⟩

theorem toLower_ne {c d : Char} (small : d.isLower = false) (other : d.isUpper = false → c ≠ d) :
    c.toLower ≠ d := by
  rintro rfl
  rcases toLower_cases c with lower | ⟨capital, same⟩
  · rw [lower] at small
    cases small
  · rw [same] at other
    exact other capital rfl

theorem Slugs.not_mem_file {d : Char} (other : d.isAlphanum = false) (mark : d ≠ '_')
    (name : String) : d ∉ (ofName name).file.toList := by
  have letter : d.isAlpha = false := (Bool.or_eq_false_iff.mp other).1
  have cases : d.isUpper = false ∧ d.isLower = false := Bool.or_eq_false_iff.mp letter
  intro member
  unfold ofName at member
  simp only [String.toList_ofList, List.mem_map] at member
  obtain ⟨c, inside, lowered⟩ := member
  refine toLower_ne cases.2 (fun _ => ?_) lowered
  refine forall_mem_intercalate (p := (· ≠ d)) (Ne.symm mark) (fun piece listed => ?_) c inside
  have all : ∀ c ∈ piece, c.isAlphanum := by
    split at listed
    · have letters : "repo".toList.all Char.isAlphanum = true := by decide
      rw [List.mem_singleton.mp listed]
      exact List.all_eq_true.mp letters
    · exact alphanum_of_mem_runsFrom (by simp) listed
  rintro c member rfl
  rw [all c member] at other
  cases other

theorem properName_directoryName : ProperName Store.directoryName :=
  ⟨by decide, by decide, by decide, by decide⟩

namespace Indexing

def indexEnding (settings : Settings) : String :=
  if settings.encrypt then "_INDEX.md.enc" else "_INDEX.md"

def indexName (settings : Settings) (root : Path) : String :=
  (Slugs.ofName (repositoryOf root)).file ++ indexEnding settings

theorem properName_indexName (settings : Settings) (root : Path) :
    ProperName (indexName settings root) := by
  have slug : '/' ∉ (Slugs.ofName (repositoryOf root)).file.toList :=
    Slugs.not_mem_file (by decide) (by decide) _
  have size : 9 ≤ (indexName settings root).toList.length := by
    have least : 9 ≤ (indexEnding settings).toList.length := by
      unfold indexEnding
      cases settings.encrypt <;> decide
    rw [indexName, String.toList_append, List.length_append]
    omega
  have short {name : String} (few : name.toList.length < 9) : indexName settings root ≠ name := by
    rintro rfl
    omega
  refine ⟨short (by decide), short (by decide), short (by decide), fun member => ?_⟩
  rw [indexName, String.toList_append, List.mem_append] at member
  refine member.elim slug ?_
  unfold indexEnding
  cases settings.encrypt <;> decide

/-- Where the index of a directory is kept, if the settings do not say otherwise. -/
def indexPath (settings : Settings) (root : Path) : Path :=
  { root with names := root.names ++ [Store.directoryName, indexName settings root] }

theorem repositoryPath_storeOf (site : Site) (settings : Settings) (root : Path) :
    (storeOf site settings root).repositoryPath =
      indexPath { settings with encrypt := false } root := by
  have name := properName_indexName { settings with encrypt := false } root
  have file : (storeOf site settings root).fileName =
    indexName { settings with encrypt := false } root := rfl
  have base : (storeOf site settings root).root = root := rfl
  rw [Store.repositoryPath, file, base, properName_directoryName.child, name.child, indexPath,
    List.append_assoc, List.singleton_append]

theorem primary_storeOf (site : Site) {settings : Settings} (root : Path)
    (within : settings.store = "repo") (unset : settings.outputPath.getD "" = "") :
    (storeOf site settings root).primary site =
      .ok (storeOf site settings root).repositoryPath := by
  have custom : (storeOf site settings root).outputPath.filter (!·.isEmpty) = none := by
    change settings.outputPath.filter (!·.isEmpty) = none
    cases output : settings.outputPath with
    | none => rfl
    | some text =>
        rw [output] at unset
        simpa using unset
  have location : (storeOf site settings root).location = "repo" := within
  rw [Store.primary, custom, location]
  exact congrArg Except.ok (if_neg (by decide))

theorem target_storeOf (site : Site) {settings : Settings} (root : Path)
    (within : settings.store = "repo") (unset : settings.outputPath.getD "" = "") :
    (do (storeOf site settings root).target (← (storeOf site settings root).primary site)) =
      .ok (indexPath settings root) := by
  have encrypt : (storeOf site settings root).encrypt = settings.encrypt := rfl
  rw [primary_storeOf site root within unset, repositoryPath_storeOf]
  change (storeOf site settings root).target _ = _
  rw [Store.target, encrypt]
  cases sealed : settings.encrypt with
  | false =>
      have same : ({ settings with encrypt := false } : Settings) = settings := by
        cases settings
        simp_all
      rw [same]
      rfl
  | true =>
      have last : (indexPath { settings with encrypt := false } root).name =
          indexName { settings with encrypt := false } root := by
        simp [Path.name, indexPath]
      have filled := (properName_indexName { settings with encrypt := false } root).filled
      have whole : indexName { settings with encrypt := false } root ++ Store.sealedEnding =
          indexName settings root := by
        simp only [indexName, indexEnding, sealed, String.append_assoc]
        rfl
      rw [last, if_neg (by simp), if_neg (by simpa using filled), whole]
      simp [Path.withName, indexPath]

theorem secondary_storeOf (site after : Site) {settings : Settings} (root : Path)
    (within : settings.store = "repo") :
    (storeOf site settings root).secondary after = .ok [] := by
  unfold Store.secondary
  have location : (storeOf site settings root).location = "repo" := within
  rw [location]
  rfl

end Indexing

end SourceAtlas
