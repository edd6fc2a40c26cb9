import SourceAtlas.Registry
import SourceAtlas.Section
import SourceAtlas.Proofs.IndexPlacement
import SourceAtlas.Proofs.TextOrder
import SourceAtlas.Proofs.TextPieces

/-!
The name of an index among the names that a scan looks for: it is no source and no manifest of an
adapter that is always there, no file to build or test with, and no test.
-/
namespace SourceAtlas

open Text

namespace Glob

def Plain (c : Char) : Prop := c ≠ '*' ∧ c ≠ '?' ∧ c ≠ '['

instance (c : Char) : Decidable (Plain c) :=
  inferInstanceAs (Decidable (c ≠ '*' ∧ c ≠ '?' ∧ c ≠ '['))

theorem plain_of_all {chars : List Char} (all : chars.all (fun c => decide (Plain c)) = true) :
    ∀ c ∈ chars, Plain c :=
  fun c member => of_decide_eq_true (List.all_eq_true.mp all c member)

theorem partsFrom_plain {chars : List Char} (plain : ∀ c ∈ chars, Plain c) (n : Nat)
    (rest : List Char) :
    partsFrom (chars.length + n) (chars ++ rest) = chars.map .exactly ++ partsFrom n rest := by
  induction chars with
  | nil => simp
  | cons c chars ih =>
      rw [List.forall_mem_cons] at plain
      obtain ⟨⟨star, question, bracket⟩, others⟩ := plain
      rw [List.length_cons, List.cons_append, Nat.add_right_comm, List.map_cons, List.cons_append,
        ← ih others]
      rw [partsFrom]
      · exact star
      · exact question
      · exact bracket

theorem matchParts_nil {parts : List Part} : matchParts parts [] = false := by
  induction parts with
  | nil => rfl
  | cons part rest ih => cases part <;> exact ih

theorem matchParts_exactly (chars : List Char) (parts : List Part) (text : List Char) :
    matchParts (chars.map .exactly ++ parts) [text] =
      (chars.isPrefixOf text && matchParts parts [text.drop chars.length]) := by
  induction chars generalizing text with
  | nil => simp
  | cons c chars ih =>
      cases text with
      | nil =>
          rw [List.map_cons, List.cons_append, matchParts]
          exact matchParts_nil
      | cons d text =>
          by_cases same : d = c
          · subst same
            rw [List.map_cons, List.cons_append, matchParts]
            have step : (Part.exactly d).step [d :: text] = [text] := by
              simp [Part.step]
            rw [step, ih]
            simp
          · rw [List.map_cons, List.cons_append, matchParts]
            have step : (Part.exactly c).step [d :: text] = [] := by
              simp [Part.step, same]
            rw [step, matchParts_nil]
            simp [Ne.symm same]

end Glob

theorem globMatches_plain {pattern : String} (plain : ∀ c ∈ pattern.toList, Glob.Plain c)
    (text : String) : globMatches pattern text = (text == pattern) := by
  have parts : Glob.parts pattern = pattern.toList.map .exactly ++ [] := by
    have whole := Glob.partsFrom_plain plain 0 []
    rw [List.append_nil, Nat.add_zero] at whole
    rw [Glob.parts, ← String.length_toList]
    exact whole
  rw [globMatches, parts, Glob.matchParts_exactly]
  have ends (rest : List Char) : Glob.matchParts [] [rest] = rest.isEmpty := by
    simp [Glob.matchParts]
  rw [ends, Bool.eq_iff_iff, Bool.and_eq_true, List.isPrefixOf_iff_prefix, List.isEmpty_iff,
    List.drop_eq_nil_iff, beq_iff_eq]
  constructor
  · rintro ⟨front, short⟩
    exact String.toList_inj.mp (front.eq_of_length_le short).symm
  · rintro rfl
    exact ⟨List.prefix_rfl, Nat.le_refl _⟩

theorem front_of_globMatches {front : String} (plain : ∀ c ∈ front.toList, Glob.Plain c)
    {marks text : String} (matched : globMatches (front ++ marks) text = true) :
    front.toList <+: text.toList := by
  have parts : Glob.parts (front ++ marks) =
      front.toList.map .exactly ++ Glob.partsFrom marks.length marks.toList := by
    rw [Glob.parts, String.length_append, String.toList_append, ← String.length_toList (s := front)]
    exact Glob.partsFrom_plain plain _ _
  rw [globMatches, parts, Glob.matchParts_exactly, Bool.and_eq_true] at matched
  exact List.isPrefixOf_iff_prefix.mp matched.1

theorem Path.endingOf_append {name : String} {front tail : List Char} (filled : front ≠ [])
    (more : tail ≠ []) (single : '.' ∉ tail) (parts : name.toList = front ++ '.' :: tail) :
    Path.endingOf name = .ofList ('.' :: tail) := by
  have reversed : name.toList.reverse = tail.reverse ++ '.' :: front.reverse := by
    rw [parts]
    simp
  have tail_eq : (tail.reverse ++ '.' :: front.reverse).takeWhile (· ≠ '.') = tail.reverse := by
    rw [List.takeWhile_append_of_pos]
    · simp
    · intro c member
      have other : c ≠ '.' := fun same => single (same ▸ List.mem_reverse.mp member)
      simpa using other
  have size : ¬tail.reverse.length + 1 ≥ (tail.reverse ++ '.' :: front.reverse).length := by
    have positive := List.length_pos_iff.mpr filled
    simp only [List.length_append, List.length_cons, List.length_reverse]
    omega
  unfold Path.endingOf
  rw [reversed]
  dsimp only
  rw [tail_eq, decide_eq_false size, List.reverse_reverse]
  simp [more]

/-- Whether an adapter wants files of a name to be read. -/
def Adapter.takes (adapter : Adapter) (name : String) : Bool :=
  (!(endingKey name).isEmpty && adapter.handles (endingKey name)) ||
    adapter.configs.any (globMatches · name)

theorem ScanRules.isEligible_compile (adapters : List Adapter) (overrides : Overrides)
    (ignored : List Rule) (name : String) :
    (compile adapters overrides ignored).isEligible name = adapters.any (·.takes name) := by
  unfold isEligible compile Adapter.takes Adapter.handles
  rw [Bool.eq_iff_iff]
  simp only [Bool.or_eq_true, Bool.and_eq_true, List.contains_iff_mem, List.any_eq_true, unionOf,
    mem_distinct, List.mem_map, List.mem_flatMap]
  constructor
  · rintro (⟨filled, ending, ⟨adapter, known, handled⟩, same⟩ |
      ⟨config, ⟨adapter, known, own⟩, fits⟩)
    · exact ⟨adapter, known, .inl ⟨filled, ending, handled, same⟩⟩
    · exact ⟨adapter, known, .inr ⟨config, own, fits⟩⟩
  · rintro ⟨adapter, known, ⟨filled, ending, handled, same⟩ | ⟨config, own, fits⟩⟩
    · exact .inl ⟨filled, ending, ⟨adapter, known, handled⟩, same⟩
    · exact .inr ⟨config, ⟨adapter, known, own⟩, fits⟩

namespace Indexing
variable (settings : Settings) (root : Path)

theorem indexEnding_cases :
    indexEnding settings = "_INDEX.md" ∨ indexEnding settings = "_INDEX.md.enc" := by
  unfold indexEnding
  cases settings.encrypt
  · exact .inl rfl
  · exact .inr rfl

theorem toList_indexName : (indexName settings root).toList =
    (Slugs.ofName (repositoryOf root)).file.toList ++ (indexEnding settings).toList := by
  rw [indexName, String.toList_append]

theorem indexName_ne {text : String} (plain : ¬"_INDEX.md".toList <:+ text.toList)
    (sealed : ¬"_INDEX.md.enc".toList <:+ text.toList) : indexName settings root ≠ text := by
  rintro rfl
  rw [toList_indexName] at plain sealed
  rcases indexEnding_cases settings with ending | ending <;> rw [ending] at plain sealed
  · exact plain (List.suffix_append _ _)
  · exact sealed (List.suffix_append _ _)

theorem endingKey_indexName :
    endingKey (indexName settings root) = if settings.encrypt then ".enc" else ".md" := by
  have single : (Path.ofText (indexName settings root)).name = indexName settings root := by
    have names := (ProperNames.nil.snoc (properName_indexName settings root)).ofText_join
    rw [List.nil_append, join, String.intercalate_singleton] at names
    rw [Path.name, names]
    rfl
  have key (front tail : List Char) (filled : front ≠ []) (more : tail ≠ []) (free : '.' ∉ tail)
      (parts : (indexName settings root).toList = front ++ '.' :: tail) :
      endingKey (indexName settings root) = lower (.ofList ('.' :: tail)) := by
    rw [endingKey, Path.ending, single, Path.endingOf_append filled more free parts]
  have whole := toList_indexName settings root
  unfold indexEnding at whole
  cases sealed : settings.encrypt with
  | false =>
      rw [sealed] at whole
      rw [key (_ ++ "_INDEX".toList) "md".toList (by simp) (by decide) (by decide)
        (by rw [whole, List.append_assoc]; rfl)]
      decide +kernel
  | true =>
      rw [sealed] at whole
      rw [key (_ ++ "_INDEX.md".toList) "enc".toList (by simp) (by decide) (by decide)
        (by rw [whole, List.append_assoc]; rfl)]
      decide +kernel

end Indexing

/-- An adapter neither takes the name of an index nor is detected by it. -/
structure Adapter.Leaves (adapter : Adapter) (name : String) : Prop where
  untaken : adapter.takes name = false
  undetected : ∀ file ∈ adapter.detectionFiles,
    Store.directoryName ∉ (Path.ofText file).names ∧ name ∉ (Path.ofText file).names

namespace Indexing

theorem takes_indexName {adapter : Adapter} (settings : Settings) (root : Path)
    (endings : (adapter.extensions.map lower).all (· ∉ [".md", ".enc"]) = true)
    (plain : adapter.configs.all (·.toList.all fun c => decide (Glob.Plain c)) = true)
    (others : adapter.configs.all (fun config => !"_INDEX.md".toList.isSuffixOf config.toList &&
      !"_INDEX.md.enc".toList.isSuffixOf config.toList) = true) :
    adapter.takes (indexName settings root) = false := by
  have handled : adapter.handles (endingKey (indexName settings root)) = false := by
    rw [endingKey_indexName, Adapter.handles]
    rw [List.all_eq_true] at endings
    refine Bool.eq_false_iff.mpr fun inside => ?_
    have apart := endings _ (List.contains_iff_mem.mp inside)
    cases settings.encrypt <;> simp at apart
  have unmatched : adapter.configs.any (globMatches · (indexName settings root)) = false := by
    rw [List.any_eq_false]
    intro config own matched
    rw [List.all_eq_true] at plain others
    have ending := others config own
    rw [globMatches_plain (Glob.plain_of_all (plain config own)), beq_iff_eq] at matched
    simp only [Bool.and_eq_true, Bool.not_eq_true', Bool.eq_false_iff, ne_eq,
      List.isSuffixOf_iff_suffix] at ending
    exact indexName_ne settings root ending.1 ending.2 matched
  rw [Adapter.takes, handled, unmatched, Bool.and_false, Bool.or_false]

theorem standard_leaves (settings : Settings) (root : Path) :
    ∀ adapter ∈ Registry.standard.adapters, adapter.Leaves (indexName settings root) := by
  have known : Registry.standard.adapters = Profiles.all := rfl
  have leaves {adapter : Adapter}
      (untaken : adapter.takes (indexName settings root) = false)
      (undetected : adapter.detectionFiles.all (fun file => (Path.ofText file).names.all fun part =>
        part ≠ Store.directoryName && !"_INDEX.md".toList.isSuffixOf part.toList &&
          !"_INDEX.md.enc".toList.isSuffixOf part.toList) = true) :
      adapter.Leaves (indexName settings root) := by
    refine ⟨untaken, fun file own => ?_⟩
    have parts := List.all_eq_true.mp (List.all_eq_true.mp undetected file own)
    simp only [Bool.and_eq_true, decide_eq_true_eq, Bool.not_eq_true', Bool.eq_false_iff, ne_eq,
      List.isSuffixOf_iff_suffix] at parts
    exact ⟨fun member => (parts _ member).1.1 rfl, fun member =>
      indexName_ne settings root (parts _ member).1.2 (parts _ member).2 rfl⟩
  rw [known]
  simp only [Profiles.all, List.forall_mem_cons]
  refine ⟨leaves (takes_indexName settings root ?_ ?_ ?_) ?_,
    leaves (takes_indexName settings root ?_ ?_ ?_) ?_,
    leaves (takes_indexName settings root ?_ ?_ ?_) ?_,
    leaves (takes_indexName settings root ?_ ?_ ?_) ?_, fun _ none => absurd none List.not_mem_nil⟩
  all_goals decide +kernel

theorem afterLast_append {separator : Char} {front name : String}
    (free : separator ∉ name.toList) :
    afterLast separator (front ++ .ofList [separator] ++ name) = name := by
  have clean : ∀ c ∈ name.toList.reverse, decide (c ≠ separator) = true := fun c member =>
    decide_eq_true fun same => free (same ▸ List.mem_reverse.mp member)
  have stop : (front.toList ++ [separator]).reverse.takeWhile (· ≠ separator) = [] := by simp
  rw [afterLast, String.toList_append, String.toList_append, String.toList_ofList,
    List.reverse_append, List.takeWhile_append_of_pos clean, stop, List.append_nil,
    List.reverse_reverse, String.ofList_toList]

variable (settings : Settings) (root : Path)

def indexEntry : String := Store.directoryName ++ "/" ++ indexName settings root

theorem afterLast_indexEntry :
    afterLast '/' (indexEntry settings root) = indexName settings root :=
  afterLast_append (properName_indexName settings root).whole

theorem endsWith_indexName {back : String}
    (plain : ¬back.toList <:+ "_INDEX.md".toList ∧ ¬"_INDEX.md".toList <:+ back.toList)
    (sealed : ¬back.toList <:+ "_INDEX.md.enc".toList ∧ ¬"_INDEX.md.enc".toList <:+ back.toList) :
    endsWith (indexName settings root) back = false := by
  refine Bool.eq_false_iff.mpr fun ends => ?_
  rw [endsWith_iff, toList_indexName] at ends
  have either := List.suffix_or_suffix_of_suffix ends (List.suffix_append _ _)
  rcases indexEnding_cases settings with ending | ending <;> rw [ending] at either
  · exact either.elim plain.1 plain.2
  · exact either.elim sealed.1 sealed.2

theorem isTestFile_indexEntry : Section.isTestFile (indexEntry settings root) = false := by
  have others : ∀ back ∈ ".py" :: Section.testEndings,
      endsWith (indexName settings root) back = false := by
    have apart : ∀ back ∈ ".py" :: Section.testEndings,
        (¬back.toList <:+ "_INDEX.md".toList ∧ ¬"_INDEX.md".toList <:+ back.toList) ∧
          ¬back.toList <:+ "_INDEX.md.enc".toList ∧ ¬"_INDEX.md.enc".toList <:+ back.toList := by
      decide
    exact fun back listed =>
      endsWith_indexName settings root (apart back listed).1 (apart back listed).2
  rw [List.forall_mem_cons] at others
  unfold Section.isTestFile
  rw [afterLast_indexEntry]
  simp only [others.1, Bool.and_false, Bool.or_false, List.any_eq_false, Bool.not_eq_true]
  exact others.2

theorem infix_of_infix_append {c : Char} {piece front rest : List Char} (free : c ∉ front)
    (inside : c :: piece <:+: front ++ rest) : c :: piece <:+: rest := by
  induction front with
  | nil => exact inside
  | cons d front ih =>
      rw [List.mem_cons, not_or] at free
      rcases List.infix_cons_iff.mp inside with here | later
      · exact absurd (List.cons_prefix_cons.mp here).1 free.1
      · exact ih free.2 later

theorem includes_indexEntry {pattern : String} (slash : '/' ∈ pattern.toList)
    (own : ¬pattern.toList <+: ".codeindex/".toList)
    (longer : ¬".codeindex/".toList <+: pattern.toList) :
    includes ("/" ++ indexEntry settings root) ("/" ++ pattern) = false := by
  refine Bool.eq_false_iff.mpr fun inside => ?_
  have whole := (properName_indexName settings root).whole
  have text : ("/" ++ indexEntry settings root).toList =
      '/' :: (".codeindex".toList ++ '/' :: (indexName settings root).toList) := by
    simp only [indexEntry, String.toList_append, Store.directoryName]
    rfl
  have piece : ("/" ++ pattern).toList = '/' :: pattern.toList := String.toList_append
  rw [includes, occurs_iff, text, piece] at inside
  rcases List.infix_cons_iff.mp inside with here | later
  · have front : ".codeindex/".toList <+:
        ".codeindex".toList ++ '/' :: (indexName settings root).toList := ⟨_, rfl⟩
    exact (List.prefix_or_prefix_of_prefix (List.cons_prefix_cons.mp here).2 front).elim own longer
  · rcases List.infix_cons_iff.mp (infix_of_infix_append (by decide) later) with here | further
    · exact whole ((List.cons_prefix_cons.mp here).2.subset slash)
    · exact whole (further.subset List.mem_cons_self)

theorem head_indexName : (indexName settings root).toList.head? ≠ some 'D' := by
  rw [toList_indexName]
  unfold Slugs.ofName
  rw [String.toList_ofList]
  generalize ['_'].intercalate _ = joined
  cases joined with
  | nil =>
      rcases indexEnding_cases settings with ending | ending <;> rw [ending] <;> decide
  | cons c rest =>
      rw [List.map_cons, List.cons_append, List.head?_cons]
      have small : c.toLower ≠ 'D' :=
        toLower_ne (by decide) fun capital => absurd capital (by decide)
      exact fun same => small (Option.some.inj same)

theorem isOperational_indexEntry :
    ∀ group ∈ Section.operationalTable,
      Section.isOperational (indexEntry settings root) group.2 = false := by
  have kinds : ∀ pattern ∈ Section.operationalTable.flatMap (·.2),
      (endsWith pattern "/" = true ∧ '/' ∈ pattern.toList ∧
        ¬pattern.toList <+: ".codeindex/".toList ∧ ¬".codeindex/".toList <+: pattern.toList) ∨
      endsWith pattern "/" = false ∧ (pattern = "Dockerfile." ++ "*" ∨
        pattern.toList.all (fun c => decide (Glob.Plain c)) = true ∧
          ¬"_INDEX.md".toList <:+ pattern.toList ∧
          ¬"_INDEX.md.enc".toList <:+ pattern.toList) := by
    decide +kernel
  intro group listed
  unfold Section.isOperational
  rw [List.any_eq_false]
  intro pattern inside
  rw [afterLast_indexEntry]
  rcases kinds pattern (List.mem_flatMap.mpr ⟨group, listed, inside⟩) with
    ⟨directory, slash, own, longer⟩ | ⟨file, rfl | ⟨plain, ending, sealed⟩⟩
  · rw [if_pos directory, includes_indexEntry settings root slash own longer]
    exact Bool.false_ne_true
  · rw [if_neg (by rw [file]; exact Bool.false_ne_true)]
    intro matched
    obtain ⟨rest, front⟩ := front_of_globMatches (Glob.plain_of_all (by decide)) matched
    exact head_indexName settings root (by rw [← front]; rfl)
  · rw [if_neg (by rw [file]; exact Bool.false_ne_true),
      globMatches_plain (Glob.plain_of_all plain), beq_iff_eq]
    exact indexName_ne settings root ending sealed

end Indexing

end SourceAtlas
