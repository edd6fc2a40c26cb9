import SourceAtlas.Tags
import SourceAtlas.Proofs.PatternWays
import SourceAtlas.Proofs.StrippedCase
import SourceAtlas.Proofs.TextOrder
import SourceAtlas.Proofs.TextPieces

/-!
Laws of the tags. What a file is tagged with depends on which imports it has, not on their order,
and more imports or more text at the end take no tag away. In lower case more text may turn a final
sigma into another, so the fragments that are sought there have none.
-/
namespace SourceAtlas

namespace Text

def plainSigma (c : Char) : Char := if c = Char.ofNat 0x3c2 then Char.ofNat 0x3c3 else c

def isNoSigma (c : Char) : Bool := c != Char.ofNat 0x3c2 && c != Char.ofNat 0x3c3

theorem plainSigma_lowerSigma (before rest : List Char) :
    plainSigma (lowerSigma before rest) = Char.ofNat 0x3c3 := by
  unfold lowerSigma
  split <;> decide

theorem map_plainSigma_lowerAt (before : List Char) (c : Char) (rest other : List Char) :
    (lowerAt before c rest).map plainSigma = (lowerAt before c other).map plainSigma := by
  unfold lowerAt
  split
  · rw [List.map_singleton, List.map_singleton, plainSigma_lowerSigma, plainSigma_lowerSigma]
  · rfl

theorem exists_lowerFrom_append (before text tail : List Char) :
    ∃ front back, lowerFrom before (text ++ tail) = front ++ back ∧
      front.map plainSigma = (lowerFrom before text).map plainSigma := by
  induction text generalizing before with
  | nil => exact ⟨[], lowerFrom before tail, rfl, rfl⟩
  | cons c rest ih =>
      obtain ⟨front, back, whole, same⟩ := ih (c :: before)
      refine ⟨lowerAt before c (rest ++ tail) ++ front, back, ?_, ?_⟩
      · rw [List.cons_append, lowerFrom_cons, whole, List.append_assoc]
      · rw [lowerFrom_cons, List.map_append, List.map_append, same,
          map_plainSigma_lowerAt before c (rest ++ tail) rest]

theorem plainSigma_inj {c d : Char} (free : isNoSigma c = true)
    (same : plainSigma d = plainSigma c) : d = c := by
  simp only [isNoSigma, Bool.and_eq_true, bne_iff_ne] at free
  unfold plainSigma at same
  rw [if_neg free.1] at same
  split at same
  · exact absurd same.symm free.2
  · exact same

theorem eq_of_map_plainSigma {piece other : List Char} (free : piece.all isNoSigma = true)
    (same : other.map plainSigma = piece.map plainSigma) : other = piece := by
  induction piece generalizing other with
  | nil => exact List.map_eq_nil_iff.mp same
  | cons c rest ih =>
      obtain ⟨d, more, rfl, first, others⟩ := List.map_eq_cons_iff.mp same
      rw [List.all_cons, Bool.and_eq_true] at free
      rw [plainSigma_inj free.1 first, ih free.2 others]

theorem occurs_lowerChars_append {piece : List Char} (free : piece.all isNoSigma = true)
    {text : List Char} (tail : List Char) (found : occurs piece (lowerChars text) = true) :
    occurs piece (lowerChars (text ++ tail)) = true := by
  rw [occurs_iff, lowerChars_eq] at found ⊢
  obtain ⟨front, back, whole, same⟩ := exists_lowerFrom_append [] text tail
  obtain ⟨left, right, cut⟩ := found
  rw [← cut, List.map_append, List.map_append] at same
  obtain ⟨_, right', rfl, most, _⟩ := List.map_eq_append_iff.mp same
  obtain ⟨left', piece', rfl, _, middle⟩ := List.map_eq_append_iff.mp most
  rw [whole, eq_of_map_plainSigma free middle]
  exact ⟨left', right' ++ back, (List.append_assoc _ _ _).symm⟩

theorem occurs_append {piece text : List Char} (tail : List Char)
    (found : occurs piece text = true) : occurs piece (text ++ tail) = true := by
  rw [occurs_iff] at found ⊢
  exact found.trans (List.prefix_append text tail).isInfix

end Text

namespace Pattern

/-- A pattern that does not look at what follows its piece. -/
def IsBlind (p : Pattern) : Prop :=
  ∀ {before : Option Char} {piece rest : List Char} (more : List Char),
    p.Takes before piece rest → p.Takes before piece more

theorem IsBlind.find?_append {p : Pattern} (blind : p.IsBlind) {text : List Char}
    (tail : List Char) (found : (p.find? text).isSome = true) :
    (p.find? (text ++ tail)).isSome = true := by
  obtain ⟨front, piece, rest, rfl, filled, takes⟩ := find?_isSome_iff.mp found
  refine find?_isSome_iff.mpr ⟨front, piece, rest ++ tail, ?_, ?_, blind _ takes⟩
  · rw [List.append_assoc, List.append_assoc]
  · rw [← List.append_assoc]
    exact List.append_ne_nil_of_left_ne_nil filled tail

theorem takes_wordStart {text : String}
    (word : (text.toList.head?.map Text.isWord).getD false = true) {before : Option Char}
    {piece rest : List Char} :
    (wordEdge ++ literal text).Takes before piece rest ↔
      (before.map Text.isWord).getD false = false ∧ piece = text.toList := by
  have begins : ((text.toList ++ rest).head?.map Text.isWord).getD false = true := by
    cases whole : text.toList with
    | nil => rw [whole] at word; cases word
    | cons c cs => rwa [whole] at word
  rw [takes_append]
  constructor
  · rintro ⟨u, v, rfl, ⟨rfl, edge⟩, written⟩
    have same := takes_literal.mp written
    rw [same, begins] at edge
    exact ⟨Bool.eq_false_iff.mpr edge, same⟩
  · rintro ⟨apart, rfl⟩
    refine ⟨[], text.toList, rfl, ⟨rfl, ?_⟩, takes_literal.mpr rfl⟩
    rw [begins, apart]
    exact Bool.false_ne_true

end Pattern

namespace Tags
open Text

theorem takes_goroutine {before : Option Char} {piece rest : List Char} :
    goroutine.Takes before piece rest ↔
      (before.map isWord).getD false = false ∧ ∃ blanks name, blanks ≠ [] ∧ name ≠ [] ∧
        (∀ c ∈ blanks, isBlank c = true) ∧ (∀ c ∈ name, isWord c = true) ∧
        piece = "go".toList ++ blanks ++ name ++ "(".toList := by
  constructor
  · rintro ⟨_, v, rfl, ⟨_, name, rfl, ⟨u, blanks, rfl, front, white⟩, word⟩, paren⟩
    obtain ⟨apart, rfl⟩ := (Pattern.takes_wordStart (by decide)).mp front
    obtain ⟨some, white⟩ := Pattern.takes_plus.mp white
    obtain ⟨filled, word⟩ := Pattern.takes_plus.mp word
    rw [Pattern.takes_literal.mp paren]
    exact ⟨apart, blanks, name, some, filled, white, word, rfl⟩
  · rintro ⟨apart, blanks, name, some, filled, white, word, rfl⟩
    refine ⟨_, _, rfl, ⟨_, _, rfl, ⟨_, _, rfl, ?_, Pattern.takes_plus.mpr ⟨some, white⟩⟩,
      Pattern.takes_plus.mpr ⟨filled, word⟩⟩, Pattern.takes_literal.mpr rfl⟩
    exact (Pattern.takes_wordStart (by decide)).mpr ⟨apart, rfl⟩

theorem takes_channel {before : Option Char} {piece rest : List Char} :
    channel.Takes before piece rest ↔
      (before.map isWord).getD false = false ∧ ∃ blanks, blanks ≠ [] ∧
        (∀ c ∈ blanks, isBlank c = true) ∧ piece = "chan".toList ++ blanks := by
  constructor
  · rintro ⟨u, blanks, rfl, front, white⟩
    obtain ⟨apart, rfl⟩ := (Pattern.takes_wordStart (by decide)).mp front
    obtain ⟨some, white⟩ := Pattern.takes_plus.mp white
    exact ⟨apart, blanks, some, white, rfl⟩
  · rintro ⟨apart, blanks, some, white, rfl⟩
    refine ⟨_, _, rfl, ?_, Pattern.takes_plus.mpr ⟨some, white⟩⟩
    exact (Pattern.takes_wordStart (by decide)).mpr ⟨apart, rfl⟩

theorem goroutine_isBlind : goroutine.IsBlind :=
  fun _ takes => takes_goroutine.mpr (takes_goroutine.mp takes)

theorem channel_isBlind : channel.IsBlind :=
  fun _ takes => takes_channel.mpr (takes_channel.mp takes)

/-- The languages whose files are tagged. -/
inductive Language
  | go
  | python
  | typeScript
  | dart

namespace Language

def frameworks : Language → Table
  | go => goFrameworks
  | python => pythonFrameworks
  | typeScript => typeScriptFrameworks
  | dart => dartFrameworks

def risks : Language → Table
  | go => goRisks
  | python => pythonRisks
  | typeScript => typeScriptRisks
  | dart => dartRisks

def frameworkTags (language : Language) (imports : List String) : List String :=
  match language with
  | go => frameworksByFront goFrameworks imports
  | python => frameworksByFragment pythonFrameworks imports
  | typeScript => frameworksByFragment typeScriptFrameworks imports
  | dart => frameworksByFragment dartFrameworks imports

def riskTags (language : Language) (text : List Char) (imports : List String) : List String :=
  match language with
  | go => goRiskTags text imports
  | python => pythonRiskTags text imports
  | typeScript => typeScriptRiskTags text imports
  | dart => dartRiskTags imports

/-- An import names a fragment: it starts with it, or has it in it in lower case. -/
def Names (language : Language) (fragment name : String) : Prop :=
  match language with
  | go => fragment.toList <+: name.toList
  | _ => fragment.toList <:+: (lower name).toList

def names (language : Language) (fragment name : String) : Bool :=
  match language with
  | go => startsWith name fragment
  | _ => occurs fragment.toList (lowerChars name.toList)

theorem names_iff {language : Language} {fragment name : String} :
    language.names fragment name = true ↔ language.Names fragment name := by
  have inLower : occurs fragment.toList (lowerChars name.toList) = true ↔
      fragment.toList <:+: (lower name).toList := by
    rw [occurs_iff, lower, String.toList_ofList]
  cases language with
  | go => exact startsWith_iff name fragment
  | python | typeScript | dart => exact inLower

theorem frameworkTags_eq (language : Language) (imports : List String) :
    language.frameworkTags imports =
      (language.frameworks.filter fun entry => imports.any (language.names entry.1)).map (·.2) := by
  have byFragment (table : Table) : frameworksByFragment table imports =
      (table.filter fun entry =>
        imports.any fun name => occurs entry.1.toList (lowerChars name.toList)).map (·.2) := by
    simp only [frameworksByFragment, List.any_map, Function.comp_def]
  cases language with
  | go => rfl
  | python | typeScript | dart => exact byFragment _

def textTags (language : Language) (text : List Char) : List String :=
  let secrets := if mentionsSecrets (lowerChars text) then ["secrets"] else []
  match language with
  | go =>
      (if (goroutine.find? text).isSome || (channel.find? text).isSome then ["concurrency"]
        else []) ++ secrets
  | python => textRisks pythonRisks (lowerChars text) ++ secrets
  | typeScript => textRisks typeScriptRisks text ++ secrets
  | dart => []

theorem riskTags_eq (language : Language) (text : List Char) (imports : List String) :
    language.riskTags text imports =
      tagSet (importRisks language.risks imports ++ language.textTags text) := by
  cases language with
  | go => exact congrArg tagSet (List.append_assoc _ _ _)
  | python => exact congrArg tagSet (List.append_assoc _ _ _)
  | typeScript => exact congrArg tagSet (List.append_assoc _ _ _)
  | dart => exact congrArg tagSet (List.append_nil _).symm

end Language

theorem mem_tagSet {tags : List String} {tag : String} : tag ∈ tagSet tags ↔ tag ∈ tags :=
  (sortTexts_perm _).mem_iff.trans mem_distinct

theorem tagSet_sorted (tags : List String) : (tagSet tags).Pairwise (· < ·) := by
  have apart : ((distinct tags).map id).Nodup := (List.map_id _).symm ▸ nodup_distinct tags
  have sorted := pairwise_lt_mergeSort id apart
  rwa [List.map_id] at sorted

theorem mem_named {table : Table} {holds : String × String → Bool} {tag : String} :
    tag ∈ (table.filter holds).map (·.2) ↔
      ∃ fragment, (fragment, tag) ∈ table ∧ holds (fragment, tag) = true := by
  simp [List.mem_filter]

theorem mem_importRisks {table : Table} {imports : List String} {tag : String} :
    tag ∈ importRisks table imports ↔ ∃ name ∈ imports, ∃ fragment, (fragment, tag) ∈ table ∧
      occurs (lowerChars fragment.toList) (lowerChars name.toList) = true := by
  rw [importRisks, List.mem_flatMap]
  exact exists_congr fun name => and_congr_right fun _ => mem_named

theorem mem_frameworkTags {language : Language} {imports : List String} {tag : String} :
    tag ∈ language.frameworkTags imports ↔
      ∃ fragment, (fragment, tag) ∈ language.frameworks ∧
        ∃ name ∈ imports, language.Names fragment name := by
  rw [Language.frameworkTags_eq, mem_named]
  simp only [List.any_eq_true, Language.names_iff]

theorem textRisks_subset {table : Table} {text longer : List Char}
    (kept : ∀ entry ∈ table, occurs entry.1.toList text = true →
      occurs entry.1.toList longer = true) : textRisks table text ⊆ textRisks table longer := by
  intro tag member
  obtain ⟨fragment, listed, found⟩ := mem_named.mp member
  exact mem_named.mpr ⟨fragment, listed, kept _ listed found⟩

theorem if_subset {first second : Bool} (kept : first = true → second = true)
    (tags : List String) : (if first then tags else []) ⊆ (if second then tags else []) := by
  cases first with
  | true => rw [kept rfl]; exact List.Subset.refl _
  | false => exact List.nil_subset _

theorem append_subset_append {first second more others : List String} (left : first ⊆ more)
    (right : second ⊆ others) : first ++ second ⊆ more ++ others :=
  List.append_subset.mpr ⟨List.Subset.trans left (List.subset_append_left _ _),
    List.Subset.trans right (List.subset_append_right _ _)⟩

theorem mentionsSecrets_append {text : List Char} (tail : List Char)
    (found : mentionsSecrets (lowerChars text) = true) :
    mentionsSecrets (lowerChars (text ++ tail)) = true := by
  obtain ⟨word, listed, stands⟩ := List.any_eq_true.mp found
  have free : ∀ word ∈ secretWords, word.toList.all isNoSigma = true := by decide +kernel
  exact List.any_eq_true.mpr ⟨word, listed, occurs_lowerChars_append (free word listed) tail stands⟩

theorem textTags_append (language : Language) (text tail : List Char) :
    language.textTags text ⊆ language.textTags (text ++ tail) := by
  have secrets := if_subset (fun found : mentionsSecrets (lowerChars text) = true =>
    mentionsSecrets_append tail found) ["secrets"]
  cases language with
  | go =>
      refine append_subset_append (if_subset (fun found => ?_) _) secrets
      rw [Bool.or_eq_true] at found ⊢
      exact found.imp (goroutine_isBlind.find?_append tail) (channel_isBlind.find?_append tail)
  | python =>
      have free : ∀ entry ∈ pythonRisks, entry.1.toList.all isNoSigma = true := by decide +kernel
      exact append_subset_append (textRisks_subset fun entry listed =>
        occurs_lowerChars_append (free entry listed) tail) secrets
  | typeScript =>
      exact append_subset_append (textRisks_subset fun _ _ => occurs_append tail) secrets
  | dart => exact List.Subset.refl _

theorem tagSet_subset {first second : List String} (inside : first ⊆ second) :
    tagSet first ⊆ tagSet second :=
  fun _ member => mem_tagSet.mpr (inside (mem_tagSet.mp member))

theorem importRisks_subset {table : Table} {imports others : List String}
    (inside : imports ⊆ others) : importRisks table imports ⊆ importRisks table others := by
  intro tag member
  obtain ⟨name, listed, shown⟩ := mem_importRisks.mp member
  exact mem_importRisks.mpr ⟨name, inside listed, shown⟩

namespace Language

theorem riskTags_congr (language : Language) (text : List Char) {imports others : List String}
    (same : ∀ name, name ∈ imports ↔ name ∈ others) :
    language.riskTags text imports = language.riskTags text others := by
  rw [riskTags_eq, riskTags_eq]
  refine sortTexts_distinct_congr fun tag => ?_
  rw [List.mem_append, List.mem_append, mem_importRisks, mem_importRisks]
  simp only [same]

theorem riskTags_subset (language : Language) (text tail : List Char)
    {imports others : List String} (inside : imports ⊆ others) :
    language.riskTags text imports ⊆ language.riskTags (text ++ tail) others := by
  rw [riskTags_eq, riskTags_eq]
  exact tagSet_subset
    (append_subset_append (importRisks_subset inside) (textTags_append language text tail))

theorem frameworkTags_congr (language : Language) {imports others : List String}
    (same : ∀ name, name ∈ imports ↔ name ∈ others) :
    language.frameworkTags imports = language.frameworkTags others := by
  rw [frameworkTags_eq, frameworkTags_eq]
  refine congrArg (List.map _) (List.filter_congr fun entry _ => ?_)
  rw [Bool.eq_iff_iff, List.any_eq_true, List.any_eq_true]
  simp only [same]

theorem frameworkTags_subset (language : Language) {imports others : List String}
    (inside : imports ⊆ others) :
    language.frameworkTags imports ⊆ language.frameworkTags others := by
  intro tag member
  obtain ⟨fragment, listed, name, imported, names⟩ := mem_frameworkTags.mp member
  exact mem_frameworkTags.mpr ⟨fragment, listed, name, inside imported, names⟩

theorem frameworkTags_sublist (language : Language) (imports : List String) :
    (language.frameworkTags imports).Sublist (language.frameworks.map (·.2)) := by
  rw [frameworkTags_eq]
  exact List.filter_sublist.map _

theorem frameworks_nodup (language : Language) : (language.frameworks.map (·.2)).Nodup := by
  cases language <;> decide +kernel

/-- What holds of the tags of every file: which there are, in what order, and what leaves them as
they are or only adds to them. Lists of imports with the same members differ in order and repetition
only. -/
structure TagsLawful (language : Language) : Prop where
  risksSorted : ∀ text imports, (language.riskTags text imports).Pairwise (· < ·)
  frameworksInOrder : ∀ imports,
    (language.frameworkTags imports).Sublist (language.frameworks.map (·.2))
  frameworksOnce : ∀ imports, (language.frameworkTags imports).Nodup
  risksOfMembers : ∀ text imports others, (∀ name, name ∈ imports ↔ name ∈ others) →
    language.riskTags text imports = language.riskTags text others
  frameworksOfMembers : ∀ imports others, (∀ name, name ∈ imports ↔ name ∈ others) →
    language.frameworkTags imports = language.frameworkTags others
  risksOfMoreImports : ∀ text imports others, imports ⊆ others →
    language.riskTags text imports ⊆ language.riskTags text others
  frameworksOfMoreImports : ∀ imports others, imports ⊆ others →
    language.frameworkTags imports ⊆ language.frameworkTags others
  risksOfMoreText : ∀ text tail imports,
    language.riskTags text imports ⊆ language.riskTags (text ++ tail) imports
  frameworkPresent : ∀ tag imports, tag ∈ language.frameworkTags imports ↔
    ∃ fragment, (fragment, tag) ∈ language.frameworks ∧
      ∃ name ∈ imports, language.Names fragment name

/-- The tags of all languages keep the laws, for every text and all imports. -/
theorem tags_lawful (language : Language) : language.TagsLawful where
  risksSorted text imports := by
    rw [riskTags_eq]
    exact tagSet_sorted _
  frameworksInOrder := language.frameworkTags_sublist
  frameworksOnce imports :=
    (language.frameworkTags_sublist imports).nodup language.frameworks_nodup
  risksOfMembers text _ _ := language.riskTags_congr text
  frameworksOfMembers _ _ := language.frameworkTags_congr
  risksOfMoreImports text imports others inside := by
    have more := language.riskTags_subset text [] inside
    rwa [List.append_nil] at more
  frameworksOfMoreImports _ _ := language.frameworkTags_subset
  risksOfMoreText text tail imports :=
    language.riskTags_subset text tail (List.Subset.refl imports)
  frameworkPresent _ _ := mem_frameworkTags

end Language

end Tags

end SourceAtlas
