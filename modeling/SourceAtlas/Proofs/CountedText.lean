import SourceAtlas.Index
import SourceAtlas.Proofs.CutText
import SourceAtlas.Proofs.Rescan

/-!
The text of an index and the number of files in it. A scan that has found more files, none of which
is shown, gives the same lines up to the one that counts the files.
-/
namespace SourceAtlas

open Text

namespace Section

theorem operational_congr {first second : List String}
    (same : ∀ group ∈ operationalTable, ∀ path, isOperational path group.2 = true →
      (path ∈ first ↔ path ∈ second)) : operational first = operational second := by
  have sorted (paths : List String) : (sortTexts (distinct paths)).Pairwise
      fun a b => precedes a b = true :=
    List.pairwise_mergeSort precedes_trans precedes_total _
  have nodup (paths : List String) : (sortTexts (distinct paths)).Nodup :=
    (List.mergeSort_perm _ _).nodup_iff.mpr (nodup_distinct paths)
  have members (paths : List String) (path : String) :
      path ∈ sortTexts (distinct paths) ↔ path ∈ paths :=
    List.mem_mergeSort.trans mem_distinct
  have chosen : ∀ group ∈ operationalTable,
      (sortTexts (distinct first)).filter (isOperational · group.2) =
        (sortTexts (distinct second)).filter (isOperational · group.2) := by
    intro group listed
    refine List.Perm.eq_of_pairwise (fun a b _ _ before after => precedes_antisymm before after)
      ((sorted first).filter _) ((sorted second).filter _) ?_
    refine (List.perm_ext_iff_of_nodup ((nodup first).filter _) ((nodup second).filter _)).mpr ?_
    intro path
    rw [List.mem_filter, List.mem_filter, members, members]
    exact and_congr_left (same group listed path)
  unfold operational
  dsimp only
  rw [List.map_congr_left fun group listed => congrArg (group.1, ·) (chosen group listed)]

variable {added : List String} {a b : ScanResult}

theorem allPaths_perm (widens : a.Widens added b) : (allPaths b).Perm (added ++ allPaths a) := by
  unfold allPaths
  rw [widens.files]
  exact (widens.others.append_left _).trans (List.perm_append_comm_assoc _ _ _)

theorem operationalNotes_eq (widens : a.Widens added b)
    (idle : ∀ path ∈ added, ∀ group ∈ operationalTable, isOperational path group.2 = false) :
    operationalNotes b = operationalNotes a := by
  have same : operational (allPaths b) = operational (allPaths a) := by
    refine operational_congr fun group listed path active => ?_
    rw [(allPaths_perm widens).mem_iff, List.mem_append]
    refine or_iff_right fun inside => ?_
    rw [idle path inside group listed] at active
    cases active
  unfold operationalNotes
  rw [same]

theorem navigation_eq (widens : a.Widens added b)
    (untested : ∀ path ∈ added, isTestFile path = false) : navigation b = navigation a := by
  have tests : ((allPaths b).filter isTestFile).length =
      ((allPaths a).filter isTestFile).length := by
    have none : added.filter isTestFile = [] := List.filter_eq_nil_iff.mpr fun path inside =>
      Bool.eq_false_iff.mp (untested path inside)
    rw [((allPaths_perm widens).filter isTestFile).length_eq, List.filter_append, none,
      List.nil_append]
  have same : hints b = hints a := by
    unfold hints
    simp only [widens.files, widens.tree, tests]
  unfold navigation
  rw [same]

/-- How the line begins that counts the files. -/
def countStart (total : Int) : String := "**Files:** " ++ toString total ++ " total"

def countLine (total : Int) (indexed : Nat) : String :=
  s!"**Files:** {total} total, {indexed} indexed"

theorem countLine_eq (total : Int) (indexed : Nat) : countLine total indexed =
    "**Files:** " ++ toString total ++ " total, " ++ toString indexed ++ " indexed" := rfl

theorem stars_countStart (total : Int) : ['*', '*'] <+: (countStart total).toList := by
  rw [countStart, String.append_assoc, String.toList_append]
  exact List.IsPrefix.trans (by decide) (List.prefix_append _ _)

theorem countStart_prefix (total : Int) (indexed : Nat) :
    (countStart total).toList <+: (countLine total indexed).toList := by
  have comma : " total, ".toList = " total".toList ++ ", ".toList := by decide
  simp only [countLine_eq, countStart, String.toList_append, comma, List.append_assoc]
  rw [List.prefix_append_right_inj, List.prefix_append_right_inj]
  exact List.prefix_append _ _

theorem toList_countLine (total indexed : Nat) : (countLine total indexed).toList =
    "**Files:** ".toList ++ (Nat.toDigits 10 total ++
      ' ' :: ("total, ".toList ++ (toString indexed).toList ++ " indexed".toList)) := by
  have digits : (toString (total : Int)).toList = Nat.toDigits 10 total := Nat.toList_repr
  have blank : " total, ".toList = ' ' :: "total, ".toList := by decide
  simp only [countLine_eq, String.toList_append, digits, blank, List.append_assoc, List.cons_append]

theorem isDigit_of_mem {total : Nat} {c : Char} (member : c ∈ Nat.toDigits 10 total) :
    c.isDigit = true :=
  Nat.isDigit_of_mem_toDigits (by decide) (by decide) member

theorem newline_not_mem_countLine (total indexed : Nat) :
    '\n' ∉ (countLine total indexed).toList := by
  have digits (n : Nat) : '\n' ∉ Nat.toDigits 10 n := fun member =>
    absurd (isDigit_of_mem member) (by decide)
  have shown : (toString indexed).toList = Nat.toDigits 10 indexed := Nat.toList_repr
  simp only [toList_countLine, List.mem_append, List.mem_cons, not_or, shown]
  exact ⟨by decide, digits total, by decide, ⟨by decide, digits indexed⟩, by decide⟩

theorem countLine_apart {first second : Nat} (other : first ≠ second) (indexed : Nat)
    (left right : List Char) :
    (countLine first indexed).toList ++ left ≠ (countLine second indexed).toList ++ right := by
  intro same
  have digits (n : Nat) (rest : List Char) :
      (Nat.toDigits 10 n ++ ' ' :: rest).takeWhile Char.isDigit = Nat.toDigits 10 n := by
    rw [List.takeWhile_append_of_pos fun c member => isDigit_of_mem member,
      List.takeWhile_cons_of_neg (by decide), List.append_nil]
  simp only [toList_countLine, List.append_assoc, List.append_cancel_left_eq,
    List.cons_append] at same
  have numbers := congrArg (List.takeWhile Char.isDigit) same
  rw [digits, digits] at numbers
  have value := congrArg (Nat.ofDigitChars 10 · 0) numbers
  simp only [Nat.ofDigitChars_ten_toDigits] at value
  exact other value

theorem byteSize_toString (n : Nat) :
    byteSize (toString (n : Int)) = (Nat.toDigits 10 n).length := by
  have digits : (toString (n : Int)).toList = Nat.toDigits 10 n := Nat.toList_repr
  have one : ∀ c ∈ Nat.toDigits 10 n, (String.utf8EncodeChar c).length = 1 := by
    intro c member
    have digit := isDigit_of_mem member
    rw [Char.isDigit, Bool.and_eq_true, decide_eq_true_eq, decide_eq_true_eq] at digit
    rw [String.length_utf8EncodeChar, Char.utf8Size]
    exact if_pos (UInt32.le_trans digit.2 (by decide))
  rw [byteSize, Utf8.encode, Utf8.encodeChars, digits, List.length_flatMap,
    List.map_congr_left one]
  simp

theorem byteSize_countLine_le {first second : Nat} (less : first ≤ second) (indexed : Nat) :
    byteSize (countLine first indexed) ≤ byteSize (countLine second indexed) := by
  have longer : (Nat.toDigits 10 first).length ≤ (Nat.toDigits 10 second).length := by
    rw [Nat.length_toDigits_le_iff (by decide) Nat.length_toDigits_pos]
    refine Nat.lt_of_le_of_lt less ?_
    rw [← Nat.length_toDigits_le_iff (by decide) Nat.length_toDigits_pos]
  simp only [countLine_eq, byteSize_append, byteSize_toString]
  omega

end Section

namespace IndexFrame

def heading : Tier → String
  | .summary => "Quick Reference"
  | .structured | .full => "Codebase Index"

def frontLines (frame : IndexFrame) (tier : Tier) : List String :=
  [ "# " ++ frame.repository ++ " - " ++ heading tier,
    "",
    "**Languages:** " ++
      (if frame.sortedLanguages.isEmpty then "none" else join ", " frame.sortedLanguages) ]

def allLines (frame : IndexFrame) (scan : ScanResult) (moment : Moment) : Tier → List String
  | .summary => frame.summaryLines scan moment.text
  | .structured => frame.structuredLines scan ++ Section.footer moment.text scan
  | .full => frame.fullLines scan ++ Section.footer moment.text scan

def limitOf (frame : IndexFrame) : Tier → Int
  | .summary => summaryCeiling
  | .structured | .full => frame.ceiling * 1024

theorem render_eq (frame : IndexFrame) (scan : ScanResult) (tier : Tier) (moment : Moment) :
    frame.render scan tier moment =
      Truncation.apply (join "\n" (frame.allLines scan moment tier)) (frame.limitOf tier) := by
  cases tier <;> rfl

theorem header_eq (repository heading : String) (languages : List String) (scan : ScanResult) :
    Section.header repository heading languages scan =
      [ "# " ++ repository ++ " - " ++ heading,
        "",
        "**Languages:** " ++ (if languages.isEmpty then "none" else join ", " languages) ] ++
      Section.countLine scan.totalFiles scan.candidates.length :: "" ::
        if (Section.purpose scan.candidates).isEmpty then []
        else [Section.purpose scan.candidates, ""] := rfl

def backLines (frame : IndexFrame) (scan : ScanResult) (moment : Moment) (tier : Tier) :
    List String :=
  (frame.allLines scan moment tier).drop 4

theorem allLines_eq (frame : IndexFrame) (scan : ScanResult) (moment : Moment) (tier : Tier) :
    frame.allLines scan moment tier = frame.frontLines tier ++
      Section.countLine scan.totalFiles scan.candidates.length ::
        frame.backLines scan moment tier := by
  unfold backLines frontLines
  cases tier <;>
    simp only [allLines, summaryLines, structuredLines, fullLines, header_eq, heading,
      List.cons_append, List.nil_append, List.drop_succ_cons, List.drop_zero]

theorem backLines_eq (frame : IndexFrame) {added : List String} {a b : ScanResult}
    (widens : a.Widens added b)
    (idle : ∀ path ∈ added, ∀ group ∈ Section.operationalTable,
      Section.isOperational path group.2 = false)
    (untested : ∀ path ∈ added, Section.isTestFile path = false) (moment : Moment) (tier : Tier) :
    frame.backLines b moment tier = frame.backLines a moment tier := by
  have footer : Section.footer moment.text b = Section.footer moment.text a := by
    unfold Section.footer
    rw [widens.elapsed]
  cases tier with
  | summary =>
      unfold backLines allLines summaryLines
      simp only [header_eq, widens.candidates, widens.tree, List.cons_append, List.nil_append,
        List.drop_succ_cons, List.drop_zero]
  | structured =>
      unfold backLines allLines structuredLines categoryLines
      simp only [header_eq, widens.candidates, widens.tree, footer, List.cons_append,
        List.nil_append, List.drop_succ_cons, List.drop_zero]
  | full =>
      unfold backLines allLines fullLines categoryLines
      simp only [header_eq, widens.candidates, widens.tree, footer,
        Section.operationalNotes_eq widens idle, Section.navigation_eq widens untested,
        List.cons_append, List.nil_append, List.drop_succ_cons, List.drop_zero]

/-- The start of an index, up to the number of files. -/
def countFront (frame : IndexFrame) (tier : Tier) (total : Int) : String :=
  join "\n" (frame.frontLines tier ++ [Section.countStart total])

/-- The lines before the one that counts the files, those of them cut that hold line ends. -/
def frontPieces (frame : IndexFrame) (tier : Tier) : List String :=
  (frame.frontLines tier).flatMap (split '\n')

theorem frontPieces_ne_nil (frame : IndexFrame) (tier : Tier) : frame.frontPieces tier ≠ [] := by
  obtain ⟨piece, rest, parts, _⟩ := splitFrom_cons '\n' []
    ("# " ++ frame.repository ++ " - " ++ heading tier).toList
  simp only [frontPieces, frontLines, List.flatMap_cons, split, splitChars, parts]
  simp

theorem newline_not_mem_pieces {lines : List String} :
    ∀ piece ∈ lines.flatMap (split '\n'), '\n' ∉ piece.toList := by
  intro piece member
  obtain ⟨line, _, inside⟩ := List.mem_flatMap.mp member
  exact free_of_mem_split inside

theorem newline_not_mem_front (frame : IndexFrame) (scan : ScanResult) (moment : Moment)
    (tier : Tier) : ∀ piece ∈ frame.frontPieces tier ++
      (frame.backLines scan moment tier).flatMap (split '\n'), '\n' ∉ piece.toList := by
  rw [frontPieces, ← List.flatMap_append]
  exact newline_not_mem_pieces

theorem join_pieces (frame : IndexFrame) (tier : Tier) {line : String}
    (single : '\n' ∉ line.toList) (rest : List String) :
    join "\n" (frame.frontLines tier ++ line :: rest) =
      join "\n" (frame.frontPieces tier ++ line :: rest.flatMap (split '\n')) := by
  have spelled : "\n".toList = ['\n'] := rfl
  have parts : (frame.frontLines tier ++ line :: rest).flatMap (split '\n') =
      frame.frontPieces tier ++ line :: rest.flatMap (split '\n') := by
    rw [List.flatMap_append, List.flatMap_cons, split_of_free single, List.singleton_append]
    rfl
  rw [← parts, ← split_join spelled (by simp), join_split spelled]

theorem newline_not_mem_countStart (total : Nat) :
    '\n' ∉ (Section.countStart total).toList := fun member =>
  Section.newline_not_mem_countLine total 0
    ((Section.countStart_prefix total 0).subset member)

theorem countFront_of_fits (frame : IndexFrame) {scan : ScanResult} {tier : Tier} (moment : Moment)
    {total : Nat} (counted : scan.totalFiles = total)
    (fits : Truncation.lineBytes
      (frame.frontPieces tier ++ [Section.countLine total scan.candidates.length]) ≤
        Truncation.room (frame.limitOf tier)) :
    (frame.countFront tier total).toList <+: (frame.render scan tier moment).1.toList := by
  have line := Section.newline_not_mem_countLine total scan.candidates.length
  have ends := toList_join_snoc "\n" (frame.frontPieces_ne_nil tier)
  rw [render_eq, allLines_eq, counted, join_pieces _ _ line, countFront,
    join_pieces _ _ (newline_not_mem_countStart total)]
  refine List.IsPrefix.trans ?_
    (Truncation.front_of_keeps (.inr (.inr fits))
      (free_middle line (newline_not_mem_front frame scan moment tier)))
  rw [List.flatMap_nil, ends, ends, List.prefix_append_right_inj]
  exact Section.countStart_prefix total _

/-- Texts that count different numbers of files are the same exactly if the first one is cut off
before its number. -/
theorem render_eq_iff (frame : IndexFrame) {added : List String} {a b : ScanResult}
    (widens : a.Widens added b) (more : added ≠ [])
    (idle : ∀ path ∈ added, ∀ group ∈ Section.operationalTable,
      Section.isOperational path group.2 = false)
    (untested : ∀ path ∈ added, Section.isTestFile path = false) (moment : Moment) (tier : Tier)
    {total : Nat} (counted : a.totalFiles = total) :
    (frame.render b tier moment).1 = (frame.render a tier moment).1 ↔
      ¬(frame.countFront tier a.totalFiles).toList <+:
        (frame.render a tier moment).1.toList := by
  have later : b.totalFiles = (added.length + total : Nat) := by
    have sum := widens.total
    omega
  have larger : total < added.length + total := by
    have positive := List.length_pos_iff.mpr more
    omega
  have first := Section.newline_not_mem_countLine total a.candidates.length
  have second := Section.newline_not_mem_countLine (added.length + total) a.candidates.length
  have free := newline_not_mem_front frame a moment tier
  rw [render_eq, render_eq, allLines_eq, allLines_eq, frame.backLines_eq widens idle untested,
    widens.candidates, counted, later, join_pieces _ _ first, join_pieces _ _ second, countFront,
    join_pieces _ _ (newline_not_mem_countStart total)]
  exact Truncation.apply_eq_iff (frame.frontPieces_ne_nil tier) free first second
    (Section.stars_countStart total) (Section.countStart_prefix total _)
    (Section.byteSize_countLine_le (Nat.le_of_lt larger) _)
    (Section.countLine_apart (Nat.ne_of_lt larger) _)

end IndexFrame

end SourceAtlas
