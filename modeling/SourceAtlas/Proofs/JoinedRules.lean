import SourceAtlas.Scan
import SourceAtlas.Proofs.EncodedText
import SourceAtlas.Proofs.PatternLines
import SourceAtlas.Proofs.SiteWrites

/-!
Ignore files with a line feed between them. Whatever bytes there are on both sides, the rules are
those of the first one followed by those of the second, so the second one decides wherever it has a
rule that holds. The line feed is never part of a character, and all it can add is an empty line.
-/
namespace SourceAtlas

open Text

namespace Text.Utf8

theorem frontsFrom_append (seen earlier : List Front) (bytes : Bytes) :
    frontsFrom (seen ++ earlier) bytes = frontsFrom seen bytes ++ earlier := by
  fun_induction frontsFrom seen bytes with
  | case1 seen => rw [frontsFrom]
  | case2 seen lead rest f ih =>
      rw [frontsFrom]
      exact ih

theorem fronts_cons (lead : UInt8) (rest : Bytes) :
    fronts (lead :: rest) =
      front lead rest :: fronts (rest.drop ((front lead rest).size - 1)) := by
  have first := frontsFrom_append [] [front lead rest] (rest.drop ((front lead rest).size - 1))
  rw [fronts, frontsFrom]
  rw [List.nil_append] at first
  simp [first, fronts]

theorem size_frontTwo_le (lead : UInt8) (rest : Bytes) :
    (frontTwo lead rest).size ≤ rest.length + 1 := by
  fun_cases frontTwo lead rest <;> simp [Front.size]

theorem size_frontThree_le (lead : UInt8) (rest : Bytes) :
    (frontThree lead rest).size ≤ rest.length + 1 := by
  fun_cases frontThree lead rest <;> simp [Front.size]

theorem size_frontFour_le (lead : UInt8) (rest : Bytes) :
    (frontFour lead rest).size ≤ rest.length + 1 := by
  fun_cases frontFour lead rest <;> simp [Front.size]

theorem size_front_le (lead : UInt8) (rest : Bytes) : (front lead rest).size ≤ rest.length + 1 := by
  unfold front
  split_ifs
  · exact Nat.le_add_left 1 _
  · exact Nat.le_add_left 1 _
  · exact size_frontTwo_le lead rest
  · exact size_frontThree_le lead rest
  · exact size_frontFour_le lead rest
  · exact Nat.le_add_left 1 _

/-- Two fronts take as many bytes and are the same text. -/
def Front.Alike (f g : Front) : Prop := f.size = g.size ∧ ∀ mark, f.lenient mark = g.lenient mark

theorem Front.Alike.refl (f : Front) : f.Alike f := ⟨rfl, fun _ => rfl⟩

theorem not_mayFollow_newline (lead : UInt8) : mayFollow lead 10 = false := by
  unfold mayFollow
  split_ifs <;> rfl

variable (lead : UInt8) (rest more : Bytes)

theorem frontTwo_newline : (frontTwo lead (rest ++ 10 :: more)).Alike (frontTwo lead rest) := by
  cases rest with
  | nil => exact ⟨rfl, fun _ => rfl⟩
  | cons b rest => exact .refl _

theorem frontThree_newline :
    (frontThree lead (rest ++ 10 :: more)).Alike (frontThree lead rest) := by
  match rest with
  | [] =>
      have stopped : frontThree lead (10 :: more) = .badContinuation 0 := by
        simp [frontThree, not_mayFollow_newline]
      rw [List.nil_append, stopped]
      exact ⟨rfl, fun _ => rfl⟩
  | [b] =>
      simp only [frontThree, List.cons_append, List.nil_append]
      split
      · exact .refl _
      · exact ⟨rfl, fun _ => rfl⟩
  | b :: c :: rest => exact .refl _

theorem frontFour_newline : (frontFour lead (rest ++ 10 :: more)).Alike (frontFour lead rest) := by
  match rest with
  | [] =>
      have stopped : frontFour lead (10 :: more) = .badContinuation 0 := by
        simp [frontFour, not_mayFollow_newline]
      rw [List.nil_append, stopped]
      exact ⟨rfl, fun _ => rfl⟩
  | [b] =>
      simp only [frontFour, List.cons_append, List.nil_append]
      split
      · exact .refl _
      · exact ⟨rfl, fun _ => rfl⟩
  | [b, c] =>
      simp only [frontFour, List.cons_append, List.nil_append]
      split
      · exact .refl _
      · split
        · exact .refl _
        · exact ⟨rfl, fun _ => rfl⟩
  | b :: c :: d :: rest => exact .refl _

theorem front_newline : (front lead (rest ++ 10 :: more)).Alike (front lead rest) := by
  unfold front
  split_ifs
  · exact .refl _
  · exact .refl _
  · exact frontTwo_newline lead rest more
  · exact frontThree_newline lead rest more
  · exact frontFour_newline lead rest more
  · exact .refl _

theorem fronts_newline (mark : List Char) (first second : Bytes) :
    (fronts (first ++ 10 :: second)).flatMap (Front.lenient mark) =
      (fronts first).flatMap (Front.lenient mark) ++
        '\n' :: (fronts second).flatMap (Front.lenient mark) := by
  match first with
  | [] =>
      rw [List.nil_append, fronts_cons]
      simp [fronts, frontsFrom, front, Front.lenient, Front.size]
  | lead :: rest =>
      have onward : (rest ++ 10 :: second).drop ((front lead rest).size - 1) =
          rest.drop ((front lead rest).size - 1) ++ 10 :: second :=
        List.drop_append_of_le_length (Nat.sub_le_of_le_add (size_front_le lead rest))
      obtain ⟨size, text⟩ := front_newline lead rest second
      rw [List.cons_append, fronts_cons, fronts_cons, List.flatMap_cons, List.flatMap_cons, text,
        size, onward, fronts_newline mark _ second, List.append_assoc]
termination_by first.length
decreasing_by
  simp only [List.length_drop, List.length_cons]
  omega

theorem toList_decodeReplacing_newline (first second : Bytes) :
    (decodeReplacing (first ++ 10 :: second)).toList =
      (decodeReplacing first).toList ++ '\n' :: (decodeReplacing second).toList := by
  simp only [decodeReplacing, decodeWith, String.toList_ofList, fronts_newline]

end Text.Utf8

namespace Text

/-- A line feed ends the line that is open. Where none is, it is an empty line or belongs to the
carriage return before it. -/
theorem linesFrom_newline (line first second : List Char) :
    ∃ blank : List (List Char), (∀ other ∈ blank, other = []) ∧
      linesFrom line (first ++ '\n' :: second) =
        linesFrom line first ++ blank ++ linesFrom [] second := by
  have feed : isLineEnd '\n' = true := rfl
  fun_induction linesFrom line first with
  | case1 line none =>
      refine ⟨[[]], by simp, ?_⟩
      rw [List.nil_append, linesFrom_cons (by decide), if_pos feed, List.isEmpty_iff.mp none]
      rfl
  | case2 line some =>
      refine ⟨[], by simp, ?_⟩
      rw [List.nil_append, linesFrom_cons (by decide), if_pos feed]
      rfl
  | case3 line rest ih =>
      obtain ⟨blank, empty, onward⟩ := ih
      refine ⟨blank, empty, ?_⟩
      rw [List.cons_append, List.cons_append, linesFrom, onward]
      rfl
  | case4 line c rest pair ends ih =>
      by_cases lone : c = '\r' ∧ rest = []
      · obtain ⟨rfl, rfl⟩ := lone
        exact ⟨[], by simp, rfl⟩
      · obtain ⟨blank, empty, onward⟩ := ih
        have apart (after : List Char) (same : c = '\r') :
            rest ++ '\n' :: second = '\n' :: after → False := by
          cases rest with
          | nil => exact absurd ⟨same, rfl⟩ lone
          | cons d rest =>
              intro whole
              exact pair rest same (congrArg (· :: rest) (List.cons.inj whole).1)
        refine ⟨blank, empty, ?_⟩
        rw [List.cons_append, linesFrom.eq_3 line c _ apart, if_pos ends, onward]
        rfl
  | case5 line c rest pair within ih =>
      obtain ⟨blank, empty, onward⟩ := ih
      have same : c ≠ '\r' := by
        rintro rfl
        exact within rfl
      refine ⟨blank, empty, ?_⟩
      rw [List.cons_append, linesFrom_cons same, if_neg within, onward]

end Text

namespace Rule

def ofBytes (content : Bytes) : List Rule := ofText (universalLines (Utf8.decodeReplacing content))

theorem ofBytes_eq (content : Bytes) : ofBytes content =
    (linesFrom [] (Utf8.decodeReplacing content).toList).filterMap (ofLine? <| .ofList ·) := by
  rw [ofBytes, ofText, lines_universalLines, lines, List.filterMap_map]
  rfl

theorem ofBytes_newline (first second : Bytes) :
    ofBytes (first ++ 10 :: second) = ofBytes first ++ ofBytes second := by
  obtain ⟨blank, empty, joined⟩ := linesFrom_newline [] (Utf8.decodeReplacing first).toList
    (Utf8.decodeReplacing second).toList
  have nothing : blank.filterMap (ofLine? <| .ofList ·) = [] := by
    rw [List.filterMap_eq_nil_iff]
    intro line member
    rw [empty line member]
    rfl
  simp only [ofBytes_eq, Utf8.toList_decodeReplacing_newline, joined, List.filterMap_append,
    nothing, List.append_nil]

theorem ignores_eq (rules : List Rule) (path : String) (isDirectory : Bool) :
    ignores rules path isDirectory =
      match (rules.filter (·.holds path isDirectory)).getLast? with
      | some rule => !rule.negated
      | none => false := by
  induction rules using List.reverseRecOn with
  | nil => rfl
  | append_singleton rules rule ih =>
      rw [ignores, List.foldl_concat, ← ignores, ih, List.filter_append]
      by_cases held : rule.holds path isDirectory = true <;> simp [held]

theorem ignores_append (first second : List Rule) (path : String) (isDirectory : Bool) :
    ignores (first ++ second) path isDirectory =
      if second.any (·.holds path isDirectory) then ignores second path isDirectory
      else ignores first path isDirectory := by
  rw [ignores_eq, ignores_eq, ignores_eq, List.filter_append, List.getLast?_append]
  by_cases held : second.any (·.holds path isDirectory) = true
  · have some : second.filter (·.holds path isDirectory) ≠ [] := by
      simpa [List.filter_eq_nil_iff] using held
    rw [if_pos held, List.getLast?_eq_some_getLast some]
    rfl
  · have none : second.filter (·.holds path isDirectory) = [] := by
      simpa [List.filter_eq_nil_iff] using held
    rw [if_neg held, none]
    rfl

/-- What one line of an ignore file gives. -/
structure LineLaw (line : String) : Prop where
  blank : strip line = "" → ofLine? line = none
  comment : ∀ rest, strip line = "#" ++ rest → ofLine? line = none
  negation : ∀ rest, strip line = "!" ++ rest → ofLine? line = build? rest true
  negated : ∀ rule, ofLine? line = some rule →
    (rule.negated = true ↔ ∃ rest, strip line = "!" ++ rest)

theorem lineLaw (line : String) : LineLaw line := by
  have stripped (text : String) (same : strip line = text) :
      trimChars isBlank line.toList = text.toList := by
    rw [← same, toList_strip]
  constructor
  · intro empty
    rw [ofLine?, stripped _ empty]
    rfl
  · intro rest marked
    rw [ofLine?, stripped _ marked, String.toList_append]
    rfl
  · intro rest marked
    have again : ("!" ++ rest).toList = '!' :: rest.toList := String.toList_append
    rw [ofLine?, stripped _ marked, again]
    simp
  · intro rule found
    have marked (rest : String) : strip line = "!" ++ rest ↔
        trimChars isBlank line.toList = '!' :: rest.toList := by
      rw [← String.toList_inj, toList_strip, String.toList_append]
      rfl
    simp only [marked]
    unfold ofLine? at found
    split at found
    · cases found
    · cases found
    next rest same =>
      refine iff_of_true (negated_of_build found) ⟨.ofList rest, ?_⟩
      rw [same, String.toList_ofList]
    next text _ _ other =>
      have kept : rule.negated = false := negated_of_build found
      rw [kept]
      refine iff_of_false Bool.false_ne_true ?_
      rintro ⟨rest, same⟩
      exact other _ same

/-- An ignore file that is two with a line feed between them has the rules of the first one and then
those of the second. So the second one decides about all that one of its rules holds for, and the
first one about the rest: always the last rule that holds decides, and nothing is ignored where none
does. The rules are those of the lines, each read by itself. -/
theorem ofBytes_joined (first second : Bytes) :
    ofBytes (first ++ 10 :: second) = ofBytes first ++ ofBytes second ∧
      (∀ path isDirectory, ignores (ofBytes (first ++ 10 :: second)) path isDirectory =
        if (ofBytes second).any (·.holds path isDirectory) then
          ignores (ofBytes second) path isDirectory
        else ignores (ofBytes first) path isDirectory) ∧
      (∀ rules path isDirectory, ignores rules path isDirectory =
        match (rules.filter (·.holds path isDirectory)).getLast? with
        | some rule => !rule.negated
        | none => false) ∧
      (∀ content, ofBytes content =
        (lines (Utf8.decodeReplacing content)).filterMap ofLine?) ∧
      (∀ line, LineLaw line) ∧
      ∀ (site : Site) (root : Path) (content : Bytes),
        site.read (root.child ".gitignore") = .ok content →
          Scan.ignoreFile site root = (ofBytes content, []) := by
  refine ⟨ofBytes_newline first second, fun path isDirectory => ?_, ignores_eq, fun content => ?_,
    lineLaw, fun site root content read => ?_⟩
  · rw [ofBytes_newline, ignores_append]
  · rw [ofBytes, ofText, lines_universalLines]
  · rw [Scan.ignoreFile, read]
    rfl

def ruledSite (content : Bytes) : Site where
  root := .directory [("repo", .directory [(".gitignore", .file content)])]

def brokenRules : Bytes := Utf8.encode "*.log\r" ++ [0xe2, 0x82]

theorem ruledSite_rules :
    (ruledSite (brokenRules ++ 10 :: Utf8.encode "!keep.log")).read
        ((Path.ofPlace ["repo"]).child ".gitignore") =
        .ok (brokenRules ++ 10 :: Utf8.encode "!keep.log") ∧
      Scan.ignoreFile (ruledSite (brokenRules ++ 10 :: Utf8.encode "!keep.log"))
          (.ofPlace ["repo"]) =
        (ofBytes brokenRules ++ ofBytes (Utf8.encode "!keep.log"), []) ∧
      ignores (ofBytes (brokenRules ++ 10 :: Utf8.encode "!keep.log")) "keep.log" false = false ∧
      ignores (ofBytes (brokenRules ++ 10 :: Utf8.encode "!keep.log")) "other.log" false = true := by
  have fits : Fits (.ofPlace (["repo"] ++ [".gitignore"])) := ⟨by decide, by decide, by decide⟩
  have read : (ruledSite (brokenRules ++ 10 :: Utf8.encode "!keep.log")).read
      ((Path.ofPlace ["repo"]).child ".gitignore") =
      .ok (brokenRules ++ 10 :: Utf8.encode "!keep.log") :=
    Site.read_file fits (by decide) rfl rfl rfl
  have early : ofBytes brokenRules =
      [⟨"*.log", false, false, false, false⟩, ⟨"\uFFFD", false, false, false, false⟩] := by
    decide +kernel
  have late : ofBytes (Utf8.encode "!keep.log") = [⟨"keep.log", false, false, true, false⟩] := by
    decide +kernel
  obtain ⟨rules, decides, _, _, _, parses⟩ :=
    ofBytes_joined brokenRules (Utf8.encode "!keep.log")
  refine ⟨read, ?_, ?_, ?_⟩
  · rw [parses _ _ _ read, rules]
  · rw [decides, early, late]
    decide
  · rw [decides, early, late]
    decide

end Rule

end SourceAtlas
