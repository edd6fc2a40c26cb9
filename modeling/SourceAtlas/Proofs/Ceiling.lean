import SourceAtlas.Proofs.CountedText

/-!
The ceiling of an index. Whatever was scanned and however things are called, a rendered index keeps
under its limit of bytes: it is the whole document, or as many of its first lines as leave room for
the marker that tells of the cut.
-/
namespace SourceAtlas

open Text

namespace Truncation

def marked (limit : Int) (kept : List String) : String :=
  join "\n" kept ++ "\n\n" ++ marker limit ++ "\n"

/-- A document as it stands under a limit. Of one that is too long the first lines are kept, and not
even one more of them would leave room for the marker. -/
structure Bounded (document : String) (limit : Int) (text : String) : Prop where
  fits : (byteSize text : Int) ≤ limit
  ends : ∃ front, text = front ++ "\n"
  form : text = document ∨
    ∃ kept next rest, split '\n' document = kept ++ next :: rest ∧ text = marked limit kept ∧
      limit < byteSize (marked limit (kept ++ [next]))

theorem byteSize_join {lines : List String} (filled : lines ≠ []) :
    (byteSize (join "\n" lines) : Int) + 1 = lineBytes lines := by
  induction lines with
  | nil => exact absurd rfl filled
  | cons line rest ih =>
      cases rest with
      | nil =>
          have alone : join "\n" [line] = line := String.intercalate_singleton
          rw [alone, lineBytes, lineBytes, Int.add_zero]
      | cons next more =>
          have onward := ih (List.cons_ne_nil next more)
          have mark : byteSize "\n" = 1 := by decide
          have parts :
              join "\n" (line :: next :: more) = line ++ "\n" ++ join "\n" (next :: more) :=
            String.intercalate_cons_cons
          rw [lineBytes, ← onward, parts, byteSize_append, byteSize_append, mark]
          omega

theorem byteSize_marked (limit : Int) (kept : List String) :
    byteSize (marked limit kept) = byteSize (join "\n" kept) + byteSize (marker limit) + 3 := by
  have blank : byteSize "\n\n" = 2 := by decide
  have mark : byteSize "\n" = 1 := by decide
  rw [marked, byteSize_append, byteSize_append, byteSize_append, blank, mark]
  omega

theorem lineBytes_fitting {room : Int} (some : 0 ≤ room) (lines : List String) :
    lineBytes (fitting room lines) ≤ room := by
  induction lines generalizing room with
  | nil => exact some
  | cons line rest ih =>
      rw [fitting]
      split
      · exact some
      next small =>
        have left : 0 ≤ room - (byteSize line + 1) := by omega
        have onward := ih left
        rw [lineBytes]
        omega

theorem fitting_stops (room : Int) (lines : List String) :
    fitting room lines = lines ∨
      ∃ next rest, lines = fitting room lines ++ next :: rest ∧
        room < lineBytes (fitting room lines ++ [next]) := by
  induction lines generalizing room with
  | nil => exact .inl rfl
  | cons line rest ih =>
      rw [fitting]
      split
      next large =>
        refine .inr ⟨line, rest, rfl, ?_⟩
        rw [List.nil_append, lineBytes, lineBytes]
        omega
      next small =>
        rcases ih (room - (byteSize line + 1)) with all | ⟨next, more, parts, exceeds⟩
        · exact .inl (by rw [all])
        · refine .inr ⟨next, more, by rw [List.cons_append, ← parts], ?_⟩
          rw [List.cons_append, lineBytes]
          omega

theorem apply_of_le {document : String} {limit : Int} (short : (byteSize document : Int) ≤ limit) :
    apply document limit = (document, []) := by
  simp [apply, short]

theorem apply_of_lt {document : String} {limit : Int} (positive : 0 < limit)
    (long : limit < byteSize document) :
    apply document limit = (marked limit (fitting (room limit) (split '\n' document)),
      [.warning "synthesis" s!"Index output exceeded {limit} bytes; truncated"]) := by
  have bounding : ¬limit ≤ 0 := Int.not_le.mpr positive
  have exceeds : ¬(byteSize document : Int) ≤ limit := Int.not_le.mpr long
  simp only [apply, bounding, exceeds, decide_false, Bool.or_false, Bool.false_eq_true, if_false]
  rfl

/-- Of a text that is over the limit as many lines are kept as leave room for the marker, and not
even one more of them would. -/
theorem exists_cut {document : String} {limit : Int}
    (ample : (byteSize (marker limit) : Int) + 3 ≤ limit) (long : limit < byteSize document) :
    ∃ kept next rest, split '\n' document = kept ++ next :: rest ∧
      apply document limit = (marked limit kept,
        [.warning "synthesis" s!"Index output exceeded {limit} bytes; truncated"]) ∧
      (byteSize (marked limit kept) : Int) ≤ limit ∧
      limit < byteSize (marked limit (kept ++ [next])) := by
  have lines : split '\n' document ≠ [] := by
    obtain ⟨first, rest, parts, _⟩ := splitFrom_cons '\n' [] document.toList
    simp [split, splitChars, parts]
  have whole := byteSize_join lines
  rw [join_split rfl] at whole
  have space : 0 ≤ room limit := by
    unfold room
    omega
  have used := lineBytes_fitting space (split '\n' document)
  rcases fitting_stops (room limit) (split '\n' document) with all | ⟨next, rest, parts, stop⟩
  · rw [all] at used
    unfold room at used
    omega
  · refine ⟨_, next, rest, parts, apply_of_lt (by omega) long, ?_, ?_⟩
    · rw [byteSize_marked]
      unfold room at used ⊢
      by_cases none : fitting (limit - byteSize (marker limit) - 2) (split '\n' document) = []
      · have nothing : byteSize (join "\n" []) = 0 := by decide
        rw [none, nothing]
        omega
      · have kept := byteSize_join none
        omega
    · have filled : fitting (room limit) (split '\n' document) ++ [next] ≠ [] := by simp
      have more := byteSize_join filled
      rw [byteSize_marked]
      unfold room at stop more ⊢
      omega

theorem apply_bounded {document : String} {limit : Int} (ends : ∃ front, document = front ++ "\n")
    (ample : (byteSize (marker limit) : Int) + 3 ≤ limit) :
    Bounded document limit (apply document limit).1 := by
  by_cases short : (byteSize document : Int) ≤ limit
  · rw [apply_of_le short]
    exact ⟨short, ends, .inl rfl⟩
  · obtain ⟨kept, next, rest, parts, cut, fits, most⟩ := exists_cut ample (Int.not_le.mp short)
    rw [cut]
    exact ⟨fits, ⟨_, rfl⟩, .inr ⟨kept, next, rest, parts, rfl, most⟩⟩

/-- Under a limit that leaves room for the marker, a text stays as it is exactly if it is not over
the limit. Any other becomes the longest front of its lines that fits together with the marker, and
this is told; what is left of it stays as it is under the same limit. -/
theorem apply_under_limit (text : String) {limit : Int}
    (ample : (byteSize (marker limit) : Int) + 3 ≤ limit) :
    ((apply text limit).1 = text ↔ (byteSize text : Int) ≤ limit) ∧
      ((byteSize text : Int) ≤ limit → (apply text limit).2 = []) ∧
      (limit < byteSize text → ∃ kept next rest, split '\n' text = kept ++ next :: rest ∧
        apply text limit = (join "\n" kept ++ "\n\n" ++ marker limit ++ "\n",
          [.warning "synthesis" s!"Index output exceeded {limit} bytes; truncated"]) ∧
        (byteSize (apply text limit).1 : Int) ≤ limit ∧
        limit < byteSize (join "\n" (kept ++ [next]) ++ "\n\n" ++ marker limit ++ "\n")) ∧
      apply (apply text limit).1 limit = ((apply text limit).1, []) := by
  by_cases short : (byteSize text : Int) ≤ limit
  · have within : ¬limit < byteSize text := Int.not_lt.mpr short
    simp [apply_of_le short, short, within]
  · have long : limit < byteSize text := Int.not_le.mp short
    obtain ⟨kept, next, rest, parts, cut, fits, most⟩ := exists_cut ample long
    have changed : marked limit kept ≠ text := by
      intro same
      rw [same] at fits
      exact short fits
    refine ⟨?_, fun le => absurd le short, fun _ => ?_, ?_⟩
    · rw [cut]
      exact iff_of_false changed short
    · refine ⟨kept, next, rest, parts, cut, ?_, most⟩
      rw [cut]
      exact fits
    · rw [cut]
      exact apply_of_le fits

/-- A text of three lines, of which there is room for the first one under sixty bytes. -/
def longWelcome : String := "größe\nnaïve\nand a last line that is far too long for such a ceiling\n"

theorem longWelcome_under_limit :
    (byteSize (marker 60) : Int) + 3 ≤ 60 ∧ (60 : Int) < byteSize longWelcome ∧
      ((apply longWelcome 60).1 ≠ longWelcome ∧
        (∃ kept next rest, split '\n' longWelcome = kept ++ next :: rest ∧
          (apply longWelcome 60).1 = join "\n" kept ++ "\n\n" ++ marker 60 ++ "\n" ∧
          (60 : Int) < byteSize (join "\n" (kept ++ [next]) ++ "\n\n" ++ marker 60 ++ "\n")) ∧
        (byteSize (apply longWelcome 60).1 : Int) ≤ 60 ∧
        apply (apply longWelcome 60).1 60 = ((apply longWelcome 60).1, [])) := by
  have ample : (byteSize (marker 60) : Int) + 3 ≤ 60 := by decide +kernel
  have long : (60 : Int) < byteSize longWelcome := by decide +kernel
  obtain ⟨same, _, cut, again⟩ := apply_under_limit longWelcome ample
  obtain ⟨kept, next, rest, parts, left, fits, most⟩ := cut long
  refine ⟨ample, long, fun kept => absurd (same.mp kept) (Int.not_le.mpr long), ?_, fits, again⟩
  exact ⟨kept, next, rest, parts, congrArg Prod.fst left, most⟩

theorem byteSize_apply_le_iff {document : String} {limit lower : Int} (positive : 0 < limit)
    (below : lower ≤ limit) :
    (byteSize (apply document limit).1 : Int) ≤ lower ↔
      (byteSize document : Int) ≤ lower ∨ limit < byteSize document ∧
        (byteSize (marked limit (fitting (room limit) (split '\n' document))) : Int) ≤ lower := by
  by_cases short : (byteSize document : Int) ≤ limit
  · have whole : ¬limit < byteSize document := Int.not_lt.mpr short
    simp only [apply_of_le short, whole, false_and, or_false]
  · have cut : limit < byteSize document := Int.not_le.mp short
    have exceeds : ¬(byteSize document : Int) ≤ lower := by omega
    simp only [apply_of_lt positive cut, exceeds, false_or, cut, true_and]

theorem marker_fits {limit : Int} (large : 1024 ≤ limit) :
    (byteSize (marker limit) : Int) + 3 ≤ limit := by
  obtain ⟨n, rfl⟩ : ∃ n : Nat, limit = n := ⟨limit.toNat, by omega⟩
  have front : byteSize "*[Index truncated: output exceeded " = 35 := by decide
  have back : byteSize " bytes]*" = 8 := by decide
  have digits : (Nat.toDigits 10 n).length ≤ n - 46 := by
    rw [Nat.length_toDigits_le_iff (by decide) (by omega)]
    have power : n - 47 < 10 ^ (n - 47) := Nat.lt_pow_self (by decide)
    have next : 10 ^ (n - 46) = 10 ^ (n - 47) * 10 := by
      rw [← Nat.pow_succ]
      congr 1
      omega
    omega
  rw [marker_eq, byteSize_append, byteSize_append, front, back, Section.byteSize_toString]
  omega

end Truncation

namespace IndexFrame

theorem allLines_ends (frame : IndexFrame) (scan : ScanResult) (moment : Moment) (tier : Tier) :
    ∃ lines, lines ≠ [] ∧ frame.allLines scan moment tier = lines ++ [""] := by
  have last (front : List String) (line : String) (more : List String) :
      front ++ line :: more ≠ [] :=
    List.append_ne_nil_of_right_ne_nil front (List.cons_ne_nil line more)
  cases tier with
  | summary => exact ⟨_, last _ _ _, (List.append_assoc _ [_, _, _, _] [""]).symm⟩
  | structured | full => exact ⟨_, last _ _ _, (List.append_assoc _ [_, _, _, _, _] [""]).symm⟩

theorem join_allLines_ends (frame : IndexFrame) (scan : ScanResult) (moment : Moment)
    (tier : Tier) : ∃ front, join "\n" (frame.allLines scan moment tier) = front ++ "\n" := by
  obtain ⟨lines, filled, parts⟩ := frame.allLines_ends scan moment tier
  refine ⟨join "\n" lines, ?_⟩
  have last : join "\n" [""] = "" := rfl
  rw [parts, join_append filled (List.cons_ne_nil _ _), last, String.append_empty]

theorem render_bounded (frame : IndexFrame) (scan : ScanResult) (moment : Moment) (tier : Tier)
    (large : 1024 ≤ frame.limitOf tier) :
    Truncation.Bounded (join "\n" (frame.allLines scan moment tier)) (frame.limitOf tier)
      (frame.render scan tier moment).1 := by
  rw [render_eq]
  exact Truncation.apply_bounded (frame.join_allLines_ends scan moment tier)
    (Truncation.marker_fits large)

/-- Every index keeps under its ceiling: the larger tiers under the one that is asked for, the
summary under three kibibytes. -/
theorem render_under_ceiling (frame : IndexFrame) (scan : ScanResult) (moment : Moment)
    (positive : 1 ≤ frame.ceiling) :
    Truncation.Bounded
        (join "\n" (frame.structuredLines scan ++ Section.footer moment.text scan))
        (frame.ceiling * 1024) (frame.render scan .structured moment).1 ∧
      Truncation.Bounded
        (join "\n" (frame.fullLines scan ++ Section.footer moment.text scan))
        (frame.ceiling * 1024) (frame.render scan .full moment).1 ∧
      Truncation.Bounded (join "\n" (frame.summaryLines scan moment.text)) 3072
        (frame.renderSummary scan moment).1 := by
  have large : 1024 ≤ frame.ceiling * 1024 := by omega
  refine ⟨?_, ?_, ?_⟩
  · exact frame.render_bounded scan moment .structured large
  · exact frame.render_bounded scan moment .full large
  · exact frame.render_bounded scan moment .summary (show (1024 : Int) ≤ 3 * 1024 by decide)

def wideFrame : IndexFrame where
  repository := .ofList (List.replicate 1025 'x')
  languages := ["python"]
  ceiling := 1

theorem wideFrame_under_ceiling :
    1024 < byteSize wideFrame.repository ∧ 1 ≤ wideFrame.ceiling ∧
      ((byteSize (wideFrame.render {} .structured ⟨2026, 1, 2, 3, 4, 5, some 0⟩).1 : Int) ≤ 1024 ∧
        (byteSize (wideFrame.renderSummary {} ⟨2026, 1, 2, 3, 4, 5, some 0⟩).1 : Int) ≤ 3072) := by
  have positive : 1 ≤ wideFrame.ceiling := Int.le_refl 1
  have letter : (String.utf8EncodeChar 'x').length = 1 := rfl
  have wide (n : Nat) : byteSize (.ofList (List.replicate n 'x')) = n := by
    rw [byteSize, Utf8.encode, Utf8.encodeChars, String.toList_ofList, List.length_flatMap,
      List.map_replicate, letter, List.sum_replicate_nat, Nat.mul_one]
  have exceeds : 1024 < byteSize wideFrame.repository := by
    have width : byteSize wideFrame.repository = 1025 := wide 1025
    omega
  have under := wideFrame.render_under_ceiling {} ⟨2026, 1, 2, 3, 4, 5, some 0⟩ positive
  exact ⟨exceeds, positive, under.1.fits, under.2.2.fits⟩

/-- The summary has a ceiling of its own and does not see the one that is asked for, so it is the
same text under every one. It keeps under both exactly if three kibibytes or more are asked for, or
if all of its lines take no more than what is asked for, or if they take more than three kibibytes
and those that are left of them no more than what is asked for. -/
theorem summary_under_ceiling_iff (frame : IndexFrame) (scan : ScanResult) (moment : Moment)
    (positive : 1 ≤ frame.ceiling) :
    (∀ ceiling, { frame with ceiling := ceiling }.render scan .summary moment =
      frame.render scan .summary moment) ∧
    ((byteSize (frame.render scan .summary moment).1 : Int) ≤ min 3072 (frame.ceiling * 1024) ↔
      3 ≤ frame.ceiling ∨
        (byteSize (join "\n" (frame.summaryLines scan moment.text)) : Int) ≤ frame.ceiling * 1024 ∨
        (3072 : Int) < byteSize (join "\n" (frame.summaryLines scan moment.text)) ∧
          (byteSize (Truncation.marked 3072 (Truncation.fitting (Truncation.room 3072)
            (split '\n' (join "\n" (frame.summaryLines scan moment.text))))) : Int) ≤
              frame.ceiling * 1024) := by
  refine ⟨fun ceiling => rfl, ?_⟩
  have under : (byteSize (frame.render scan .summary moment).1 : Int) ≤ 3072 :=
    (frame.render_under_ceiling scan moment positive).2.2.fits
  by_cases ample : 3 ≤ frame.ceiling
  · exact iff_of_true (by omega) (.inl ample)
  · have below : frame.ceiling * 1024 ≤ 3072 := by omega
    have own : frame.render scan .summary moment =
      Truncation.apply (join "\n" (frame.summaryLines scan moment.text)) 3072 := rfl
    rw [min_eq_right below, or_iff_right ample, own]
    exact Truncation.byteSize_apply_le_iff (by decide) below

def startScan (path : String) : ScanResult where
  candidates := [{ path := path, isEntrypoint := true }]
  totalFiles := 1

def shopFrame : IndexFrame where
  repository := "shop"
  languages := ["go"]
  ceiling := 1

theorem startScan_lines (path : String) :
    ∃ before after, shopFrame.summaryLines (startScan path) "2026-01-02T03:04:05+00:00" =
        before ++ ("**Entry Points:** `" ++ path ++ "`") :: after ∧
      Truncation.lineBytes before = 75 ∧ Truncation.lineBytes after = 194 := by
  have header : Section.header shopFrame.repository "Quick Reference" shopFrame.sortedLanguages
      (startScan path) =
        ["# shop - Quick Reference", "", "**Languages:** go", "**Files:** 1 total, 1 indexed",
          ""] := by cbv
  have entries : Section.entrypoints (startScan path).candidates = (startScan path).candidates :=
    List.mergeSort_singleton _
  have areas : Section.capabilities (startScan path).tree = [] := by cbv
  have frameworks : Section.frameworks (startScan path).candidates = [] := by cbv
  refine ⟨["# shop - Quick Reference", "", "**Languages:** go", "**Files:** 1 total, 1 indexed", ""],
    ["", "Regenerate with `--format structured` or `--format full` for layout and per-file detail,",
      "or run `qmd search` against the registered collection.", "",
      "*Index generated at 2026-01-02T03:04:05+00:00*", ""], ?_, by decide +kernel,
    by decide +kernel⟩
  unfold summaryLines
  simp only [header, entries, areas, frameworks]
  rfl

def namedAtLength (length : Nat) : String :=
  .ofList (List.replicate length 'x') ++ "/"

theorem byteSize_namedAtLength (length : Nat) : byteSize (namedAtLength length) = length + 1 := by
  have letter : (String.utf8EncodeChar 'x').length = 1 := rfl
  have slash : byteSize "/" = 1 := by decide
  rw [namedAtLength, byteSize_append, slash, byteSize, Utf8.encode, Utf8.encodeChars,
    String.toList_ofList, List.length_flatMap, List.map_replicate, letter, List.sum_replicate_nat,
    Nat.mul_one]

def deepPath : String :=
  namedAtLength 250 ++ namedAtLength 250 ++ namedAtLength 250 ++ namedAtLength 250 ++ "main.go"

theorem byteSize_deepPath : byteSize deepPath = 1011 := by
  have file : byteSize "main.go" = 7 := by decide
  simp only [deepPath, byteSize_append, byteSize_namedAtLength, file]

theorem deepPath_over_ceiling :
    1 ≤ shopFrame.ceiling ∧
      ¬(byteSize (shopFrame.render (startScan deepPath) .summary
        ⟨2026, 1, 2, 3, 4, 5, some 0⟩).1 : Int) ≤ min 3072 (shopFrame.ceiling * 1024) := by
  have positive : 1 ≤ shopFrame.ceiling := Int.le_refl 1
  have single : shopFrame.ceiling = 1 := rfl
  have size : (byteSize (join "\n" (shopFrame.summaryLines (startScan deepPath)
      (Moment.text ⟨2026, 1, 2, 3, 4, 5, some 0⟩))) : Int) = 1300 := by
    have stamp : Moment.text ⟨2026, 1, 2, 3, 4, 5, some 0⟩ = "2026-01-02T03:04:05+00:00" := by
      decide +kernel
    have label : byteSize "**Entry Points:** `" = 19 := by decide +kernel
    have close : byteSize "`" = 1 := by decide
    obtain ⟨before, after, lines, front, back⟩ := startScan_lines deepPath
    have filled : before ++ ("**Entry Points:** `" ++ deepPath ++ "`") :: after ≠ [] :=
      List.append_ne_nil_of_right_ne_nil _ (List.cons_ne_nil _ _)
    have whole := Truncation.byteSize_join filled
    rw [Truncation.lineBytes_append, Truncation.lineBytes, front, back, byteSize_append,
      byteSize_append, label, close, byteSize_deepPath] at whole
    rw [stamp, lines]
    omega
  obtain ⟨_, keeps⟩ := shopFrame.summary_under_ceiling_iff (startScan deepPath)
    ⟨2026, 1, 2, 3, 4, 5, some 0⟩ positive
  refine ⟨positive, fun under => ?_⟩
  have ways := keeps.mp under
  rw [size, single] at ways
  omega

end IndexFrame

end SourceAtlas
