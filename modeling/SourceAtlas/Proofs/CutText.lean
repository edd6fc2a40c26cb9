import SourceAtlas.Truncation
import SourceAtlas.Proofs.PathNames

/-!
Two texts that differ in one line, under one ceiling. As long as the line is kept the texts differ;
where it is cut off they are the same, since what comes before it is.
-/
namespace SourceAtlas

open Text

theorem byteSize_append (a b : String) : byteSize (a ++ b) = byteSize a + byteSize b := by
  simp only [byteSize, Utf8.encode, Utf8.encodeChars, String.toList_append, List.flatMap_append,
    List.length_append]

theorem join_append {mark : String} {first second : List String} (left : first ≠ [])
    (right : second ≠ []) :
    join mark (first ++ second) = join mark first ++ mark ++ join mark second :=
  String.intercalate_append_of_ne_nil left right

theorem toList_join_snoc (mark : String) {front : List String} (filled : front ≠ [])
    (line : String) : (join mark (front ++ [line])).toList =
      (join mark front ++ mark).toList ++ line.toList := by
  rw [join_append filled (List.cons_ne_nil _ _), String.toList_append]
  simp [join]

theorem free_middle {front back : List String} {line : String} (clean : '\n' ∉ line.toList)
    (free : ∀ other ∈ front ++ back, '\n' ∉ other.toList) :
    ∀ other ∈ front ++ line :: back, '\n' ∉ other.toList := by
  intro other inside
  rcases List.mem_cons.mp (List.perm_middle.mem_iff.mp inside) with rfl | listed
  · exact clean
  · exact free other listed

theorem join_front (mark : String) (first second : List String) :
    (join mark first).toList <+: (join mark (first ++ second)).toList := by
  by_cases left : first = []
  · subst left
    exact List.nil_prefix
  · by_cases right : second = []
    · subst right
      simpa only [List.append_nil] using List.prefix_rfl
    · rw [join_append left right, String.append_assoc, String.toList_append]
      exact List.prefix_append _ _

namespace Truncation

def lineBytes : List String → Int
  | [] => 0
  | line :: rest => byteSize line + 1 + lineBytes rest

theorem lineBytes_nonneg (lines : List String) : 0 ≤ lineBytes lines := by
  induction lines with
  | nil => exact Int.le_refl 0
  | cons line rest ih =>
      rw [lineBytes]
      omega

theorem lineBytes_append (first second : List String) :
    lineBytes (first ++ second) = lineBytes first + lineBytes second := by
  induction first with
  | nil => rw [List.nil_append, lineBytes, Int.zero_add]
  | cons line rest ih =>
      rw [List.cons_append, lineBytes, lineBytes, ih]
      omega

theorem fitting_append (room : Int) (before : List String) (line : String) (after : List String) :
    fitting room (before ++ line :: after) =
      if lineBytes (before ++ [line]) ≤ room then
        before ++ line :: fitting (room - lineBytes (before ++ [line])) after
      else fitting room before := by
  induction before generalizing room with
  | nil =>
      simp only [List.nil_append, fitting, lineBytes, Int.add_zero]
      by_cases fits : (byteSize line : Int) + 1 ≤ room
      · rw [if_neg (by omega), if_pos fits]
      · rw [if_pos (by omega), if_neg fits]
  | cons first before ih =>
      have rest := lineBytes_nonneg (before ++ [line])
      simp only [List.cons_append, fitting, lineBytes]
      by_cases large : (byteSize first : Int) + 1 > room
      · have exceeds : ¬byteSize first + 1 + lineBytes (before ++ [line]) ≤ room := by omega
        simp only [if_pos large, if_neg exceeds]
      · have onward : room - (byteSize first + 1) - lineBytes (before ++ [line]) =
            room - (byteSize first + 1 + lineBytes (before ++ [line])) := by omega
        have same : lineBytes (before ++ [line]) ≤ room - (byteSize first + 1) ↔
            byteSize first + 1 + lineBytes (before ++ [line]) ≤ room := by omega
        simp only [if_neg large, ih, onward, same]
        split <;> rfl

theorem fitting_front (room : Int) (lines : List String) : fitting room lines <+: lines := by
  induction lines generalizing room with
  | nil => exact List.prefix_rfl
  | cons line rest ih =>
      rw [fitting]
      split
      · exact List.nil_prefix
      · exact List.cons_prefix_cons.mpr ⟨rfl, ih _⟩

variable {before after : List String} {limit : Int}

def Keeps (limit : Int) (before : List String) (line : String) (after : List String) : Prop :=
  limit ≤ 0 ∨ (byteSize (join "\n" (before ++ line :: after)) : Int) ≤ limit ∨
    lineBytes (before ++ [line]) ≤ room limit

/-- What is left if not even a line after these stays. -/
def rump (limit : Int) (before : List String) : String :=
  join "\n" (fitting (room limit) before) ++ "\n\n" ++ marker limit ++ "\n"

theorem front_of_keeps {line : String} (keeps : Keeps limit before line after)
    (free : ∀ other ∈ before ++ line :: after, '\n' ∉ other.toList) :
    (join "\n" (before ++ [line])).toList <+:
      (apply (join "\n" (before ++ line :: after)) limit).1.toList := by
  have parts : before ++ line :: after = before ++ [line] ++ after := by simp
  unfold apply
  split
  next =>
    rw [parts]
    exact join_front "\n" _ _
  next exceeds =>
    simp only [Bool.or_eq_true, decide_eq_true_eq, not_or] at exceeds
    have fits : lineBytes (before ++ [line]) ≤ room limit :=
      (keeps.resolve_left exceeds.1).resolve_left exceeds.2
    have cut : before ++ line :: fitting (room limit - lineBytes (before ++ [line])) after =
      before ++ [line] ++ fitting (room limit - lineBytes (before ++ [line])) after := by simp
    dsimp only
    rw [split_join_of_free rfl (by simp) free, fitting_append, if_pos fits, cut,
      String.append_assoc, String.append_assoc, String.toList_append]
    exact (join_front "\n" _ _).trans (List.prefix_append _ _)

theorem apply_of_not_keeps {line : String} (cut : ¬Keeps limit before line after)
    (free : ∀ other ∈ before ++ line :: after, '\n' ∉ other.toList) :
    (apply (join "\n" (before ++ line :: after)) limit).1 = rump limit before := by
  rw [Keeps, not_or, not_or] at cut
  obtain ⟨bounded, long, exceeds⟩ := cut
  unfold apply
  rw [if_neg (by simp [bounded, long]), rump]
  dsimp only
  rw [split_join_of_free rfl (by simp) free, fitting_append, if_neg exceeds]

theorem newline_not_mem_toString (n : Int) : '\n' ∉ (toString n).toList := by
  have digits (m : Nat) : '\n' ∉ (toString m).toList := by
    intro member
    rw [Nat.toString_eq_ofList_toDigits, String.toList_ofList] at member
    exact absurd (Nat.isDigit_of_mem_toDigits (by decide) (by decide) member) (by decide)
  cases n with
  | ofNat m => exact digits m
  | negSucc m =>
      change '\n' ∉ ("-" ++ toString (m + 1)).toList
      rw [String.toList_append, List.mem_append, not_or]
      exact ⟨by decide, digits (m + 1)⟩

theorem marker_eq (limit : Int) : marker limit =
    "*[Index truncated: output exceeded " ++ toString limit ++ " bytes]*" := rfl

theorem newline_not_mem_marker (limit : Int) : '\n' ∉ (marker limit).toList := by
  simp only [marker_eq, String.toList_append, List.mem_append, not_or]
  exact ⟨⟨by decide, newline_not_mem_toString limit⟩, by decide⟩

theorem rump_eq (limit : Int) (filled : before ≠ []) :
    ∃ kept, kept ≠ [] ∧ kept.length ≤ before.length ∧
      (∀ line ∈ kept, line ∈ before ∨ line = "") ∧
        rump limit before = join "\n" (kept ++ ["", marker limit, ""]) := by
  have part := fitting_front (room limit) before
  have tail : join "\n" ["", marker limit, ""] = "\n" ++ marker limit ++ "\n" := by
    simp [join, String.intercalate_cons_cons, String.append_assoc]
  have twice : "\n\n" = "\n" ++ "\n" := rfl
  unfold rump
  by_cases none : fitting (room limit) before = []
  · refine ⟨[""], List.cons_ne_nil _ _, List.length_pos_iff.mpr filled, ?_, ?_⟩
    · exact fun line only => .inr (List.mem_singleton.mp only)
    · rw [none, join_append (List.cons_ne_nil _ _) (List.cons_ne_nil _ _), tail]
      have nothing : join "\n" [] = join "\n" [""] := rfl
      rw [nothing, twice]
      simp only [String.append_assoc]
  · refine ⟨fitting (room limit) before, none, part.length_le, ?_, ?_⟩
    · exact fun line inside => .inl (part.subset inside)
    · rw [join_append none (List.cons_ne_nil _ _), tail]
      rw [twice]
      simp only [String.append_assoc]

theorem split_rump (limit : Int) (filled : before ≠ [])
    (free : ∀ other ∈ before, '\n' ∉ other.toList) :
    ∃ kept, kept.length ≤ before.length ∧
      split '\n' (rump limit before) = kept ++ ["", marker limit, ""] := by
  obtain ⟨kept, _, short, lines, parts⟩ := rump_eq limit filled
  refine ⟨kept, short, ?_⟩
  rw [parts]
  refine split_join_of_free rfl (by simp) fun other inside => ?_
  have ends := newline_not_mem_marker limit
  rcases List.mem_append.mp inside with early | late
  · rcases lines other early with listed | rfl
    · exact free other listed
    · decide
  · simp only [List.mem_cons, List.not_mem_nil, or_false] at late
    rcases late with rfl | rfl | rfl
    · decide
    · exact ends
    · decide

theorem not_stars_of_mem {line : String} (member : line ∈ ["", marker limit, ""]) :
    ¬['*', '*'] <+: line.toList := by
  intro stars
  simp only [List.mem_cons, List.not_mem_nil, or_false] at member
  rcases member with rfl | rfl | rfl
  · exact absurd stars (by decide)
  · have begins : ['*', '['] <+: (marker limit).toList := by
      rw [marker_eq, String.append_assoc, String.toList_append]
      exact List.IsPrefix.trans (by decide) (List.prefix_append _ _)
    have same := List.prefix_or_prefix_of_prefix stars begins
    exact absurd same (by decide)
  · exact absurd stars (by decide)

theorem not_front_rump {line : String} (filled : before ≠ [])
    (free : ∀ other ∈ before, '\n' ∉ other.toList) (stars : ['*', '*'] <+: line.toList) :
    ¬(join "\n" (before ++ [line])).toList <+: (rump limit before).toList := by
  rintro ⟨more, whole⟩
  obtain ⟨kept, short, right⟩ := split_rump limit filled free
  have longer : rump limit before = join "\n" (before ++ [line ++ .ofList more]) := by
    refine String.toList_inj.mp ?_
    have appended : (line ++ String.ofList more).toList = line.toList ++ more := by
      rw [String.toList_append, String.toList_ofList]
    rw [← whole, toList_join_snoc "\n" filled, toList_join_snoc "\n" filled, appended,
      List.append_assoc]
  have starred : ['*', '*'] <+: (line ++ String.ofList more).toList := by
    rw [String.toList_append]
    exact stars.trans (List.prefix_append _ _)
  obtain ⟨first, rest, pieces, front⟩ := split_front '\n' (by decide) starred
  have left : split '\n' (rump limit before) = before ++ first :: rest := by
    rw [longer, split_join rfl (by simp), List.flatMap_append, flatMap_split_of_free free,
      List.flatMap_cons, pieces, List.flatMap_nil, List.append_nil]
  -- The starred piece stands behind at least as many lines as are kept, so it is one of the last.
  have member : first ∈ ["", marker limit, ""] := by
    rcases List.append_eq_append_iff.mp (right.symm.trans left) with
      ⟨between, _, tail⟩ | ⟨between, longer, tail⟩
    · rw [tail]
      exact List.mem_append_right _ List.mem_cons_self
    · have empty : between = [] := by
        have size := congrArg List.length longer
        rw [List.length_append] at size
        exact List.length_eq_zero_iff.mp (by omega)
      rw [empty, List.nil_append] at tail
      exact tail ▸ List.mem_cons_self
  exact not_stars_of_mem member front

theorem byteSize_join_le {first second : String} (longer : byteSize first ≤ byteSize second) :
    byteSize (join "\n" (before ++ first :: after)) ≤
      byteSize (join "\n" (before ++ second :: after)) := by
  have tail : byteSize (join "\n" (first :: after)) ≤ byteSize (join "\n" (second :: after)) := by
    cases after with
    | nil => simpa [join] using longer
    | cons next rest =>
        rw [join, join, String.intercalate_cons_cons, String.intercalate_cons_cons]
        simp only [byteSize_append]
        omega
  by_cases filled : before = []
  · rw [filled]
    exact tail
  · rw [join_append filled (List.cons_ne_nil _ _), join_append filled (List.cons_ne_nil _ _)]
    simp only [byteSize_append]
    omega

theorem Keeps.mono {first second : String} (longer : byteSize first ≤ byteSize second)
    (keeps : Keeps limit before second after) : Keeps limit before first after := by
  rcases keeps with unbounded | short | fits
  · exact .inl unbounded
  · have less : byteSize (join "\n" (before ++ first :: after)) ≤
        byteSize (join "\n" (before ++ second :: after)) := byteSize_join_le longer
    exact .inr (.inl (by omega))
  · rw [lineBytes_append, lineBytes, lineBytes] at fits
    refine .inr (.inr ?_)
    rw [lineBytes_append, lineBytes, lineBytes]
    omega

/-- Texts that differ in one line are the same under a limit exactly if the first one does not show
how its line begins. -/
theorem apply_eq_iff {first second start : String} (filled : before ≠ [])
    (free : ∀ other ∈ before ++ after, '\n' ∉ other.toList) (single : '\n' ∉ first.toList)
    (whole : '\n' ∉ second.toList) (stars : ['*', '*'] <+: start.toList)
    (begins : start.toList <+: first.toList) (longer : byteSize first ≤ byteSize second)
    (apart : ∀ left right : List Char, first.toList ++ left ≠ second.toList ++ right) :
    (apply (join "\n" (before ++ second :: after)) limit).1 =
        (apply (join "\n" (before ++ first :: after)) limit).1 ↔
      ¬(join "\n" (before ++ [start])).toList <+:
        (apply (join "\n" (before ++ first :: after)) limit).1.toList := by
  have ends := toList_join_snoc "\n" filled
  have early : ∀ other ∈ before, '\n' ∉ other.toList := fun other inside =>
    free other (List.mem_append_left _ inside)
  by_cases keeps : Keeps limit before first after
  · have shown := front_of_keeps keeps (free_middle single free)
    have begun : (join "\n" (before ++ [start])).toList <+:
        (apply (join "\n" (before ++ first :: after)) limit).1.toList := by
      refine List.IsPrefix.trans ?_ shown
      rw [ends, ends]
      exact List.prefix_append_right_inj _ |>.mpr begins
    refine iff_of_false (fun same => ?_) (not_not_intro begun)
    by_cases kept : Keeps limit before second after
    · have also := front_of_keeps kept (free_middle whole free)
      rw [same] at also
      rw [ends] at shown also
      obtain ⟨left, left_eq⟩ := shown
      obtain ⟨right, right_eq⟩ := also
      have equal := left_eq.trans right_eq.symm
      rw [List.append_assoc, List.append_assoc, List.append_cancel_left_eq] at equal
      exact apart left right equal
    · rw [apply_of_not_keeps kept (free_middle whole free)] at same
      rw [← same] at begun
      exact not_front_rump filled early stars begun
  · have cut := apply_of_not_keeps keeps (free_middle single free)
    have also :=
      apply_of_not_keeps (fun kept => keeps (Keeps.mono longer kept)) (free_middle whole free)
    refine iff_of_true (also.trans cut.symm) ?_
    rw [cut]
    exact not_front_rump filled early stars

end Truncation

end SourceAtlas
