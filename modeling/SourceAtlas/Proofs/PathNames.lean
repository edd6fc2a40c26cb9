import SourceAtlas.Path

/-!
Names and the texts that they make. A name of a file tree is not empty, is none of the dots and has
no slash, so names that are joined by slashes are read back as they were.
-/
namespace SourceAtlas

namespace Text

theorem splitFrom_of_free {separator : Char} {text : List Char} (free : separator ∉ text)
    (piece : List Char) : splitFrom separator piece text = [piece.reverse ++ text] := by
  induction text generalizing piece with
  | nil => simp [splitFrom]
  | cons c rest ih =>
      rw [List.mem_cons, not_or] at free
      rw [splitFrom, if_neg (Ne.symm free.1), ih free.2]
      simp

theorem splitFrom_append (separator : Char) (piece text rest : List Char) :
    splitFrom separator piece (text ++ separator :: rest) =
      splitFrom separator piece text ++ splitFrom separator [] rest := by
  induction text generalizing piece with
  | nil => simp [splitFrom]
  | cons c text ih =>
      rw [List.cons_append, splitFrom, splitFrom]
      split
      · rw [ih, List.cons_append]
      · exact ih (c :: piece)

theorem splitChars_intercalate (separator : Char) {pieces : List (List Char)}
    (filled : pieces ≠ []) :
    splitChars separator ([separator].intercalate pieces) =
      pieces.flatMap (splitChars separator) := by
  induction pieces with
  | nil => exact absurd rfl filled
  | cons piece rest ih =>
      cases rest with
      | nil => simp
      | cons next rest =>
          rw [List.intercalate_cons_cons, List.append_assoc, List.singleton_append, splitChars,
            splitFrom_append, List.flatMap_cons, ← ih (List.cons_ne_nil _ _)]
          rfl

theorem splitFrom_cons (separator : Char) (piece text : List Char) :
    ∃ first rest, splitFrom separator piece text = first :: rest ∧ piece.reverse <+: first := by
  induction text generalizing piece with
  | nil => exact ⟨piece.reverse, [], by simp [splitFrom], List.prefix_rfl⟩
  | cons c text ih =>
      rw [splitFrom]
      split
      · exact ⟨piece.reverse, _, rfl, List.prefix_rfl⟩
      · obtain ⟨first, rest, parts, front⟩ := ih (c :: piece)
        refine ⟨first, rest, parts, List.IsPrefix.trans ?_ front⟩
        rw [List.reverse_cons]
        exact List.prefix_append _ _

theorem intercalate_splitFrom (separator : Char) (piece text : List Char) :
    [separator].intercalate (splitFrom separator piece text) = piece.reverse ++ text := by
  induction text generalizing piece with
  | nil => simp [splitFrom]
  | cons c text ih =>
      rw [splitFrom]
      split
      next same =>
        obtain ⟨next, more, parts, _⟩ := splitFrom_cons separator [] text
        rw [parts, List.intercalate_cons_cons, ← parts, ih, same]
        simp
      next => rw [ih, List.reverse_cons, List.append_assoc, List.singleton_append]

theorem split_join {separator : Char} {mark : String} (spelled : mark.toList = [separator])
    {texts : List String} (filled : texts ≠ []) :
    split separator (join mark texts) = texts.flatMap (split separator) := by
  rw [split, join, String.toList_intercalate, spelled,
    splitChars_intercalate separator (by simpa using filled), List.flatMap_map, List.map_flatMap]
  rfl

theorem join_split {separator : Char} {mark : String} (spelled : mark.toList = [separator])
    (text : String) : join mark (split separator text) = text := by
  refine String.toList_inj.mp ?_
  rw [join, String.toList_intercalate, spelled, split, List.map_map]
  simpa [Function.comp_def, splitChars] using intercalate_splitFrom separator [] text.toList

theorem split_of_free {separator : Char} {text : String} (free : separator ∉ text.toList) :
    split separator text = [text] := by
  rw [split, splitChars, splitFrom_of_free free]
  simp

theorem splitFrom_front {separator : Char} {front : List Char} (free : separator ∉ front)
    (piece rest : List Char) :
    splitFrom separator piece (front ++ rest) =
      splitFrom separator (front.reverse ++ piece) rest := by
  induction front generalizing piece with
  | nil => rfl
  | cons c front ih =>
      rw [List.mem_cons, not_or] at free
      rw [List.cons_append, splitFrom, if_neg (Ne.symm free.1), ih free.2, List.reverse_cons,
        List.append_assoc, List.singleton_append]

theorem split_front (separator : Char) {front : List Char} (free : separator ∉ front)
    {text : String} (begins : front <+: text.toList) :
    ∃ first rest, split separator text = first :: rest ∧ front <+: first.toList := by
  obtain ⟨tail, parts⟩ := begins
  obtain ⟨first, rest, whole, kept⟩ := splitFrom_cons separator (front.reverse ++ []) tail
  refine ⟨.ofList first, rest.map .ofList, ?_, ?_⟩
  · rw [split, splitChars, ← parts, splitFrom_front free, whole, List.map_cons]
  · rw [String.toList_ofList]
    simpa using kept

theorem free_of_mem_split {separator : Char} {text piece : String}
    (member : piece ∈ split separator text) : separator ∉ piece.toList := by
  have onward {text begun : List Char} (clean : separator ∉ begun) :
      ∀ piece ∈ splitFrom separator begun text, separator ∉ piece := by
    induction text generalizing begun with
    | nil => simpa [splitFrom] using clean
    | cons c text ih =>
        rw [splitFrom]
        split
        · rw [List.forall_mem_cons]
          exact ⟨by simpa using clean, ih List.not_mem_nil⟩
        next other =>
          refine ih ?_
          rw [List.mem_cons, not_or]
          exact ⟨Ne.symm other, clean⟩
  obtain ⟨chars, inside, rfl⟩ := List.mem_map.mp member
  rw [String.toList_ofList]
  exact onward List.not_mem_nil chars inside

theorem flatMap_split_of_free {separator : Char} {texts : List String}
    (free : ∀ text ∈ texts, separator ∉ text.toList) : texts.flatMap (split separator) = texts := by
  induction texts with
  | nil => rfl
  | cons text rest ih =>
      rw [List.forall_mem_cons] at free
      rw [List.flatMap_cons, split_of_free free.1, List.singleton_append, ih free.2]

theorem split_join_of_free {separator : Char} {mark : String} (spelled : mark.toList = [separator])
    {texts : List String} (filled : texts ≠ []) (free : ∀ text ∈ texts, separator ∉ text.toList) :
    split separator (join mark texts) = texts := by
  rw [split_join spelled filled, flatMap_split_of_free free]

end Text

open Text

/-- What an entry of a directory may be called. -/
structure ProperName (name : String) : Prop where
  filled : name ≠ ""
  single : name ≠ "."
  double : name ≠ ".."
  whole : '/' ∉ name.toList

def ProperNames (names : List String) : Prop := ∀ name ∈ names, ProperName name

namespace ProperNames
variable {names : List String}

theorem nil : ProperNames [] := fun _ member => absurd member List.not_mem_nil

theorem append {more : List String} (first : ProperNames names) (second : ProperNames more) :
    ProperNames (names ++ more) := by
  intro name member
  exact (List.mem_append.mp member).elim (first name) (second name)

theorem snoc (proper : ProperNames names) {name : String} (last : ProperName name) :
    ProperNames (names ++ [name]) :=
  proper.append fun _ member => List.mem_singleton.mp member ▸ last

theorem down (proper : ProperNames names) : ".." ∉ names :=
  fun member => (proper _ member).double rfl

theorem cons (proper : ProperNames names) {name : String} (first : ProperName name) :
    ProperNames (name :: names) :=
  List.forall_mem_cons.mpr ⟨first, proper⟩

theorem ofText_join (proper : ProperNames names) :
    (Path.ofText (join "/" names)).names = names := by
  by_cases filled : names = []
  · subst filled
    rfl
  · rw [Path.ofText, split_join_of_free rfl filled fun name member => (proper name member).whole]
    refine List.filter_eq_self.mpr fun name member => ?_
    have named := proper name member
    simp [named.filled, named.single]

theorem join_inj {more : List String} (first : ProperNames names) (second : ProperNames more)
    (same : join "/" names = join "/" more) : names = more := by
  rw [← first.ofText_join, ← second.ofText_join, same]

theorem join_ne_empty (proper : ProperNames names) (filled : names ≠ []) :
    join "/" names ≠ "" := by
  intro empty
  exact filled (proper.join_inj .nil (by rw [empty]; rfl))

end ProperNames

theorem Path.rootOf_eq_empty {text : String} (relative : text.toList.head? ≠ some '/') :
    Path.rootOf text = "" := by
  unfold Path.rootOf
  cases chars : text.toList with
  | nil => rfl
  | cons c rest =>
      have other : ¬(c == '/') = true := fun same =>
        relative (by rw [chars, beq_iff_eq.mp same]; rfl)
      rw [List.takeWhile_cons, if_neg other]

theorem ProperNames.head_join {names : List String} (proper : ProperNames names) :
    (join "/" names).toList.head? ≠ some '/' := by
  cases names with
  | nil => simp [join]
  | cons name rest =>
      have named := proper name List.mem_cons_self
      obtain ⟨tail, parts⟩ : ∃ tail, (join "/" (name :: rest)).toList = name.toList ++ tail := by
        cases rest with
        | nil => exact ⟨[], by simp [join]⟩
        | cons next more => exact ⟨_, by rw [join, String.intercalate_cons_cons,
            String.append_assoc, String.toList_append]⟩
      obtain ⟨c, chars, front⟩ := List.exists_cons_of_ne_nil fun empty =>
        named.filled (String.toList_eq_nil_iff.mp empty)
      rw [parts, front, List.cons_append, List.head?_cons]
      intro same
      refine named.whole ?_
      rw [front, Option.some.inj same]
      exact List.mem_cons_self

theorem ProperNames.child {names : List String} (proper : ProperNames names) (base : Path) :
    base.child (join "/" names) = { base with names := base.names ++ names } := by
  have relative : (Path.ofText (join "/" names)).isAbsolute = false := by
    rw [Path.isAbsolute, Path.ofText, Path.rootOf_eq_empty proper.head_join]
    rfl
  rw [Path.child, Path.append, relative, proper.ofText_join]
  rfl

theorem ProperName.child {name : String} (proper : ProperName name) (base : Path) :
    base.child name = { base with names := base.names ++ [name] } := by
  have single := (ProperNames.nil.snoc proper).child base
  rwa [List.nil_append, join, String.intercalate_singleton] at single

theorem ProperNames.ofText_toText {names : List String} (proper : ProperNames names) :
    Path.ofText (Path.toText ⟨"/", names⟩) = ⟨"/", names⟩ := by
  have text : Path.toText ⟨"/", names⟩ = "/" ++ join "/" names := rfl
  have chars : ("/" ++ join "/" names).toList = '/' :: (join "/" names).toList :=
    String.toList_append
  have root : Path.rootOf ("/" ++ join "/" names) = "/" := by
    have front := proper.head_join
    unfold Path.rootOf
    rw [chars]
    cases tail : (join "/" names).toList with
    | nil => rfl
    | cons c rest =>
        rw [tail, List.head?_cons] at front
        have other : ¬(c == '/') = true := fun same => front (congrArg some (beq_iff_eq.mp same))
        simp [other]
  have back := proper.ofText_join
  rw [text, Path.ofText, root]
  refine Path.mk.injEq .. ▸ ⟨rfl, ?_⟩
  rw [split, chars, splitChars, splitFrom, if_pos rfl]
  exact back

end SourceAtlas
