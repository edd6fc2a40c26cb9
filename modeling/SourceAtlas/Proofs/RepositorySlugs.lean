import Mathlib
import SourceAtlas.Proofs.IndexPlacement
import SourceAtlas.Proofs.TextPieces
import SourceAtlas.Text.Case

/-!
The slugs of repository names. A slug is in a normal form that its own slug is in as well; names
that differ in case, or in what stands between their words, have the same slugs.
-/
namespace SourceAtlas

open Text

namespace Slugs

def wordsOf (name : String) : List (List Char) :=
  match runsFrom [] name.toList with
  | [] => ["repo".toList]
  | runs => runs

def joined (name : String) : List Char := ['_'].intercalate (wordsOf name)

theorem ofName_eq (name : String) :
    ofName name = ⟨.ofList ((joined name).map Char.toLower),
      .ofList ((joined name).map Char.toUpper)⟩ := by
  unfold ofName joined wordsOf
  rfl

theorem toList_file (name : String) :
    (ofName name).file.toList = (joined name).map Char.toLower := by
  rw [ofName_eq, String.toList_ofList]

theorem toList_symbol (name : String) :
    (ofName name).symbol.toList = (joined name).map Char.toUpper := by
  rw [ofName_eq, String.toList_ofList]

def IsWord (word : List Char) : Prop := word ≠ [] ∧ ∀ c ∈ word, c.isAlphanum = true

theorem isWord_of_mem_runsFrom {run text piece : List Char} (clean : ∀ c ∈ run, c.isAlphanum)
    (member : piece ∈ runsFrom run text) : IsWord piece := by
  refine ⟨?_, alphanum_of_mem_runsFrom clean member⟩
  fun_induction runsFrom run text
  case case1 => simp at member
  case case2 run filled =>
    rw [List.mem_singleton.mp member]
    simpa using filled
  case case3 run c rest alphanum ih => exact ih (List.forall_mem_cons.mpr ⟨alphanum, clean⟩) member
  case case4 run c rest other empty ih => exact ih (by simp) member
  case case5 run c rest other filled ih =>
    rcases List.mem_cons.mp member with rfl | later
    · simpa using filled
    · exact ih (by simp) later

theorem isWord_of_mem_wordsOf {name : String} {word : List Char} (member : word ∈ wordsOf name) :
    IsWord word := by
  unfold wordsOf at member
  split at member
  · have letters : "repo".toList.all Char.isAlphanum = true := by decide
    rw [List.mem_singleton.mp member]
    exact ⟨by decide, List.all_eq_true.mp letters⟩
  · exact isWord_of_mem_runsFrom (by simp) member

theorem wordsOf_filled (name : String) : wordsOf name ≠ [] := by
  unfold wordsOf
  split
  · exact List.cons_ne_nil _ _
  · assumption

theorem ofName_congr {first second : String} (same : wordsOf first = wordsOf second) :
    ofName first = ofName second := by
  rw [ofName_eq, ofName_eq, joined, joined, same]

theorem runsFrom_append {word : List Char} (clean : ∀ c ∈ word, c.isAlphanum = true)
    (run rest : List Char) : runsFrom run (word ++ rest) = runsFrom (word.reverse ++ run) rest := by
  induction word generalizing run with
  | nil => rfl
  | cons c word ih =>
      rw [List.forall_mem_cons] at clean
      rw [List.cons_append, runsFrom, if_pos clean.1, ih clean.2, List.reverse_cons,
        List.append_assoc, List.singleton_append]

theorem runsFrom_gap {gap : List Char} (filled : gap ≠ [])
    (other : ∀ c ∈ gap, c.isAlphanum = false) (run rest : List Char) :
    runsFrom run (gap ++ rest) = runsFrom run [] ++ runsFrom [] rest := by
  have ended (c : Char) (mark : c.isAlphanum = false) (run after : List Char) :
      runsFrom run (c :: after) = runsFrom run [] ++ runsFrom [] after := by
    cases run <;> simp [runsFrom, mark]
  induction gap generalizing run with
  | nil => exact absurd rfl filled
  | cons c gap ih =>
      rw [List.forall_mem_cons] at other
      rw [List.cons_append, ended c other.1]
      cases gap with
      | nil => rfl
      | cons d gap => rw [ih (List.cons_ne_nil _ _) other.2]; rfl

theorem runsFrom_front {first second : List Char}
    (same : ∀ run, runsFrom run first = runsFrom run second) (run front : List Char) :
    runsFrom run (front ++ first) = runsFrom run (front ++ second) := by
  induction front generalizing run with
  | nil => exact same run
  | cons c front ih =>
      rw [List.cons_append, List.cons_append, runsFrom, runsFrom, ih, ih]

theorem runsFrom_intercalate {words : List (List Char)} (each : ∀ word ∈ words, IsWord word) :
    runsFrom [] (['_'].intercalate words) = words := by
  induction words with
  | nil => rfl
  | cons word rest ih =>
      rw [List.forall_mem_cons] at each
      have alone : runsFrom (word.reverse ++ []) [] = [word] := by
        rw [List.append_nil, runsFrom, if_neg (by simpa using each.1.1), List.reverse_reverse]
      cases rest with
      | nil =>
          rw [List.intercalate_singleton, ← List.append_nil word, runsFrom_append each.1.2, alone,
            List.append_nil]
      | cons next rest =>
          have underscore_only : ∀ c ∈ ['_'], c.isAlphanum = false :=
            List.forall_mem_singleton.mpr rfl
          rw [List.intercalate_cons_cons, List.append_assoc, runsFrom_append each.1.2,
            runsFrom_gap (List.cons_ne_nil _ _) underscore_only, alone, ih each.2]
          rfl

/-- A change of characters that keeps letters and digits apart from the others changes the words and
nothing else. -/
theorem runsFrom_map {change : Char → Char} (kept : ∀ c, (change c).isAlphanum = c.isAlphanum)
    (run text : List Char) :
    runsFrom (run.map change) (text.map change) = (runsFrom run text).map (List.map change) := by
  fun_induction runsFrom run text
  case case1 run empty => simp [runsFrom, List.isEmpty_iff.mp empty]
  case case2 run filled => simp_all [runsFrom]
  case case3 run c rest alphanum ih =>
    rw [List.map_cons, runsFrom, kept, if_pos alphanum]
    exact ih
  case case4 run c rest other empty ih =>
    rw [List.map_cons, runsFrom, kept, if_neg other, if_pos (by simpa using empty)]
    exact ih
  case case5 run c rest other filled ih =>
    rw [List.map_cons, runsFrom, kept, if_neg other, if_neg (by simpa using filled), List.map_cons,
      List.map_reverse]
    exact congrArg _ ih

/-- A text with every run of other characters as one underscore; `inside` tells that the one of the
current run is written. -/
def underscored (inside : Bool) : List Char → List Char
  | [] => []
  | c :: rest =>
      if c.isAlphanum then c :: underscored false rest
      else if inside then underscored true rest
      else '_' :: underscored true rest

/-- What a slug is made of: the text with underscores, none at its ends, or a text in its place. -/
def stem (name : String) : List Char :=
  let trimmed := trimChars (· = '_') (underscored false name.toList)
  if trimmed.isEmpty then "repo".toList else trimmed

/-- What follows a run: the words with underscores between them, and one more underscore if the text
does not end in a word. Before the first word the run of other characters counts as written. -/
theorem underscored_eq (run text : List Char) :
    ∃ tail, (tail = [] ∨ runsFrom run text ≠ [] ∧ tail = ['_']) ∧
      run.reverse ++ underscored run.isEmpty text =
        ['_'].intercalate (runsFrom run text) ++ tail := by
  fun_induction runsFrom run text
  case case1 run empty =>
    refine ⟨[], .inl rfl, ?_⟩
    rw [List.isEmpty_iff.mp empty]
    rfl
  case case2 run filled =>
    refine ⟨[], .inl rfl, ?_⟩
    rw [List.intercalate_singleton]
    rfl
  case case3 run c rest alphanum ih =>
    obtain ⟨tail, ends, same⟩ := ih
    refine ⟨tail, ends, ?_⟩
    rw [← same, underscored, if_pos alphanum, List.reverse_cons, List.append_assoc]
    rfl
  case case4 run c rest other empty ih =>
    obtain ⟨tail, ends, same⟩ := ih
    refine ⟨tail, ends, ?_⟩
    rw [← same, underscored, if_neg other, if_pos empty, List.isEmpty_iff.mp empty]
    rfl
  case case5 run c rest other filled ih =>
    obtain ⟨tail, ends, same⟩ := ih
    have here : run.reverse ++ underscored run.isEmpty (c :: rest) =
        run.reverse ++ ['_'] ++ (['_'].intercalate (runsFrom [] rest) ++ tail) := by
      rw [← same, underscored, if_neg other, if_neg filled, List.append_assoc]
      rfl
    rw [here]
    cases later : runsFrom [] rest with
    | nil =>
        rw [later] at ends
        obtain rfl : tail = [] := ends.resolve_right fun more => more.1 rfl
        exact ⟨['_'], .inr ⟨List.cons_ne_nil _ _, rfl⟩, by simp⟩
    | cons next more =>
        refine ⟨tail, ends.imp_right fun end_ => ⟨List.cons_ne_nil _ _, end_.2⟩, ?_⟩
        rw [List.intercalate_cons_cons]
        simp only [List.append_assoc]

theorem underscored_front (text : List Char) :
    ∃ lead, (lead = [] ∨ lead = ['_']) ∧
      underscored false text = lead ++ underscored true text := by
  cases text with
  | nil => exact ⟨[], .inl rfl, rfl⟩
  | cons c rest =>
      by_cases alphanum : c.isAlphanum = true
      · exact ⟨[], .inl rfl, by simp [underscored, alphanum]⟩
      · exact ⟨['_'], .inr rfl, by simp [underscored, alphanum]⟩

theorem intercalate_ends {words : List (List Char)} (filled : words ≠ [])
    (each : ∀ word ∈ words, IsWord word) :
    (∃ c rest, ['_'].intercalate words = c :: rest ∧ c.isAlphanum = true) ∧
      ∃ rest c, ['_'].intercalate words = rest ++ [c] ∧ c.isAlphanum = true := by
  induction words with
  | nil => exact absurd rfl filled
  | cons word rest ih =>
      rw [List.forall_mem_cons] at each
      obtain ⟨c, tail, begins⟩ := List.exists_cons_of_ne_nil each.1.1
      obtain ⟨front, d, ends⟩ := (List.eq_nil_or_concat word).resolve_left each.1.1
      have first : c.isAlphanum = true := each.1.2 c (by simp [begins])
      have last : d.isAlphanum = true := each.1.2 d (by simp [ends])
      cases rest with
      | nil =>
          rw [List.intercalate_singleton]
          exact ⟨⟨c, tail, begins, first⟩, front, d, by simpa using ends, last⟩
      | cons next rest =>
          obtain ⟨-, inner, e, stop, clean⟩ := ih (List.cons_ne_nil _ _) each.2
          rw [List.intercalate_cons_cons]
          refine ⟨⟨c, _, by rw [begins]; rfl, first⟩, word ++ ['_'] ++ inner, e, ?_, clean⟩
          simp only [stop, List.append_assoc]

theorem joined_eq_stem (name : String) : joined name = stem name := by
  obtain ⟨lead, opens, front⟩ := underscored_front name.toList
  obtain ⟨tail, ends, written⟩ := underscored_eq [] name.toList
  have whole : underscored false name.toList =
      lead ++ ['_'].intercalate (runsFrom [] name.toList) ++ tail := by
    rw [front, List.append_assoc, ← written]
    rfl
  have marks {marks : List Char} (few : marks = [] ∨ marks = ['_']) :
      ∀ c ∈ marks, decide (c = '_') = true := by
    rcases few with rfl | rfl <;> simp
  unfold joined wordsOf stem
  rw [whole]
  cases runs : runsFrom [] name.toList with
  | nil =>
      rw [runs] at ends
      obtain rfl : tail = [] := ends.resolve_right fun more => more.1 rfl
      have trimmed :
          trimChars (fun c => decide (c = '_')) (lead ++ ['_'].intercalate [] ++ []) = [] := by
        rcases opens with rfl | rfl <;> rfl
      rw [trimmed]
      rfl
  | cons word rest =>
      have each (piece : List Char) (member : piece ∈ word :: rest) : IsWord piece :=
        isWord_of_mem_runsFrom (by simp) (runs ▸ member)
      have alphanum {c : Char} (clean : c.isAlphanum = true) : decide (c = '_') = false :=
        decide_eq_false fun same => by rw [same] at clean; cases clean
      obtain ⟨⟨c, front, begins, first⟩, back, d, stops, last⟩ :=
        intercalate_ends (List.cons_ne_nil word rest) each
      have start : ∀ e ∈ (['_'].intercalate (word :: rest)).head?, decide (e = '_') = false := by
        rw [begins]
        rintro _ ⟨⟩
        exact alphanum first
      have stop : ∀ e ∈ (['_'].intercalate (word :: rest)).getLast?, decide (e = '_') = false := by
        rw [stops, List.getLast?_concat]
        rintro _ ⟨⟩
        exact alphanum last
      rw [trimChars_append (marks opens) start stop (marks (ends.imp_right And.right))]
      rw [if_neg (by rw [begins]; exact Bool.false_ne_true)]

theorem isAlphanum_toLower (c : Char) : c.toLower.isAlphanum = c.isAlphanum := by
  by_cases upper : c.isUpper = true
  · simp [Char.isAlphanum, Char.isAlpha, upper]
  · rw [Char.toLower_eq_of_not_isUpper upper]

theorem toUpper_comp_toLower : Char.toUpper ∘ Char.toLower = Char.toUpper :=
  funext Char.toUpper_toLower_eq_toUpper

theorem map_intercalate {change : Char → Char} (kept : change '_' = '_')
    (words : List (List Char)) : (['_'].intercalate words).map change =
      ['_'].intercalate (words.map (List.map change)) := by
  induction words with
  | nil => rfl
  | cons word rest ih =>
      cases rest with
      | nil => simp
      | cons next rest =>
          rw [List.intercalate_cons_cons, List.map_append, List.map_append, ih]
          simp [kept]

theorem ofName_of_case {first second : String}
    (same : first.toList.map Char.toLower = second.toList.map Char.toLower) :
    ofName first = ofName second := by
  have words : (runsFrom [] first.toList).map (List.map Char.toLower) =
      (runsFrom [] second.toList).map (List.map Char.toLower) := by
    rw [← runsFrom_map isAlphanum_toLower, ← runsFrom_map isAlphanum_toLower, same]
  have lowered : (joined first).map Char.toLower = (joined second).map Char.toLower := by
    rw [joined, joined, map_intercalate rfl, map_intercalate rfl]
    unfold wordsOf
    cases empty : runsFrom [] first.toList with
    | nil =>
        rw [empty, List.map_nil, eq_comm, List.map_eq_nil_iff] at words
        rw [words]
    | cons word rest =>
        rw [empty] at words
        cases other : runsFrom [] second.toList with
        | nil =>
            rw [other] at words
            exact absurd words (List.cons_ne_nil _ _)
        | cons word rest =>
            rw [other] at words
            exact congrArg _ words
  have raised (text : List Char) :
      text.map Char.toUpper = (text.map Char.toLower).map Char.toUpper := by
    rw [List.map_map, toUpper_comp_toLower]
  rw [ofName_eq, ofName_eq, raised (joined first), raised (joined second), lowered]

theorem ofName_joined (name : String) : ofName (.ofList (joined name)) = ofName name := by
  refine ofName_congr ?_
  have words : runsFrom [] (joined name) = wordsOf name :=
    runsFrom_intercalate fun word member => isWord_of_mem_wordsOf member
  rw [wordsOf, String.toList_ofList, words]
  cases filled : wordsOf name with
  | nil => exact absurd filled (wordsOf_filled name)
  | cons word rest => rfl

theorem ofName_file (name : String) : ofName (ofName name).file = ofName name := by
  rw [← ofName_joined name]
  refine ofName_of_case ?_
  rw [ofName_joined, toList_file, String.toList_ofList, List.map_map]
  exact List.map_congr_left fun c _ => Char.toLower_toLower_eq_toLower c

theorem ofName_symbol (name : String) : ofName (ofName name).symbol = ofName name := by
  rw [← ofName_joined name]
  refine ofName_of_case ?_
  rw [ofName_joined, toList_symbol, String.toList_ofList, List.map_map]
  exact List.map_congr_left fun c _ => Char.toLower_toUpper_eq_toLower c

theorem ofName_of_gap {front gap other back : List Char} (filled : gap ≠ []) (filled' : other ≠ [])
    (marks : ∀ c ∈ gap, c.isAlphanum = false) (marks' : ∀ c ∈ other, c.isAlphanum = false) :
    ofName (.ofList (front ++ gap ++ back)) = ofName (.ofList (front ++ other ++ back)) := by
  refine ofName_congr ?_
  have same : runsFrom [] (front ++ (gap ++ back)) = runsFrom [] (front ++ (other ++ back)) :=
    runsFrom_front (fun run => by rw [runsFrom_gap filled marks, runsFrom_gap filled' marks']) _ _
  simp only [wordsOf, String.toList_ofList, List.append_assoc, same]

theorem joined_chars {name : String} {c : Char} (member : c ∈ joined name) :
    c.isAlphanum = true ∨ c = '_' :=
  forall_mem_intercalate (p := fun c => c.isAlphanum = true ∨ c = '_') (.inr rfl)
    (fun _ listed d inside => .inl ((isWord_of_mem_wordsOf listed).2 d inside)) c member

theorem ascii_of_plain {c : Char} (plain : c.isAlphanum = true ∨ c = '_') : c.toNat < 128 := by
  rcases plain with alphanum | rfl
  · simp only [Char.isAlphanum, Char.isAlpha, Char.isUpper, Char.isLower, Char.isDigit,
      Bool.or_eq_true, Bool.and_eq_true, decide_eq_true_eq, ge_iff_le, UInt32.le_iff_toNat_le,
      Char.reduceVal, UInt32.reduceToNat] at alphanum
    have value : c.toNat = c.val.toNat := rfl
    omega
  · decide

theorem lower_ascii {text : List Char} (ascii : ∀ c ∈ text, c.toNat < 128) :
    lower (.ofList text) = .ofList (text.map Char.toLower) := by
  have sigma : text.contains capitalSigma = false := by
    rw [List.contains_eq_mem, decide_eq_false_iff_not]
    exact fun member => absurd (ascii _ member) (by decide)
  rw [lower, String.toList_ofList, lowerChars, sigma, if_neg Bool.false_ne_true,
    List.map_eq_flatMap]
  exact congrArg _ (List.flatMap_congr fun c member => if_pos (ascii c member))

theorem upper_ascii {text : List Char} (ascii : ∀ c ∈ text, c.toNat < 128) :
    upper (.ofList text) = .ofList (text.map Char.toUpper) := by
  rw [upper, String.toList_ofList, upperChars, List.map_eq_flatMap]
  exact congrArg _ (List.flatMap_congr fun c member => if_pos (ascii c member))

def IsSlug (text : List Char) : Prop :=
  ∃ words : List (List Char), words ≠ [] ∧
    (∀ word ∈ words, word ≠ [] ∧ ∀ c ∈ word, c.isLower = true ∨ c.isDigit = true) ∧
    text = ['_'].intercalate words

theorem small_of_alphanum {c : Char} (alphanum : c.isAlphanum = true) :
    c.toLower.isLower = true ∨ c.toLower.isDigit = true := by
  rcases toLower_cases c with small | ⟨capital, same⟩
  · exact .inl small
  · rw [same]
    simpa [Char.isAlphanum, Char.isAlpha, capital] using alphanum

theorem isSlug_file (name : String) : IsSlug (ofName name).file.toList := by
  refine ⟨(wordsOf name).map (List.map Char.toLower), by simpa using wordsOf_filled name, ?_, ?_⟩
  · intro word member
    obtain ⟨plain, listed, rfl⟩ := List.mem_map.mp member
    obtain ⟨filled, alphanum⟩ := isWord_of_mem_wordsOf listed
    refine ⟨by simpa using filled, fun c inside => ?_⟩
    obtain ⟨d, letter, rfl⟩ := List.mem_map.mp inside
    exact small_of_alphanum (alphanum d letter)
  · rw [toList_file, joined, map_intercalate rfl]

theorem head_file (name : String) :
    ∃ c rest, (ofName name).file.toList = c :: rest ∧ c.isAlphanum = true := by
  obtain ⟨⟨c, rest, begins, alphanum⟩, -⟩ :=
    intercalate_ends (wordsOf_filled name) fun _ => isWord_of_mem_wordsOf
  refine ⟨c.toLower, rest.map Char.toLower, ?_, by rw [isAlphanum_toLower, alphanum]⟩
  rw [toList_file, joined, begins, List.map_cons]

structure Lawful (name : String) : Prop where
  normal : IsSlug (ofName name).file.toList
  capitals : (ofName name).symbol = upper (ofName name).file
  composed : (ofName name).file = lower (.ofList (stem name)) ∧
    (ofName name).symbol = upper (.ofList (stem name))
  ofFile : ofName (ofName name).file = ofName name
  ofSymbol : ofName (ofName name).symbol = ofName name
  caseless : ∀ other : String, other.toList.map Char.toLower = name.toList.map Char.toLower →
    ofName other = ofName name
  gapless : ∀ front gap other back : List Char, name.toList = front ++ gap ++ back →
    gap ≠ [] → other ≠ [] → (∀ c ∈ gap, c.isAlphanum = false) →
    (∀ c ∈ other, c.isAlphanum = false) → ofName (.ofList (front ++ other ++ back)) = ofName name
  inFileName : ∀ store : Store, store.slug = (ofName name).file →
    '/' ∉ store.fileName.toList ∧ '\\' ∉ store.fileName.toList ∧
      store.fileName.toList.head? ≠ some '.'

theorem fileName_clean {name : String} {store : Store} (slug : store.slug = (ofName name).file) :
    '/' ∉ store.fileName.toList ∧ '\\' ∉ store.fileName.toList ∧
      store.fileName.toList.head? ≠ some '.' := by
  have text : store.fileName.toList = (ofName name).file.toList ++ "_INDEX.md".toList := by
    rw [Store.fileName, slug, String.toList_append]
  obtain ⟨c, rest, begins, alphanum⟩ := head_file name
  rw [text]
  refine ⟨?_, ?_, ?_⟩
  · rw [List.mem_append, not_or]
    exact ⟨not_mem_file (by decide) (by decide) name, by decide⟩
  · rw [List.mem_append, not_or]
    exact ⟨not_mem_file (by decide) (by decide) name, by decide⟩
  · rw [begins, List.cons_append, List.head?_cons]
    rintro ⟨rfl⟩
    cases alphanum

/-- The slugs of every name keep the laws. -/
theorem slugs_lawful (name : String) : Lawful name where
  normal := isSlug_file name
  capitals := by
    have ascii : ∀ c ∈ (joined name).map Char.toLower, c.toNat < 128 := by
      intro c member
      obtain ⟨d, inside, rfl⟩ := List.mem_map.mp member
      refine ascii_of_plain ((joined_chars inside).imp (fun alphanum => ?_) fun mark => ?_)
      · rw [isAlphanum_toLower, alphanum]
      · rw [mark]
        rfl
    rw [ofName_eq, upper_ascii ascii, List.map_map, toUpper_comp_toLower]
  composed := by
    have ascii (c : Char) : c ∈ stem name → c.toNat < 128 := by
      rw [← joined_eq_stem]
      exact fun member => ascii_of_plain (joined_chars member)
    rw [ofName_eq, lower_ascii ascii, upper_ascii ascii, joined_eq_stem]
    exact ⟨rfl, rfl⟩
  ofFile := ofName_file name
  ofSymbol := ofName_symbol name
  caseless _ same := ofName_of_case same
  gapless front gap other back written filled filled' marks marks' := by
    rw [ofName_of_gap filled' filled marks' marks, ← written, String.ofList_toList]
  inFileName _ := fileName_clean

example : ofName "--My-Repo.v2é" = ⟨"my_repo_v2", "MY_REPO_V2"⟩ := by decide

example : ofName "日本" = ⟨"repo", "REPO"⟩ := by decide

end Slugs

end SourceAtlas
