import SourceAtlas.Text.Lines
import Mathlib.Data.List.DropRight

/-!
Pieces of texts. What is looked for at the front of a text, at its back or anywhere in it is found
exactly where the characters of the text say so. What is trimmed at its ends is told by the first
character on either side that stays.
-/
namespace SourceAtlas.Text

theorem dropFront_append (front rest : List Char) :
    dropFront? front (front ++ rest) = some rest := by
  induction front with
  | nil => cases rest <;> rfl
  | cons c front ih => rw [List.cons_append, dropFront?, if_pos rfl, ih]

theorem dropFront?_eq_some_iff (front text rest : List Char) :
    dropFront? front text = some rest ↔ text = front ++ rest := by
  constructor
  · intro dropped
    induction front generalizing text with
    | nil => simpa [dropFront?] using dropped
    | cons p front ih =>
        cases text with
        | nil => simp [dropFront?] at dropped
        | cons c text =>
            by_cases same : p = c
            · rw [dropFront?, if_pos same] at dropped
              rw [ih text dropped, same, List.cons_append]
            · simp [dropFront?, same] at dropped
  · rintro rfl
    exact dropFront_append front rest

theorem dropFront?_isSome_iff (front text : List Char) :
    (dropFront? front text).isSome = true ↔ front <+: text := by
  rw [Option.isSome_iff_exists]
  exact exists_congr fun rest => (dropFront?_eq_some_iff front text rest).trans eq_comm

theorem startsWith_iff (text front : String) :
    startsWith text front = true ↔ front.toList <+: text.toList :=
  dropFront?_isSome_iff _ _

theorem endsWith_iff (text back : String) :
    endsWith text back = true ↔ back.toList <:+ text.toList := by
  rw [endsWith, dropFront?_isSome_iff, List.reverse_prefix]

theorem occurs_iff (piece text : List Char) : occurs piece text = true ↔ piece <:+: text := by
  induction text with
  | nil => simp [occurs]
  | cons c rest ih =>
      rw [occurs, Bool.or_eq_true, dropFront?_isSome_iff, ih, List.infix_cons_iff]

section Trimming

variable {p : Char → Bool} {front text back : List Char}

theorem trimStart_subset (p : Char → Bool) (text : List Char) : trimStart p text ⊆ text :=
  (List.dropWhile_suffix p).subset

theorem trimEnd_subset (p : Char → Bool) (text : List Char) : trimEnd p text ⊆ text :=
  (List.rdropWhile_prefix p text).subset

theorem trimChars_subset (p : Char → Bool) (text : List Char) : trimChars p text ⊆ text :=
  List.Subset.trans (trimEnd_subset p _) (trimStart_subset p text)

theorem trimChars_eq_nil_iff : trimChars p text = [] ↔ ∀ c ∈ text, p c = true := by
  have ends : trimChars p text = [] ↔ ∀ c ∈ trimStart p text, p c = true :=
    List.rdropWhile_eq_nil_iff
  rw [ends]
  refine ⟨fun all c member => ?_, fun all c member => all c (trimStart_subset p text member)⟩
  have parts := List.takeWhile_append_dropWhile (p := p) (l := text)
  rw [← parts, List.mem_append] at member
  exact member.elim List.mem_takeWhile_imp (all c)

theorem trimStart_append (dropped : ∀ c ∈ front, p c = true)
    (kept : ∀ c ∈ text.head?, p c = false) : trimStart p (front ++ text) = text := by
  rw [trimStart, List.dropWhile_append_of_pos dropped]
  cases text with
  | nil => rfl
  | cons c rest => exact List.dropWhile_cons_of_neg (Bool.eq_false_iff.mp (kept c rfl))

theorem trimEnd_append (kept : ∀ c ∈ text.getLast?, p c = false)
    (dropped : ∀ c ∈ back, p c = true) : trimEnd p (text ++ back) = text := by
  have turned : trimStart p (back.reverse ++ text.reverse) = text.reverse :=
    trimStart_append (by simpa using dropped) (by simpa using kept)
  rw [trimEnd, List.reverse_append, ← trimStart, turned, List.reverse_reverse]

theorem trimChars_append (before : ∀ c ∈ front, p c = true)
    (first : ∀ c ∈ text.head?, p c = false) (last : ∀ c ∈ text.getLast?, p c = false)
    (after : ∀ c ∈ back, p c = true) : trimChars p (front ++ text ++ back) = text := by
  cases text with
  | nil =>
      rw [List.append_nil, trimChars_eq_nil_iff]
      exact List.forall_mem_append.mpr ⟨before, after⟩
  | cons c rest =>
      have start : trimStart p (front ++ (c :: rest ++ back)) = c :: rest ++ back :=
        trimStart_append before first
      rw [List.append_assoc, trimChars, start, trimEnd_append last after]

theorem trimChars_eq_self (first : ∀ c ∈ text.head?, p c = false)
    (last : ∀ c ∈ text.getLast?, p c = false) : trimChars p text = text := by
  have again : trimChars p ([] ++ text ++ []) = text := trimChars_append nofun first last nofun
  rwa [List.nil_append, List.append_nil] at again

theorem exists_trimStart (p : Char → Bool) (text : List Char) :
    ∃ front, text = front ++ trimStart p text ∧ ∀ c ∈ front, p c = true :=
  ⟨text.takeWhile p, List.takeWhile_append_dropWhile.symm, fun _ => List.mem_takeWhile_imp⟩

theorem head_trimStart {c : Char} (first : c ∈ (trimStart p text).head?) : p c = false := by
  have stays := List.head?_dropWhile_not p text
  rw [trimStart, Option.mem_def] at first
  rwa [first] at stays

theorem last_trimEnd {c : Char} (last : c ∈ (trimEnd p text).getLast?) : p c = false := by
  rw [trimEnd, List.getLast?_reverse] at last
  exact head_trimStart last

theorem last_trimChars {c : Char} (last : c ∈ (trimChars p text).getLast?) : p c = false :=
  last_trimEnd last

theorem head_trimChars {c : Char} (first : c ∈ (trimChars p text).head?) : p c = false := by
  obtain ⟨dropped, whole⟩ := List.rdropWhile_prefix p (trimStart p text)
  have start : c ∈ (trimStart p text).head? :=
    whole ▸ List.mem_head?_append_of_mem_head? first
  exact head_trimStart start

theorem trimChars_trimChars (p : Char → Bool) (text : List Char) :
    trimChars p (trimChars p text) = trimChars p text :=
  trimChars_eq_self (fun _ => head_trimChars) fun _ => last_trimChars

end Trimming

end SourceAtlas.Text
