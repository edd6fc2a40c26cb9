import SourceAtlas.Text.Lines

/-!
The order of texts by code points is a linear one, so a list sorted by a text of its members does
not depend on the order it came in, as long as that text tells the members apart.
-/
namespace SourceAtlas.Text

theorem precedesChars_total (a b : List Char) :
    precedesChars a b = true ∨ precedesChars b a = true := by
  induction a generalizing b with
  | nil => exact .inl rfl
  | cons c rest ih =>
      cases b with
      | nil => exact .inr rfl
      | cons d others =>
          by_cases same : c = d
          · simpa [precedesChars, same] using ih others
          · have codes : c.toNat ≠ d.toNat := fun equal => same (Char.toNat_inj.mp equal)
            simp only [precedesChars, same, Ne.symm same, if_false, decide_eq_true_eq]
            omega

theorem precedesChars_trans {a b c : List Char} (first : precedesChars a b = true)
    (second : precedesChars b c = true) : precedesChars a c = true := by
  induction a generalizing b c with
  | nil => rfl
  | cons x xs ih =>
      cases b with
      | nil => cases first
      | cons y ys =>
          cases c with
          | nil => cases second
          | cons z zs =>
              by_cases xy : x = y
              · by_cases yz : y = z
                · simp only [precedesChars, xy, yz, if_true] at first second ⊢
                  exact ih first second
                · rw [xy]
                  simpa only [precedesChars, yz, if_false] using second
              · by_cases yz : y = z
                · rw [← yz]
                  simpa only [precedesChars, xy, if_false] using first
                · simp only [precedesChars, xy, yz, if_false, decide_eq_true_eq] at first second
                  have less : x.toNat < z.toNat := Nat.lt_trans first second
                  have xz : x ≠ z := fun equal => absurd less (by simp [equal])
                  simpa only [precedesChars, xz, if_false, decide_eq_true_eq] using less

theorem precedesChars_antisymm {a b : List Char} (first : precedesChars a b = true)
    (second : precedesChars b a = true) : a = b := by
  induction a generalizing b with
  | nil =>
      cases b with
      | nil => rfl
      | cons => cases second
  | cons x xs ih =>
      cases b with
      | nil => cases first
      | cons y ys =>
          by_cases same : x = y
          · simp only [precedesChars, same, if_true] at first second
            rw [same, ih first second]
          · simp only [precedesChars, same, Ne.symm same, if_false, decide_eq_true_eq]
              at first second
            omega

theorem precedes_total (a b : String) : (precedes a b || precedes b a) = true := by
  simpa [precedes] using precedesChars_total a.toList b.toList

theorem precedes_trans (a b c : String) (first : precedes a b = true)
    (second : precedes b c = true) : precedes a c = true := precedesChars_trans first second

theorem precedes_antisymm {a b : String} (first : precedes a b = true)
    (second : precedes b a = true) : a = b :=
  String.toList_inj.mp (precedesChars_antisymm first second)

theorem precedesChars_iff (a b : List Char) : precedesChars a b = true ↔ ¬b < a := by
  induction a generalizing b with
  | nil => exact iff_of_true rfl (List.not_lt_nil b)
  | cons c rest ih =>
      cases b with
      | nil => exact iff_of_false nofun (not_not_intro (List.nil_lt_cons c rest))
      | cons d others =>
          rw [precedesChars, List.cons_lt_cons_iff]
          by_cases same : c = d
          · subst same
            simp [ih]
          · have codes : c.toNat ≠ d.toNat := fun equal => same (Char.toNat_inj.mp equal)
            have order : d < c ↔ d.toNat < c.toNat := Iff.rfl
            simp only [same, Ne.symm same, if_false, order, decide_eq_true_eq, false_and, or_false]
            omega

theorem precedes_iff_le {a b : String} : precedes a b = true ↔ a ≤ b :=
  precedesChars_iff a.toList b.toList

theorem pairwise_mergeSort {α : Type} (key : α → String) (xs : List α) :
    (xs.mergeSort fun a b => precedes (key a) (key b)).Pairwise
      fun a b => precedes (key a) (key b) = true :=
  List.pairwise_mergeSort (fun a b c => precedes_trans (key a) (key b) (key c))
    (fun a b => precedes_total (key a) (key b)) xs

theorem pairwise_lt_mergeSort {α : Type} (key : α → String) {xs : List α}
    (apart : (xs.map key).Nodup) :
    ((xs.mergeSort fun a b => precedes (key a) (key b)).map key).Pairwise (· < ·) := by
  have perm := List.mergeSort_perm xs fun a b => precedes (key a) (key b)
  have different := List.pairwise_map.mp ((perm.map key).nodup_iff.mpr apart)
  refine List.pairwise_map.mpr (((pairwise_mergeSort key xs).and different).imp fun both => ?_)
  exact Std.lt_of_le_of_ne (precedes_iff_le.mp both.1) both.2

theorem mergeSort_eq_of_perm {α : Type} (key : α → String) {xs ys : List α} (perm : xs.Perm ys)
    (apart : ∀ x ∈ xs, ∀ y ∈ xs, key x = key y → x = y) :
    xs.mergeSort (fun a b => precedes (key a) (key b)) =
      ys.mergeSort (fun a b => precedes (key a) (key b)) := by
  refine List.Perm.eq_of_pairwise ?_ (pairwise_mergeSort key xs) (pairwise_mergeSort key ys) ?_
  · intro a b left right before after
    have inLeft : a ∈ xs := (List.mergeSort_perm xs _).mem_iff.mp left
    have inRight : b ∈ xs := perm.mem_iff.mpr ((List.mergeSort_perm ys _).mem_iff.mp right)
    exact apart a inLeft b inRight (precedes_antisymm before after)
  · exact (List.mergeSort_perm xs _).trans (perm.trans (List.mergeSort_perm ys _).symm)

theorem mem_foldl_distinct {α : Type} [BEq α] [LawfulBEq α] (items seen : List α) (a : α) :
    a ∈ items.foldl (fun seen item => if seen.contains item then seen else item :: seen) seen ↔
      a ∈ items ∨ a ∈ seen := by
  induction items generalizing seen with
  | nil => simp
  | cons item rest ih =>
      rw [List.foldl_cons, ih]
      by_cases known : seen.contains item = true
      · have inside := List.contains_iff_mem.mp known
        rw [if_pos known, List.mem_cons]
        constructor
        · rintro (later | earlier)
          · exact .inl (.inr later)
          · exact .inr earlier
        · rintro ((rfl | later) | earlier)
          · exact .inr inside
          · exact .inl later
          · exact .inr earlier
      · rw [if_neg known, List.mem_cons, List.mem_cons]
        constructor
        · rintro (later | rfl | earlier)
          · exact .inl (.inr later)
          · exact .inl (.inl rfl)
          · exact .inr earlier
        · rintro ((rfl | later) | earlier)
          · exact .inr (.inl rfl)
          · exact .inl later
          · exact .inr (.inr earlier)

theorem mem_distinct {α : Type} [BEq α] [LawfulBEq α] {items : List α} {a : α} :
    a ∈ distinct items ↔ a ∈ items := by
  rw [distinct, List.mem_reverse, mem_foldl_distinct]
  exact or_iff_left List.not_mem_nil

theorem nodup_distinct {α : Type} [BEq α] [LawfulBEq α] (items : List α) :
    (distinct items).Nodup := by
  have onward (seen : List α) (apart : seen.Nodup) :
      (items.foldl (fun seen item => if seen.contains item then seen else item :: seen)
        seen).Nodup := by
    induction items generalizing seen with
    | nil => exact apart
    | cons item rest ih =>
        rw [List.foldl_cons]
        split
        · exact ih seen apart
        next fresh =>
          exact ih (item :: seen) (List.nodup_cons.mpr
            ⟨fun inside => fresh (List.contains_iff_mem.mpr inside), apart⟩)
  exact (List.reverse_perm _).nodup_iff.mpr (onward [] List.nodup_nil)

theorem sortTexts_perm (texts : List String) : (sortTexts texts).Perm texts :=
  List.mergeSort_perm texts _

theorem sortTexts_sorted (texts : List String) : (sortTexts texts).Pairwise (· ≤ ·) :=
  (pairwise_mergeSort id texts).imp precedes_iff_le.mp

theorem sortTexts_eq_of_perm {first second : List String} (perm : first.Perm second) :
    sortTexts first = sortTexts second :=
  mergeSort_eq_of_perm id perm fun _ _ _ _ same => same

theorem sortTexts_distinct_congr {first second : List String}
    (same : ∀ text, text ∈ first ↔ text ∈ second) :
    sortTexts (distinct first) = sortTexts (distinct second) := by
  refine sortTexts_eq_of_perm
    ((List.perm_ext_iff_of_nodup (nodup_distinct first) (nodup_distinct second)).mpr ?_)
  intro text
  rw [mem_distinct, mem_distinct, same]

end SourceAtlas.Text
