import SourceAtlas.Pattern

/-!
What a pattern may match, told apart from the search for it. A pattern takes a piece of a text, with
the character before the piece and the text after it in view. The search prefers some pieces to
others and leaves out what cannot go on, but it finds a match exactly where there is a piece.
-/
namespace SourceAtlas

def lastOf (before : Option Char) : List Char → Option Char
  | [] => before
  | x :: xs => lastOf (some x) xs

theorem lastOf_append (before : Option Char) (front back : List Char) :
    lastOf before (front ++ back) = lastOf (lastOf before front) back := by
  induction front generalizing before with
  | nil => rfl
  | cons x xs ih => exact ih (some x)

def First.Meets (first : First) : List Char → Prop
  | [] => first.free = true
  | x :: _ => first.admits x = true

theorem First.meets_of_free {first : First} (free : first.free = true) (text : List Char) :
    first.Meets text := by
  cases text with
  | nil => exact free
  | cons x xs => simp [Meets, admits, free]

namespace Pattern

/-- A pattern takes a piece of a text that follows `before` and is followed by `rest`. -/
def Takes : Pattern → Option Char → List Char → List Char → Prop
  | .empty, _, piece, _ => piece = []
  | .one p, _, piece, _ => ∃ x, p x = true ∧ piece = [x]
  | .many p, _, piece, _ => ∀ x ∈ piece, p x = true
  | .fewest p, _, piece, _ => ∀ x ∈ piece, p x = true
  | .seq a b, before, piece, rest =>
      ∃ u v, piece = u ++ v ∧ a.Takes before u (v ++ rest) ∧ b.Takes (lastOf before u) v rest
  | .either a b, before, piece, rest => a.Takes before piece rest ∨ b.Takes before piece rest
  | .group _ a, before, piece, rest => a.Takes before piece rest
  | .lineStart, before, piece, _ => piece = [] ∧ (before == none || before == some '\n') = true
  | .lineEnd, _, piece, rest =>
      piece = [] ∧ (rest.head? == none || rest.head? == some '\n') = true
  | .wordEdge, before, piece, rest =>
      piece = [] ∧
        (before.map Text.isWord).getD false ≠ (rest.head?.map Text.isWord).getD false
  | .notAhead p, _, piece, rest => piece = [] ∧ (rest.head?.map p).getD false = false

theorem spreadFrom_seen (p : Char → Bool) (first : First) (groups : List (Nat × List Char × Nat))
    (seen : List Cursor) (before : Option Char) (taken : Nat) (text : List Char) :
    Cursor.spreadFrom p first groups seen before taken text =
      Cursor.spreadFrom p first groups [] before taken text ++ seen := by
  induction text generalizing seen before taken with
  | nil =>
      unfold Cursor.spreadFrom
      split <;> rfl
  | cons x xs ih =>
      unfold Cursor.spreadFrom
      by_cases more : p x = true
      · rw [if_pos more, if_pos more, ih]
        conv => rhs; rw [ih]
        split <;> simp
      · rw [if_neg more, if_neg more]
        split <;> rfl

theorem spreadFrom_cons (p : Char → Bool) (first : First)
    (groups : List (Nat × List Char × Nat)) (before : Option Char) (taken : Nat) (x : Char)
    (xs : List Char) :
    Cursor.spreadFrom p first groups [] before taken (x :: xs) =
      (if p x then Cursor.spreadFrom p first groups [] (some x) (taken + 1) xs else []) ++
        if first.admits x then [⟨before, x :: xs, taken, groups⟩] else [] := by
  rw [Cursor.spreadFrom]
  by_cases more : p x = true
  · rw [if_pos more, if_pos more, spreadFrom_seen]
  · rw [if_neg more, if_neg more, List.nil_append]

theorem mem_spreadFrom {p : Char → Bool} {first : First}
    {groups : List (Nat × List Char × Nat)} {before : Option Char} {taken : Nat}
    {text : List Char} {c : Cursor} :
    c ∈ Cursor.spreadFrom p first groups [] before taken text ↔
      ∃ piece rest, text = piece ++ rest ∧ (∀ x ∈ piece, p x = true) ∧ first.Meets rest ∧
        c = ⟨lastOf before piece, rest, taken + piece.length, groups⟩ := by
  induction text generalizing before taken with
  | nil =>
      have atEnd : c ∈ Cursor.spreadFrom p first groups [] before taken [] ↔
          first.free = true ∧ c = ⟨before, [], taken, groups⟩ := by simp [Cursor.spreadFrom]
      rw [atEnd]
      constructor
      · rintro ⟨free, rfl⟩
        exact ⟨[], [], rfl, nofun, free, rfl⟩
      · rintro ⟨piece, rest, whole, _, meets, rfl⟩
        obtain ⟨rfl, rfl⟩ := List.append_eq_nil_iff.mp whole.symm
        exact ⟨meets, rfl⟩
  | cons x xs ih =>
      have atFront : c ∈ Cursor.spreadFrom p first groups [] before taken (x :: xs) ↔
          (p x = true ∧ c ∈ Cursor.spreadFrom p first groups [] (some x) (taken + 1) xs) ∨
            first.Meets (x :: xs) ∧ c = ⟨before, x :: xs, taken, groups⟩ := by
        simp [spreadFrom_cons, First.Meets]
      rw [atFront, ih]
      constructor
      · rintro (⟨more, piece, rest, rfl, all, meets, rfl⟩ | ⟨meets, rfl⟩)
        · refine ⟨x :: piece, rest, rfl, List.forall_mem_cons.mpr ⟨more, all⟩, meets, ?_⟩
          rw [List.length_cons, Nat.add_assoc, Nat.add_comm 1, lastOf]
        · exact ⟨[], x :: xs, rfl, nofun, meets, rfl⟩
      · rintro ⟨piece, rest, whole, all, meets, rfl⟩
        cases piece with
        | nil =>
            rw [List.nil_append] at whole
            subst whole
            exact .inr ⟨meets, rfl⟩
        | cons y piece =>
            obtain ⟨rfl, rfl⟩ := List.cons.inj whole
            obtain ⟨more, all⟩ := List.forall_mem_cons.mp all
            refine .inl ⟨more, piece, rest, rfl, all, meets, ?_⟩
            rw [List.length_cons, Nat.add_assoc, Nat.add_comm 1, lastOf]

theorem firstFrom_eq (p : Char → Bool) (first : First) (groups : List (Nat × List Char × Nat))
    (k : Cursor → Option Cursor) (before : Option Char) (taken : Nat) (text : List Char) :
    Cursor.firstFrom p first groups k before taken text =
      (Cursor.spreadFrom p first groups [] before taken text).reverse.findSome? k := by
  induction text generalizing before taken with
  | nil =>
      unfold Cursor.firstFrom Cursor.spreadFrom
      split <;> simp
  | cons x xs ih =>
      have here : (if first.admits x then
          [(⟨before, x :: xs, taken, groups⟩ : Cursor)] else []).reverse.findSome? k =
            if first.admits x then k ⟨before, x :: xs, taken, groups⟩ else none := by
        split <;> simp
      have further : (if p x then Cursor.spreadFrom p first groups [] (some x) (taken + 1) xs
          else []).reverse.findSome? k =
            if p x then Cursor.firstFrom p first groups k (some x) (taken + 1) xs else none := by
        split
        · exact (ih _ _).symm
        · rfl
      rw [spreadFrom_cons, List.reverse_append, List.findSome?_append, here, further,
        Cursor.firstFrom]
      split
      next found => rw [found, Option.some_or]
      next failed => rw [failed, Option.none_or]

theorem exists_of_run {p : Pattern} {c : Cursor} {next : Unit → First}
    {k : Cursor → Option Cursor} {found : Cursor} (success : p.run c next k = some found) :
    ∃ piece rest groups, c.rest = piece ++ rest ∧ p.Takes c.before piece rest ∧
      k ⟨lastOf c.before piece, rest, c.taken + piece.length, groups⟩ = some found := by
  induction p generalizing c next k with
  | empty => exact ⟨[], c.rest, c.groups, rfl, rfl, success⟩
  | one p =>
      obtain ⟨before, text, taken, groups⟩ := c
      cases text with
      | nil => cases success
      | cons x xs =>
          change (if p x then k _ else none) = some found at success
          obtain ⟨holds, success⟩ := Option.ite_none_right_eq_some.mp success
          exact ⟨[x], xs, groups, rfl, ⟨x, holds, rfl⟩, success⟩
  | many p =>
      obtain ⟨c', member, success⟩ := List.exists_of_findSome?_eq_some success
      obtain ⟨piece, rest, whole, all, _, rfl⟩ := mem_spreadFrom.mp member
      exact ⟨piece, rest, _, whole, all, success⟩
  | fewest p =>
      rw [run, firstFrom_eq] at success
      obtain ⟨c', member, success⟩ := List.exists_of_findSome?_eq_some success
      obtain ⟨piece, rest, whole, all, _, rfl⟩ := mem_spreadFrom.mp (List.mem_reverse.mp member)
      exact ⟨piece, rest, _, whole, all, success⟩
  | seq a b first second =>
      obtain ⟨u, later, _, whole, takes, success⟩ := first success
      obtain ⟨v, rest, groups, rfl, follows, success⟩ := second success
      refine ⟨u ++ v, rest, groups, by rw [whole, List.append_assoc], ⟨u, v, rfl, takes, follows⟩,
        ?_⟩
      rw [lastOf_append, List.length_append, ← Nat.add_assoc]
      exact success
  | either a b first second =>
      rw [run] at success
      split at success
      next other =>
        cases success
        obtain ⟨piece, rest, groups, whole, takes, success⟩ := first other
        exact ⟨piece, rest, groups, whole, .inl takes, success⟩
      · obtain ⟨piece, rest, groups, whole, takes, success⟩ := second success
        exact ⟨piece, rest, groups, whole, .inr takes, success⟩
  | group n a inner =>
      obtain ⟨piece, rest, _, whole, takes, success⟩ := inner success
      exact ⟨piece, rest, _, whole, takes, success⟩
  | lineStart =>
      obtain ⟨holds, success⟩ := Option.ite_none_right_eq_some.mp success
      exact ⟨[], c.rest, c.groups, rfl, ⟨rfl, holds⟩, success⟩
  | lineEnd =>
      obtain ⟨holds, success⟩ := Option.ite_none_right_eq_some.mp success
      exact ⟨[], c.rest, c.groups, rfl, ⟨rfl, holds⟩, success⟩
  | wordEdge =>
      obtain ⟨holds, success⟩ := Option.ite_none_right_eq_some.mp success
      exact ⟨[], c.rest, c.groups, rfl, ⟨rfl, bne_iff_ne.mp holds⟩, success⟩
  | notAhead p =>
      obtain ⟨holds, success⟩ := Option.ite_none_left_eq_some.mp success
      exact ⟨[], c.rest, c.groups, rfl, ⟨rfl, Bool.eq_false_iff.mpr holds⟩, success⟩

theorem First.Meets.cons {next : First} {p : Char → Bool} {piece rest : List Char}
    (all : ∀ x ∈ piece, p x = true) (meets : next.Meets rest) :
    ({ next with classes := p :: next.classes } : First).Meets (piece ++ rest) := by
  cases piece with
  | nil =>
      cases rest with
      | nil => exact meets
      | cons x xs =>
          have admitted : (next.free || next.classes.any (· x)) = true := meets
          change (next.free || (p x || next.classes.any (· x))) = true
          rw [Bool.or_left_comm, admitted, Bool.or_true]
  | cons x xs => simp [First.Meets, First.admits, all x List.mem_cons_self]

theorem First.meets_or {x y : First} {text : List Char} :
    (⟨x.free || y.free, x.classes ++ y.classes⟩ : First).Meets text ↔
      x.Meets text ∨ y.Meets text := by
  cases text with
  | nil => exact Bool.or_eq_true _ _ ▸ Iff.rfl
  | cons c rest =>
      simp only [First.Meets, First.admits, List.any_append, Bool.or_eq_true]
      exact or_or_or_comm

theorem Takes.meets {p : Pattern} {before : Option Char} {piece rest : List Char} {next : First}
    (takes : p.Takes before piece rest) (meets : next.Meets rest) :
    (p.first next).Meets (piece ++ rest) := by
  induction p generalizing before piece rest next with
  | one p =>
      obtain ⟨x, holds, rfl⟩ := takes
      simp [first, First.Meets, First.admits, holds]
  | many p | fewest p => exact First.Meets.cons takes meets
  | seq a b first second =>
      obtain ⟨u, v, rfl, takes, follows⟩ := takes
      rw [List.append_assoc]
      exact first takes (second follows meets)
  | either a b first second =>
      exact First.meets_or.mpr (takes.imp (first · meets) (second · meets))
  | group n a inner => exact inner takes meets
  | empty => exact (show piece = [] from takes) ▸ meets
  | lineStart | lineEnd | wordEdge | notAhead => exact takes.1 ▸ meets

theorem isSome_of_holds {α : Type} {holds : Bool} {result : Option α} (test : holds = true)
    (some : result.isSome = true) : (if holds then result else none).isSome = true := by
  rwa [if_pos test]

theorem run_isSome {p : Pattern} {before : Option Char} {piece rest : List Char} {taken : Nat}
    {groups : List (Nat × List Char × Nat)} {next : Unit → First} {k : Cursor → Option Cursor}
    (takes : p.Takes before piece rest) (meets : (next ()).Meets rest)
    (goesOn : ∀ groups, (k ⟨lastOf before piece, rest, taken + piece.length, groups⟩).isSome) :
    (p.run ⟨before, piece ++ rest, taken, groups⟩ next k).isSome := by
  induction p generalizing before piece rest taken groups next k with
  | empty =>
      obtain rfl : piece = [] := takes
      exact goesOn groups
  | one p =>
      obtain ⟨x, holds, rfl⟩ := takes
      exact isSome_of_holds holds (goesOn groups)
  | many p =>
      exact List.findSome?_isSome_iff.mpr
        ⟨_, mem_spreadFrom.mpr ⟨piece, rest, rfl, takes, meets, rfl⟩, goesOn groups⟩
  | fewest p =>
      rw [run, firstFrom_eq]
      exact List.findSome?_isSome_iff.mpr
        ⟨_, List.mem_reverse.mpr (mem_spreadFrom.mpr ⟨piece, rest, rfl, takes, meets, rfl⟩),
          goesOn groups⟩
  | seq a b first second =>
      obtain ⟨u, v, rfl, takes, follows⟩ := takes
      rw [run, List.append_assoc]
      refine first takes (follows.meets meets) fun _ => second follows meets fun groups => ?_
      have goes := goesOn groups
      rwa [lastOf_append, List.length_append, ← Nat.add_assoc] at goes
  | either a b first second =>
      rw [run]
      split
      · rfl
      next failed =>
        rcases takes with takes | takes
        · have success : (a.run ⟨before, piece ++ rest, taken, groups⟩ next k).isSome = true :=
            first takes meets goesOn
          rw [failed] at success
          cases success
        · exact second takes meets goesOn
  | group n a inner => exact inner takes meets fun _ => goesOn _
  | lineStart =>
      obtain ⟨rfl, holds⟩ := takes
      exact isSome_of_holds holds (goesOn groups)
  | lineEnd =>
      obtain ⟨rfl, holds⟩ := takes
      exact isSome_of_holds holds (goesOn groups)
  | wordEdge =>
      obtain ⟨rfl, holds⟩ := takes
      exact isSome_of_holds (bne_iff_ne.mpr holds) (goesOn groups)
  | notAhead p =>
      obtain ⟨rfl, holds⟩ := takes
      change (if (rest.head?.map p).getD false then none else k _).isSome = true
      rw [holds]
      exact goesOn groups

theorem matchAt?_isSome_iff {p : Pattern} {before : Option Char} {text : List Char} :
    (p.matchAt? before text).isSome = true ↔
      ∃ piece rest, text = piece ++ rest ∧ p.Takes before piece rest := by
  constructor
  · intro success
    obtain ⟨found, success⟩ := Option.isSome_iff_exists.mp success
    obtain ⟨piece, rest, _, whole, takes, _⟩ := exists_of_run success
    exact ⟨piece, rest, whole, takes⟩
  · rintro ⟨piece, rest, rfl, takes⟩
    exact run_isSome takes (First.meets_of_free rfl rest) fun _ => rfl

theorem firstIn_isSome_iff {p : Pattern} {before : Option Char} {text : List Char} :
    (p.firstIn before text).isSome = true ↔
      ∃ front piece rest, text = front ++ (piece ++ rest) ∧ piece ++ rest ≠ [] ∧
        p.Takes (lastOf before front) piece rest := by
  induction text generalizing before with
  | nil =>
      refine iff_of_false nofun ?_
      rintro ⟨front, piece, rest, whole, filled, _⟩
      exact filled (List.append_eq_nil_iff.mp whole.symm).2
  | cons x xs ih =>
      have here : (p.firstIn before (x :: xs)).isSome = true ↔
          (p.matchAt? before (x :: xs)).isSome = true ∨ (p.firstIn (some x) xs).isSome = true := by
        rw [firstIn]
        split
        next success => simp [success]
        next failed => simp [failed]
      rw [here, matchAt?_isSome_iff, ih]
      constructor
      · rintro (⟨piece, rest, whole, takes⟩ | ⟨front, piece, rest, rfl, filled, takes⟩)
        · exact ⟨[], piece, rest, whole, whole ▸ List.cons_ne_nil x xs, takes⟩
        · exact ⟨x :: front, piece, rest, rfl, filled, takes⟩
      · rintro ⟨front, piece, rest, whole, filled, takes⟩
        cases front with
        | nil => exact .inl ⟨piece, rest, whole, takes⟩
        | cons y front =>
            obtain ⟨rfl, rfl⟩ := List.cons.inj whole
            exact .inr ⟨front, piece, rest, rfl, filled, takes⟩

theorem find?_isSome_iff {p : Pattern} {text : List Char} :
    (p.find? text).isSome = true ↔
      ∃ front piece rest, text = front ++ (piece ++ rest) ∧ piece ++ rest ≠ [] ∧
        p.Takes (lastOf none front) piece rest :=
  firstIn_isSome_iff

theorem find?_isSome_iff_stands {p : Pattern} {Fits : List Char → Prop}
    (takes : ∀ {before piece rest}, p.Takes before piece rest ↔ Fits piece) (filled : ¬Fits [])
    {text : List Char} :
    (p.find? text).isSome = true ↔ ∃ piece, Fits piece ∧ piece <:+: text := by
  rw [find?_isSome_iff]
  constructor
  · rintro ⟨front, piece, rest, rfl, -, found⟩
    exact ⟨piece, takes.mp found, front, rest, List.append_assoc front piece rest⟩
  · rintro ⟨piece, fits, front, rest, rfl⟩
    have some : piece ≠ [] := by
      rintro rfl
      exact filled fits
    exact ⟨front, piece, rest, List.append_assoc front piece rest,
      List.append_ne_nil_of_left_ne_nil some rest, takes.mpr fits⟩

theorem takes_many {p : Char → Bool} {before : Option Char} {piece rest : List Char} :
    (many p).Takes before piece rest ↔ ∀ x ∈ piece, p x = true :=
  Iff.rfl

theorem takes_either {a b : Pattern} {before : Option Char} {piece rest : List Char} :
    (either a b).Takes before piece rest ↔
      a.Takes before piece rest ∨ b.Takes before piece rest :=
  Iff.rfl

theorem takes_append {a b : Pattern} {before : Option Char} {piece rest : List Char} :
    (a ++ b).Takes before piece rest ↔
      ∃ u v, piece = u ++ v ∧ a.Takes before u (v ++ rest) ∧ b.Takes (lastOf before u) v rest :=
  Iff.rfl

theorem takes_literal {text : String} {before : Option Char} {piece rest : List Char} :
    (literal text).Takes before piece rest ↔ piece = text.toList := by
  rw [literal]
  induction text.toList generalizing before piece with
  | nil => exact Iff.rfl
  | cons c cs ih =>
      constructor
      · rintro ⟨u, v, rfl, ⟨x, same, rfl⟩, follows⟩
        rw [beq_iff_eq.mp same, ih.mp follows, List.singleton_append]
      · rintro rfl
        exact ⟨[c], cs, rfl, ⟨c, beq_self_eq_true c, rfl⟩, ih.mpr rfl⟩

theorem takes_plus {p : Char → Bool} {before : Option Char} {piece rest : List Char} :
    (plus p).Takes before piece rest ↔ piece ≠ [] ∧ ∀ x ∈ piece, p x = true := by
  constructor
  · rintro ⟨u, v, rfl, ⟨x, holds, rfl⟩, all⟩
    exact ⟨List.cons_ne_nil x v, List.forall_mem_cons.mpr ⟨holds, all⟩⟩
  · rintro ⟨filled, all⟩
    obtain ⟨x, xs, rfl⟩ := List.exists_cons_of_ne_nil filled
    obtain ⟨holds, all⟩ := List.forall_mem_cons.mp all
    exact ⟨[x], xs, rfl, ⟨x, holds, rfl⟩, all⟩

end Pattern

end SourceAtlas
