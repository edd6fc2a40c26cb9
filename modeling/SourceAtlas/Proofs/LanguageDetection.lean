import SourceAtlas.Detection

/-!
Which languages are detected: it depends on what the visible subdirectories of a directory are, in
whatever order they are listed, and on which manifests are there.
-/
namespace SourceAtlas

open Text

theorem any_eq_of_mem_iff {α : Type} {p q : α → Bool} {first second : List α}
    (members : ∀ a, a ∈ second ↔ a ∈ first) (same : ∀ a ∈ first, q a = p a) :
    second.any q = first.any p := by
  rw [Bool.eq_iff_iff, List.any_eq_true, List.any_eq_true]
  constructor
  · rintro ⟨a, member, holds⟩
    have inside := (members a).mp member
    exact ⟨a, inside, same a inside ▸ holds⟩
  · rintro ⟨a, member, holds⟩
    exact ⟨a, (members a).mpr member, (same a member).trans holds⟩

theorem filterM_of_ok {α ε : Type} {p : α → Except ε Bool} {q : α → Bool} {list : List α}
    (told : ∀ a ∈ list, p a = .ok (q a)) : list.filterM p = .ok (list.filter q) := by
  have onward (kept : List α) : list.filterAuxM p kept = .ok ((list.filter q).reverse ++ kept) := by
    induction list generalizing kept with
    | nil => rfl
    | cons a rest ih =>
        rw [List.forall_mem_cons] at told
        simp only [List.filterAuxM, told.1, bind, Except.bind, ih told.2]
        cases asked : q a <;> simp [asked]
  rw [List.filterM, onward]
  simp [bind, Except.bind, pure, Except.pure]

theorem filterM_of_error {α ε : Type} {p : α → Except ε Bool} {list : List α} {a : α}
    (member : a ∈ list) {e : ε} (untold : p a = .error e) :
    ∃ fault, list.filterM p = .error fault := by
  have onward (kept : List α) : ∃ fault, list.filterAuxM p kept = .error fault := by
    induction list generalizing kept with
    | nil => cases member
    | cons first rest ih =>
        cases asked : p first with
        | error fault => exact ⟨fault, by simp only [List.filterAuxM, asked, bind, Except.bind]⟩
        | ok wanted =>
            have later : a ∈ rest := by
              rcases List.mem_cons.mp member with rfl | later
              · cases untold.symm.trans asked
              · exact later
            obtain ⟨fault, stopped⟩ := ih later (if wanted then first :: kept else kept)
            refine ⟨fault, ?_⟩
            simp only [List.filterAuxM, asked, bind, Except.bind]
            cases wanted <;> exact stopped
  obtain ⟨fault, stopped⟩ := onward []
  exact ⟨fault, by rw [List.filterM, stopped]; rfl⟩

theorem Detection.mem_subdirectories_iff {site : Site} {root path : Path} :
    path ∈ subdirectories site root ↔ ∃ entries, site.list root = .ok entries ∧
      (∀ entry ∈ entries, startsWith entry.1 "." = false →
        ∃ told, isDirectory site root entry = .ok told) ∧
      ∃ entry ∈ entries, startsWith entry.1 "." = false ∧
        isDirectory site root entry = .ok true ∧ root.child entry.1 = path := by
  unfold subdirectories
  cases listed : site.list root with
  | error error => simp
  | ok entries =>
      dsimp only
      have shown (entry : String × Item) :
          entry ∈ entries.filter (fun entry => !startsWith entry.1 ".") ↔
            entry ∈ entries ∧ startsWith entry.1 "." = false := by
        rw [List.mem_filter, Bool.not_eq_true']
      by_cases told : ∀ entry ∈ entries.filter fun entry => !startsWith entry.1 ".",
          ∃ told, isDirectory site root entry = .ok told
      · have each : ∀ entry ∈ entries.filter fun entry => !startsWith entry.1 ".",
            isDirectory site root entry =
              .ok ((isDirectory site root entry).toOption.getD false) := by
          intro entry member
          obtain ⟨is, asked⟩ := told entry member
          rw [asked]
          rfl
        rw [filterM_of_ok each]
        simp only [List.mem_map, List.mem_filter, Bool.not_eq_true', Except.ok.injEq,
          exists_eq_left']
        constructor
        · rintro ⟨entry, ⟨⟨member, visible⟩, is⟩, rfl⟩
          refine ⟨fun other inside seen => told other ((shown other).mpr ⟨inside, seen⟩), entry,
            member, visible, ?_, rfl⟩
          rw [each entry ((shown entry).mpr ⟨member, visible⟩), is]
        · rintro ⟨_, entry, member, visible, is, rfl⟩
          refine ⟨entry, ⟨⟨member, visible⟩, ?_⟩, rfl⟩
          rw [is]
          rfl
      · -- an entry that cannot be told stops the filter, and then none is a subdirectory
        simp only [Classical.not_forall, not_exists] at told
        obtain ⟨entry, member, untold⟩ := told
        refine iff_of_false ?_ ?_
        · cases asked : isDirectory site root entry with
          | ok is => exact absurd asked (untold is)
          | error fault =>
              obtain ⟨stop, stopped⟩ := filterM_of_error member asked
              rw [stopped]
              exact List.not_mem_nil
        · rintro ⟨_, same, each, _⟩
          cases same
          obtain ⟨inside, visible⟩ := (shown entry).mp member
          obtain ⟨is, asked⟩ := each entry inside visible
          exact untold is asked

theorem Registry.detect_congr {registry : Registry} {a b : Site} {root : Path}
    (directories : ∀ path, path ∈ Detection.subdirectories b root ↔
      path ∈ Detection.subdirectories a root)
    (manifests : ∀ adapter ∈ registry.adapters, ∀ file ∈ adapter.detectionFiles,
      ∀ path ∈ root :: Detection.subdirectories a root,
        b.exists? (path.child file) = a.exists? (path.child file)) :
    registry.detect b root = registry.detect a root := by
  unfold Registry.detect
  refine congrArg byName (List.filter_congr fun adapter known => ?_)
  unfold Detection.applies
  refine any_eq_of_mem_iff (fun _ => Iff.rfl) fun file listed => ?_
  refine any_eq_of_mem_iff (fun path => ?_) fun path member => ?_
  · rw [List.mem_cons, List.mem_cons, directories]
  · rw [Detection.exists?, Detection.exists?, manifests adapter known file listed path member]

end SourceAtlas
