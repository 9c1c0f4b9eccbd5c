import Rehearsal.Evidence

/-!
The parts of paths that are joined.

A path that is seen from a directory has the parts of the directory, and its own behind them.
-/

namespace Rehearsal.Path

/-- The parts of a path behind another one: none of them leads nowhere. -/
def segments (path : String) : List String :=
  ((path.toList.splitOn '/').filter fun part => !isIdle part).map String.ofList

theorem components_append (front back : String) :
    components (front ++ "/" ++ back) = components front ++ segments back := by
  have split : (front ++ "/" ++ back).toList.splitOn '/' =
      front.toList.splitOn '/' ++ back.toList.splitOn '/' := by
    rw [String.toList_append, String.toList_append, List.append_assoc]
    exact List.splitOn_append_cons_self front.toList back.toList
  unfold components segments
  rw [split]
  cases parts : front.toList.splitOn '/' with
  | nil => exact (List.splitOn_ne_nil _ _ parts).elim
  | cons first rest =>
      simp only [List.cons_append, List.filter_append, List.map_append, List.append_assoc]

@[simp]
theorem segments_empty : segments "" = [] := rfl

/-- A path from the root and one from elsewhere have the same parts, except that the latter may
begin with a dot. -/
theorem parent_mem_segments_iff (path : String) :
    ".." ∈ segments path ↔ ".." ∈ components path := by
  unfold segments components
  cases path.toList.splitOn '/' with
  | nil => rfl
  | cons first rest =>
      -- The first part is left out of one row only, and then it is not the one in question.
      have parent : ∀ part : List Char, ".." = String.ofList part ↔ part = ['.', '.'] := by
        intro part
        rw [← String.ofList_toList (s := ".."), String.ofList_inj, eq_comm]
        rfl
      by_cases empty : first = []
      · subst empty
        simp [isIdle]
      · by_cases idle : isIdle first = true
        · have other : first ≠ ['.', '.'] := by
            rintro rfl
            cases idle
          simp [empty, idle, parent, other]
        · simp [empty, idle]

theorem components_closed (front : String) : components (front ++ "/") = components front := by
  have closed := components_append front ""
  rwa [String.append_empty, segments_empty, List.append_nil] at closed

/-- What comes of a path that is seen from another one: at most one slash is put between. -/
inductive Joins (part : String) : String → String → Prop where
  | bare : Joins part "" part
  | closed {front : String} : Joins part (front ++ "/") (front ++ "/" ++ part)
  | apart {base : String} : base ≠ "" → Joins part base (base ++ "/" ++ part)

theorem join_joins {part : String} (relative : isAbsolute part = false) (base : String) :
    Joins part base (join base part) := by
  unfold join
  rw [if_neg (by simp [relative])]
  by_cases empty : base = ""
  · subst empty
    exact .bare
  · by_cases closed : base.toList.getLast? = some '/'
    · obtain ⟨front, split⟩ := List.getLast?_eq_some_iff.mp closed
      have base_eq : base = String.ofList front ++ "/" := by
        rw [← String.toList_inj, split, String.toList_append, String.toList_ofList]
        rfl
      rw [if_pos (by simp [closed]), base_eq]
      exact .closed
    · rw [if_neg (by simp [closed, empty])]
      exact .apart empty

theorem join_of_absolute {part : String} (absolute : isAbsolute part = true) (base : String) :
    join base part = part := if_pos absolute

theorem isAbsolute_append {front : String} (filled : front ≠ "") (back : String) :
    isAbsolute (front ++ back) = isAbsolute front := by
  obtain ⟨first, rest, split⟩ :=
    List.exists_cons_of_ne_nil (fun none => filled (String.toList_eq_nil_iff.mp none))
  rw [isAbsolute, isAbsolute, String.toList_append, split]
  rfl

section

variable {part : String} (relative : isAbsolute part = false)

include relative

theorem isAbsolute_join (base : String) : isAbsolute (join base part) = isAbsolute base := by
  have joins := join_joins relative base
  generalize join base part = path at joins ⊢
  cases joins with
  | bare => exact relative
  | closed => exact isAbsolute_append (by simp) part
  | apart filled =>
      rw [String.append_assoc]
      exact isAbsolute_append filled ("/" ++ part)

theorem components_join (base : String) :
    ∃ behind, components (join base part) = components base ++ behind ∧
      (".." ∈ behind ↔ ".." ∈ components part) := by
  have joins := join_joins relative base
  generalize join base part = path at joins ⊢
  cases joins with
  | bare => exact ⟨components part, rfl, Iff.rfl⟩
  | @closed front =>
      rw [components_append, components_closed]
      exact ⟨segments part, rfl, parent_mem_segments_iff part⟩
  | apart =>
      rw [components_append]
      exact ⟨segments part, rfl, parent_mem_segments_iff part⟩

end

theorem isAbsolute_of_not_mem {name : String} (single : '/' ∉ name.toList) :
    isAbsolute name = false := by
  unfold isAbsolute
  cases letters : name.toList with
  | nil => rfl
  | cons first rest =>
      rw [letters, List.mem_cons, not_or] at single
      simpa using Ne.symm single.1

/-- The name of a single file: it stands between slashes, and it leads somewhere. -/
structure Plain (name : String) : Prop where
  single : '/' ∉ name.toList
  stays : isIdle name.toList = false
  descends : name ≠ ".."

namespace Plain

variable {name : String} (plain : Plain name)

include plain

theorem relative : isAbsolute name = false :=
  isAbsolute_of_not_mem plain.single

theorem segments : segments name = [name] := by
  simp [Path.segments, List.splitOn_eq_singleton plain.single, plain.stays]

theorem components : components name = [name] := by
  have filled : name.toList ≠ [] := by
    intro empty
    have stays := plain.stays
    rw [empty] at stays
    cases stays
  simp [Path.components, List.splitOn_eq_singleton plain.single, filled]

theorem components_join (base : String) :
    Path.components (join base name) = Path.components base ++ [name] := by
  have joins := join_joins plain.relative base
  generalize join base name = path at joins ⊢
  cases joins with
  | bare => exact plain.components
  | closed => rw [components_append, components_closed, plain.segments]
  | apart => rw [components_append, plain.segments]

end Plain

/-- A path leads from a directory to something below it, and never up again. -/
def Inside (directory path : String) : Prop :=
  isAbsolute path = isAbsolute directory ∧
    ∃ behind, behind ≠ [] ∧ components path = components directory ++ behind ∧ ".." ∉ behind

/-- A file in a directory that is named from elsewhere lies below there, unless the name of the
directory leads up. -/
theorem inside_join_iff {name file : String} (relative : isAbsolute name = false)
    (plain : Plain file) (directory : String) :
    Inside directory (join (join directory name) file) ↔ ".." ∉ components name := by
  obtain ⟨between, joined, parent⟩ := components_join relative directory
  have parts : components (join (join directory name) file) =
      components directory ++ (between ++ [file]) := by
    rw [plain.components_join, joined, List.append_assoc]
  have ascends : ".." ∈ between ++ [file] ↔ ".." ∈ components name := by
    rw [List.mem_append, parent, List.mem_singleton, or_iff_left (Ne.symm plain.descends)]
  constructor
  · rintro ⟨-, behind, -, split, below⟩
    rwa [← List.append_cancel_left (parts.symm.trans split), ascends] at below
  · intro below
    refine ⟨?_, between ++ [file], by simp, parts, (not_congr ascends).mpr below⟩
    rw [isAbsolute_join plain.relative, isAbsolute_join relative]

end Rehearsal.Path

namespace Rehearsal.Evidence

theorem toList_fileName (index : Nat) (message : String) :
    (fileName index message).toList =
      Nat.toDigits 10 index ++ '-' :: ((sanitize message).toList ++ ".png".toList) := by
  simp [fileName, Nat.repr, toString]

theorem not_mem_toDigits {c : Char} (other : c.isDigit = false) (n : Nat) :
    c ∉ Nat.toDigits 10 n := by
  intro membership
  have digit := Nat.isDigit_of_mem_toDigits (by decide) (by decide) membership
  rw [other] at digit
  cases digit

/-- What is taken out of a message does not come back with the rest of the name. -/
theorem isStripped_of_mem_fileName {c : Char} {index : Nat} {message : String}
    (membership : c ∈ (fileName index message).toList) : isStripped c = false := by
  rw [toList_fileName, List.mem_append, List.mem_cons, List.mem_append] at membership
  rcases membership with digit | rfl | kept | ending
  · -- The digits do not stand among the characters that are stripped.
    cases stripped : isStripped c with
    | false => rfl
    | true =>
        simp only [isStripped, Bool.or_eq_true, beq_iff_eq, or_assoc] at stripped
        rcases stripped with rfl | rfl | rfl | rfl | rfl <;>
          exact (not_mem_toDigits rfl index digit).elim
  · rfl
  · rw [sanitize, String.toList_ofList, List.mem_filter, Bool.not_eq_true'] at kept
    exact kept.2
  · have plain : (".png".toList.all fun c => !isStripped c) = true := by decide
    simpa using List.all_eq_true.mp plain c ending

theorem fileName_plain (index : Nat) (message : String) : Path.Plain (fileName index message) := by
  have hyphen : '-' ∈ (fileName index message).toList := by simp [toList_fileName]
  refine ⟨?_, ?_, ?_⟩
  · intro slash
    cases isStripped_of_mem_fileName slash
  · cases idle : Path.isIdle (fileName index message).toList with
    | false => rfl
    | true =>
        simp only [Path.isIdle, Bool.or_eq_true, beq_iff_eq] at idle
        rcases idle with empty | dot
        · rw [empty] at hyphen
          cases hyphen
        · rw [dot] at hyphen
          exact absurd hyphen (by decide)
  · intro parent
    rw [parent] at hyphen
    exact absurd hyphen (by decide)

end Rehearsal.Evidence
