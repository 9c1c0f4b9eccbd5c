import Rehearsal.Text.Basic
import Rehearsal.Text.Lines

/-!
Texts printed line by line.

To print the lines of a text, each closed by a line feed, is to print the text itself with its line
ends as line feeds, and with one more at the end if there is none.
-/

namespace Rehearsal.Text

/-- The text with every line end as a line feed. -/
def normalized : List Char → List Char
  | '\r' :: '\n' :: rest => '\n' :: normalized rest
  | c :: rest => c :: normalized rest
  | [] => []

/-- The text with a line feed at its end: the one that is there, or else another one. -/
def closed (text : List Char) : List Char :=
  if text.getLast? = some '\n' then text else text ++ ['\n']

/-- Lines one below the other, each closed by a line feed. -/
def printed (lines : List (List Char)) : List Char :=
  lines.flatMap (· ++ ['\n'])

variable {text : List Char}

theorem normalized_ne_nil (full : text ≠ []) : normalized text ≠ [] := by
  fun_cases normalized text with
  | case1 | case2 => exact List.cons_ne_nil _ _
  | case3 => exact (full rfl).elim

theorem closed_cons (full : text ≠ []) (c : Char) : closed (c :: text) = c :: closed text := by
  unfold closed
  rw [List.getLast?_cons_of_ne_nil full]
  split <;> rfl

theorem splitOn_mark (mark : Char) (rest : List Char) :
    (mark :: rest).splitOn mark = [] :: rest.splitOn mark :=
  List.splitOn_append_cons_self_of_not_mem List.not_mem_nil rest

/-- Any other character belongs to the first piece. -/
theorem splitOn_cons_of_ne {mark c : Char} (other : c ≠ mark) (rest : List Char) :
    ∃ piece pieces, rest.splitOn mark = piece :: pieces ∧
      (c :: rest).splitOn mark = (c :: piece) :: pieces := by
  obtain ⟨piece, pieces, split⟩ := List.exists_cons_of_ne_nil (List.splitOn_ne_nil mark rest)
  refine ⟨piece, pieces, split, ?_⟩
  rw [List.splitOn_cons_eq_if_modifyHead, if_neg (by simpa using other), split,
    List.modifyHead_cons]

/-- If the first piece is empty, the text begins with the mark. -/
theorem exists_of_splitOn_empty {mark : Char} {pieces : List (List Char)} (full : text ≠ [])
    (split : text.splitOn mark = [] :: pieces) :
    ∃ rest, text = mark :: rest ∧ pieces = rest.splitOn mark := by
  cases text with
  | nil => exact (full rfl).elim
  | cons c rest =>
      by_cases same : c = mark
      · rw [same, splitOn_mark] at split
        exact ⟨rest, by rw [same], (List.cons.inj split).2.symm⟩
      · obtain ⟨piece, others, -, put⟩ := splitOn_cons_of_ne same rest
        cases put.symm.trans split

theorem closeLines_cons {pieces : List (List Char)} (more : pieces ≠ []) (line : List Char) :
    closeLines (line :: pieces) = dropReturn line :: closeLines pieces := by
  cases pieces with
  | nil => exact (more rfl).elim
  | cons piece pieces => rfl

theorem dropReturn_cons {line : List Char} (full : line ≠ []) (c : Char) :
    dropReturn (c :: line) = c :: dropReturn line := by
  unfold dropReturn
  rw [List.getLast?_cons_of_ne_nil full, List.dropLast_cons_of_ne_nil full]
  split <;> rfl

/-- A character at the beginning of a line is printed, unless it is a carriage return right before
the line feed. -/
theorem printed_closeLines_cons {c : Char} {piece : List Char} {pieces : List (List Char)}
    (kept : piece = [] → pieces ≠ [] ∧ c ≠ '\r') :
    printed (closeLines ((c :: piece) :: pieces)) =
      c :: printed (closeLines (piece :: pieces)) := by
  cases pieces with
  | nil =>
      have full : piece ≠ [] := fun empty => (kept empty).1 rfl
      cases piece with
      | nil => exact (full rfl).elim
      | cons d piece => rfl
  | cons next pieces =>
      rw [closeLines_cons (List.cons_ne_nil _ _), closeLines_cons (List.cons_ne_nil _ _)]
      cases piece with
      | nil =>
          have same : dropReturn [c] = [c] := by simp [dropReturn, (kept rfl).2]
          rw [same]
          rfl
      | cons d piece =>
          rw [dropReturn_cons (List.cons_ne_nil _ _)]
          rfl

/-- In front of a text whose lines are printed as it is, a line that is empty but for its line end
is printed as a line feed. -/
theorem printed_closeLines_empty {line rest : List Char} (empty : dropReturn line = [])
    (others : rest ≠ [] →
      printed (closeLines (rest.splitOn '\n')) = closed (normalized rest)) :
    printed (closeLines (line :: rest.splitOn '\n')) = closed ('\n' :: normalized rest) := by
  have feed : printed (closeLines (line :: rest.splitOn '\n')) =
      '\n' :: printed (closeLines (rest.splitOn '\n')) := by
    rw [closeLines_cons (List.splitOn_ne_nil _ _), empty]
    rfl
  rw [feed]
  by_cases last : rest = []
  · rw [last]
    rfl
  · rw [closed_cons (normalized_ne_nil last), others last]

/-- The lines of a text are printed as the text is, but for the ends of the lines. -/
theorem printed_lines (full : text ≠ []) :
    printed (closeLines (text.splitOn '\n')) = closed (normalized text) := by
  fun_induction normalized text with
  | case1 rest inductionHypothesis =>
      rw [List.splitOn_cons_eq_if_modifyHead, if_neg (by decide), splitOn_mark,
        List.modifyHead_cons]
      exact printed_closeLines_empty rfl inductionHypothesis
  | case2 c rest lone inductionHypothesis =>
      by_cases mark : c = '\n'
      · rw [mark, splitOn_mark]
        exact printed_closeLines_empty rfl inductionHypothesis
      by_cases empty : rest = []
      · rw [empty]
        simp [List.splitOn_cons_eq_if_modifyHead, mark, closeLines, printed, normalized, closed]
      · obtain ⟨piece, pieces, split, put⟩ := splitOn_cons_of_ne mark rest
        -- Only a line feed leaves nothing behind `c` in its line, and then `c` is no return.
        have kept : piece = [] → pieces ≠ [] ∧ c ≠ '\r' := by
          rintro rfl
          obtain ⟨later, begins, rfl⟩ := exists_of_splitOn_empty empty split
          exact ⟨List.splitOn_ne_nil _ _, fun carriage => lone later carriage begins⟩
        rw [put, printed_closeLines_cons kept, ← split, inductionHypothesis empty,
          closed_cons (normalized_ne_nil empty)]
  | case3 => exact (full rfl).elim

/-- A text without a carriage return in front of a line feed is as it should be. -/
theorem normalized_eq_self (plain : ¬['\r', '\n'] <:+: text) : normalized text = text := by
  fun_induction normalized text with
  | case1 rest => exact (plain ⟨[], rest, rfl⟩).elim
  | case2 c rest lone inductionHypothesis =>
      rw [inductionHypothesis (mt List.infix_cons plain)]
  | case3 => rfl

theorem not_mem_splitOn (mark : Char) (text : List Char) :
    ∀ piece ∈ text.splitOn mark, mark ∉ piece := by
  induction text with
  | nil =>
      intro piece membership
      rw [List.mem_singleton.mp membership]
      exact List.not_mem_nil
  | cons c rest inductionHypothesis =>
      by_cases same : c = mark
      · rw [same, splitOn_mark, List.forall_mem_cons]
        exact ⟨List.not_mem_nil, inductionHypothesis⟩
      · obtain ⟨piece, pieces, split, put⟩ := splitOn_cons_of_ne same rest
        rw [split, List.forall_mem_cons] at inductionHypothesis
        rw [put, List.forall_mem_cons]
        refine ⟨?_, inductionHypothesis.2⟩
        rw [List.mem_cons, not_or]
        exact ⟨Ne.symm same, inductionHypothesis.1⟩

theorem dropReturn_prefix (line : List Char) : dropReturn line <+: line := by
  unfold dropReturn
  split
  · exact List.dropLast_prefix line
  · exact List.prefix_rfl

/-- A line is a piece, or what is in front of its last character. -/
theorem exists_of_mem_closeLines {line : List Char} {pieces : List (List Char)}
    (membership : line ∈ closeLines pieces) : ∃ piece ∈ pieces, line <+: piece := by
  fun_induction closeLines pieces with
  | case1 => cases membership
  | case2 last blank => cases membership
  | case3 last full => exact ⟨line, membership, List.prefix_rfl⟩
  | case4 first rest more inductionHypothesis =>
      rcases List.mem_cons.mp membership with rfl | later
      · exact ⟨first, List.mem_cons_self, dropReturn_prefix first⟩
      · obtain ⟨piece, inside, within⟩ := inductionHypothesis later
        exact ⟨piece, List.mem_cons_of_mem first inside, within⟩

/-- No line has a line feed in it. -/
theorem not_mem_closeLines (text : List Char) :
    ∀ line ∈ closeLines (text.splitOn '\n'), '\n' ∉ line := by
  intro line membership inside
  obtain ⟨piece, split, within⟩ := exists_of_mem_closeLines membership
  exact not_mem_splitOn '\n' text piece split (within.subset inside)

theorem closed_ne_nil (text : List Char) : closed text ≠ [] := by
  unfold closed
  split
  next ends =>
    rintro rfl
    cases ends
  next => exact List.concat_ne_nil _ _

/-- A text in which something stands has a line. -/
theorem closeLines_ne_nil (full : text ≠ []) : closeLines (text.splitOn '\n') ≠ [] := by
  intro none
  have nothing := printed_lines full
  rw [none] at nothing
  exact closed_ne_nil _ nothing.symm

theorem map_toList_lines (text : String) :
    (lines text).map String.toList = closeLines (text.toList.splitOn '\n') := by
  simp [lines, Function.comp_def]

theorem toList_join_lines (lines : List String) :
    (String.join (lines.map (· ++ "\n"))).toList = printed (lines.map String.toList) := by
  rw [String.toList_join, printed, List.flatMap_map, List.flatMap_map]
  congr 1
  funext line
  exact String.toList_append

/-- Where a line is printed, a line feed is printed last. -/
theorem getLast?_join_lines {lines : List String} (printing : lines ≠ []) :
    (String.join (lines.map (· ++ "\n"))).toList.getLast? = some '\n' := by
  rw [← List.dropLast_concat_getLast printing, List.map_append, String.join_append,
    String.toList_append, List.getLast?_append]
  simp

end Rehearsal.Text
