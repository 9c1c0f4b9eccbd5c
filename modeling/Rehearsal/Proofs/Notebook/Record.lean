import Rehearsal.Notebook

/-!
A notebook as what has been recorded in it.

Under a name stands what was recorded there last; what is recorded under other names does not touch
it.
-/

namespace Rehearsal.Notebook

/-- Records notes one behind the other. -/
def recordAll (notes : List (String × Option String)) (notebook : Notebook) : Notebook :=
  notes.foldl (fun notebook note => notebook.record note.1 note.2) notebook

@[simp]
theorem recordAll_cons (note : String × Option String) (notes : List (String × Option String))
    (notebook : Notebook) :
    notebook.recordAll (note :: notes) = (notebook.record note.1 note.2).recordAll notes := rfl

@[simp]
theorem recordAll_append (front back : List (String × Option String)) (notebook : Notebook) :
    notebook.recordAll (front ++ back) = (notebook.recordAll front).recordAll back :=
  List.foldl_append

theorem lookup_place_self (name : String) (value : Option String)
    (entries : List (String × Option String)) :
    (place name value entries).lookup name = some value := by
  induction entries with
  | nil => simp [place]
  | cons entry rest inductionHypothesis =>
      obtain ⟨held, old⟩ := entry
      unfold place
      split
      · simp
      next different =>
        split
        · simp
        · have passed : (name == held) = false := beq_eq_false_iff_ne.mpr (Ne.symm different)
          rw [List.lookup_cons, passed]
          exact inductionHypothesis

theorem lookup_place_of_ne {name other : String} (different : other ≠ name)
    (value : Option String) (entries : List (String × Option String)) :
    (place name value entries).lookup other = entries.lookup other := by
  have passed : (other == name) = false := beq_eq_false_iff_ne.mpr different
  induction entries with
  | nil => simp [place, List.lookup_cons, passed]
  | cons entry rest inductionHypothesis =>
      obtain ⟨held, old⟩ := entry
      unfold place
      split
      next same => simp [List.lookup_cons, same, passed]
      next =>
        split
        · simp [List.lookup_cons, passed]
        · simp [List.lookup_cons, inductionHypothesis]

theorem entry?_record (name other : String) (value : Option String) (notebook : Notebook) :
    Notebook.entry? other (notebook.record name value) =
      if other = name then some value else notebook.entry? other := by
  split
  next same =>
    subst same
    exact lookup_place_self other value notebook.entries
  next different => exact lookup_place_of_ne different value notebook.entries

/-- The last note under a name is the one that is found. -/
theorem entry?_recordAll (name : String) (notes : List (String × Option String))
    (notebook : Notebook) :
    Notebook.entry? name (notebook.recordAll notes) =
      (notes.reverse.lookup name).or (notebook.entry? name) := by
  induction notes generalizing notebook with
  | nil => rfl
  | cons note rest inductionHypothesis =>
      obtain ⟨held, value⟩ := note
      rw [recordAll_cons, inductionHypothesis, entry?_record, List.reverse_cons,
        List.lookup_append, Option.or_assoc, List.lookup_cons, List.lookup_nil]
      split
      next same =>
        rw [same, beq_self_eq_true]
        rfl
      next different =>
        rw [beq_eq_false_iff_ne.mpr different]
        rfl

end Rehearsal.Notebook
