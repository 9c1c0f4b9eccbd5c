import Rehearsal.Proofs.Json.Literals

/-!
JSON values that are written and read again.

The compact text of a value whose numbers are natural ones of at most 64 bits is read as the tree of
the value, and nothing is left of it.
-/

namespace Rehearsal

open Source

namespace Json

mutual

/-- All numbers in the value are natural ones of at most 64 bits. -/
def plain : Json → Bool
  | .number (.integer (.ofNat n)) => decide (n < Nat.pow 2 64)
  | .number _ => false
  | .list items => plainItems items
  | .object members => plainMembers members
  | .null | .bool _ | .text _ => true

def plainItems : List Json → Bool
  | [] => true
  | item :: rest => plain item && plainItems rest

def plainMembers : List (String × Json) → Bool
  | [] => true
  | (_, value) :: rest => plain value && plainMembers rest

end

/-- The text of a value. -/
def chars (value : Json) : List Char :=
  value.compact.toList

/-- The text of the items of a list. -/
def itemChars (items : List Json) : List Char :=
  (",".intercalate (compactItems items)).toList

/-- The text of the members of an object. -/
def memberChars (members : List (String × Json)) : List Char :=
  (",".intercalate (compactMembers members)).toList

theorem toList_quoted (content : String) :
    (quoted content).toList = '\x22' :: (content.toList.flatMap escaped ++ ['\x22']) :=
  String.toList_ofList

theorem chars_list (items : List Json) :
    chars (.list items) = '[' :: (itemChars items ++ [']']) := by
  simp [chars, compact, itemChars]

theorem chars_object (members : List (String × Json)) :
    chars (.object members) = '\x7b' :: (memberChars members ++ ['\x7d']) := by
  simp [chars, compact, memberChars]

theorem itemChars_singleton (item : Json) : itemChars [item] = item.chars := by
  simp [itemChars, compactItems, chars]

theorem itemChars_cons (item next : Json) (rest : List Json) :
    itemChars (item :: next :: rest) = item.chars ++ ',' :: itemChars (next :: rest) := by
  simp [itemChars, compactItems, chars]

theorem memberChars_singleton (name : String) (value : Json) :
    memberChars [(name, value)] =
      '\x22' :: (name.toList.flatMap escaped ++ '\x22' :: ':' :: value.chars) := by
  simp [memberChars, compactMembers, chars, toList_quoted]

theorem memberChars_cons (name : String) (value : Json) (next : String × Json)
    (rest : List (String × Json)) :
    memberChars ((name, value) :: next :: rest) =
      memberChars [(name, value)] ++ ',' :: memberChars (next :: rest) := by
  simp [memberChars, compactMembers, toList_quoted]

theorem chars_number (n : Nat) : chars (.number (.integer n)) = Nat.toDigits 10 n :=
  Nat.toList_repr

theorem Reader.isSpace_of_isDigit {c : Char} (digit : c.isDigit = true) : isSpace c = false := by
  simp only [isSpace, Bool.or_eq_false_iff, beq_eq_false_iff_ne]
  refine ⟨⟨⟨?_, ?_⟩, ?_⟩, ?_⟩ <;> (rintro rfl; cases digit)

theorem escaped_ne_nil (c : Char) : escaped c ≠ [] := by
  unfold escaped
  split
  · simp
  split
  · simp
  split
  · repeat' split
    all_goals simp
  · simp

theorem length_le_length_escaped (content : List Char) :
    content.length ≤ (content.flatMap escaped).length := by
  induction content with
  | nil => exact Nat.le_refl 0
  | cons c rest inductionHypothesis =>
      have one := List.length_pos_of_ne_nil (escaped_ne_nil c)
      rw [List.flatMap_cons, List.length_append, List.length_cons]
      omega

theorem length_quoted (content : String) :
    content.length + 2 ≤ (quoted content).toList.length := by
  have inside := length_le_length_escaped content.toList
  rw [String.length_toList] at inside
  rw [toList_quoted, List.length_cons, List.length_append, List.length_singleton]
  omega

/-- A character with which a value may begin. -/
structure Opens (c : Char) : Prop where
  solid : Reader.isSpace c = false
  inside : c ≠ ']'

theorem exists_chars {value : Json} (known : value.plain = true) :
    ∃ c rest, value.chars = c :: rest ∧ Opens c := by
  cases value with
  | null => exact ⟨_, _, rfl, ⟨rfl, by decide⟩⟩
  | bool value => cases value <;> exact ⟨_, _, rfl, ⟨rfl, by decide⟩⟩
  | number value =>
      match value, known with
      | .integer (.ofNat n), _ =>
          obtain ⟨c, rest, digits, digit⟩ := exists_toDigits n
          refine ⟨c, rest, (chars_number n).trans digits, Reader.isSpace_of_isDigit digit, ?_⟩
          rintro rfl
          cases digit
  | text value => exact ⟨_, _, toList_quoted value, ⟨rfl, by decide⟩⟩
  | list items => exact ⟨_, _, chars_list items, ⟨rfl, by decide⟩⟩
  | object members => exact ⟨_, _, chars_object members, ⟨rfl, by decide⟩⟩

theorem exists_itemChars {item : Json} {others : List Json}
    (known : plainItems (item :: others) = true) :
    ∃ c rest, itemChars (item :: others) = c :: rest ∧ Opens c := by
  obtain ⟨c, rest, begins, opens⟩ := exists_chars (Bool.and_eq_true_iff.mp known).1
  cases others with
  | nil => exact ⟨c, rest, by rw [itemChars_singleton, begins], opens⟩
  | cons next others => exact ⟨c, _, by rw [itemChars_cons, begins]; rfl, opens⟩

theorem exists_memberChars (name : String) (value : Json) (others : List (String × Json)) :
    ∃ rest, memberChars ((name, value) :: others) = '\x22' :: rest := by
  cases others with
  | nil => exact ⟨_, memberChars_singleton name value⟩
  | cons next others => exact ⟨_, by rw [memberChars_cons, memberChars_singleton]; rfl⟩

theorem length_memberChars (name : String) (value : Json) :
    name.length + value.chars.length + 3 ≤ (memberChars [(name, value)]).length := by
  have inside := length_le_length_escaped name.toList
  rw [String.length_toList] at inside
  rw [memberChars_singleton]
  simp only [List.length_cons, List.length_append]
  omega

namespace Reader

theorem skipSpace_of_solid {c : Char} (solid : isSpace c = false) (rest : List Char) :
    skipSpace (c :: rest) = c :: rest :=
  List.dropWhile_cons_of_neg (by simp [solid])

theorem ends_nil : Ends [] := by
  rintro c ⟨⟩

theorem ends_cons {c : Char} (closes : c = ',' ∨ c = ']' ∨ c = '\x7d') (rest : List Char) :
    Ends (c :: rest) := by
  rintro _ ⟨⟩
  exact closes

theorem value_digit {c : Char} (digit : c.isDigit = true) (fuel : Nat) (rest : List Char) :
    value (fuel + 1) (c :: rest) = number (c :: rest) := by
  rw [value, skipSpace_of_solid (isSpace_of_isDigit digit)]
  -- Every branch but the last two is for a certain character that is no digit.
  split
  case h_7 same =>
    cases same
    rw [if_pos (by simp [digit])]
  case h_8 same => cases same
  all_goals
    next same =>
      cases same
      cases digit

theorem value_toDigits {n : Nat} (narrow : n < Nat.pow 2 64) (fuel : Nat) {rest : List Char}
    (ends : Ends rest) :
    value (fuel + 1) (Nat.toDigits 10 n ++ rest) =
      (Node.ofAtom (.number (.integer n)), some rest) := by
  have read := number_toDigits narrow ends
  obtain ⟨c, others, digits, digit⟩ := exists_toDigits n
  rw [digits] at read ⊢
  exact (value_digit digit fuel _).trans read

theorem value_quoted (content : String) (rest : List Char) {fuel : Nat}
    (enough : content.length < fuel) :
    value (fuel + 1) ((quoted content).toList ++ rest) =
      (Node.ofAtom (.text content), some rest) := by
  have read := string_quoted content rest enough
  rw [toList_quoted, List.cons_append, List.append_assoc, value, skipSpace_of_solid rfl]
  exact read

theorem value_list {c : Char} (opens : Opens c) {fuel : Nat} {rest : List Char}
    {nodes : List Node} {behind : Rest} (read : items fuel (c :: rest) = (nodes, behind)) :
    value (fuel + 1) ('[' :: c :: rest) = (.list nodes, behind) := by
  rw [value, skipSpace_of_solid rfl]
  -- The second branch is that of the opening bracket.
  split
  case h_2 same =>
    cases same
    rw [skipSpace_of_solid opens.solid]
    split
    next same =>
      cases same
      exact (opens.inside rfl).elim
    next => rw [read]
  case h_7 _ other _ _ _ _ same =>
    cases same
    exact (other rfl).elim
  all_goals
    next same => cases same

theorem value_object {fuel : Nat} {rest : List Char} {nodes : List (Node × Node)} {behind : Rest}
    (read : entries fuel ('\x22' :: rest) = (nodes, behind)) :
    value (fuel + 1) ('\x7b' :: '\x22' :: rest) = (.map nodes, behind) := by
  have inside : value (fuel + 1) ('\x7b' :: '\x22' :: rest) =
      (.map (entries fuel ('\x22' :: rest)).1, (entries fuel ('\x22' :: rest)).2) := rfl
  rw [inside, read]

section

variable {fuel : Nat} {chars rest behind : List Char} {key node : Node}

theorem items_last (read : value fuel chars = (node, some (']' :: rest))) :
    items (fuel + 1) chars = ([node], some rest) := by
  rw [items, read]
  rfl

theorem items_more {more : List Node} {rest' : Rest}
    (read : value fuel chars = (node, some (',' :: rest)))
    (others : items fuel rest = (more, rest')) :
    items (fuel + 1) chars = (node :: more, rest') := by
  rw [items, read]
  show (node :: (items fuel rest).1, (items fuel rest).2) = _
  rw [others]

/-- A member is read behind its name and a colon, and what follows tells whether it is the last. -/
theorem entries_named (named : string fuel chars = (key, some (':' :: rest)))
    (read : value fuel rest = (node, some behind)) :
    (∀ after, skipSpace behind = '\x7d' :: after →
      entries (fuel + 1) ('\x22' :: chars) = ([(key, node)], some after)) ∧
    ∀ after, skipSpace behind = ',' :: after →
      entries (fuel + 1) ('\x22' :: chars) =
        ((key, node) :: (entries fuel after).1, (entries fuel after).2) := by
  rw [entries, skipSpace_of_solid rfl]
  split
  next same =>
    cases same
    rw [named]
    dsimp only
    rw [skipSpace_of_solid rfl]
    split
    next same =>
      cases same
      rw [read]
      constructor
      · intro after ended
        dsimp only
        rw [ended]
        rfl
      · intro after separated
        dsimp only
        rw [separated]
        rfl
    next other => exact (other rest rfl).elim
  next other => exact (other chars rfl).elim

end

-- Each call of the reader spends one of its fuel and at least one character of the text, so fuel
-- beyond the length of the text is enough.
mutual

theorem value_chars (json : Json) (known : json.plain = true) {rest : List Char} (ends : Ends rest)
    {fuel : Nat} (enough : json.chars.length < fuel) :
    value fuel (json.chars ++ rest) = (Node.ofJson json, some rest) := by
  obtain ⟨fuel, rfl⟩ := Nat.exists_eq_add_one_of_ne_zero (Nat.ne_zero_of_lt enough)
  cases json with
  | null => rfl
  | bool value => cases value <;> rfl
  | number value =>
      match value, known with
      | .integer (.ofNat n), narrow =>
          have read := value_toDigits (of_decide_eq_true narrow) fuel ends
          rwa [← chars_number] at read
  | text content =>
      have long := length_quoted content
      have within : (quoted content).toList.length < fuel + 1 := enough
      exact value_quoted content rest (by omega)
  | list items =>
      rw [chars_list, List.length_cons, List.length_append, List.length_singleton] at enough
      rw [chars_list, List.cons_append, List.append_assoc, List.singleton_append]
      cases items with
      | nil => rfl
      | cons item others =>
          have read : items fuel _ = _ := items_chars item others known rest (by omega)
          obtain ⟨c, behind, begins, opens⟩ := exists_itemChars known
          rw [begins] at read ⊢
          exact value_list opens read
  | object members =>
      rw [chars_object, List.length_cons, List.length_append, List.length_singleton] at enough
      rw [chars_object, List.cons_append, List.append_assoc, List.singleton_append]
      cases members with
      | nil => rfl
      | cons member others =>
          obtain ⟨name, value⟩ := member
          have read : entries fuel _ = _ := entries_chars name value others known rest (by omega)
          obtain ⟨behind, begins⟩ := exists_memberChars name value others
          rw [begins] at read ⊢
          exact value_object read
termination_by fuel

theorem items_chars (item : Json) (others : List Json)
    (known : plainItems (item :: others) = true) (rest : List Char) {fuel : Nat}
    (enough : (itemChars (item :: others)).length + 1 < fuel) :
    items fuel (itemChars (item :: others) ++ ']' :: rest) =
      (Node.ofItems (item :: others), some rest) := by
  obtain ⟨fuel, rfl⟩ := Nat.exists_eq_add_one_of_ne_zero (Nat.ne_zero_of_lt enough)
  obtain ⟨first, further⟩ := Bool.and_eq_true_iff.mp known
  cases others with
  | nil =>
      rw [itemChars_singleton] at enough ⊢
      exact items_last (value_chars item first (ends_cons (by decide) rest) (by omega))
  | cons next others =>
      rw [itemChars_cons, List.length_append, List.length_cons] at enough
      rw [itemChars_cons, List.append_assoc, List.cons_append]
      exact items_more (value_chars item first (ends_cons (by decide) _) (by omega))
        (items_chars next others further rest (by omega))
termination_by fuel

theorem entries_chars (name : String) (value : Json) (others : List (String × Json))
    (known : plainMembers ((name, value) :: others) = true) (rest : List Char) {fuel : Nat}
    (enough : (memberChars ((name, value) :: others)).length + 1 < fuel) :
    entries fuel (memberChars ((name, value) :: others) ++ '\x7d' :: rest) =
      (Node.ofMembers ((name, value) :: others), some rest) := by
  obtain ⟨fuel, rfl⟩ := Nat.exists_eq_add_one_of_ne_zero (Nat.ne_zero_of_lt enough)
  obtain ⟨first, further⟩ := Bool.and_eq_true_iff.mp known
  have long := length_memberChars name value
  cases others with
  | nil =>
      have read : Reader.value fuel (value.chars ++ '\x7d' :: rest) = _ :=
        value_chars value first (ends_cons (by decide) rest) (by omega)
      have named : string fuel _ = _ :=
        string_quoted name (':' :: (value.chars ++ '\x7d' :: rest)) (by omega)
      rw [memberChars_singleton, List.cons_append, List.append_assoc, List.cons_append,
        List.cons_append]
      exact (entries_named named read).1 rest (skipSpace_of_solid rfl rest)
  | cons next others =>
      obtain ⟨next, other⟩ := next
      rw [memberChars_cons, List.length_append, List.length_cons] at enough
      have more : entries fuel _ = _ := entries_chars next other others further rest (by omega)
      have read : Reader.value fuel
          (value.chars ++ ',' :: (memberChars ((next, other) :: others) ++ '\x7d' :: rest)) = _ :=
        value_chars value first (ends_cons (by decide) _) (by omega)
      have named : string fuel _ = _ := string_quoted name
        (':' :: (value.chars ++ ',' :: (memberChars ((next, other) :: others) ++ '\x7d' :: rest)))
        (by omega)
      rw [memberChars_cons, memberChars_singleton, List.append_assoc, List.cons_append,
        List.cons_append, List.append_assoc, List.cons_append, List.cons_append]
      rw [(entries_named named read).2 _ (skipSpace_of_solid rfl _), more]
      rfl
termination_by fuel

end

end Reader

/-- The text of a value is read as the tree of the value. -/
theorem read_compact {value : Json} (known : value.plain = true) :
    Reader.read value.compact = (Node.ofJson value, true) := by
  have enough : value.chars.length < 2 * value.compact.length + 2 := by
    rw [chars, String.length_toList]
    omega
  have read := Reader.value_chars value known Reader.ends_nil enough
  rw [List.append_nil] at read
  rw [Reader.read, ← chars, read]
  rfl

end Json

end Rehearsal
