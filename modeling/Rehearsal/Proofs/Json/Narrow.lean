import Rehearsal.Json.Reader
import Rehearsal.Proofs.Source.Narrow

/-!
The numbers of a JSON text.

A literal that does not fit 64 bits is read as a double, so the tree of a text holds no natural
number of more than 64 bits.
-/

namespace Rehearsal

namespace Number

theorem gatherWhole_narrow {held : Gathered} (narrow : held.value < Nat.pow 2 64) (c : Char) :
    (gatherWhole held c).value < Nat.pow 2 64 := by
  unfold gatherWhole
  split
  next room => exact of_decide_eq_true (Bool.and_eq_true_iff.mp room).2
  next => exact narrow

theorem foldl_gatherWhole_narrow {held : Gathered} (narrow : held.value < Nat.pow 2 64)
    (digits : List Char) : (digits.foldl gatherWhole held).value < Nat.pow 2 64 := by
  induction digits generalizing held with
  | nil => exact narrow
  | cons c rest inductionHypothesis => exact inductionHypothesis (gatherWhole_narrow narrow c)

theorem ofLiteral_narrow {literal : Literal} {n : Nat}
    (read : ofLiteral literal = some (.integer n)) : n < Nat.pow 2 64 := by
  have narrow : (literal.whole.foldl gatherWhole ⟨0, 0, false⟩).value < Nat.pow 2 64 :=
    foldl_gatherWhole_narrow (by decide) literal.whole
  unfold ofLiteral at read
  dsimp only at read
  split at read
  next =>
    split at read
    next =>
      cases read
      exact narrow
    next =>
      split at read
      next => cases read
      next =>
        have same := Number.integer.inj (Option.some.inj read)
        have positive : 0 < Nat.pow 2 64 := by decide
        omega
  next =>
    obtain ⟨value, -, same⟩ := Option.map_eq_some_iff.mp read
    cases same

end Number

namespace Json.Reader

open Source Node

theorem string_narrow (fuel : Nat) (chars : List Char) : (string fuel chars).1.Narrow := by
  unfold string
  split
  next => exact .cut
  next =>
    split
    next => exact .ofText _
    next => exact .scalar (by rintro n ⟨⟩)

theorem number_narrow (chars : List Char) : (number chars).1.Narrow := by
  unfold number
  split
  next => exact .cut
  next =>
    split
    next read =>
      refine .scalar ?_
      rintro n ⟨⟩
      exact Number.ofLiteral_narrow read
    next => exact .scalar (by rintro n ⟨⟩)

theorem word_narrow {expected : String} {atom : Atom} {chars : List Char}
    (other : ∀ number, atom ≠ .number number) : (word expected atom chars).1.Narrow := by
  unfold word
  split
  next =>
    cases atom with
    | number number => exact (other number rfl).elim
    | _ => exact .scalar (by rintro n ⟨⟩)
  next => exact .cut

mutual

theorem value_narrow {fuel : Nat} {chars : List Char} {node : Node} {rest : Rest}
    (read : value fuel chars = (node, rest)) : node.Narrow := by
  cases fuel with
  | zero =>
      cases read
      exact .cut
  | succ fuel =>
      obtain rfl := congrArg Prod.fst read
      rw [value]
      split
      next => exact string_narrow _ _
      next =>
        split
        next => exact .list (by rintro _ ⟨⟩)
        next => exact .list (items_narrow rfl)
      next =>
        split
        next => exact .map NarrowEntries.nil
        next => exact .map (entries_narrow rfl)
      next => exact word_narrow (by rintro _ ⟨⟩)
      next => exact word_narrow (by rintro _ ⟨⟩)
      next => exact word_narrow (by rintro _ ⟨⟩)
      next =>
        split
        next => exact number_narrow _
        next => exact .cut
      next => exact .cut
termination_by fuel

theorem items_narrow {fuel : Nat} {chars : List Char} {nodes : List Node} {rest : Rest}
    (read : items fuel chars = (nodes, rest)) : ∀ item ∈ nodes, item.Narrow := by
  cases fuel with
  | zero =>
      cases read
      exact List.forall_mem_singleton.mpr .cut
  | succ fuel =>
      rw [items] at read
      split at read
      next first =>
        cases read
        exact List.forall_mem_singleton.mpr (value_narrow first)
      next first =>
        have narrow := value_narrow first
        split at read
        next =>
          cases read
          exact List.forall_mem_singleton.mpr narrow
        next =>
          cases read
          exact List.forall_mem_cons.mpr ⟨narrow, items_narrow rfl⟩
        next =>
          cases read
          exact List.forall_mem_cons.mpr ⟨narrow, List.forall_mem_singleton.mpr .cut⟩
termination_by fuel

theorem entries_narrow {fuel : Nat} {chars : List Char} {nodes : List (Node × Node)} {rest : Rest}
    (read : entries fuel chars = (nodes, rest)) : NarrowEntries nodes := by
  cases fuel with
  | zero =>
      cases read
      exact .cons .cut .nil
  | succ fuel =>
      rw [entries] at read
      split at read
      next =>
        split at read
        next =>
          cases read
          exact .cons .cut .nil
        next =>
          split at read
          next =>
            split at read
            next first =>
              cases read
              exact .cons (value_narrow first) .nil
            next first =>
              have narrow := value_narrow first
              split at read
              next =>
                cases read
                exact .cons narrow .nil
              next =>
                cases read
                exact .cons narrow (entries_narrow rfl)
              next =>
                cases read
                exact .cons narrow (.cons .cut .nil)
          next =>
            cases read
            exact .cons .cut .nil
      next =>
        cases read
        exact .cons .cut .nil
termination_by fuel

end

theorem read_narrow (text : String) : (read text).1.Narrow := by
  unfold read
  split
  next whole => exact value_narrow whole
  next whole => exact value_narrow whole

end Json.Reader

namespace Json

variable {α : Type} {take : Source.Node → Except Source.Fault α} {text : String} {value : α}

theorem decode_eq_ok (decoded : decode take text = .ok value) :
    take (Reader.read text).1 = .ok value := by
  unfold decode at decoded
  generalize Reader.read text = tree at decoded ⊢
  obtain ⟨node, ended⟩ := tree
  obtain ⟨found, taken, behind⟩ := exists_of_bind decoded
  cases ended with
  | false => cases behind
  | true =>
      cases behind
      exact taken

end Json

end Rehearsal
