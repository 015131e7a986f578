import Mathlib.Tactic
import Mathlib.Data.List.Basic

/-!
# Sequences rewritten in place

A writer that truncates a sequence and then copies a target into it one item at
a time leaves, at any moment, a partial copy of the target: no longer than it,
and blank wherever no item has been written since the truncation. Blanks appear
because a writer keeps its own offset, so one that started before the truncation
writes beyond the new end. A second writer of the same target never spoils what
the first has copied.
-/

namespace InPlace

variable {α : Type} {blank item : α} {content target : List α} {offset count : ℕ}

/-- Write one item at an offset, filling the gap before it with blanks. -/
def writeAt (blank : α) (content : List α) (offset : ℕ) (item : α) : List α :=
  if offset < content.length then content.set offset item
  else content ++ List.replicate (offset - content.length) blank ++ [item]

theorem getElem?_writeAt (index : ℕ) :
    (writeAt blank content offset item)[index]? =
      if index = offset then some item
      else if index < content.length then content[index]?
      else if index < offset then some blank else none := by
  unfold writeAt
  split
  next inside =>
    rw [List.getElem?_set]
    by_cases same : offset = index
    · subst same
      simp [inside]
    · rw [if_neg same, if_neg (Ne.symm same)]
      by_cases within : index < content.length
      · rw [if_pos within]
      · rw [if_neg within, if_neg (by omega)]
        exact List.getElem?_eq_none (by omega)
  next outside =>
    by_cases within : index < content.length
    · rw [if_neg (by omega), if_pos within, List.append_assoc, List.getElem?_append_left within]
    · rw [List.append_assoc, List.getElem?_append_right (by omega)]
      by_cases gap : index < offset
      · rw [if_neg (by omega), if_neg within, if_pos gap,
          List.getElem?_append_left (by simp; omega), List.getElem?_replicate,
          if_pos (by omega)]
      · rw [List.getElem?_append_right (by simp; omega), List.length_replicate]
        by_cases same : index = offset
        · subst same
          rw [if_pos rfl, Nat.sub_self]
          rfl
        · rw [if_neg same, if_neg within, if_neg gap]
          exact List.getElem?_eq_none (by simp; omega)

/-- Every item of `content` is the item of `target` in the same place, or a blank. -/
def PartialCopy (blank : α) (target content : List α) : Prop :=
  ∀ (index : ℕ) (item : α), content[index]? = some item →
    ∃ wanted, target[index]? = some wanted ∧ (item = wanted ∨ item = blank)

/-- The first `count` items of `content` are those of `target`. -/
def CopiedUpTo (target content : List α) (count : ℕ) : Prop :=
  ∀ index : ℕ, index < count → content[index]? = target[index]?

theorem PartialCopy.nil : PartialCopy blank target [] := by
  intro index item found
  simp at found

theorem PartialCopy.refl : PartialCopy blank target target := by
  intro index item found
  exact ⟨item, found, .inl rfl⟩

theorem CopiedUpTo.zero : CopiedUpTo target content 0 := by
  intro index impossible
  exact absurd impossible (Nat.not_lt_zero _)

theorem CopiedUpTo.refl : CopiedUpTo target target count := by
  intro index before
  rfl

/-- Writing an item of the target in its place keeps a partial copy partial. -/
theorem PartialCopy.writeAt (copy : PartialCopy blank target content)
    (wanted : target[offset]? = some item) :
    PartialCopy blank target (writeAt blank content offset item) := by
  intro index found read
  rw [getElem?_writeAt] at read
  split at read
  next same =>
    subst same
    exact ⟨item, wanted, .inl (by simpa using read.symm)⟩
  next =>
    split at read
    next => exact copy index found read
    next =>
      split at read
      next gap =>
        have offset_lt : offset < target.length := (List.getElem?_eq_some_iff.mp wanted).1
        exact ⟨target[index], List.getElem?_eq_getElem (by omega), .inr (by simpa using read.symm)⟩
      next => cases read

theorem CopiedUpTo.writeAt (copied : CopiedUpTo target content count)
    (within : count ≤ target.length) (wanted : target[offset]? = some item) :
    CopiedUpTo target (writeAt blank content offset item) count := by
  intro index index_lt
  rw [getElem?_writeAt]
  split
  next same => rw [same, wanted]
  next =>
    have present : index < content.length := by
      have same := copied index index_lt
      rw [List.getElem?_eq_getElem (show index < target.length by omega)] at same
      exact (List.getElem?_eq_some_iff.mp same).1
    rw [if_pos present]
    exact copied index index_lt

/-- Writing the next item of the target copies one more. -/
theorem CopiedUpTo.next (copied : CopiedUpTo target content offset)
    (wanted : target[offset]? = some item) :
    CopiedUpTo target (InPlace.writeAt blank content offset item) (offset + 1) := by
  have within : offset < target.length := (List.getElem?_eq_some_iff.mp wanted).1
  intro index index_lt
  by_cases same : index = offset
  · rw [getElem?_writeAt, if_pos same, same, wanted]
  · exact copied.writeAt (by omega) wanted index (by omega)

/-- A partial copy with every item copied is the target. -/
theorem PartialCopy.eq_of_copied (copy : PartialCopy blank target content)
    (copied : CopiedUpTo target content target.length) : content = target := by
  apply List.ext_getElem?
  intro index
  by_cases within : index < target.length
  · exact copied index within
  · rw [List.getElem?_eq_none (show target.length ≤ index by omega)]
    cases read : content[index]? with
    | none => rfl
    | some item =>
        rcases copy index item read with ⟨wanted, beyond, _⟩
        have := (List.getElem?_eq_some_iff.mp beyond).1
        omega

end InPlace
