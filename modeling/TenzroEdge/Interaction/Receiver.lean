import Mathlib.Data.List.Nodup
import Mathlib.Data.List.Induction
import Mathlib.Data.List.Forall2

/-!
# Receivers that execute a message once

A receiver reads a key off each message it accepts, remembers the keys and executes a message only
if its key is new. If no two of the messages that arrive share a key, it executes each of them
exactly once, however often each arrives.
-/

namespace Interaction

variable {κ M : Type} [DecidableEq κ]

/-- The keys that a receiver remembers, and what it has executed, the first message first. -/
structure Receiver (κ M : Type) where
  seen : List κ
  executed : List M

namespace Receiver

def blank : Receiver κ M where
  seen := []
  executed := []

/-- A message without a key is not accepted. -/
def receive (key : M → Option κ) (receiver : Receiver κ M) (message : M) : Receiver κ M :=
  match key message with
  | none => receiver
  | some found =>
      if found ∈ receiver.seen then receiver
      else ⟨found :: receiver.seen, receiver.executed ++ [message]⟩

def receiveAll (key : M → Option κ) (arrivals : List M) : Receiver κ M :=
  arrivals.foldl (receive key) blank

variable {key : M → Option κ}

theorem receiveAll_concat (arrivals : List M) (message : M) :
    receiveAll key (arrivals ++ [message]) = receive key (receiveAll key arrivals) message := by
  simp [receiveAll]

/-- The keys that are remembered are those of the messages that were executed. -/
theorem mem_seen_iff (arrivals : List M) (found : κ) :
    found ∈ (receiveAll key arrivals).seen ↔
      ∃ message ∈ (receiveAll key arrivals).executed, key message = some found := by
  induction arrivals using List.reverseRecOn with
  | nil => simp [receiveAll, blank]
  | append_singleton arrivals message ih =>
      rw [receiveAll_concat, receive]
      split
      · exact ih
      next own keyed =>
        split
        · exact ih
        · simp only [List.mem_cons, ih, List.mem_append, List.not_mem_nil, or_false]
          constructor
          · rintro (rfl | ⟨earlier, mem, same⟩)
            · exact ⟨message, .inr rfl, keyed⟩
            · exact ⟨earlier, .inl mem, same⟩
          · rintro ⟨other, mem | rfl, same⟩
            · exact .inr ⟨other, mem, same⟩
            · rw [keyed] at same
              exact .inl (Option.some.inj same).symm

theorem executed_subset (arrivals : List M) : (receiveAll key arrivals).executed ⊆ arrivals := by
  induction arrivals using List.reverseRecOn with
  | nil => exact List.Subset.refl _
  | append_singleton arrivals message ih =>
      rw [receiveAll_concat, receive]
      have before := List.Subset.trans ih (List.subset_append_left arrivals [message])
      split
      · exact before
      · split
        · exact before
        · exact List.append_subset.mpr ⟨before, List.subset_append_right _ _⟩

theorem executed_nodup (arrivals : List M) : (receiveAll key arrivals).executed.Nodup := by
  induction arrivals using List.reverseRecOn with
  | nil => exact List.nodup_nil
  | append_singleton arrivals message ih =>
      rw [receiveAll_concat, receive]
      split
      · exact ih
      next own keyed =>
        split
        · exact ih
        next unseen =>
          have fresh : message ∉ (receiveAll key arrivals).executed := fun mem =>
            unseen ((mem_seen_iff arrivals own).mpr ⟨message, mem, keyed⟩)
          rw [← List.concat_eq_append]
          exact List.Nodup.concat fresh ih

theorem key_of_mem_executed (arrivals : List M) {message : M}
    (mem : message ∈ (receiveAll key arrivals).executed) : ∃ found, key message = some found := by
  induction arrivals using List.reverseRecOn with
  | nil => cases mem
  | append_singleton arrivals latest ih =>
      rw [receiveAll_concat, receive] at mem
      split at mem
      · exact ih mem
      next own keyed =>
        split at mem
        · exact ih mem
        · rcases List.mem_append.mp mem with before | last
          · exact ih before
          · exact ⟨own, List.mem_singleton.mp last ▸ keyed⟩

theorem executed_subset_receive (receiver : Receiver κ M) (message : M) :
    receiver.executed ⊆ (receive key receiver message).executed := by
  unfold receive
  split
  · exact List.Subset.refl _
  · split
    · exact List.Subset.refl _
    · exact List.subset_append_left _ _

/-- Nothing that arrives with a key of its own is dropped. -/
theorem mem_executed_of_mem {arrivals : List M} {message : M} {found : κ}
    (keyed : key message = some found) (arrived : message ∈ arrivals)
    (own : ∀ other ∈ arrivals, key other = some found → other = message) :
    message ∈ (receiveAll key arrivals).executed := by
  induction arrivals using List.reverseRecOn with
  | nil => cases arrived
  | append_singleton arrivals latest ih =>
      have earlier : ∀ other ∈ arrivals, key other = some found → other = message :=
        fun other mem => own other (List.mem_append_left _ mem)
      rw [receiveAll_concat]
      rcases List.mem_append.mp arrived with before | last
      · exact executed_subset_receive _ latest (ih before earlier)
      · rw [← List.mem_singleton.mp last, receive, keyed]
        simp only
        split
        next seen =>
          rcases (mem_seen_iff arrivals found).mp seen with ⟨other, mem, same⟩
          rw [← earlier other (executed_subset arrivals mem) same]
          exact mem
        · exact List.mem_append_right _ (List.mem_singleton_self message)

end Receiver

/-- Items that each have one owner, and no two the same one, are listed with their owners. -/
theorem exists_owners {ι M : Type} {Owns : ι → M → Prop} {items : List M} (nodup : items.Nodup)
    (owned : ∀ item ∈ items, ∃! i, Owns i item)
    (one : ∀ i item other, Owns i item → Owns i other → item = other) :
    ∃ owners : List ι, owners.Nodup ∧ List.Forall₂ Owns owners items ∧
      ∀ i, i ∈ owners ↔ ∃ item ∈ items, Owns i item := by
  induction items with
  | nil => exact ⟨[], List.nodup_nil, .nil, by simp⟩
  | cons item rest ih =>
      rcases List.nodup_cons.mp nodup with ⟨fresh, others⟩
      rcases owned item List.mem_cons_self with ⟨i, owns, only⟩
      rcases ih others fun other mem => owned other (List.mem_cons_of_mem _ mem) with
        ⟨owners, once, listed, exactly⟩
      refine ⟨i :: owners, List.nodup_cons.mpr ⟨?_, once⟩, .cons owns listed, ?_⟩
      · intro again
        rcases (exactly i).mp again with ⟨other, mem, ownsOther⟩
        rw [one i item other owns ownsOther] at fresh
        exact fresh mem
      · intro j
        constructor
        · intro mem
          rcases List.mem_cons.mp mem with rfl | mem
          · exact ⟨item, List.mem_cons_self, owns⟩
          · rcases (exactly j).mp mem with ⟨other, otherMem, ownsOther⟩
            exact ⟨other, List.mem_cons_of_mem _ otherMem, ownsOther⟩
        · rintro ⟨other, mem, ownsOther⟩
          rcases List.mem_cons.mp mem with rfl | mem
          · rw [only j ownsOther]
            exact List.mem_cons_self
          · exact List.mem_cons_of_mem _ ((exactly j).mpr ⟨other, mem, ownsOther⟩)

end Interaction
