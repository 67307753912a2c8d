import Mathlib.Data.Option.Basic

/-!
# Lists that are related place by place

Two lists of the same length whose items are related, where the relation may depend on the place.
Changes of both lists at one place, at all places or at the end keep them related, if the changes
respect the relation.
-/

namespace QueryLint

variable {α β : Type}

/-- At each place two lists have related items, or both have none. -/
def Pointwise (R : Nat → α → β → Prop) (l : List α) (l' : List β) : Prop :=
  ∀ n, Option.Rel (R n) l[n]? l'[n]?

namespace Pointwise

variable {R S : Nat → α → β → Prop} {l : List α} {l' : List β}

/-- At every place both lists end, or both have members that are related. -/
theorem getElem?_cases (h : Pointwise R l l') (n : Nat) :
    (l[n]? = none ∧ l'[n]? = none) ∨ ∃ a b, l[n]? = some a ∧ l'[n]? = some b ∧ R n a b := by
  have hn := h n
  cases ha : l[n]? with
  | none =>
    cases hb : l'[n]? with
    | none => exact .inl ⟨rfl, rfl⟩
    | some b =>
      rw [ha, hb] at hn
      cases hn
  | some a =>
    cases hb : l'[n]? with
    | none =>
      rw [ha, hb] at hn
      cases hn
    | some b =>
      rw [ha, hb] at hn
      cases hn with
      | some hab => exact .inr ⟨a, b, rfl, rfl, hab⟩

/-- Both lists have the same length. -/
theorem length_eq (h : Pointwise R l l') : l'.length = l.length := by
  have hnone : ∀ n : Nat, l'[n]? = none ↔ l[n]? = none := by
    intro n
    rcases h.getElem?_cases n with ⟨ha, hb⟩ | ⟨a, b, ha, hb, -⟩ <;> simp [ha, hb]
  apply Nat.le_antisymm
  · exact List.getElem?_eq_none_iff.mp ((hnone _).mpr (List.getElem?_eq_none (Nat.le_refl _)))
  · exact List.getElem?_eq_none_iff.mp ((hnone _).mp (List.getElem?_eq_none (Nat.le_refl _)))

/-- A list and what comes of it when all its items change. -/
theorem self_map {R : Nat → α → α → Prop} {f : α → α} (h : ∀ n a, l[n]? = some a → R n a (f a)) :
    Pointwise R l (l.map f) := by
  intro n
  rw [List.getElem?_map]
  cases ha : l[n]? with
  | none => exact .none
  | some a => exact .some (h n a ha)

/-- A list is related to itself if each of its members is. -/
theorem self {R : Nat → α → α → Prop} (h : ∀ n a, l[n]? = some a → R n a a) : Pointwise R l l := by
  have hmap : Pointwise R l (l.map id) := self_map h
  rwa [List.map_id] at hmap

/-- Images of related members are related. -/
theorem map (h : Pointwise R l l') {f : α → α} {f' : β → β}
    (hf : ∀ n a b, l[n]? = some a → R n a b → S n (f a) (f' b)) : Pointwise S (l.map f)
    (l'.map f') := by
  intro n
  rw [List.getElem?_map, List.getElem?_map]
  rcases h.getElem?_cases n with ⟨ha, hb⟩ | ⟨a, b, ha, hb, hab⟩
  · rw [ha, hb]
    exact .none
  · rw [ha, hb]
    exact .some (hf n a b ha hab)

/-- A weaker relation holds as well. -/
theorem mono (h : Pointwise R l l') (hRS : ∀ n a b, l[n]? = some a → R n a b → S n a b) :
    Pointwise S l l' := by
  have hmap : Pointwise S (l.map id) (l'.map id) := h.map hRS
  rwa [List.map_id, List.map_id] at hmap

/-- Two lists stay related when members at the same place are changed alike. -/
theorem modify (h : Pointwise R l l') (n : Nat) {f : α → α} {f' : β → β}
    (hf : ∀ a b, R n a b → R n (f a) (f' b)) : Pointwise R (l.modify n f) (l'.modify n f') := by
  intro m
  rw [List.getElem?_modify, List.getElem?_modify]
  rcases h.getElem?_cases m with ⟨ha, hb⟩ | ⟨a, b, ha, hb, hab⟩
  · rw [ha, hb]
    exact .none
  · rw [ha, hb]
    refine .some ?_
    split
    · next hm =>
      subst hm
      exact hf a b hab
    · exact hab

/-- Two lists stay related when related members are added at their ends. -/
theorem concat (h : Pointwise R l l') {a : α} {b : β} (hlast : R l.length a b) :
    Pointwise R (l ++ [a]) (l' ++ [b]) := by
  intro n
  rw [List.getElem?_append, List.getElem?_append, h.length_eq]
  split
  · exact h n
  · next hn =>
    cases hk : n - l.length with
    | zero =>
      obtain rfl : n = l.length := by omega
      exact .some hlast
    | succ k => exact .none

/-- Two lists stay related when members at the same place are dropped, if the place does not
matter. -/
theorem eraseIdx {T : α → β → Prop} (h : Pointwise (fun _ => T) l l') (k : Nat) :
    Pointwise (fun _ => T) (l.eraseIdx k) (l'.eraseIdx k) := by
  intro n
  rw [List.getElem?_eraseIdx, List.getElem?_eraseIdx]
  split
  · exact h n
  · exact h (n + 1)

end Pointwise

end QueryLint
