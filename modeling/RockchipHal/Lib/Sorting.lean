import Mathlib.Data.List.Sort
import Mathlib.Order.Antisymmetrization

/-!
# What a sort decides

An unstable sort by a total preorder may leave elements that are equal to it in any order.  What is
computed from the sorted list, element by element, is nevertheless decided when it is the same for
elements that are equal, and only then:

    (∀ l₁ l₂, SortsTo l l₁ → SortsTo l l₂ → l₁.map f = l₂.map f) ↔
      ∀ a ∈ l, ∀ b ∈ l, a ≤ b → b ≤ a → f a = f b                       (map_decided_iff)
-/

namespace RockchipHal

/-- Two elements stand one before the other. -/
theorem exists_split_of_mem {α : Type} {l : List α} {a b : α} (ha : a ∈ l) (hb : b ∈ l) (hne : a ≠ b) :
    (∃ x y z, l = x ++ a :: (y ++ b :: z)) ∨ ∃ x y z, l = x ++ b :: (y ++ a :: z) := by
  obtain ⟨front, back, rfl⟩ := List.append_of_mem ha
  rcases List.mem_append.mp hb with hb | hb
  · obtain ⟨x, y, rfl⟩ := List.append_of_mem hb
    exact .inr ⟨x, y, back, by rw [List.append_assoc, List.cons_append]⟩
  · rcases List.mem_cons.mp hb with rfl | hb
    · exact absurd rfl hne
    · obtain ⟨y, z, rfl⟩ := List.append_of_mem hb
      exact .inl ⟨front, y, z, rfl⟩

variable {α β : Type} [Preorder α]

/-- A result of sorting `l`. -/
structure SortsTo (l l' : List α) : Prop where
  perm : l'.Perm l
  sorted : l'.Pairwise (· ≤ ·)

theorem SortsTo.exists [Std.Total fun a b : α => a ≤ b] (l : List α) : ∃ l', SortsTo l l' := by
  classical
  refine ⟨l.mergeSort fun a b => decide (a ≤ b), List.mergeSort_perm _ _, ?_⟩
  have htrans : ∀ a b c : α, decide (a ≤ b) = true → decide (b ≤ c) = true →
      decide (a ≤ c) = true := by
    intro a b c hab hbc
    exact decide_eq_true ((of_decide_eq_true hab).trans (of_decide_eq_true hbc))
  have htotal : ∀ a b : α, (decide (a ≤ b) || decide (b ≤ a)) = true := by
    intro a b
    rcases Std.Total.total (r := fun a b : α => a ≤ b) a b with h | h
    · rw [decide_eq_true h, Bool.true_or]
    · rw [decide_eq_true h, Bool.or_true]
  exact (List.pairwise_mergeSort htrans htotal l).imp of_decide_eq_true

/-- Two results have equal elements at each place. -/
theorem SortsTo.equal {l l₁ l₂ : List α} (h₁ : SortsTo l l₁) (h₂ : SortsTo l l₂) {i : Nat} {a b : α}
    (ha : l₁[i]? = some a) (hb : l₂[i]? = some b) : a ≤ b ∧ b ≤ a := by
  have hclasses : l₁.map (toAntisymmetrization (· ≤ ·)) =
      l₂.map (toAntisymmetrization (· ≤ ·)) := by
    have hsorted₁ : (l₁.map (toAntisymmetrization (· ≤ ·))).Pairwise (· ≤ ·) :=
      List.pairwise_map.mpr h₁.sorted
    have hsorted₂ : (l₂.map (toAntisymmetrization (· ≤ ·))).Pairwise (· ≤ ·) :=
      List.pairwise_map.mpr h₂.sorted
    exact ((h₁.perm.trans h₂.perm.symm).map _).eq_of_pairwise
      (fun x y _ _ hxy hyx => le_antisymm hxy hyx) hsorted₁ hsorted₂
  have hat := congrArg (fun classes => classes[i]?) hclasses
  simp only [List.getElem?_map, ha, hb, Option.map_some, Option.some.injEq] at hat
  exact Quotient.exact hat

/-- Equal elements of a result may change places. -/
theorem SortsTo.swap {l x y z : List α} {a b : α} (h : SortsTo l (x ++ a :: (y ++ b :: z)))
    (hba : b ≤ a) : SortsTo l (x ++ b :: (y ++ a :: z)) where
  perm := by
    refine List.Perm.trans ?_ h.perm
    refine List.Perm.append_left x ?_
    calc (b :: (y ++ a :: z)).Perm (b :: a :: (y ++ z)) := List.perm_middle.cons b
      _ |>.Perm (a :: b :: (y ++ z)) := List.Perm.swap a b _
      _ |>.Perm (a :: (y ++ b :: z)) := (List.perm_middle.cons a).symm
  sorted := by
    have hsorted := h.sorted
    simp only [List.pairwise_append, List.pairwise_cons, List.mem_append, List.mem_cons] at hsorted ⊢
    obtain ⟨hx, ⟨ha, hy, ⟨hb, hz⟩, hyz⟩, hcross⟩ := hsorted
    refine ⟨hx, ⟨?_, hy, ⟨fun c hc => ha c (.inr (.inr hc)), hz⟩, ?_⟩, ?_⟩
    · rintro c (hc | rfl | hc)
      · exact hba.trans (ha c (.inl hc))
      · exact hba
      · exact hb c hc
    · rintro c hc d (rfl | hd)
      · exact (hyz c hc b (.inl rfl)).trans hba
      · exact hyz c hc d (.inr hd)
    · rintro u hu c (rfl | hc | rfl | hc)
      · exact hcross u hu c (.inr (.inr (.inl rfl)))
      · exact hcross u hu c (.inr (.inl hc))
      · exact hcross u hu c (.inl rfl)
      · exact hcross u hu c (.inr (.inr (.inr hc)))

theorem map_decided_iff [Std.Total fun a b : α => a ≤ b] (f : α → β) (l : List α) :
    (∀ l₁ l₂, SortsTo l l₁ → SortsTo l l₂ → l₁.map f = l₂.map f) ↔
      ∀ a ∈ l, ∀ b ∈ l, a ≤ b → b ≤ a → f a = f b := by
  constructor
  · intro h a ha b hb hab hba
    by_contra hdiffer
    have hne : a ≠ b := fun heq => hdiffer (congrArg f heq)
    obtain ⟨l', hl'⟩ := SortsTo.exists l
    have hswap : ∀ {x y z : List α} {a b : α}, l' = x ++ a :: (y ++ b :: z) → b ≤ a →
        f a = f b := by
      rintro x y z a b rfl hba
      have hsame := h _ _ hl' (hl'.swap hba)
      rw [List.map_append, List.map_append] at hsame
      exact (List.cons.inj (List.append_cancel_left hsame)).1
    rcases exists_split_of_mem (hl'.perm.mem_iff.mpr ha) (hl'.perm.mem_iff.mpr hb) hne with
      ⟨x, y, z, hsplit⟩ | ⟨x, y, z, hsplit⟩
    · exact hdiffer (hswap hsplit hba)
    · exact hdiffer (hswap hsplit hab).symm
  · intro h l₁ l₂ h₁ h₂
    have hlen : l₁.length = l₂.length := (h₁.perm.trans h₂.perm.symm).length_eq
    refine List.ext_getElem? fun i => ?_
    rw [List.getElem?_map, List.getElem?_map]
    cases ha : l₁[i]? with
    | none =>
      have hi := List.getElem?_eq_none_iff.mp ha
      rw [List.getElem?_eq_none_iff.mpr (by omega)]
    | some a =>
      have hi := (List.getElem?_eq_some_iff.mp ha).1
      obtain ⟨b, hb⟩ : ∃ b, l₂[i]? = some b := ⟨_, List.getElem?_eq_getElem (by omega)⟩
      obtain ⟨hab, hba⟩ := h₁.equal h₂ ha hb
      rw [hb, Option.map_some, Option.map_some, h a (h₁.perm.mem_iff.mp (List.mem_of_getElem? ha)) b
        (h₂.perm.mem_iff.mp (List.mem_of_getElem? hb)) hab hba]

end RockchipHal
