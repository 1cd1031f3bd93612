import Mathlib.Data.List.Basic

/-!
# Mapped regions

An address space is the set of mapped bytes, a region its first byte and its
length.  `Backed live rs` says that the regions `rs` are mapped and disjoint, so
that unmapping one leaves the others; it is kept by mapping a fresh region and
by unmapping one of them.
-/

namespace RockchipHal

/-- Byte `a` lies in the region of `r.2` bytes at `r.1`. -/
def InRegion (r : Nat × Nat) (a : Nat) : Prop := r.1 ≤ a ∧ a < r.1 + r.2

instance (r : Nat × Nat) (a : Nat) : Decidable (InRegion r a) :=
  inferInstanceAs (Decidable (_ ∧ _))

def mapRegion (live : Nat → Prop) (r : Nat × Nat) : Nat → Prop := fun a => live a ∨ InRegion r a

def unmapRegion (live : Nat → Prop) (r : Nat × Nat) : Nat → Prop :=
  fun a => live a ∧ ¬ InRegion r a

/-- Of two regions at one place, one lies in the other iff it is not longer. -/
theorem inRegion_subset_iff (addr n m : Nat) :
    (∀ a, InRegion (addr, n) a → InRegion (addr, m) a) ↔ n ≤ m := by
  constructor
  · intro h
    rcases Nat.eq_zero_or_pos n with rfl | hn
    · exact Nat.zero_le m
    · have hlast := h (addr + (n - 1)) ⟨by simp, by simp; omega⟩
      have h2 : addr + (n - 1) < addr + m := hlast.2
      omega
  · rintro hnm a ⟨h1, h2⟩
    have h1' : addr ≤ a := h1
    have h2' : a < addr + n := h2
    exact ⟨h1', show a < addr + m by omega⟩

/-- The regions are mapped, and no two share a byte. -/
structure Backed (live : Nat → Prop) (rs : List (Nat × Nat)) : Prop where
  mapped : ∀ r ∈ rs, ∀ a, InRegion r a → live a
  disjoint : rs.Pairwise fun r r' => ∀ a, InRegion r a → ¬ InRegion r' a

namespace Backed

variable {live : Nat → Prop} {rs rs₁ rs₂ : List (Nat × Nat)} {r : Nat × Nat}

theorem nil : Backed live [] := ⟨by simp, List.Pairwise.nil⟩

theorem sublist (h : Backed live rs) (hs : rs₁.Sublist rs) : Backed live rs₁ :=
  ⟨fun r hr => h.mapped r (hs.subset hr), h.disjoint.sublist hs⟩

/-- A region mapped where nothing was. -/
theorem push (h : Backed live rs) (hfresh : ∀ a, InRegion r a → ¬ live a) :
    Backed (mapRegion live r) (rs ++ [r]) := by
  constructor
  · intro r' hr' a ha
    rcases List.mem_append.mp hr' with hr' | hr'
    · left
      exact h.mapped r' hr' a ha
    · right
      rw [← List.mem_singleton.mp hr']
      exact ha
  · rw [List.pairwise_append]
    refine ⟨h.disjoint, List.pairwise_singleton _ _, fun r' hr' r'' hr'' a ha ha' => ?_⟩
    rw [List.mem_singleton.mp hr''] at ha'
    exact hfresh a ha' (h.mapped r' hr' a ha)

/-- Unmapping a region leaves the others. -/
theorem unmap (h : Backed live (rs₁ ++ r :: rs₂)) : Backed (unmapRegion live r) (rs₁ ++ rs₂) := by
  have hsub : (rs₁ ++ rs₂).Sublist (rs₁ ++ r :: rs₂) :=
    (List.sublist_cons_self r rs₂).append_left rs₁
  refine ⟨fun r' hr' a ha => ⟨h.mapped r' (hsub.subset hr') a ha, fun har => ?_⟩,
    h.disjoint.sublist hsub⟩
  have hp := h.disjoint
  rw [List.pairwise_append, List.pairwise_cons] at hp
  obtain ⟨-, ⟨hr₂, -⟩, h₁⟩ := hp
  rcases List.mem_append.mp hr' with hr' | hr'
  · exact h₁ r' hr' r List.mem_cons_self a ha har
  · exact hr₂ r' hr' a har ha

end Backed

end RockchipHal
