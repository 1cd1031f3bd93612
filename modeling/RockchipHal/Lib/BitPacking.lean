import Mathlib.Algebra.GroupWithZero.Nat
import Mathlib.Data.List.Basic

/-!
# Words packed into other words

`lsbFirst xs` is the bits of the words `xs`, one word after the other, the least significant
bit of each first.  Words are packed into a row of words of another width when the bits of
the row start with theirs.  Then bit `i` of word `j`, of `w` bits, is bit `w * j + i` of the
row:

    y.getLsbD ((w * j + i) % v) = x.getLsbD i                              (Packed.bit)
-/

namespace RockchipHal

variable {w v : Nat}

/-- The bits of the words, the least significant bit of each first. -/
def lsbFirst (xs : List (BitVec w)) : List Bool :=
  xs.flatMap fun x => (List.range w).map x.getLsbD

/-- The bits of `row` start with those of `samples`; what is behind them does not matter. -/
def Packed (samples : List (BitVec w)) (row : List (BitVec v)) : Prop :=
  lsbFirst samples <+: lsbFirst row

instance (samples : List (BitVec w)) (row : List (BitVec v)) : Decidable (Packed samples row) :=
  inferInstanceAs (Decidable (_ <+: _))

@[simp] theorem lsbFirst_cons (x : BitVec w) (xs : List (BitVec w)) :
    lsbFirst (x :: xs) = (List.range w).map x.getLsbD ++ lsbFirst xs := rfl

theorem length_lsbFirst (xs : List (BitVec w)) : (lsbFirst xs).length = w * xs.length := by
  induction xs with
  | nil => rfl
  | cons x xs ih =>
    rw [lsbFirst_cons, List.length_append, List.length_map, List.length_range, ih,
      List.length_cons, Nat.mul_succ, Nat.add_comm]

theorem getElem?_lsbFirst (xs : List (BitVec w)) {i : Nat} (hi : i < w) :
    ∀ j : Nat, (lsbFirst xs)[w * j + i]? = xs[j]?.map fun x => x.getLsbD i := by
  induction xs with
  | nil =>
    intro j
    rfl
  | cons x xs ih =>
    intro j
    have hlen : ((List.range w).map x.getLsbD).length = w := by simp
    rw [lsbFirst_cons]
    cases j with
    | zero =>
      rw [Nat.mul_zero, Nat.zero_add, List.getElem?_append_left (by rw [hlen]; exact hi),
        List.getElem?_map, List.getElem?_range hi, List.getElem?_cons_zero, Option.map_some,
        Option.map_some]
    | succ j =>
      have hpast : w * (j + 1) + i - w = w * j + i := by
        rw [Nat.mul_succ]
        omega
      rw [List.getElem?_append_right (by rw [hlen, Nat.mul_succ]; omega), hlen, hpast, ih,
        List.getElem?_cons_succ]

/-- A bit of a word is in the row where the words before it end. -/
theorem Packed.bit {samples : List (BitVec w)} {row : List (BitVec v)} (h : Packed samples row)
    {j : Nat} {x : BitVec w} (hx : samples[j]? = some x) {i : Nat} (hi : i < w) :
    ∃ y, row[(w * j + i) / v]? = some y ∧ y.getLsbD ((w * j + i) % v) = x.getLsbD i := by
  obtain ⟨rest, hrest⟩ := h
  have hsample : (lsbFirst samples)[w * j + i]? = some (x.getLsbD i) := by
    rw [getElem?_lsbFirst samples hi, hx]
    rfl
  have hrow : (lsbFirst row)[w * j + i]? = some (x.getLsbD i) := by
    rw [← hrest, List.getElem?_append_left (List.getElem?_eq_some_iff.mp hsample).1, hsample]
  have hv : 0 < v := by
    have hlt := (List.getElem?_eq_some_iff.mp hrow).1
    rw [length_lsbFirst] at hlt
    exact Nat.pos_of_mul_pos_right (Nat.zero_lt_of_lt hlt)
  rw [← Nat.div_add_mod (w * j + i) v, getElem?_lsbFirst row (Nat.mod_lt _ hv)] at hrow
  exact Option.map_eq_some_iff.mp hrow

end RockchipHal
