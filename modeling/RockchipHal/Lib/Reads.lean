import Mathlib.Algebra.GroupWithZero.Nat
import Mathlib.Data.List.Basic

/-!
# Logged reads of an unchecked store

`Reads α` is a computation over an indexed store that keeps the indices it
reads.  `UncheckedVec α` is a vector whose index operator does not compare the
index with the length: an index past the end finds whatever lies there
(`past`).  A memory-safety statement about code that indexes such a vector is
`Reads.Below`: every index in the log is below the length.

    (x >>= f).Below n ↔ x.Below n ∧ (f x.val).Below n              (below_bind)
    (l.mapM f).Below n ↔ ∀ a ∈ l, (f a).Below n                    (below_mapM)

`HasAt off l` says what a vector holds from an index on, and splits with `l`
(`hasAt_append`), so that a walk over a vector can be followed on a list.
-/

namespace RockchipHal

/-- A computation over an indexed store: its value and the indices it read. -/
structure Reads (α : Type) where
  val : α
  log : List Nat
deriving DecidableEq, Repr

namespace Reads

variable {α β : Type}

instance : Monad Reads where
  pure a := ⟨a, []⟩
  bind x f := ⟨(f x.val).val, x.log ++ (f x.val).log⟩

@[simp] theorem val_pure (a : α) : (pure a : Reads α).val = a := rfl
@[simp] theorem log_pure (a : α) : (pure a : Reads α).log = [] := rfl
@[simp] theorem val_bind (x : Reads α) (f : α → Reads β) : (x >>= f).val = (f x.val).val := rfl
@[simp] theorem log_bind (x : Reads α) (f : α → Reads β) :
    (x >>= f).log = x.log ++ (f x.val).log := rfl

theorem bind_assoc (x : Reads α) (f : α → Reads β) {γ : Type} (g : β → Reads γ) :
    (x >>= f) >>= g = x >>= fun a => f a >>= g := by
  cases x
  simp only [Bind.bind, List.append_assoc]

instance : LawfulMonad Reads :=
  LawfulMonad.mk' Reads (fun x => by cases x; simp [Functor.map]) (fun _ _ => rfl)
    (fun x f g => bind_assoc x f g)

@[simp] theorem val_map (g : α → β) (x : Reads α) : (g <$> x).val = g x.val := rfl
@[simp] theorem log_map (g : α → β) (x : Reads α) : (g <$> x).log = x.log := by
  show x.log ++ [] = x.log
  simp

/-- Every index read is below `n`. -/
def Below (n : Nat) (r : Reads α) : Prop := ∀ i ∈ r.log, i < n

instance (n : Nat) (r : Reads α) : Decidable (r.Below n) :=
  inferInstanceAs (Decidable (∀ i ∈ r.log, i < n))

@[simp] theorem below_pure (n : Nat) (a : α) : (pure a : Reads α).Below n := by
  intro i hi
  cases hi

@[simp] theorem below_bind (n : Nat) (x : Reads α) (f : α → Reads β) :
    (x >>= f).Below n ↔ x.Below n ∧ (f x.val).Below n := by
  unfold Below
  rw [log_bind]
  constructor
  · intro h
    exact ⟨fun i hi => h i (List.mem_append_left _ hi), fun i hi => h i (List.mem_append_right _ hi)⟩
  · rintro ⟨h1, h2⟩ i hi
    rcases List.mem_append.mp hi with hi | hi
    · exact h1 i hi
    · exact h2 i hi

@[simp] theorem below_map (n : Nat) (g : α → β) (x : Reads α) :
    (g <$> x).Below n ↔ x.Below n := by
  unfold Below
  rw [log_map]

@[simp] theorem val_mapM (f : α → Reads β) (l : List α) :
    (l.mapM f).val = l.map fun a => (f a).val := by
  induction l with
  | nil => rfl
  | cons a l ih => simp [List.mapM_cons, ih]

@[simp] theorem below_mapM (n : Nat) (f : α → Reads β) (l : List α) :
    (l.mapM f).Below n ↔ ∀ a ∈ l, (f a).Below n := by
  induction l with
  | nil => simp
  | cons a l ih => simp [List.mapM_cons, ih]

end Reads

/-- A vector with an unchecked index operator: the elements it owns, and what an
index past its end finds in the memory behind them. -/
structure UncheckedVec (α : Type) where
  data : List α
  past : Nat → α

namespace UncheckedVec

variable {α : Type}

/-- `operator[]`: no comparison with the length. -/
def get (v : UncheckedVec α) (i : Nat) : α := v.data.getD i (v.past i)

/-- `size()`. -/
def size (v : UncheckedVec α) : Nat := v.data.length

/-- `operator[]` with the index logged. -/
def read (v : UncheckedVec α) (i : Nat) : Reads α := ⟨v.get i, [i]⟩

/-- Assignment through `operator[]`; past the end it changes foreign memory. -/
def set (v : UncheckedVec α) (i : Nat) (a : α) : UncheckedVec α :=
  if i < v.data.length then { v with data := v.data.set i a }
  else { v with past := fun j => if j = i then a else v.past j }

/-- `resize(n)`: elements past the old length are `a`. -/
def resize (v : UncheckedVec α) (n : Nat) (a : α) : UncheckedVec α :=
  { v with data := v.data.take n ++ List.replicate (n - v.data.length) a }

@[simp] theorem val_read (v : UncheckedVec α) (i : Nat) : (v.read i).val = v.get i := rfl

@[simp] theorem below_read (v : UncheckedVec α) (n i : Nat) : (v.read i).Below n ↔ i < n := by
  simp [Reads.Below, read]

theorem get_of_lt (v : UncheckedVec α) (i : Nat) (h : i < v.data.length) : v.get i = v.data[i] := by
  simp [get, List.getD_eq_getElem?_getD, List.getElem?_eq_getElem h]

theorem get_of_size_le (v : UncheckedVec α) (i : Nat) (h : v.size ≤ i) : v.get i = v.past i := by
  have hnone : v.data[i]? = none := List.getElem?_eq_none h
  simp [get, List.getD_eq_getElem?_getD, hnone]

@[simp] theorem size_set (v : UncheckedVec α) (i : Nat) (a : α) : (v.set i a).size = v.size := by
  unfold set size
  split
  · exact List.length_set
  · rfl

theorem size_resize (v : UncheckedVec α) (n : Nat) (a : α) : (v.resize n a).size = n := by
  unfold resize size
  rw [List.length_append, List.length_take, List.length_replicate]
  omega

theorem get_set (v : UncheckedVec α) (i j : Nat) (a : α) :
    (v.set i a).get j = if j = i then a else v.get j := by
  unfold set
  split
  · next h =>
    simp only [get, List.getD_eq_getElem?_getD, List.getElem?_set]
    by_cases hij : i = j
    · rw [← hij, if_pos rfl, if_pos h, if_pos rfl]
      rfl
    · rw [if_neg hij, if_neg (Ne.symm hij)]
  · next h =>
    show v.data.getD j (if j = i then a else v.past j) = _
    rcases Nat.lt_or_ge j v.data.length with hj | hj
    · rw [if_neg (by omega), if_neg (by omega)]
      rfl
    · rw [get_of_size_le v j hj]
      simp [List.getD_eq_getElem?_getD, List.getElem?_eq_none hj]

/-- Over the elements it owns, `get` enumerates the front of the vector. -/
theorem forall_lt_get (v : UncheckedVec α) (n : Nat) (hn : n ≤ v.size) (P : α → Prop) :
    (∀ i, i < n → P (v.get i)) ↔ ∀ a ∈ v.data.take n, P a := by
  have hlen : n ≤ v.data.length := hn
  constructor
  · intro h a ha
    obtain ⟨i, hi, rfl⟩ := List.mem_iff_getElem.mp ha
    rw [List.length_take, Nat.min_eq_left hlen] at hi
    rw [List.getElem_take, ← v.get_of_lt i (by omega)]
    exact h i hi
  · intro h i hi
    have hi' : i < v.data.length := by omega
    rw [v.get_of_lt i hi']
    exact h _ (List.mem_take_iff_getElem.mpr ⟨i, by omega, rfl⟩)

/-- A loop over all the elements, by index, is a `mapIdx`. -/
theorem map_range_get {β : Type} (v : UncheckedVec α) (f : Nat → α → β) :
    ((List.range v.size).map fun i => f i (v.get i)) = v.data.mapIdx f := by
  apply List.ext_getElem
  · simp [size]
  · intro i h1 h2
    simp only [List.getElem_map, List.getElem_range, List.getElem_mapIdx]
    rw [v.get_of_lt i (by simpa [size] using h1)]

theorem map_get_range (v : UncheckedVec α) : (List.range v.size).map v.get = v.data := by
  apply List.ext_getElem
  · simp [size]
  · intro i h1 h2
    rw [List.getElem_map, List.getElem_range, v.get_of_lt i h2]

/-- A loop that reads the elements below a count reads inside the vector exactly
when the count is at most its length. -/
theorem below_range_mapM {β : Type} (v : UncheckedVec α) (n : Nat) (f : Nat → α → β) :
    ((List.range n).mapM fun i => do return f i (← v.read i)).Below v.size ↔ n ≤ v.size := by
  rw [Reads.below_mapM]
  simp only [Reads.below_bind, below_read, Reads.below_pure, and_true, List.mem_range]
  constructor
  · intro h
    rcases Nat.eq_zero_or_pos n with rfl | hn
    · exact Nat.zero_le _
    · have := h (n - 1) (by omega)
      omega
  · intro h i hi
    omega

/-- The elements from `off` on are those of `l`. -/
def HasAt (v : UncheckedVec α) (off : Nat) (l : List α) : Prop :=
  ∀ i (h : i < l.length), v.get (off + i) = l[i]

theorem hasAt_cons (v : UncheckedVec α) (off : Nat) (a : α) (l : List α) :
    v.HasAt off (a :: l) ↔ v.get off = a ∧ v.HasAt (off + 1) l := by
  constructor
  · intro h
    refine ⟨h 0 (by simp), fun i hi => ?_⟩
    have hsucc := h (i + 1) (by simpa using hi)
    rw [show off + 1 + i = off + (i + 1) by omega]
    exact hsucc
  · rintro ⟨ha, hl⟩ i hi
    cases i with
    | zero => exact ha
    | succ i =>
      have hnext := hl i (by simpa using hi)
      rw [show off + (i + 1) = off + 1 + i by omega]
      exact hnext

theorem hasAt_append (v : UncheckedVec α) (off : Nat) (l m : List α) :
    v.HasAt off (l ++ m) ↔ v.HasAt off l ∧ v.HasAt (off + l.length) m := by
  induction l generalizing off with
  | nil => simp [HasAt]
  | cons a l ih =>
    rw [List.cons_append, hasAt_cons, hasAt_cons, ih, and_assoc, List.length_cons,
      show off + 1 + l.length = off + (l.length + 1) by omega]

theorem HasAt.getD {v : UncheckedVec α} {off : Nat} {l : List α} (h : v.HasAt off l) {i : Nat}
    (hi : i < l.length) (d : α) : v.get (off + i) = l.getD i d := by
  rw [h i hi, List.getD_eq_getElem?_getD, List.getElem?_eq_getElem hi, Option.getD_some]

/-- A stretch of a vector's own elements. -/
theorem hasAt_of_take_drop (v : UncheckedVec α) (off n : Nat) :
    v.HasAt off ((v.data.drop off).take n) := by
  intro i hi
  rw [List.length_take, List.length_drop] at hi
  rw [List.getElem_take, List.getElem_drop]
  exact v.get_of_lt (off + i) (by omega)

end UncheckedVec

end RockchipHal
