import Mathlib.Algebra.GroupWithZero.Nat
import Mathlib.Data.List.Basic

/-!
# Buffers and consecutive regions

A buffer is a list.  `memWrite mem off src` copies `src` to `off`; `slice` reads
a region back; `offset sizes i` is where region `i` starts when regions lie one
after the other.  A buffer of the right length holds given pieces in its
consecutive regions exactly when it is their concatenation:

    slices mem ls = ls ↔ mem = ls.flatten                          (slices_eq_iff)

Copying several pieces to the same place leaves, at each position, the byte of
the last piece long enough to reach it (`getElem?_overlay`).
-/

namespace RockchipHal

/-- An `int`, given by its bit pattern, converted to `uint64_t`: sign-extended. -/
def intToUInt64 (n : UInt32) : UInt64 :=
  if n < 0x80000000 then n.toUInt64 else n.toUInt64 + 0xffffffff00000000

variable {α : Type}

/-! ## Writing -/

/-- `memcpy(mem + off, src, src.length)`; what would land behind the buffer is not
part of it. -/
def memWrite (mem : List α) (off : Nat) (src : List α) : List α :=
  mem.mapIdx fun p b => if off ≤ p then src.getD (p - off) b else b

@[simp] theorem length_memWrite (mem : List α) (off : Nat) (src : List α) :
    (memWrite mem off src).length = mem.length := by
  simp [memWrite]

theorem getElem?_memWrite (mem : List α) (off : Nat) (src : List α) (p : Nat) :
    (memWrite mem off src)[p]? =
      mem[p]?.map fun b => if off ≤ p then src.getD (p - off) b else b := by
  simp [memWrite, List.getElem?_mapIdx]

/-- Everything copied to the start of the buffer, in order. -/
def overlay (mem : List α) (ls : List (List α)) : List α :=
  ls.foldl (fun mem src => memWrite mem 0 src) mem

@[simp] theorem length_overlay (ls : List (List α)) : ∀ mem : List α,
    (overlay mem ls).length = mem.length := by
  induction ls with
  | nil => intro mem; rfl
  | cons l ls ih =>
    intro mem
    show (overlay (memWrite mem 0 l) ls).length = mem.length
    rw [ih, length_memWrite]

/-- The element at `p` of the last piece longer than `p`. -/
def lastLonger (ls : List (List α)) (p : Nat) : Option α := ls.reverse.findSome? fun l => l[p]?

theorem lastLonger_cons (l : List α) (ls : List (List α)) (p : Nat) :
    lastLonger (l :: ls) p = (lastLonger ls p).or l[p]? := by
  simp [lastLonger, List.findSome?_append]

theorem getElem?_overlay (ls : List (List α)) : ∀ (mem : List α) (p : Nat),
    (overlay mem ls)[p]? = mem[p]?.map fun b => (lastLonger ls p).getD b := by
  induction ls with
  | nil =>
    intro mem p
    show mem[p]? = _
    cases mem[p]? <;> rfl
  | cons l ls ih =>
    intro mem p
    show (overlay (memWrite mem 0 l) ls)[p]? = _
    rw [ih, getElem?_memWrite, lastLonger_cons]
    cases mem[p]? with
    | none => rfl
    | some b =>
      simp only [Option.map_some, Nat.zero_le, if_true, Nat.sub_zero]
      cases lastLonger ls p with
      | none => simp [List.getD_eq_getElem?_getD]
      | some c => rfl

/-! ## Consecutive regions -/

/-- The region of `n` elements at `off`. -/
def slice (mem : List α) (off n : Nat) : List α := (mem.drop off).take n

/-- Where region `i` starts when regions of these sizes lie one after the other. -/
def offset (sizes : List Nat) (i : Nat) : Nat := (sizes.take i).sum

@[simp] theorem offset_zero (sizes : List Nat) : offset sizes 0 = 0 := rfl

@[simp] theorem offset_cons_succ (n : Nat) (sizes : List Nat) (i : Nat) :
    offset (n :: sizes) (i + 1) = n + offset sizes i := by
  simp [offset]

theorem offset_le_sum (sizes : List Nat) (i : Nat) : offset sizes i ≤ sizes.sum := by
  have := List.take_append_drop i sizes
  have h : sizes.sum = offset sizes i + (sizes.drop i).sum := by
    rw [offset, ← List.sum_append, this]
  omega

/-- The contents of the consecutive regions with the lengths of `ls`. -/
def slices (mem : List α) (ls : List (List α)) : List (List α) :=
  ls.mapIdx fun i l => slice mem (offset (ls.map List.length) i) l.length

theorem slice_append_right (a mem : List α) (off n : Nat) :
    slice (a ++ mem) (a.length + off) n = slice mem off n := by
  simp [slice, List.drop_append, List.drop_eq_nil_of_le]

/-- A concatenation of pieces of one length, read in pieces of that length. -/
theorem slice_flatten (ls : List (List α)) (n : Nat) (h : ∀ l ∈ ls, l.length = n) (i : Nat) :
    slice ls.flatten (i * n) n = ls[i]?.getD [] := by
  induction ls generalizing i with
  | nil => simp [slice]
  | cons l ls ih =>
    have hl : l.length = n := h l List.mem_cons_self
    have hls : ∀ l ∈ ls, l.length = n := fun m hm => h m (List.mem_cons_of_mem l hm)
    rw [List.flatten_cons]
    cases i with
    | zero => simp [slice, ← hl]
    | succ i =>
      have hoff : (i + 1) * n = l.length + i * n := by rw [hl, Nat.succ_mul, Nat.add_comm]
      rw [hoff, slice_append_right, ih hls, List.getElem?_cons_succ]

theorem slices_cons (l : List α) (ls : List (List α)) (a mem : List α) (h : a.length = l.length) :
    slices (a ++ mem) (l :: ls) = a :: slices mem ls := by
  unfold slices
  rw [List.mapIdx_cons]
  simp only [List.map_cons, offset_cons_succ, offset_zero]
  congr 1
  · simp [slice, ← h]
  · congr 1
    funext i x
    rw [← h, slice_append_right]

/-- A buffer holds the pieces in its consecutive regions iff it is their concatenation. -/
theorem slices_eq_iff (ls : List (List α)) : ∀ mem : List α, mem.length = ls.flatten.length →
    (slices mem ls = ls ↔ mem = ls.flatten) := by
  induction ls with
  | nil =>
    intro mem h
    have hm : mem = [] := List.eq_nil_of_length_eq_zero h
    simp [hm, slices]
  | cons l ls ih =>
    intro mem h
    rw [List.flatten_cons, List.length_append] at h
    have hsplit := (List.take_append_drop l.length mem).symm
    have hlen : (mem.take l.length).length = l.length := by rw [List.length_take]; omega
    have hdrop : (mem.drop l.length).length = ls.flatten.length := by
      rw [List.length_drop]; omega
    rw [hsplit, slices_cons l ls _ _ hlen, List.flatten_cons, List.cons.injEq, ih _ hdrop]
    constructor
    · rintro ⟨h1, h2⟩
      rw [h1, h2]
    · intro he
      exact List.append_inj he hlen

end RockchipHal
