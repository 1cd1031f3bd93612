import Mathlib.Data.List.Nodup
import Mathlib.Logic.Function.Iterate

/-!
# Lists brought in step with a predicate

`bring true a` appends `a` to a list that does not have it, `bring false a` takes one
occurrence of it out, and `bringAll` does so for a table of keys and entries.  With distinct
entries in the table each of them is brought in step once, whatever the others do:

    present k     : count = max (count before) 1
    not present k : count = count before - 1            (count_bringAll)

and what is not in the table keeps its place           (filter_bringAll)

Brought in step `k` times, an absent entry has lost `k` occurrences
(`count_iterate_bringAll`), and what is not in the table none.
-/

namespace RockchipHal

variable {κ α : Type} [DecidableEq α]

def bring (present : Bool) (a : α) (l : List α) : List α :=
  if present then if a ∈ l then l else l ++ [a] else l.erase a

def bringAll (present : κ → Bool) (table : List (κ × α)) (l : List α) : List α :=
  table.foldl (fun l entry => bring (present entry.1) entry.2 l) l

theorem count_bring_self (present : Bool) (a : α) (l : List α) :
    (bring present a l).count a = if present then max (l.count a) 1 else l.count a - 1 := by
  unfold bring
  cases present with
  | true =>
    rw [if_pos rfl, if_pos rfl]
    split
    · next h =>
      have hpos : 0 < l.count a := List.count_pos_iff.mpr h
      omega
    · next h =>
      have hzero : l.count a = 0 := List.count_eq_zero.mpr h
      rw [List.count_append, List.count_singleton_self, hzero]
      rfl
  | false => exact List.count_erase_self

theorem count_bring_ne (present : Bool) {a b : α} (h : b ≠ a) (l : List α) :
    (bring present a l).count b = l.count b := by
  unfold bring
  cases present with
  | true =>
    rw [if_pos rfl]
    split
    · rfl
    · rw [List.count_append, List.count_singleton, if_neg (by simpa using h.symm), Nat.add_zero]
  | false => exact List.count_erase_of_ne h

theorem filter_bring {q : α → Bool} (present : Bool) {a : α} (h : q a = false) (l : List α) :
    (bring present a l).filter q = l.filter q := by
  have hn : ¬ q a = true := ne_true_of_eq_false h
  unfold bring
  cases present with
  | true =>
    rw [if_pos rfl]
    split
    · rfl
    · rw [List.filter_append, List.filter_cons_of_neg hn, List.filter_nil, List.append_nil]
  | false =>
    show (l.erase a).filter q = l.filter q
    induction l with
    | nil => rfl
    | cons b l ih =>
      by_cases hb : b = a
      · subst hb
        rw [List.erase_cons_head, List.filter_cons_of_neg hn]
      · rw [List.erase_cons_tail (by simpa using hb), List.filter_cons, List.filter_cons, ih]

theorem nodup_bring (present : Bool) (a : α) {l : List α} (h : l.Nodup) :
    (bring present a l).Nodup := by
  unfold bring
  cases present with
  | true =>
    rw [if_pos rfl]
    split
    · exact h
    · next ha =>
      exact List.nodup_append'.mpr ⟨h, List.nodup_singleton a,
        fun b hb hba => ha (List.mem_singleton.mp hba ▸ hb)⟩
  | false => exact h.erase a

/-! ## Tables -/

variable {present : κ → Bool} {table : List (κ × α)}

theorem count_bringAll_of_notMem {a : α} (h : a ∉ table.map Prod.snd) (l : List α) :
    (bringAll present table l).count a = l.count a := by
  unfold bringAll
  induction table generalizing l with
  | nil => rfl
  | cons entry table ih =>
    rw [List.map_cons, List.mem_cons, not_or] at h
    rw [List.foldl_cons, ih h.2, count_bring_ne _ h.1]

theorem count_bringAll (hd : (table.map Prod.snd).Nodup) {k : κ} {a : α} (h : (k, a) ∈ table)
    (l : List α) : (bringAll present table l).count a =
      if present k then max (l.count a) 1 else l.count a - 1 := by
  unfold bringAll
  induction table generalizing l with
  | nil => cases h
  | cons entry table ih =>
    rw [List.map_cons, List.nodup_cons] at hd
    rw [List.foldl_cons]
    rcases List.mem_cons.mp h with rfl | h
    · rw [← count_bring_self]
      exact count_bringAll_of_notMem hd.1 _
    · have hne : a ≠ entry.2 := by
        intro he
        exact hd.1 (he ▸ List.mem_map_of_mem h)
      rw [ih hd.2 h, count_bring_ne _ hne]

theorem count_iterate_bringAll_of_notMem {a : α} (h : a ∉ table.map Prod.snd) (n : Nat)
    (l : List α) : ((bringAll present table)^[n] l).count a = l.count a := by
  induction n with
  | zero => rfl
  | succ n ih => rw [Function.iterate_succ_apply', count_bringAll_of_notMem h, ih]

theorem count_iterate_bringAll (hd : (table.map Prod.snd).Nodup) {k : κ} {a : α}
    (h : (k, a) ∈ table) (n : Nat) (l : List α) : ((bringAll present table)^[n + 1] l).count a =
      if present k then max (l.count a) 1 else l.count a - (n + 1) := by
  induction n with
  | zero => exact count_bringAll hd h l
  | succ n ih =>
    rw [Function.iterate_succ_apply', count_bringAll hd h, ih]
    split <;> omega

theorem filter_bringAll {q : α → Bool} (h : ∀ entry ∈ table, q entry.2 = false) (l : List α) :
    (bringAll present table l).filter q = l.filter q := by
  unfold bringAll
  induction table generalizing l with
  | nil => rfl
  | cons entry table ih =>
    rw [List.foldl_cons, ih fun e he => h e (List.mem_cons_of_mem _ he),
      filter_bring _ (h entry List.mem_cons_self)]

theorem nodup_bringAll {l : List α} (h : l.Nodup) : (bringAll present table l).Nodup := by
  unfold bringAll
  induction table generalizing l with
  | nil => exact h
  | cons entry table ih => exact ih (nodup_bring _ _ h)

end RockchipHal
