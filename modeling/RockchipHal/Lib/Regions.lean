import RockchipHal.Lib.AddressSpace
import RockchipHal.Lib.Bytes

/-!
# Pieces written to regions that share no byte

Where no two regions share a byte (`Backed`), each keeps what was written to it, in whatever
order the writes come:

    Backed (· < mem.length) (ws.map region) → w ∈ ws → slice (writeAll mem ws) w.1 w.2.length = w.2
                                                                             (slice_writeAll)

Regions one after the other are such regions (`backed_consecutive`).  When their places are
computed modulo `m` they are so only as long as no place has wrapped around
(`backed_wrapped_iff`).
-/

namespace RockchipHal

variable {α : Type}

/-- A piece `w.2` goes to `w.1`; the pieces in order. -/
def writeAll (mem : List α) (ws : List (Nat × List α)) : List α :=
  ws.foldl (fun mem w => memWrite mem w.1 w.2) mem

/-- Where a piece goes. -/
def region (w : Nat × List α) : Nat × Nat := (w.1, w.2.length)

@[simp] theorem length_writeAll (ws : List (Nat × List α)) : ∀ mem : List α,
    (writeAll mem ws).length = mem.length := by
  induction ws with
  | nil =>
    intro mem
    rfl
  | cons w ws ih =>
    intro mem
    show (writeAll (memWrite mem w.1 w.2) ws).length = mem.length
    rw [ih, length_memWrite]

theorem getElem?_memWrite_inside (mem : List α) (w : Nat × List α) {i : Nat} (hi : i < w.2.length)
    (hmem : w.1 + i < mem.length) : (memWrite mem w.1 w.2)[w.1 + i]? = w.2[i]? := by
  rw [getElem?_memWrite, List.getElem?_eq_getElem hmem, Option.map_some, if_pos (by omega),
    Nat.add_sub_cancel_left, List.getD_eq_getElem?_getD, List.getElem?_eq_getElem hi,
    Option.getD_some]

theorem getElem?_memWrite_outside (mem : List α) {w : Nat × List α} {a : Nat}
    (h : ¬ InRegion (region w) a) : (memWrite mem w.1 w.2)[a]? = mem[a]? := by
  rw [getElem?_memWrite]
  cases mem[a]? with
  | none => rfl
  | some b =>
    rw [Option.map_some]
    by_cases hlow : w.1 ≤ a
    · have hhigh : w.2.length ≤ a - w.1 := by
        by_contra hlt
        exact h ⟨hlow, show a < w.1 + w.2.length by omega⟩
      rw [if_pos hlow, List.getD_eq_getElem?_getD, List.getElem?_eq_none hhigh, Option.getD_none]
    · rw [if_neg hlow]

/-- What no piece is written to is kept. -/
theorem getElem?_writeAll_outside (ws : List (Nat × List α)) {a : Nat}
    (h : ∀ w ∈ ws, ¬ InRegion (region w) a) : ∀ mem : List α,
    (writeAll mem ws)[a]? = mem[a]? := by
  induction ws with
  | nil =>
    intro mem
    rfl
  | cons w ws ih =>
    intro mem
    show (writeAll (memWrite mem w.1 w.2) ws)[a]? = mem[a]?
    rw [ih (fun v hv => h v (List.mem_cons_of_mem w hv)),
      getElem?_memWrite_outside mem (h w List.mem_cons_self)]

theorem Backed.perm {live : Nat → Prop} {rs rs' : List (Nat × Nat)} (h : Backed live rs)
    (hp : rs'.Perm rs) : Backed live rs' where
  mapped := fun r hr => h.mapped r (hp.subset hr)
  disjoint := by
    refine (hp.pairwise_iff ?_).mpr h.disjoint
    intro r r' hr a har' har
    exact hr a har har'

/-- Every piece is there in the end. -/
theorem getElem?_writeAll (ws : List (Nat × List α)) : ∀ mem : List α,
    Backed (fun a => a < mem.length) (ws.map region) → ∀ w ∈ ws, ∀ i, i < w.2.length →
      (writeAll mem ws)[w.1 + i]? = w.2[i]? := by
  induction ws with
  | nil =>
    intro mem _ w hw
    cases hw
  | cons v ws ih =>
    intro mem h w hw i hi
    show (writeAll (memWrite mem v.1 v.2) ws)[w.1 + i]? = w.2[i]?
    have hin : InRegion (region w) (w.1 + i) :=
      ⟨Nat.le_add_right _ _, show w.1 + i < w.1 + w.2.length by omega⟩
    rcases List.mem_cons.mp hw with rfl | hmem
    · -- the pieces after it go elsewhere
      have hapart := (List.pairwise_cons.mp h.disjoint).1
      rw [getElem?_writeAll_outside ws fun u hu => hapart _ (List.mem_map_of_mem hu) _ hin]
      exact getElem?_memWrite_inside mem w hi (h.mapped _ List.mem_cons_self _ hin)
    · refine ih _ ?_ w hmem i hi
      rw [length_memWrite]
      exact h.sublist (List.sublist_cons_self _ _)

theorem slice_writeAll {mem : List α} {ws : List (Nat × List α)}
    (h : Backed (fun a => a < mem.length) (ws.map region)) {w : Nat × List α} (hw : w ∈ ws) :
    slice (writeAll mem ws) w.1 w.2.length = w.2 := by
  apply List.ext_getElem?
  intro i
  unfold slice
  rw [List.getElem?_take, List.getElem?_drop]
  by_cases hi : i < w.2.length
  · rw [if_pos hi, getElem?_writeAll ws mem h w hw i hi]
  · rw [if_neg hi, List.getElem?_eq_none (by omega)]

/-! ## Consecutive regions -/

theorem offset_succ (sizes : List Nat) (i : Nat) (hi : i < sizes.length) :
    offset sizes (i + 1) = offset sizes i + sizes[i] := by
  unfold offset
  rw [List.take_succ_eq_append_getElem hi, List.sum_append, List.sum_singleton]

theorem offset_mono (sizes : List Nat) {i j : Nat} (hij : i ≤ j) :
    offset sizes i ≤ offset sizes j := by
  have htake : sizes.take i = (sizes.take j).take i := by
    rw [List.take_take, Nat.min_eq_left hij]
  unfold offset
  rw [htake]
  exact offset_le_sum (sizes.take j) i

/-- The regions of these sizes one after the other. -/
def consecutive (sizes : List Nat) : List (Nat × Nat) :=
  sizes.mapIdx fun i n => (offset sizes i, n)

theorem backed_consecutive (sizes : List Nat) {total : Nat} (h : sizes.sum ≤ total) :
    Backed (fun a => a < total) (consecutive sizes) where
  mapped := by
    intro r hr a ha
    obtain ⟨i, hi, rfl⟩ := List.mem_mapIdx.mp hr
    have hend : offset sizes (i + 1) ≤ sizes.sum := offset_le_sum sizes (i + 1)
    rw [offset_succ sizes i hi] at hend
    have hlt : a < offset sizes i + sizes[i] := ha.2
    show a < total
    omega
  disjoint := by
    rw [List.pairwise_iff_getElem]
    intro i j hi hj hij a hai haj
    unfold consecutive at hi hj hai haj
    rw [List.length_mapIdx] at hi hj
    rw [List.getElem_mapIdx] at hai haj
    have hle : offset sizes (i + 1) ≤ offset sizes j := offset_mono sizes hij
    rw [offset_succ sizes i hi] at hle
    have hlt : a < offset sizes i + sizes[i] := hai.2
    have hge : offset sizes j ≤ a := haj.1
    omega

/-- The regions before region `i` leave no gap. -/
theorem exists_inRegion_of_lt (sizes : List Nat) {a : Nat} : ∀ i, a < offset sizes i →
    ∃ (j : Nat) (n : Nat), j < i ∧ sizes[j]? = some n ∧ InRegion (offset sizes j, n) a := by
  intro i
  induction i with
  | zero =>
    intro ha
    rw [offset_zero] at ha
    omega
  | succ i ih =>
    intro ha
    rcases Nat.lt_or_ge a (offset sizes i) with hbefore | hfrom
    · obtain ⟨j, n, hj, hn, hin⟩ := ih hbefore
      exact ⟨j, n, Nat.lt_succ_of_lt hj, hn, hin⟩
    · have hi : i < sizes.length := by
        by_contra hge
        have hall : offset sizes (i + 1) = offset sizes i := by
          unfold offset
          rw [List.take_of_length_le (by omega), List.take_of_length_le (by omega)]
        omega
      rw [offset_succ sizes i hi] at ha
      exact ⟨i, sizes[i], Nat.lt_succ_self i, List.getElem?_eq_getElem hi, hfrom, ha⟩

/-! ## Offsets that wrap around -/

/-- The regions of these sizes, at their places one after the other modulo `m`. -/
def wrapped (m : Nat) (sizes : List Nat) : List (Nat × Nat) :=
  sizes.mapIdx fun i n => (offset sizes i % m, n)

theorem mem_wrapped {m : Nat} {sizes : List Nat} {i n : Nat} (h : sizes[i]? = some n) :
    (offset sizes i % m, n) ∈ wrapped m sizes := by
  obtain ⟨hi, rfl⟩ := List.getElem?_eq_some_iff.mp h
  exact List.mem_mapIdx.mpr ⟨i, hi, rfl⟩

/-- A byte of a region, where no region that has bytes begins at `m` or behind it. -/
theorem inRegion_wrapped {m : Nat} {sizes : List Nat}
    (h : ∀ (i n : Nat), sizes[i]? = some n → 0 < n → offset sizes i < m) {i : Nat}
    (hi : i < sizes.length) {a : Nat} (ha : InRegion (offset sizes i % m, sizes[i]) a) :
    InRegion (offset sizes i, sizes[i]) a := by
  obtain ⟨hlow, hhigh⟩ := ha
  have hlow : offset sizes i % m ≤ a := hlow
  have hhigh : a < offset sizes i % m + sizes[i] := hhigh
  have hlt := h i sizes[i] (List.getElem?_eq_getElem hi) (by omega)
  rw [Nat.mod_eq_of_lt hlt] at hlow hhigh
  exact ⟨hlow, hhigh⟩

/-- Regions whose places wrap around share no byte exactly when none that has bytes has
wrapped: the regions before it fill the space up to `m`.  They are in the first `total` bytes
when all of them together are not longer. -/
theorem backed_wrapped_iff {m : Nat} (hm : 0 < m) (sizes : List Nat) (total : Nat) :
    Backed (fun a => a < total) (wrapped m sizes) ↔
      (∀ (i n : Nat), sizes[i]? = some n → 0 < n → offset sizes i < m) ∧ sizes.sum ≤ total := by
  constructor
  · intro h
    have hplace : ∀ (i n : Nat), sizes[i]? = some n → 0 < n → offset sizes i < m := by
      intro i n hn hpos
      by_contra hge
      have hplace : offset sizes i % m < m := Nat.mod_lt _ hm
      -- the place it wraps to is in a region before it
      obtain ⟨j, k, hj, hk, hin⟩ := exists_inRegion_of_lt sizes (a := offset sizes i % m) i
        (by omega)
      have hstart : offset sizes j ≤ offset sizes i % m := hin.1
      have hexact : offset sizes j % m = offset sizes j := Nat.mod_eq_of_lt (by omega)
      obtain ⟨hi, rfl⟩ := List.getElem?_eq_some_iff.mp hn
      obtain ⟨hjlt, rfl⟩ := List.getElem?_eq_some_iff.mp hk
      have hapart := List.pairwise_iff_getElem.mp h.disjoint j i
        (by simpa [wrapped] using hjlt) (by simpa [wrapped] using hi) hj (offset sizes i % m)
      unfold wrapped at hapart
      rw [List.getElem_mapIdx, List.getElem_mapIdx, hexact] at hapart
      exact hapart hin ⟨Nat.le_refl _, show _ < _ + _ by omega⟩
    refine ⟨hplace, ?_⟩
    by_contra hlong
    have hend : total < offset sizes sizes.length := by
      unfold offset
      rw [List.take_length]
      omega
    obtain ⟨j, k, -, hk, hin⟩ := exists_inRegion_of_lt sizes sizes.length hend
    have hlow : offset sizes j ≤ total := hin.1
    have hhigh : total < offset sizes j + k := hin.2
    have hexact : offset sizes j % m = offset sizes j :=
      Nat.mod_eq_of_lt (hplace j k hk (by omega))
    have hmapped := h.mapped _ (mem_wrapped hk) total (by rw [hexact]; exact hin)
    exact Nat.lt_irrefl _ hmapped
  · rintro ⟨hplace, htotal⟩
    have hbacked := backed_consecutive sizes htotal
    refine ⟨?_, ?_⟩
    · intro r hr a ha
      obtain ⟨i, hi, rfl⟩ := List.mem_mapIdx.mp hr
      exact hbacked.mapped _ (List.mem_mapIdx.mpr ⟨i, hi, rfl⟩) a (inRegion_wrapped hplace hi ha)
    · rw [List.pairwise_iff_getElem]
      intro i j hi hj hij a hai haj
      unfold wrapped at hi hj hai haj
      rw [List.length_mapIdx] at hi hj
      rw [List.getElem_mapIdx] at hai haj
      have hapart := List.pairwise_iff_getElem.mp hbacked.disjoint i j
        (by simpa [consecutive] using hi) (by simpa [consecutive] using hj) hij a
      unfold consecutive at hapart
      rw [List.getElem_mapIdx, List.getElem_mapIdx] at hapart
      exact hapart (inRegion_wrapped hplace hi hai) (inRegion_wrapped hplace hj haj)

/-- The regions end less than the longest of them behind `m`. -/
theorem sum_lt_of_offset_lt {m k : Nat} (hm : 0 < m) {sizes : List Nat}
    (h : ∀ (i n : Nat), sizes[i]? = some n → 0 < n → offset sizes i < m)
    (hk : ∀ n ∈ sizes, n < k) : sizes.sum < m + k := by
  by_contra hlong
  have hend : m + k - 1 < offset sizes sizes.length := by
    unfold offset
    rw [List.take_length]
    omega
  obtain ⟨j, n, -, hn, hlow, hhigh⟩ := exists_inRegion_of_lt sizes sizes.length hend
  have hlow : offset sizes j ≤ m + k - 1 := hlow
  have hhigh : m + k - 1 < offset sizes j + n := hhigh
  have hsize := hk n (List.mem_of_getElem? hn)
  have hplace := h j n hn
  omega

/-! ## Pieces -/

/-- The pieces, each with its place when they lie one after the other. -/
def placed (ls : List (List α)) : List (Nat × List α) :=
  ls.mapIdx fun i l => (offset (ls.map List.length) i, l)

theorem map_region_placed (ls : List (List α)) :
    (placed ls).map region = consecutive (ls.map List.length) := by
  apply List.ext_getElem
  · simp [placed, consecutive]
  · intro i _ _
    simp [placed, consecutive, region]

theorem map_snd_consecutive (sizes : List Nat) : (consecutive sizes).map Prod.snd = sizes := by
  apply List.ext_getElem
  · simp [consecutive]
  · intro i _ _
    simp [consecutive]

theorem zip_consecutive (ls : List (List α)) :
    ((consecutive (ls.map List.length)).map Prod.fst).zip ls = placed ls := by
  apply List.ext_getElem
  · simp [placed, consecutive]
  · intro i _ _
    simp [placed, consecutive]

/-- Written in any order to consecutive regions, the pieces are found there. -/
theorem slices_writeAll {mem : List α} {ls : List (List α)} {ws : List (Nat × List α)}
    (hws : ws.Perm (placed ls)) (hsum : (ls.map List.length).sum ≤ mem.length) :
    slices (writeAll mem ws) ls = ls := by
  have hbacked : Backed (fun a => a < mem.length) (ws.map region) := by
    refine Backed.perm ?_ (hws.map region)
    rw [map_region_placed]
    exact backed_consecutive _ hsum
  unfold slices
  apply List.ext_getElem
  · exact List.length_mapIdx
  · intro i _ hi
    have hmem : (offset (ls.map List.length) i, ls[i]) ∈ ws :=
      hws.symm.subset (List.mem_mapIdx.mpr ⟨i, hi, rfl⟩)
    rw [List.getElem_mapIdx]
    exact slice_writeAll hbacked hmem

end RockchipHal
