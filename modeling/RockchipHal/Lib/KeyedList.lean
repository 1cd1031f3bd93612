import Mathlib.Data.List.Nodup

/-!
# Lists searched by a key

Entries live in a list and are found by a key; `Distinct` says that no two have
the same one.  Pushing an entry with a new key, and leaving entries out, keep keys
distinct; changing an entry in place keeps every field the change keeps
(`map_modifyKey`, `Distinct.modifyKey_eq_map`).  A table of keys and values has the value
last put under a key (`lookup_putKey`).
-/

namespace RockchipHal

variable {α κ : Type} {key : α → κ}

/-! ## Distinct keys -/

/-- No two entries have the same key. -/
def Distinct (key : α → κ) (l : List α) : Prop := (l.map key).Nodup

theorem distinct_nil : Distinct key ([] : List α) := List.nodup_nil

theorem distinct_cons (a : α) (l : List α) :
    Distinct key (a :: l) ↔ (∀ b ∈ l, key b ≠ key a) ∧ Distinct key l := by
  unfold Distinct
  rw [List.map_cons, List.nodup_cons, List.mem_map]
  constructor
  · rintro ⟨h1, h2⟩
    exact ⟨fun b hb he => h1 ⟨b, hb, he⟩, h2⟩
  · rintro ⟨h1, h2⟩
    exact ⟨fun ⟨b, hb, he⟩ => h1 b hb he, h2⟩

theorem distinct_push (l : List α) (a : α) :
    Distinct key (l ++ [a]) ↔ Distinct key l ∧ ∀ b ∈ l, key b ≠ key a := by
  induction l with
  | nil => simp [distinct_cons, distinct_nil]
  | cons c l ih =>
    rw [List.cons_append, distinct_cons, distinct_cons, ih]
    simp only [List.mem_append, List.mem_singleton, List.forall_mem_cons]
    constructor
    · rintro ⟨h1, h2, h3⟩
      exact ⟨⟨fun b hb => h1 b (Or.inl hb), h2⟩, fun he => h1 a (Or.inr rfl) he.symm, h3⟩
    · rintro ⟨⟨h1, h2⟩, h3, h4⟩
      refine ⟨fun b hb => ?_, h2, h4⟩
      rcases hb with hb | rfl
      · exact h1 b hb
      · exact fun he => h3 he.symm

theorem Distinct.sublist {l l' : List α} (h : Distinct key l) (hs : l'.Sublist l) :
    Distinct key l' :=
  List.Nodup.sublist (hs.map key) h

/-! ## Finding and erasing -/

variable [DecidableEq κ]

/-- With distinct keys, the entry found is the only one with its key. -/
theorem Distinct.find?_eq_some_iff {l : List α} (h : Distinct key l) (k : κ) (a : α) :
    l.find? (fun b => key b = k) = some a ↔ a ∈ l ∧ key a = k := by
  constructor
  · intro hf
    exact ⟨List.mem_of_find?_eq_some hf, by simpa using List.find?_some hf⟩
  · rintro ⟨ha, rfl⟩
    induction l with
    | nil => cases ha
    | cons b l ih =>
      rw [distinct_cons] at h
      rcases List.mem_cons.mp ha with rfl | ha
      · simp
      · have hne : ¬ key b = key a := fun he => h.1 a ha he.symm
        rw [List.find?_cons_of_neg (by simpa using hne), ih h.2 ha]

theorem find?_eq_none_iff_key (l : List α) (k : κ) :
    l.find? (fun b => key b = k) = none ↔ ∀ b ∈ l, key b ≠ k := by
  rw [List.find?_eq_none]
  simp

/-- With distinct keys, the entry found is all a filter by its key leaves. -/
theorem Distinct.filter_key {l : List α} (h : Distinct key l) (k : κ) :
    l.filter (fun b => key b = k) = (l.find? fun b => key b = k).toList := by
  induction l with
  | nil => rfl
  | cons a l ih =>
    rw [distinct_cons] at h
    by_cases ha : key a = k
    · have hrest : l.filter (fun b => key b = k) = [] :=
        List.filter_eq_nil_iff.mpr fun b hb => by simpa [ha] using h.1 b hb
      rw [List.filter_cons_of_pos (by simpa using ha), List.find?_cons_of_pos (by simpa using ha),
        hrest, Option.toList_some]
    · rw [List.filter_cons_of_neg (by simpa using ha), List.find?_cons_of_neg (by simpa using ha),
        ih h.2]

/-- With distinct keys, leaving out by an entry's key leaves out that entry. -/
theorem Distinct.perm_filter_ne {l : List α} (h : Distinct key l) {a : α} (ha : a ∈ l) :
    l.Perm (a :: l.filter fun b => key b ≠ key a) := by
  have hone : l.filter (fun b => key b = key a) = [a] := by
    rw [h.filter_key, (h.find?_eq_some_iff (key a) a).mpr ⟨ha, rfl⟩, Option.toList_some]
  have hparts := List.filter_append_perm (fun b => decide (key b = key a)) l
  rw [hone] at hparts
  simpa using hparts.symm

/-- After erasing the first entry with a key, distinct keys leave none with it. -/
theorem Distinct.eraseP_ne {l : List α} (h : Distinct key l) (k : κ) :
    ∀ b ∈ l.eraseP (fun b => key b = k), key b ≠ k := by
  induction l with
  | nil =>
    intro b hb
    cases hb
  | cons a l ih =>
    rw [distinct_cons] at h
    intro b hb
    by_cases ha : key a = k
    · rw [List.eraseP_cons_of_pos (by simpa using ha)] at hb
      rw [← ha]
      exact h.1 b hb
    · rw [List.eraseP_cons_of_neg (by simpa using ha)] at hb
      rcases List.mem_cons.mp hb with rfl | hb
      · exact ha
      · exact ih h.2 b hb

/-! ## Changing an entry in place -/

/-- Changes the first entry with key `k`. -/
def modifyKey (key : α → κ) (k : κ) (f : α → α) : List α → List α
  | [] => []
  | a :: l => if key a = k then f a :: l else a :: modifyKey key k f l

theorem map_modifyKey {β : Type} (g : α → β) (k : κ) (f : α → α) (l : List α)
    (hf : ∀ a ∈ l, key a = k → g (f a) = g a) : (modifyKey key k f l).map g = l.map g := by
  induction l with
  | nil => rfl
  | cons a l ih =>
    unfold modifyKey
    by_cases ha : key a = k
    · rw [if_pos ha, List.map_cons, List.map_cons, hf a List.mem_cons_self ha]
    · rw [if_neg ha, List.map_cons, List.map_cons,
        ih fun b hb => hf b (List.mem_cons_of_mem a hb)]

/-- With distinct keys, at most one entry is changed. -/
theorem Distinct.modifyKey_eq_map {l : List α} (h : Distinct key l) (k : κ) (f : α → α) :
    modifyKey key k f l = l.map fun a => if key a = k then f a else a := by
  induction l with
  | nil => rfl
  | cons a l ih =>
    rw [distinct_cons] at h
    unfold modifyKey
    rw [List.map_cons]
    by_cases ha : key a = k
    · have hrest : (l.map fun b => if key b = k then f b else b) = l.map id :=
        List.map_congr_left fun b hb => if_neg fun hk => h.1 b hb (hk.trans ha.symm)
      rw [if_pos ha, if_pos ha, hrest, List.map_id]
    · rw [if_neg ha, if_neg ha, ih h.2]

/-! ## Tables -/

/-- A value put under a key, in place of an older one. -/
def putKey {ν : Type} (table : List (κ × ν)) (k : κ) (v : ν) : List (κ × ν) :=
  (k, v) :: table.filter fun e => e.1 ≠ k

theorem lookup_filter_ne {ν : Type} (table : List (κ × ν)) {j k : κ} (h : j ≠ k) :
    (table.filter fun e => e.1 ≠ k).lookup j = table.lookup j := by
  induction table with
  | nil => rfl
  | cons e table ih =>
    obtain ⟨i, v⟩ := e
    by_cases hi : i = k
    · have hj : (j == i) = false := beq_false_of_ne (hi ▸ h)
      rw [List.filter_cons_of_neg (by simpa using hi), ih, List.lookup_cons, hj]
    · rw [List.filter_cons_of_pos (by simpa using hi), List.lookup_cons, List.lookup_cons, ih]

theorem lookup_putKey {ν : Type} (table : List (κ × ν)) (k : κ) (v : ν) (j : κ) :
    (putKey table k v).lookup j = if j = k then some v else table.lookup j := by
  unfold putKey
  rw [List.lookup_cons]
  by_cases h : j = k
  · rw [if_pos h, beq_iff_eq.mpr h]
  · rw [if_neg h, beq_false_of_ne h, lookup_filter_ne table h]

end RockchipHal
