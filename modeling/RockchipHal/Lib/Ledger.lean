import RockchipHal.Lib.KeyedList

/-!
# Ledgers of acquired and released resources

A ledger is the trace of what was acquired and released, oldest first; a
resource is anything with decidable equality (a reference on an object, a file
descriptor, a mapping).  `outstanding` is what is still held of one resource,
`Paired` says that nothing was released that was not held, `Settled` that
nothing is left.  A `GivesBack` ledger acquires each resource once and releases it once; such ledgers
follow each other and nest (`GivesBack.append`, `GivesBack.nest`).

`Balances tr held` says that the ledger is paired and leaves just what is listed; it is kept by
listing what is acquired and unlisting what is released, and a ledger that balances with the
empty list is settled (`Balances.settled`).

A client that names resources by a key keeps a ledger of keys.  `Tracks` says that
it agrees with the ledger of the resources: each key names one listed resource,
as much of which is outstanding as of the key.  It is kept by listing a resource
under a new key, by acquiring and releasing listed ones, and by unlisting those
with nothing outstanding; then the two ledgers are settled together
(`Tracks.settled`).
-/

namespace RockchipHal

/-- One entry of a ledger. -/
inductive Tx (ρ : Type)
  | acquire (r : ρ)
  | release (r : ρ)
deriving DecidableEq, Repr

variable {ρ : Type} [DecidableEq ρ]

/-- How often `r` was acquired and not yet released. -/
def outstanding (tr : List (Tx ρ)) (r : ρ) : Int :=
  (tr.count (.acquire r) : Int) - tr.count (.release r)

/-- Every release was of a resource held at that moment. -/
def Paired (tr : List (Tx ρ)) : Prop :=
  ∀ pre r post, tr = pre ++ .release r :: post → 0 < outstanding pre r

/-- Nothing is held any more. -/
def Settled (tr : List (Tx ρ)) : Prop := ∀ r, outstanding tr r = 0

@[simp] theorem outstanding_nil (r : ρ) : outstanding [] r = 0 := by
  simp [outstanding]

theorem outstanding_acquire (tr : List (Tx ρ)) (r r' : ρ) :
    outstanding (tr ++ [.acquire r]) r' = outstanding tr r' + if r = r' then 1 else 0 := by
  unfold outstanding
  by_cases h : r = r'
  · subst h
    simp [List.count_append]
    omega
  · simp [List.count_append, h]

theorem outstanding_release (tr : List (Tx ρ)) (r r' : ρ) :
    outstanding (tr ++ [.release r]) r' = outstanding tr r' - if r = r' then 1 else 0 := by
  unfold outstanding
  by_cases h : r = r'
  · subst h
    simp [List.count_append]
    omega
  · simp [List.count_append, h]

@[simp] theorem paired_nil : Paired ([] : List (Tx ρ)) := by
  intro pre r post h
  simp at h

/-- An occurrence of `x` in `tr ++ [a]` is one in `tr`, or is the new entry. -/
theorem append_singleton_split {β : Type} (tr : List β) (a x : β) (pre post : List β)
    (h : tr ++ [a] = pre ++ x :: post) :
    (post = [] ∧ x = a ∧ pre = tr) ∨ ∃ post', post = post' ++ [a] ∧ tr = pre ++ x :: post' := by
  rcases List.eq_nil_or_concat post with rfl | ⟨post', b, rfl⟩
  · obtain ⟨h1, h2⟩ := List.append_inj' h rfl
    left
    exact ⟨rfl, (List.cons.inj h2).1.symm, h1.symm⟩
  · right
    rw [List.concat_eq_append, ← List.cons_append, ← List.append_assoc] at h
    obtain ⟨h1, h2⟩ := List.append_inj' h rfl
    rw [(List.cons.inj h2).1]
    exact ⟨post', List.concat_eq_append, h1⟩

theorem paired_acquire (tr : List (Tx ρ)) (r : ρ) : Paired (tr ++ [.acquire r]) ↔ Paired tr := by
  constructor
  · intro h pre r' post he
    exact h pre r' (post ++ [.acquire r]) (by rw [he]; simp)
  · intro h pre r' post he
    rcases append_singleton_split _ _ _ _ _ he with ⟨-, hx, -⟩ | ⟨post', -, ht⟩
    · cases hx
    · exact h pre r' post' ht

theorem paired_release (tr : List (Tx ρ)) (r : ρ) :
    Paired (tr ++ [.release r]) ↔ Paired tr ∧ 0 < outstanding tr r := by
  constructor
  · intro h
    refine ⟨fun pre r' post he => ?_, h tr r [] rfl⟩
    exact h pre r' (post ++ [.release r]) (by rw [he]; simp)
  · rintro ⟨h, h0⟩ pre r' post he
    rcases append_singleton_split _ _ _ _ _ he with ⟨-, hx, rfl⟩ | ⟨post', -, ht⟩
    · cases hx
      exact h0
    · exact h pre r' post' ht

/-! ## Ledgers that give everything back -/

/-- All that was acquired was acquired once and released once, when it was held, and nothing else
was released. -/
structure GivesBack (tr : List (Tx ρ)) : Prop where
  once : ∀ r, .acquire r ∈ tr → tr.count (.acquire r) = 1 ∧ tr.count (.release r) = 1
  paired : Paired tr

theorem outstanding_append (tr tr' : List (Tx ρ)) (r : ρ) :
    outstanding (tr ++ tr') r = outstanding tr r + outstanding tr' r := by
  unfold outstanding
  rw [List.count_append, List.count_append]
  omega

/-- What is released was acquired before. -/
theorem Paired.acquired {tr : List (Tx ρ)} (h : Paired tr) {r : ρ} (hr : .release r ∈ tr) :
    .acquire r ∈ tr := by
  obtain ⟨pre, post, rfl⟩ := List.append_of_mem hr
  have hpos := h pre r post rfl
  have hcount : 0 < pre.count (.acquire r) := by
    unfold outstanding at hpos
    omega
  exact List.mem_append_left _ (List.count_pos_iff.mp hcount)

/-- A ledger goes on after one of which no less than nothing is outstanding. -/
theorem Paired.append {tr tr' : List (Tx ρ)} (h : Paired tr) (h' : Paired tr')
    (hle : ∀ r, 0 ≤ outstanding tr r) : Paired (tr ++ tr') := by
  intro pre r post he
  rcases List.append_eq_append_iff.mp he with ⟨mid, rfl, htr'⟩ | ⟨mid, rfl, hmid⟩
  · have hpos := h' mid r post htr'
    have hnonneg := hle r
    rw [outstanding_append]
    omega
  · rcases mid with _ | ⟨x, mid⟩
    · have hpos := h' [] r post hmid.symm
      simp at hpos
    · obtain ⟨rfl, -⟩ := List.cons.inj hmid
      exact h pre r mid rfl

namespace GivesBack

variable {tr tr' : List (Tx ρ)} {r : ρ}

theorem nil : GivesBack ([] : List (Tx ρ)) where
  once := by
    intro r h
    cases h
  paired := paired_nil

theorem outstanding_nonneg (h : GivesBack tr) (r : ρ) : 0 ≤ outstanding tr r := by
  unfold outstanding
  by_cases hacq : Tx.acquire r ∈ tr
  · obtain ⟨hacquired, hreleased⟩ := h.once r hacq
    omega
  · have hnone : tr.count (.release r) = 0 :=
      List.count_eq_zero.mpr fun hrel => hacq (h.paired.acquired hrel)
    omega

/-- One ledger after another, on other resources. -/
theorem append (h : GivesBack tr) (h' : GivesBack tr')
    (hother : ∀ r, .acquire r ∈ tr → .acquire r ∉ tr') : GivesBack (tr ++ tr') where
  once := by
    intro r hr
    rw [List.count_append, List.count_append]
    rcases List.mem_append.mp hr with hr | hr
    · have hother' := hother r hr
      have hnone : tr'.count (.release r) = 0 :=
        List.count_eq_zero.mpr fun hrel => hother' (h'.paired.acquired hrel)
      rw [(h.once r hr).1, (h.once r hr).2, List.count_eq_zero.mpr hother', hnone]
      exact ⟨rfl, rfl⟩
    · have hother' : .acquire r ∉ tr := fun hacq => hother r hacq hr
      have hnone : tr.count (.release r) = 0 :=
        List.count_eq_zero.mpr fun hrel => hother' (h.paired.acquired hrel)
      rw [(h'.once r hr).1, (h'.once r hr).2, List.count_eq_zero.mpr hother', hnone]
      exact ⟨rfl, rfl⟩
  paired := h.paired.append h'.paired h.outstanding_nonneg

/-- A resource held around a ledger on others. -/
theorem nest (h : GivesBack tr) (hr : .acquire r ∉ tr) :
    GivesBack (.acquire r :: (tr ++ [.release r])) where
  once := by
    intro r' hr'
    have hacquired : (Tx.acquire r :: (tr ++ [.release r])).count (.acquire r') =
        tr.count (.acquire r') + if r = r' then 1 else 0 := by
      rw [List.count_cons, List.count_append, List.count_singleton]
      simp
    have hreleased : (Tx.acquire r :: (tr ++ [.release r])).count (.release r') =
        tr.count (.release r') + if r = r' then 1 else 0 := by
      rw [List.count_cons_of_ne (by simp), List.count_append, List.count_singleton]
      simp
    rw [hacquired, hreleased]
    by_cases heq : r = r'
    · subst heq
      have hnone : tr.count (.release r) = 0 :=
        List.count_eq_zero.mpr fun hrel => hr (h.paired.acquired hrel)
      rw [List.count_eq_zero.mpr hr, hnone, if_pos rfl]
      exact ⟨rfl, rfl⟩
    · have hmem : .acquire r' ∈ tr := by
        rcases List.mem_cons.mp hr' with he | he
        · exact absurd (Tx.acquire.inj he).symm heq
        · simpa using he
      rw [if_neg heq]
      exact h.once r' hmem
  paired := by
    have hhead : Paired ([.acquire r] ++ tr) := by
      refine Paired.append ((paired_acquire [] r).mpr paired_nil) h.paired fun r' => ?_
      have hone := outstanding_acquire ([] : List (Tx ρ)) r r'
      rw [List.nil_append, outstanding_nil] at hone
      rw [hone]
      split <;> omega
    refine (paired_release ([.acquire r] ++ tr) r).mpr ⟨hhead, ?_⟩
    have hone : outstanding [Tx.acquire r] r = 1 := by simp [outstanding]
    have hnonneg := h.outstanding_nonneg r
    rw [outstanding_append, hone]
    omega

end GivesBack

/-! ## What a ledger leaves held -/

theorem Paired.of_append {tr tr' : List (Tx ρ)} (h : Paired (tr ++ tr')) : Paired tr := by
  intro pre r post he
  exact h pre r (post ++ tr') (by rw [he, List.append_assoc, List.cons_append])

/-- The ledger is paired, and what it leaves is what is listed, as often as it is listed. -/
structure Balances (tr : List (Tx ρ)) (held : List ρ) : Prop where
  balance : ∀ r, outstanding tr r = held.count r
  paired : Paired tr

namespace Balances

variable {tr : List (Tx ρ)} {held held' : List ρ} {r : ρ}

theorem nil : Balances ([] : List (Tx ρ)) [] where
  balance := fun r => outstanding_nil r
  paired := paired_nil

theorem perm (h : Balances tr held) (hp : held.Perm held') : Balances tr held' where
  balance := by
    intro r
    rw [h.balance r, hp.count_eq]
  paired := h.paired

theorem acquire (h : Balances tr held) (r : ρ) : Balances (tr ++ [.acquire r]) (r :: held) where
  balance := by
    intro r'
    rw [outstanding_acquire, h.balance r', List.count_cons]
    by_cases hr : r = r'
    · rw [if_pos hr, if_pos (by rw [hr, beq_self_eq_true])]
      rfl
    · rw [if_neg hr, if_neg (by simpa using hr)]
      rfl
  paired := (paired_acquire tr r).mpr h.paired

theorem release (h : Balances tr (r :: held)) : Balances (tr ++ [.release r]) held where
  balance := by
    intro r'
    rw [outstanding_release, h.balance r', List.count_cons]
    by_cases hr : r = r'
    · rw [if_pos hr, if_pos (by rw [hr, beq_self_eq_true])]
      omega
    · rw [if_neg hr, if_neg (by simpa using hr)]
      omega
  paired := by
    refine (paired_release tr r).mpr ⟨h.paired, ?_⟩
    rw [h.balance r, List.count_cons_self]
    omega

theorem acquireAll (l : List ρ) :
    ∀ {tr : List (Tx ρ)} {held : List ρ}, Balances tr held →
      Balances (tr ++ l.map .acquire) (l ++ held) := by
  induction l with
  | nil =>
    intro tr held h
    rw [List.map_nil, List.append_nil]
    exact h
  | cons r l ih =>
    intro tr held h
    have hrest := ih (h.acquire r)
    rw [List.append_assoc] at hrest
    exact hrest.perm List.perm_middle

theorem releaseAll (l : List ρ) :
    ∀ {tr : List (Tx ρ)}, Balances tr (l ++ held) → Balances (tr ++ l.map .release) held := by
  induction l with
  | nil =>
    intro tr h
    rw [List.map_nil, List.append_nil]
    exact h
  | cons r l ih =>
    intro tr h
    have hrest := ih (release h)
    rw [List.append_assoc] at hrest
    exact hrest

theorem settled (h : Balances tr []) : Settled tr := fun r => h.balance r

theorem settled_iff (h : Balances tr held) : Settled tr ↔ held = [] := by
  constructor
  · intro hsettled
    refine List.eq_nil_iff_forall_not_mem.mpr fun r hr => ?_
    have hzero := hsettled r
    have hcount := List.count_pos_iff.mpr hr
    rw [h.balance r] at hzero
    omega
  · rintro rfl
    exact h.settled

/-- One ledger after another leaves what both leave. -/
theorem append {tr' : List (Tx ρ)} (h : Balances tr held) (h' : Balances tr' held') :
    Balances (tr ++ tr') (held' ++ held) where
  balance := by
    intro r
    rw [outstanding_append, h.balance r, h'.balance r, List.count_append]
    omega
  paired := by
    refine h.paired.append h'.paired fun r => ?_
    rw [h.balance r]
    omega

end Balances

/-! ## Two ledgers -/

variable {κ : Type} [DecidableEq κ]

/-- The resources `held` are listed by distinct keys; of each as much is outstanding
as of its key, of anything else nothing. -/
structure Tracks (key : ρ → κ) (held : List ρ) (refs : List (Tx ρ)) (ids : List (Tx κ)) : Prop where
  distinct : Distinct key held
  listed : ∀ b ∈ held, outstanding refs b = outstanding ids (key b)
  unlisted : ∀ b, b ∉ held → outstanding refs b = 0
  idle : ∀ k, (∀ b ∈ held, key b ≠ k) → outstanding ids k = 0
  paired : Paired refs

namespace Tracks

variable {key : ρ → κ} {held held' : List ρ} {refs : List (Tx ρ)} {ids : List (Tx κ)} {b : ρ}

theorem nil : Tracks key ([] : List ρ) [] [] where
  distinct := distinct_nil
  listed := by simp
  unlisted := by simp
  idle := by simp
  paired := paired_nil

/-- Two listed resources with one key are one. -/
theorem eq_of_key (h : Tracks key held refs ids) {a : ρ} (ha : a ∈ held) (hb : b ∈ held)
    (hk : key a = key b) : a = b := by
  have h1 := (h.distinct.find?_eq_some_iff (key b) a).mpr ⟨ha, hk⟩
  have h2 := (h.distinct.find?_eq_some_iff (key b) b).mpr ⟨hb, rfl⟩
  rw [h1] at h2
  exact Option.some.inj h2

/-- A key with something outstanding is that of a listed resource. -/
theorem held_of_pos (h : Tracks key held refs ids) {k : κ} (hpos : 0 < outstanding ids k) :
    ∃ b ∈ held, key b = k := by
  by_contra hno
  have hidle := h.idle k fun b hb hk => hno ⟨b, hb, hk⟩
  omega

theorem extend (h : Tracks key held refs ids) (hnew : ∀ a ∈ held, key a ≠ key b) :
    Tracks key (held ++ [b]) refs ids where
  distinct := (distinct_push held b).mpr ⟨h.distinct, hnew⟩
  listed := by
    intro a ha
    rcases List.mem_append.mp ha with ha | ha
    · exact h.listed a ha
    · rw [List.mem_singleton.mp ha, h.idle _ hnew, h.unlisted b fun hb => hnew b hb rfl]
  unlisted := fun a ha => h.unlisted a fun hm => ha (List.mem_append_left _ hm)
  idle := fun k hk => h.idle k fun a ha => hk a (List.mem_append_left _ ha)
  paired := h.paired

theorem acquire (h : Tracks key held refs ids) (hb : b ∈ held) :
    Tracks key held (refs ++ [.acquire b]) (ids ++ [.acquire (key b)]) where
  distinct := h.distinct
  listed := by
    intro a ha
    rw [outstanding_acquire, outstanding_acquire, h.listed a ha]
    by_cases hab : b = a
    · rw [if_pos hab, if_pos (by rw [hab])]
    · rw [if_neg hab, if_neg fun hk => hab (h.eq_of_key hb ha hk)]
  unlisted := by
    intro a ha
    have hab : b ≠ a := fun hab => ha (hab ▸ hb)
    rw [outstanding_acquire, h.unlisted a ha, if_neg hab, Int.add_zero]
  idle := by
    intro k hk
    rw [outstanding_acquire, h.idle k hk, if_neg (hk b hb), Int.add_zero]
  paired := (paired_acquire refs b).mpr h.paired

theorem release (h : Tracks key held refs ids) (hb : b ∈ held)
    (hpos : 0 < outstanding ids (key b)) :
    Tracks key held (refs ++ [.release b]) (ids ++ [.release (key b)]) where
  distinct := h.distinct
  listed := by
    intro a ha
    rw [outstanding_release, outstanding_release, h.listed a ha]
    by_cases hab : b = a
    · rw [if_pos hab, if_pos (by rw [hab])]
    · rw [if_neg hab, if_neg fun hk => hab (h.eq_of_key hb ha hk)]
  unlisted := by
    intro a ha
    have hab : b ≠ a := fun hab => ha (hab ▸ hb)
    rw [outstanding_release, h.unlisted a ha, if_neg hab, Int.sub_zero]
  idle := by
    intro k hk
    rw [outstanding_release, h.idle k hk, if_neg (hk b hb), Int.sub_zero]
  paired := by
    rw [paired_release, h.listed b hb]
    exact ⟨h.paired, hpos⟩

/-- Resources with nothing outstanding may go. -/
theorem sublist (h : Tracks key held refs ids) (hs : held'.Sublist held)
    (hz : ∀ b ∈ held, b ∉ held' → outstanding ids (key b) = 0) : Tracks key held' refs ids where
  distinct := h.distinct.sublist hs
  listed := fun b hb => h.listed b (hs.subset hb)
  unlisted := by
    intro b hb
    by_cases hm : b ∈ held
    · rw [h.listed b hm, hz b hm hb]
    · exact h.unlisted b hm
  idle := by
    intro k hk
    by_cases hno : ∀ b ∈ held, key b ≠ k
    · exact h.idle k hno
    · obtain ⟨b, hb, rfl⟩ : ∃ b ∈ held, key b = k := by
        by_contra hex
        exact hno fun b hb hk => hex ⟨b, hb, hk⟩
      exact hz b hb fun hb' => hk b hb' rfl
  paired := h.paired

/-- With every key given back, every resource is. -/
theorem settled (h : Tracks key held refs ids) (hids : Settled ids) : Settled refs := by
  intro b
  by_cases hb : b ∈ held
  · rw [h.listed b hb, hids]
  · exact h.unlisted b hb

end Tracks

end RockchipHal
