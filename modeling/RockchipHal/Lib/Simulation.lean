import Mathlib.Data.Option.Basic

/-!
# Machines that answer requests

A machine takes a request and gives its answer and the state afterwards; `none` is a request
it does not return from.  `serveAll` is a list of requests one after the other.  `M` simulates
`N` along a relation of their states when every request keeps it, with equal answers, and
either both machines return or neither:

    Simulates R M N → R s t → Agree R (serveAll M s as) (serveAll N t as)  (Simulates.serveAll)

Of machines that go through the same states, the one answers as the other exactly when it does
so request by request                                                     (serveAll_eq_iff).
-/

namespace RockchipHal

variable {σ τ α β : Type}

abbrev Machine (σ α β : Type) : Type := σ → α → Option (β × σ)

/-- The answers in order, and the state after the last request. -/
def serveAll (M : Machine σ α β) : σ → List α → Option (List β × σ)
  | s, [] => some ([], s)
  | s, a :: as =>
    (M s a).bind fun r => (serveAll M r.2 as).map fun rest => (r.1 :: rest.1, rest.2)

/-- Equal answers and related states, or no return from either. -/
def Agree (R : σ → τ → Prop) : Option (β × σ) → Option (β × τ) → Prop :=
  Option.Rel fun r r' => r.1 = r'.1 ∧ R r.2 r'.2

def Simulates (R : σ → τ → Prop) (M : Machine σ α β) (N : Machine τ α β) : Prop :=
  ∀ s t a, R s t → Agree R (M s a) (N t a)

theorem agree_some {R : σ → τ → Prop} {b : β} {s : σ} {t : τ} (h : R s t) :
    Agree R (some (b, s)) (some (b, t)) :=
  .some ⟨rfl, h⟩

/-- Related results stay related under continuations that relate what they are given. -/
theorem rel_bind {γ δ ε ζ : Type} {P : γ → δ → Prop} {Q : ε → ζ → Prop} {x : Option γ}
    {y : Option δ} {f : γ → Option ε} {g : δ → Option ζ} (h : Option.Rel P x y)
    (hfg : ∀ r r', P r r' → Option.Rel Q (f r) (g r')) : Option.Rel Q (x.bind f) (y.bind g) := by
  cases h with
  | none => exact .none
  | some hp => exact hfg _ _ hp

/-- What one request keeps, a list of requests keeps. -/
theorem Simulates.serveAll {R : σ → τ → Prop} {M : Machine σ α β} {N : Machine τ α β}
    (h : Simulates R M N) (as : List α) :
    ∀ s t, R s t → Agree R (serveAll M s as) (serveAll N t as) := by
  induction as with
  | nil =>
    intro s t hr
    exact agree_some hr
  | cons a as ih =>
    intro s t hr
    refine rel_bind (h s t a hr) fun r r' hboth => ?_
    rw [Option.map_eq_bind, Option.map_eq_bind, hboth.1]
    refine rel_bind (ih r.2 r'.2 hboth.2) fun rest rest' hrest => ?_
    refine .some ⟨?_, hrest.2⟩
    show r'.1 :: rest.1 = r'.1 :: rest'.1
    rw [hrest.1]

theorem serveAll_isSome {M : Machine σ α β} (h : ∀ s a, (M s a).isSome) (as : List α) :
    ∀ s, (serveAll M s as).isSome := by
  induction as with
  | nil =>
    intro s
    rfl
  | cons a as ih =>
    intro s
    obtain ⟨r, hr⟩ := Option.isSome_iff_exists.mp (h s a)
    rw [RockchipHal.serveAll, hr, Option.bind_some, Option.isSome_map]
    exact ih r.2

section
variable {M N : Machine σ α β} (hstates : ∀ s a, (M s a).map Prod.snd = (N s a).map Prod.snd)
include hstates

/-- Machines that go from each state to the same one. -/
theorem serveAll_states_eq (as : List α) :
    ∀ s, (serveAll M s as).map Prod.snd = (serveAll N s as).map Prod.snd := by
  induction as with
  | nil =>
    intro s
    rfl
  | cons a as ih =>
    intro s
    have hstate := hstates s a
    rw [RockchipHal.serveAll, RockchipHal.serveAll]
    cases hm : M s a with
    | none =>
      rw [hm] at hstate
      rw [Option.map_eq_none_iff.mp hstate.symm]
      rfl
    | some r =>
      rw [hm] at hstate
      obtain ⟨r', hn, hr⟩ := Option.map_eq_some_iff.mp hstate.symm
      rw [hn, Option.bind_some, Option.bind_some, Option.map_map, Option.map_map, hr]
      exact ih r.2

/-- They answer alike exactly when every answer is one on which they agree. -/
theorem serveAll_eq_iff {good : β → Prop} (hreturns : ∀ s a, (N s a).isSome)
    (hgood : ∀ s a r, N s a = some r → (M s a = some r ↔ good r.1)) (as : List α) :
    ∀ s, serveAll M s as = serveAll N s as ↔
      ∀ answers t, serveAll N s as = some (answers, t) → ∀ b ∈ answers, good b := by
  induction as with
  | nil =>
    refine fun s => iff_of_true rfl ?_
    rintro answers t h b hb
    cases h
    cases hb
  | cons a as ih =>
    intro s
    obtain ⟨r, hn⟩ := Option.isSome_iff_exists.mp (hreturns s a)
    obtain ⟨rest, hrest⟩ := Option.isSome_iff_exists.mp (serveAll_isSome hreturns as r.2)
    have hstate := hstates s a
    rw [hn] at hstate
    obtain ⟨r', hm, hr⟩ := Option.map_eq_some_iff.mp hstate
    have hstate' := serveAll_states_eq hstates as r.2
    rw [hrest] at hstate'
    obtain ⟨rest', hrest', -⟩ := Option.map_eq_some_iff.mp hstate'
    have hfirst : r'.1 = r.1 ↔ good r.1 := by
      rw [← hgood s a r hn, hm, Option.some_inj]
      exact ⟨fun h => Prod.ext h hr, congrArg Prod.fst⟩
    have htotal : serveAll N s (a :: as) = some (r.1 :: rest.1, rest.2) := by
      rw [RockchipHal.serveAll, hn, Option.bind_some, hrest]
      rfl
    have hequal : serveAll M s (a :: as) = serveAll N s (a :: as) ↔
        r'.1 = r.1 ∧ serveAll M r.2 as = serveAll N r.2 as := by
      rw [htotal, RockchipHal.serveAll, hm, Option.bind_some, hr, hrest, hrest']
      show some (r'.1 :: rest'.1, rest'.2) = some (r.1 :: rest.1, rest.2) ↔ _
      rw [Option.some_inj, Option.some_inj, Prod.ext_iff, Prod.ext_iff, List.cons.injEq, and_assoc]
    rw [hequal, hfirst, ih r.2]
    constructor
    · rintro ⟨hg, hall⟩ answers t h b hb
      cases htotal.symm.trans h
      rcases List.mem_cons.mp hb with rfl | hb
      · exact hg
      · exact hall rest.1 rest.2 hrest b hb
    · intro h
      refine ⟨h _ _ htotal r.1 List.mem_cons_self, fun answers t ht b hb => ?_⟩
      cases hrest.symm.trans ht
      exact h _ _ htotal b (List.mem_cons_of_mem _ hb)

end

/-- Against a machine that always returns. -/
theorem Agree.returns {R : σ → τ → Prop} {x : Option (β × σ)} {b : β} {t : τ}
    (h : Agree R x (some (b, t))) : ∃ s, x = some (b, s) ∧ R s t := by
  cases h with
  | some hboth =>
    obtain ⟨hb, hr⟩ := hboth
    exact ⟨_, congrArg some (Prod.ext hb rfl), hr⟩

end RockchipHal
