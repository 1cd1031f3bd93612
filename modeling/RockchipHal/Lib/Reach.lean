import Mathlib.Data.List.Basic

/-!
# Runs of a guarded step function

`step s a = some s'` is one step of a system; `ok s a` is what the run is
allowed to assume of the action in the state it is taken in (the rules of the
caller, the behaviour of the environment, the condition a result is under).
`Reach step ok init` are the states such runs reach.

    I init → (∀ s a s', I s → ok s a → step s a = some s' → I s') →
      Reach step ok init s → I s                                   (Reach.inv)

`run` executes a list of actions, checking `ok` before each, so that a concrete
run is a computation (`Reach.of_run`).  A run is safe in all its states exactly when all its steps
meet the condition that keeps it so (`run_safe_iff`).

A fold of a partial step is defined exactly when each of its steps is (`foldlM_isSome_iff`).
Where every action can be taken, a run is `as.foldl step s`, and `runLog` is what its steps
log; something holds of all of that when it holds of each step (`forall_runLog_iff`).
-/

namespace RockchipHal

variable {σ α : Type}

/-- The states reached from `init` by enabled steps that were `ok` when taken. -/
inductive Reach (step : σ → α → Option σ) (ok : σ → α → Prop) (init : σ) : σ → Prop
  | init : Reach step ok init init
  | step {s s' : σ} {a : α} : Reach step ok init s → ok s a → step s a = some s' →
      Reach step ok init s'

namespace Reach

variable {step : σ → α → Option σ} {ok : σ → α → Prop} {init : σ}

/-- An invariant that holds initially and is kept by every `ok` step holds of every
reached state. -/
theorem inv (I : σ → Prop) (h0 : I init)
    (hs : ∀ s a s', I s → ok s a → step s a = some s' → I s') {s : σ}
    (h : Reach step ok init s) : I s := by
  induction h with
  | init => exact h0
  | step _ hok hst ih => exact hs _ _ _ ih hok hst

theorem trans {s s' : σ} (h : Reach step ok init s) (h' : Reach step ok s s') :
    Reach step ok init s' := by
  induction h' with
  | init => exact h
  | step _ hok hst ih => exact .step ih hok hst

/-- Runs that are allowed more. -/
theorem mono {ok' : σ → α → Prop} {s : σ} (h : Reach step ok init s)
    (hok : ∀ s a, ok s a → ok' s a) : Reach step ok' init s := by
  induction h with
  | init => exact .init
  | step _ hs hst ih => exact .step ih (hok _ _ hs) hst

end Reach

/-- Executes the actions in order; `none` when one is not enabled or not `ok`. -/
def run (step : σ → α → Option σ) (ok : σ → α → Prop) [∀ s a, Decidable (ok s a)] :
    σ → List α → Option σ
  | s, [] => some s
  | s, a :: as => if ok s a then (step s a).bind fun s' => run step ok s' as else none

theorem Reach.of_run {step : σ → α → Option σ} {ok : σ → α → Prop} [∀ s a, Decidable (ok s a)]
    {init : σ} : ∀ (as : List α) (s s' : σ), Reach step ok init s → run step ok s as = some s' →
      Reach step ok init s' := by
  intro as
  induction as with
  | nil =>
    intro s s' h hr
    cases hr
    exact h
  | cons a as ih =>
    intro s s' h hr
    unfold run at hr
    split at hr
    · next hok =>
      obtain ⟨s1, hs1, hr1⟩ := Option.bind_eq_some_iff.mp hr
      exact ih s1 s' (.step h hok hs1) hr1
    · cases hr

theorem Reach.of_run_get {step : σ → α → Option σ} {ok : σ → α → Prop}
    [∀ s a, Decidable (ok s a)] {init : σ} (as : List α) (h : (run step ok init as).isSome) :
    Reach step ok init ((run step ok init as).get h) :=
  Reach.of_run as init _ .init (Option.some_get h).symm

/-- When `cond` is what a step needs to keep an invariant that implies `safe`, and without it the
step ends unsafe, the runs that are safe all along are those whose steps all meet `cond`. -/
theorem run_safe_iff {step : σ → α → Option σ} {ok : σ → α → Prop} [∀ s a, Decidable (ok s a)]
    {cond : σ → α → Prop} (I safe : σ → Prop) (hsafe : ∀ s, I s → safe s)
    (hstep : ∀ s a s', I s → ok s a → step s a = some s' →
      (cond s a → I s') ∧ (¬ cond s a → ¬ safe s')) (as : List α) :
    ∀ s s', I s → run step ok s as = some s' →
      ((∀ before after t, as = before ++ after → run step ok s before = some t → safe t) ↔
        ∀ before a after t, as = before ++ a :: after → run step ok s before = some t →
          cond t a) := by
  induction as with
  | nil =>
    intro s s' hs _
    constructor
    · rintro - before a after t hsplit
      exact absurd (congrArg List.length hsplit) (by simp)
    · rintro - before after t hsplit hrun
      obtain ⟨rfl, -⟩ := List.append_eq_nil_iff.mp hsplit.symm
      cases hrun
      exact hsafe s hs
  | cons a as ih =>
    intro s s' hs hrun
    unfold run at hrun
    split at hrun
    case isFalse => cases hrun
    case isTrue hok =>
      obtain ⟨s₁, hs₁, hrest⟩ := Option.bind_eq_some_iff.mp hrun
      have hcons : ∀ before t, run step ok s (a :: before) = some t ↔
          run step ok s₁ before = some t := by
        intro before t
        rw [run, if_pos hok, hs₁]
        rfl
      obtain ⟨hkeep, hbad⟩ := hstep s a s₁ hs hok hs₁
      constructor
      · intro hall
        have hcond : cond s a := by
          by_contra hnot
          exact hbad hnot (hall [a] as s₁ rfl ((hcons [] s₁).mpr rfl))
        have htail := (ih s₁ s' (hkeep hcond) hrest).mp fun before after t hsplit ht =>
          hall (a :: before) after t (by rw [hsplit, List.cons_append]) ((hcons before t).mpr ht)
        rintro (_ | ⟨a', before⟩) b after t hsplit ht
        · cases hsplit
          cases ht
          exact hcond
        · cases hsplit
          exact htail before b after t rfl ((hcons before t).mp ht)
      · intro hall
        have hcond : cond s a := hall [] a as s rfl rfl
        have htail := (ih s₁ s' (hkeep hcond) hrest).mpr fun before b after t hsplit ht =>
          hall (a :: before) b after t (by rw [hsplit, List.cons_append]) ((hcons before t).mpr ht)
        rintro (_ | ⟨a', before⟩) after t hsplit ht
        · cases ht
          exact hsafe s hs
        · cases hsplit
          exact htail before after t rfl ((hcons before t).mp ht)

/-- A run of partial steps gets to its end when each action can be taken where the run gets to
it. -/
theorem foldlM_isSome_iff (step : σ → α → Option σ) (as : List α) :
    ∀ s, (as.foldlM step s).isSome ↔ ∀ before a after t, as = before ++ a :: after →
      before.foldlM step s = some t → (step t a).isSome := by
  induction as with
  | nil =>
    refine fun s => iff_of_true rfl ?_
    rintro before a after t hsplit
    exact absurd (congrArg List.length hsplit) (by simp)
  | cons a as ih =>
    intro s
    rw [List.foldlM_cons]
    cases hs : step s a with
    | none =>
      refine iff_of_false Bool.false_ne_true fun hall => ?_
      have hfirst := hall [] a as s rfl rfl
      rw [hs] at hfirst
      cases hfirst
    | some s₁ =>
      have hcons : ∀ before, (a :: before).foldlM step s = before.foldlM step s₁ := by
        intro before
        rw [List.foldlM_cons, hs]
        rfl
      show (as.foldlM step s₁).isSome ↔ _
      rw [ih s₁]
      constructor
      · rintro hall (_ | ⟨b, before⟩) a' after t hsplit ht
        · cases hsplit
          cases ht
          rw [hs]
          rfl
        · cases hsplit
          rw [hcons] at ht
          exact hall before a' after t rfl ht
      · intro hall before a' after t hsplit ht
        refine hall (a :: before) a' after t ?_ ((hcons before).trans ht)
        rw [hsplit, List.cons_append]

/-! ## What a run logs -/

section
variable {β : Type} (step : σ → α → σ) (log : σ → α → List β)

/-- The logs of the actions one after the other, each in the state it is taken in. -/
def runLog : σ → List α → List β
  | _, [] => []
  | s, a :: as => log s a ++ runLog (step s a) as

theorem mem_runLog (as : List α) :
    ∀ (s : σ) (b : β), b ∈ runLog step log s as ↔
      ∃ before a after, as = before ++ a :: after ∧ b ∈ log (before.foldl step s) a := by
  induction as with
  | nil =>
    intro s b
    refine ⟨fun h => absurd h List.not_mem_nil, ?_⟩
    rintro ⟨before, a, after, heq, -⟩
    have hlen := congrArg List.length heq
    simp at hlen
  | cons c as ih =>
    intro s b
    unfold runLog
    rw [List.mem_append, ih]
    constructor
    · rintro (hb | ⟨before, a, after, rfl, hb⟩)
      · exact ⟨[], c, as, rfl, hb⟩
      · exact ⟨c :: before, a, after, rfl, hb⟩
    · rintro ⟨before, a, after, heq, hb⟩
      cases before with
      | nil =>
        cases heq
        exact .inl hb
      | cons d before =>
        cases heq
        exact .inr ⟨before, a, after, rfl, hb⟩

theorem runLog_append (as bs : List α) :
    ∀ s : σ, runLog step log s (as ++ bs) = runLog step log s as ++
      runLog step log (as.foldl step s) bs := by
  induction as with
  | nil =>
    intro s
    rfl
  | cons a as ih =>
    intro s
    rw [List.cons_append, runLog, runLog, ih, List.append_assoc]
    rfl

/-- Nothing is logged when no step logs anything. -/
theorem runLog_eq_nil_iff (s : σ) (as : List α) :
    runLog step log s as = [] ↔
      ∀ before a after, as = before ++ a :: after → log (before.foldl step s) a = [] := by
  constructor
  · intro hnil before a after hsplit
    refine List.eq_nil_iff_forall_not_mem.mpr fun b hb => ?_
    have hmem := (mem_runLog step log as s b).mpr ⟨before, a, after, hsplit, hb⟩
    rw [hnil] at hmem
    cases hmem
  · intro hall
    refine List.eq_nil_iff_forall_not_mem.mpr fun b hb => ?_
    obtain ⟨before, a, after, hsplit, hlog⟩ := (mem_runLog step log as s b).mp hb
    rw [hall before a after hsplit] at hlog
    cases hlog

/-- A property of what is logged, as one of the steps. -/
theorem forall_runLog_iff {P : β → Prop} (s : σ) (as : List α) :
    (∀ b ∈ runLog step log s as, P b) ↔
      ∀ before a after, as = before ++ a :: after → ∀ b ∈ log (before.foldl step s) a, P b := by
  constructor
  · intro hall before a after hsplit b hb
    exact hall b ((mem_runLog step log as s b).mpr ⟨before, a, after, hsplit, hb⟩)
  · intro hall b hb
    obtain ⟨before, a, after, hsplit, hlog⟩ := (mem_runLog step log as s b).mp hb
    exact hall before a after hsplit b hlog

end

end RockchipHal
