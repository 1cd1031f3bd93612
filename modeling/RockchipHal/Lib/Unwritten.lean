import Mathlib.Data.Stream.Init

/-!
# Steps that read what nothing has written

`step s a w` is a step of a system that may also read memory nothing has written; `w` is what
lies there.  It gives the next state and what is seen from outside.  A run finds other contents
with every step (`observe`), so what is seen of it does not depend on them exactly when this is so
of each of its steps

    (∀ ws ws', observe step s as ws = observe step s as ws') ↔
      ∀ ws before a after, as = before ++ a :: after →
        Independent step (stateAfter step s before ws) a          (observe_independent_iff)

provided the contents change nothing that is not seen (`hseen`).
-/

namespace RockchipHal

variable {σ α β ω : Type} (step : σ → α → ω → σ × β)

/-- What is seen of a run, step by step. -/
def observe : σ → List α → Stream' ω → List β
  | _, [], _ => []
  | s, a :: as, ws => (step s a ws.head).2 :: observe (step s a ws.head).1 as ws.tail

def stateAfter : σ → List α → Stream' ω → σ
  | s, [], _ => s
  | s, a :: as, ws => stateAfter (step s a ws.head).1 as ws.tail

/-- What is seen of the step is the same whatever lies in memory. -/
def Independent (s : σ) (a : α) : Prop := ∀ w w', (step s a w).2 = (step s a w').2

theorem observe_cons (s : σ) (a : α) (as : List α) (w : ω) (ws : Stream' ω) :
    observe step s (a :: as) (Stream'.cons w ws) =
      (step s a w).2 :: observe step (step s a w).1 as ws := rfl

theorem observe_independent_iff
    (hseen : ∀ s a w w', (step s a w).2 = (step s a w').2 → (step s a w).1 = (step s a w').1)
    (as : List α) : ∀ s : σ,
    (∀ ws ws', observe step s as ws = observe step s as ws') ↔
      ∀ ws before a after, as = before ++ a :: after →
        Independent step (stateAfter step s before ws) a := by
  induction as with
  | nil =>
    intro s
    refine iff_of_true (fun _ _ => rfl) fun ws before a after heq => ?_
    have hlen := congrArg List.length heq
    simp at hlen
  | cons b as ih =>
    intro s
    constructor
    · intro h ws before a after heq
      cases before with
      | nil =>
        cases heq
        intro w w'
        have hsame := h (Stream'.cons w ws) (Stream'.cons w' ws)
        rw [observe_cons, observe_cons] at hsame
        exact (List.cons.inj hsame).1
      | cons c before =>
        cases heq
        refine (ih (step s b ws.head).1).mp (fun vs vs' => ?_) ws.tail before a after rfl
        -- the same first step, and then other contents
        have hsame := h (Stream'.cons ws.head vs) (Stream'.cons ws.head vs')
        rw [observe_cons, observe_cons] at hsame
        exact (List.cons.inj hsame).2
    · intro h ws ws'
      have hfirst : (step s b ws.head).2 = (step s b ws'.head).2 := h ws [] b as rfl _ _
      have hstate := hseen s b ws.head ws'.head hfirst
      have hrest : ∀ vs vs', observe step (step s b ws.head).1 as vs =
          observe step (step s b ws.head).1 as vs' := by
        refine (ih _).mpr fun vs before a after heq => ?_
        exact h (Stream'.cons ws.head vs) (b :: before) a after (by rw [heq]; rfl)
      show _ :: _ = _ :: _
      rw [hfirst, hrest ws.tail ws'.tail, hstate]

end RockchipHal
