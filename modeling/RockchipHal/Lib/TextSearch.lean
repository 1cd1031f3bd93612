import Mathlib.Data.List.Infix

/-!
# Names in a text

`strstr hay needle` looks for the first occurrence of `needle`.  A table of names is gone
through in order, and the first entry that occurs is taken.  Where no name stands behind one
it is a part of, the entry taken is the most specific one: no entry that says more occurs
(`find?_specific`).
-/

namespace RockchipHal

/-- What is left of `hay` from the first occurrence of `needle` on. -/
def strstr {α : Type} [DecidableEq α] (hay needle : List α) : Option (List α) :=
  if needle <+: hay then some hay
  else
    match hay with
    | [] => none
    | _ :: rest => strstr rest needle

theorem isSome_strstr {α : Type} [DecidableEq α] (needle : List α) :
    ∀ hay : List α, (strstr hay needle).isSome = true ↔ needle <:+: hay := by
  intro hay
  induction hay with
  | nil =>
    unfold strstr
    rw [List.infix_nil, ← List.prefix_nil]
    split
    · next h => exact ⟨fun _ => h, fun _ => rfl⟩
    · next h => exact ⟨fun hs => (nomatch hs), fun hp => absurd hp h⟩
  | cons a rest ih =>
    unfold strstr
    rw [List.infix_cons_iff, ← ih]
    split
    · next h => exact ⟨fun _ => .inl h, fun _ => rfl⟩
    · next h => exact ⟨.inr, fun hor => hor.resolve_left h⟩

/-- `specific a b` says that `b` is more specific than `a`.  Where nothing in the table has
something more specific behind it, an entry that is found has nothing more specific that
matches. -/
theorem find?_specific {β : Type} {specific : β → β → Prop} (hirrefl : ∀ a, ¬ specific a a)
    {table : List β} (horder : table.Pairwise fun a b => ¬ specific a b) {p : β → Bool} {e : β}
    (h : table.find? p = some e) : ∀ e' ∈ table, specific e e' → p e' = false := by
  intro e' he' hspec
  obtain ⟨-, before, after, rfl, hbefore⟩ := List.find?_eq_some_iff_append.mp h
  rw [List.pairwise_append, List.pairwise_cons] at horder
  rcases List.mem_append.mp he' with hin | hin
  · have hmiss := hbefore e' hin
    rwa [Bool.not_eq_true'] at hmiss
  · rcases List.mem_cons.mp hin with rfl | hin
    · exact absurd hspec (hirrefl e')
    · exact absurd hspec (horder.2.1.1 e' hin)

end RockchipHal
