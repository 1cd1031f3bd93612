import RockchipHal.Lib.Ledger
import RockchipHal.Lib.Reach

/-!
# What a trace does to what is held

The events of a trace acquire and release resources (`tx`) and name some (`names`): those a
call is handed, `none` for a null pointer that it follows.  `V.Triple held es held'` derives,
event by event, that the trace `es` takes what is held to `held'`, and that what each event
names is held when it happens.

Triples follow each other (`Triple.append`), leave a frame alone (`Triple.frame`), are up to the
order of what is held (`Triple.perm`), and stay triples among more events and resources, also
where all of them go through some object (`Triple.map`).  Of a run a step is enough
(`Triple.run`).  A trace from nothing has a ledger that balances with what it leaves, and names
nothing but what is held; a trace that follows a null pointer names something else
(`Named.not_null`):

    V.Triple [] es held → (Paired (V.ledger es) ∧ Settled (V.ledger es) ↔ held = [])
                                                                      (Triple.settled_iff)
    V.Triple [] es held → V.Named [] es                               (Triple.named)
-/

namespace RockchipHal

def Tx.map {ρ ρ' : Type} (g : ρ → ρ') : Tx ρ → Tx ρ'
  | acquire r => .acquire (g r)
  | release r => .release (g r)

structure Vocabulary (ε ρ : Type) where
  tx : ε → Option (Tx ρ)
  names : ε → List (Option ρ)

namespace Vocabulary

variable {ε ρ : Type} (V : Vocabulary ε ρ)

def ledger (es : List ε) : List (Tx ρ) := es.filterMap V.tx

theorem ledger_cons (e : ε) (es : List ε) : V.ledger (e :: es) = V.ledger [e] ++ V.ledger es :=
  List.filterMap_append (l := [e])

/-- None of these is a null pointer, and all are held. -/
def Present (held : List ρ) (os : List (Option ρ)) : Prop := ∀ o ∈ os, ∃ r ∈ held, o = some r

/-- All that `e` names is among `held`. -/
def Among (held : List ρ) (e : ε) : Prop := Present held (V.names e)

inductive Triple : List ρ → List ε → List ρ → Prop
  | nil {held held' : List ρ} (same : held.Perm held') : Triple held [] held'
  | acquire {held es held' e r} (tx : V.tx e = some (.acquire r)) (among : V.Among held e)
      (rest : Triple (r :: held) es held') : Triple held (e :: es) held'
  | release {held₀ held es held' e r} (tx : V.tx e = some (.release r))
      (among : V.Among held₀ e) (here : held₀.Perm (r :: held))
      (rest : Triple held es held') : Triple held₀ (e :: es) held'
  | use {held es held' e} (tx : V.tx e = none) (among : V.Among held e)
      (rest : Triple held es held') : Triple held (e :: es) held'

variable {V} {held held' held'' : List ρ} {es es' : List ε} {e : ε} {r : ρ}

theorem Present.mono {os : List (Option ρ)} (h : Present held os) (hsub : held ⊆ held') :
    Present held' os := by
  intro o ho
  obtain ⟨r, hr, he⟩ := h o ho
  exact ⟨r, hsub hr, he⟩

theorem present_append {os os' : List (Option ρ)} (h : Present held os) (h' : Present held os') :
    Present held (os ++ os') := by
  intro o ho
  rcases List.mem_append.mp ho with ho | ho
  · exact h o ho
  · exact h' o ho

theorem present_map {l : List ρ} (hsub : l ⊆ held) : Present held (l.map some) := by
  intro o ho
  obtain ⟨r, hr, rfl⟩ := List.mem_map.mp ho
  exact ⟨r, hsub hr, rfl⟩

theorem Among.mono (h : V.Among held e) (hsub : held ⊆ held') : V.Among held' e :=
  Present.mono h hsub

theorem among_of_names {l : List ρ} (h : V.names e = l.map some) (hsub : l ⊆ held) :
    V.Among held e := by
  unfold Among
  rw [h]
  exact present_map hsub

/-- An event that names nothing. -/
theorem among_of_names_nil (h : V.names e = []) : V.Among held e :=
  among_of_names (l := []) h (List.nil_subset _)

namespace Triple

/-! ## Rules -/

theorem perm_left {held₀ : List ρ} (h : V.Triple held es held') (hp : held₀.Perm held) :
    V.Triple held₀ es held' := by
  induction h generalizing held₀ with
  | nil same => exact .nil (hp.trans same)
  | acquire tx among rest ih => exact .acquire tx (among.mono hp.symm.subset) (ih (hp.cons _))
  | release tx among here rest ih =>
    exact .release tx (among.mono hp.symm.subset) (hp.trans here) rest
  | use tx among rest ih => exact .use tx (among.mono hp.symm.subset) (ih hp)

theorem append (h : V.Triple held es held') (h' : V.Triple held' es' held'') :
    V.Triple held (es ++ es') held'' := by
  induction h with
  | nil same => exact h'.perm_left same
  | acquire tx among rest ih => exact .acquire tx among (ih h')
  | release tx among here rest ih => exact .release tx among here (ih h')
  | use tx among rest ih => exact .use tx among (ih h')

/-- What is held, in another order. -/
theorem perm {held₀ held₁ : List ρ} (h : V.Triple held es held') (hp : held₀.Perm held)
    (hp' : held'.Perm held₁) : V.Triple held₀ es held₁ := by
  have hlast := (h.perm_left hp).append (.nil hp')
  rw [List.append_nil] at hlast
  exact hlast

/-- A step that loses nothing, as `run` asks for it. -/
theorem lose_nothing (h : V.Triple held es held') : V.Triple held es (held' ++ []) := by
  rw [List.append_nil]
  exact h

theorem frame (h : V.Triple held es held') (l : List ρ) :
    V.Triple (held ++ l) es (held' ++ l) := by
  induction h with
  | nil same => exact .nil (same.append_right l)
  | acquire tx among rest ih =>
    exact .acquire tx (among.mono (List.subset_append_left _ l)) ih
  | release tx among here rest ih =>
    exact .release tx (among.mono (List.subset_append_left _ l)) (here.append_right l) ih
  | use tx among rest ih => exact .use tx (among.mono (List.subset_append_left _ l)) ih

/-- The events and resources of `V`, among those of `W`, where all of them go through what stays
in `through`. -/
theorem map {ε' ρ' : Type} {W : Vocabulary ε' ρ'} {f : ε → ε'} {g : ρ → ρ'} {through : List ρ'}
    (htx : ∀ e, W.tx (f e) = (V.tx e).map (Tx.map g))
    (hnames : ∀ e, W.names (f e) = through.map some ++ (V.names e).map (Option.map g))
    (h : V.Triple held es held') :
    W.Triple (held.map g ++ through) (es.map f) (held'.map g ++ through) := by
  have hamong : ∀ {l : List ρ} {e : ε}, V.Among l e → W.Among (l.map g ++ through) (f e) := by
    intro l e h
    unfold Among
    rw [hnames]
    refine present_append (present_map (List.subset_append_right _ _)) ?_
    intro o ho
    obtain ⟨o', ho', rfl⟩ := List.mem_map.mp ho
    obtain ⟨r, hr, rfl⟩ := h o' ho'
    exact ⟨g r, List.mem_append_left _ (List.mem_map_of_mem hr), rfl⟩
  induction h with
  | nil same => exact .nil ((same.map g).append_right through)
  | acquire tx among rest ih => exact .acquire (by rw [htx, tx]; rfl) (hamong among) ih
  | release tx among here rest ih =>
    exact .release (by rw [htx, tx]; rfl) (hamong among) ((here.map g).append_right through) ih
  | use tx among rest ih => exact .use (by rw [htx, tx]; rfl) (hamong among) ih

/-! ### One event, and many of one kind -/

theorem get (tx : V.tx e = some (.acquire r)) (among : V.Among held e) :
    V.Triple held [e] (r :: held) :=
  .acquire tx among (.nil (List.Perm.refl _))

theorem drop (tx : V.tx e = some (.release r)) (among : V.Among (r :: held) e) :
    V.Triple (r :: held) [e] held :=
  .release tx among (List.Perm.refl _) (.nil (List.Perm.refl _))

theorem keep (tx : V.tx e = none) (among : V.Among held e) : V.Triple held [e] held :=
  .use tx among (.nil (List.Perm.refl _))

variable {β : Type} {f : β → ε} {g : β → ρ}

theorem acquireAll (l : List β) (htx : ∀ b ∈ l, V.tx (f b) = some (.acquire (g b)))
    (h : ∀ b ∈ l, V.Among held (f b)) : V.Triple held (l.map f) (l.map g ++ held) := by
  induction l generalizing held with
  | nil => exact .nil (List.Perm.refl _)
  | cons b l ih =>
    refine .acquire (htx b List.mem_cons_self) (h b List.mem_cons_self) ?_
    have hrest : V.Triple (g b :: held) (l.map f) (l.map g ++ g b :: held) :=
      ih (fun c hc => htx c (List.mem_cons_of_mem b hc))
        fun c hc => (h c (List.mem_cons_of_mem b hc)).mono (List.subset_cons_self _ _)
    exact hrest.perm (List.Perm.refl _) List.perm_middle

theorem releaseAll (l : List β) (htx : ∀ b ∈ l, V.tx (f b) = some (.release (g b)))
    (h : ∀ b ∈ l, V.Among (g b :: held) (f b)) : V.Triple (l.map g ++ held) (l.map f) held := by
  induction l with
  | nil => exact .nil (List.Perm.refl _)
  | cons b l ih =>
    refine .release (htx b List.mem_cons_self) ?_ (List.Perm.refl _)
      (ih (fun c hc => htx c (List.mem_cons_of_mem b hc))
        fun c hc => h c (List.mem_cons_of_mem b hc))
    refine (h b List.mem_cons_self).mono fun r hr => ?_
    rcases List.mem_cons.mp hr with rfl | hr
    · exact List.mem_cons_self
    · exact List.mem_cons_of_mem _ (List.mem_append_right _ hr)

/-! ### Runs -/

/-- A step that, where `I` holds, takes `held s` to `held (step s a)` and loses `lost s a`: what
a run loses is lost step by step. -/
theorem run {σ α : Type} {step : σ → α → σ} {log : σ → α → List ε} (held : σ → List ρ)
    (lost : σ → α → List ρ) (I : σ → Prop) (as : List α)
    (hstep : ∀ s, ∀ a ∈ as, I s → I (step s a) ∧
      V.Triple (held s) (log s a) (held (step s a) ++ lost s a)) :
    ∀ s, I s → I (as.foldl step s) ∧ V.Triple (held s) (runLog step log s as)
      (held (as.foldl step s) ++ runLog step lost s as) := by
  induction as with
  | nil =>
    intro s hs
    refine ⟨hs, .nil ?_⟩
    show (held s).Perm (held s ++ [])
    rw [List.append_nil]
  | cons a as ih =>
    intro s hs
    obtain ⟨hs', hone⟩ := hstep s a List.mem_cons_self hs
    obtain ⟨hend, hrest⟩ :=
      ih (fun s b hb => hstep s b (List.mem_cons_of_mem a hb)) (step s a) hs'
    refine ⟨hend, (hone.append (hrest.frame (lost s a))).perm (List.Perm.refl _) ?_⟩
    show List.Perm (_ ++ _ ++ _) (_ ++ (lost s a ++ runLog step lost (step s a) as))
    rw [List.append_assoc]
    exact List.Perm.append_left _ List.perm_append_comm

end Triple

/-! ## What a triple says of the ledger -/

variable [DecidableEq ρ]

/-- What each event names is held when it happens. -/
def Named (V : Vocabulary ε ρ) (tr : List (Tx ρ)) (es : List ε) : Prop :=
  ∀ before e after, es = before ++ e :: after → ∀ o ∈ V.names e,
    ∃ r, o = some r ∧ 0 < outstanding (tr ++ V.ledger before) r

theorem Named.not_null {tr : List (Tx ρ)} (h : V.Named tr es) (he : e ∈ es) :
    none ∉ V.names e := by
  intro hnull
  obtain ⟨before, after, rfl⟩ := List.append_of_mem he
  obtain ⟨r, hr, -⟩ := h before e after rfl none hnull
  cases hr

theorem named_cons {tr : List (Tx ρ)} (hbal : Balances tr held) (h : V.Among held e)
    (hrest : V.Named (tr ++ V.ledger [e]) es) : V.Named tr (e :: es) := by
  intro before e' after hsplit o ho
  rcases before with _ | ⟨b, before⟩
  · obtain ⟨rfl, -⟩ := List.cons.inj hsplit
    obtain ⟨r, hr, rfl⟩ := h o ho
    refine ⟨r, rfl, ?_⟩
    show 0 < outstanding (tr ++ []) r
    have hcount := List.count_pos_iff.mpr hr
    rw [List.append_nil, hbal.balance r]
    omega
  · obtain ⟨rfl, htail⟩ := List.cons.inj hsplit
    obtain ⟨r, hr, hpos⟩ := hrest before e' after htail o ho
    refine ⟨r, hr, ?_⟩
    rw [ledger_cons, ← List.append_assoc]
    exact hpos

namespace Triple

theorem sound (h : V.Triple held es held') : ∀ {tr : List (Tx ρ)}, Balances tr held →
    Balances (tr ++ V.ledger es) held' ∧ V.Named tr es := by
  induction h with
  | nil same =>
    intro tr hbal
    refine ⟨?_, fun before e after hsplit => absurd hsplit (by simp)⟩
    show Balances (tr ++ []) _
    rw [List.append_nil]
    exact hbal.perm same
  | @acquire held es held' e r tx among rest ih =>
    intro tr hbal
    have hone : V.ledger [e] = [.acquire r] := List.filterMap_cons_some tx
    obtain ⟨hafter, hnamed⟩ := ih (hbal.acquire r)
    rw [← hone] at hafter hnamed
    refine ⟨?_, named_cons hbal among hnamed⟩
    rw [ledger_cons, ← List.append_assoc]
    exact hafter
  | @release held₀ held es held' e r tx among here rest ih =>
    intro tr hbal
    have hone : V.ledger [e] = [.release r] := List.filterMap_cons_some tx
    obtain ⟨hafter, hnamed⟩ := ih (Balances.release (hbal.perm here))
    rw [← hone] at hafter hnamed
    refine ⟨?_, named_cons hbal among hnamed⟩
    rw [ledger_cons, ← List.append_assoc]
    exact hafter
  | @use held es held' e tx among rest ih =>
    intro tr hbal
    have hone : V.ledger [e] = [] := List.filterMap_cons_none tx
    obtain ⟨hafter, hnamed⟩ := ih hbal
    refine ⟨?_, named_cons hbal among (by rw [hone, List.append_nil]; exact hnamed)⟩
    have hledger : V.ledger (e :: es) = V.ledger es := List.filterMap_cons_none tx
    rw [hledger]
    exact hafter

/-- From nothing, the ledger is settled when nothing is left. -/
theorem settled_iff (h : V.Triple [] es held) :
    (Paired (V.ledger es) ∧ Settled (V.ledger es)) ↔ held = [] := by
  obtain ⟨hbal, -⟩ := h.sound (Balances.nil (ρ := ρ))
  rw [List.nil_append] at hbal
  rw [← hbal.settled_iff]
  exact ⟨fun hboth => hboth.2, fun hsettled => ⟨hbal.paired, hsettled⟩⟩

theorem named (h : V.Triple [] es held) : V.Named [] es := (h.sound Balances.nil).2

end Triple

end Vocabulary

end RockchipHal
