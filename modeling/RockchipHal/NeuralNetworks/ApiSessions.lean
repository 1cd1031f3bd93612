import RockchipHal.NeuralNetworks.RknnApi

/-!
# Sessions of an application

An application makes and destroys handles in any order and calls on those it holds; `ApiRun` is
its process, with the handles it holds and the context the server answered each one's
`rknn_init` with.  Allocators give addresses that are not in use, and the server contexts that
are not.

    Owned s: every handle leads to its own context, and nothing else is left

holds after any such calls while no `rknn_init` is refused, and is lost with the first one that
is                                                                             (api_owned).
What is left is meant here on the client's side.  The server keeps a context that nobody knows of
for each `rknn_init` whose answer is lost, and for each `rknn_destroy` it does not carry out: these
are `left`, and there are none where every call is `Delivered`.
-/

namespace RockchipHal.NeuralNetworks

open Builder

/-! ## Runs -/

/-- `sessions` are the handles given out and not destroyed, newest first, and `left` the server's
contexts that belong to none. -/
structure ApiRun where
  process : ApiProcess
  sessions : List (Nat × RknnContext)
  left : List UInt64
  inits : Nat

inductive ApiAction
  | init (c : InitCall)
  /-- the server's context may be gone after it, or not -/
  | destroy (context : Nat) (gone : Bool)
  /-- any other call -/
  | use (context : Nat)

namespace ApiRun

def start : ApiRun := ⟨⟨[], [], [], []⟩, [], [], 0⟩

/-- The session the bridge stored for a call. -/
def opened (c : InitCall) (r : InitResult) : List (Nat × RknnContext) :=
  match r.stored with
  | some ctx => [(c.block, ctx)]
  | none => []

/-- The contexts behind a handle. -/
def contextsOf (s : ApiRun) (context : Nat) : List UInt64 :=
  (s.sessions.filter fun p => p.1 = context).map fun p => p.2.context

def step (s : ApiRun) : ApiAction → Option ApiRun
  | .init c =>
    c.result.bind fun r => (s.process.rknnInit c).map fun answer =>
      ⟨answer.2.2, opened c r ++ s.sessions, c.orphan.toList ++ s.left, s.inits + 1⟩
  | .destroy context gone =>
    (s.process.rknnDestroy context gone).map fun answer =>
      { s with
        process := answer.2
        sessions := s.sessions.filter fun p => p.1 ≠ context
        left := (if gone then [] else s.contextsOf context) ++ s.left }
  | .use context => (s.process.follow context).map fun _ => s

/-- What `new`, `malloc` and the server give is not in use. -/
structure Fresh (s : ApiProcess) (c : InitCall) : Prop where
  builder : c.builder ≠ 0
  object : c.object ≠ 0 ∧ ∀ p ∈ s.objects, p.1 ≠ c.object
  block : c.block ≠ 0 ∧ ∀ p ∈ s.blocks, p.1 ≠ c.block
  context : ∀ context, c.answered = some context → context ∉ s.contexts
  orphan : ∀ context, c.orphan = some context → context ∉ s.contexts

/-- The application calls on handles it holds. -/
def Held (s : ApiRun) (context : Nat) : Prop := ∃ p ∈ s.sessions, p.1 = context

def Allowed (s : ApiRun) : ApiAction → Prop
  | .init c => Fresh s.process c ∧ c.Accepted
  | .destroy context _ => s.Held context
  | .use context => s.Held context

/-- The server's answer to an `rknn_init` arrives, and it carries out an `rknn_destroy`. -/
def Delivered : ApiAction → Prop
  | .init c => c.orphan = none
  | .destroy _ gone => gone = true
  | .use _ => True

/-- Every handle leads to the context its own `rknn_init` was answered with; blocks and objects
are those of the handles held, and the server's contexts are, with those that are `left`.  The
clients are never given back. -/
structure Owned (s : ApiRun) : Prop where
  follows : ∀ p ∈ s.sessions, s.process.follow p.1 = some (.ok p.2)
  blocks : s.process.blocks.map Prod.fst = s.sessions.map Prod.fst
  objects : s.process.objects.map Prod.snd = s.sessions.map Prod.snd
  contexts : s.process.contexts.Perm ((s.sessions.map fun p => p.2.context) ++ s.left)
  apart : s.process.contexts.Nodup
  builders : s.process.builders.length = s.inits

/-! ## The entries behind the handles -/

/-- A handle, what its block points to, and the bridge's context. -/
structure ApiEntry where
  handle : Nat
  builder : Nat
  object : Nat
  ctx : RknnContext

/-- The process consists of the entries. -/
structure Consists (s : ApiRun) (l : List ApiEntry) : Prop where
  blocks : s.process.blocks = l.map fun e => (e.handle, ⟨e.builder, e.object⟩)
  objects : s.process.objects = l.map fun e => (e.object, e.ctx)
  contexts : s.process.contexts.Perm ((l.map fun e => e.ctx.context) ++ s.left)
  sessions : s.sessions = l.map fun e => (e.handle, e.ctx)
  handles : Distinct ApiEntry.handle l
  pointers : Distinct ApiEntry.object l
  apart : s.process.contexts.Nodup
  nonzero : ∀ e ∈ l, e.handle ≠ 0 ∧ e.builder ≠ 0 ∧ e.object ≠ 0
  builders : s.process.builders.length = s.inits

theorem consists_start : Consists start [] where
  blocks := rfl
  objects := rfl
  contexts := List.Perm.refl []
  sessions := rfl
  handles := distinct_nil
  pointers := distinct_nil
  apart := List.nodup_nil
  nonzero := by
    intro e he
    cases he
  builders := rfl

/-- The value found under the key of an entry. -/
theorem find?_entry {l : List ApiEntry} {key : ApiEntry → Nat} {β : Type} (f : ApiEntry → β)
    (h : Distinct key l) {e : ApiEntry} (he : e ∈ l) :
    ((l.map fun e => (key e, f e)).find? fun p => p.1 = key e).map Prod.snd = some (f e) := by
  rw [List.find?_map]
  show ((l.find? fun b => key b = key e).map fun e => (key e, f e)).map Prod.snd = _
  rw [(h.find?_eq_some_iff (key e) e).mpr ⟨he, rfl⟩]
  rfl

namespace Consists

variable {s : ApiRun} {l : List ApiEntry}

theorem checked (h : Consists s l) {e : ApiEntry} (he : e ∈ l) :
    s.process.checked e.handle = some (.ok ⟨e.builder, e.object⟩) := by
  obtain ⟨hhandle, hbuilder, hobject⟩ := h.nonzero e he
  have hblock : s.process.block e.handle = some ⟨e.builder, e.object⟩ := by
    unfold ApiProcess.block
    rw [h.blocks]
    exact find?_entry (fun e => (⟨e.builder, e.object⟩ : ApiContext)) h.handles he
  unfold ApiProcess.checked
  rw [if_neg hhandle, hblock, Option.map_some]
  dsimp only
  rw [if_neg (show ¬ (e.builder = 0 ∨ e.object = 0) from fun hz => hz.elim hbuilder hobject)]

theorem object (h : Consists s l) {e : ApiEntry} (he : e ∈ l) :
    s.process.object e.object = some e.ctx := by
  unfold ApiProcess.object
  rw [h.objects]
  exact find?_entry ApiEntry.ctx h.pointers he

theorem follow (h : Consists s l) {e : ApiEntry} (he : e ∈ l) :
    s.process.follow e.handle = some (.ok e.ctx) := by
  unfold ApiProcess.follow
  rw [h.checked he]
  show (s.process.object e.object).map _ = _
  rw [h.object he]
  rfl

theorem owned (h : Consists s l) : s.Owned where
  follows := by
    intro p hp
    rw [h.sessions] at hp
    obtain ⟨e, he, rfl⟩ := List.mem_map.mp hp
    exact h.follow he
  blocks := by
    rw [h.blocks, h.sessions, List.map_map, List.map_map]
    rfl
  objects := by
    rw [h.objects, h.sessions, List.map_map, List.map_map]
    rfl
  contexts := by
    rw [h.sessions, List.map_map]
    exact h.contexts
  apart := h.apart
  builders := h.builders

theorem held (h : Consists s l) {context : Nat} (hheld : s.Held context) :
    ∃ e ∈ l, e.handle = context := by
  obtain ⟨p, hp, rfl⟩ := hheld
  rw [h.sessions] at hp
  obtain ⟨e, he, rfl⟩ := List.mem_map.mp hp
  exact ⟨e, he, rfl⟩

/-! ### A handle destroyed -/

/-- With two distinct keys, leaving out by one is leaving out by the other. -/
theorem filter_of_distinct {κ ν : Type} [DecidableEq κ] [DecidableEq ν] {key : ApiEntry → κ}
    {other : ApiEntry → ν} (hkey : Distinct key l) (hother : Distinct other l) {e : ApiEntry}
    (he : e ∈ l) :
    l.filter (fun b => key b ≠ key e) = l.filter fun b => other b ≠ other e := by
  refine List.filter_congr fun b hb => ?_
  rw [decide_eq_decide, not_iff_not]
  constructor
  · intro heq
    rw [List.inj_on_of_nodup_map hkey hb he heq]
  · intro heq
    rw [List.inj_on_of_nodup_map hother hb he heq]

theorem contextsOf (h : Consists s l) {e : ApiEntry} (he : e ∈ l) :
    s.contextsOf e.handle = [e.ctx.context] := by
  unfold ApiRun.contextsOf
  rw [h.sessions, List.filter_map, List.map_map]
  show (l.filter fun b => b.handle = e.handle).map _ = _
  rw [h.handles.filter_key, (h.handles.find?_eq_some_iff e.handle e).mpr ⟨he, rfl⟩]
  rfl

/-- The context of an entry, and the others. -/
theorem contexts_of_mem (h : Consists s l) {e : ApiEntry} (he : e ∈ l) :
    s.process.contexts.Perm (e.ctx.context ::
      (((l.filter fun b => b.handle ≠ e.handle).map fun b => b.ctx.context) ++ s.left)) :=
  h.contexts.trans (((h.handles.perm_filter_ne he).map _).append_right s.left)

/-- The server's contexts after it carried the destroy out, or did not. -/
theorem contexts_destroyed (h : Consists s l) {e : ApiEntry} (he : e ∈ l) (gone : Bool) :
    (if gone then s.process.contexts.filter (fun c => c ≠ e.ctx.context) else s.process.contexts).Perm
      (((l.filter fun b => b.handle ≠ e.handle).map fun b => b.ctx.context) ++
        ((if gone then [] else s.contextsOf e.handle) ++ s.left)) := by
  have hperm := h.contexts_of_mem he
  cases gone with
  | false =>
    show s.process.contexts.Perm (_ ++ (s.contextsOf e.handle ++ s.left))
    rw [h.contextsOf he]
    exact hperm.trans List.perm_middle.symm
  | true =>
    show (s.process.contexts.filter _).Perm (_ ++ s.left)
    have hnot := (List.nodup_cons.mp (hperm.nodup_iff.mp h.apart)).1
    refine (hperm.filter fun c => decide (c ≠ e.ctx.context)).trans (List.Perm.of_eq ?_)
    rw [List.filter_cons_of_neg (by simp)]
    exact List.filter_eq_self.mpr fun c hc => decide_eq_true fun heq => hnot (heq ▸ hc)

theorem destroy (h : Consists s l) {e : ApiEntry} (he : e ∈ l) {gone : Bool} {s' : ApiRun}
    (hstep : s.step (.destroy e.handle gone) = some s') :
    Consists s' (l.filter fun b => b.handle ≠ e.handle) := by
  have hdestroy : s.process.rknnDestroy e.handle gone =
      some (0, s.process.dropped e.handle e.object e.ctx gone) := by
    unfold ApiProcess.rknnDestroy
    rw [h.checked he]
    show (s.process.object e.object).map _ = _
    rw [h.object he]
    rfl
  have hstep : (s.process.rknnDestroy e.handle gone).map (fun answer => { s with
      process := answer.2
      sessions := s.sessions.filter fun p => p.1 ≠ e.handle
      left := (if gone then [] else s.contextsOf e.handle) ++ s.left }) = some s' := hstep
  rw [hdestroy] at hstep
  cases hstep
  have hsub := List.filter_sublist (l := l) (p := fun b => b.handle ≠ e.handle)
  refine ⟨?_, ?_, h.contexts_destroyed he gone, ?_, h.handles.sublist hsub,
    h.pointers.sublist hsub, ?_, fun b hb => h.nonzero b (List.mem_of_mem_filter hb), h.builders⟩
  · show s.process.blocks.filter _ = _
    rw [h.blocks, List.filter_map]
    rfl
  · show s.process.objects.filter _ = _
    rw [h.objects, List.filter_map, filter_of_distinct h.handles h.pointers he]
    rfl
  · show s.sessions.filter _ = _
    rw [h.sessions, List.filter_map]
    rfl
  · show (if gone then _ else _ : List UInt64).Nodup
    split
    · exact h.apart.filter _
    · exact h.apart

/-! ### A handle made -/

theorem init (h : Consists s l) {c : InitCall} (hfresh : Fresh s.process c) {ctx : RknnContext}
    (answer : c.answered = some ctx.context) :
    Consists ⟨{ s.process with
        builders := c.builder :: s.process.builders
        objects := (c.object, ctx) :: s.process.objects
        contexts := ctx.context :: s.process.contexts
        blocks := (c.block, ⟨c.builder, c.object⟩) :: s.process.blocks },
      (c.block, ctx) :: s.sessions, c.orphan.toList ++ s.left, s.inits + 1⟩
      (⟨c.block, c.builder, c.object, ctx⟩ :: l) where
  blocks := by rw [h.blocks, List.map_cons]
  objects := by rw [h.objects, List.map_cons]
  contexts := by
    rw [InitCall.orphan_of_answered answer]
    exact h.contexts.cons _
  sessions := by rw [h.sessions, List.map_cons]
  handles := by
    refine (distinct_cons _ l).mpr ⟨fun e he => ?_, h.handles⟩
    refine hfresh.block.2 (e.handle, ⟨e.builder, e.object⟩) ?_
    rw [h.blocks]
    exact List.mem_map_of_mem he
  pointers := by
    refine (distinct_cons _ l).mpr ⟨fun e he => ?_, h.pointers⟩
    refine hfresh.object.2 (e.object, e.ctx) ?_
    rw [h.objects]
    exact List.mem_map_of_mem he
  apart := List.nodup_cons.mpr ⟨hfresh.context ctx.context answer, h.apart⟩
  nonzero := by
    intro e he
    rcases List.mem_cons.mp he with rfl | he
    · exact ⟨hfresh.block.1, hfresh.builder, hfresh.object.1⟩
    · exact h.nonzero e he
  builders := congrArg Nat.succ h.builders

/-- `rknn_init` returns with a handle whose block is added, or with an error. -/
theorem init_cases (s : ApiRun) {c : InitCall} (hfresh : Fresh s.process c) {s' : ApiRun}
    (hstep : s.step (.init c) = some s') :
    ∃ r, c.Ends r ∧ s' = ⟨{ c.created r s.process with
        blocks := (if r.ret = rknnSucc then [(c.block, ⟨c.builder, c.rknnCtx r⟩)] else []) ++
          s.process.blocks }, opened c r ++ s.sessions, c.orphan.toList ++ s.left,
        s.inits + 1⟩ := by
  unfold step at hstep
  obtain ⟨r, hr, hstep⟩ := Option.bind_eq_some_iff.mp hstep
  have hblocks : (c.created r s.process).blocks = s.process.blocks := by
    unfold InitCall.created
    split <;> rfl
  obtain ⟨answer, hinit, rfl⟩ := Option.map_eq_some_iff.mp hstep
  unfold ApiProcess.rknnInit at hinit
  rw [if_neg hfresh.builder, hr, Option.bind_some] at hinit
  refine ⟨r, InitCall.ends hr, ?_⟩
  by_cases hret : r.ret = rknnSucc
  · rw [if_pos hret, if_neg hfresh.block.1] at hinit
    cases hinit
    rw [if_pos hret]
    dsimp only
    rw [hblocks]
    rfl
  · rw [if_neg hret] at hinit
    cases hinit
    rw [if_neg hret]
    dsimp only
    rw [List.nil_append, ← hblocks]

/-- One that fails leaves the context of an answer that was lost. -/
theorem init_failed (h : Consists s l) {c : InitCall} (hfresh : Fresh s.process c) :
    Consists ⟨{ s.process with
        builders := c.builder :: s.process.builders
        contexts := c.orphan.toList ++ s.process.contexts },
      s.sessions, c.orphan.toList ++ s.left, s.inits + 1⟩ l where
  blocks := h.blocks
  objects := h.objects
  contexts := (h.contexts.append_left _).trans (List.perm_append_comm_assoc _ _ _)
  sessions := h.sessions
  handles := h.handles
  pointers := h.pointers
  apart := by
    show (c.orphan.toList ++ s.process.contexts).Nodup
    cases horphan : c.orphan with
    | none => exact h.apart
    | some context => exact List.nodup_cons.mpr ⟨hfresh.orphan context horphan, h.apart⟩
  nonzero := h.nonzero
  builders := congrArg Nat.succ h.builders

/-- An `rknn_init` that is not refused. -/
theorem init_accepted (h : Consists s l) {c : InitCall} (hfresh : Fresh s.process c)
    (haccepted : c.Accepted) {s' : ApiRun} (hstep : s.step (.init c) = some s') :
    ∃ l', Consists s' l' := by
  obtain ⟨r, hends, rfl⟩ := init_cases s hfresh hstep
  cases hends with
  | failed accepted => exact ⟨l, h.init_failed hfresh⟩
  | refused refused => exact absurd haccepted refused
  | stored accepted answer => exact ⟨_, h.init hfresh answer⟩

end Consists

/-- One that is refused gives out a handle with nothing behind it. -/
theorem not_owned_of_refused {s : ApiRun} (howned : s.Owned) {c : InitCall}
    (hfresh : Fresh s.process c) (hrefused : ¬ c.Accepted) {s' : ApiRun}
    (hstep : s.step (.init c) = some s') : ¬ s'.Owned := by
  intro howned'
  obtain ⟨r, hends, rfl⟩ := Consists.init_cases s hfresh hstep
  cases hends with
  | failed accepted => exact hrefused accepted
  | stored accepted answer => exact hrefused accepted
  | refused refused =>
    have hmore := congrArg List.length howned'.blocks
    have hbefore := congrArg List.length howned.blocks
    rw [List.length_map, List.length_map] at hmore hbefore
    have hmore : s.process.blocks.length + 1 = s.sessions.length := hmore
    omega

theorem consists_step {s s' : ApiRun} {l : List ApiEntry} (hl : Consists s l) {a : ApiAction}
    (hallowed : s.Allowed a) (hstep : s.step a = some s') : ∃ l', Consists s' l' := by
  cases a with
  | init c => exact hl.init_accepted hallowed.1 hallowed.2 hstep
  | destroy context gone =>
    obtain ⟨e, he, rfl⟩ := hl.held hallowed
    exact ⟨_, hl.destroy he hstep⟩
  | use context =>
    obtain ⟨_, _, rfl⟩ := Option.map_eq_some_iff.mp hstep
    exact ⟨l, hl⟩

theorem consists_run {s : ApiRun} (h : Reach step Allowed start s) : ∃ l, Consists s l :=
  h.inv (fun s => ∃ l, Consists s l) ⟨[], consists_start⟩
    fun _ _ _ ⟨_, hl⟩ hallowed hstep => consists_step hl hallowed hstep

/-- Nothing more is left of a call that is delivered. -/
theorem left_step {s s' : ApiRun} {a : ApiAction} (hdelivered : Delivered a)
    (hstep : s.step a = some s') : s'.left = s.left := by
  cases a with
  | init c =>
    obtain ⟨r, -, hstep⟩ := Option.bind_eq_some_iff.mp hstep
    obtain ⟨_, -, rfl⟩ := Option.map_eq_some_iff.mp hstep
    show c.orphan.toList ++ s.left = s.left
    rw [show c.orphan = none from hdelivered]
    rfl
  | destroy context gone =>
    obtain ⟨_, -, rfl⟩ := Option.map_eq_some_iff.mp hstep
    show (if gone then [] else s.contextsOf context) ++ s.left = s.left
    rw [if_pos (show gone = true from hdelivered)]
    rfl
  | use context =>
    obtain ⟨_, _, rfl⟩ := Option.map_eq_some_iff.mp hstep
    rfl

/-- **Handles and contexts.**  In any run in which no `rknn_init` is refused, every handle
leads to its own context and no block or object is left; there, an `rknn_init` keeps it so iff it
is not refused.  When every call is delivered too, the server has the contexts of the handles
held, and no others. -/
theorem api_owned :
    (∀ s, Reach step Allowed start s → s.Owned) ∧
    (∀ s, Reach step Allowed start s → ∀ c s', Fresh s.process c →
      s.step (.init c) = some s' → (s'.Owned ↔ c.Accepted)) ∧
    ∀ s, Reach step (fun s a => s.Allowed a ∧ Delivered a) start s →
      s.process.contexts.Perm (s.sessions.map fun p => p.2.context) := by
  refine ⟨fun s hreach => ?_, fun s hreach c s' hfresh hstep => ?_, fun s hreach => ?_⟩
  · obtain ⟨l, hl⟩ := consists_run hreach
    exact hl.owned
  · obtain ⟨l, hl⟩ := consists_run hreach
    constructor
    · intro howned'
      by_contra hrefused
      exact not_owned_of_refused hl.owned hfresh hrefused hstep howned'
    · intro haccepted
      obtain ⟨l', hl'⟩ := hl.init_accepted hfresh haccepted hstep
      exact hl'.owned
  · have hkept : (∃ l, Consists s l) ∧ s.left = [] := by
      refine hreach.inv (fun s => (∃ l, Consists s l) ∧ s.left = []) ⟨⟨[], consists_start⟩, rfl⟩ ?_
      rintro s a s' ⟨⟨l, hl⟩, hleft⟩ ⟨hallowed, hdelivered⟩ hstep
      exact ⟨consists_step hl hallowed hstep, (left_step hdelivered hstep).trans hleft⟩
    obtain ⟨⟨l, hl⟩, hleft⟩ := hkept
    have hcontexts := hl.owned.contexts
    rw [hleft, List.append_nil] at hcontexts
    exact hcontexts

/-- A model of one byte; the local holds whatever `old` is. -/
def oneByteInit (status : V1_0.ErrorStatus) (old : Nat) : InitCall :=
  ⟨answeringHal true status, [0], 1, 0, 0x1000, 0x2000, 0x3000, old, none⟩

theorem oneByteInit_fresh (status : V1_0.ErrorStatus) (old : Nat) :
    Fresh start.process (oneByteInit status old) where
  builder := show 0x1000 ≠ 0 by decide
  object := ⟨show 0x2000 ≠ 0 by decide, fun p hp => absurd hp List.not_mem_nil⟩
  block := ⟨show 0x3000 ≠ 0 by decide, fun p hp => absurd hp List.not_mem_nil⟩
  context := fun _ _ => List.not_mem_nil
  orphan := fun _ _ => List.not_mem_nil

theorem oneByteInit_accepted_iff (status : V1_0.ErrorStatus) (old : Nat) :
    (oneByteInit status old).Accepted ↔ status = rknnSucc := by
  constructor
  · rintro (hzero | ⟨-, hall⟩)
    · exact absurd hzero (show ¬ (1 : UInt32) = 0 by decide)
    · exact hall status 1 rfl
  · intro hstatus
    refine .inr ⟨rfl, fun status' context hreply => ?_⟩
    cases hreply
    exact hstatus

/-- The handle of an `rknn_init` that is not refused is owned, and its context is the server's
only one; the destroy of it may leave that.  One that is refused leaves what the local held behind
the handle it gives out. -/
theorem api_owned_one :
    (∃ s, start.step (.init (oneByteInit 0 0x9000)) = some s ∧
      s.sessions.map Prod.fst = [0x3000] ∧ s.Owned ∧
      s.process.contexts.Perm (s.sessions.map fun p => p.2.context) ∧
      ∃ s', s.step (.destroy 0x3000 false) = some s' ∧ s'.sessions = [] ∧ s'.left = [1]) ∧
    ∃ s, start.step (.init (oneByteInit (-1) 0x9000)) = some s ∧
      s.process.blocks = [(0x3000, ⟨0x1000, 0x9000⟩)] ∧ s.sessions = [] ∧ ¬ s.Owned := by
  constructor
  · have hallowed : Allowed start (.init (oneByteInit 0 0x9000)) :=
      ⟨oneByteInit_fresh 0 0x9000, (oneByteInit_accepted_iff 0 0x9000).mpr rfl⟩
    exact ⟨_, rfl, rfl, api_owned.1 _ (.step .init hallowed rfl),
      api_owned.2.2 _ (.step .init ⟨hallowed, rfl⟩ rfl), _, rfl, rfl, rfl⟩
  · refine ⟨_, rfl, rfl, rfl, fun howned => ?_⟩
    have haccepted := (api_owned.2.1 start .init (oneByteInit (-1) 0x9000) _
      (oneByteInit_fresh (-1) 0x9000) rfl).mp howned
    exact absurd ((oneByteInit_accepted_iff (-1) 0x9000).mp haccepted) (by decide)

end ApiRun

end RockchipHal.NeuralNetworks
