import RockchipHal.RockitHw.Resources

/-!
# A decoder is initialised wholly or not at all

`init` leaves through one label from five depths.  What it has acquired by then is a block
and, where `mpp_create` succeeded, an MPP context (`InitEnded`), and the label releases
just these.  An object without a context refuses every call (`result_of_none`), so that
nothing happens in a run after a failed `init`.

    ret = 0   ↔ all that is asked for is given                       (InitSucceeds)
    ret = 0   → a context, a group and two empty lists; nothing released
    otherwise → ret = -1, no context, each resource released once; all calls -1
                                                              (init_allOrNothing)
-/

namespace RockchipHal.RockitHw

/-! ## How init ends -/

/-- How `init` can end, with the ledger of the call. -/
inductive InitEnded (replies : InitReplies) : Result → List (Tx Res) → Prop
  | noBlock {r : Result} (ret : r.ret = -1) (ctx : r.hal.mCtx = none) : InitEnded replies r []
  | noContext {r : Result} (ret : r.ret = -1) (ctx : r.hal.mCtx = none) :
      InitEnded replies r [.acquire .block, .release .block]
  | failed {r : Result} {mppCtx : Nat} (ret : r.ret = -1) (ctx : r.hal.mCtx = none) :
      InitEnded replies r [.acquire .block, .acquire (.context mppCtx),
        .release (.context mppCtx), .release .block]
  | done {r : Result} {mppCtx group : Nat} (create : replies.mppCreate = .ok mppCtx)
      (groupGet : replies.groupGet = .ok group) (ret : r.ret = 0)
      (ctx : r.hal.mCtx = some ⟨mppCtx, group, [], []⟩) :
      InitEnded replies r [.acquire .block, .acquire (.context mppCtx), .acquire (.group group)]

/-- Commands to the decoder acquire and release nothing. -/
theorem resources_setFrameInfo (replies : InitReplies) (mppCtx : Nat) (p : InitParams) :
    resources (setFrameInfo replies mppCtx p).2 = [] := by
  unfold setFrameInfo
  dsimp only
  split <;> split <;> rfl

theorem resources_ite_control (c : Prop) [Decidable c] (mppCtx : Nat) (cmd : MpiCmd) :
    resources (if c then [Event.mppControl mppCtx cmd] else []) = [] := by
  split <;> rfl

theorem initWith_ended (m : RockitHwMpi) (replies : InitReplies) {mppCtx : Nat} (p : InitParams)
    (create : replies.mppCreate = .ok mppCtx) :
    InitEnded replies (initWith m replies mppCtx p)
      (resources (initWith m replies mppCtx p).events) := by
  unfold initWith
  dsimp only
  split
  · exact .failed rfl rfl
  split
  · exact .failed rfl rfl
  split
  · exact .failed rfl rfl
  split
  · simp only [resources_append, resources_ite_control]
    exact .failed rfl rfl
  split
  · simp only [resources_append, resources_ite_control, resources_setFrameInfo]
    exact .failed rfl rfl
  next group hgroup =>
    simp only [resources_append, resources_ite_control, resources_setFrameInfo]
    exact .done create hgroup rfl rfl

theorem init_ended (m : RockitHwMpi) (replies : InitReplies) (pairs : RockitHWParamPairs) :
    InitEnded replies (init m replies pairs).val (resources (init m replies pairs).val.events) := by
  unfold init
  split
  · exact .noBlock rfl rfl
  · cases hcreate : replies.mppCreate with
    | error e => exact .noContext rfl rfl
    | ok mppCtx => exact initWith_ended m replies _ hcreate

/-! ## When init succeeds -/

/-- Context, decoder and group can be had, and codec and picture size are given. -/
structure InitSucceeds (replies : InitReplies) (p : InitParams) : Prop where
  malloc : replies.malloc = true
  mppCreate : replies.mppCreate.isOk = true
  type : p.type ≠ 0
  width : p.width ≠ 0
  height : p.height ≠ 0
  mppInit : replies.mppInit = 0
  groupGet : replies.groupGet.isOk = true

theorem isOk_error {ε α : Type} {e : ε} : (Except.error e : Except ε α).isOk = false := rfl

theorem initWith_ret_iff (m : RockitHwMpi) (replies : InitReplies) (mppCtx : Nat)
    (p : InitParams) :
    (initWith m replies mppCtx p).ret = 0 ↔
      p.type ≠ 0 ∧ p.width ≠ 0 ∧ p.height ≠ 0 ∧ replies.mppInit = 0 ∧
        replies.groupGet.isOk = true := by
  unfold initWith
  dsimp only
  by_cases hsize : p.type = 0 ∨ p.width = 0 ∨ p.height = 0
  · rw [if_pos hsize]
    refine iff_of_false (show ¬ (-1 : Int) = 0 by decide) ?_
    rintro ⟨htype, hwidth, hheight, -⟩
    rcases hsize with h | h | h
    · exact htype h
    · exact hwidth h
    · exact hheight h
  · rw [if_neg hsize]
    obtain ⟨htype, hwidth, hheight⟩ : p.type ≠ 0 ∧ p.width ≠ 0 ∧ p.height ≠ 0 := by
      simpa only [not_or] using hsize
    rw [if_neg (show ¬ p.type = mppVideoCodingUnused from htype),
      if_neg (show ¬ (p.width = 0 ∨ p.height = 0) from fun h => h.elim hwidth hheight)]
    by_cases hinit : replies.mppInit = 0
    · rw [if_neg (show ¬ replies.mppInit ≠ 0 from fun h => h hinit)]
      cases hgroup : replies.groupGet with
      | error e =>
        refine iff_of_false (show ¬ (-1 : Int) = 0 by decide) ?_
        rintro ⟨-, -, -, -, hok⟩
        rw [isOk_error] at hok
        cases hok
      | ok group => exact iff_of_true rfl ⟨htype, hwidth, hheight, hinit, rfl⟩
    · rw [if_pos (show replies.mppInit ≠ 0 from hinit)]
      exact iff_of_false (show ¬ (-1 : Int) = 0 by decide) fun h => hinit h.2.2.2.1

theorem init_ret_iff (m : RockitHwMpi) (replies : InitReplies) (pairs : RockitHWParamPairs) :
    (init m replies pairs).val.ret = 0 ↔ InitSucceeds replies (initParams pairs).val := by
  unfold init
  by_cases hmalloc : replies.malloc = false
  · rw [if_pos hmalloc]
    refine iff_of_false (show ¬ (-1 : Int) = 0 by decide) fun h => ?_
    have htrue := h.malloc
    rw [hmalloc] at htrue
    cases htrue
  · rw [if_neg hmalloc]
    cases hcreate : replies.mppCreate with
    | error e =>
      refine iff_of_false (show ¬ (-1 : Int) = 0 by decide) fun h => ?_
      have hok := h.mppCreate
      rw [hcreate, isOk_error] at hok
      cases hok
    | ok mppCtx =>
      rw [Reads.val_map, initWith_ret_iff]
      constructor
      · rintro ⟨htype, hwidth, hheight, hinit, hgroup⟩
        exact ⟨by simpa using hmalloc, by rw [hcreate]; rfl, htype, hwidth, hheight, hinit, hgroup⟩
      · intro h
        exact ⟨h.type, h.width, h.height, h.mppInit, h.groupGet⟩

/-! ## An object without a context -/

/-- Every call is refused, and nothing is done. -/
theorem result_of_none {m : RockitHwMpi} (h : m.mCtx = none) (c : Call) :
    c.result m = ⟨-1, m, []⟩ := by
  have hopen : m.openCtx = none := by
    unfold RockitHwMpi.openCtx
    rw [h]
    split <;> rfl
  cases c with
  | enqueue replies buffer =>
    unfold Call.result RockitHw.enqueue
    rw [hopen]
    rfl
  | dequeue reply hwBuffer =>
    unfold Call.result RockitHw.dequeue
    rw [hopen]
  | commitBuffer replies buffer =>
    unfold Call.result RockitHw.commitBuffer
    rw [hopen]
  | giveBackBuffer buffer =>
    unfold Call.result RockitHw.giveBackBuffer
    rw [h]
  | reset err =>
    unfold Call.result RockitHw.reset
    rw [h]
  | flush err =>
    unfold Call.result RockitHw.flush
    rw [h]
  | control cmd param =>
    unfold Call.result RockitHw.control
    rw [h]
    rfl
  | query cmd unused out =>
    unfold Call.result RockitHw.query
    rw [h]

/-- A run in which nothing has happened. -/
structure Refused (s : MpiRun) : Prop where
  noCtx : s.hal.mCtx = none
  refused : ∀ d ∈ s.history, d.ret = -1 ∧ d.events = []

theorem refused_run {s s' : MpiRun} (h0 : Refused s)
    (h : Reach MpiRun.step (fun _ _ => True) s s') : Refused s' := by
  refine h.inv Refused h0 fun s c s' hs _ hstep => ?_
  cases hstep
  have hresult := result_of_none hs.noCtx c
  refine ⟨?_, fun d hd => ?_⟩
  · show (c.result s.hal).hal.mCtx = none
    rw [hresult]
    exact hs.noCtx
  · rcases List.mem_append.mp hd with hd | hd
    · exact hs.refused d hd
    · rw [List.mem_singleton.mp hd, hresult]
      exact ⟨rfl, rfl⟩

/-! ## All or nothing -/

/-- **All or nothing.**  A call returns 0 when all it asks for is given and the parameters name
codec and size.  Then it leaves the context and the group it obtained and two empty lists, and
has released nothing.  Any other returns -1 and leaves no context; what it acquired it has
released once, and from then on every call is refused. -/
theorem init_allOrNothing (m : RockitHwMpi) (replies : InitReplies) (pairs : RockitHWParamPairs) :
    ((init m replies pairs).val.ret = 0 ↔ InitSucceeds replies (initParams pairs).val) ∧
    ((init m replies pairs).val.ret = 0 →
      ∃ mppCtx group, replies.mppCreate = .ok mppCtx ∧ replies.groupGet = .ok group ∧
        (init m replies pairs).val.hal.mCtx = some ⟨mppCtx, group, [], []⟩ ∧
        resources (init m replies pairs).val.events =
          [.acquire .block, .acquire (.context mppCtx), .acquire (.group group)]) ∧
    ((init m replies pairs).val.ret ≠ 0 →
      (init m replies pairs).val.ret = -1 ∧ (init m replies pairs).val.hal.mCtx = none ∧
      GivesBack (resources (init m replies pairs).val.events) ∧
      ∀ s, Reach MpiRun.step (fun _ _ => True) (.start m replies pairs) s →
        ∀ d ∈ s.history, d.ret = -1 ∧ d.events = []) := by
  have hended := init_ended m replies pairs
  refine ⟨init_ret_iff m replies pairs, fun hret => ?_, fun hret => ?_⟩
  · generalize resources (init m replies pairs).val.events = tr at hended ⊢
    cases hended with
    | noBlock ret =>
      rw [ret] at hret
      cases hret
    | noContext ret =>
      rw [ret] at hret
      cases hret
    | failed ret =>
      rw [ret] at hret
      cases hret
    | done create groupGet _ ctx => exact ⟨_, _, create, groupGet, ctx, rfl⟩
  · have hfailed : (init m replies pairs).val.ret = -1 ∧
        (init m replies pairs).val.hal.mCtx = none ∧
        GivesBack (resources (init m replies pairs).val.events) := by
      generalize resources (init m replies pairs).val.events = tr at hended ⊢
      cases hended with
      | noBlock ret ctx => exact ⟨ret, ctx, .nil⟩
      | noContext ret ctx => exact ⟨ret, ctx, GivesBack.nil.nest (by simp)⟩
      | @failed mppCtx ret ctx =>
        have hcontext : GivesBack [.acquire (Res.context mppCtx), .release (.context mppCtx)] :=
          GivesBack.nil.nest (by simp)
        exact ⟨ret, ctx, hcontext.nest (by simp)⟩
      | done _ _ ret => exact absurd ret hret
    refine ⟨hfailed.1, hfailed.2.1, hfailed.2.2, fun s hs => ?_⟩
    exact (refused_run ⟨hfailed.2.1, fun d hd => by cases hd⟩ hs).refused

end RockchipHal.RockitHw
