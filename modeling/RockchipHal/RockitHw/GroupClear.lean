import RockchipHal.RockitHw.BufferRefs

/-!
# Clearing the buffer group

`mSite` of a committed buffer is set by three calls: by the `commitBuffer` that lists it, by
a `dequeue` that returns it and by a `giveBackBuffer` of it.  `SiteRun` keeps the log of
these, and the mark is that of the last one (`Marked.site`), so

    HW_CMD_BUFFER_GROUP_CLEAR deletes ↔ the last event of the id is no dequeue
                                                                (groupClear_deletes)

Ids are distinct because `addMppBuffer` searches before it pushes (`Marked.distinct`); what
the loop of `cleanMppBuffer` deletes, walking back from the end, is `deletedBelow`.
-/

namespace RockchipHal.RockitHw

/-! ## The loop's deletions -/

/-- The entries that `cleanMppBufferBelow` deletes, in the order it does. -/
def deletedBelow (site : BufferSite) : (i : Nat) → List MppBufferCtx → List MppBufferCtx
  | 0, _ => []
  | i + 1, l =>
    if l[i]?.any fun b => b.mSite = site then
      l[i]?.toList ++ deletedBelow site i (l.eraseIdx i)
    else deletedBelow site i l

/-- `delete buffer` in `cleanMppBuffer(site)`. -/
def deletedMppBuffers (site : BufferSite) (l : List MppBufferCtx) : List MppBufferCtx :=
  deletedBelow site l.length l

theorem deletedBelow_eq (site : BufferSite) : ∀ (i : Nat) (l : List MppBufferCtx),
    i ≤ l.length → deletedBelow site i l =
      ((l.take i).filter fun b => b.mSite = site).reverse := by
  intro i
  induction i with
  | zero =>
    intro l _
    rfl
  | succ i ih =>
    intro l hi
    have hi' : i < l.length := by omega
    have htake : l.take (i + 1) = l.take i ++ [l[i]] := List.take_succ_eq_append_getElem hi'
    unfold deletedBelow
    rw [List.getElem?_eq_getElem hi', Option.any_some, Option.toList_some, htake,
      List.filter_append, List.reverse_append]
    by_cases hsite : l[i].mSite = site
    · have hlen : (l.take i).length = i := by
        rw [List.length_take]
        omega
      have herase : (l.eraseIdx i).take i = l.take i := by
        rw [List.eraseIdx_eq_take_drop_succ, List.take_left' hlen]
      rw [if_pos (by simpa using hsite), ih _ (by rw [List.length_eraseIdx]; split <;> omega),
        herase]
      simp [hsite]
    · rw [if_neg (by simpa using hsite), ih l (by omega)]
      simp [hsite]

/-- Every entry of the site is deleted once, the last one first. -/
theorem deletedMppBuffers_eq (site : BufferSite) (l : List MppBufferCtx) :
    deletedMppBuffers site l = (l.filter fun b => b.mSite = site).reverse := by
  unfold deletedMppBuffers
  rw [deletedBelow_eq site l.length l (Nat.le_refl _), List.take_length]

/-! ## What sets the mark -/

inductive SiteEvent
  | inserted (bufferId : UInt32)
  | dequeued (bufferId : UInt32)
  | givenBack (bufferId : UInt32)
deriving DecidableEq, Repr

def SiteEvent.bufferId : SiteEvent → UInt32
  | inserted bufferId | dequeued bufferId | givenBack bufferId => bufferId

/-- The call lists an entry of the id, which had none. -/
def Inserts (m : RockitHwMpi) (c : Call) (bufferId : UInt32) : Prop :=
  findMppBuffer m.commitList bufferId = none ∧
    (findMppBuffer (c.result m).hal.commitList bufferId).isSome

instance (m : RockitHwMpi) (c : Call) (bufferId : UInt32) : Decidable (Inserts m c bufferId) := by
  unfold Inserts
  infer_instance

/-- A `dequeue` that returns no buffer (-1) is no event. -/
def Call.siteEvents (m : RockitHwMpi) (c : Call) : List SiteEvent :=
  match c with
  | .commitBuffer _ buffer =>
    if Inserts m c buffer.bufferId then [.inserted buffer.bufferId] else []
  | .dequeue (.ok (some f)) hwBuffer =>
    let r := RockitHw.dequeue m (.ok (some f)) hwBuffer
    if r.1.ret = 0 ∧ f.media.isSome then [.dequeued r.2.bufferId] else []
  | .giveBackBuffer buffer => [.givenBack buffer.bufferId]
  | _ => []

/-- The object after some calls, with the events so far, oldest first. -/
structure SiteRun where
  hal : RockitHwMpi
  log : List SiteEvent

namespace SiteRun

def start (m : RockitHwMpi) (replies : InitReplies) (pairs : RockitHWParamPairs) : SiteRun :=
  ⟨(init m replies pairs).val.hal, []⟩

def step (s : SiteRun) (c : Call) : Option SiteRun :=
  some ⟨(c.result s.hal).hal, s.log ++ c.siteEvents s.hal⟩

/-- The last event of the id. -/
def last (s : SiteRun) (bufferId : UInt32) : Option SiteEvent :=
  s.log.reverse.find? fun e => e.bufferId = bufferId

/-- The client has got the buffer from a `dequeue` and not given it back. -/
def HandedOut (s : SiteRun) (bufferId : UInt32) : Prop :=
  s.last bufferId = some (.dequeued bufferId)

instance (s : SiteRun) (bufferId : UInt32) : Decidable (s.HandedOut bufferId) := by
  unfold HandedOut
  infer_instance

/-! ## The invariant -/

/-- An event is the last one of its own id. -/
theorem last_append_self (hal : RockitHwMpi) (log : List SiteEvent) (e : SiteEvent) :
    (SiteRun.mk hal (log ++ [e])).last e.bufferId = some e := by
  unfold last
  rw [List.reverse_append, List.reverse_singleton, List.singleton_append,
    List.find?_cons_of_pos (by simp)]

theorem last_append_ne (hal hal' : RockitHwMpi) (log : List SiteEvent) {e : SiteEvent}
    {bufferId : UInt32} (h : e.bufferId ≠ bufferId) :
    (SiteRun.mk hal' (log ++ [e])).last bufferId = (SiteRun.mk hal log).last bufferId := by
  unfold last
  rw [List.reverse_append, List.reverse_singleton, List.singleton_append,
    List.find?_cons_of_neg (by simpa using h)]

structure Marked (l : List MppBufferCtx) (s : SiteRun) : Prop where
  distinct : Distinct MppBufferCtx.mUniqueID l
  site : ∀ e ∈ l, e.mSite = .byRockit ↔ s.HandedOut e.mUniqueID

namespace Marked

variable {l : List MppBufferCtx} {log : List SiteEvent} {hal : RockitHwMpi}

/-- A new entry is the decoder's. -/
theorem insert (h : Marked l ⟨hal, log⟩) (hal' : RockitHwMpi) {e : MppBufferCtx}
    (hsite : e.mSite = .byMpi) (hnew : ∀ b ∈ l, b.mUniqueID ≠ e.mUniqueID) :
    Marked (l ++ [e]) ⟨hal', log ++ [.inserted e.mUniqueID]⟩ where
  distinct := (distinct_push l e).mpr ⟨h.distinct, hnew⟩
  site := by
    intro b hb
    unfold HandedOut
    rcases List.mem_append.mp hb with hb | hb
    · have hne : (SiteEvent.inserted e.mUniqueID).bufferId ≠ b.mUniqueID := (hnew b hb).symm
      rw [last_append_ne hal hal' log hne]
      exact h.site b hb
    · have hlast : (SiteRun.mk hal' (log ++ [.inserted e.mUniqueID])).last e.mUniqueID =
          some (.inserted e.mUniqueID) := last_append_self hal' log (.inserted e.mUniqueID)
      rw [List.mem_singleton.mp hb, hlast, hsite]
      refine iff_of_false (by decide) fun he => ?_
      cases Option.some.inj he

/-- An event that hands the entry of its id out, or takes it back, marks it. -/
theorem mark (h : Marked l ⟨hal, log⟩) (hal' : RockitHwMpi) (e : SiteEvent) (site : BufferSite)
    (hsite : site = .byRockit ↔ e = .dequeued e.bufferId) :
    Marked (modifyMppBuffer l e.bufferId fun b => { b with mSite := site })
      ⟨hal', log ++ [e]⟩ where
  distinct := by
    unfold Distinct modifyMppBuffer
    rw [map_modifyKey MppBufferCtx.mUniqueID e.bufferId (fun b => { b with mSite := site }) l
      fun _ _ _ => rfl]
    exact h.distinct
  site := by
    intro b hb
    unfold modifyMppBuffer at hb
    rw [h.distinct.modifyKey_eq_map] at hb
    obtain ⟨a, ha, rfl⟩ := List.mem_map.mp hb
    unfold HandedOut
    by_cases hid : a.mUniqueID = e.bufferId
    · rw [if_pos hid]
      show site = .byRockit ↔ (SiteRun.mk hal' (log ++ [e])).last a.mUniqueID =
        some (.dequeued a.mUniqueID)
      rw [hid, last_append_self, Option.some.injEq]
      exact hsite
    · rw [if_neg hid, last_append_ne hal hal' log (Ne.symm hid)]
      exact h.site a ha

/-- An event of an id that is not listed marks nothing. -/
theorem unlisted (h : Marked l ⟨hal, log⟩) (hal' : RockitHwMpi) (e : SiteEvent)
    (hnone : ∀ b ∈ l, b.mUniqueID ≠ e.bufferId) : Marked l ⟨hal', log ++ [e]⟩ where
  distinct := h.distinct
  site := by
    intro b hb
    unfold HandedOut
    rw [last_append_ne hal hal' log (hnone b hb).symm]
    exact h.site b hb

theorem sublist (h : Marked l ⟨hal, log⟩) (hal' : RockitHwMpi) {l' : List MppBufferCtx}
    (hs : l'.Sublist l) : Marked l' ⟨hal', log⟩ where
  distinct := h.distinct.sublist hs
  site := fun b hb => h.site b (hs.subset hb)

end Marked

end SiteRun

/-! ### The events of a call -/

/-- A call after which the list is as before and the client has received nothing. -/
theorem siteEvents_keep (m : RockitHwMpi) (c : Call)
    (hl : (c.result m).hal.commitList = m.commitList) (hr : (c.done m).received = []) :
    c.siteEvents m = [] := by
  cases c with
  | commitBuffer replies buffer =>
    refine if_neg ?_
    unfold Inserts
    rw [hl]
    rintro ⟨hnone, hsome⟩
    rw [hnone] at hsome
    cases hsome
  | dequeue reply hwBuffer =>
    rcases reply with e | _ | f
    · rfl
    · rfl
    · refine if_neg ?_
      rintro ⟨hret, hsome⟩
      obtain ⟨b, hb⟩ := Option.isSome_iff_exists.mp hsome
      have hreceived : ((Call.dequeue (.ok (some f)) hwBuffer).done m).received =
          f.media.toList.map fun b => .acquire b.index := if_pos hret
      rw [hreceived, hb] at hr
      cases hr
  | giveBackBuffer buffer => cases hr
  | enqueue replies buffer => rfl
  | reset err => rfl
  | flush err => rfl
  | control cmd param => rfl
  | query cmd unused out => rfl

theorem siteEvents_dequeue (m : RockitHwMpi) {f : MppFrame} (hwBuffer : RockitHWBuffer)
    {b : MppBuffer} (media : f.media = some b)
    (hr : ((Call.dequeue (.ok (some f)) hwBuffer).done m).received = [.acquire b.index]) :
    (Call.dequeue (.ok (some f)) hwBuffer).siteEvents m = [.dequeued b.index] := by
  have hret : (dequeue m (.ok (some f)) hwBuffer).1.ret = 0 := by
    by_contra hne
    have hnil : ((Call.dequeue (.ok (some f)) hwBuffer).done m).received = [] := if_neg hne
    rw [hr] at hnil
    cases hnil
  have hid : (dequeue m (.ok (some f)) hwBuffer).2.bufferId = b.index := by
    unfold dequeue at hret ⊢
    cases hopen : m.openCtx with
    | none =>
      rw [hopen] at hret
      cases hret
    | some ctx =>
      dsimp only
      rw [if_neg (by simp [media])]
      simp only [frameBuffer, media]
  have hsome : f.media.isSome = true := by
    rw [media]
    rfl
  unfold Call.siteEvents
  dsimp only
  rw [if_pos ⟨hret, hsome⟩, hid]

namespace SiteRun

theorem Marked.step {s : SiteRun} (h : Marked s.hal.commitList s) (c : Call) :
    Marked (c.result s.hal).hal.commitList ⟨(c.result s.hal).hal, s.log ++ c.siteEvents s.hal⟩ := by
  have hstep : CommitStep s.hal c (c.result s.hal).hal.commitList (c.done s.hal).refs
      (c.done s.hal).received := c.commitStep s.hal
  have h : Marked s.hal.commitList ⟨s.hal, s.log⟩ := h
  generalize hl : (c.result s.hal).hal.commitList = l at hstep ⊢
  generalize (c.done s.hal).refs = refs at hstep
  generalize hr : (c.done s.hal).received = received at hstep
  cases hstep with
  | keep =>
    rw [siteEvents_keep s.hal c hl hr, List.append_nil]
    exact h.sublist _ (List.Sublist.refl _)
  | @commit replies buffer fd call =>
    subst call
    cases hfind : findMppBuffer s.hal.commitList buffer.bufferId with
    | some e =>
      rw [hfind] at hl
      have hnone : (Call.commitBuffer replies buffer).siteEvents s.hal = [] :=
        if_neg fun hins => by
          have := hins.1
          rw [hfind] at this
          cases this
      rw [hnone, List.append_nil]
      exact h.sublist _ (List.Sublist.refl _)
    | none =>
      rw [hfind] at hl
      have hnew := (find?_eq_none_iff_key _ _).mp hfind
      have hevents : (Call.commitBuffer replies buffer).siteEvents s.hal =
          [.inserted buffer.bufferId] := by
        refine if_pos ⟨hfind, ?_⟩
        rw [hl]
        unfold findMppBuffer
        rw [List.find?_isSome]
        exact ⟨_, List.mem_append_right _ List.mem_cons_self, decide_eq_true rfl⟩
      rw [hevents]
      exact h.insert _ rfl hnew
  | @dequeue f hwBuffer b call media =>
    subst call
    rw [siteEvents_dequeue s.hal hwBuffer media hr]
    exact h.mark _ (.dequeued b.index) .byRockit (iff_of_true rfl rfl)
  | @giveBack buffer e call found =>
    subst call
    refine h.mark _ (.givenBack buffer.bufferId) .byMpi (iff_of_false (by decide) fun he => ?_)
    cases he
  | @giveBackNone buffer call absent =>
    subst call
    exact h.unlisted _ (.givenBack buffer.bufferId) ((find?_eq_none_iff_key _ _).mp absent)
  | @clear cmd param call isClear =>
    subst call
    rw [cleanMppBuffer_eq, show (Call.control cmd param).siteEvents s.hal = [] from rfl,
      List.append_nil]
    exact h.sublist _ List.filter_sublist

theorem marked_run (m : RockitHwMpi) (replies : InitReplies) (pairs : RockitHWParamPairs)
    {s : SiteRun} (hs : Reach step (fun _ _ => True) (start m replies pairs) s) :
    Marked s.hal.commitList s := by
  refine hs.inv (fun s => Marked s.hal.commitList s) ?_ fun s c s' hmarked _ hstep => ?_
  · have hl : (start m replies pairs).hal.commitList = [] := (start_lists m replies pairs).2
    rw [hl]
    refine ⟨distinct_nil, fun e he => ?_⟩
    cases he
  · cases hstep
    exact hmarked.step c

/-! ## The command -/

theorem control_groupClear {m : RockitHwMpi} {ctx : MpiCodecContext} (hctx : m.mCtx = some ctx)
    {cmd : Int} (hcmd : RockitHWCtrCmd.ofInt cmd = some .bufferGroupClear)
    (param : RockitHWParamPairs) : (control m cmd param).val = bufferGroupClear m ctx := by
  unfold control
  rw [hctx]
  dsimp only
  rw [hcmd]
  rfl

/-- **Clearing the group.**  In every state reached, the committed ids are distinct, and the
command deletes once each entry whose last event is no dequeue, keeps the others as they
are and in their order, and deletes each mapped buffer once. -/
theorem groupClear_deletes (m : RockitHwMpi) (replies : InitReplies) (pairs : RockitHWParamPairs)
    (s : SiteRun) (hs : Reach step (fun _ _ => True) (start m replies pairs) s) :
    Distinct MppBufferCtx.mUniqueID s.hal.commitList ∧
      ∀ ctx cmd param, s.hal.mCtx = some ctx →
        RockitHWCtrCmd.ofInt cmd = some .bufferGroupClear →
        (deletedMppBuffers .byMpi ctx.mCommitList).Perm
            (ctx.mCommitList.filter fun e => ¬ s.HandedOut e.mUniqueID) ∧
          (deletedMppBuffers .byMpi ctx.mCommitList).Nodup ∧
          (control s.hal cmd param).val.hal.commitList =
            ctx.mCommitList.filter (fun e => s.HandedOut e.mUniqueID) ∧
          (control s.hal cmd param).val.hal.dataList = [] ∧
          (control s.hal cmd param).val.events =
            ctx.mDataList.flatMap DataBufferCtx.delete ++ [.groupClear ctx.frmGrp] := by
  have hmarked := marked_run m replies pairs hs
  refine ⟨hmarked.distinct, fun ctx cmd param hctx hcmd => ?_⟩
  rw [commitList_of_ctx s.hal ctx hctx] at hmarked
  have hsite : ∀ e ∈ ctx.mCommitList, e.mSite = .byMpi ↔ ¬ s.HandedOut e.mUniqueID := by
    intro e he
    rw [← hmarked.site e he]
    cases e.mSite <;> simp
  have hdeleted : deletedMppBuffers .byMpi ctx.mCommitList =
      (ctx.mCommitList.filter fun e => ¬ s.HandedOut e.mUniqueID).reverse := by
    rw [deletedMppBuffers_eq]
    congr 1
    exact List.filter_congr fun e he => decide_eq_decide.mpr (hsite e he)
  have hnodup : ctx.mCommitList.Nodup := List.Nodup.of_map _ hmarked.distinct
  rw [control_groupClear hctx hcmd, hdeleted]
  refine ⟨List.reverse_perm _, List.nodup_reverse.mpr (hnodup.filter _), ?_, rfl, rfl⟩
  show cleanMppBuffer .byMpi ctx.mCommitList = _
  rw [cleanMppBuffer_eq]
  refine List.filter_congr fun e he => decide_eq_decide.mpr ?_
  have := hmarked.site e he
  rw [← this]
  cases e.mSite <;> simp

/-- Buffers 1 and 2 are committed and 1 is handed out, so that 2 is deleted. -/
theorem groupClear_deletes_two :
    ∃ s ∈ run step (fun _ _ => True) (start ⟨none, 3, 0, 0, false⟩ initReplies codecPairs)
        [.commitBuffer (importsAs 1) (packet 1 0), .commitBuffer (importsAs 2) (packet 2 0),
          .dequeue (.ok (some frameOne)) (packet 0 0)],
      s.hal.commitList.map MppBufferCtx.mUniqueID = [1, 2] ∧
      (deletedMppBuffers .byMpi s.hal.commitList).map MppBufferCtx.mUniqueID = [2] ∧
      (control s.hal 1 noPairs).val.hal.commitList =
        s.hal.commitList.filter fun e => s.HandedOut e.mUniqueID :=
  ⟨_, Option.get_mem rfl, by decide, by decide,
    ((groupClear_deletes ⟨none, 3, 0, 0, false⟩ initReplies codecPairs _
      (Reach.of_run_get _ rfl)).2 _ 1 noPairs rfl (by decide)).2.2.1⟩

end SiteRun

end RockchipHal.RockitHw
