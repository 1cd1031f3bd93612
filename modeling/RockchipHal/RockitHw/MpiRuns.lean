import RockchipHal.Lib.Reach
import RockchipHal.RockitHw.Mpi

/-!
# Runs of `RockitHwMpi`

A `Call` is one call of a client on an initialised object together with the
answers it gets from outside; `MpiRun` is the object after some calls, with
their history.  All that a result about `mDataList` needs to know of a call is in
one lemma, what the call can do to the list (`Call.dataStep`).
-/

namespace RockchipHal.RockitHw

inductive Call
  | enqueue (replies : EnqueueReplies) (buffer : RockitHWBuffer)
  | dequeue (reply : Except Int (Option MppFrame)) (hwBuffer : RockitHWBuffer)
  | commitBuffer (replies : CommitReplies) (buffer : RockitHWBuffer)
  | giveBackBuffer (buffer : RockitHWBuffer)
  | reset (err : Int)
  | flush (err : Int)
  | control (cmd : Int) (param : RockitHWParamPairs)
  | query (cmd : Int) (unused : UInt32) (out : RockitHWParamPairs)

def Call.result (m : RockitHwMpi) : Call → Result
  | enqueue replies buffer => (RockitHw.enqueue m replies buffer).val
  | dequeue reply hwBuffer => (RockitHw.dequeue m reply hwBuffer).1
  | commitBuffer replies buffer => RockitHw.commitBuffer m replies buffer
  | giveBackBuffer buffer => RockitHw.giveBackBuffer m buffer
  | reset err => RockitHw.reset m err
  | flush err => RockitHw.flush m err
  | control cmd param => (RockitHw.control m cmd param).val
  | query cmd unused out => (RockitHw.query m cmd unused out).1

/-- A call that has returned. -/
structure Done where
  call : Call
  ret : Int
  events : List Event

structure MpiRun where
  hal : RockitHwMpi
  history : List Done

/-- The run with one more call. -/
def MpiRun.after (s : MpiRun) (c : Call) : MpiRun :=
  let r := c.result s.hal
  ⟨r.hal, s.history ++ [⟨c, r.ret, r.events⟩]⟩

def MpiRun.step (s : MpiRun) (c : Call) : Option MpiRun := some (s.after c)

/-- The object as `init` leaves it, before any call. -/
def MpiRun.start (m : RockitHwMpi) (replies : InitReplies) (pairs : RockitHWParamPairs) : MpiRun :=
  ⟨(init m replies pairs).val.hal, []⟩

def RockitHwMpi.dataList (m : RockitHwMpi) : List DataBufferCtx :=
  (m.mCtx.map MpiCodecContext.mDataList).getD []

def RockitHwMpi.commitList (m : RockitHwMpi) : List MppBufferCtx :=
  (m.mCtx.map MpiCodecContext.mCommitList).getD []

/-! ## The lists after init -/

theorem initWith_lists (m : RockitHwMpi) (replies : InitReplies) (mppCtx : Nat) (p : InitParams) :
    (initWith m replies mppCtx p).hal.dataList = [] ∧
      (initWith m replies mppCtx p).hal.commitList = [] := by
  unfold initWith
  dsimp only
  split
  · exact ⟨rfl, rfl⟩
  split
  · exact ⟨rfl, rfl⟩
  split
  · exact ⟨rfl, rfl⟩
  split
  · exact ⟨rfl, rfl⟩
  split
  · exact ⟨rfl, rfl⟩
  · exact ⟨rfl, rfl⟩

/-- Both lists are empty after `init`, whatever it returns. -/
theorem start_lists (m : RockitHwMpi) (replies : InitReplies) (pairs : RockitHWParamPairs) :
    (MpiRun.start m replies pairs).hal.dataList = [] ∧
      (MpiRun.start m replies pairs).hal.commitList = [] := by
  unfold MpiRun.start init
  split
  · exact ⟨rfl, rfl⟩
  · split
    · exact ⟨rfl, rfl⟩
    · exact initWith_lists _ _ _ _

/-! ## What a call does to mDataList -/

/-- The loop of `findDataBuffer` looks at the front entry only. -/
theorem findDataBuffer_eq (l : List DataBufferCtx) (fd : UInt32) :
    findDataBuffer l fd = l.head?.filter fun b => b.mUniqueID = fd := by
  unfold findDataBuffer
  cases l with
  | nil => rfl
  | cons b l =>
    by_cases h : b.mUniqueID = fd
    · simp [List.range_succ_eq_map, h, Option.filter]
    · have : ∀ n : Nat, (List.range n).findSome? (fun _ =>
          (b :: l)[0]?.filter fun b => decide (b.mUniqueID = fd)) = none := by
        intro n
        rw [List.findSome?_eq_none_iff]
        intro _ _
        simp [Option.filter, h]
      rw [this]
      simp [Option.filter, h]

theorem openCtx_eq_some_iff (m : RockitHwMpi) (ctx : MpiCodecContext) :
    m.openCtx = some ctx ↔ 0 ≤ m.mDrmFd ∧ m.mCtx = some ctx := by
  unfold RockitHwMpi.openCtx
  by_cases h : m.mDrmFd < 0
  · rw [if_pos h]
    constructor
    · intro hc
      cases hc
    · rintro ⟨h0, -⟩
      omega
  · rw [if_neg h]
    constructor
    · intro hc
      exact ⟨by omega, hc⟩
    · rintro ⟨-, hc⟩
      exact hc

theorem dataList_of_ctx (m : RockitHwMpi) (ctx : MpiCodecContext) (h : m.mCtx = some ctx) :
    m.dataList = ctx.mDataList := by
  rw [RockitHwMpi.dataList, h]
  rfl

theorem dataList_of_openCtx (m : RockitHwMpi) (ctx : MpiCodecContext)
    (h : m.openCtx = some ctx) : m.dataList = ctx.mDataList :=
  dataList_of_ctx m ctx ((openCtx_eq_some_iff m ctx).mp h).2

/-- `b` has just been opened and mapped for `bufferId`, with exactly these effects. -/
structure Mapped (replies : DrmReplies) (bufferId : UInt32) (b : DataBufferCtx)
    (events : List Event) : Prop where
  id : b.mUniqueID = bufferId
  addr : replies.mmap = .ok b.mData
  opened : ∃ handle size, replies.gemOpen = .ok (handle, size) ∧ b.mSize = size.toUInt32 ∧
    events = [.gemOpen bufferId handle, .handleToFd handle b.mFd,
      .mmap b.mData (pageRound replies.pageSize b.mSize)]

theorem mapDataBuffer_ok (replies : DrmReplies) (bufferId : UInt32) (b : DataBufferCtx)
    (events : List Event) (h : mapDataBuffer replies bufferId = .ok (b, events)) :
    Mapped replies bufferId b events := by
  unfold mapDataBuffer drmGetInfoFromName at h
  cases hopen : replies.gemOpen with
  | error e =>
    simp only [hopen, Except.map] at h
    cases h
  | ok hs =>
    obtain ⟨handle, size⟩ := hs
    simp only [hopen, Except.map] at h
    by_cases hret : (drmMap replies handle size.toUInt32).ret < 0
    · rw [if_pos hret] at h
      cases h
    · rw [if_neg hret] at h
      obtain ⟨haddr, hev⟩ := drmMap_ok replies handle size.toUInt32 hret
      obtain ⟨rfl, rfl⟩ := Prod.mk.inj (Except.ok.inj h)
      exact ⟨rfl, haddr, handle, size, hopen, rfl, by rw [hev]⟩

theorem mapDataBuffer_error (replies : DrmReplies) (bufferId : UInt32) (events : List Event)
    (h : mapDataBuffer replies bufferId = .error events) : ∀ e ∈ events, e.Attempt := by
  unfold mapDataBuffer drmGetInfoFromName at h
  cases hopen : replies.gemOpen with
  | error e =>
    simp only [hopen, Except.map] at h
    cases h
    simp
  | ok hs =>
    obtain ⟨handle, size⟩ := hs
    simp only [hopen, Except.map] at h
    by_cases hret : (drmMap replies handle size.toUInt32).ret < 0
    · rw [if_pos hret] at h
      obtain ⟨hptr, hev⟩ := drmMap_error replies handle size.toUInt32 hret
      rw [← Except.error.inj h]
      intro e he
      simp only [List.mem_append, List.mem_cons] at he
      rcases he with ((rfl | he) | he) | he
      · trivial
      · exact hev e he
      · split at he
        next hne =>
          rw [List.mem_singleton.mp he]
          exact hptr.resolve_left hne
        · cases he
      · split at he
        · rw [List.mem_singleton.mp he]
          trivial
        · cases he
    · rw [if_neg hret] at h
      cases h

/-- What a call can do to `mDataList`, and the mappings it makes and drops. -/
inductive DataStep (m : RockitHwMpi) (c : Call) : List DataBufferCtx → List Event → Prop
  | keep {events : List Event} (neutral : ∀ e ∈ events, e.Neutral) :
      DataStep m c m.dataList events
  | add {replies : EnqueueReplies} {buffer : RockitHWBuffer} {b : DataBufferCtx}
      {mapping rest : List Event} (call : c = .enqueue replies buffer) (isOpen : 0 ≤ m.mDrmFd)
      (data : (enqueueParams buffer.pair).val.eos = false)
      (miss : findDataBuffer m.dataList buffer.bufferId = none)
      (mapped : Mapped replies.drm buffer.bufferId b mapping)
      (neutral : ∀ e ∈ rest, e.Neutral) : DataStep m c (m.dataList ++ [b]) (mapping ++ rest)
  | free (id : UInt32) :
      DataStep m c (freeDataBuffer m.dataList id).1 (freeDataBuffer m.dataList id).2
  | clear {rest : List Event} (neutral : ∀ e ∈ rest, e.Neutral) :
      DataStep m c [] (freeDataBufferList m.dataList ++ rest)

theorem neutral_putPacket (pkt : MppPacket) :
    ∀ e ∈ [Event.packetInit pkt.data pkt.length, .decodePutPacket pkt, .packetDeinit],
      e.Neutral := by
  intro e he
  simp only [List.mem_cons, List.not_mem_nil, or_false] at he
  rcases he with rfl | rfl | rfl <;> trivial

theorem enqueue_dataStep (m : RockitHwMpi) (replies : EnqueueReplies) (buffer : RockitHWBuffer) :
    DataStep m (.enqueue replies buffer) (enqueue m replies buffer).val.hal.dataList
      (enqueue m replies buffer).val.events := by
  unfold enqueue
  cases hopen : m.openCtx with
  | none => exact .keep (by simp)
  | some ctx =>
    have hl := dataList_of_openCtx m ctx hopen
    rw [Reads.val_map]
    unfold enqueueWith
    cases heos : (enqueueParams buffer.pair).val.eos with
    | true =>
      rw [if_pos rfl]
      exact .keep (neutral_putPacket _)
    | false =>
      rw [if_neg Bool.false_ne_true]
      cases hfind : findDataBuffer ctx.mDataList buffer.bufferId with
      | some b => exact .keep (neutral_putPacket _)
      | none =>
        cases hmap : mapDataBuffer replies.drm buffer.bufferId with
        | error events => exact .keep fun e he => (mapDataBuffer_error _ _ _ hmap e he).neutral
        | ok be =>
          show DataStep m _ (ctx.mDataList ++ [be.1]) _
          rw [← hl] at hfind ⊢
          exact .add rfl ((openCtx_eq_some_iff m ctx).mp hopen).1 heos hfind
            (mapDataBuffer_ok _ _ be.1 be.2 hmap) (neutral_putPacket _)

theorem control_dataStep (m : RockitHwMpi) (cmd : Int) (param : RockitHWParamPairs) :
    DataStep m (.control cmd param) (control m cmd param).val.hal.dataList
      (control m cmd param).val.events := by
  unfold control
  cases hctx : m.mCtx with
  | none => exact .keep (by simp)
  | some ctx =>
    have hl := dataList_of_ctx m ctx hctx
    dsimp only
    split
    · show DataStep m _ [] (freeDataBufferList ctx.mDataList ++ [.groupClear ctx.frmGrp])
      rw [← hl]
      exact .clear (by simp [Event.Neutral])
    · exact .keep (by simp [bufferReady, Event.Neutral])
    · rw [Reads.val_map]
      show DataStep m _ (freeDataBuffer ctx.mDataList _).1 (freeDataBuffer ctx.mDataList _).2
      rw [← hl]
      exact .free _
    · exact .keep (by simp)

theorem handOut_dataList (ctx : MpiCodecContext) (media : Option MppBuffer) :
    (handOut ctx media).mDataList = ctx.mDataList := by
  cases media <;> rfl

theorem dequeue_dataStep (m : RockitHwMpi) (reply : Except Int (Option MppFrame))
    (hwBuffer : RockitHWBuffer) :
    DataStep m (.dequeue reply hwBuffer) (dequeue m reply hwBuffer).1.hal.dataList
      (dequeue m reply hwBuffer).1.events := by
  unfold dequeue
  cases hopen : m.openCtx with
  | none => exact .keep (by simp)
  | some ctx =>
    dsimp only
    split
    · exact .keep (by simp [Event.Neutral])
    · exact .keep (by simp [Event.Neutral])
    next f =>
      split
      · exact .keep (by simp [Event.Neutral])
      · show DataStep m _ (handOut ctx f.media).mDataList _
        rw [handOut_dataList, ← dataList_of_openCtx m ctx hopen]
        refine .keep ?_
        cases f.media <;> simp [Event.Neutral]

theorem addMppBuffer_dataList (ctx : MpiCodecContext) (mapFd : Int) (bufferId : UInt32)
    (mppBuffer : Option MppBuffer) :
    (addMppBuffer ctx mapFd bufferId mppBuffer).mDataList = ctx.mDataList := by
  unfold addMppBuffer
  split <;> rfl

theorem neutral_commitExit (mapFd : Int) (handle : UInt32) :
    ∀ e ∈ commitExit mapFd handle, e.Neutral := by
  intro e he
  rcases List.mem_append.mp he with he | he
  · split at he
    · rw [List.mem_singleton.mp he]
      trivial
    · cases he
  · rw [List.mem_singleton.mp he]
    trivial

theorem commitBuffer_dataStep (m : RockitHwMpi) (replies : CommitReplies)
    (buffer : RockitHWBuffer) :
    DataStep m (.commitBuffer replies buffer)
      (commitBuffer m replies buffer).hal.dataList (commitBuffer m replies buffer).events := by
  unfold commitBuffer
  cases hopen : m.openCtx with
  | none => exact .keep (by simp)
  | some ctx =>
    rcases drmGetInfoFromName replies.drm with e | ⟨handle, size⟩
    · exact .keep (neutral_commitExit _ _)
    · have hfd : ∀ e ∈ Event.gemOpen buffer.bufferId handle ::
          (drmHandleToFd replies.drm handle).events, e.Neutral := by
        intro e he
        rcases List.mem_cons.mp he with rfl | he
        · trivial
        · exact (drmHandleToFd_attempt replies.drm handle e he).neutral
      dsimp only
      split
      · refine .keep fun e he => ?_
        rcases List.mem_append.mp he with he | he
        · exact hfd e he
        · exact neutral_commitExit _ _ e he
      · show DataStep m _ (addMppBuffer ctx _ _ _).mDataList _
        rw [addMppBuffer_dataList, ← dataList_of_openCtx m ctx hopen]
        refine .keep fun e he => ?_
        rcases List.mem_append.mp he with he | he
        · rcases List.mem_append.mp he with he | he
          · exact hfd e he
          · obtain ⟨b, -, rfl⟩ := List.mem_map.mp he
            trivial
        · exact neutral_commitExit _ _ e he

theorem giveBackBuffer_dataStep (m : RockitHwMpi) (buffer : RockitHWBuffer) :
    DataStep m (.giveBackBuffer buffer) (giveBackBuffer m buffer).hal.dataList
      (giveBackBuffer m buffer).events := by
  unfold giveBackBuffer
  cases hctx : m.mCtx with
  | none => exact .keep (by simp)
  | some ctx =>
    dsimp only
    split
    · exact .keep (by simp)
    next e _ =>
      show DataStep m _ ctx.mDataList _
      rw [← dataList_of_ctx m ctx hctx]
      refine .keep ?_
      cases e.mMppBuffer <;> simp [Event.Neutral]

theorem reset_dataStep (m : RockitHwMpi) (err : Int) :
    DataStep m (.reset err) (reset m err).hal.dataList (reset m err).events := by
  unfold reset
  cases m.mCtx <;> exact .keep (by simp [Event.Neutral])

theorem flush_dataStep (m : RockitHwMpi) (err : Int) :
    DataStep m (.flush err) (flush m err).hal.dataList (flush m err).events := by
  unfold flush
  cases m.mCtx <;> exact .keep (by simp [Event.Neutral])

theorem query_dataStep (m : RockitHwMpi) (cmd : Int) (unused : UInt32)
    (out : RockitHWParamPairs) :
    DataStep m (.query cmd unused out) (query m cmd unused out).1.hal.dataList
      (query m cmd unused out).1.events := by
  unfold query
  cases m.mCtx with
  | none => exact .keep (by simp)
  | some ctx =>
    dsimp only
    split <;> exact .keep (by simp)

/-- Every call is one of the `DataStep`s. -/
theorem Call.dataStep (m : RockitHwMpi) (c : Call) :
    DataStep m c (c.result m).hal.dataList (c.result m).events := by
  cases c with
  | enqueue replies buffer => exact enqueue_dataStep m replies buffer
  | dequeue reply hwBuffer => exact dequeue_dataStep m reply hwBuffer
  | commitBuffer replies buffer => exact commitBuffer_dataStep m replies buffer
  | giveBackBuffer buffer => exact giveBackBuffer_dataStep m buffer
  | reset err => exact reset_dataStep m err
  | flush err => exact flush_dataStep m err
  | control cmd param => exact control_dataStep m cmd param
  | query cmd unused out => exact query_dataStep m cmd unused out

/-! ## The DRM device -/

theorem enqueue_mDrmFd (m : RockitHwMpi) (replies : EnqueueReplies) (buffer : RockitHWBuffer) :
    (enqueue m replies buffer).val.hal.mDrmFd = m.mDrmFd := by
  unfold enqueue
  cases m.openCtx with
  | none => rfl
  | some ctx =>
    rw [Reads.val_map]
    unfold enqueueWith putPacket
    split
    · rfl
    split
    · rfl
    split <;> rfl

theorem dequeue_mDrmFd (m : RockitHwMpi) (reply : Except Int (Option MppFrame))
    (hwBuffer : RockitHWBuffer) : (dequeue m reply hwBuffer).1.hal.mDrmFd = m.mDrmFd := by
  unfold dequeue
  cases m.openCtx with
  | none => rfl
  | some ctx =>
    dsimp only
    split
    · rfl
    · rfl
    · split <;> rfl

theorem commitBuffer_mDrmFd (m : RockitHwMpi) (replies : CommitReplies) (buffer : RockitHWBuffer) :
    (commitBuffer m replies buffer).hal.mDrmFd = m.mDrmFd := by
  unfold commitBuffer
  cases m.openCtx with
  | none => rfl
  | some ctx =>
    dsimp only
    split
    · rfl
    · split <;> rfl

theorem giveBackBuffer_mDrmFd (m : RockitHwMpi) (buffer : RockitHWBuffer) :
    (giveBackBuffer m buffer).hal.mDrmFd = m.mDrmFd := by
  unfold giveBackBuffer
  cases m.mCtx with
  | none => rfl
  | some ctx =>
    dsimp only
    split <;> rfl

theorem control_mDrmFd (m : RockitHwMpi) (cmd : Int) (param : RockitHWParamPairs) :
    (control m cmd param).val.hal.mDrmFd = m.mDrmFd := by
  unfold control
  cases m.mCtx with
  | none => rfl
  | some ctx =>
    dsimp only
    split <;> rfl

theorem query_mDrmFd (m : RockitHwMpi) (cmd : Int) (unused : UInt32) (out : RockitHWParamPairs) :
    (query m cmd unused out).1.hal.mDrmFd = m.mDrmFd := by
  unfold query
  cases m.mCtx with
  | none => rfl
  | some ctx =>
    dsimp only
    split <;> rfl

/-- No call changes the device. -/
theorem Call.result_mDrmFd (m : RockitHwMpi) (c : Call) :
    (c.result m).hal.mDrmFd = m.mDrmFd := by
  cases c with
  | enqueue replies buffer => exact enqueue_mDrmFd m replies buffer
  | dequeue reply hwBuffer => exact dequeue_mDrmFd m reply hwBuffer
  | commitBuffer replies buffer => exact commitBuffer_mDrmFd m replies buffer
  | giveBackBuffer buffer => exact giveBackBuffer_mDrmFd m buffer
  | reset err =>
    show (RockitHw.reset m err).hal.mDrmFd = m.mDrmFd
    unfold RockitHw.reset
    cases m.mCtx <;> rfl
  | flush err =>
    show (RockitHw.flush m err).hal.mDrmFd = m.mDrmFd
    unfold RockitHw.flush
    cases m.mCtx <;> rfl
  | control cmd param => exact control_mDrmFd m cmd param
  | query cmd unused out => exact query_mDrmFd m cmd unused out

end RockchipHal.RockitHw
