import RockchipHal.Lib.Ledger
import RockchipHal.RockitHw.MpiRuns

/-!
# The list of committed buffers

Each run leaves two ledgers.  `MpiRun.refs` are the references on buffer objects:
taken by an import or by `dequeue`, dropped by `giveBackBuffer`, each under the
id it was received or given back under.  `MpiRun.received` are the ids as the
client sees them: received by a commit or a dequeue that succeeded, given back.
What a call can do to `mCommitList` and to both ledgers is `Call.commitStep`.
-/

namespace RockchipHal.RockitHw

/-! ## Ledgers -/

/-- The reference an effect takes or drops; one dropped by `giveBackBuffer` counts
for the id given back. -/
def Event.refTx (c : Call) : Event → Option (Tx MppBuffer)
  | .bufferImport b => some (.acquire b)
  | .bufferIncRef b => some (.acquire b)
  | .bufferPut b =>
    match c with
    | .giveBackBuffer buffer => some (.release ⟨b.obj, buffer.bufferId⟩)
    | _ => some (.release b)
  | _ => none

def Done.refs (d : Done) : List (Tx MppBuffer) := d.events.filterMap (Event.refTx d.call)

/-- The ids the client receives and gives back. -/
def Done.received (d : Done) : List (Tx UInt32) :=
  match d.call with
  | .commitBuffer _ buffer => if d.ret = 0 then [.acquire buffer.bufferId] else []
  | .dequeue (.ok (some f)) _ =>
    if d.ret = 0 then f.media.toList.map fun b => .acquire b.index else []
  | .giveBackBuffer buffer => [.release buffer.bufferId]
  | _ => []

def MpiRun.refs (s : MpiRun) : List (Tx MppBuffer) := s.history.flatMap Done.refs

def MpiRun.received (s : MpiRun) : List (Tx UInt32) := s.history.flatMap Done.received

/-- The buffer objects imported so far. -/
def MpiRun.imported (s : MpiRun) : List MppBuffer :=
  (s.history.flatMap Done.events).filterMap fun
    | .bufferImport b => some b
    | _ => none

/-- The call with its outcome. -/
def Call.done (m : RockitHwMpi) (c : Call) : Done := ⟨c, (c.result m).ret, (c.result m).events⟩

theorem refs_after (s : MpiRun) (c : Call) : (s.after c).refs = s.refs ++ (c.done s.hal).refs := by
  unfold MpiRun.refs MpiRun.after
  rw [List.flatMap_append, List.flatMap_cons, List.flatMap_nil, List.append_nil]
  rfl

theorem received_after (s : MpiRun) (c : Call) :
    (s.after c).received = s.received ++ (c.done s.hal).received := by
  unfold MpiRun.received MpiRun.after
  rw [List.flatMap_append, List.flatMap_cons, List.flatMap_nil, List.append_nil]
  rfl

/-! ## cleanMppBuffer -/

theorem cleanMppBufferBelow_eq (site : BufferSite) : ∀ (i : Nat) (l : List MppBufferCtx),
    i ≤ l.length → cleanMppBufferBelow site i l =
      (l.take i).filter (fun b => b.mSite ≠ site) ++ l.drop i := by
  intro i
  induction i with
  | zero =>
    intro l _
    simp [cleanMppBufferBelow]
  | succ i ih =>
    intro l hi
    have hi' : i < l.length := by omega
    have htake : l.take (i + 1) = l.take i ++ [l[i]] := List.take_succ_eq_append_getElem hi'
    unfold cleanMppBufferBelow
    rw [List.getElem?_eq_getElem hi', Option.any_some]
    by_cases hsite : l[i].mSite = site
    · -- the entry goes, and the part behind it moves up
      rw [if_pos (by simpa using hsite), ih _ (by rw [List.length_eraseIdx]; split <;> omega), htake,
        List.filter_append]
      have hlen : (l.take i).length = i := by
        rw [List.length_take]
        omega
      have h1 : (l.eraseIdx i).take i = l.take i := by
        rw [List.eraseIdx_eq_take_drop_succ, List.take_left' hlen]
      have h2 : (l.eraseIdx i).drop i = l.drop (i + 1) := by
        rw [List.eraseIdx_eq_take_drop_succ, List.drop_left' hlen]
      rw [h1, h2]
      simp [hsite]
    · rw [if_neg (by simpa using hsite), ih l (by omega), htake, List.filter_append,
        List.drop_eq_getElem_cons hi', List.append_assoc]
      simp [hsite]

/-- The entries of the site go, the others stay in their order. -/
theorem cleanMppBuffer_eq (site : BufferSite) (l : List MppBufferCtx) :
    cleanMppBuffer site l = l.filter fun b => b.mSite ≠ site := by
  unfold cleanMppBuffer
  rw [cleanMppBufferBelow_eq site l.length l (Nat.le_refl _), List.take_length, List.drop_length,
    List.append_nil]

/-! ## What a call does to mCommitList -/

/-- What a call can do to `mCommitList`, to the references and to the client's ids. -/
inductive CommitStep (m : RockitHwMpi) (c : Call) :
    List MppBufferCtx → List (Tx MppBuffer) → List (Tx UInt32) → Prop
  | keep : CommitStep m c m.commitList [] []
  | commit {replies : CommitReplies} {buffer : RockitHWBuffer} (fd : Int)
      (call : c = .commitBuffer replies buffer) :
      CommitStep m c
        (match findMppBuffer m.commitList buffer.bufferId with
          | none => m.commitList ++ [⟨fd, buffer.bufferId,
              replies.importBuffer.map fun obj => ⟨obj, buffer.bufferId⟩, .byMpi⟩]
          | some _ => m.commitList)
        (replies.importBuffer.toList.map fun obj => .acquire ⟨obj, buffer.bufferId⟩)
        [.acquire buffer.bufferId]
  | dequeue {f : MppFrame} {hwBuffer : RockitHWBuffer} {b : MppBuffer}
      (call : c = .dequeue (.ok (some f)) hwBuffer) (media : f.media = some b) :
      CommitStep m c
        (modifyMppBuffer m.commitList b.index fun e => { e with mSite := .byRockit })
        [.acquire b] [.acquire b.index]
  | giveBack {buffer : RockitHWBuffer} {e : MppBufferCtx} (call : c = .giveBackBuffer buffer)
      (found : findMppBuffer m.commitList buffer.bufferId = some e) :
      CommitStep m c
        (modifyMppBuffer m.commitList buffer.bufferId fun e => { e with mSite := .byMpi })
        (e.mMppBuffer.toList.map fun b => .release ⟨b.obj, buffer.bufferId⟩)
        [.release buffer.bufferId]
  | giveBackNone {buffer : RockitHWBuffer} (call : c = .giveBackBuffer buffer)
      (absent : findMppBuffer m.commitList buffer.bufferId = none) :
      CommitStep m c m.commitList [] [.release buffer.bufferId]
  | clear {cmd : Int} {param : RockitHWParamPairs} (call : c = .control cmd param)
      (isClear : RockitHWCtrCmd.ofInt cmd = some .bufferGroupClear) :
      CommitStep m c (cleanMppBuffer .byMpi m.commitList) [] []

theorem commitList_of_ctx (m : RockitHwMpi) (ctx : MpiCodecContext) (h : m.mCtx = some ctx) :
    m.commitList = ctx.mCommitList := by
  rw [RockitHwMpi.commitList, h]
  rfl

theorem commitList_of_openCtx (m : RockitHwMpi) (ctx : MpiCodecContext)
    (h : m.openCtx = some ctx) : m.commitList = ctx.mCommitList :=
  commitList_of_ctx m ctx ((openCtx_eq_some_iff m ctx).mp h).2

theorem refs_attempt (c : Call) (events : List Event) (h : ∀ e ∈ events, e.Attempt) :
    events.filterMap (Event.refTx c) = [] := by
  rw [List.filterMap_eq_nil_iff]
  intro e he
  have ha := h e he
  cases e <;> first | rfl | exact absurd ha id

theorem refs_commitExit (c : Call) (mapFd : Int) (handle : UInt32) :
    (commitExit mapFd handle).filterMap (Event.refTx c) = [] := by
  unfold commitExit
  split <;> rfl

/-- The call, with its ledgers' entries, is a `CommitStep`. -/
def Call.StepsCommit (m : RockitHwMpi) (c : Call) : Prop :=
  CommitStep m c (c.result m).hal.commitList (c.done m).refs (c.done m).received

/-- A call that leaves the list and adds nothing to the ledgers. -/
theorem stepsCommit_keep (m : RockitHwMpi) (c : Call)
    (hl : (c.result m).hal.commitList = m.commitList) (hr : (c.done m).refs = [])
    (hc : (c.done m).received = []) : c.StepsCommit m := by
  unfold Call.StepsCommit
  rw [hl, hr, hc]
  exact .keep

theorem enqueue_stepsCommit (m : RockitHwMpi) (replies : EnqueueReplies)
    (buffer : RockitHWBuffer) : (Call.enqueue replies buffer).StepsCommit m := by
  have key : (enqueue m replies buffer).val.hal.commitList = m.commitList ∧
      (enqueue m replies buffer).val.events.filterMap (Event.refTx (.enqueue replies buffer)) =
        [] := by
    unfold enqueue
    cases hopen : m.openCtx with
    | none => exact ⟨rfl, rfl⟩
    | some ctx =>
      have hl := commitList_of_openCtx m ctx hopen
      rw [Reads.val_map]
      unfold enqueueWith
      split
      · exact ⟨rfl, rfl⟩
      · split
        · exact ⟨rfl, rfl⟩
        · split
          next events hmap => exact ⟨rfl, refs_attempt _ _ (mapDataBuffer_error _ _ _ hmap)⟩
          next b events hmap =>
            obtain ⟨handle, size, -, -, rfl⟩ := (mapDataBuffer_ok _ _ _ _ hmap).opened
            exact ⟨hl.symm, rfl⟩
  exact stepsCommit_keep m _ key.1 key.2 rfl

theorem dequeue_stepsCommit (m : RockitHwMpi) (reply : Except Int (Option MppFrame))
    (hwBuffer : RockitHWBuffer) : (Call.dequeue reply hwBuffer).StepsCommit m := by
  unfold Call.StepsCommit Call.done Done.refs Call.result
  rcases reply with e | _ | f
  · unfold dequeue
    cases m.openCtx <;> exact .keep
  · unfold dequeue
    cases m.openCtx <;> exact .keep
  · unfold dequeue
    cases hopen : m.openCtx with
    | none => exact .keep
    | some ctx =>
      have hl := commitList_of_openCtx m ctx hopen
      dsimp only
      split
      · exact .keep
      · show CommitStep m _ (handOut ctx f.media).mCommitList _
          (f.media.toList.map fun b => .acquire b.index)
        cases hmedia : f.media with
        | none =>
          show CommitStep m _ ctx.mCommitList [] []
          rw [← hl]
          exact .keep
        | some b =>
          show CommitStep m _ (modifyMppBuffer ctx.mCommitList b.index _) [.acquire b]
            [.acquire b.index]
          rw [← hl]
          exact .dequeue rfl hmedia

theorem commitBuffer_stepsCommit (m : RockitHwMpi) (replies : CommitReplies)
    (buffer : RockitHWBuffer) : (Call.commitBuffer replies buffer).StepsCommit m := by
  unfold Call.StepsCommit Call.done Done.refs Call.result commitBuffer
  cases hopen : m.openCtx with
  | none => exact .keep
  | some ctx =>
    have hl := commitList_of_openCtx m ctx hopen
    dsimp only
    rcases drmGetInfoFromName replies.drm with e | ⟨handle, size⟩
    · dsimp only
      rw [refs_commitExit]
      exact .keep
    · have hfd := refs_attempt (.commitBuffer replies buffer) _
        (drmHandleToFd_attempt replies.drm handle)
      dsimp only
      split
      · rw [List.filterMap_append, List.filterMap_cons_none rfl, hfd, refs_commitExit]
        exact .keep
      · rw [List.filterMap_append, List.filterMap_append, List.filterMap_cons_none rfl, hfd,
          refs_commitExit]
        have himport : ((replies.importBuffer.map fun obj => MppBuffer.mk obj buffer.bufferId).toList.map
            Event.bufferImport).filterMap (Event.refTx (.commitBuffer replies buffer)) =
            replies.importBuffer.toList.map fun obj => .acquire ⟨obj, buffer.bufferId⟩ := by
          cases replies.importBuffer <;> rfl
        rw [himport, List.nil_append, List.append_nil]
        show CommitStep m _ (addMppBuffer ctx _ _ _).mCommitList _ [.acquire buffer.bufferId]
        have hadd := CommitStep.commit (m := m) (drmHandleToFd replies.drm handle).mapFd
          (rfl : Call.commitBuffer replies buffer = .commitBuffer replies buffer)
        rw [hl] at hadd
        unfold addMppBuffer
        cases hfind : findMppBuffer ctx.mCommitList buffer.bufferId with
        | none =>
          rw [hfind] at hadd
          exact hadd
        | some e =>
          rw [hfind] at hadd
          exact hadd

theorem giveBackBuffer_stepsCommit (m : RockitHwMpi) (buffer : RockitHWBuffer) :
    (Call.giveBackBuffer buffer).StepsCommit m := by
  unfold Call.StepsCommit Call.done Done.refs Call.result giveBackBuffer
  cases hctx : m.mCtx with
  | none =>
    refine .giveBackNone rfl ?_
    rw [RockitHwMpi.commitList, hctx]
    rfl
  | some ctx =>
    have hl := commitList_of_ctx m ctx hctx
    dsimp only
    cases hfind : findMppBuffer ctx.mCommitList buffer.bufferId with
    | none =>
      rw [← hl] at hfind
      exact .giveBackNone rfl hfind
    | some e =>
      have hput : (e.mMppBuffer.toList.map Event.bufferPut).filterMap
          (Event.refTx (.giveBackBuffer buffer)) =
          e.mMppBuffer.toList.map fun b => .release ⟨b.obj, buffer.bufferId⟩ := by
        cases e.mMppBuffer <;> rfl
      dsimp only
      rw [hput]
      show CommitStep m _ (modifyMppBuffer ctx.mCommitList buffer.bufferId _) _
        [.release buffer.bufferId]
      rw [← hl] at hfind ⊢
      exact .giveBack rfl hfind

theorem control_stepsCommit (m : RockitHwMpi) (cmd : Int) (param : RockitHWParamPairs) :
    (Call.control cmd param).StepsCommit m := by
  unfold Call.StepsCommit Call.done Done.refs Call.result control
  cases hctx : m.mCtx with
  | none => exact .keep
  | some ctx =>
    have hl := commitList_of_ctx m ctx hctx
    have hdelete : ∀ b : DataBufferCtx, b.delete.filterMap (Event.refTx (.control cmd param)) = [] := by
      intro b
      unfold DataBufferCtx.delete
      split <;> split <;> rfl
    dsimp only
    cases hcmd : RockitHWCtrCmd.ofInt cmd with
    | none => exact .keep
    | some event =>
      cases event with
      | bufferGroupClear =>
        have hfree : ((freeDataBufferList ctx.mDataList ++ [Event.groupClear ctx.frmGrp]).filterMap
            (Event.refTx (.control cmd param))) = [] := by
          rw [List.filterMap_append, freeDataBufferList, List.filterMap_flatMap]
          simp only [hdelete]
          simp [Event.refTx]
        show CommitStep m _ (cleanMppBuffer .byMpi ctx.mCommitList)
          ((freeDataBufferList ctx.mDataList ++ [Event.groupClear ctx.frmGrp]).filterMap _) []
        rw [hfree, ← hl]
        exact .clear rfl hcmd
      | bufferReady => exact .keep
      | bufferDataClear =>
        have hfree : ∀ (l : List DataBufferCtx) (id : UInt32), (freeDataBuffer l id).2.filterMap
            (Event.refTx (.control cmd param)) = [] := by
          intro l id
          induction l with
          | nil => rfl
          | cons b l ih =>
            unfold freeDataBuffer
            split
            · exact hdelete b
            · exact ih
        rw [Reads.val_map]
        show CommitStep m _ ctx.mCommitList ((freeDataBuffer ctx.mDataList _).2.filterMap _) []
        rw [hfree, ← hl]
        exact .keep

/-- Every call is one of the `CommitStep`s. -/
theorem Call.commitStep (m : RockitHwMpi) (c : Call) : c.StepsCommit m := by
  cases c with
  | enqueue replies buffer => exact enqueue_stepsCommit m replies buffer
  | dequeue reply hwBuffer => exact dequeue_stepsCommit m reply hwBuffer
  | commitBuffer replies buffer => exact commitBuffer_stepsCommit m replies buffer
  | giveBackBuffer buffer => exact giveBackBuffer_stepsCommit m buffer
  | reset err =>
    unfold Call.StepsCommit Call.done Done.refs Call.result RockitHw.reset
    cases m.mCtx <;> exact .keep
  | flush err =>
    unfold Call.StepsCommit Call.done Done.refs Call.result RockitHw.flush
    cases m.mCtx <;> exact .keep
  | control cmd param => exact control_stepsCommit m cmd param
  | query cmd unused out =>
    unfold Call.StepsCommit Call.done Done.refs Call.result RockitHw.query
    cases m.mCtx with
    | none => exact .keep
    | some ctx =>
      dsimp only
      split <;> exact .keep

end RockchipHal.RockitHw
