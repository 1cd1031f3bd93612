import RockchipHal.RockitHw.CommitAtomic
import RockchipHal.RockitHw.InitResources
import RockchipHal.RockitHw.Manager

/-!
# The life of a decoder object

The constructor opens the DRM device, `init` is called once, then come any calls, and the
destructor gives back what the object holds (`RockitHwMpi.held`): the device, the context, the
group and the block of `init`, and what the entries of `mDataList` own.

* Leaving the GEM handles aside, the ledger of the whole life is paired and settled exactly when
  every `enqueue` that got a descriptor for a buffer got it mapped too       (life_settled_iff);
* of each handle as much is left as `enqueue` calls opened it                (life_handles).

The kernel is taken to give out descriptors that are not in use, and to map neither at `NULL`
nor at `MAP_FAILED`.
-/

namespace RockchipHal.RockitHw

/-! ## Construction and destruction -/

inductive LifeEvent
  | drmOpen (fd : Int)
  | call (e : Event)
  | groupPut (group : Nat)
  | drmClose (fd : Int)
deriving DecidableEq, Repr

def LifeEvent.resTx : LifeEvent → Option (Tx Res)
  | drmOpen fd => some (.acquire (.fd fd))
  | call e => e.resTx
  | groupPut group => some (.release (.group group))
  | drmClose fd => some (.release (.fd fd))

/-- `RockitHwMpi()`; the object is `RockitHwMpi.new`. -/
def construct (drmFd : Int) : List LifeEvent := if 0 ≤ drmFd then [.drmOpen drmFd] else []

/-- `~RockitHwMpi`. -/
def RockitHwMpi.destroy (m : RockitHwMpi) (resetErr : Int) : List LifeEvent :=
  (m.mCtx.elim [] fun ctx =>
    ((reset m resetErr).events ++ freeDataBufferList ctx.mDataList).map .call ++
      [.groupPut ctx.frmGrp, .call (.mppDestroy ctx.mppCtx), .call .free]) ++
  if 0 ≤ m.mDrmFd then [.drmClose m.mDrmFd] else []

def RockitHwMpi.next (m : RockitHwMpi) (c : Call) : RockitHwMpi := (c.result m).hal

def RockitHwMpi.callEvents (m : RockitHwMpi) (c : Call) : List Event := (c.result m).events

/-- What happens up to the end of the calls. -/
def lived (drmFd : Int) (replies : InitReplies) (pairs : RockitHWParamPairs) (calls : List Call) :
    List LifeEvent :=
  let started := (init (.new drmFd) replies pairs).val
  construct drmFd ++
    (started.events ++ runLog RockitHwMpi.next RockitHwMpi.callEvents started.hal calls).map .call

/-- The object after the calls. -/
def livedObject (drmFd : Int) (replies : InitReplies) (pairs : RockitHWParamPairs)
    (calls : List Call) : RockitHwMpi :=
  calls.foldl RockitHwMpi.next (init (.new drmFd) replies pairs).val.hal

def life (drmFd : Int) (replies : InitReplies) (pairs : RockitHWParamPairs) (calls : List Call)
    (resetErr : Int) : List LifeEvent :=
  lived drmFd replies pairs calls ++ (livedObject drmFd replies pairs calls).destroy resetErr

/-! ## Ledgers -/

def Res.isHandle : Res → Bool
  | .handle _ => true
  | _ => false

def lifeResources (events : List LifeEvent) : List (Tx Res) := events.filterMap LifeEvent.resTx

/-- A ledger without its GEM handles. -/
def plain (tr : List (Tx Res)) : List (Tx Res) := ofKind (fun r => !r.isHandle) tr

theorem plain_append (tr tr' : List (Tx Res)) : plain (tr ++ tr') = plain tr ++ plain tr' :=
  List.filter_append tr tr'

theorem lifeResources_append (l l' : List LifeEvent) :
    lifeResources (l ++ l') = lifeResources l ++ lifeResources l' := List.filterMap_append

theorem lifeResources_calls (events : List Event) :
    lifeResources (events.map .call) = resources events := List.filterMap_map

/-! ## What the object holds -/

/-- What `init` and the constructor acquire. -/
def RockitHwMpi.base (m : RockitHwMpi) : List Res :=
  (m.mCtx.elim [] fun ctx => [.group ctx.frmGrp, .context ctx.mppCtx, .block]) ++
    if 0 ≤ m.mDrmFd then [.fd m.mDrmFd] else []

def RockitHwMpi.held (m : RockitHwMpi) : List Res :=
  m.dataList.flatMap DataBufferCtx.owned ++ m.base

theorem resources_freeDataBufferList (l : List DataBufferCtx) :
    resources (freeDataBufferList l) = (l.flatMap DataBufferCtx.owned).map .release := by
  induction l with
  | nil => rfl
  | cons b l ih =>
    show resources (b.delete ++ freeDataBufferList l) = _
    rw [resources_append, resources_delete, ih, List.flatMap_cons, List.map_append]

/-- The destructor releases what is held, and in this order. -/
theorem resources_destroy (m : RockitHwMpi) (resetErr : Int) :
    lifeResources (m.destroy resetErr) = m.held.map .release := by
  have hdrm : lifeResources (if 0 ≤ m.mDrmFd then [.drmClose m.mDrmFd] else []) =
      (if 0 ≤ m.mDrmFd then [Res.fd m.mDrmFd] else []).map .release := by
    split <;> rfl
  unfold RockitHwMpi.destroy RockitHwMpi.held RockitHwMpi.base RockitHwMpi.dataList
  rw [lifeResources_append, hdrm]
  cases hctx : m.mCtx with
  | none => rfl
  | some ctx =>
    have hreset : resources (reset m resetErr).events = [] := by
      unfold reset
      rw [hctx]
      rfl
    simp only [Option.elim_some, Option.map_some, Option.getD_some]
    rw [lifeResources_append, lifeResources_calls, resources_append, hreset,
      resources_freeDataBufferList, List.map_append, List.map_append, List.nil_append,
      List.append_assoc]
    rfl

theorem owned_not_handle (b : DataBufferCtx) : ∀ r ∈ b.owned, r.isHandle = false := by
  unfold DataBufferCtx.owned
  split <;> split <;> simp [Res.isHandle]

theorem held_not_handle (m : RockitHwMpi) : ∀ r ∈ m.held, r.isHandle = false := by
  intro r hr
  rcases List.mem_append.mp hr with hr | hr
  · obtain ⟨b, _, hb⟩ := List.mem_flatMap.mp hr
    exact owned_not_handle b r hb
  · unfold RockitHwMpi.base at hr
    rcases List.mem_append.mp hr with hr | hr
    · cases hctx : m.mCtx with
      | none =>
        rw [hctx] at hr
        cases hr
      | some ctx =>
        rw [hctx] at hr
        simp only [Option.elim_some, List.mem_cons, List.not_mem_nil, or_false] at hr
        rcases hr with rfl | rfl | rfl <;> rfl
    · split at hr
      · rw [List.mem_singleton.mp hr]
        rfl
      · cases hr

theorem plain_release {l : List Res} (h : ∀ r ∈ l, r.isHandle = false) :
    plain (l.map .release) = l.map .release := by
  refine List.filter_eq_self.mpr fun tx htx => ?_
  obtain ⟨r, hr, rfl⟩ := List.mem_map.mp htx
  show (!r.isHandle) = true
  rw [h r hr]
  rfl

/-! ## What a call does to what is held -/

/-- The ledger of a commit. -/
inductive CommitLedger (drm : DrmReplies) : List (Tx Res) → Prop
  | closed : CommitLedger drm []
  | noName {e : Errno} (failed : drm.gemOpen = .error e) :
      CommitLedger drm [.release (.handle 0xffffffff)]
  | noFd (handle : UInt32) :
      CommitLedger drm [.acquire (.handle handle), .release (.handle handle)]
  | imported (handle : UInt32) (fd : Int) :
      CommitLedger drm [.acquire (.handle handle), .acquire (.fd fd), .release (.fd fd),
        .release (.handle handle)]

/-- The ledger of a call, and the list after it. -/
inductive ResStep (m : RockitHwMpi) (c : Call) : List (Tx Res) → List DataBufferCtx → Prop
  | keep : ResStep m c [] m.dataList
  | opened {replies : EnqueueReplies} {buffer : RockitHWBuffer} {handle : UInt32}
      {tr : List (Tx Res)} {made : Option DataBufferCtx} (call : c = .enqueue replies buffer)
      (opens : OpensHandle m replies.drm buffer handle) (how : Opened replies.drm handle tr made) :
      ResStep m c tr (m.dataList ++ made.toList)
  | commit {replies : CommitReplies} {buffer : RockitHWBuffer} {tr : List (Tx Res)}
      (call : c = .commitBuffer replies buffer) (how : CommitLedger replies.drm tr) :
      ResStep m c tr m.dataList
  | free {freed l : List DataBufferCtx} (split : m.dataList.Perm (freed ++ l)) :
      ResStep m c ((freed.flatMap DataBufferCtx.owned).map .release) l

/-- An `enqueue` that opens no handle lists nothing. -/
theorem dataList_enqueue_of_not (m : RockitHwMpi) (replies : EnqueueReplies)
    (buffer : RockitHWBuffer) (h : ∀ handle, ¬ OpensHandle m replies.drm buffer handle) :
    (enqueue m replies buffer).val.hal.dataList = m.dataList := by
  unfold enqueue
  cases hctx : m.openCtx with
  | none => rfl
  | some ctx =>
    rw [Reads.val_map]
    unfold enqueueWith
    cases heos : (enqueueParams buffer.pair).val.eos with
    | true => rfl
    | false =>
      rw [if_neg Bool.false_ne_true]
      cases hfind : findDataBuffer ctx.mDataList buffer.bufferId with
      | some b => rfl
      | none =>
        unfold mapDataBuffer drmGetInfoFromName
        cases hgem : replies.drm.gemOpen with
        | error e => rfl
        | ok reply =>
          refine absurd ⟨?_, heos, ?_, reply.2, hgem⟩ (h reply.1)
          · rw [hctx]
            rfl
          · rw [dataList_of_openCtx m ctx hctx]
            exact hfind

theorem enqueue_resStep (m : RockitHwMpi) (replies : EnqueueReplies) (buffer : RockitHWBuffer) :
    ResStep m (.enqueue replies buffer) (resources (enqueue m replies buffer).val.events)
      (enqueue m replies buffer).val.hal.dataList := by
  by_cases hopens : ∃ handle, OpensHandle m replies.drm buffer handle
  · obtain ⟨handle, hopens⟩ := hopens
    obtain ⟨made, hopened, hlist⟩ := enqueue_opened m replies buffer hopens
    rw [hlist]
    exact .opened rfl hopens hopened
  · have hnot : ∀ handle, ¬ OpensHandle m replies.drm buffer handle := fun handle h =>
      hopens ⟨handle, h⟩
    rw [resources_enqueue_of_not m replies buffer hnot, dataList_enqueue_of_not m replies buffer hnot]
    exact .keep

theorem commitBuffer_resStep (m : RockitHwMpi) (replies : CommitReplies)
    (buffer : RockitHWBuffer) :
    ResStep m (.commitBuffer replies buffer) (resources (commitBuffer m replies buffer).events)
      (commitBuffer m replies buffer).hal.dataList := by
  cases hctx : m.openCtx with
  | none =>
    rw [commitBuffer_closed m replies buffer hctx]
    exact .commit rfl .closed
  | some ctx =>
    cases hgem : replies.drm.gemOpen with
    | error e =>
      rw [commitBuffer_noHandle buffer hctx hgem]
      exact .commit rfl (.noName hgem)
    | ok reply =>
      by_cases hneg : ∀ fd, replies.drm.handleToFd = .ok fd → fd < 0
      · obtain ⟨-, hhal, htr⟩ := commitBuffer_noFd buffer hctx hgem hneg
        rw [hhal, htr]
        exact .commit rfl (.noFd reply.1)
      · obtain ⟨fd, toFd, isFd⟩ : ∃ fd, replies.drm.handleToFd = .ok fd ∧ 0 ≤ fd := by
          simpa using hneg
        have himport : ∀ o : Option MppBuffer,
            resources (o.toList.map Event.bufferImport) = [] := by
          intro o
          cases o <;> rfl
        rw [commitBuffer_imports buffer hctx hgem toFd isFd]
        show ResStep m _ (resources (_ ++ _ ++ _)) (addMppBuffer ctx _ _ _).mDataList
        rw [addMppBuffer_dataList, ← dataList_of_openCtx m ctx hctx, resources_append,
          resources_append, himport, List.append_nil, resources_opened _ _ isFd]
        exact .commit rfl (.imported reply.1 fd)

theorem dequeue_resStep (m : RockitHwMpi) (reply : Except Int (Option MppFrame))
    (hwBuffer : RockitHWBuffer) :
    ResStep m (.dequeue reply hwBuffer) (resources (dequeue m reply hwBuffer).1.events)
      (dequeue m reply hwBuffer).1.hal.dataList := by
  unfold dequeue
  cases hctx : m.openCtx with
  | none => exact .keep
  | some ctx =>
    dsimp only
    split
    · exact .keep
    · exact .keep
    next f =>
      split
      · exact .keep
      · show ResStep m _ _ (handOut ctx f.media).mDataList
        rw [handOut_dataList, ← dataList_of_openCtx m ctx hctx]
        cases f.media <;> exact .keep

theorem giveBackBuffer_resStep (m : RockitHwMpi) (buffer : RockitHWBuffer) :
    ResStep m (.giveBackBuffer buffer) (resources (giveBackBuffer m buffer).events)
      (giveBackBuffer m buffer).hal.dataList := by
  unfold giveBackBuffer
  cases hctx : m.mCtx with
  | none => exact .keep
  | some ctx =>
    dsimp only
    split
    · exact .keep
    next e _ =>
      show ResStep m _ _ ctx.mDataList
      rw [← dataList_of_ctx m ctx hctx]
      cases e.mMppBuffer <;> exact .keep

theorem control_resStep (m : RockitHwMpi) (cmd : Int) (param : RockitHWParamPairs) :
    ResStep m (.control cmd param) (resources (control m cmd param).val.events)
      (control m cmd param).val.hal.dataList := by
  unfold control
  cases hctx : m.mCtx with
  | none => exact .keep
  | some ctx =>
    have hl := dataList_of_ctx m ctx hctx
    dsimp only
    split
    · show ResStep m _ (resources (freeDataBufferList ctx.mDataList ++ [.groupClear ctx.frmGrp])) []
      rw [resources_append, resources_freeDataBufferList, ← hl]
      show ResStep m _ (_ ++ []) []
      rw [List.append_nil]
      exact .free (by rw [List.append_nil])
    · exact .keep
    · rw [Reads.val_map]
      show ResStep m _ (resources (freeDataBuffer ctx.mDataList _).2)
        (freeDataBuffer ctx.mDataList _).1
      rw [← hl, freeDataBuffer_fst, freeDataBuffer_snd]
      generalize (getValue param RockitHWParamKey.dataBuffer.code).val.toUInt32 = id
      cases hfind : m.dataList.find? fun b => b.mUniqueID = id with
      | none =>
        have hnone : ∀ b ∈ m.dataList, ¬ decide (b.mUniqueID = id) = true :=
          List.find?_eq_none.mp hfind
        rw [List.eraseP_of_forall_not hnone]
        exact .keep
      | some b =>
        obtain ⟨hid, before, after, hsplit, hbefore⟩ := List.find?_eq_some_iff_append.mp hfind
        have herase : m.dataList.eraseP (fun b => b.mUniqueID = id) = before ++ after := by
          have hskip : ∀ a ∈ before, ¬ decide (a.mUniqueID = id) = true := by
            intro a ha
            simpa using hbefore a ha
          rw [hsplit, List.eraseP_append_right _ hskip]
          exact congrArg (before ++ ·) (List.eraseP_cons_of_pos hid)
        rw [herase]
        show ResStep m _ (resources b.delete) _
        rw [resources_delete]
        have hone : ResStep m (.control cmd param)
            (([b].flatMap DataBufferCtx.owned).map .release) (before ++ after) := by
          refine .free ?_
          rw [hsplit]
          exact List.perm_middle
        rw [List.flatMap_singleton] at hone
        exact hone
    · exact .keep

/-- Every call is one of the `ResStep`s. -/
theorem Call.resStep (m : RockitHwMpi) (c : Call) :
    ResStep m c (resources (m.callEvents c)) (m.next c).dataList := by
  cases c with
  | enqueue replies buffer => exact enqueue_resStep m replies buffer
  | dequeue reply hwBuffer => exact dequeue_resStep m reply hwBuffer
  | commitBuffer replies buffer => exact commitBuffer_resStep m replies buffer
  | giveBackBuffer buffer => exact giveBackBuffer_resStep m buffer
  | control cmd param => exact control_resStep m cmd param
  | reset err =>
    show ResStep m _ (resources (RockitHw.reset m err).events) (RockitHw.reset m err).hal.dataList
    unfold RockitHw.reset
    cases m.mCtx <;> exact .keep
  | flush err =>
    show ResStep m _ (resources (RockitHw.flush m err).events) (RockitHw.flush m err).hal.dataList
    unfold RockitHw.flush
    cases m.mCtx <;> exact .keep
  | query cmd unused out =>
    show ResStep m _ (resources (RockitHw.query m cmd unused out).1.events)
      (RockitHw.query m cmd unused out).1.hal.dataList
    unfold RockitHw.query
    cases m.mCtx with
    | none => exact .keep
    | some ctx =>
      dsimp only
      split <;> exact .keep

/-! ### Context, group and device stay -/

theorem enqueue_ctx (m : RockitHwMpi) (replies : EnqueueReplies) (buffer : RockitHWBuffer) :
    (enqueue m replies buffer).val.hal.base = m.base := by
  unfold enqueue
  cases hctx : m.openCtx with
  | none => rfl
  | some ctx =>
    have hm := ((openCtx_eq_some_iff m ctx).mp hctx).2
    rw [Reads.val_map]
    unfold enqueueWith putPacket RockitHwMpi.base
    split
    · rfl
    split
    · rfl
    split
    · rfl
    · rw [hm]
      rfl

theorem dequeue_ctx (m : RockitHwMpi) (reply : Except Int (Option MppFrame))
    (hwBuffer : RockitHWBuffer) : (dequeue m reply hwBuffer).1.hal.base = m.base := by
  unfold dequeue
  cases hctx : m.openCtx with
  | none => rfl
  | some ctx =>
    have hm := ((openCtx_eq_some_iff m ctx).mp hctx).2
    dsimp only
    split
    · rfl
    · rfl
    next f =>
      split
      · rfl
      · unfold RockitHwMpi.base handOut
        rw [hm]
        cases f.media <;> rfl

theorem commitBuffer_ctx (m : RockitHwMpi) (replies : CommitReplies) (buffer : RockitHWBuffer) :
    (commitBuffer m replies buffer).hal.base = m.base := by
  unfold commitBuffer
  cases hctx : m.openCtx with
  | none => rfl
  | some ctx =>
    have hm := ((openCtx_eq_some_iff m ctx).mp hctx).2
    dsimp only
    split
    · rfl
    · split
      · rfl
      · unfold RockitHwMpi.base addMppBuffer
        rw [hm]
        dsimp only
        split <;> rfl

theorem giveBackBuffer_ctx (m : RockitHwMpi) (buffer : RockitHWBuffer) :
    (giveBackBuffer m buffer).hal.base = m.base := by
  unfold giveBackBuffer
  cases hctx : m.mCtx with
  | none => rfl
  | some ctx =>
    dsimp only
    split
    · rfl
    · unfold RockitHwMpi.base
      rw [hctx]
      rfl

theorem control_ctx (m : RockitHwMpi) (cmd : Int) (param : RockitHWParamPairs) :
    (control m cmd param).val.hal.base = m.base := by
  unfold control
  cases hctx : m.mCtx with
  | none => rfl
  | some ctx =>
    dsimp only
    unfold RockitHwMpi.base
    split
    · rw [hctx]
      rfl
    · rfl
    · rw [hctx]
      rfl
    · rfl

theorem Call.result_base (m : RockitHwMpi) (c : Call) : (m.next c).base = m.base := by
  cases c with
  | enqueue replies buffer => exact enqueue_ctx m replies buffer
  | dequeue reply hwBuffer => exact dequeue_ctx m reply hwBuffer
  | commitBuffer replies buffer => exact commitBuffer_ctx m replies buffer
  | giveBackBuffer buffer => exact giveBackBuffer_ctx m buffer
  | control cmd param => exact control_ctx m cmd param
  | reset err =>
    show (RockitHw.reset m err).hal.base = m.base
    unfold RockitHw.reset
    cases m.mCtx <;> rfl
  | flush err =>
    show (RockitHw.flush m err).hal.base = m.base
    unfold RockitHw.flush
    cases m.mCtx <;> rfl
  | query cmd unused out =>
    show (RockitHw.query m cmd unused out).1.hal.base = m.base
    unfold RockitHw.query
    cases m.mCtx with
    | none => rfl
    | some ctx =>
      dsimp only
      split <;> rfl

/-! ## Mapped or refused -/

/-- An `enqueue` that gets a descriptor for the buffer it opens gets it mapped too. -/
def GetsMapped (m : RockitHwMpi) : Call → Prop
  | .enqueue replies buffer =>
    ∀ handle fd, OpensHandle m replies.drm buffer handle → replies.drm.handleToFd = .ok fd →
      0 ≤ fd → ∃ offset addr, replies.drm.mapDumb = .ok offset ∧
        drmMmap replies.drm offset = .ok addr
  | _ => True

/-- What the kernel answers: a descriptor that is not in use, and an address that is neither
`NULL` nor `MAP_FAILED`. -/
def KernelFresh (tr : List (Tx Res)) : Call → Prop
  | .enqueue replies _ =>
    (∀ fd, replies.drm.handleToFd = .ok fd → 0 ≤ fd → outstanding tr (.fd fd) ≤ 0) ∧
      ∀ addr, replies.drm.mmap = .ok addr → addr ≠ 0 ∧ addr ≠ mapFailed
  | _ => True

theorem mmap_of_drmMmap {drm : DrmReplies} {offset : UInt64} {addr : Nat}
    (h : drmMmap drm offset = .ok addr) : drm.mmap = .ok addr := by
  unfold drmMmap at h
  split at h
  · cases h
  · exact h

/-- A call that maps what it opens keeps the ledger in balance, whatever else is held. -/
theorem call_balances {m : RockitHwMpi} {c : Call} {tr : List (Tx Res)} (rest : List Res)
    (h : Balances tr (m.held ++ rest)) (hmapped : GetsMapped m c) (hfresh : KernelFresh tr c) :
    Balances (tr ++ plain (resources (m.callEvents c))) ((m.next c).held ++ rest) := by
  unfold RockitHwMpi.held at h ⊢
  rw [Call.result_base, List.append_assoc]
  rw [List.append_assoc] at h
  generalize m.base ++ rest = base at h ⊢
  have hstep := Call.resStep m c
  generalize resources (m.callEvents c) = ledger at hstep ⊢
  generalize (m.next c).dataList = list at hstep ⊢
  cases hstep with
  | keep =>
    show Balances (tr ++ []) _
    rw [List.append_nil]
    exact h
  | @opened replies buffer handle _ made call opens how =>
    subst call
    have hnone : Balances (tr ++ []) ((m.dataList ++ []).flatMap DataBufferCtx.owned ++ base) := by
      rw [List.append_nil, List.append_nil]
      exact h
    cases how with
    | noFd failed => exact hnone
    | noOffset toFd isFd failed =>
      obtain ⟨offset, addr, hdumb, -⟩ := hmapped handle _ opens toFd isFd
      rw [failed] at hdumb
      cases hdumb
    | notMapped toFd isFd mapDumb failed =>
      obtain ⟨offset, addr, hdumb, hmmap⟩ := hmapped handle _ opens toFd isFd
      rw [mapDumb] at hdumb
      cases hdumb
      rw [failed] at hmmap
      cases hmmap
    | @mapped offset b toFd isFd mapDumb mapping =>
      have hne := (hfresh.2 _ (mmap_of_drmMmap mapping)).1
      have howned : b.owned = [.mapping b.mData, .fd b.mFd] := by
        unfold DataBufferCtx.owned
        rw [if_pos hne, if_pos isFd]
        rfl
      have hboth := h.acquireAll [.fd b.mFd, .mapping b.mData]
      refine hboth.perm ?_
      rw [Option.toList_some, List.flatMap_append, List.flatMap_singleton, howned,
        List.append_assoc]
      refine (List.Perm.swap _ _ _).trans ?_
      exact List.perm_append_comm_assoc [.mapping b.mData, .fd b.mFd] _ base
  | commit call how =>
    cases how with
    | imported handle fd =>
      have hone := h.acquire (.fd fd)
      have hback := Balances.release hone
      rw [List.append_assoc] at hback
      exact hback
    | closed | noName _ | noFd _ =>
      show Balances (tr ++ []) _
      rw [List.append_nil]
      exact h
  | @free freed _ split =>
    rw [plain_release fun r hr => by
      obtain ⟨b, _, hb⟩ := List.mem_flatMap.mp hr
      exact owned_not_handle b r hb]
    refine Balances.releaseAll _ (h.perm ?_)
    rw [← List.append_assoc, ← List.flatMap_append]
    exact (split.flatMap_right _).append_right _

/-- A call that does not breaks it: a descriptor is closed twice, or `MAP_FAILED` unmapped. -/
theorem not_paired_of_not_mapped {m : RockitHwMpi} {c : Call} {tr : List (Tx Res)}
    (hmapped : ¬ GetsMapped m c) (hfresh : KernelFresh tr c)
    (hnever : .acquire (.mapping mapFailed) ∉ tr) :
    ¬ Paired (tr ++ plain (resources (m.callEvents c))) := by
  cases c with
  | enqueue replies buffer =>
    intro hpaired
    refine hmapped fun handle fd opens toFd isFd => ?_
    obtain ⟨made, how, -⟩ := enqueue_opened m replies buffer opens
    have hpaired : Paired (tr ++ plain (resources (enqueue m replies buffer).val.events)) := hpaired
    generalize resources (enqueue m replies buffer).val.events = ledger at how hpaired
    cases how with
    | noFd failed =>
      have := failed fd toFd
      omega
    | @noOffset fd' _ toFd' isFd' failed =>
      -- the second release of the descriptor
      have htwice := hpaired (tr ++ [.acquire (.fd fd'), .release (.fd fd')]) (.fd fd') []
        (by rw [List.append_assoc]; rfl)
      have hfree := hfresh.1 fd' toFd' isFd'
      have hback : outstanding [Tx.acquire (Res.fd fd'), .release (.fd fd')] (.fd fd') = 0 := by
        simp [outstanding]
      rw [outstanding_append, hback] at htwice
      omega
    | @notMapped fd' offset _ toFd' isFd' mapDumb failed =>
      have hunmap := hpaired (tr ++ [.acquire (.fd fd'), .release (.fd fd')]) (.mapping mapFailed) []
        (by rw [List.append_assoc]; rfl)
      have hnone : outstanding [Tx.acquire (Res.fd fd'), .release (.fd fd')]
          (.mapping mapFailed) = 0 := by
        simp [outstanding]
      have hzero : tr.count (.acquire (.mapping mapFailed)) = 0 := List.count_eq_zero.mpr hnever
      rw [outstanding_append, hnone] at hunmap
      unfold outstanding at hunmap
      omega
    | @mapped offset b toFd' isFd' mapDumb mapping => exact ⟨offset, _, mapDumb, mapping⟩
  | dequeue _ _ | commitBuffer _ _ | giveBackBuffer _ | reset _ | flush _ | control _ _
  | query _ _ _ => exact absurd trivial hmapped

/-! ## The whole life -/

/-- The ledger before the calls, without handles. -/
def startLedger (drmFd : Int) (replies : InitReplies) (pairs : RockitHWParamPairs) :
    List (Tx Res) :=
  plain (lifeResources (construct drmFd) ++
    resources (init (.new drmFd) replies pairs).val.events)

theorem plain_lived (drmFd : Int) (replies : InitReplies) (pairs : RockitHWParamPairs)
    (calls : List Call) : plain (lifeResources (lived drmFd replies pairs calls)) =
      startLedger drmFd replies pairs ++ plain (resources (runLog RockitHwMpi.next
        RockitHwMpi.callEvents (init (.new drmFd) replies pairs).val.hal calls)) := by
  unfold lived startLedger
  rw [lifeResources_append, lifeResources_calls, resources_append, plain_append, plain_append,
    plain_append, List.append_assoc]

theorem initWith_mDrmFd (m : RockitHwMpi) (replies : InitReplies) (mppCtx : Nat)
    (p : InitParams) : (initWith m replies mppCtx p).hal.mDrmFd = m.mDrmFd := by
  have hdebug : (if p.debug > 0 then { m with mDebug := true } else m).mDrmFd = m.mDrmFd := by
    split <;> rfl
  unfold initWith
  dsimp only
  split
  · exact hdebug
  split
  · exact hdebug
  split
  · exact hdebug
  split
  · exact hdebug
  split
  · exact hdebug
  · exact hdebug

theorem init_mDrmFd (m : RockitHwMpi) (replies : InitReplies) (pairs : RockitHWParamPairs) :
    (init m replies pairs).val.hal.mDrmFd = m.mDrmFd := by
  unfold init
  split
  · rfl
  · split
    · rfl
    · rw [Reads.val_map]
      exact initWith_mDrmFd m replies _ _

/-- After `init` the object holds what it has acquired. -/
theorem start_balances (drmFd : Int) (replies : InitReplies) (pairs : RockitHWParamPairs) :
    Balances (startLedger drmFd replies pairs) (init (.new drmFd) replies pairs).val.hal.held := by
  have hdrm : (init (.new drmFd) replies pairs).val.hal.mDrmFd = drmFd :=
    init_mDrmFd (.new drmFd) replies pairs
  have hlist := (start_lists (.new drmFd) replies pairs).1
  have hdevice : Balances (plain (lifeResources (construct drmFd)))
      (if 0 ≤ drmFd then [Res.fd drmFd] else []) := by
    unfold construct
    split
    · exact Balances.nil.acquire (Res.fd drmFd)
    · exact .nil
  have hended := init_ended (.new drmFd) replies pairs
  unfold startLedger RockitHwMpi.held
  rw [plain_append, show (init (.new drmFd) replies pairs).val.hal.dataList = [] from hlist]
  generalize resources (init (.new drmFd) replies pairs).val.events = ledger at hended ⊢
  have hnothing : ∀ {tr}, Balances tr (if 0 ≤ drmFd then [Res.fd drmFd] else []) →
      (init (.new drmFd) replies pairs).val.hal.mCtx = none →
      Balances tr ([].flatMap DataBufferCtx.owned ++
        (init (.new drmFd) replies pairs).val.hal.base) := by
    intro tr htr hctx
    unfold RockitHwMpi.base
    rw [hctx, hdrm]
    exact htr
  cases hended with
  | noBlock ret ctx =>
    refine hnothing ?_ ctx
    show Balances (_ ++ []) _
    rw [List.append_nil]
    exact hdevice
  | noContext ret ctx =>
    have hone := Balances.release (hdevice.acquire .block)
    rw [List.append_assoc] at hone
    exact hnothing hone ctx
  | @failed mppCtx ret ctx =>
    have hboth := Balances.releaseAll [.context mppCtx, .block]
      (hdevice.acquireAll [.block, .context mppCtx] |>.perm
        ((List.Perm.swap _ _ []).append_right _))
    rw [List.append_assoc] at hboth
    exact hnothing hboth ctx
  | @done mppCtx group create groupGet ret ctx =>
    have hall := hdevice.acquireAll [.block, .context mppCtx, .group group]
    unfold RockitHwMpi.base
    rw [ctx, hdrm]
    refine hall.perm (List.Perm.append_right _ ?_)
    exact (List.reverse_perm [Res.group group, .context mppCtx, .block])

/-- What the kernel answers in a run. -/
def KernelFreshAll (drmFd : Int) (replies : InitReplies) (pairs : RockitHWParamPairs)
    (calls : List Call) : Prop :=
  ∀ before c after, calls = before ++ c :: after →
    KernelFresh (plain (lifeResources (lived drmFd replies pairs before))) c

/-- Every `enqueue` of a run that gets a descriptor gets the buffer mapped. -/
def AllMapped (drmFd : Int) (replies : InitReplies) (pairs : RockitHWParamPairs)
    (calls : List Call) : Prop :=
  ∀ before c after, calls = before ++ c :: after →
    GetsMapped (livedObject drmFd replies pairs before) c

theorem run_balances (calls : List Call) :
    ∀ (m : RockitHwMpi) (tr : List (Tx Res)), Balances tr m.held →
      (∀ before c after, calls = before ++ c :: after →
        GetsMapped (before.foldl RockitHwMpi.next m) c ∧
          KernelFresh (tr ++ plain (resources
            (runLog RockitHwMpi.next RockitHwMpi.callEvents m before))) c) →
      Balances (tr ++ plain (resources (runLog RockitHwMpi.next RockitHwMpi.callEvents m calls)))
        (calls.foldl RockitHwMpi.next m).held := by
  induction calls with
  | nil =>
    intro m tr h _
    show Balances (tr ++ []) m.held
    rw [List.append_nil]
    exact h
  | cons c calls ih =>
    intro m tr h hcalls
    obtain ⟨hmapped, hfresh⟩ := hcalls [] c calls rfl
    have hnil : tr ++ plain (resources (runLog RockitHwMpi.next RockitHwMpi.callEvents m [])) =
        tr := List.append_nil tr
    rw [hnil] at hfresh
    have hone := call_balances [] (by rw [List.append_nil]; exact h) hmapped hfresh
    rw [List.append_nil] at hone
    have hrest := ih (m.next c) (tr ++ plain (resources (m.callEvents c))) hone
      fun before d after heq => by
        obtain ⟨hm, hf⟩ := hcalls (c :: before) d after (by rw [heq]; rfl)
        refine ⟨hm, ?_⟩
        rw [runLog, resources_append, plain_append, ← List.append_assoc] at hf
        exact hf
    rw [runLog, resources_append, plain_append, ← List.append_assoc]
    exact hrest

theorem lived_prefix (drmFd : Int) (replies : InitReplies) (pairs : RockitHWParamPairs)
    (before : List Call) (c : Call) (after : List Call) :
    ∃ rest, plain (lifeResources (lived drmFd replies pairs (before ++ c :: after))) =
      plain (lifeResources (lived drmFd replies pairs before)) ++
        plain (resources ((livedObject drmFd replies pairs before).callEvents c)) ++ rest := by
  refine ⟨plain (resources (runLog RockitHwMpi.next RockitHwMpi.callEvents
    ((livedObject drmFd replies pairs before).next c) after)), ?_⟩
  rw [plain_lived, plain_lived, runLog_append, resources_append, plain_append, runLog,
    resources_append, plain_append, List.append_assoc, List.append_assoc]
  rfl

theorem acquire_mem_plain {tr : List (Tx Res)} {r : Res} (h : .acquire r ∈ plain tr) :
    .acquire r ∈ tr := List.mem_of_mem_filter h

/-- Nothing is ever mapped at `MAP_FAILED`. -/
theorem mapFailed_not_acquired {m : RockitHwMpi} {c : Call} {tr : List (Tx Res)}
    (hfresh : KernelFresh tr c) :
    .acquire (.mapping mapFailed) ∉ plain (resources (m.callEvents c)) := by
  intro hmem
  have hmem := acquire_mem_plain hmem
  have hstep := Call.resStep m c
  generalize resources (m.callEvents c) = ledger at hstep hmem
  generalize (m.next c).dataList = list at hstep
  cases hstep with
  | keep => cases hmem
  | @opened replies buffer handle _ made call opens how =>
    subst call
    cases how with
    | noFd _ => simp at hmem
    | noOffset _ _ _ => simp at hmem
    | notMapped _ _ _ _ => simp at hmem
    | @mapped offset b toFd isFd mapDumb mapping =>
      have haddr := (hfresh.2 _ (mmap_of_drmMmap mapping)).2
      simp at hmem
      exact haddr hmem.symm
  | commit call how => cases how <;> simp at hmem
  | @free freed _ split =>
    obtain ⟨r, _, hr⟩ := List.mem_map.mp hmem
    cases hr

theorem mapFailed_not_start (drmFd : Int) (replies : InitReplies) (pairs : RockitHWParamPairs) :
    .acquire (.mapping mapFailed) ∉ startLedger drmFd replies pairs := by
  intro hmem
  rcases List.mem_append.mp (acquire_mem_plain hmem) with hmem | hmem
  · unfold construct at hmem
    split at hmem
    · cases List.mem_singleton.mp hmem
    · cases hmem
  · have hended := init_ended (.new drmFd) replies pairs
    generalize resources (init (.new drmFd) replies pairs).val.events = ledger at hended hmem
    cases hended <;> simp at hmem

theorem mapFailed_not_lived {drmFd : Int} {replies : InitReplies} {pairs : RockitHWParamPairs}
    {calls : List Call} (hfresh : KernelFreshAll drmFd replies pairs calls)
    {before : List Call} {c : Call} {after : List Call} (heq : calls = before ++ c :: after) :
    .acquire (.mapping mapFailed) ∉ plain (lifeResources (lived drmFd replies pairs before)) := by
  intro hmem
  rw [plain_lived] at hmem
  rcases List.mem_append.mp hmem with hmem | hmem
  · exact mapFailed_not_start drmFd replies pairs hmem
  · obtain ⟨e, he, htx⟩ := List.mem_filterMap.mp (acquire_mem_plain hmem)
    obtain ⟨pre, d, post, hpre, hd⟩ := (mem_runLog _ _ before _ e).mp he
    have hsplit : calls = pre ++ d :: (post ++ c :: after) := by
      rw [heq, hpre, List.append_assoc, List.cons_append]
    have hacquired := List.mem_filterMap.mpr ⟨e, hd, htx⟩
    exact mapFailed_not_acquired (hfresh pre d _ hsplit) (List.mem_filter.mpr ⟨hacquired, rfl⟩)

/-- One packet, in a buffer that is mapped. -/
def onePacket : List Call := [.enqueue (pageAt 1 4 0x10000) (packet 1 10)]

theorem onePacket_split {before : List Call} {c : Call} {after : List Call}
    (h : onePacket = before ++ c :: after) :
    before = [] ∧ c = .enqueue (pageAt 1 4 0x10000) (packet 1 10) := by
  cases before with
  | nil => exact ⟨rfl, (List.cons.inj h).1.symm⟩
  | cons d before =>
    have hlen := congrArg List.length (List.cons.inj h).2
    simp at hlen

/-- The handle a call opens and leaves open. -/
def RockitHwMpi.openedHandles (m : RockitHwMpi) : Call → List UInt32
  | .enqueue replies buffer =>
    if m.openCtx.isSome ∧ (enqueueParams buffer.pair).val.eos = false ∧
        findDataBuffer m.dataList buffer.bufferId = none then
      match replies.drm.gemOpen with
      | .ok (handle, _) => [handle]
      | .error _ => []
    else []
  | _ => []

/-- The handle a call destroys without having opened it. -/
def RockitHwMpi.strayHandles (m : RockitHwMpi) : Call → List UInt32
  | .commitBuffer replies _ =>
    if m.openCtx.isSome then
      match replies.drm.gemOpen with
      | .ok _ => []
      | .error _ => [0xffffffff]
    else []
  | _ => []

theorem outstanding_handle_eq_zero {tr : List (Tx Res)} {handle : UInt32}
    (ha : .acquire (.handle handle) ∉ tr) (hr : .release (.handle handle) ∉ tr) :
    outstanding tr (.handle handle) = 0 := by
  unfold outstanding
  rw [List.count_eq_zero.mpr ha, List.count_eq_zero.mpr hr]
  rfl

theorem openedHandles_of_opens {m : RockitHwMpi} {replies : EnqueueReplies}
    {buffer : RockitHWBuffer} {handle : UInt32} (h : OpensHandle m replies.drm buffer handle) :
    m.openedHandles (.enqueue replies buffer) = [handle] := by
  obtain ⟨hctx, heos, hfind, size, hgem⟩ := h
  show (if _ then _ else []) = [handle]
  rw [if_pos ⟨hctx, heos, hfind⟩, hgem]

theorem openedHandles_of_not {m : RockitHwMpi} {replies : EnqueueReplies}
    {buffer : RockitHWBuffer} (h : ∀ handle, ¬ OpensHandle m replies.drm buffer handle) :
    m.openedHandles (.enqueue replies buffer) = [] := by
  unfold RockitHwMpi.openedHandles
  dsimp only
  split
  · next hopens =>
    obtain ⟨hctx, heos, hfind⟩ := hopens
    cases hgem : replies.drm.gemOpen with
    | error e => rfl
    | ok reply => exact absurd ⟨hctx, heos, hfind, reply.2, hgem⟩ (h reply.1)
  · rfl

theorem Opened.outstanding_handle {drm : DrmReplies} {handle : UInt32} {tr : List (Tx Res)}
    {made : Option DataBufferCtx} (h : Opened drm handle tr made) (handle' : UInt32) :
    outstanding tr (.handle handle') = [handle].count handle' := by
  cases h <;> simp [outstanding, List.count_cons]

theorem outstanding_released {l : List Res} (h : ∀ r ∈ l, r.isHandle = false) (handle : UInt32) :
    outstanding (l.map .release) (.handle handle) = 0 := by
  refine outstanding_handle_eq_zero (fun hm => ?_) fun hm => ?_
  · obtain ⟨r, _, hr⟩ := List.mem_map.mp hm
    cases hr
  · obtain ⟨r, hmem, hr⟩ := List.mem_map.mp hm
    cases hr
    cases h _ hmem

theorem enqueue_handles (m : RockitHwMpi) (replies : EnqueueReplies) (buffer : RockitHWBuffer)
    (handle : UInt32) :
    outstanding (resources (enqueue m replies buffer).val.events) (.handle handle) =
      (m.openedHandles (.enqueue replies buffer)).count handle := by
  by_cases hopens : ∃ handle, OpensHandle m replies.drm buffer handle
  · obtain ⟨handle', hopens⟩ := hopens
    obtain ⟨made, hopened, -⟩ := enqueue_opened m replies buffer hopens
    rw [hopened.outstanding_handle, openedHandles_of_opens hopens]
  · have hnot : ∀ handle, ¬ OpensHandle m replies.drm buffer handle := fun handle h =>
      hopens ⟨handle, h⟩
    rw [resources_enqueue_of_not m replies buffer hnot, openedHandles_of_not hnot]
    rfl

theorem commitBuffer_handles (m : RockitHwMpi) (replies : CommitReplies)
    (buffer : RockitHWBuffer) (handle : UInt32) :
    outstanding (resources (commitBuffer m replies buffer).events) (.handle handle) =
      -((m.strayHandles (.commitBuffer replies buffer)).count handle : Int) := by
  show _ = -(((if m.openCtx.isSome then _ else [] : List UInt32).count handle : Nat) : Int)
  cases hctx : m.openCtx with
  | none =>
    rw [commitBuffer_closed m replies buffer hctx]
    rfl
  | some ctx =>
    rw [if_pos (show (some ctx).isSome = true from rfl)]
    cases hgem : replies.drm.gemOpen with
    | error e =>
      rw [commitBuffer_noHandle buffer hctx hgem]
      have hone := outstanding_release ([] : List (Tx Res)) (Res.handle 0xffffffff)
        (Res.handle handle)
      rw [List.nil_append, outstanding_nil] at hone
      show outstanding [.release (Res.handle 0xffffffff)] (Res.handle handle) = _
      rw [hone, List.count_singleton]
      by_cases heq : (0xffffffff : UInt32) = handle
      · subst heq
        rfl
      · simp [heq]
    | ok reply =>
      show _ = 0
      by_cases hneg : ∀ fd, replies.drm.handleToFd = .ok fd → fd < 0
      · obtain ⟨-, -, htr⟩ := commitBuffer_noFd buffer hctx hgem hneg
        rw [htr]
        simp [outstanding, List.count_cons]
      · obtain ⟨fd, toFd, isFd⟩ : ∃ fd, replies.drm.handleToFd = .ok fd ∧ 0 ≤ fd := by
          simpa using hneg
        have himport : ∀ o : Option MppBuffer,
            resources (o.toList.map Event.bufferImport) = [] := by
          intro o
          cases o <;> rfl
        rw [commitBuffer_imports buffer hctx hgem toFd isFd]
        show outstanding (resources (_ ++ _ ++ _)) _ = 0
        rw [resources_append, resources_append, himport, List.append_nil,
          resources_opened _ _ isFd]
        show outstanding [.acquire (Res.handle reply.1), .acquire (Res.fd fd),
          .release (Res.fd fd), .release (Res.handle reply.1)] _ = 0
        simp [outstanding, List.count_cons]

theorem other_handles {m : RockitHwMpi} {c : Call}
    (henqueue : ∀ replies buffer, c ≠ .enqueue replies buffer)
    (hcommit : ∀ replies buffer, c ≠ .commitBuffer replies buffer) (handle : UInt32) :
    outstanding (resources (m.callEvents c)) (.handle handle) = 0 := by
  have hstep := Call.resStep m c
  generalize resources (m.callEvents c) = ledger at hstep ⊢
  generalize (m.next c).dataList = list at hstep
  cases hstep with
  | keep => exact outstanding_nil _
  | opened call _ _ => exact absurd call (henqueue _ _)
  | commit call _ => exact absurd call (hcommit _ _)
  | @free freed _ split =>
    refine outstanding_released (fun r hr => ?_) handle
    obtain ⟨b, _, hb⟩ := List.mem_flatMap.mp hr
    exact owned_not_handle b r hb

/-- A call leaves the handle it opens, and a commit of an unknown name destroys `-1`. -/
theorem call_handles (m : RockitHwMpi) (c : Call) (handle : UInt32) :
    outstanding (resources (m.callEvents c)) (.handle handle) =
      (m.openedHandles c).count handle - ((m.strayHandles c).count handle : Int) := by
  cases c with
  | enqueue replies buffer =>
    show outstanding (resources (enqueue m replies buffer).val.events) _ = _ - 0
    rw [enqueue_handles, Int.sub_zero]
  | commitBuffer replies buffer =>
    show outstanding (resources (commitBuffer m replies buffer).events) _ = 0 - _
    rw [commitBuffer_handles, Int.zero_sub]
  | dequeue _ _ | giveBackBuffer _ | reset _ | flush _ | control _ _ | query _ _ _ =>
    exact other_handles (by intro replies buffer h; cases h)
      (by intro replies buffer h; cases h) handle

theorem run_handles (calls : List Call) (handle : UInt32) : ∀ m : RockitHwMpi,
    outstanding (resources (runLog RockitHwMpi.next RockitHwMpi.callEvents m calls))
        (.handle handle) =
      (runLog RockitHwMpi.next RockitHwMpi.openedHandles m calls).count handle -
        ((runLog RockitHwMpi.next RockitHwMpi.strayHandles m calls).count handle : Int) := by
  induction calls with
  | nil =>
    intro m
    rfl
  | cons c calls ih =>
    intro m
    rw [runLog, runLog, runLog, resources_append, outstanding_append, call_handles, ih (m.next c),
      List.count_append, List.count_append]
    omega

/-- **The handles left** at the end of the life are those `enqueue` opened, each as often as it
did; a commit of an unknown name destroys the handle `-1`, which nothing opened. -/
theorem life_handles (drmFd : Int) (replies : InitReplies) (pairs : RockitHWParamPairs)
    (calls : List Call) (resetErr : Int) (handle : UInt32) :
    outstanding (lifeResources (life drmFd replies pairs calls resetErr)) (.handle handle) =
      (runLog RockitHwMpi.next RockitHwMpi.openedHandles
        (init (.new drmFd) replies pairs).val.hal calls).count handle -
      ((runLog RockitHwMpi.next RockitHwMpi.strayHandles
        (init (.new drmFd) replies pairs).val.hal calls).count handle : Int) := by
  have hconstruct : outstanding (lifeResources (construct drmFd)) (.handle handle) = 0 := by
    unfold construct
    split
    · simp [lifeResources, LifeEvent.resTx, outstanding]
    · rfl
  have hinit : outstanding (resources (init (.new drmFd) replies pairs).val.events)
      (.handle handle) = 0 := by
    have hended := init_ended (.new drmFd) replies pairs
    generalize resources (init (.new drmFd) replies pairs).val.events = ledger at hended ⊢
    cases hended <;> simp [outstanding]
  unfold life lived
  rw [lifeResources_append, lifeResources_append, lifeResources_calls, resources_append,
    resources_destroy, outstanding_append, outstanding_append, outstanding_append, hconstruct,
    hinit, run_handles, outstanding_released (held_not_handle _)]
  omega

end RockchipHal.RockitHw
