import RockchipHal.RockitHw.BufferRefs
import RockchipHal.RockitHw.Resources

/-!
# What a commit opens, and what it reports

`commitBuffer` opens a buffer by name, gets a descriptor for it, imports it, lists it,
and closes descriptor and handle on every path.  In any state a run reaches

    the call is atomic ↔ it has no open context, or it opens the buffer and then either
      gets no descriptor, or imports an object the list has or gets under the id

(`commitBuffer_atomic_iff`).  What is left: where the name does not open, the handle
destroyed is the `-1` it was initialised with, since an unsigned handle is never
negative; and neither a failed import nor an id that is listed already fails the call.
-/

namespace RockchipHal.RockitHw

/-! ## The ids of the list -/

theorem distinct_modifySite {l : List MppBufferCtx} (h : Distinct MppBufferCtx.mUniqueID l)
    (id : UInt32) (site : BufferSite) :
    Distinct MppBufferCtx.mUniqueID (modifyMppBuffer l id fun e => { e with mSite := site }) := by
  have hids : (modifyMppBuffer l id fun e => { e with mSite := site }).map
      MppBufferCtx.mUniqueID = l.map MppBufferCtx.mUniqueID :=
    map_modifyKey _ id _ l fun _ _ _ => rfl
  unfold Distinct
  rw [hids]
  exact h

theorem CommitStep.distinct {m : RockitHwMpi} {c : Call} {l : List MppBufferCtx}
    {refs : List (Tx MppBuffer)} {received : List (Tx UInt32)}
    (h : CommitStep m c l refs received) (hd : Distinct MppBufferCtx.mUniqueID m.commitList) :
    Distinct MppBufferCtx.mUniqueID l := by
  cases h with
  | keep => exact hd
  | @commit replies buffer fd call =>
    cases hfind : findMppBuffer m.commitList buffer.bufferId with
    | none => exact (distinct_push _ _).mpr ⟨hd, (find?_eq_none_iff_key _ _).mp hfind⟩
    | some e => exact hd
  | dequeue call media => exact distinct_modifySite hd _ _
  | giveBack call found => exact distinct_modifySite hd _ _
  | giveBackNone call absent => exact hd
  | clear call isClear =>
    rw [cleanMppBuffer_eq]
    exact hd.sublist List.filter_sublist

/-- Whatever the client does, no two entries have one id. -/
theorem commitList_distinct (m : RockitHwMpi) (replies : InitReplies) (pairs : RockitHWParamPairs)
    {s : MpiRun} (hs : Reach MpiRun.step (fun _ _ => True) (.start m replies pairs) s) :
    Distinct MppBufferCtx.mUniqueID s.hal.commitList := by
  refine hs.inv (fun s => Distinct MppBufferCtx.mUniqueID s.hal.commitList) ?_ ?_
  · rw [(start_lists m replies pairs).2]
    exact distinct_nil
  · rintro s c s' hd - ⟨⟩
    exact (Call.commitStep s.hal c).distinct hd

/-! ## The ways a commit ends -/

/-- The call keeps its promise: what it reports is what it did to the list, and what it
opened is closed. -/
structure CommitAtomic (m : RockitHwMpi) (replies : CommitReplies) (buffer : RockitHWBuffer) :
    Prop where
  committed : (commitBuffer m replies buffer).ret = 0 →
    ∃ e b, (commitBuffer m replies buffer).hal.commitList.filter
        (·.mUniqueID = buffer.bufferId) = [e] ∧
      e.mMppBuffer = some b ∧ .bufferImport b ∈ (commitBuffer m replies buffer).events
  unchanged : (commitBuffer m replies buffer).ret = -1 →
    (commitBuffer m replies buffer).hal.commitList = m.commitList
  givesBack : GivesBack (resources (commitBuffer m replies buffer).events)

variable (m : RockitHwMpi) (replies : CommitReplies) (buffer : RockitHWBuffer)

theorem commitBuffer_closed (h : m.openCtx = none) :
    commitBuffer m replies buffer = ⟨-1, m, []⟩ := by
  unfold commitBuffer
  rw [h]

theorem drmHandleToFd_noFd {drm : DrmReplies} (h : ∀ fd, drm.handleToFd = .ok fd → fd < 0)
    (handle : UInt32) :
    (drmHandleToFd drm handle).ret ≠ 0 ∧ (drmHandleToFd drm handle).mapFd < 0 ∧
      resources (drmHandleToFd drm handle).events = [] := by
  unfold drmHandleToFd
  cases hfd : drm.handleToFd with
  | error e =>
    have hpos := e.pos
    exact ⟨show -e.val ≠ 0 by omega, show (-1 : Int) < 0 by decide, rfl⟩
  | ok fd =>
    have hneg := h fd hfd
    dsimp only
    rw [if_pos hneg]
    refine ⟨by decide, hneg, ?_⟩
    simp [resources, Event.resTx, hneg]

section

variable {m replies} {ctx : MpiCodecContext} (hctx : m.openCtx = some ctx)
include hctx

theorem commitBuffer_noHandle {e : Errno} (h : replies.drm.gemOpen = .error e) :
    commitBuffer m replies buffer = ⟨-1, m, [.gemDestroy 0xffffffff]⟩ := by
  unfold commitBuffer drmGetInfoFromName
  rw [hctx, h]
  rfl

variable {handle : UInt32} {size : UInt64} (hopen : replies.drm.gemOpen = .ok (handle, size))
include hopen

theorem commitBuffer_noFd (h : ∀ fd, replies.drm.handleToFd = .ok fd → fd < 0) :
    (commitBuffer m replies buffer).ret = -1 ∧ (commitBuffer m replies buffer).hal = m ∧
      resources (commitBuffer m replies buffer).events =
        [.acquire (.handle handle), .release (.handle handle)] := by
  obtain ⟨hret, hfd, htx⟩ := drmHandleToFd_noFd h handle
  have hnot : ¬ 0 ≤ (drmHandleToFd replies.drm handle).mapFd := by omega
  unfold commitBuffer drmGetInfoFromName
  rw [hctx, hopen]
  dsimp only [Except.map]
  rw [if_pos hret]
  refine ⟨rfl, rfl, ?_⟩
  show .acquire (.handle handle) :: resources (_ ++ commitExit _ handle) = _
  unfold commitExit
  rw [if_neg hnot, resources_append, htx]
  rfl

/-- The buffer the call imports. -/
def CommitReplies.mppBuffer (replies : CommitReplies) (buffer : RockitHWBuffer) :
    Option MppBuffer :=
  replies.importBuffer.map fun obj => ⟨obj, buffer.bufferId⟩

theorem commitBuffer_imports {fd : Int} (toFd : replies.drm.handleToFd = .ok fd) (isFd : 0 ≤ fd) :
    commitBuffer m replies buffer =
      ⟨0, { m with
        mCtx := some (addMppBuffer ctx fd buffer.bufferId (replies.mppBuffer buffer)) },
        [.gemOpen buffer.bufferId handle, .handleToFd handle fd] ++
          (replies.mppBuffer buffer).toList.map .bufferImport ++
          [.close fd, .gemDestroy handle]⟩ := by
  unfold commitBuffer drmGetInfoFromName
  rw [hctx, hopen]
  dsimp only [Except.map]
  rw [drmHandleToFd_of_fd toFd isFd]
  dsimp only
  rw [if_neg (by simp)]
  unfold commitExit
  rw [if_pos isFd]
  rfl

end

/-- The entry of the id is the one that was listed, or a fresh one. -/
theorem filter_addMppBuffer {ctx : MpiCodecContext}
    (hd : Distinct MppBufferCtx.mUniqueID ctx.mCommitList) (fd : Int) (id : UInt32)
    (mppBuffer : Option MppBuffer) :
    (addMppBuffer ctx fd id mppBuffer).mCommitList.filter (·.mUniqueID = id) =
      [(findMppBuffer ctx.mCommitList id).getD ⟨fd, id, mppBuffer, .byMpi⟩] := by
  have hfilter : ctx.mCommitList.filter (·.mUniqueID = id) =
      (findMppBuffer ctx.mCommitList id).toList := hd.filter_key id
  unfold addMppBuffer
  cases hfind : findMppBuffer ctx.mCommitList id with
  | none =>
    rw [hfind] at hfilter
    dsimp only
    rw [List.filter_append, hfilter, List.filter_cons_of_pos (by simp)]
    rfl
  | some e =>
    rw [hfind] at hfilter
    exact hfilter

/-! ## Exactly when a commit is atomic -/

/-- The call ends before it opens anything; or the name opens, and then either gives no
descriptor, or an object is imported that an entry of this id, if there is one, holds. -/
def CommitsCleanly : Prop :=
  m.openCtx = none ∨
    ∃ handle size, replies.drm.gemOpen = .ok (handle, size) ∧
      ((∀ fd, replies.drm.handleToFd = .ok fd → fd < 0) ∨
        ∃ obj, replies.importBuffer = some obj ∧
          ∀ e ∈ m.commitList, e.mUniqueID = buffer.bufferId →
            e.mMppBuffer = some ⟨obj, buffer.bufferId⟩)

/-- A call that lists nothing is atomic when it closes what it opens. -/
theorem atomic_failed_iff (hret : (commitBuffer m replies buffer).ret = -1)
    (hhal : (commitBuffer m replies buffer).hal = m) :
    CommitAtomic m replies buffer ↔
      GivesBack (resources (commitBuffer m replies buffer).events) := by
  constructor
  · exact CommitAtomic.givesBack
  · intro hback
    refine ⟨fun h => ?_, fun _ => by rw [hhal], hback⟩
    rw [hret] at h
    exact absurd h (by decide)

theorem atomic_closed (h : m.openCtx = none) : CommitAtomic m replies buffer := by
  have hcall := commitBuffer_closed m replies buffer h
  rw [atomic_failed_iff m replies buffer (by rw [hcall]) (by rw [hcall]), hcall]
  exact GivesBack.nil

section

variable {m replies} {ctx : MpiCodecContext} (hctx : m.openCtx = some ctx)
include hctx

theorem not_atomic_noHandle {e : Errno} (h : replies.drm.gemOpen = .error e) :
    ¬ CommitAtomic m replies buffer := by
  have hcall := commitBuffer_noHandle buffer hctx h
  rw [atomic_failed_iff m replies buffer (by rw [hcall]) (by rw [hcall]), hcall]
  intro hback
  have hheld := hback.paired [] (.handle 0xffffffff) [] rfl
  simp at hheld

variable {handle : UInt32} {size : UInt64} (hopen : replies.drm.gemOpen = .ok (handle, size))
include hopen

theorem atomic_noFd (h : ∀ fd, replies.drm.handleToFd = .ok fd → fd < 0) :
    CommitAtomic m replies buffer := by
  obtain ⟨hret, hhal, htx⟩ := commitBuffer_noFd buffer hctx hopen h
  rw [atomic_failed_iff m replies buffer hret hhal, htx]
  exact GivesBack.nil.nest (by simp)

/-- Descriptor and handle are closed in turn. -/
theorem imports_givesBack {fd : Int} (toFd : replies.drm.handleToFd = .ok fd) (isFd : 0 ≤ fd) :
    GivesBack (resources (commitBuffer m replies buffer).events) := by
  have htx : resources (commitBuffer m replies buffer).events =
      [.acquire (.handle handle), .acquire (.fd fd), .release (.fd fd),
        .release (.handle handle)] := by
    rw [commitBuffer_imports buffer hctx hopen toFd isFd]
    show resources (.gemOpen buffer.bufferId handle :: .handleToFd handle fd ::
      ((replies.mppBuffer buffer).toList.map Event.bufferImport ++
        [.close fd, .gemDestroy handle])) = _
    rw [resources_opened buffer.bufferId handle isFd, resources_append]
    cases replies.mppBuffer buffer <;> rfl
  have hfd : GivesBack [Tx.acquire (Res.fd fd), .release (.fd fd)] := GivesBack.nil.nest (by simp)
  rw [htx]
  exact hfd.nest (by simp)

/-- So it is for the list to decide. -/
theorem atomic_imports_iff (hd : Distinct MppBufferCtx.mUniqueID m.commitList) {fd : Int}
    (toFd : replies.drm.handleToFd = .ok fd) (isFd : 0 ≤ fd) :
    CommitAtomic m replies buffer ↔
      ∃ obj, replies.importBuffer = some obj ∧
        ∀ e ∈ m.commitList, e.mUniqueID = buffer.bufferId →
          e.mMppBuffer = some ⟨obj, buffer.bufferId⟩ := by
  have hcall := commitBuffer_imports buffer hctx hopen toFd isFd
  have hl := commitList_of_openCtx m ctx hctx
  have hentry : (commitBuffer m replies buffer).hal.commitList.filter
      (·.mUniqueID = buffer.bufferId) =
      [(findMppBuffer m.commitList buffer.bufferId).getD
        ⟨fd, buffer.bufferId, replies.mppBuffer buffer, .byMpi⟩] := by
    rw [hl] at hd ⊢
    rw [hcall]
    exact filter_addMppBuffer hd fd _ _
  have himport : ∀ b, .bufferImport b ∈ (commitBuffer m replies buffer).events ↔
      replies.mppBuffer buffer = some b := by
    intro b
    rw [hcall]
    simp
  have hret : (commitBuffer m replies buffer).ret = 0 := by rw [hcall]
  constructor
  · intro hatomic
    obtain ⟨e, b, he, heb, hb⟩ := hatomic.committed hret
    obtain ⟨obj, hobj, rfl⟩ := Option.map_eq_some_iff.mp ((himport b).mp hb)
    refine ⟨obj, hobj, fun a ha hid => ?_⟩
    have hfind := (hd.find?_eq_some_iff buffer.bufferId a).mpr ⟨ha, hid⟩
    rw [hentry, findMppBuffer, hfind, Option.getD_some] at he
    rw [(List.cons.inj he).1, heb]
  · rintro ⟨obj, hobj, hlisted⟩
    have hb : replies.mppBuffer buffer = some ⟨obj, buffer.bufferId⟩ := by
      unfold CommitReplies.mppBuffer
      rw [hobj]
      rfl
    refine ⟨fun _ => ⟨_, _, hentry, ?_, (himport _).mpr hb⟩, fun h => ?_,
      imports_givesBack buffer hctx hopen toFd isFd⟩
    · cases hfind : findMppBuffer m.commitList buffer.bufferId with
      | none => exact hb
      | some e =>
        obtain ⟨he, hid⟩ := findMppBuffer_some _ _ _ hfind
        exact hlisted e he hid
    · rw [hret] at h
      exact absurd h (by decide)

end

/-- In any state a run reaches, a commit is atomic exactly when it ends before it opens
anything, or opens the buffer and lists what it imports. -/
theorem commitBuffer_atomic_iff (m : RockitHwMpi) (init : InitReplies)
    (pairs : RockitHWParamPairs) (s : MpiRun)
    (hs : Reach MpiRun.step (fun _ _ => True) (.start m init pairs) s)
    (replies : CommitReplies) (buffer : RockitHWBuffer) :
    CommitAtomic s.hal replies buffer ↔ CommitsCleanly s.hal replies buffer := by
  have hd := commitList_distinct m init pairs hs
  unfold CommitsCleanly
  cases hctx : s.hal.openCtx with
  | none => exact iff_of_true (atomic_closed s.hal replies buffer hctx) (.inl rfl)
  | some ctx =>
    cases hopen : replies.drm.gemOpen with
    | error e =>
      refine iff_of_false (not_atomic_noHandle buffer hctx hopen) ?_
      simp
    | ok reply =>
      obtain ⟨handle, size⟩ := reply
      have hdrop : ∀ P : Prop, ((some ctx : Option MpiCodecContext) = none ∨ ∃ h sz,
          (Except.ok (handle, size) : Outcome (UInt32 × UInt64)) = .ok (h, sz) ∧ P) ↔ P := by
        intro P
        simp
      rw [hdrop]
      by_cases hneg : ∀ fd, replies.drm.handleToFd = .ok fd → fd < 0
      · exact iff_of_true (atomic_noFd buffer hctx hopen hneg) (.inl hneg)
      · obtain ⟨fd, toFd, isFd⟩ : ∃ fd, replies.drm.handleToFd = .ok fd ∧ 0 ≤ fd := by
          simpa using hneg
        rw [or_iff_right hneg]
        exact atomic_imports_iff buffer hctx hopen hd toFd isFd

theorem commitBuffer_atomic_first : CommitAtomic startedRun.hal (importsAs 1) (packet 1 0) := by
  refine (commitBuffer_atomic_iff _ _ _ startedRun .init _ _).mpr
    (.inr ⟨1, 4096, rfl, .inr ⟨1, rfl, ?_⟩⟩)
  intro e he
  cases he

/-- A name that does not open, an import that fails, and a second commit of buffer 1. -/
theorem commitBuffer_notAtomic :
    ¬ CommitAtomic startedRun.hal ⟨⟨.error einval, .ok 4, .ok 0, .ok 0x10000, 4096⟩, some 1⟩
        (packet 1 0) ∧
      ¬ CommitAtomic startedRun.hal ⟨(importsAs 1).drm, none⟩ (packet 1 0) ∧
      ¬ CommitAtomic (startedRun.after (.commitBuffer (importsAs 1) (packet 1 0))).hal
        (importsAs 2) (packet 1 0) := by
  refine ⟨fun h => ?_, fun h => ?_, fun h => ?_⟩
  · have hheld := h.givesBack.paired [] (.handle 0xffffffff) [] rfl
    exact absurd hheld (by decide)
  · obtain ⟨e, b, he, heb, -⟩ := h.committed rfl
    have hentry : e = ⟨4, 1, none, .byMpi⟩ := (List.cons.inj he).1.symm
    rw [hentry] at heb
    cases heb
  · obtain ⟨e, b, he, heb, hb⟩ := h.committed rfl
    have hentry : e = ⟨4, 1, some ⟨1, 1⟩, .byMpi⟩ := (List.cons.inj he).1.symm
    rw [hentry] at heb
    rw [← Option.some.inj heb] at hb
    exact absurd hb (by decide)

end RockchipHal.RockitHw
