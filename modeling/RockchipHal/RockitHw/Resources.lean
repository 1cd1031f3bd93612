import RockchipHal.Lib.Ledger
import RockchipHal.RockitHw.DataList

/-!
# What `enqueue` opens and leaves open

`resources` is the ledger of a call: the blocks, MPP contexts and groups, GEM handles,
descriptors and mappings its effects acquire and release.  An entry of `mDataList` owns
what its destructor releases (`resources_delete`), a descriptor and a mapping.

`enqueue` of a buffer that is not listed opens a GEM handle, and nothing ever releases
one (`commitBuffer` does), so

    every resource of the call is accounted for ↔ it opens no handle  (enqueue_accounted_iff)

Of the descriptors and mappings alone, it loses count in one case each, where
`drm_map` and `enqueue` both clean up: a descriptor is closed by both when the buffer has no
offset to map at, and the value of the failed `mmap` is unmapped.
-/

namespace RockchipHal.RockitHw

/-! ## Resources -/

inductive Res
  | block
  | context (ctx : Nat)
  | group (group : Nat)
  | handle (handle : UInt32)
  | fd (fd : Int)
  | mapping (addr : Nat)
deriving DecidableEq, Repr

/-- A negative number is no descriptor. -/
def Event.resTx : Event → Option (Tx Res)
  | .malloc => some (.acquire .block)
  | .free => some (.release .block)
  | .mppCreate ctx => some (.acquire (.context ctx))
  | .mppDestroy ctx => some (.release (.context ctx))
  | .groupGet group => some (.acquire (.group group))
  | .gemOpen _ handle => some (.acquire (.handle handle))
  | .gemDestroy handle => some (.release (.handle handle))
  | .handleToFd _ fd => if fd < 0 then none else some (.acquire (.fd fd))
  | .close fd => some (.release (.fd fd))
  | .mmap addr _ => some (.acquire (.mapping addr))
  | .munmap addr _ => some (.release (.mapping addr))
  | _ => none

def resources (events : List Event) : List (Tx Res) := events.filterMap Event.resTx

theorem resources_append (l l' : List Event) : resources (l ++ l') = resources l ++ resources l' :=
  List.filterMap_append

/-- What an entry of `mDataList` owns. -/
def DataBufferCtx.owned (b : DataBufferCtx) : List Res :=
  (if b.mData ≠ 0 then [.mapping b.mData] else []) ++ (if 0 ≤ b.mFd then [.fd b.mFd] else [])

/-- The destructor releases what is owned. -/
theorem resources_delete (b : DataBufferCtx) : resources b.delete = b.owned.map .release := by
  unfold DataBufferCtx.delete DataBufferCtx.owned
  split <;> split <;> rfl

/-- The number of entries that own `r`. -/
def owners (l : List DataBufferCtx) (r : Res) : Nat := l.countP fun b => r ∈ b.owned

theorem owners_append (l : List DataBufferCtx) (b : DataBufferCtx) (r : Res) :
    owners (l ++ [b]) r = owners l r + if r ∈ b.owned then 1 else 0 := by
  unfold owners
  rw [List.countP_append, List.countP_singleton]
  simp only [decide_eq_true_eq]

/-! ## Accounting -/

/-- What was acquired is owned by one entry of the list left, or has been released once;
nothing was released that was not held. -/
structure Accounted (tr : List (Tx Res)) (after : List DataBufferCtx) : Prop where
  accounted : ∀ r, .acquire r ∈ tr →
    owners after r = 1 ∧ tr.count (.release r) = 0 ∨ owners after r = 0 ∧ tr.count (.release r) = 1
  paired : Paired tr

theorem accounted_nil (after : List DataBufferCtx) : Accounted [] after where
  accounted := by
    intro r h
    cases h
  paired := paired_nil

/-- The call opens a buffer that is not listed, and gets this handle for it. -/
def OpensHandle (m : RockitHwMpi) (drm : DrmReplies) (buffer : RockitHWBuffer)
    (handle : UInt32) : Prop :=
  m.openCtx.isSome ∧ (enqueueParams buffer.pair).val.eos = false ∧
    findDataBuffer m.dataList buffer.bufferId = none ∧ ∃ size, drm.gemOpen = .ok (handle, size)

/-- How mapping a buffer goes on from its handle: the ledger, and what the entry made for
it, if one is, owns. -/
inductive Opened (drm : DrmReplies) (handle : UInt32) : List (Tx Res) → Option DataBufferCtx → Prop
  | noFd (failed : ∀ fd, drm.handleToFd = .ok fd → fd < 0) :
      Opened drm handle [.acquire (.handle handle)] none
  | noOffset {fd : Int} {e : Errno} (toFd : drm.handleToFd = .ok fd) (isFd : 0 ≤ fd)
      (failed : drm.mapDumb = .error e) :
      Opened drm handle [.acquire (.handle handle), .acquire (.fd fd), .release (.fd fd),
        .release (.fd fd)] none
  | notMapped {fd : Int} {offset : UInt64} {e : Errno} (toFd : drm.handleToFd = .ok fd)
      (isFd : 0 ≤ fd) (mapDumb : drm.mapDumb = .ok offset) (failed : drmMmap drm offset = .error e) :
      Opened drm handle [.acquire (.handle handle), .acquire (.fd fd), .release (.fd fd),
        .release (.mapping mapFailed)] none
  | mapped {offset : UInt64} {b : DataBufferCtx} (toFd : drm.handleToFd = .ok b.mFd)
      (isFd : 0 ≤ b.mFd) (mapDumb : drm.mapDumb = .ok offset)
      (mapping : drmMmap drm offset = .ok b.mData) :
      Opened drm handle [.acquire (.handle handle), .acquire (.fd b.mFd),
        .acquire (.mapping b.mData)] (some b)

/-- The entry, when the mapping succeeded. -/
def mapResult : Except (List Event) (DataBufferCtx × List Event) →
    List Event × Option DataBufferCtx
  | .error events => (events, none)
  | .ok (b, events) => (events, some b)

/-! ### The ways `drm_map` ends -/

theorem drmMap_noFd (drm : DrmReplies) (handle length : UInt32)
    (h : ∀ fd, drm.handleToFd = .ok fd → fd < 0) :
    (drmMap drm handle length).ret < 0 ∧ (drmMap drm handle length).ptr = 0 ∧
      (drmMap drm handle length).mapFd < 0 ∧
      resources (drmMap drm handle length).events = [] := by
  unfold drmMap drmHandleToFd
  cases hfd : drm.handleToFd with
  | error e =>
    have hpos := e.pos
    have hret : -e.val < 0 := by omega
    dsimp only
    rw [if_pos hret]
    exact ⟨hret, rfl, show (-1 : Int) < 0 by decide, rfl⟩
  | ok fd =>
    have hneg := h fd hfd
    dsimp only
    rw [if_pos hneg, if_pos (show -einval.val < 0 by decide)]
    refine ⟨show -einval.val < 0 by decide, rfl, hneg, ?_⟩
    simp [resources, Event.resTx, hneg]

section

variable {drm : DrmReplies} {fd : Int} (toFd : drm.handleToFd = .ok fd) (isFd : 0 ≤ fd)
include toFd isFd

theorem drmHandleToFd_of_fd (handle : UInt32) :
    drmHandleToFd drm handle = ⟨0, fd, [.handleToFd handle fd]⟩ := by
  have hnot : ¬ fd < 0 := by omega
  unfold drmHandleToFd
  simp only [toFd, if_neg hnot]

theorem drmMap_noOffset (handle length : UInt32) {e : Errno} (h : drm.mapDumb = .error e) :
    drmMap drm handle length = ⟨-e.val, 0, fd, [.handleToFd handle fd, .close fd]⟩ := by
  unfold drmMap
  simp only [drmHandleToFd_of_fd toFd isFd, h]
  rfl

theorem drmMap_notMapped (handle length : UInt32) {offset : UInt64} {e : Errno}
    (h : drm.mapDumb = .ok offset) (hmmap : drmMmap drm offset = .error e) :
    drmMap drm handle length =
      ⟨-e.val, mapFailed, -1, [.handleToFd handle fd, .close fd]⟩ := by
  unfold drmMap
  simp only [drmHandleToFd_of_fd toFd isFd, h, hmmap]
  rfl

theorem drmMap_mapped (handle length : UInt32) {offset : UInt64} {addr : Nat}
    (h : drm.mapDumb = .ok offset) (hmmap : drmMmap drm offset = .ok addr) :
    drmMap drm handle length =
      ⟨0, addr, fd, [.handleToFd handle fd, .mmap addr (pageRound drm.pageSize length)]⟩ := by
  unfold drmMap
  simp only [drmHandleToFd_of_fd toFd isFd, h, hmmap]
  rfl

end

theorem neg_errno (e : Errno) : -e.val < 0 := by
  have := e.pos
  omega

theorem resources_opened (name handle : UInt32) {fd : Int} (isFd : 0 ≤ fd) (rest : List Event) :
    resources (.gemOpen name handle :: .handleToFd handle fd :: rest) =
      .acquire (.handle handle) :: .acquire (.fd fd) :: resources rest := by
  have hopen : (Event.gemOpen name handle).resTx = some (.acquire (.handle handle)) := rfl
  have hfd : (Event.handleToFd handle fd).resTx = some (.acquire (.fd fd)) := if_neg (by omega)
  unfold resources
  rw [List.filterMap_cons_some hopen, List.filterMap_cons_some hfd]

theorem mapDataBuffer_opened (drm : DrmReplies) (bufferId handle : UInt32) (size : UInt64)
    (hopen : drm.gemOpen = .ok (handle, size)) :
    Opened drm handle (resources (mapResult (mapDataBuffer drm bufferId)).1)
      (mapResult (mapDataBuffer drm bufferId)).2 := by
  unfold mapDataBuffer drmGetInfoFromName
  rw [hopen]
  dsimp only [Except.map]
  by_cases hneg : ∀ fd, drm.handleToFd = .ok fd → fd < 0
  · obtain ⟨hret, hptr, hfd, hev⟩ := drmMap_noFd drm handle size.toUInt32 hneg
    rw [if_pos hret, hptr, if_neg (by simp), if_neg (by omega), List.append_nil, List.append_nil]
    show Opened drm handle
      (.acquire (.handle handle) :: resources (drmMap drm handle size.toUInt32).events) none
    rw [hev]
    exact .noFd hneg
  · obtain ⟨fd, toFd, isFd⟩ : ∃ fd, drm.handleToFd = .ok fd ∧ 0 ≤ fd := by
      simpa using hneg
    cases hdumb : drm.mapDumb with
    | error e =>
      rw [drmMap_noOffset toFd isFd handle _ hdumb]
      dsimp only
      rw [if_pos (neg_errno e), if_neg (by simp), if_pos isFd]
      show Opened drm handle (resources (.gemOpen bufferId handle :: .handleToFd handle fd ::
        [.close fd, .close fd])) none
      rw [resources_opened bufferId handle isFd]
      exact .noOffset toFd isFd hdumb
    | ok offset =>
      cases hmmap : drmMmap drm offset with
      | error e =>
        rw [drmMap_notMapped toFd isFd handle _ hdumb hmmap]
        dsimp only
        rw [if_pos (neg_errno e), if_pos (by decide), if_neg (by decide)]
        show Opened drm handle (resources (.gemOpen bufferId handle :: .handleToFd handle fd ::
          [.close fd, .munmap mapFailed size.toUInt32])) none
        rw [resources_opened bufferId handle isFd]
        exact .notMapped toFd isFd hdumb hmmap
      | ok addr =>
        rw [drmMap_mapped toFd isFd handle _ hdumb hmmap]
        dsimp only
        rw [if_neg (by decide)]
        show Opened drm handle (resources (.gemOpen bufferId handle :: .handleToFd handle fd ::
          [.mmap addr (pageRound drm.pageSize size.toUInt32)]))
          (some ⟨fd, bufferId, addr, size.toUInt32, .byMpi⟩)
        rw [resources_opened bufferId handle isFd]
        exact .mapped (b := ⟨fd, bufferId, addr, size.toUInt32, .byMpi⟩) toFd isFd hdumb hmmap

/-! ## enqueue -/

/-- A call that opens no handle touches nothing. -/
theorem resources_enqueue_of_not (m : RockitHwMpi) (replies : EnqueueReplies)
    (buffer : RockitHWBuffer) (h : ∀ handle, ¬ OpensHandle m replies.drm buffer handle) :
    resources (enqueue m replies buffer).val.events = [] := by
  unfold enqueue
  cases hctx : m.openCtx with
  | none => rfl
  | some ctx =>
    have hl := dataList_of_openCtx m ctx hctx
    rw [Reads.val_map]
    unfold enqueueWith
    cases heos : (enqueueParams buffer.pair).val.eos with
    | true => rfl
    | false =>
      rw [if_neg Bool.false_ne_true]
      cases hfind : findDataBuffer ctx.mDataList buffer.bufferId with
      | some b => rfl
      | none =>
        have hopen : ∀ handle size, replies.drm.gemOpen ≠ .ok (handle, size) := by
          intro handle size hok
          refine h handle ⟨?_, heos, ?_, size, hok⟩
          · rw [hctx]
            rfl
          · rw [hl]
            exact hfind
        unfold mapDataBuffer drmGetInfoFromName
        cases hgem : replies.drm.gemOpen with
        | error e => rfl
        | ok reply => exact absurd hgem (hopen reply.1 reply.2)

/-- A call that opens a handle goes on as `Opened` says, and lists what it has mapped. -/
theorem enqueue_opened (m : RockitHwMpi) (replies : EnqueueReplies) (buffer : RockitHWBuffer)
    {handle : UInt32} (h : OpensHandle m replies.drm buffer handle) :
    ∃ made, Opened replies.drm handle (resources (enqueue m replies buffer).val.events) made ∧
      (enqueue m replies buffer).val.hal.dataList = m.dataList ++ made.toList := by
  obtain ⟨hsome, heos, hfind, size, hgem⟩ := h
  obtain ⟨ctx, hctx⟩ := Option.isSome_iff_exists.mp hsome
  have hl := dataList_of_openCtx m ctx hctx
  rw [hl] at hfind
  have hopened := mapDataBuffer_opened replies.drm buffer.bufferId handle size hgem
  unfold enqueue
  rw [hctx]
  dsimp only
  rw [Reads.val_map]
  unfold enqueueWith
  rw [heos, if_neg Bool.false_ne_true, hfind]
  dsimp only
  cases hmap : mapDataBuffer replies.drm buffer.bufferId with
  | error events =>
    rw [hmap] at hopened
    exact ⟨none, hopened, (List.append_nil _).symm⟩
  | ok made =>
    rw [hmap] at hopened
    refine ⟨some made.1, ?_, ?_⟩
    · show Opened replies.drm handle (resources (made.2 ++ _)) (some made.1)
      rw [resources_append]
      show Opened replies.drm handle (resources made.2 ++ []) (some made.1)
      rw [List.append_nil]
      exact hopened
    · show ctx.mDataList ++ [made.1] = _
      rw [hl]
      rfl

/-- The list owns no handle. -/
theorem owners_handle (l : List DataBufferCtx) (handle : UInt32) : owners l (.handle handle) = 0 := by
  unfold owners
  rw [List.countP_eq_zero]
  intro b _
  unfold DataBufferCtx.owned
  split <;> split <;> simp

theorem Opened.handle_kept {drm : DrmReplies} {handle : UInt32} {tr : List (Tx Res)}
    {made : Option DataBufferCtx} (h : Opened drm handle tr made) :
    .acquire (.handle handle) ∈ tr ∧ tr.count (.release (.handle handle)) = 0 := by
  cases h <;> exact ⟨List.mem_cons_self, by simp⟩

/-! ### Descriptors and mappings alone -/

def Res.isFd : Res → Bool
  | .fd _ => true
  | _ => false

def Res.isMapping : Res → Bool
  | .mapping _ => true
  | _ => false

/-- The entries of a ledger about one kind of resource. -/
def ofKind (kind : Res → Bool) (tr : List (Tx Res)) : List (Tx Res) :=
  tr.filter fun
    | .acquire r => kind r
    | .release r => kind r

/-- One resource, acquired and released again. -/
theorem accounted_released {r : Res} {after : List DataBufferCtx} (h : owners after r = 0) :
    Accounted [.acquire r, .release r] after where
  accounted := by
    intro r' hr'
    have hr' : r' = r := by simpa using hr'
    subst hr'
    exact .inr ⟨h, by simp⟩
  paired := by
    refine (paired_release [.acquire r] r).mpr ⟨(paired_acquire [] r).mpr paired_nil, ?_⟩
    simp [outstanding]

/-- One resource, acquired and listed. -/
theorem accounted_owned {r : Res} {after : List DataBufferCtx} (h : owners after r = 1) :
    Accounted [.acquire r] after where
  accounted := by
    intro r' hr'
    have hr' : r' = r := by simpa using hr'
    subst hr'
    exact .inl ⟨h, by simp⟩
  paired := (paired_acquire [] r).mpr paired_nil

/-- A second release is of nothing held. -/
theorem not_accounted_twice {r : Res} {after : List DataBufferCtx} :
    ¬ Accounted [.acquire r, .release r, .release r] after := by
  intro h
  have hheld := h.paired [.acquire r, .release r] r [] rfl
  simp [outstanding] at hheld

theorem not_accounted_release {r : Res} {after : List DataBufferCtx} :
    ¬ Accounted [.release r] after := by
  intro h
  have hheld := h.paired [] r [] rfl
  simp [outstanding] at hheld

/-- One kind of resource: nothing where no handle is opened, and otherwise what `Opened` says. -/
theorem accounted_ofKind_iff (m : RockitHwMpi) (replies : EnqueueReplies)
    (buffer : RockitHWBuffer) (kind : Res → Bool) {P : Prop}
    (hnone : (∀ handle, ¬ OpensHandle m replies.drm buffer handle) → P)
    (hopened : ∀ handle tr made, OpensHandle m replies.drm buffer handle →
      Opened replies.drm handle tr made →
      (Accounted (ofKind kind tr) (m.dataList ++ made.toList) ↔ P)) :
    Accounted (ofKind kind (resources (enqueue m replies buffer).val.events))
        (enqueue m replies buffer).val.hal.dataList ↔ P := by
  by_cases hopens : ∃ handle, OpensHandle m replies.drm buffer handle
  · obtain ⟨handle, hopens⟩ := hopens
    obtain ⟨made, htr, hafter⟩ := enqueue_opened m replies buffer hopens
    rw [hafter]
    exact hopened handle _ made hopens htr
  · have hnot : ∀ handle, ¬ OpensHandle m replies.drm buffer handle := fun handle h =>
      hopens ⟨handle, h⟩
    rw [resources_enqueue_of_not m replies buffer hnot]
    exact iff_of_true (accounted_nil _) (hnone hnot)

/-- Descriptors, when the kernel gives out one that is not listed: lost only where the
buffer has no offset to map at. -/
theorem enqueue_fds_iff (m : RockitHwMpi) (replies : EnqueueReplies) (buffer : RockitHWBuffer)
    (fresh : ∀ fd, replies.drm.handleToFd = .ok fd → owners m.dataList (.fd fd) = 0) :
    Accounted (ofKind Res.isFd (resources (enqueue m replies buffer).val.events))
        (enqueue m replies buffer).val.hal.dataList ↔
      ∀ handle fd, OpensHandle m replies.drm buffer handle → replies.drm.handleToFd = .ok fd →
        0 ≤ fd → ∃ offset, replies.drm.mapDumb = .ok offset := by
  refine accounted_ofKind_iff m replies buffer Res.isFd
    (fun hnone handle _ h => absurd h (hnone handle)) fun handle tr made hopens hopened => ?_
  cases hopened with
  | noFd failed =>
    refine iff_of_true (accounted_nil _) fun _ fd _ htoFd hpos => ?_
    have := failed fd htoFd
    omega
  | noOffset toFd isFd failed =>
    refine iff_of_false not_accounted_twice fun h => ?_
    obtain ⟨offset, hoffset⟩ := h handle _ hopens toFd isFd
    rw [failed] at hoffset
    cases hoffset
  | notMapped toFd isFd mapDumb failed =>
    refine iff_of_true (accounted_released ?_) fun _ _ _ _ _ => ⟨_, mapDumb⟩
    rw [Option.toList_none, List.append_nil]
    exact fresh _ toFd
  | mapped toFd isFd mapDumb mapping =>
    refine iff_of_true (accounted_owned ?_) fun _ _ _ _ _ => ⟨_, mapDumb⟩
    rw [Option.toList_some, owners_append, fresh _ toFd, if_pos]
    simp [DataBufferCtx.owned, isFd]

/-- Mappings, when the kernel maps at a fresh address: lost only where `mmap` fails. -/
theorem enqueue_mappings_iff (m : RockitHwMpi) (replies : EnqueueReplies) (buffer : RockitHWBuffer)
    (fresh : ∀ addr, replies.drm.mmap = .ok addr →
      addr ≠ 0 ∧ owners m.dataList (.mapping addr) = 0) :
    Accounted (ofKind Res.isMapping (resources (enqueue m replies buffer).val.events))
        (enqueue m replies buffer).val.hal.dataList ↔
      ∀ handle fd offset, OpensHandle m replies.drm buffer handle →
        replies.drm.handleToFd = .ok fd → 0 ≤ fd → replies.drm.mapDumb = .ok offset →
        ∃ addr, drmMmap replies.drm offset = .ok addr := by
  refine accounted_ofKind_iff m replies buffer Res.isMapping
    (fun hnone handle _ _ h => absurd h (hnone handle)) fun handle tr made hopens hopened => ?_
  cases hopened with
  | noFd failed =>
    refine iff_of_true (accounted_nil _) fun _ fd _ _ htoFd hpos => ?_
    have := failed fd htoFd
    omega
  | noOffset toFd isFd failed =>
    refine iff_of_true (accounted_nil _) fun _ _ offset _ _ _ hoffset => ?_
    rw [failed] at hoffset
    cases hoffset
  | notMapped toFd isFd mapDumb failed =>
    refine iff_of_false not_accounted_release fun h => ?_
    obtain ⟨addr, haddr⟩ := h handle _ _ hopens toFd isFd mapDumb
    rw [failed] at haddr
    cases haddr
  | @mapped offset b toFd isFd mapDumb mapping =>
    have hmmap : replies.drm.mmap = .ok b.mData := by
      unfold drmMmap at mapping
      split at mapping
      · cases mapping
      · exact mapping
    obtain ⟨hne, hfresh⟩ := fresh _ hmmap
    refine iff_of_true (accounted_owned ?_) fun _ _ _ _ _ _ hoffset => ?_
    · rw [Option.toList_some, owners_append, hfresh, if_pos]
      simp [DataBufferCtx.owned, hne]
    · rw [mapDumb] at hoffset
      cases hoffset
      exact ⟨_, mapping⟩

/-- **Every resource is accounted for** exactly when the call opens no GEM handle. -/
theorem enqueue_accounted_iff (m : RockitHwMpi) (replies : EnqueueReplies)
    (buffer : RockitHWBuffer) :
    Accounted (resources (enqueue m replies buffer).val.events)
        (enqueue m replies buffer).val.hal.dataList ↔
      ∀ handle, ¬ OpensHandle m replies.drm buffer handle := by
  constructor
  · intro hacc handle hopens
    obtain ⟨made, hopened, -⟩ := enqueue_opened m replies buffer hopens
    obtain ⟨hacquired, hkept⟩ := hopened.handle_kept
    rcases hacc.accounted _ hacquired with ⟨howned, -⟩ | ⟨-, hreleased⟩
    · rw [owners_handle] at howned
      omega
    · omega
  · intro h
    rw [resources_enqueue_of_not m replies buffer h]
    exact accounted_nil _

/-- Buffer 1 is mapped and sent; its handle stays open.  Where it has no offset, its
descriptor 4 is closed twice; where `mmap` fails, `MAP_FAILED` is unmapped. -/
theorem enqueue_notAccounted :
    resources (enqueue startedRun.hal (pageAt 9 4 0x10000) (packet 1 10)).val.events =
        [.acquire (.handle 9), .acquire (.fd 4), .acquire (.mapping 0x10000)] ∧
      ¬ Accounted (resources (enqueue startedRun.hal (pageAt 9 4 0x10000) (packet 1 10)).val.events)
        (enqueue startedRun.hal (pageAt 9 4 0x10000) (packet 1 10)).val.hal.dataList ∧
      resources (enqueue startedRun.hal ⟨⟨.ok (9, 4096), .ok 4, .error einval, .ok 0x10000, 4096⟩, 0⟩
          (packet 1 10)).val.events =
        [.acquire (.handle 9), .acquire (.fd 4), .release (.fd 4), .release (.fd 4)] ∧
      resources (enqueue startedRun.hal ⟨⟨.ok (9, 4096), .ok 4, .ok 0, .error einval, 4096⟩, 0⟩
          (packet 1 10)).val.events =
        [.acquire (.handle 9), .acquire (.fd 4), .release (.fd 4), .release (.mapping mapFailed)] := by
  refine ⟨by decide, fun h => ?_, by decide, by decide⟩
  rcases h.accounted (.handle 9) (by decide) with ⟨howned, -⟩ | ⟨-, hreleased⟩
  · exact absurd howned (by decide)
  · exact absurd hreleased (by decide)

end RockchipHal.RockitHw
