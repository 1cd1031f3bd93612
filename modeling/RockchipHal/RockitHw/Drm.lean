import Mathlib.Algebra.GroupWithZero.Nat
import Mathlib.Data.List.Basic

/-!
# What the Rockit HW HAL does outside its own memory

`Event` is one effect of a call on the kernel, the C heap or the MPP library; a
call leaves a list of them, in order.  `rt_drm.cpp` turns a buffer's global name
into a handle, a file descriptor and a mapping; the kernel's answers are
arguments (`DrmReplies`), those of a failed call with their error number.

Pointers are numbers and `NULL` is 0; an `int` that holds a size or an id is its
bit pattern.
-/

namespace RockchipHal.RockitHw

/-! ## Effects -/

/-- An MPP buffer object and the `info.index` it was imported with. -/
structure MppBuffer where
  obj : Nat
  index : UInt32
deriving DecidableEq, Repr

/-- A packet as the decoder gets it. -/
structure MppPacket where
  data : Nat
  length : UInt32
  eos : Bool
  pts : UInt64
  dts : UInt64
  extraData : Bool
deriving DecidableEq, Repr

/-- The `MpiCmd`s used. -/
inductive MpiCmd
  | setParserFastMode | setOutputFormat | setFrameInfo | setPresentTimeOrder
  | setExtBufGroup | setInfoChangeReady
deriving DecidableEq, Repr

inductive Event
  | gemOpen (name handle : UInt32)
  | gemDestroy (handle : UInt32)
  | handleToFd (handle : UInt32) (fd : Int)
  | mmap (addr : Nat) (length : UInt32)
  | munmap (addr : Nat) (length : UInt32)
  | close (fd : Int)
  | malloc
  | free
  | mppCreate (ctx : Nat)
  | mppInit (ctx : Nat) (coding : UInt32)
  | mppControl (ctx : Nat) (cmd : MpiCmd)
  | mppReset (ctx : Nat)
  | mppDestroy (ctx : Nat)
  | groupGet (group : Nat)
  | groupClear (group : Nat)
  | packetInit (data : Nat) (length : UInt32)
  | decodePutPacket (pkt : MppPacket)
  | packetDeinit
  | decodeGetFrame
  | frameDeinit
  | bufferImport (buffer : MppBuffer)
  | bufferIncRef (buffer : MppBuffer)
  | bufferPut (buffer : MppBuffer)
deriving DecidableEq, Repr

/-! ## rt_drm.cpp -/

/-- `errno` after a failed call. -/
structure Errno where
  val : Int
  pos : 0 < val

/-- `EINVAL`. -/
def einval : Errno := ⟨22, by decide⟩

/-- How a system call ended. -/
abbrev Outcome (α : Type) := Except Errno α

/-- `MAP_FAILED`, `(void *)-1`. -/
def mapFailed : Nat := 2 ^ 64 - 1

/-- The kernel's answers to the calls made for one buffer. -/
structure DrmReplies where
  /-- `DRM_IOCTL_GEM_OPEN`: handle and 64-bit size -/
  gemOpen : Outcome (UInt32 × UInt64)
  /-- `DRM_IOCTL_PRIME_HANDLE_TO_FD` -/
  handleToFd : Outcome Int
  /-- `DRM_IOCTL_MODE_MAP_DUMB`: the offset to map at -/
  mapDumb : Outcome UInt64
  mmap : Outcome Nat
  /-- `sysconf(_SC_PAGESIZE)` -/
  pageSize : UInt32

/-- Handle and size; the size is cut to an `int`. -/
def drmGetInfoFromName (replies : DrmReplies) : Outcome (UInt32 × UInt32) :=
  replies.gemOpen.map fun (handle, size) => (handle, size.toUInt32)

structure FdResult where
  ret : Int
  /-- `*map_fd`, -1 before the call -/
  mapFd : Int
  events : List Event

def drmHandleToFd (replies : DrmReplies) (handle : UInt32) : FdResult :=
  match replies.handleToFd with
  | .error e => ⟨-e.val, -1, []⟩
  | .ok fd => ⟨if fd < 0 then -einval.val else 0, fd, [.handleToFd handle fd]⟩

/-- A length rounded up to whole pages, in `uint32_t` arithmetic. -/
def pageRound (pageSize length : UInt32) : UInt32 :=
  (length + (pageSize - 1)) &&& ~~~(pageSize - 1)

/-- `drm_mmap`: an offset that is not a multiple of 4096 fails without a call. -/
def drmMmap (replies : DrmReplies) (offset : UInt64) : Outcome Nat :=
  if offset &&& 4095 ≠ 0 then .error einval else replies.mmap

structure MapResult where
  ret : Int
  /-- `*ptr`, `NULL` before the call -/
  ptr : Nat
  mapFd : Int
  events : List Event

/-- `drm_map` with `heaps` 0. -/
def drmMap (replies : DrmReplies) (handle length : UInt32) : MapResult :=
  let toFd := drmHandleToFd replies handle
  if toFd.ret < 0 then ⟨toFd.ret, 0, toFd.mapFd, toFd.events⟩
  else
    match replies.mapDumb with
    | .error e => ⟨-e.val, 0, toFd.mapFd, toFd.events ++ [.close toFd.mapFd]⟩
    | .ok offset =>
      match drmMmap replies offset with
      | .error e => ⟨-e.val, mapFailed, -1, toFd.events ++ [.close toFd.mapFd]⟩
      | .ok addr =>
        ⟨0, addr, toFd.mapFd, toFd.events ++ [.mmap addr (pageRound replies.pageSize length)]⟩

/-! ## Mappings -/

/-- The effect leaves the address space as it was; `munmap` of the value a failed
`mmap` returns fails itself. -/
def Event.Neutral : Event → Prop
  | .mmap _ _ => False
  | .munmap addr _ => addr = mapFailed
  | _ => True

/-- What opening a buffer leaves behind that does not get mapped. -/
def Event.Attempt : Event → Prop
  | .gemOpen _ _ | .handleToFd _ _ | .close _ => True
  | .munmap addr _ => addr = mapFailed
  | _ => False

theorem Event.Attempt.neutral : ∀ {e : Event}, e.Attempt → e.Neutral
  | .gemOpen _ _, _ | .handleToFd _ _, _ | .close _, _ => trivial
  | .munmap _ _, h => h

theorem drmHandleToFd_attempt (replies : DrmReplies) (handle : UInt32) :
    ∀ e ∈ (drmHandleToFd replies handle).events, e.Attempt := by
  unfold drmHandleToFd
  cases replies.handleToFd with
  | error _ =>
    intro e he
    cases he
  | ok fd =>
    intro e he
    rw [List.mem_singleton.mp he]
    trivial

theorem attempt_append_close (events : List Event) (fd : Int)
    (h : ∀ e ∈ events, e.Attempt) : ∀ e ∈ events ++ [.close fd], e.Attempt := by
  intro e he
  rcases List.mem_append.mp he with he | he
  · exact h e he
  · rw [List.mem_singleton.mp he]
    trivial

/-- A failed `drm_map` maps nothing. -/
theorem drmMap_error (replies : DrmReplies) (handle length : UInt32)
    (h : (drmMap replies handle length).ret < 0) :
    ((drmMap replies handle length).ptr = 0 ∨ (drmMap replies handle length).ptr = mapFailed) ∧
      ∀ e ∈ (drmMap replies handle length).events, e.Attempt := by
  have hfd := drmHandleToFd_attempt replies handle
  unfold drmMap at h ⊢
  dsimp only at h ⊢
  split
  · exact ⟨Or.inl rfl, hfd⟩
  next hret =>
    rw [if_neg hret] at h
    split
    · exact ⟨Or.inl rfl, attempt_append_close _ _ hfd⟩
    next offset hdumb =>
      simp only [hdumb] at h
      split
      · exact ⟨Or.inr rfl, attempt_append_close _ _ hfd⟩
      next addr hmmap =>
        simp only [hmmap] at h
        exact absurd h (by decide)

/-- A `drm_map` that succeeded has obtained a descriptor and mapped whole pages. -/
theorem drmMap_ok (replies : DrmReplies) (handle length : UInt32)
    (h : ¬ (drmMap replies handle length).ret < 0) :
    replies.mmap = .ok (drmMap replies handle length).ptr ∧
    (drmMap replies handle length).events =
      [.handleToFd handle (drmMap replies handle length).mapFd,
        .mmap (drmMap replies handle length).ptr (pageRound replies.pageSize length)] := by
  unfold drmMap at h ⊢
  dsimp only at h ⊢
  split
  next hret =>
    rw [if_pos hret] at h
    exact absurd hret h
  next hret =>
    rw [if_neg hret] at h
    split
    next e hdumb =>
      simp only [hdumb] at h
      have := e.pos
      omega
    next offset hdumb =>
      simp only [hdumb] at h
      split
      next e hmmap =>
        simp only [hmmap] at h
        have := e.pos
        omega
      next addr hmmap =>
        refine ⟨?_, ?_⟩
        · unfold drmMmap at hmmap
          split at hmmap
          · cases hmmap
          · exact hmmap
        · unfold drmHandleToFd at hret ⊢
          cases hfd : replies.handleToFd with
          | error e =>
            have := e.pos
            simp only [hfd] at hret
            omega
          | ok fd => rfl

end RockchipHal.RockitHw
