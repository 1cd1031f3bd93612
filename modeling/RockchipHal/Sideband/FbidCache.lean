import RockchipHal.Lib.KeyedList
import RockchipHal.Lib.Reach
import RockchipHal.Sideband.DrmVopRender

/-!
# The framebuffer cache over runs

Buffers come and go, and the kernel gives the descriptor number of a freed buffer to a
new one, while `mFbidMap` keeps every entry.  Next to the renderer, a `Screen` has the
live buffers, what the kernel knows (which buffer a GEM handle and a framebuffer are
over), and for each cache entry the buffer it was made for.

A call is `Coherent` when it does what making a framebuffer in this call would do: it
returns one over the handle's own buffer, or -1 because none could be made.  In runs
whose calls fit the cache, this is exact (`getFbid_coherent_iff`):

    Coherent s b replies ↔ Fits s b replies
-/

namespace RockchipHal.Sideband

/-- A buffer that has been allocated and not freed.  `buffer` tells it from all others. -/
structure LiveBuffer where
  handle : BufferHandle
  buffer : Nat
  attributes : GrallocAttributes
deriving DecidableEq, Repr

structure Screen where
  render : DrmVopRender
  live : List LiveBuffer
  nextBuffer : Nat
  /-- the GEM handles of the renderer's DRM file, with their buffers -/
  gem : List (UInt32 × Nat)
  framebuffers : List (Int × Nat)
  /-- the buffers the entries of `mFbidMap` were made for -/
  madeFor : List (Int × Nat)
deriving DecidableEq, Repr

inductive ScreenAction
  | alloc (handle : BufferHandle) (attributes : GrallocAttributes)
  | free (handle : BufferHandle)
  | getFbid (handle : BufferHandle) (replies : FbReplies)

namespace Screen

def start : Screen := ⟨⟨[]⟩, [], 0, [], [], []⟩

/-- The live buffer a handle stands for. -/
def find (s : Screen) (handle : BufferHandle) : Option LiveBuffer :=
  s.live.find? fun b => b.handle = handle

/-- The id cached under the buffer's descriptor. -/
def cachedFbid (s : Screen) (b : LiveBuffer) : Option Int :=
  s.render.mFbidMap.lookup b.attributes.fd

/-- The GEM handles once the buffer has been imported, if it can be. -/
def imported (s : Screen) (b : LiveBuffer) (replies : FbReplies) : List (UInt32 × Nat) :=
  match replies.primeFDToHandle with
  | some gemHandle => (gemHandle, b.buffer) :: s.gem
  | none => s.gem

/-- What the kernel can answer: a GEM handle is the buffer's own or new, a framebuffer is
over an object the handle passed stands for, and its id is new. -/
def Possible (s : Screen) (b : LiveBuffer) (replies : FbReplies) : Prop :=
  (∀ g ∈ replies.primeFDToHandle, s.gem.lookup g = none ∨ s.gem.lookup g = some b.buffer) ∧
    ∀ fb ∈ addFramebuffer b.attributes replies,
      s.framebuffers.lookup (fb.id : Int) = none ∧
        ((s.imported b replies).lookup replies.gemHandle).isSome = true

instance (s : Screen) (b : LiveBuffer) (replies : FbReplies) :
    Decidable (s.Possible b replies) :=
  -- Named, since the instance for a finite type would go through every `UInt32`.
  @instDecidableAnd _ _ (Option.decidableForallMem _) (Option.decidableForallMem _)

/-- The framebuffer made, over the object its GEM handle stands for. -/
def created (s : Screen) (b : LiveBuffer) (replies : FbReplies) : List (Int × Nat) :=
  match addFramebuffer b.attributes replies, (s.imported b replies).lookup replies.gemHandle with
  | some fb, some buffer => [(fb.id, buffer)]
  | _, _ => []

/-- The call of `GetFbid`.  On a hit the kernel is not asked. -/
def called (s : Screen) (b : LiveBuffer) (replies : FbReplies) : Screen :=
  match s.cachedFbid b with
  | some _ => { s with render := (getFbid s.render b.attributes replies).2 }
  | none =>
    { s with
      render := (getFbid s.render b.attributes replies).2
      gem := s.imported b replies
      framebuffers := s.created b replies ++ s.framebuffers
      madeFor := (b.attributes.fd, b.buffer) :: s.madeFor }

/-- A new buffer gets a handle and a descriptor no live buffer has. -/
def step (s : Screen) : ScreenAction → Option Screen
  | .alloc handle attributes =>
    if ∀ b ∈ s.live, b.handle ≠ handle ∧ b.attributes.fd ≠ attributes.fd then
      some { s with
        live := ⟨handle, s.nextBuffer, attributes⟩ :: s.live
        nextBuffer := s.nextBuffer + 1 }
    else none
  | .free handle => some { s with live := s.live.filter fun b => b.handle ≠ handle }
  | .getFbid handle replies =>
    match s.find handle with
    | none => none
    | some b => if s.Possible b replies then some (s.called b replies) else none

/-- The call returns a framebuffer over the handle's buffer, or -1 because making one in
this call fails. -/
structure Coherent (s : Screen) (b : LiveBuffer) (replies : FbReplies) : Prop where
  failed : (getFbid s.render b.attributes replies).1 = -1 →
    addFramebuffer b.attributes replies = none
  own : (getFbid s.render b.attributes replies).1 ≠ -1 →
    (s.called b replies).framebuffers.lookup (getFbid s.render b.attributes replies).1 =
      some b.buffer

/-- The call fits the cache: a buffer not cached can be imported, or no framebuffer is made
of it; an id is cached for this very buffer; a failure is cached that repeats itself. -/
def Fits (s : Screen) (b : LiveBuffer) (replies : FbReplies) : Prop :=
  (s.cachedFbid b = none →
    replies.primeFDToHandle.isSome = true ∨ addFramebuffer b.attributes replies = none) ∧
  ∀ fbid ∈ s.cachedFbid b,
    (0 < fbid → s.madeFor.lookup b.attributes.fd = some b.buffer) ∧
      (¬ 0 < fbid → addFramebuffer b.attributes replies = none)

instance (s : Screen) (b : LiveBuffer) (replies : FbReplies) : Decidable (s.Fits b replies) := by
  unfold Fits
  infer_instance

/-- A `GetFbid` call fits the cache. -/
def FitsCache (s : Screen) : ScreenAction → Prop
  | .getFbid handle replies => ∀ b ∈ s.find handle, s.Fits b replies
  | _ => True

instance (s : Screen) (a : ScreenAction) : Decidable (s.FitsCache a) := by
  cases a <;> unfold FitsCache <;> infer_instance

/-! ## What runs keep -/

structure Sound (s : Screen) : Prop where
  distinct : Distinct LiveBuffer.buffer s.live
  live_lt : ∀ b ∈ s.live, b.buffer < s.nextBuffer
  gem_lt : ∀ p ∈ s.gem, p.2 < s.nextBuffer
  gem_cached : ∀ p ∈ s.gem, ∀ b ∈ s.live, b.buffer = p.2 → (s.cachedFbid b).isSome = true
  /-- an id that is cached is that of a framebuffer over the buffer the entry was made for -/
  cached : ∀ fd fbid, s.render.mFbidMap.lookup fd = some fbid →
    ∃ buffer, s.madeFor.lookup fd = some buffer ∧
      (0 < fbid → s.framebuffers.lookup fbid = some buffer)

theorem start_sound : Sound start where
  distinct := distinct_nil
  live_lt := by simp [start]
  gem_lt := by simp [start]
  gem_cached := by simp [start]
  cached := by
    intro fd fbid h
    cases h

theorem mem_of_lookup {α β : Type} [BEq α] [LawfulBEq α] {l : List (α × β)} {a : α} {b : β}
    (h : l.lookup a = some b) : (a, b) ∈ l := by
  obtain ⟨l₁, l₂, rfl, -⟩ := List.lookup_eq_some_iff.mp h
  simp

theorem find_mem {s : Screen} {handle : BufferHandle} {b : LiveBuffer}
    (h : s.find handle = some b) : b ∈ s.live :=
  List.mem_of_find?_eq_some h

/-- The object behind the GEM handle passed, after an import. -/
theorem imported_lookup {s : Screen} {b : LiveBuffer} {replies : FbReplies}
    (h : replies.primeFDToHandle.isSome = true) :
    (s.imported b replies).lookup replies.gemHandle = some b.buffer := by
  obtain ⟨g, hg⟩ := Option.isSome_iff_exists.mp h
  unfold imported FbReplies.gemHandle
  rw [hg]
  show List.lookup g ((g, b.buffer) :: s.gem) = some b.buffer
  exact List.lookup_cons_self

theorem created_of_lookup {s : Screen} {b : LiveBuffer} {replies : FbReplies} {fb : FbId}
    {buffer : Nat} (hfb : addFramebuffer b.attributes replies = some fb)
    (hgem : (s.imported b replies).lookup replies.gemHandle = some buffer) :
    s.created b replies = [((fb.id : Int), buffer)] := by
  unfold created
  rw [hfb, hgem]

theorem created_of_none {s : Screen} {b : LiveBuffer} {replies : FbReplies}
    (hfb : addFramebuffer b.attributes replies = none) : s.created b replies = [] := by
  unfold created
  rw [hfb]

theorem mem_imported {s : Screen} {b : LiveBuffer} {replies : FbReplies} {p : UInt32 × Nat}
    (hp : p ∈ s.imported b replies) : p ∈ s.gem ∨ p.2 = b.buffer := by
  unfold imported at hp
  split at hp
  · rcases List.mem_cons.mp hp with rfl | hp
    · exact .inr rfl
    · exact .inl hp
  · exact .inl hp

/-- A framebuffer made after an import is over the buffer. -/
theorem created_lookup {s : Screen} {b : LiveBuffer} {replies : FbReplies}
    (himport : replies.primeFDToHandle.isSome = true ∨ addFramebuffer b.attributes replies = none)
    (hpos : 0 < boFbId (addFramebuffer b.attributes replies)) :
    (s.created b replies ++ s.framebuffers).lookup
      (boFbId (addFramebuffer b.attributes replies)) = some b.buffer := by
  cases hfb : addFramebuffer b.attributes replies with
  | none =>
    rw [hfb] at hpos
    exact absurd hpos (by decide)
  | some fb =>
    have himport : replies.primeFDToHandle.isSome = true := by
      rcases himport with himport | hfail
      · exact himport
      · rw [hfb] at hfail
        cases hfail
    rw [created_of_lookup hfb (imported_lookup himport)]
    exact List.lookup_cons_self

/-- A framebuffer that is there stays what it is, since a new one has a new id. -/
theorem lookup_created {s : Screen} {b : LiveBuffer} {replies : FbReplies} {fbid : Int}
    {buffer : Nat} (hpossible : s.Possible b replies)
    (hover : s.framebuffers.lookup fbid = some buffer) :
    (s.created b replies ++ s.framebuffers).lookup fbid = some buffer := by
  cases hfb : addFramebuffer b.attributes replies with
  | none =>
    rw [created_of_none hfb]
    exact hover
  | some fb =>
    obtain ⟨hnew, hsome⟩ := hpossible.2 fb hfb
    obtain ⟨object, hobject⟩ := Option.isSome_iff_exists.mp hsome
    rw [created_of_lookup hfb hobject, List.singleton_append, List.lookup_cons]
    have hfbid : fbid ≠ fb.id := by
      rintro rfl
      rw [hover] at hnew
      cases hnew
    have hfbid : (fbid == (fb.id : Int)) = false := by simpa using hfbid
    simp only [hfbid]
    exact hover

theorem getFbid_hit {s : Screen} {b : LiveBuffer} {fbid : Int} (replies : FbReplies)
    (h : s.cachedFbid b = some fbid) :
    getFbid s.render b.attributes replies = (checkFbid fbid, s.render) ∧
      s.called b replies = s := by
  have hget : getFbid s.render b.attributes replies = (checkFbid fbid, s.render) := by
    unfold getFbid
    rw [show s.render.mFbidMap.lookup b.attributes.fd = some fbid from h]
  refine ⟨hget, ?_⟩
  unfold called
  rw [h, hget]

theorem getFbid_miss {s : Screen} {b : LiveBuffer} (replies : FbReplies)
    (h : s.cachedFbid b = none) :
    getFbid s.render b.attributes replies =
        (checkFbid (boFbId (addFramebuffer b.attributes replies)),
          ⟨(b.attributes.fd, boFbId (addFramebuffer b.attributes replies)) ::
            s.render.mFbidMap⟩) := by
  unfold getFbid
  rw [show s.render.mFbidMap.lookup b.attributes.fd = none from h]

theorem called_miss {s : Screen} {b : LiveBuffer} (replies : FbReplies)
    (h : s.cachedFbid b = none) :
    s.called b replies =
      { s with
        render := ⟨(b.attributes.fd, boFbId (addFramebuffer b.attributes replies)) ::
          s.render.mFbidMap⟩
        gem := s.imported b replies
        framebuffers := s.created b replies ++ s.framebuffers
        madeFor := (b.attributes.fd, b.buffer) :: s.madeFor } := by
  unfold called
  rw [h, getFbid_miss replies h]

namespace Sound

variable {s : Screen}

theorem alloc (h : Sound s) (handle : BufferHandle) (attributes : GrallocAttributes) :
    Sound { s with
      live := ⟨handle, s.nextBuffer, attributes⟩ :: s.live
      nextBuffer := s.nextBuffer + 1 } where
  distinct := by
    refine (distinct_cons _ _).mpr ⟨fun b hb he => ?_, h.distinct⟩
    have hlt := h.live_lt b hb
    have he : b.buffer = s.nextBuffer := he
    omega
  live_lt := by
    intro b hb
    show b.buffer < s.nextBuffer + 1
    rcases List.mem_cons.mp hb with rfl | hb
    · exact Nat.lt_succ_self _
    · have hlt := h.live_lt b hb
      omega
  gem_lt := by
    intro p hp
    have hlt := h.gem_lt p hp
    show p.2 < s.nextBuffer + 1
    omega
  gem_cached := by
    intro p hp b hb he
    rcases List.mem_cons.mp hb with rfl | hb
    · -- the new buffer has no GEM handle yet
      have hlt := h.gem_lt p hp
      have he : s.nextBuffer = p.2 := he
      omega
    · exact h.gem_cached p hp b hb he
  cached := h.cached

theorem free (h : Sound s) (handle : BufferHandle) :
    Sound { s with live := s.live.filter fun b => b.handle ≠ handle } where
  distinct := h.distinct.sublist List.filter_sublist
  live_lt := fun b hb => h.live_lt b (List.mem_of_mem_filter hb)
  gem_lt := h.gem_lt
  gem_cached := fun p hp b hb he => h.gem_cached p hp b (List.mem_of_mem_filter hb) he
  cached := h.cached

/-- A miss that fits adds an entry made for the buffer, with a framebuffer over it. -/
theorem miss (h : Sound s) {b : LiveBuffer} (hb : b ∈ s.live) {replies : FbReplies}
    (hpossible : s.Possible b replies) (hnone : s.cachedFbid b = none)
    (hfits : s.Fits b replies) : Sound (s.called b replies) := by
  rw [called_miss replies hnone]
  refine ⟨h.distinct, h.live_lt, fun p hp => ?_, fun p hp b' hb' he => ?_, fun fd fbid hfd => ?_⟩
  · rcases mem_imported hp with hp | hp
    · exact h.gem_lt p hp
    · rw [hp]
      exact h.live_lt b hb
  · show (List.lookup b'.attributes.fd ((b.attributes.fd, _) :: s.render.mFbidMap)).isSome = true
    rw [List.lookup_cons]
    by_cases hfd : b'.attributes.fd = b.attributes.fd
    · simp [hfd]
    · have hcached : (s.cachedFbid b').isSome = true := by
        rcases mem_imported hp with hp | hp
        · exact h.gem_cached p hp b' hb' he
        · -- the same buffer has the same descriptor
          have heq : b' = b := List.inj_on_of_nodup_map h.distinct hb' hb (he.trans hp)
          rw [heq] at hfd
          exact absurd rfl hfd
      have hne : (b'.attributes.fd == b.attributes.fd) = false := by simpa using hfd
      simp only [hne]
      exact hcached
  · have hfd : List.lookup fd ((b.attributes.fd, boFbId (addFramebuffer b.attributes replies)) ::
        s.render.mFbidMap) = some fbid := hfd
    show ∃ buffer, List.lookup fd ((b.attributes.fd, b.buffer) :: s.madeFor) = some buffer ∧
      (0 < fbid → List.lookup fbid (s.created b replies ++ s.framebuffers) = some buffer)
    rw [List.lookup_cons] at hfd ⊢
    by_cases heq : fd = b.attributes.fd
    · simp only [heq, beq_self_eq_true, Option.some.injEq] at hfd ⊢
      refine ⟨b.buffer, rfl, fun hpos => ?_⟩
      rw [← hfd] at hpos ⊢
      exact created_lookup (hfits.1 hnone) hpos
    · have hne : (fd == b.attributes.fd) = false := by simpa using heq
      simp only [hne] at hfd ⊢
      obtain ⟨buffer, hmade, hover⟩ := h.cached fd fbid hfd
      exact ⟨buffer, hmade, fun hpos => lookup_created hpossible (hover hpos)⟩

theorem step {s' : Screen} {a : ScreenAction} (h : Sound s) (hfits : s.FitsCache a)
    (hstep : s.step a = some s') : Sound s' := by
  cases a with
  | alloc handle attributes =>
    obtain ⟨-, rfl⟩ := Option.ite_some_none_eq_some.mp hstep
    exact h.alloc handle attributes
  | free handle =>
    cases hstep
    exact h.free handle
  | getFbid handle replies =>
    simp only [Screen.step] at hstep
    split at hstep
    · cases hstep
    · next b hfind =>
      obtain ⟨hpossible, rfl⟩ := Option.ite_some_none_eq_some.mp hstep
      cases hcached : s.cachedFbid b with
      | some fbid =>
        rw [(getFbid_hit replies hcached).2]
        exact h
      | none => exact h.miss (find_mem hfind) hpossible hcached (hfits b hfind)

/-! ## Coherent calls -/

theorem hit_coherent_iff (h : Sound s) {b : LiveBuffer} {fbid : Int} (replies : FbReplies)
    (hcached : s.cachedFbid b = some fbid) : Coherent s b replies ↔ s.Fits b replies := by
  obtain ⟨hget, hcalled⟩ := getFbid_hit replies hcached
  obtain ⟨buffer, hmade, hover⟩ := h.cached _ fbid hcached
  have hfits : s.Fits b replies ↔
      (0 < fbid → s.madeFor.lookup b.attributes.fd = some b.buffer) ∧
        (¬ 0 < fbid → addFramebuffer b.attributes replies = none) := by
    unfold Fits
    rw [hcached]
    simp
  rw [hfits]
  by_cases hpos : 0 < fbid
  · rw [hmade, ← hover hpos]
    constructor
    · intro hc
      have hown := hc.own
      rw [hget, hcalled, checkFbid_of_pos hpos] at hown
      exact ⟨fun _ => hown (by omega), fun hn => absurd hpos hn⟩
    · rintro ⟨hown, -⟩
      refine ⟨fun hr => ?_, fun _ => ?_⟩
      · rw [hget, checkFbid_eq_iff] at hr
        exact absurd hpos hr
      · rw [hget, hcalled, checkFbid_of_pos hpos]
        exact hown hpos
  · constructor
    · intro hc
      have hfailed := hc.failed
      rw [hget, checkFbid_of_nonpos hpos] at hfailed
      exact ⟨fun hp => absurd hp hpos, fun _ => hfailed rfl⟩
    · rintro ⟨-, hfail⟩
      refine ⟨fun _ => hfail hpos, fun hr => ?_⟩
      rw [hget, checkFbid_of_nonpos hpos] at hr
      exact absurd rfl hr

theorem miss_coherent_iff (h : Sound s) {b : LiveBuffer} (hb : b ∈ s.live) {replies : FbReplies}
    (hpossible : s.Possible b replies) (hnone : s.cachedFbid b = none) :
    Coherent s b replies ↔ s.Fits b replies := by
  have hfits : s.Fits b replies ↔
      replies.primeFDToHandle.isSome = true ∨ addFramebuffer b.attributes replies = none := by
    unfold Fits
    rw [hnone]
    simp
  rw [hfits]
  cases hfb : addFramebuffer b.attributes replies with
  | none =>
    refine iff_of_true ⟨fun _ => hfb, fun hr => ?_⟩ (.inr rfl)
    rw [getFbid_miss replies hnone, hfb] at hr
    exact absurd rfl hr
  | some fb =>
    obtain ⟨-, hsome⟩ := hpossible.2 fb hfb
    obtain ⟨object, hobject⟩ := Option.isSome_iff_exists.mp hsome
    have hpos : 0 < boFbId (some fb) := boFbId_some fb
    have hr : (getFbid s.render b.attributes replies).1 = fb.id := by
      rw [getFbid_miss replies hnone, hfb]
      exact checkFbid_of_pos hpos
    have hlookup : (s.called b replies).framebuffers.lookup (fb.id : Int) = some object := by
      rw [called_miss replies hnone]
      show List.lookup (fb.id : Int) (s.created b replies ++ s.framebuffers) = some object
      rw [created_of_lookup hfb hobject]
      exact List.lookup_cons_self
    have hcoherent : Coherent s b replies ↔ object = b.buffer := by
      constructor
      · intro hc
        have hown := hc.own
        rw [hr, hlookup, Option.some.injEq] at hown
        exact hown (by omega)
      · intro he
        refine ⟨fun hfailed => ?_, fun _ => ?_⟩
        · rw [hr] at hfailed
          omega
        · rw [hr, hlookup, he]
    rw [hcoherent]
    cases hprime : replies.primeFDToHandle with
    | some g =>
      refine iff_of_true ?_ (.inl rfl)
      rw [imported_lookup (by rw [hprime]; rfl), Option.some.injEq] at hobject
      exact hobject.symm
    | none =>
      -- the garbage in `gem_handle` stands for a buffer imported before, which is cached
      refine iff_of_false (fun he => ?_) (by simp)
      unfold imported at hobject
      rw [hprime] at hobject
      have hcached := h.gem_cached _ (mem_of_lookup hobject) b hb he.symm
      rw [hnone] at hcached
      cases hcached

end Sound

/-- **Coherence of the cache.**  In every run whose `GetFbid` calls fit the cache, a call
does what making a framebuffer would do exactly when it fits too. -/
theorem getFbid_coherent_iff (s : Screen) (h : Reach step FitsCache start s)
    (handle : BufferHandle) (b : LiveBuffer) (hfind : s.find handle = some b)
    (replies : FbReplies) (hpossible : s.Possible b replies) :
    Coherent s b replies ↔ s.FitsCache (.getFbid handle replies) := by
  have hsound : Sound s :=
    h.inv Sound start_sound fun _ _ _ hs hfits hstep => hs.step hfits hstep
  have hfits : s.FitsCache (.getFbid handle replies) ↔ s.Fits b replies := by
    show (∀ b ∈ s.find handle, s.Fits b replies) ↔ _
    rw [hfind]
    simp
  rw [hfits]
  cases hcached : s.cachedFbid b with
  | some fbid => exact hsound.hit_coherent_iff replies hcached
  | none => exact hsound.miss_coherent_iff (find_mem hfind) hpossible hcached

/-- An RGBA buffer of 64 by 64 pixels behind a descriptor. -/
def rgbaAt (fd : Int) : GrallocAttributes := ⟨fd, 64, 64, .rgba8888, 256⟩

/-- The buffer is imported under `gemHandle` and gets framebuffer `id`. -/
def fbMade (gemHandle : UInt32) (id : FbId) : FbReplies := ⟨some gemHandle, 0, fun _ => some id⟩

/-- The buffer is imported under `gemHandle`, and no framebuffer is made. -/
def fbRefused (gemHandle : UInt32) : FbReplies := ⟨some gemHandle, 0, fun _ => none⟩

def fbTen : FbId := ⟨10, by decide, by decide⟩

def fbEleven : FbId := ⟨11, by decide, by decide⟩

/-- Two buffers behind two descriptors, each asked for twice. -/
theorem getFbid_coherent_two :
    ∃ s b, run step FitsCache start
        [.alloc 1 (rgbaAt 5), .getFbid 1 (fbMade 1 fbTen), .alloc 2 (rgbaAt 6),
          .getFbid 2 (fbMade 2 fbEleven), .getFbid 1 (fbRefused 1)] = some s ∧
      s.find 2 = some b ∧ (getFbid s.render b.attributes (fbRefused 2)).1 = 11 ∧
      Coherent s b (fbRefused 2) := by
  refine ⟨_, ⟨2, 1, rgbaAt 6⟩, (Option.some_get rfl).symm, ?_, ?_, ?_⟩
  · decide
  · decide
  · exact (getFbid_coherent_iff _ (Reach.of_run_get _ rfl) 2 ⟨2, 1, rgbaAt 6⟩ (by decide)
      (fbRefused 2) (by decide)).mpr (by decide)

/-- Buffer 1 has the descriptor of buffer 0, which has been freed, and gets the framebuffer
made of it.  A framebuffer that could not be made at first is refused for good. -/
theorem getFbid_stale :
    (∃ s b, Reach step (fun _ _ => True) start s ∧ s.find 2 = some b ∧ b.buffer = 1 ∧
      (getFbid s.render b.attributes (fbMade 2 fbEleven)).1 = 10 ∧
      s.framebuffers.lookup 10 = some 0 ∧ ¬ Coherent s b (fbMade 2 fbEleven)) ∧
    ∃ s b, Reach step (fun _ _ => True) start s ∧ s.find 1 = some b ∧
      (getFbid s.render b.attributes (fbMade 1 fbTen)).1 = -1 ∧
      ¬ Coherent s b (fbMade 1 fbTen) := by
  refine ⟨⟨_, ⟨2, 1, rgbaAt 5⟩, Reach.of_run_get
      [.alloc 1 (rgbaAt 5), .getFbid 1 (fbMade 1 fbTen), .free 1, .alloc 2 (rgbaAt 5)] rfl,
      ?_, rfl, ?_, ?_, fun h => ?_⟩,
    ⟨_, ⟨1, 0, rgbaAt 5⟩, Reach.of_run_get [.alloc 1 (rgbaAt 5), .getFbid 1 (fbRefused 1)] rfl,
      ?_, ?_, fun h => ?_⟩⟩
  · decide
  · decide
  · decide
  · exact absurd (h.own (by decide)) (by decide)
  · decide
  · decide
  · exact absurd (h.failed (by decide)) (by decide)

end Screen

end RockchipHal.Sideband
