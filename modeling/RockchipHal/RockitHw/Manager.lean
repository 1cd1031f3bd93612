import RockchipHal.RockitHw.MpiRuns

/-!
# `RockitHwManager`

The object a client of the service talks to.  It has no implementation until an
`init` with type `HW_DECODER_MPI` makes one, and hands every later call on to it.
Six of the eight calls that need the implementation ask for it first; `enqueue`
and `dequeue` dereference `mImpl` without asking.

    Answered (no implementation) calls ↔ InitialisedFirst calls     (answered_iff)

A call that dereferences `NULL` has no reply (`none`).
-/

namespace RockchipHal.RockitHw

/-! ## types.hal -/

inductive Status
  | ok | badValue | badIndex | cannotDo | duplicate | notFound | badState | blocking | noMemory
  | refused | timedOut | omitted | corrupted | noInit
deriving DecidableEq, Repr

/-- A client can send a code no member has: `other`. -/
inductive RockitHWType
  | decoderMpi | decoderVpuapi | encoderMpi | encoderVpuapi | iep | rga | isp
  | other (code : UInt32)
deriving DecidableEq, Repr

def int2Status (ret : Int) : Status := if ret = 0 then .ok else .badValue

/-! ## The manager -/

/-- The object `new RockitHwMpi()` makes; `drmFd` is what `drm_open` returns. -/
def RockitHwMpi.new (drmFd : Int) : RockitHwMpi := ⟨none, drmFd, 0, 0, false⟩

/-- The implementation objects on the heap: those not deleted, newest first, and the
identity of the next one. -/
structure ImplHeap where
  live : List Nat
  next : Nat
deriving DecidableEq, Repr

/-- An implementation: which object it is, and its state. -/
structure Impl where
  obj : Nat
  hal : RockitHwMpi
deriving DecidableEq, Repr

structure RockitHwManager where
  mImpl : Option Impl
  heap : ImplHeap
deriving DecidableEq, Repr

structure Reply where
  status : Status
  manager : RockitHwManager
deriving DecidableEq, Repr

namespace RockitHwManager

def new : RockitHwManager := ⟨none, ⟨[], 0⟩⟩

/-- `~RockitHwManager`, with the decoder's answers to `flush` and `reset`; what it leaves
and what it does before the `delete`. -/
def destroy (m : RockitHwManager) (flushErr resetErr : Int) : RockitHwManager × List Event :=
  match m.mImpl with
  | none => (m, [])
  | some impl =>
    let flushed := RockitHw.flush impl.hal flushErr
    let reset := RockitHw.reset flushed.hal resetErr
    (⟨none, { m.heap with live := m.heap.live.erase impl.obj }⟩, flushed.events ++ reset.events)

/-- The implementation's status is dropped, and so is the pointer to an older one. -/
def init (m : RockitHwManager) (type : RockitHWType) (param : RockitHWParamPairs) (drmFd : Int)
    (replies : InitReplies) : Reply :=
  match type with
  | .decoderMpi =>
    let obj := m.heap.next
    let impl := RockitHw.init (.new drmFd) replies param
    ⟨.ok, ⟨some ⟨obj, impl.val.hal⟩, ⟨obj :: m.heap.live, obj + 1⟩⟩⟩
  | _ => ⟨.ok, m⟩

/-- `impl` carries out the call. -/
def forward (m : RockitHwManager) (impl : Impl) (call : Call) : Reply :=
  let r := call.result impl.hal
  ⟨int2Status r.ret, { m with mImpl := some { impl with hal := r.hal } }⟩

/-- The shape of the calls that ask for the implementation. -/
def guarded (m : RockitHwManager) (call : Call) : Option Reply :=
  match m.mImpl with
  | some impl => some (m.forward impl call)
  | none => some ⟨.badValue, m⟩

/-- There is no test of `mImpl`. -/
def enqueue (m : RockitHwManager) (replies : EnqueueReplies) (buffer : RockitHWBuffer) :
    Option Reply :=
  m.mImpl.map fun impl => m.forward impl (.enqueue replies buffer)

/-- The buffer after its `memset`. -/
def zeroBuffer : RockitHWBuffer := ⟨0, 0, 0, 0, ⟨0, [], fun _ => ⟨0, 0⟩⟩⟩

/-- There is no test of `mImpl` here either.  The buffer is returned with the reply. -/
def dequeue (m : RockitHwManager) (reply : Except Int (Option MppFrame)) :
    Option (Reply × RockitHWBuffer) :=
  m.mImpl.map fun impl =>
    let r := RockitHw.dequeue impl.hal reply zeroBuffer
    (⟨if r.1.ret < 0 then .badValue else .ok,
      { m with mImpl := some { impl with hal := r.1.hal } }⟩, r.2)

def commitBuffer (m : RockitHwManager) (replies : CommitReplies) (buffer : RockitHWBuffer) :
    Option Reply :=
  m.guarded (.commitBuffer replies buffer)

def giveBackBuffer (m : RockitHwManager) (buffer : RockitHWBuffer) : Option Reply :=
  m.guarded (.giveBackBuffer buffer)

def process (m : RockitHwManager) : Option Reply := some ⟨.ok, m⟩

def reset (m : RockitHwManager) (err : Int) : Option Reply := m.guarded (.reset err)

def flush (m : RockitHwManager) (err : Int) : Option Reply := m.guarded (.flush err)

def control (m : RockitHwManager) (cmd : UInt32) (param : RockitHWParamPairs) : Option Reply :=
  m.guarded (.control cmd.toInt32.toInt param)

/-- `reply` after its `memset` is returned with the status. -/
def query (m : RockitHwManager) (cmd : UInt32) (unused : UInt32) :
    Option (Reply × RockitHWParamPairs) :=
  let reply : RockitHWParamPairs := ⟨0, [], fun _ => ⟨0, 0⟩⟩
  match m.mImpl with
  | some impl =>
    let r := RockitHw.query impl.hal cmd.toInt32.toInt unused reply
    some (⟨if r.1.ret ≠ -1 then .ok else .badValue,
      { m with mImpl := some { impl with hal := r.1.hal } }⟩, r.2)
  | none => some (⟨.badValue, m⟩, reply)

end RockitHwManager

/-! ## Sequences of calls -/

/-- A client's call, with the answers the implementation gets from outside. -/
inductive ManagerCall
  | init (type : RockitHWType) (param : RockitHWParamPairs) (drmFd : Int) (replies : InitReplies)
  | enqueue (replies : EnqueueReplies) (buffer : RockitHWBuffer)
  | dequeue (reply : Except Int (Option MppFrame))
  | commitBuffer (replies : CommitReplies) (buffer : RockitHWBuffer)
  | giveBackBuffer (buffer : RockitHWBuffer)
  | process
  | reset (err : Int)
  | flush (err : Int)
  | control (cmd : UInt32) (param : RockitHWParamPairs)
  | query (cmd : UInt32) (unused : UInt32)

namespace ManagerCall

def reply (m : RockitHwManager) : ManagerCall → Option Reply
  | init type param drmFd replies => some (m.init type param drmFd replies)
  | enqueue replies buffer => m.enqueue replies buffer
  | dequeue r => (m.dequeue r).map Prod.fst
  | commitBuffer replies buffer => m.commitBuffer replies buffer
  | giveBackBuffer buffer => m.giveBackBuffer buffer
  | process => m.process
  | reset err => m.reset err
  | flush err => m.flush err
  | control cmd param => m.control cmd param
  | query cmd unused => (m.query cmd unused).map Prod.fst

/-- The calls an implementation has to answer: all but `init`, which makes one, and
`process`, which is empty. -/
def needsImpl : ManagerCall → Bool
  | init _ _ _ _ => false
  | process => false
  | _ => true

def isEnqueueOrDequeue : ManagerCall → Bool
  | enqueue _ _ => true
  | dequeue _ => true
  | _ => false

/-- An `init` with type `HW_DECODER_MPI`. -/
def createsImpl : ManagerCall → Bool
  | init type _ _ _ => type = .decoderMpi
  | _ => false

/-- What a call does to `mImpl` and the heap: an `init` of the decoder type puts a new
object there, every other call leaves the object that is there. -/
theorem reply_impl {m : RockitHwManager} {c : ManagerCall} {r : Reply}
    (h : c.reply m = some r) :
    (c.createsImpl = true ∧ r.manager.mImpl.map Impl.obj = some m.heap.next ∧
      r.manager.heap = ⟨m.heap.next :: m.heap.live, m.heap.next + 1⟩) ∨
    (c.createsImpl = false ∧ r.manager.mImpl.map Impl.obj = m.mImpl.map Impl.obj ∧
      r.manager.heap = m.heap) := by
  have hguarded : ∀ call, m.guarded call = some r →
      r.manager.mImpl.map Impl.obj = m.mImpl.map Impl.obj ∧ r.manager.heap = m.heap := by
    intro call hr
    unfold RockitHwManager.guarded at hr
    split at hr
    · next impl himpl =>
      cases hr
      rw [himpl]
      exact ⟨rfl, rfl⟩
    · cases hr
      exact ⟨rfl, rfl⟩
  cases c with
  | init type param drmFd replies =>
    cases h
    by_cases htype : type = .decoderMpi
    · subst htype
      exact .inl ⟨rfl, rfl, rfl⟩
    · right
      have hsame : m.init type param drmFd replies = ⟨.ok, m⟩ := by
        unfold RockitHwManager.init
        split
        · exact absurd rfl htype
        · rfl
      rw [hsame]
      exact ⟨by simp [createsImpl, htype], rfl, rfl⟩
  | enqueue replies buffer =>
    obtain ⟨impl, himpl, rfl⟩ := Option.map_eq_some_iff.mp h
    rw [himpl]
    exact .inr ⟨rfl, rfl, rfl⟩
  | dequeue reply =>
    simp only [ManagerCall.reply, RockitHwManager.dequeue, Option.map_map] at h
    obtain ⟨impl, himpl, rfl⟩ := Option.map_eq_some_iff.mp h
    rw [himpl]
    exact .inr ⟨rfl, rfl, rfl⟩
  | commitBuffer replies buffer => exact .inr ⟨rfl, hguarded _ h⟩
  | giveBackBuffer buffer => exact .inr ⟨rfl, hguarded _ h⟩
  | process =>
    cases h
    exact .inr ⟨rfl, rfl, rfl⟩
  | reset err => exact .inr ⟨rfl, hguarded _ h⟩
  | flush err => exact .inr ⟨rfl, hguarded _ h⟩
  | control cmd param => exact .inr ⟨rfl, hguarded _ h⟩
  | query cmd unused =>
    simp only [ManagerCall.reply, RockitHwManager.query] at h
    split at h
    · next impl himpl =>
      cases h
      rw [himpl]
      exact .inr ⟨rfl, rfl, rfl⟩
    · cases h
      exact .inr ⟨rfl, rfl, rfl⟩

/-- Afterwards there is an implementation iff there was one or the call made it. -/
theorem reply_isSome {m : RockitHwManager} {c : ManagerCall} {r : Reply}
    (h : c.reply m = some r) :
    r.manager.mImpl.isSome = true ↔ m.mImpl.isSome = true ∨ c.createsImpl = true := by
  have hobj : ∀ o : Option Impl, o.isSome = (o.map Impl.obj).isSome := by
    intro o
    simp
  rw [hobj, hobj]
  rcases reply_impl h with ⟨hc, hnew, -⟩ | ⟨hc, hsame, -⟩
  · simp [hnew, hc]
  · simp [hsame, hc]

/-- With an implementation, every call is answered. -/
theorem reply_of_impl (m : RockitHwManager) (c : ManagerCall) (h : m.mImpl.isSome) :
    ∃ r, c.reply m = some r := by
  obtain ⟨impl, himpl⟩ := Option.isSome_iff_exists.mp h
  cases c <;>
    simp [reply, himpl, RockitHwManager.enqueue, RockitHwManager.dequeue,
      RockitHwManager.commitBuffer, RockitHwManager.giveBackBuffer, RockitHwManager.process,
      RockitHwManager.reset, RockitHwManager.flush, RockitHwManager.control,
      RockitHwManager.query, RockitHwManager.guarded]

/-- Without one, `enqueue` and `dequeue` dereference `NULL`. -/
theorem reply_eq_none {m : RockitHwManager} {c : ManagerCall} (h : m.mImpl = none)
    (hc : c.isEnqueueOrDequeue = true) : c.reply m = none := by
  cases c <;>
    simp_all [isEnqueueOrDequeue, reply, RockitHwManager.enqueue, RockitHwManager.dequeue]

/-- Without one, the other calls that need it are answered `BAD_VALUE`. -/
theorem reply_badValue {m : RockitHwManager} {c : ManagerCall} (h : m.mImpl = none)
    (hc : c.isEnqueueOrDequeue = false) :
    ∃ r, c.reply m = some r ∧ (c.needsImpl = true → r.status = .badValue) := by
  cases c <;>
    simp_all [isEnqueueOrDequeue, reply, needsImpl, RockitHwManager.commitBuffer,
      RockitHwManager.giveBackBuffer, RockitHwManager.process, RockitHwManager.reset,
      RockitHwManager.flush, RockitHwManager.control, RockitHwManager.query,
      RockitHwManager.guarded]

end ManagerCall

/-- Every call of the sequence gets a reply, an error status when an implementation is
needed and there is none. -/
def Answered : RockitHwManager → List ManagerCall → Prop
  | _, [] => True
  | m, c :: calls =>
    ∃ r, c.reply m = some r ∧ (m.mImpl = none → c.needsImpl = true → r.status ≠ .ok) ∧
      Answered r.manager calls

/-- Before every `enqueue` and `dequeue` there is an `init` with type `HW_DECODER_MPI`. -/
def InitialisedFirst (calls : List ManagerCall) : Prop :=
  ∀ before c after, calls = before ++ c :: after → c.isEnqueueOrDequeue = true →
    ∃ d ∈ before, d.createsImpl = true

/-- The first call is answered unless it dereferences `NULL`. -/
theorem first_answered_iff (m : RockitHwManager) (c : ManagerCall) :
    (∃ r, c.reply m = some r ∧ (m.mImpl = none → c.needsImpl = true → r.status ≠ .ok)) ↔
      (c.isEnqueueOrDequeue = true → m.mImpl.isSome = true) := by
  cases himpl : m.mImpl with
  | some impl =>
    obtain ⟨r, hr⟩ := c.reply_of_impl m (by rw [himpl]; rfl)
    exact iff_of_true ⟨r, hr, fun h => by cases h⟩ fun _ => rfl
  | none =>
    cases hc : c.isEnqueueOrDequeue with
    | true =>
      rw [ManagerCall.reply_eq_none himpl hc]
      simp
    | false =>
      obtain ⟨r, hr, hstatus⟩ := ManagerCall.reply_badValue himpl hc
      refine iff_of_true ⟨r, hr, fun _ hneeds => ?_⟩ fun h => by cases h
      rw [hstatus hneeds]
      decide

theorem answered_from_iff (calls : List ManagerCall) :
    ∀ m, Answered m calls ↔
      ∀ before c after, calls = before ++ c :: after → c.isEnqueueOrDequeue = true →
        m.mImpl.isSome = true ∨ ∃ d ∈ before, d.createsImpl = true := by
  induction calls with
  | nil =>
    intro m
    refine iff_of_true trivial fun before c after h => ?_
    have hlen := congrArg List.length h
    simp at hlen
  | cons c calls ih =>
    intro m
    constructor
    · rintro ⟨r, hr, hstatus, hrest⟩ before d after heq hd
      have hfirst := (first_answered_iff m c).mp ⟨r, hr, hstatus⟩
      cases before with
      | nil =>
        cases heq
        exact .inl (hfirst hd)
      | cons b before =>
        cases heq
        rcases (ih r.manager).mp hrest before d after rfl hd with himpl | ⟨e, he, hcreates⟩
        · rcases (ManagerCall.reply_isSome hr).mp himpl with himpl | hcreates
          · exact .inl himpl
          · exact .inr ⟨c, List.mem_cons_self, hcreates⟩
        · exact .inr ⟨e, List.mem_cons_of_mem _ he, hcreates⟩
    · intro h
      have hfirst : c.isEnqueueOrDequeue = true → m.mImpl.isSome = true := by
        intro hc
        rcases h [] c calls rfl hc with himpl | ⟨e, he, -⟩
        · exact himpl
        · cases he
      obtain ⟨r, hr, hstatus⟩ := (first_answered_iff m c).mpr hfirst
      refine ⟨r, hr, hstatus, (ih r.manager).mpr fun before d after heq hd => ?_⟩
      rw [ManagerCall.reply_isSome hr]
      rcases h (c :: before) d after (by rw [heq]; rfl) hd with himpl | ⟨e, he, hcreates⟩
      · exact .inl (.inl himpl)
      · rcases List.mem_cons.mp he with rfl | he
        · exact .inl (.inr hcreates)
        · exact .inr ⟨e, he, hcreates⟩

/-- **No call is lost on `NULL`** in exactly the sequences that make an implementation
before their first `enqueue` or `dequeue`; the destructor finds no `NULL` either. -/
theorem answered_iff (calls : List ManagerCall) :
    Answered .new calls ↔ InitialisedFirst calls := by
  rw [answered_from_iff]
  unfold InitialisedFirst
  simp [RockitHwManager.new]

/-- `init` with an unsupported type succeeds, and the next `enqueue` dereferences `NULL`;
so does a `dequeue` that comes first. -/
theorem unsupported_not_answered :
    ¬ Answered .new
        [.init .iep ⟨0, [], fun _ => ⟨0, 0⟩⟩ 3 ⟨true, .ok 1, 0, .ok 1, id⟩,
          .enqueue ⟨⟨.ok (1, 4096), .ok 4, .ok 0, .ok 0x10000, 4096⟩, 0⟩
            RockitHwManager.zeroBuffer] ∧
      ¬ Answered .new [.dequeue (.ok none)] := by
  constructor
  · rintro ⟨r, hr, -, r', hr', -⟩
    cases hr
    cases hr'
  · rintro ⟨r, hr, -⟩
    cases hr

end RockchipHal.RockitHw
