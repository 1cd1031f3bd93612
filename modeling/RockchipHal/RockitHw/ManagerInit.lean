import RockchipHal.RockitHw.Client
import RockchipHal.RockitHw.InitResources
import RockchipHal.RockitHw.Manager

/-!
# `init` through client, manager and implementation

`RockitHwMpi::init` answers 0 or -1, the manager turns what it is told into a
`Status`, and the client turns that into 0 or -1 again.  The manager's `init` is not
told: it drops the answer, and the pointer to the implementation it replaces.

* the client's 0 means the implementation's 0 iff the call did not get as far as the
  manager, or it created an implementation that did initialise (`initHonest_iff`);
* after any calls, every implementation made is the current one or deleted iff there
  was at most one (`current_iff`).
-/

namespace RockchipHal.RockitHw

/-! ## The client -/

def status2Int : Status → Int
  | .ok => 0
  | _ => -1

structure RockitHwCtx where
  mService : Option RockitHwManager

structure RockitHwClient where
  mCtx : Option RockitHwCtx

/-- `(RockitHWType)type`. -/
def RockitHWType.ofInt (type : Int32) : RockitHWType :=
  if type = 1 then .decoderMpi
  else if type = 2 then .decoderVpuapi
  else if type = 3 then .encoderMpi
  else if type = 4 then .encoderVpuapi
  else if type = 5 then .iep
  else if type = 6 then .rga
  else if type = 7 then .isp
  else .other type.toUInt32

namespace RockitHwClient

/-- `ctx->mService`, when there is a `ctx`. -/
def service (c : RockitHwClient) : Option RockitHwManager := c.mCtx.bind RockitHwCtx.mService

/-- The local `hw` before it is filled in. -/
def emptyPairs : RockitHWParamPairs := ⟨0, [], fun _ => ⟨0, 0⟩⟩

/-- The return value, and the client with its service afterwards.  `none` when `param`
cannot be read. -/
def init (c : RockitHwClient) (type : Int32) (param : Option RTHWParamPairs) (drmFd : Int)
    (replies : InitReplies) : Option (Int × RockitHwClient) :=
  match param, c.service with
  | some pairs, some service =>
    (rthwParam2RockitHWParam emptyPairs (some pairs)).map fun hw =>
      let reply := service.init (.ofInt type) hw drmFd replies
      (status2Int reply.status, ⟨some ⟨some reply.manager⟩⟩)
  | _, _ => some (status2Int .noInit, c)

/-- The parameters with which the call gets to the manager, when it does. -/
def sent (c : RockitHwClient) (param : Option RTHWParamPairs) : Option RockitHWParamPairs :=
  match param, c.service with
  | some pairs, some _ => rthwParam2RockitHWParam emptyPairs (some pairs)
  | _, _ => none

end RockitHwClient

/-! ## The client's return value -/

/-- A return value of 0 means that this call's `RockitHwMpi::init` returned 0. -/
def InitHonest (c : RockitHwClient) (type : Int32) (param : Option RTHWParamPairs) (drmFd : Int)
    (replies : InitReplies) : Prop :=
  ∀ r, c.init type param drmFd replies = some r → r.1 = 0 →
    RockitHWType.ofInt type = .decoderMpi ∧
      ∃ hw, c.sent param = some hw ∧ (RockitHw.init (.new drmFd) replies hw).val.ret = 0

/-- The manager's `init` succeeds whatever the type and the answers. -/
theorem manager_init_ok (m : RockitHwManager) (type : RockitHWType) (param : RockitHWParamPairs)
    (drmFd : Int) (replies : InitReplies) : (m.init type param drmFd replies).status = .ok := by
  unfold RockitHwManager.init
  cases type <;> rfl

/-- The client returns 0 for every call that gets to the manager, and for no other. -/
theorem client_init_iff (c : RockitHwClient) (type : Int32) (param : Option RTHWParamPairs)
    (drmFd : Int) (replies : InitReplies) :
    (∃ r, c.init type param drmFd replies = some r ∧ r.1 = 0) ↔ (c.sent param).isSome = true := by
  unfold RockitHwClient.init RockitHwClient.sent
  cases param with
  | none => simp [status2Int]
  | some pairs =>
    cases c.service with
    | none => simp [status2Int]
    | some service =>
      cases hconv : rthwParam2RockitHWParam RockitHwClient.emptyPairs (some pairs) with
      | none => simp [hconv]
      | some hw => simp [hconv, manager_init_ok, status2Int]

theorem initHonest_iff (c : RockitHwClient) (type : Int32) (param : Option RTHWParamPairs)
    (drmFd : Int) (replies : InitReplies) :
    InitHonest c type param drmFd replies ↔
      ∀ hw, c.sent param = some hw →
        RockitHWType.ofInt type = .decoderMpi ∧ InitSucceeds replies (initParams hw).val := by
  constructor
  · intro h hw hsent
    obtain ⟨r, hr, hzero⟩ :=
      (client_init_iff c type param drmFd replies).mpr (by rw [hsent]; rfl)
    obtain ⟨htype, hw', hsent', hret⟩ := h r hr hzero
    rw [hsent, Option.some.injEq] at hsent'
    subst hsent'
    exact ⟨htype, (init_ret_iff _ _ _).mp hret⟩
  · intro h r hr hzero
    have hsome := (client_init_iff c type param drmFd replies).mp ⟨r, hr, hzero⟩
    obtain ⟨hw, hsent⟩ := Option.isSome_iff_exists.mp hsome
    obtain ⟨htype, hsucceeds⟩ := h hw hsent
    exact ⟨htype, hw, hsent, (init_ret_iff _ _ _).mpr hsucceeds⟩

/-! ## The implementations made -/

/-- The manager after the calls; `none` when one dereferences `NULL`. -/
def afterCalls (m : RockitHwManager) : List ManagerCall → Option RockitHwManager
  | [] => some m
  | c :: calls => (c.reply m).bind fun r => afterCalls r.manager calls

/-- `n` implementations have been made, and the current one is the newest. -/
structure Made (n : Nat) (m : RockitHwManager) : Prop where
  length : m.heap.live.length = n
  nodup : m.heap.live.Nodup
  below : ∀ obj ∈ m.heap.live, obj < m.heap.next
  current : m.mImpl.map Impl.obj = m.heap.live.head?

theorem made_new : Made 0 .new where
  length := rfl
  nodup := List.nodup_nil
  below := by
    intro obj hobj
    cases hobj
  current := rfl

theorem Made.reply {n : Nat} {m : RockitHwManager} (h : Made n m) {c : ManagerCall} {r : Reply}
    (hr : c.reply m = some r) : Made (n + if c.createsImpl then 1 else 0) r.manager := by
  rcases ManagerCall.reply_impl hr with ⟨hc, himpl, hheap⟩ | ⟨hc, himpl, hheap⟩
  · rw [hc, if_pos rfl]
    refine ⟨?_, ?_, ?_, ?_⟩
    · rw [hheap, List.length_cons, h.length]
    · rw [hheap, List.nodup_cons]
      refine ⟨fun hmem => ?_, h.nodup⟩
      have hlt := h.below _ hmem
      omega
    · rw [hheap]
      intro obj hobj
      show obj < m.heap.next + 1
      rcases List.mem_cons.mp hobj with rfl | hobj
      · omega
      · have hlt := h.below obj hobj
        omega
    · rw [himpl, hheap]
      rfl
  · rw [hc, if_neg (by decide)]
    exact ⟨by rw [hheap, h.length, Nat.add_zero], by rw [hheap]; exact h.nodup,
      by rw [hheap]; exact h.below, by rw [himpl, hheap, h.current]⟩

theorem made_afterCalls (calls : List ManagerCall) :
    ∀ (n : Nat) (m m' : RockitHwManager), Made n m → afterCalls m calls = some m' →
      Made (n + calls.countP ManagerCall.createsImpl) m' := by
  induction calls with
  | nil =>
    intro n m m' h hafter
    cases hafter
    exact h
  | cons c calls ih =>
    intro n m m' h hafter
    obtain ⟨r, hr, hrest⟩ := Option.bind_eq_some_iff.mp hafter
    have hmade := ih _ r.manager m' (h.reply hr) hrest
    rw [List.countP_cons]
    rwa [Nat.add_assoc, Nat.add_comm (if c.createsImpl = true then 1 else 0)] at hmade

/-- Every implementation that is not deleted is the current one. -/
def OnlyCurrent (m : RockitHwManager) : Prop :=
  ∀ obj ∈ m.heap.live, m.mImpl.map Impl.obj = some obj

theorem Made.onlyCurrent_iff {n : Nat} {m : RockitHwManager} (h : Made n m) :
    OnlyCurrent m ↔ n ≤ 1 := by
  have hlength := h.length
  unfold OnlyCurrent
  rw [h.current]
  cases hlive : m.heap.live with
  | nil =>
    rw [hlive, List.length_nil] at hlength
    refine iff_of_true (fun obj hobj => ?_) (by omega)
    cases hobj
  | cons newest older =>
    rw [hlive, List.length_cons] at hlength
    have hnodup := h.nodup
    rw [hlive, List.nodup_cons] at hnodup
    constructor
    · intro hall
      cases older with
      | nil =>
        rw [List.length_nil] at hlength
        omega
      | cons old rest =>
        have hold := hall old (by simp)
        rw [List.head?_cons, Option.some.injEq] at hold
        rw [hold] at hnodup
        exact absurd List.mem_cons_self hnodup.1
    · intro hn obj hobj
      have hnil : older = [] := List.eq_nil_of_length_eq_zero (by omega)
      rw [hnil, List.mem_singleton] at hobj
      rw [hobj]
      rfl

theorem Made.destroy_iff {n : Nat} {m : RockitHwManager} (h : Made n m) (flushErr resetErr : Int) :
    (m.destroy flushErr resetErr).1.heap.live = [] ↔ n ≤ 1 := by
  have hlength := h.length
  have hcurrent := h.current
  unfold RockitHwManager.destroy
  cases himpl : m.mImpl with
  | none =>
    rw [himpl] at hcurrent
    have hnil : m.heap.live = [] := List.head?_eq_none_iff.mp hcurrent.symm
    rw [hnil, List.length_nil] at hlength
    exact iff_of_true hnil (by omega)
  | some impl =>
    rw [himpl] at hcurrent
    obtain ⟨older, hlive⟩ : ∃ older, m.heap.live = impl.obj :: older :=
      List.head?_eq_some_iff.mp hcurrent.symm
    rw [hlive, List.length_cons] at hlength
    show m.heap.live.erase impl.obj = [] ↔ n ≤ 1
    rw [hlive, List.erase_cons_head, ← List.length_eq_zero_iff]
    omega

/-- **`init` across the layers.**  The client's 0 is honest iff the call did not get to
the manager, or it was for a decoder and that did initialise.  Whatever the calls on a
manager, the only implementation left is the current one, and none is left after its
destruction, iff at most one was made. -/
theorem init_honest_current_iff (c : RockitHwClient) (type : Int32) (param : Option RTHWParamPairs)
    (drmFd : Int) (replies : InitReplies) (calls : List ManagerCall) (m : RockitHwManager)
    (hafter : afterCalls .new calls = some m) :
    (InitHonest c type param drmFd replies ↔
      ∀ hw, c.sent param = some hw →
        RockitHWType.ofInt type = .decoderMpi ∧ InitSucceeds replies (initParams hw).val) ∧
    (OnlyCurrent m ↔ calls.countP ManagerCall.createsImpl ≤ 1) ∧
      ∀ flushErr resetErr, (m.destroy flushErr resetErr).1.heap.live = [] ↔
        calls.countP ManagerCall.createsImpl ≤ 1 := by
  have hmade := made_afterCalls calls 0 .new m made_new hafter
  rw [Nat.zero_add] at hmade
  exact ⟨initHonest_iff c type param drmFd replies, hmade.onlyCurrent_iff, hmade.destroy_iff⟩

/-- An `init` of a decoder. -/
def initDecoder (replies : InitReplies) : ManagerCall :=
  .init .decoderMpi ⟨3, [⟨1, 1⟩, ⟨2, 16⟩, ⟨4, 16⟩], fun _ => ⟨0, 0⟩⟩ 3 replies

def goodReplies : InitReplies := ⟨true, .ok 1, 0, .ok 1, fun _ => (16, 16)⟩

/-- Codec, width and height, as the client has them. -/
def decoderParam : RTHWParamPairs := ⟨3, some ⟨[⟨1, 1⟩, ⟨2, 16⟩, ⟨4, 16⟩], fun _ => ⟨0, 0⟩⟩⟩

/-- The client's 0 is honest, and after one `init` the destruction leaves nothing. -/
theorem init_current_once :
    InitHonest ⟨some ⟨some .new⟩⟩ 1 (some decoderParam) 3 goodReplies ∧
      ∃ m, afterCalls .new [initDecoder goodReplies] = some m ∧ OnlyCurrent m ∧
        (m.destroy 0 0).1.heap.live = [] := by
  obtain ⟨hhonest, hcurrent, hdestroy⟩ := init_honest_current_iff ⟨some ⟨some .new⟩⟩ 1
    (some decoderParam) 3 goodReplies [initDecoder goodReplies] _ rfl
  refine ⟨hhonest.mpr fun hw hsent => ?_, _, rfl, hcurrent.mpr (by decide),
    (hdestroy 0 0).mpr (by decide)⟩
  cases hsent
  exact ⟨rfl, ⟨rfl, rfl, by decide, by decide, by decide, rfl, rfl⟩⟩

/-- The decoder cannot be created, and `init` of the client returns 0; the second of two
`init` calls leaves the first implementation behind, also after the destruction. -/
theorem init_dishonest :
    (∃ c', RockitHwClient.init ⟨some ⟨some .new⟩⟩ 1 (some ⟨0, none⟩) 3
        { goodReplies with mppCreate := .error (-1) } = some (0, c')) ∧
      ¬ InitHonest ⟨some ⟨some .new⟩⟩ 1 (some ⟨0, none⟩) 3
        { goodReplies with mppCreate := .error (-1) } ∧
      ∃ m, afterCalls .new [initDecoder goodReplies, initDecoder goodReplies] = some m ∧
        ¬ OnlyCurrent m ∧ (m.destroy 0 0).1.heap.live = [0] := by
  refine ⟨⟨_, rfl⟩, fun h => ?_, ⟨_, rfl, fun h => ?_, by decide⟩⟩
  · obtain ⟨-, hw, hsent, hret⟩ := h _ rfl rfl
    cases hsent
    exact absurd hret (by decide)
  · exact absurd (h 0 (by decide)) (by decide)

end RockchipHal.RockitHw
