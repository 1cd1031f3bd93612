import RockchipHal.Lib.Reach
import RockchipHal.NeuralNetworks.Server

/-!
# Contexts of concurrent `rknnInit` requests

`rknnInit` has the runtime store the new context in `ctx`, a member of the one server
object, and then replies with what `ctx` holds.  Up to eight requests are served at
a time, so other requests' stores can come between a request's store and its reply;
and a failed request, which stores nothing, replies with whatever is there.

    the reply of a request is isolated ↔
      it stored and nothing was stored since, or it failed and nothing was ever stored
                                                              (reply_isolated_iff)

The two steps of one request in a row are the sequential `rknnInit` of the server
(`rknnInit_two_steps`).
-/

namespace RockchipHal.NeuralNetworks

/-- A request, by its number. -/
abbrev InitRequest := Nat

/-- `configureRpcThreadpool(8, true)`. -/
def poolThreads : Nat := 8

/-- What `rknn_init` answers: it stores a context iff it succeeds. -/
structure InitAnswer where
  ret : Int
  context : Option UInt64
  stores_iff : context.isSome = true ↔ ret = rknnSucc

/-- A context and the request it was created for; none for what the member held at
first. -/
structure OwnedContext where
  context : UInt64
  owner : Option InitRequest
deriving DecidableEq, Repr

structure InitReply where
  request : InitRequest
  status : V1_0.ErrorStatus
  reply : OwnedContext
deriving DecidableEq, Repr

/-- A success carries the request's own context, a failure none of another request. -/
def InitReply.Isolated (r : InitReply) : Prop :=
  (r.status = rknnSucc → r.reply.owner = some r.request) ∧
    (r.status ≠ rknnSucc → ∀ other, r.reply.owner = some other → other = r.request)

/-- The server and its `rknnInit` requests.  `serving` are those whose runtime call has
returned, with its return code; `received` all so far; `stores` those that stored a
context, newest first. -/
structure InitServer where
  ctx : OwnedContext
  serving : List (InitRequest × Int)
  received : List InitRequest
  stores : List InitRequest
  replies : List InitReply
deriving DecidableEq, Repr

inductive InitAction
  /-- `ret = rknn_init(&ctx, …)` of a new request -/
  | rknnInit (request : InitRequest) (answer : InitAnswer)
  /-- `_hidl_cb(toErrorStatus(ret), ctx)` -/
  | reply (request : InitRequest) (ret : Int)

namespace InitServer

/-- `value` is what the member holds before any request. -/
def start (value : UInt64) : InitServer := ⟨⟨value, none⟩, [], [], [], []⟩

/-- The runtime's call of `request` has returned. -/
def called (s : InitServer) (request : InitRequest) (answer : InitAnswer) : InitServer :=
  match answer.context with
  | some context =>
    { s with
      ctx := ⟨context, some request⟩
      serving := (request, answer.ret) :: s.serving
      received := request :: s.received
      stores := request :: s.stores }
  | none =>
    { s with
      serving := (request, answer.ret) :: s.serving
      received := request :: s.received }

/-- The reply carries the return code of the request's own call, and the member. -/
def replied (s : InitServer) (request : InitRequest) (ret : Int) : InitServer :=
  { s with
    serving := s.serving.erase (request, ret)
    replies := ⟨request, toErrorStatus ret, s.ctx⟩ :: s.replies }

def step (s : InitServer) : InitAction → Option InitServer
  | .rknnInit request answer =>
    if s.serving.length < poolThreads ∧ request ∉ s.received then some (s.called request answer)
    else none
  | .reply request ret => if (request, ret) ∈ s.serving then some (s.replied request ret) else none

/-- A request replies before another one stores: a successful one has made the last
store, a failed one replies before there is any. -/
def RepliesInTurn (s : InitServer) : InitAction → Prop
  | .rknnInit _ _ => True
  | .reply request ret =>
    (ret = rknnSucc → s.stores.head? = some request) ∧ (ret ≠ rknnSucc → s.stores = [])

instance (s : InitServer) (a : InitAction) : Decidable (s.RepliesInTurn a) := by
  cases a <;> unfold RepliesInTurn <;> infer_instance

/-! ## The sequential call -/

/-- Call and reply in a row are the server's `rknnInit`. -/
theorem rknnInit_two_steps (s : InitServer) (request : InitRequest) (answer : InitAnswer)
    (runtime : Runtime) (model : V1_0.RKNNModel) (size flag : UInt32)
    (hret : (runtime (.rknnInit size flag model.modelData.bytes)).ret = answer.ret)
    (hcontext : (runtime (.rknnInit size flag model.modelData.bytes)).context = answer.context) :
    let served := NeuralNetworks.rknnInit runtime s.ctx.context model size flag
    let s' := (s.called request answer).replied request answer.ret
    s'.ctx.context = served.2 ∧
      ∃ r, s'.replies = r :: s.replies ∧ r.status = served.1.status ∧ r.reply.context = served.2 := by
  have hstatus : (NeuralNetworks.rknnInit runtime s.ctx.context model size flag).1.status =
      toErrorStatus answer.ret := congrArg toErrorStatus hret
  have hmember : (NeuralNetworks.rknnInit runtime s.ctx.context model size flag).2 =
      answer.context.getD s.ctx.context := by
    rw [← hcontext]
    rfl
  intro served s'
  rw [show served.1.status = _ from hstatus, show served.2 = _ from hmember]
  show (s.called request answer).ctx.context = _ ∧
    ∃ r, ⟨request, toErrorStatus answer.ret, (s.called request answer).ctx⟩ ::
      (s.called request answer).replies = r :: s.replies ∧ _
  unfold called
  cases answer.context with
  | some context => exact ⟨rfl, _, rfl, rfl, rfl⟩
  | none => exact ⟨rfl, _, rfl, rfl, rfl⟩

/-! ## Interleavings -/

/-- The member holds the last context stored, and a request being served stored one iff
its call succeeded. -/
structure Tracked (s : InitServer) : Prop where
  owner : s.ctx.owner = s.stores.head?
  stored_iff : ∀ p ∈ s.serving, p.2 = rknnSucc ↔ p.1 ∈ s.stores
  serving_received : ∀ p ∈ s.serving, p.1 ∈ s.received
  stores_received : ∀ request ∈ s.stores, request ∈ s.received

theorem start_tracked (value : UInt64) : Tracked (start value) where
  owner := rfl
  stored_iff := by
    intro p hp
    cases hp
  serving_received := by
    intro p hp
    cases hp
  stores_received := by
    intro request hr
    cases hr

namespace Tracked

variable {s : InitServer}

theorem called (h : Tracked s) {request : InitRequest} (hnew : request ∉ s.received)
    (answer : InitAnswer) : Tracked (s.called request answer) := by
  -- a request being served before is not the new one
  have hne : ∀ p ∈ s.serving, p.1 ≠ request := by
    intro p hp he
    rw [← he] at hnew
    exact hnew (h.serving_received p hp)
  have hreceived : ∀ p ∈ (request, answer.ret) :: s.serving, p.1 ∈ request :: s.received := by
    intro p hp
    rcases List.mem_cons.mp hp with rfl | hp
    · exact List.mem_cons_self
    · exact List.mem_cons_of_mem _ (h.serving_received p hp)
  have hstores := answer.stores_iff
  unfold InitServer.called
  cases hc : answer.context with
  | some context =>
    rw [hc] at hstores
    refine ⟨rfl, fun p hp => ?_, hreceived, fun r hr => ?_⟩
    · rcases List.mem_cons.mp hp with rfl | hp
      · exact iff_of_true (hstores.mp rfl) List.mem_cons_self
      · rw [List.mem_cons, or_iff_right (hne p hp)]
        exact h.stored_iff p hp
    · rcases List.mem_cons.mp hr with rfl | hr
      · exact List.mem_cons_self
      · exact List.mem_cons_of_mem _ (h.stores_received r hr)
  | none =>
    rw [hc] at hstores
    refine ⟨h.owner, fun p hp => ?_, hreceived,
      fun r hr => List.mem_cons_of_mem _ (h.stores_received r hr)⟩
    rcases List.mem_cons.mp hp with rfl | hp
    · refine iff_of_false (fun hret => ?_) fun hmem => hnew (h.stores_received request hmem)
      exact absurd (hstores.mpr hret) (by decide)
    · exact h.stored_iff p hp

theorem replied (h : Tracked s) (request : InitRequest) (ret : Int) :
    Tracked (s.replied request ret) where
  owner := h.owner
  stored_iff := fun p hp => h.stored_iff p (List.mem_of_mem_erase hp)
  serving_received := fun p hp => h.serving_received p (List.mem_of_mem_erase hp)
  stores_received := h.stores_received

theorem step {s' : InitServer} {a : InitAction} (h : Tracked s) (hstep : s.step a = some s') :
    Tracked s' := by
  cases a with
  | rknnInit request answer =>
    obtain ⟨⟨-, hnew⟩, rfl⟩ := Option.ite_some_none_eq_some.mp hstep
    exact h.called hnew answer
  | reply request ret =>
    obtain ⟨-, rfl⟩ := Option.ite_some_none_eq_some.mp hstep
    exact h.replied request ret

/-- The reply sent next is isolated exactly when it is in turn. -/
theorem isolated_iff (h : Tracked s) {request : InitRequest} {ret : Int}
    (hmem : (request, ret) ∈ s.serving) :
    InitReply.Isolated ⟨request, toErrorStatus ret, s.ctx⟩ ↔
      s.RepliesInTurn (.reply request ret) := by
  show ((ret = rknnSucc → s.ctx.owner = some request) ∧
      (ret ≠ rknnSucc → ∀ other, s.ctx.owner = some other → other = request)) ↔
    (ret = rknnSucc → s.stores.head? = some request) ∧ (ret ≠ rknnSucc → s.stores = [])
  rw [h.owner]
  refine and_congr_right fun _ => imp_congr_right fun hret => ?_
  have hnot : request ∉ s.stores := fun hr => hret ((h.stored_iff _ hmem).mpr hr)
  cases hstores : s.stores with
  | nil => simp
  | cons last older =>
    rw [hstores] at hnot
    refine iff_of_false (fun hall => ?_) (by simp)
    rw [hall last rfl] at hnot
    exact hnot List.mem_cons_self

end Tracked

/-- Every reply sent so far is isolated. -/
def AllIsolated (s : InitServer) : Prop := ∀ r ∈ s.replies, r.Isolated

theorem called_replies (s : InitServer) (request : InitRequest) (answer : InitAnswer) :
    (s.called request answer).replies = s.replies := by
  unfold called
  split <;> rfl

/-- A step keeps the replies isolated exactly when it replies in turn, or does not reply. -/
theorem reply_isolated_iff {s s' : InitServer} {a : InitAction} (h : Tracked s)
    (hstep : s.step a = some s') : s'.AllIsolated ↔ s.AllIsolated ∧ s.RepliesInTurn a := by
  cases a with
  | rknnInit request answer =>
    obtain ⟨-, rfl⟩ := Option.ite_some_none_eq_some.mp hstep
    unfold AllIsolated
    rw [called_replies]
    exact (and_iff_left trivial).symm
  | reply request ret =>
    obtain ⟨hmem, rfl⟩ := Option.ite_some_none_eq_some.mp hstep
    rw [← h.isolated_iff hmem]
    unfold AllIsolated
    show (∀ r ∈ ⟨request, toErrorStatus ret, s.ctx⟩ :: s.replies, r.Isolated) ↔ _
    rw [List.forall_mem_cons, and_comm]

theorem tracked_run {ok : InitServer → InitAction → Prop} {value : UInt64} {s : InitServer}
    (h : Reach step ok (start value) s) : Tracked s :=
  h.inv Tracked (start_tracked value) fun _ _ _ htracked _ hstep => htracked.step hstep

/-- **Isolation of contexts.**  In every run whose requests reply in turn, every success
carries the request's own context and no failure another one's.  In any other run the
first reply out of turn is not isolated. -/
theorem init_isolated (value : UInt64) :
    (∀ s, Reach step RepliesInTurn (start value) s → s.AllIsolated) ∧
      ∀ s, Reach step (fun _ _ => True) (start value) s → ∀ a s', s.step a = some s' →
        (s'.AllIsolated ↔ s.AllIsolated ∧ s.RepliesInTurn a) := by
  constructor
  · intro s h
    have hinv := h.inv (fun s => Tracked s ∧ s.AllIsolated)
      ⟨start_tracked value, fun r hr => by cases hr⟩ ?_
    · exact hinv.2
    · rintro s a s' ⟨htracked, hall⟩ hturn hstep
      exact ⟨htracked.step hstep, (reply_isolated_iff htracked hstep).mpr ⟨hall, hturn⟩⟩
  · intro s h a s' hstep
    exact reply_isolated_iff (tracked_run h) hstep

def stored (context : UInt64) : InitAnswer := ⟨0, some context, iff_of_true rfl rfl⟩

def refused : InitAnswer := ⟨-1, none, by decide⟩

/-- A request fails before any context is stored; two others succeed one after the other. -/
theorem init_isolated_three :
    ∃ s, run step RepliesInTurn (start 0)
        [.rknnInit 0 refused, .reply 0 (-1), .rknnInit 1 (stored 10), .reply 1 0,
          .rknnInit 2 (stored 11), .reply 2 0] = some s ∧
      s.replies = [⟨2, 0, 11, some 2⟩, ⟨1, 0, 10, some 1⟩, ⟨0, -1, 0, none⟩] ∧ s.AllIsolated :=
  ⟨_, (Option.some_get rfl).symm, rfl, (init_isolated 0).1 _ (Reach.of_run_get _ rfl)⟩

/-- Request 1 stores between the store and the reply of request 0, which replies with 1's
context.  A request that fails after a success replies with the earlier request's. -/
theorem init_not_isolated :
    (∃ s, Reach step (fun _ _ => True) (start 0) s ∧ s.replies = [⟨0, 0, 11, some 1⟩] ∧
      ¬ s.AllIsolated) ∧
    ∃ s, Reach step (fun _ _ => True) (start 0) s ∧
      s.replies = [⟨1, -1, 10, some 0⟩, ⟨0, 0, 10, some 0⟩] ∧ ¬ s.AllIsolated := by
  refine ⟨⟨_, Reach.of_run_get
      [.rknnInit 0 (stored 10), .rknnInit 1 (stored 11), .reply 0 0] rfl, rfl, fun h => ?_⟩,
    ⟨_, Reach.of_run_get
      [.rknnInit 0 (stored 10), .reply 0 0, .rknnInit 1 refused, .reply 1 (-1)] rfl, rfl,
      fun h => ?_⟩⟩
  · have hown := (h ⟨0, 0, 11, some 1⟩ (by decide)).1 rfl
    exact absurd hown (by decide)
  · have hother := (h ⟨1, -1, 10, some 0⟩ (by decide)).2 (by decide) 0 rfl
    exact absurd hother (by decide)

end InitServer

end RockchipHal.NeuralNetworks
