import RockchipHal.Lib.KeyedList
import RockchipHal.Lib.Reach
import RockchipHal.NeuralNetworks.Status

/-!
# The client library `rknn_api`

A handle of the application is a block of the library, with the client object and the bridge's
`_RKNNContext`, and that holds the server's context.  `rknn_init` makes all of them and
`rknn_destroy` gives them back, the client object aside; the other calls follow the handle.
`rknn_destroy` does not look at the server's answer: the server may not have got the call, or have
refused it, and keep its context.

When the bridge says 0 without having stored a context, `rknn_init` puts its own local, which
nothing has set, into the handle.  So, for an application that uses the handles it holds only,

* each handle leads to the context the server answered its own `rknn_init` with, there is no
  object or block of no handle, as long as no memory and no model is refused;
* the first `rknn_init` that is refused gives out a handle without a context       (api_owned).
-/

namespace RockchipHal.NeuralNetworks

open Builder

def rknnErrDeviceUnavailable : Int := -3

def rknnErrCtxInvalid : Int := -7

/-! ## The library -/

/-- `_rknn_context`, with the addresses of what it points to. -/
structure ApiContext where
  hal : Nat
  rknnCtx : Nat

/-- The heap of a client process, by address, and what the server has for it. -/
structure ApiProcess where
  builders : List Nat
  blocks : List (Nat × ApiContext)
  objects : List (Nat × RknnContext)
  contexts : List UInt64

/-- A call of `rknn_init`: its arguments, the addresses `new` and `malloc` return in it, what the
local `_rknn_ctx` holds at first, and the context the server makes if its answer is lost. -/
structure InitCall where
  hal : Hal
  pData : List UInt8
  size : UInt32
  flag : UInt32
  builder : Nat
  object : Nat
  block : Nat
  uninitialised : Nat
  unanswered : Option UInt64

/-- The bridge's part of the call. -/
def InitCall.result (c : InitCall) : Option InitResult :=
  Builder.rknnInit c.hal c.pData c.size c.flag

/-- The context the server has made when the model was sent and no answer came. -/
def InitCall.orphan (c : InitCall) : Option UInt64 :=
  if c.size ≠ 0 ∧ (c.hal.allocate 0 c.size.toNat).isGranted = true ∧
      initReply c.hal c.pData c.size c.flag = none then c.unanswered
  else none

/-- What the call adds at first: the client, and the bridge's object with the server's context. -/
def InitCall.created (c : InitCall) (r : InitResult) (s : ApiProcess) : ApiProcess :=
  match r.stored with
  | none =>
    { s with
      builders := c.builder :: s.builders
      contexts := c.orphan.toList ++ s.contexts }
  | some ctx =>
    { s with
      builders := c.builder :: s.builders
      objects := (c.object, ctx) :: s.objects
      contexts := ctx.context :: s.contexts }

/-- What `_rknn_ctx` holds behind `ARKNN_init`. -/
def InitCall.rknnCtx (c : InitCall) (r : InitResult) : Nat :=
  match r.stored with
  | none => c.uninitialised
  | some _ => c.object

namespace ApiProcess

/-- The return code, `*context` if it is set, and the process; `none` when the call does not
return. -/
def rknnInit (s : ApiProcess) (c : InitCall) : Option (Int × Option Nat × ApiProcess) :=
  if c.builder = 0 then some (rknnErrDeviceUnavailable, none, s)
  else
    c.result.bind fun r =>
      if r.ret = rknnSucc then
        if c.block = 0 then none
        else
          let s := c.created r s
          some (r.ret, some c.block,
            { s with blocks := (c.block, ⟨c.builder, c.rknnCtx r⟩) :: s.blocks })
      else some (r.ret, none, c.created r s)

def block (s : ApiProcess) (context : Nat) : Option ApiContext :=
  (s.blocks.find? fun p => p.1 = context).map Prod.snd

def object (s : ApiProcess) (rknnCtx : Nat) : Option RknnContext :=
  (s.objects.find? fun p => p.1 = rknnCtx).map Prod.snd

/-- The block behind a handle, or the error; `none` for an address that is not there. -/
def checked (s : ApiProcess) (context : Nat) : Option (Except Int ApiContext) :=
  if context = 0 then some (.error rknnErrCtxInvalid)
  else (s.block context).map fun b =>
    if b.hal = 0 ∨ b.rknnCtx = 0 then .error rknnErrCtxInvalid else .ok b

/-- The bridge's context behind a handle. -/
def follow (s : ApiProcess) (context : Nat) : Option (Except Int RknnContext) :=
  (s.checked context).bind fun
    | .error e => some (.error e)
    | .ok b => (s.object b.rknnCtx).map .ok

/-- The shape of the calls on a handle. -/
def onContext {α : Type} (s : ApiProcess) (context : Nat) (call : RknnContext → α) :
    Option (Except Int α) :=
  (s.follow context).map fun
    | .error e => .error e
    | .ok ctx => .ok (call ctx)

def rknnQuery (s : ApiProcess) (context : Nat) (hal : Hal) (cmd : RknnQueryCmd)
    (info : List UInt8) (size : UInt32) : Option (Except Int (Int × List UInt8)) :=
  s.onContext context fun ctx => Builder.rknnQuery hal 0 ctx.context cmd info size

def rknnInputsSet (s : ApiProcess) (context : Nat) (hal : Hal) (inputs : List ClientInput) :
    Option (Except Int Int) :=
  s.onContext context fun ctx => Builder.rknnInputsSet hal ctx inputs

def rknnRun (s : ApiProcess) (context : Nat) (hal : Hal) (extend : Option UInt64) :
    Option (Except Int Int) :=
  s.onContext context fun ctx => Builder.rknnRun hal ctx extend

def rknnOutputsGet (s : ApiProcess) (context : Nat) (hal : Hal) (outputs : List (RknnOutput Nat))
    (extend : Option UInt64) : Option (Except Int OutputsResult) :=
  s.onContext context fun ctx => Builder.rknnOutputsGet hal ctx outputs extend

/-- The buffers freed. -/
def rknnOutputsRelease (s : ApiProcess) (context : Nat) (outputs : List (RknnOutput Nat)) :
    Option (Except Int (List Nat)) :=
  s.onContext context fun _ => Builder.rknnOutputsRelease outputs

/-- The process without the block and the bridge's object, and without the server's context if
that is `gone`. -/
def dropped (s : ApiProcess) (context rknnCtx : Nat) (ctx : RknnContext) (gone : Bool) :
    ApiProcess :=
  { s with
    blocks := s.blocks.filter fun p => p.1 ≠ context
    objects := s.objects.filter fun p => p.1 ≠ rknnCtx
    contexts := if gone then s.contexts.filter fun c => c ≠ ctx.context else s.contexts }

/-- `gone` says whether the server carries out `rknnDestory`; the answer to it is ignored. -/
def rknnDestroy (s : ApiProcess) (context : Nat) (gone : Bool) : Option (Int × ApiProcess) :=
  (s.checked context).bind fun
    | .error e => some (e, s)
    | .ok b => (s.object b.rknnCtx).map fun ctx => (0, s.dropped context b.rknnCtx ctx gone)

end ApiProcess

/-! ## The ways `rknn_init` ends in the bridge -/

/-- Memory for the model is granted, and the server does not refuse the model; or there is
none. -/
def InitCall.Accepted (c : InitCall) : Prop :=
  c.size = 0 ∨ ((c.hal.allocate 0 c.size.toNat).isGranted = true ∧
    ∀ status context, initReply c.hal c.pData c.size c.flag = some (status, context) →
      status = rknnSucc)

/-- The context the server answers with. -/
def InitCall.answered (c : InitCall) : Option UInt64 :=
  if c.size = 0 then none
  else (initReply c.hal c.pData c.size c.flag).bind fun reply =>
    if reply.1 = rknnSucc then some reply.2 else none

/-- What the bridge makes of a call. -/
inductive InitCall.Ends (c : InitCall) : InitResult → Prop
  | failed (accepted : c.Accepted) : Ends c ⟨-1, none⟩
  | refused (refused : ¬ c.Accepted) : Ends c ⟨0, none⟩
  | stored {ctx : RknnContext} (accepted : c.Accepted) (answer : c.answered = some ctx.context) :
      Ends c ⟨0, some ctx⟩

/-- A call that is answered leaves no context that nobody knows of. -/
theorem InitCall.orphan_of_answered {c : InitCall} {context : UInt64}
    (h : c.answered = some context) : c.orphan = none := by
  unfold InitCall.answered at h
  unfold InitCall.orphan
  split at h
  · cases h
  · obtain ⟨reply, hreply, -⟩ := Option.bind_eq_some_iff.mp h
    rw [hreply]
    exact if_neg fun hlost => Option.some_ne_none reply hlost.2.2

theorem InitCall.ends {c : InitCall} {r : InitResult} (h : c.result = some r) : c.Ends r := by
  unfold InitCall.result Builder.rknnInit at h
  by_cases hsize : c.size = 0
  · rw [if_pos hsize] at h
    cases h
    exact .failed (.inl hsize)
  · rw [if_neg hsize] at h
    cases halloc : c.hal.allocate 0 c.size.toNat with
    | transportError =>
      rw [halloc] at h
      cases h
      refine .refused ?_
      rintro (hzero | ⟨hgranted, -⟩)
      · exact hsize hzero
      · rw [halloc] at hgranted
        cases hgranted
    | refused =>
      rw [halloc] at h
      cases h
      refine .refused ?_
      rintro (hzero | ⟨hgranted, -⟩)
      · exact hsize hzero
      · rw [halloc] at hgranted
        cases hgranted
    | granted mem =>
      have hreply : initReply c.hal c.pData c.size c.flag =
          c.hal.rknnInit (initModel c.pData c.size mem) c.size c.flag := by
        unfold initReply
        rw [halloc]
      have hgranted : (c.hal.allocate 0 c.size.toNat).isGranted = true := by
        rw [halloc]
        rfl
      rw [halloc] at h
      dsimp only at h
      rw [← hreply] at h
      cases hcall : initReply c.hal c.pData c.size c.flag with
      | none =>
        rw [hcall] at h
        cases h
        refine .failed (.inr ⟨hgranted, fun status context hsome => ?_⟩)
        rw [hcall] at hsome
        cases hsome
      | some reply =>
        obtain ⟨status, rContext⟩ := reply
        rw [hcall] at h
        dsimp only at h
        by_cases hstatus : status = rknnSucc
        · rw [if_pos hstatus] at h
          obtain ⟨⟨ret, ctx⟩, hinfo, rfl⟩ := Option.map_eq_some_iff.mp h
          have hret : ret = rknnSucc := getModelInfo_ret c.hal rContext _ hinfo
          have hctx : ctx.context = rContext := getModelInfo_context c.hal rContext _ hinfo
          rw [hret]
          refine .stored (.inr ⟨hgranted, fun status' context hsome => ?_⟩) ?_
          · rw [hcall] at hsome
            cases hsome
            exact hstatus
          · unfold InitCall.answered
            rw [if_neg hsize, hcall, Option.bind_some, if_pos hstatus, hctx]
        · rw [if_neg hstatus] at h
          cases h
          refine .refused ?_
          rintro (hzero | ⟨-, hall⟩)
          · exact hsize hzero
          · exact hstatus (hall status rContext hcall)

end RockchipHal.NeuralNetworks
