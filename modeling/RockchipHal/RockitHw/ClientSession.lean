import RockchipHal.RockitHw.ParamLookup

/-!
# The calls of an application

`RockitHwClientInterface` asks whether there is a client, `RockitHwClient` whether there is a
service; the client converts what it is given, the manager calls the implementation, and what
comes back is converted again.  A call that does not return is `none`: pairs counted behind a
`NULL`, a counter that an `int` does not reach, `NULL` for the place of an answer, and
`enqueue` and `dequeue` without an implementation.

The implementation's effects are part of an answer, so that a session can be compared with the
decoder itself.
-/

namespace RockchipHal.RockitHw

/-! ## What the implementation does in a call of the manager -/

def ManagerCall.implCall : ManagerCall → Option Call
  | init _ _ _ _ => none
  | enqueue replies buffer => some (.enqueue replies buffer)
  | dequeue reply => some (.dequeue reply RockitHwManager.zeroBuffer)
  | commitBuffer replies buffer => some (.commitBuffer replies buffer)
  | giveBackBuffer buffer => some (.giveBackBuffer buffer)
  | process => none
  | reset err => some (.reset err)
  | flush err => some (.flush err)
  | control cmd param => some (.control cmd.toInt32.toInt param)
  | query cmd unused => some (.query cmd.toInt32.toInt unused RockitHwClient.emptyPairs)

def RockitHwManager.effects (m : RockitHwManager) : ManagerCall → List Event
  | .init .decoderMpi param drmFd replies => (RockitHw.init (.new drmFd) replies param).val.events
  | c => m.mImpl.elim [] fun impl => c.implCall.elim [] fun call => (call.result impl.hal).events

/-! ## RockitHwClient -/

/-- What is left in the place given for an answer. -/
inductive Out
  | nothing
  | buffer (rt : Option RTHWBuffer)
  | param (rt : Option RTHWParamPairs)

structure Answer where
  ret : Int
  out : Out
  events : List Event

namespace RockitHwClient

/-- What the constructor leaves; `found` when the service is there and answers. -/
def new (found : Bool) : RockitHwClient := ⟨some ⟨if found then some .new else none⟩⟩

/-- The client after the manager's reply. -/
def served (r : Reply) : RockitHwClient := ⟨some ⟨some r.manager⟩⟩

/-- The shape of the calls that send `call` and get a status back. -/
def ask (c : RockitHwClient) (call : Option ManagerCall) : Option (Answer × RockitHwClient) :=
  match c.service with
  | none => some (⟨status2Int .noInit, .nothing, []⟩, c)
  | some service =>
    call.bind fun call => (call.reply service).map fun r =>
      (⟨status2Int r.status, .nothing, service.effects call⟩, served r)

/-- `init` with its effects. -/
def initAnswer (c : RockitHwClient) (type : Int32) (param : Option RTHWParamPairs) (drmFd : Int)
    (replies : InitReplies) : Option (Answer × RockitHwClient) :=
  (c.init type param drmFd replies).map fun r =>
    (⟨r.1, .nothing, c.service.elim [] fun service => (c.sent param).elim [] fun hw =>
      service.effects (.init (.ofInt type) hw drmFd replies)⟩, r.2)

def enqueue (c : RockitHwClient) (replies : EnqueueReplies) (buffer : RTHWBuffer) :
    Option (Answer × RockitHwClient) :=
  c.ask ((rtBuffer2HwBuffer buffer emptyBuffer).map (.enqueue replies))

def initRTHWBuffer (rt : RTHWBuffer) : RTHWBuffer :=
  { rt with bufferId := 0, length := 0, size := 0, pair := { rt.pair with counter := 0 } }

/-- `grant` is what `malloc` grants the conversion of the reply. -/
def dequeue (c : RockitHwClient) (grant : Option (Nat → RTHWParamPair))
    (reply : Except Int (Option MppFrame)) (buffer : Option RTHWBuffer) :
    Option (Answer × RockitHwClient) :=
  match buffer with
  | none => some (⟨status2Int .noInit, .buffer none, []⟩, c)
  | some rt =>
    let rt := initRTHWBuffer rt
    match c.service with
    | none => some (⟨status2Int .noInit, .buffer (some rt), []⟩, c)
    | some service =>
      (service.dequeue reply).bind fun r =>
        let answer (rt : RTHWBuffer) : Answer × RockitHwClient :=
          (⟨status2Int r.1.status, .buffer (some rt), service.effects (.dequeue reply)⟩,
            served r.1)
        if r.1.status = .ok then
          (hwBuffer2RTBuffer grant r.2 rt).map fun b => answer b.1
        else some (answer rt)

def commitBuffer (c : RockitHwClient) (replies : CommitReplies) (buffer : RTHWBuffer) :
    Option (Answer × RockitHwClient) :=
  c.ask ((rtBuffer2HwBuffer buffer emptyBuffer).map (.commitBuffer replies))

def giveBackBuffer (c : RockitHwClient) (buffer : RTHWBuffer) : Option (Answer × RockitHwClient) :=
  c.ask ((rtBuffer2HwBuffer buffer emptyBuffer).map .giveBackBuffer)

/-- The service's `process` is not called. -/
def process (c : RockitHwClient) : Option (Answer × RockitHwClient) :=
  some (⟨0, .nothing, []⟩, c)

def control (c : RockitHwClient) (cmd : UInt32) (param : Option RTHWParamPairs) :
    Option (Answer × RockitHwClient) :=
  c.ask ((rthwParam2RockitHWParam emptyPairs param).map (.control cmd))

/-- The parameters are converted and not sent. -/
def query (c : RockitHwClient) (grant : Option (Nat → RTHWParamPair)) (cmd unused : UInt32)
    (param : Option RTHWParamPairs) : Option (Answer × RockitHwClient) :=
  match c.service with
  | none => some (⟨status2Int .noInit, .param param, []⟩, c)
  | some service =>
    (rthwParam2RockitHWParam emptyPairs param).bind fun _ =>
      (service.query cmd unused).bind fun r =>
        let answer (rt : Option RTHWParamPairs) : Answer × RockitHwClient :=
          (⟨status2Int r.1.status, .param rt, service.effects (.query cmd unused)⟩, served r.1)
        if r.1.status = .ok then
          param.bind fun rt =>
            (rockitHWParam2RTHWParam grant r.2 rt).map fun converted => answer (some converted.rt)
        else some (answer param)

def flush (c : RockitHwClient) (err : Int) : Option (Answer × RockitHwClient) :=
  c.ask (some (.flush err))

def reset (c : RockitHwClient) (err : Int) : Option (Answer × RockitHwClient) :=
  c.ask (some (.reset err))

end RockitHwClient

/-! ## RockitHwClientInterface -/

structure RockitHwClientInterface where
  mClient : Option RockitHwClient

namespace RockitHwClientInterface

def new (found : Bool) : RockitHwClientInterface := ⟨some (.new found)⟩

/-- The shape of every method; `out` is the place for the answer as it was. -/
def delegate (i : RockitHwClientInterface) (out : Out)
    (call : RockitHwClient → Option (Answer × RockitHwClient)) :
    Option (Answer × RockitHwClientInterface) :=
  match i.mClient with
  | none => some (⟨-1, out, []⟩, i)
  | some client => (call client).map fun r => (r.1, ⟨some r.2⟩)

def init (i : RockitHwClientInterface) (type : Int32) (param : Option RTHWParamPairs)
    (drmFd : Int) (replies : InitReplies) : Option (Answer × RockitHwClientInterface) :=
  i.delegate .nothing fun client => client.initAnswer type param drmFd replies

def enqueue (i : RockitHwClientInterface) (replies : EnqueueReplies) (buffer : RTHWBuffer) :
    Option (Answer × RockitHwClientInterface) :=
  i.delegate .nothing fun client => client.enqueue replies buffer

def dequeue (i : RockitHwClientInterface) (grant : Option (Nat → RTHWParamPair))
    (reply : Except Int (Option MppFrame)) (buffer : Option RTHWBuffer) :
    Option (Answer × RockitHwClientInterface) :=
  match buffer with
  | none => some (⟨-1, .buffer none, []⟩, i)
  | some rt => i.delegate (.buffer (some rt)) fun client => client.dequeue grant reply (some rt)

def commitBuffer (i : RockitHwClientInterface) (replies : CommitReplies) (buffer : RTHWBuffer) :
    Option (Answer × RockitHwClientInterface) :=
  i.delegate .nothing fun client => client.commitBuffer replies buffer

def giveBackBuffer (i : RockitHwClientInterface) (buffer : RTHWBuffer) :
    Option (Answer × RockitHwClientInterface) :=
  i.delegate .nothing fun client => client.giveBackBuffer buffer

def process (i : RockitHwClientInterface) : Option (Answer × RockitHwClientInterface) :=
  i.delegate .nothing RockitHwClient.process

def control (i : RockitHwClientInterface) (cmd : UInt32) (param : Option RTHWParamPairs) :
    Option (Answer × RockitHwClientInterface) :=
  i.delegate .nothing fun client => client.control cmd param

def query (i : RockitHwClientInterface) (grant : Option (Nat → RTHWParamPair))
    (cmd unused : UInt32) (param : Option RTHWParamPairs) :
    Option (Answer × RockitHwClientInterface) :=
  i.delegate (.param param) fun client => client.query grant cmd unused param

def flush (i : RockitHwClientInterface) (err : Int) : Option (Answer × RockitHwClientInterface) :=
  i.delegate .nothing fun client => client.flush err

def reset (i : RockitHwClientInterface) (err : Int) : Option (Answer × RockitHwClientInterface) :=
  i.delegate .nothing fun client => client.reset err

end RockitHwClientInterface

/-! ## Sessions -/

/-- A call of the application, with what it meets outside. -/
inductive SessionCall
  | init (type : Int32) (param : Option RTHWParamPairs) (drmFd : Int) (replies : InitReplies)
  | enqueue (replies : EnqueueReplies) (buffer : RTHWBuffer)
  | dequeue (grant : Option (Nat → RTHWParamPair)) (reply : Except Int (Option MppFrame))
      (buffer : Option RTHWBuffer)
  | commitBuffer (replies : CommitReplies) (buffer : RTHWBuffer)
  | giveBackBuffer (buffer : RTHWBuffer)
  | process
  | control (cmd : UInt32) (param : Option RTHWParamPairs)
  | query (grant : Option (Nat → RTHWParamPair)) (cmd unused : UInt32)
      (param : Option RTHWParamPairs)
  | flush (err : Int)
  | reset (err : Int)

def RockitHwClientInterface.serve (i : RockitHwClientInterface) :
    SessionCall → Option (Answer × RockitHwClientInterface)
  | .init type param drmFd replies => i.init type param drmFd replies
  | .enqueue replies buffer => i.enqueue replies buffer
  | .dequeue grant reply buffer => i.dequeue grant reply buffer
  | .commitBuffer replies buffer => i.commitBuffer replies buffer
  | .giveBackBuffer buffer => i.giveBackBuffer buffer
  | .process => i.process
  | .control cmd param => i.control cmd param
  | .query grant cmd unused param => i.query grant cmd unused param
  | .flush err => i.flush err
  | .reset err => i.reset err

/-! ## What the application sees -/

/-- The pairs up to the counter. -/
def RTHWParamPairs.counted (rt : RTHWParamPairs) : List RTHWParamPair :=
  rt.array.take rt.counter.toNat

structure SeenBuffer where
  bufferType : UInt32
  bufferId : UInt32
  size : UInt32
  length : UInt32
  pairs : List RTHWParamPair
deriving DecidableEq, Repr

def RTHWBuffer.seen (rt : RTHWBuffer) : SeenBuffer :=
  ⟨rt.bufferType, rt.bufferId, rt.size, rt.length, rt.pair.counted⟩

inductive SeenOut
  | nothing
  | buffer (b : Option SeenBuffer)
  | param (pairs : Option (List RTHWParamPair))
deriving DecidableEq, Repr

def Out.seen : Out → SeenOut
  | nothing => .nothing
  | buffer rt => .buffer (rt.map RTHWBuffer.seen)
  | param rt => .param (rt.map RTHWParamPairs.counted)

structure Seen where
  ret : Int
  out : SeenOut
  events : List Event
deriving DecidableEq, Repr

def Answer.seen (a : Answer) : Seen := ⟨a.ret, a.out.seen, a.events⟩

end RockchipHal.RockitHw
