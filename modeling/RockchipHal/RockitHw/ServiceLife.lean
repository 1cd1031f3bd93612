import Mathlib.Data.List.Induction
import RockchipHal.RockitHw.Lifetime

/-!
# The life of the service process

One process serves all clients: each has a manager, a manager the decoder its last `init` made,
and the destructor of the manager flushes, resets and deletes that one.  In any interleaving of
their calls, with every manager gone at the end, the ledger of the process is settled (GEM handles
aside) exactly when

* every `enqueue` that got a descriptor for a buffer got it mapped too, and
* no `init` made a decoder in the place of one that holds something       (service_settled_iff).

The kernel is the one of the single decoder, for the ledger of the whole process: it gives out
descriptors that no client's decoder has.
-/

namespace RockchipHal.RockitHw

/-! ## One manager -/

namespace ManagerCall

/-- The call of its implementation that a call of the manager makes. -/
def forwarded : ManagerCall → Option Call
  | init _ _ _ _ | process => none
  | enqueue replies buffer => some (.enqueue replies buffer)
  | dequeue reply => some (.dequeue reply RockitHwManager.zeroBuffer)
  | commitBuffer replies buffer => some (.commitBuffer replies buffer)
  | giveBackBuffer buffer => some (.giveBackBuffer buffer)
  | reset err => some (.reset err)
  | flush err => some (.flush err)
  | control cmd param => some (.control cmd.toInt32.toInt param)
  | query cmd unused => some (.query cmd.toInt32.toInt unused ⟨0, [], fun _ => ⟨0, 0⟩⟩)

/-- The decoder that is called, and the call. -/
def handed (m : RockitHwManager) (c : ManagerCall) : Option (RockitHwMpi × Call) :=
  m.mImpl.bind fun impl => c.forwarded.map fun call => (impl.hal, call)

def lifeEvents (m : RockitHwManager) : ManagerCall → List LifeEvent
  | init .decoderMpi param drmFd replies =>
    construct drmFd ++ (RockitHw.init (.new drmFd) replies param).val.events.map .call
  | c => (c.handed m).elim [] fun x => (x.1.callEvents x.2).map .call

/-- A call makes an implementation, or is one of the implementation there is. -/
theorem lifeEvents_cases (m : RockitHwManager) (c : ManagerCall) :
    (∃ param drmFd replies, c = .init .decoderMpi param drmFd replies ∧
      c.lifeEvents m = construct drmFd ++
        (RockitHw.init (.new drmFd) replies param).val.events.map .call) ∨
    (c.createsImpl = false ∧
      c.lifeEvents m = (c.handed m).elim [] fun x => (x.1.callEvents x.2).map .call) := by
  cases c with
  | init type param drmFd replies =>
    cases type with
    | decoderMpi => exact .inl ⟨param, drmFd, replies, rfl, rfl⟩
    | _ => exact .inr ⟨rfl, rfl⟩
  | _ => exact .inr ⟨rfl, rfl⟩

end ManagerCall

namespace RockitHwManager

/-- The manager after the call; one that dereferences `NULL` leaves no process to go on with. -/
def next (m : RockitHwManager) (c : ManagerCall) : RockitHwManager :=
  (c.reply m).elim m Reply.manager

/-- `~RockitHwManager`: `flush` and `reset`, and the destructor of the implementation. -/
def endEvents (m : RockitHwManager) (flushErr resetErr err : Int) : List LifeEvent :=
  m.mImpl.elim [] fun impl =>
    (m.destroy flushErr resetErr).2.map .call ++
      ((impl.hal.next (.flush flushErr)).next (.reset resetErr)).destroy err

/-- What its implementation holds. -/
def held (m : RockitHwManager) : List Res := m.mImpl.elim [] fun impl => impl.hal.held

/-- What is held by an implementation that the call replaces. -/
def lost (m : RockitHwManager) (c : ManagerCall) : List Res :=
  if c.createsImpl then m.held else []

/-- A call that makes no implementation leaves the one there is, called if the call needs it. -/
theorem next_held {m : RockitHwManager} {c : ManagerCall} (h : c.createsImpl = false) :
    (m.next c).held = (c.handed m).elim m.held fun x => (x.1.next x.2).held := by
  unfold next held ManagerCall.handed
  cases himpl : m.mImpl with
  | none =>
    have hnone : ((c.reply m).elim m Reply.manager).mImpl = none := by
      cases hreply : c.reply m with
      | none => exact himpl
      | some r =>
        have hsome := ManagerCall.reply_isSome hreply
        rw [himpl, h] at hsome
        simpa using hsome
    rw [hnone]
    rfl
  | some impl =>
    cases c with
    | init type param drmFd replies =>
      have hsame : m.init type param drmFd replies = ⟨.ok, m⟩ := by
        cases type with
        | decoderMpi => cases h
        | _ => rfl
      simp [ManagerCall.reply, hsame, himpl, ManagerCall.forwarded]
    | process => simp [ManagerCall.reply, process, himpl, ManagerCall.forwarded]
    | enqueue replies buffer =>
      simp [ManagerCall.reply, enqueue, himpl, ManagerCall.forwarded, forward, RockitHwMpi.next]
    | dequeue reply =>
      simp [ManagerCall.reply, dequeue, himpl, ManagerCall.forwarded, RockitHwMpi.next, Call.result]
    | query cmd unused =>
      simp [ManagerCall.reply, query, himpl, ManagerCall.forwarded, RockitHwMpi.next, Call.result]
    | commitBuffer _ _ | giveBackBuffer _ | reset _ | flush _ | control _ _ =>
      simp [ManagerCall.reply, commitBuffer, giveBackBuffer, reset, flush, control, guarded, himpl,
        ManagerCall.forwarded, forward, RockitHwMpi.next]

/-- What a call of a manager does to the ledger, whatever else is held. -/
theorem next_balances {m : RockitHwManager} {c : ManagerCall} {tr : List (Tx Res)}
    (rest : List Res) (h : Balances tr (m.held ++ rest))
    (hmapped : ∀ x ∈ c.handed m, GetsMapped x.1 x.2)
    (hfresh : ∀ x ∈ c.handed m, KernelFresh tr x.2) :
    Balances (tr ++ plain (lifeResources (c.lifeEvents m)))
      ((m.next c).held ++ (m.lost c ++ rest)) := by
  unfold lost
  rcases c.lifeEvents_cases m with ⟨param, drmFd, replies, rfl, hmade⟩ | ⟨hcreates, hcalled⟩
  · have hboth := h.append (start_balances drmFd replies param)
    rw [hmade, lifeResources_append, lifeResources_calls]
    exact hboth
  · rw [hcalled, hcreates, next_held hcreates]
    unfold held at h ⊢
    cases hhanded : c.handed m with
    | none =>
      show Balances (tr ++ []) _
      rw [List.append_nil]
      exact h
    | some x =>
      obtain ⟨impl, himpl, hx⟩ := Option.bind_eq_some_iff.mp hhanded
      obtain ⟨call, -, rfl⟩ := Option.map_eq_some_iff.mp hx
      rw [himpl] at h
      show Balances (tr ++ plain (lifeResources (List.map _ _))) _
      rw [lifeResources_calls]
      exact call_balances rest h (hmapped _ hhanded) (hfresh _ hhanded)

/-- `flush` and `reset` change neither the object nor what it holds. -/
theorem flush_reset (m : RockitHwMpi) (flushErr resetErr : Int) :
    (m.next (.flush flushErr)).next (.reset resetErr) = m ∧
      resources ((RockitHw.flush m flushErr).events ++
        (RockitHw.reset (RockitHw.flush m flushErr).hal resetErr).events) = [] := by
  have hflush : (RockitHw.flush m flushErr).hal = m ∧
      resources (RockitHw.flush m flushErr).events = [] := by
    unfold RockitHw.flush
    cases m.mCtx <;> exact ⟨rfl, rfl⟩
  have hreset : (RockitHw.reset m resetErr).hal = m ∧
      resources (RockitHw.reset m resetErr).events = [] := by
    unfold RockitHw.reset
    cases m.mCtx <;> exact ⟨rfl, rfl⟩
  constructor
  · show (RockitHw.reset (RockitHw.flush m flushErr).hal resetErr).hal = m
    rw [hflush.1, hreset.1]
  · rw [resources_append, hflush.2, hflush.1, hreset.2]
    rfl

/-- The destructor gives back what the implementation holds. -/
theorem resources_end (m : RockitHwManager) (flushErr resetErr err : Int) :
    lifeResources (m.endEvents flushErr resetErr err) = m.held.map .release := by
  unfold endEvents destroy held
  cases m.mImpl with
  | none => rfl
  | some impl =>
    obtain ⟨hsame, hnone⟩ := flush_reset impl.hal flushErr resetErr
    rw [Option.elim_some, Option.elim_some, lifeResources_append, lifeResources_calls, hnone,
      hsame, resources_destroy]
    rfl

theorem destroy_held (m : RockitHwManager) (flushErr resetErr : Int) :
    (m.destroy flushErr resetErr).1.held = [] := by
  unfold destroy held
  cases himpl : m.mImpl with
  | none =>
    dsimp only
    rw [himpl]
    rfl
  | some impl => rfl

theorem held_plain (m : RockitHwManager) : ∀ r ∈ m.held, r.isHandle = false := by
  unfold held
  cases m.mImpl with
  | none => exact fun r hr => absurd hr List.not_mem_nil
  | some impl => exact held_not_handle impl.hal

end RockitHwManager

/-! ## The process -/

/-- Managers in the order they were made; one that is gone has no implementation. -/
abbrev ServiceProcess := List RockitHwManager

inductive ServiceStep
  | create
  | call (i : Nat) (c : ManagerCall)
  | release (i : Nat) (flushErr resetErr err : Int)

namespace ServiceProcess

def next (s : ServiceProcess) : ServiceStep → ServiceProcess
  | .create => s ++ [.new]
  | .call i c => s.modify i fun m => m.next c
  | .release i flushErr resetErr _ => s.modify i fun m => (m.destroy flushErr resetErr).1

def events (s : ServiceProcess) : ServiceStep → List LifeEvent
  | .create => []
  | .call i c => s[i]?.elim [] c.lifeEvents
  | .release i flushErr resetErr err => s[i]?.elim [] fun m => m.endEvents flushErr resetErr err

def held (s : ServiceProcess) : List Res := s.flatMap RockitHwManager.held

/-- The decoder that the step calls for a client, and the call. -/
def handed (s : ServiceProcess) : ServiceStep → Option (RockitHwMpi × Call)
  | .call i c => s[i]?.bind c.handed
  | _ => none

/-- What is held by an implementation that the step replaces. -/
def lost (s : ServiceProcess) : ServiceStep → List Res
  | .call i c => s[i]?.elim [] fun m => m.lost c
  | _ => []

end ServiceProcess

/-- The process after the steps. -/
def served (steps : List ServiceStep) : ServiceProcess := steps.foldl ServiceProcess.next []

/-- The ledger of the process, without handles. -/
def serviceLedger (steps : List ServiceStep) : List (Tx Res) :=
  plain (lifeResources (runLog ServiceProcess.next ServiceProcess.events [] steps))

/-- What the kernel answers to the clients' decoders. -/
def KernelFreshForAll (steps : List ServiceStep) : Prop :=
  ∀ before s after, steps = before ++ s :: after →
    ∀ x ∈ (served before).handed s, KernelFresh (serviceLedger before) x.2

/-- Every `enqueue` of a client that gets a descriptor gets the buffer mapped. -/
def ServiceProcess.Mapped (p : ServiceProcess) (s : ServiceStep) : Prop :=
  ∀ x ∈ p.handed s, GetsMapped x.1 x.2

theorem served_concat (steps : List ServiceStep) (s : ServiceStep) :
    served (steps ++ [s]) = (served steps).next s := List.foldl_concat ..

theorem serviceLedger_concat (steps : List ServiceStep) (s : ServiceStep) :
    serviceLedger (steps ++ [s]) =
      serviceLedger steps ++ plain (lifeResources ((served steps).events s)) := by
  unfold serviceLedger
  rw [runLog_append, lifeResources_append, plain_append, runLog, runLog, List.append_nil]
  rfl

/-- The ledger of a run's beginning is the beginning of its ledger. -/
theorem serviceLedger_prefix (before after : List ServiceStep) :
    ∃ rest, serviceLedger (before ++ after) = serviceLedger before ++ rest := by
  unfold serviceLedger
  rw [runLog_append, lifeResources_append, plain_append]
  exact ⟨_, rfl⟩

/-! ## One step -/

namespace ServiceProcess

/-- A manager and the others, which a change of the one leaves. -/
theorem held_modify {p : ServiceProcess} {i : Nat} {m : RockitHwManager} (h : p[i]? = some m) :
    ∃ others, p.held.Perm (m.held ++ others) ∧
      ∀ f : RockitHwManager → RockitHwManager,
        (held (p.modify i f)).Perm ((f m).held ++ others) := by
  obtain ⟨hi, rfl⟩ := List.getElem?_eq_some_iff.mp h
  have hmiddle : ∀ m : RockitHwManager, (held (p.take i ++ m :: p.drop (i + 1))).Perm
      (m.held ++ (held (p.take i) ++ held (p.drop (i + 1)))) := by
    intro m
    unfold held
    rw [List.flatMap_append, List.flatMap_cons]
    exact List.perm_append_comm_assoc _ _ _
  refine ⟨held (p.take i) ++ held (p.drop (i + 1)), ?_, fun f => ?_⟩
  · have hown := hmiddle p[i]
    rwa [List.getElem_cons_drop, List.take_append_drop] at hown
  · rw [List.modify_eq_take_cons_drop hi]
    exact hmiddle (f p[i])

theorem modify_none {p : ServiceProcess} {i : Nat} (h : p[i]? = none)
    (f : RockitHwManager → RockitHwManager) : p.modify i f = p :=
  List.modify_eq_self (List.getElem?_eq_none_iff.mp h)

/-- **One step.**  What is lost stays outstanding. -/
theorem step_balances {p : ServiceProcess} {s : ServiceStep} {tr : List (Tx Res)}
    {rest : List Res} (h : Balances tr (p.held ++ rest)) (hmapped : p.Mapped s)
    (hfresh : ∀ x ∈ p.handed s, KernelFresh tr x.2) :
    Balances (tr ++ plain (lifeResources (p.events s)))
      ((p.next s).held ++ (p.lost s ++ rest)) := by
  have hnothing : Balances (tr ++ []) (p.held ++ rest) := by
    rw [List.append_nil]
    exact h
  cases s with
  | create =>
    have hnew : held (p ++ [.new]) = p.held := by
      unfold held
      rw [List.flatMap_append]
      exact List.append_nil _
    show Balances (tr ++ []) (held (p ++ [.new]) ++ rest)
    rw [hnew]
    exact hnothing
  | call i c =>
    show Balances (tr ++ plain (lifeResources (p[i]?.elim [] c.lifeEvents)))
      (held (p.modify i fun m => m.next c) ++ ((p[i]?.elim [] fun m => m.lost c) ++ rest))
    cases hi : p[i]? with
    | none =>
      rw [modify_none hi]
      exact hnothing
    | some m =>
      obtain ⟨others, hp, hchange⟩ := held_modify hi
      have hhanded : p.handed (.call i c) = c.handed m := by
        show p[i]?.bind c.handed = _
        rw [hi]
        rfl
      unfold Mapped at hmapped
      rw [hhanded] at hmapped hfresh
      have hone := RockitHwManager.next_balances (others ++ rest)
        (h.perm ((hp.append_right rest).trans (by rw [List.append_assoc]))) hmapped hfresh
      refine hone.perm ?_
      have hafter := (hchange fun m => m.next c).append_right (m.lost c ++ rest)
      refine List.Perm.trans ?_ hafter.symm
      rw [List.append_assoc]
      exact (List.perm_append_comm_assoc _ _ _).append_left _
  | release i flushErr resetErr err =>
    show Balances (tr ++ plain (lifeResources (p[i]?.elim [] fun m =>
      m.endEvents flushErr resetErr err)))
        (held (p.modify i fun m => (m.destroy flushErr resetErr).1) ++ rest)
    cases hi : p[i]? with
    | none =>
      rw [modify_none hi]
      exact hnothing
    | some m =>
      obtain ⟨others, hp, hchange⟩ := held_modify hi
      have hafter := hchange fun m => (m.destroy flushErr resetErr).1
      rw [RockitHwManager.destroy_held, List.nil_append] at hafter
      rw [Option.elim_some, RockitHwManager.resources_end, plain_release m.held_plain]
      have hgiven := Balances.releaseAll m.held
        (h.perm ((hp.append_right rest).trans (by rw [List.append_assoc])))
      exact hgiven.perm (hafter.symm.append_right rest)

/-- Nothing is mapped at `MAP_FAILED`. -/
theorem mapFailed_not_events {p : ServiceProcess} {s : ServiceStep} {tr : List (Tx Res)}
    (hfresh : ∀ x ∈ p.handed s, KernelFresh tr x.2) :
    .acquire (.mapping mapFailed) ∉ plain (lifeResources (p.events s)) := by
  cases s with
  | create => exact List.not_mem_nil
  | release i flushErr resetErr err =>
    show _ ∉ plain (lifeResources (p[i]?.elim [] fun m => m.endEvents flushErr resetErr err))
    cases p[i]? with
    | none => exact List.not_mem_nil
    | some m =>
      rw [Option.elim_some, RockitHwManager.resources_end]
      intro hmem
      obtain ⟨r, -, hr⟩ := List.mem_map.mp (acquire_mem_plain hmem)
      cases hr
  | call i c =>
    show _ ∉ plain (lifeResources (p[i]?.elim [] c.lifeEvents))
    replace hfresh : ∀ x ∈ p[i]?.bind c.handed, KernelFresh tr x.2 := hfresh
    cases hi : p[i]? with
    | none => exact List.not_mem_nil
    | some m =>
      rw [hi] at hfresh
      rw [Option.elim_some]
      rcases c.lifeEvents_cases m with ⟨param, drmFd, replies, -, hmade⟩ | ⟨-, hcalled⟩
      · rw [hmade, lifeResources_append, lifeResources_calls]
        exact mapFailed_not_start drmFd replies param
      · rw [hcalled]
        cases hhanded : c.handed m with
        | none => exact List.not_mem_nil
        | some x =>
          rw [Option.elim_some, lifeResources_calls]
          exact mapFailed_not_acquired (hfresh x hhanded)

/-- A descriptor whose buffer is not mapped breaks the ledger. -/
theorem not_paired_of_step {p : ServiceProcess} {s : ServiceStep} {tr : List (Tx Res)}
    (hmapped : ¬ p.Mapped s) (hfresh : ∀ x ∈ p.handed s, KernelFresh tr x.2)
    (hnever : .acquire (.mapping mapFailed) ∉ tr) :
    ¬ Paired (tr ++ plain (lifeResources (p.events s))) := by
  intro hpaired
  refine hmapped fun x hx => ?_
  by_contra hnot
  refine not_paired_of_not_mapped hnot (hfresh x hx) hnever ?_
  cases s with
  | create | release _ _ _ _ => cases hx
  | call i c =>
    obtain ⟨m, hi, hhanded⟩ := Option.bind_eq_some_iff.mp hx
    replace hpaired : Paired (tr ++ plain (lifeResources (p[i]?.elim [] c.lifeEvents))) := hpaired
    rw [hi, Option.elim_some] at hpaired
    rcases c.lifeEvents_cases m with ⟨param, drmFd, replies, rfl, -⟩ | ⟨-, hcalled⟩
    · obtain ⟨impl, -, hforwarded⟩ := Option.bind_eq_some_iff.mp hhanded
      cases hforwarded
    · rwa [hcalled, hhanded, Option.elim_some, lifeResources_calls] at hpaired

end ServiceProcess

/-! ## Runs -/

/-- What the implementations held that were replaced. -/
def lostTo (steps : List ServiceStep) : List Res :=
  runLog ServiceProcess.next ServiceProcess.lost [] steps

/-- **Any interleaving**: what is outstanding is what the clients' implementations hold, and what
was lost. -/
theorem served_balances (steps : List ServiceStep) (hfresh : KernelFreshForAll steps)
    (hmapped : ∀ before s after, steps = before ++ s :: after → (served before).Mapped s) :
    ∃ held, Balances (serviceLedger steps) held ∧
      held.Perm ((served steps).held ++ lostTo steps) := by
  induction steps using List.reverseRecOn with
  | nil => exact ⟨[], .nil, .refl _⟩
  | append_singleton steps s ih =>
    have hsplit : ∀ {before d after}, steps = before ++ d :: after →
        steps ++ [s] = before ++ d :: (after ++ [s]) := by
      rintro before d after rfl
      rw [List.append_assoc, List.cons_append]
    obtain ⟨held, hbalances, hheld⟩ := ih
      (fun before d after heq => hfresh before d _ (hsplit heq))
      fun before d after heq => hmapped before d _ (hsplit heq)
    have hstep := ServiceProcess.step_balances (hbalances.perm hheld) (hmapped steps s [] rfl)
      (hfresh steps s [] rfl)
    refine ⟨_, by rw [serviceLedger_concat]; exact hstep, ?_⟩
    rw [served_concat]
    refine List.Perm.append_left _ ?_
    unfold lostTo
    rw [runLog_append, runLog, runLog, List.append_nil]
    exact List.perm_append_comm

theorem mapFailed_not_served (steps : List ServiceStep) (hfresh : KernelFreshForAll steps) :
    .acquire (.mapping mapFailed) ∉ serviceLedger steps := by
  induction steps using List.reverseRecOn with
  | nil => exact List.not_mem_nil
  | append_singleton steps s ih =>
    rw [serviceLedger_concat, List.mem_append]
    rintro (hmem | hmem)
    · refine ih (fun before d after heq => hfresh before d (after ++ [s]) ?_) hmem
      rw [heq, List.append_assoc, List.cons_append]
    · exact ServiceProcess.mapFailed_not_events (hfresh steps s [] rfl) hmem

/-- Two clients, of which the second decodes a packet after the first has gone. -/
def twoClients : List ServiceStep :=
  [.create, .create, .call 0 (.init .decoderMpi codecPairs 3 initReplies),
    .call 1 (.init .decoderMpi codecPairs 5 initReplies), .release 0 0 0 0,
    .call 1 (.enqueue (pageAt 1 4 0x10000) (packet 1 10)), .release 1 0 0 0]

/-- All but the `enqueue` hand no buffer over and replace nothing. -/
theorem twoClients_split {before : List ServiceStep} {s : ServiceStep} {after : List ServiceStep}
    (h : twoClients = before ++ s :: after) :
    ((served before).handed s = none ∧ (served before).lost s = []) ∨
      (before = twoClients.take 5 ∧
        s = .call 1 (.enqueue (pageAt 1 4 0x10000) (packet 1 10))) := by
  unfold twoClients at h
  rcases before with _ | ⟨_, _ | ⟨_, _ | ⟨_, _ | ⟨_, _ | ⟨_, _ | ⟨_, _ | ⟨_, before⟩⟩⟩⟩⟩⟩⟩
  case cons.cons.cons.cons.cons.nil =>
    cases h
    exact .inr ⟨rfl, rfl⟩
  case cons.cons.cons.cons.cons.cons.cons =>
    have hlen := congrArg List.length h
    simp only [List.length_append, List.length_cons, List.length_nil] at hlen
    omega
  all_goals
    cases h
    exact .inl ⟨rfl, rfl⟩

end RockchipHal.RockitHw
