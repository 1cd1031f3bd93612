import Mathlib.Data.List.Sort
import RockchipHal.Lib.Reach

/-!
# `RockitHwService`: the registry of its clients

`create` replies before it registers the interface, so a client that answers the
reply with `destroy` can be served by another thread of the pool before the
registration: `removeClient` finds nothing, and `addClient` then registers an
interface that has been destroyed.

Every update of `mClients` is made under the lock, so a run's updates are in one
order (`log`), and `mClients` are the interfaces whose last update is an addition
(`Consistent`).  Hence, once all requests have finished:

    Exact s ↔ the last update of every destroyed interface is a removal
                                                          (registry_exact_iff)
-/

namespace RockchipHal.RockitHw

/-- `sp<IRockitHwInterface>`, as the object pointed to.  Whatever a request or the
registry still refers to is not freed, so its address is not another object's. -/
abbrev Interface := Nat

/-- `SortedVector`. -/
structure RockitHwService where
  mClients : List Interface
deriving DecidableEq, Repr

namespace RockitHwService

/-- `SortedVector::add` keeps the order; a client that is there replaces itself. -/
def addClient (s : RockitHwService) (hw : Interface) : RockitHwService :=
  if hw ∈ s.mClients then s else ⟨s.mClients.orderedInsert (· ≤ ·) hw⟩

def removeClient (s : RockitHwService) (hw : Interface) : RockitHwService :=
  ⟨s.mClients.erase hw⟩

theorem mem_addClient (s : RockitHwService) (hw x : Interface) :
    x ∈ (s.addClient hw).mClients ↔ x = hw ∨ x ∈ s.mClients := by
  unfold addClient
  by_cases h : hw ∈ s.mClients
  · rw [if_pos h]
    constructor
    · exact .inr
    · rintro (rfl | hx)
      · exact h
      · exact hx
  · rw [if_neg h]
    exact List.mem_orderedInsert _

theorem nodup_addClient {s : RockitHwService} (h : s.mClients.Nodup) (hw : Interface) :
    (s.addClient hw).mClients.Nodup := by
  unfold addClient
  by_cases hmem : hw ∈ s.mClients
  · rw [if_pos hmem]
    exact h
  · rw [if_neg hmem]
    show (s.mClients.orderedInsert (· ≤ ·) hw).Nodup
    rw [(List.perm_orderedInsert (· ≤ ·) hw s.mClients).nodup_iff, List.nodup_cons]
    exact ⟨hmem, h⟩

theorem mem_removeClient {s : RockitHwService} (h : s.mClients.Nodup) (hw x : Interface) :
    x ∈ (s.removeClient hw).mClients ↔ x ≠ hw ∧ x ∈ s.mClients :=
  h.mem_erase_iff

end RockitHwService

/-! ## Requests on the thread pool -/

/-- `configureRpcThreadpool(8, true)`. -/
def poolThreads : Nat := 8

/-- An update of the registry. -/
inductive Update
  | add (hw : Interface)
  | remove (hw : Interface)
deriving DecidableEq, Repr

def Update.hw : Update → Interface
  | add hw => hw
  | remove hw => hw

/-- The service with the requests its threads are serving.  A `create` first has its
interface in `replying`, then, its reply delivered, in `adding`; a `destroy` has it in
`removing`.  `created`, `destroyed` and `log` (newest first) are the history. -/
structure Serving where
  service : RockitHwService
  next : Interface
  replying : List Interface
  adding : List Interface
  removing : List Interface
  created : List Interface
  destroyed : List Interface
  log : List Update
deriving DecidableEq, Repr

inductive ServiceAction
  /-- a thread takes up a `create` and makes the interface -/
  | create
  /-- `_hidl_cb(Status::OK, p)` -/
  | reply (hw : Interface)
  | addClient (hw : Interface)
  /-- a thread takes up a `destroy` of an interface its client has got -/
  | destroy (hw : Interface)
  | removeClient (hw : Interface)
deriving DecidableEq, Repr

namespace Serving

def start : Serving := ⟨⟨[]⟩, 0, [], [], [], [], [], []⟩

/-- A thread of the pool is idle. -/
def Idle (s : Serving) : Prop :=
  s.replying.length + s.adding.length + s.removing.length < poolThreads

instance (s : Serving) : Decidable s.Idle := by
  unfold Idle
  infer_instance

def step (s : Serving) : ServiceAction → Option Serving
  | .create =>
    if s.Idle then
      some { s with
        next := s.next + 1
        replying := s.next :: s.replying
        created := s.next :: s.created }
    else none
  | .reply hw =>
    if hw ∈ s.replying then
      some { s with replying := s.replying.erase hw, adding := hw :: s.adding }
    else none
  | .addClient hw =>
    if hw ∈ s.adding then
      some { s with
        service := s.service.addClient hw
        adding := s.adding.erase hw
        log := .add hw :: s.log }
    else none
  | .destroy hw =>
    if s.Idle ∧ hw ∈ s.created ∧ hw ∉ s.replying then
      some { s with removing := hw :: s.removing, destroyed := hw :: s.destroyed }
    else none
  | .removeClient hw =>
    if hw ∈ s.removing then
      some { s with
        service := s.service.removeClient hw
        removing := s.removing.erase hw
        log := .remove hw :: s.log }
    else none

/-- All requests have finished. -/
def Finished (s : Serving) : Prop := s.replying = [] ∧ s.adding = [] ∧ s.removing = []

/-- `mClients` are the interfaces created and not destroyed. -/
def Exact (s : Serving) : Prop :=
  ∀ hw, hw ∈ s.service.mClients ↔ hw ∈ s.created ∧ hw ∉ s.destroyed

/-- The last update of an interface. -/
def lastUpdate (s : Serving) (hw : Interface) : Option Update := s.log.find? fun u => u.hw = hw

theorem lastUpdate_of_log {s s' : Serving} {u : Update} (h : s'.log = u :: s.log)
    (hw : Interface) :
    s'.lastUpdate hw = if u.hw = hw then some u else s.lastUpdate hw := by
  unfold lastUpdate
  rw [h, List.find?_cons]
  by_cases hu : u.hw = hw <;> simp [hu]

theorem lastUpdate_isUpdate_iff {s : Serving} {hw : Interface} :
    s.lastUpdate hw = some (.add hw) ∨ s.lastUpdate hw = some (.remove hw) ↔
      .add hw ∈ s.log ∨ .remove hw ∈ s.log := by
  unfold lastUpdate
  constructor
  · rintro (h | h)
    · exact .inl (List.mem_of_find?_eq_some h)
    · exact .inr (List.mem_of_find?_eq_some h)
  · intro h
    have hsome : (s.log.find? fun u => u.hw = hw).isSome = true := by
      rw [List.find?_isSome]
      rcases h with h | h
      · exact ⟨_, h, by simp [Update.hw]⟩
      · exact ⟨_, h, by simp [Update.hw]⟩
    obtain ⟨u, hu⟩ := Option.isSome_iff_exists.mp hsome
    have huhw := List.find?_some hu
    rw [hu]
    cases u with
    | add hw' =>
      have heq : hw' = hw := of_decide_eq_true huhw
      exact .inl (by rw [heq])
    | remove hw' =>
      have heq : hw' = hw := of_decide_eq_true huhw
      exact .inr (by rw [heq])

/-! ## What runs keep -/

/-- The registry and the history agree with the requests being served. -/
structure Consistent (s : Serving) : Prop where
  nodup : s.service.mClients.Nodup
  mem_iff : ∀ hw, hw ∈ s.service.mClients ↔ s.lastUpdate hw = some (.add hw)
  created_of_add : ∀ hw, .add hw ∈ s.log → hw ∈ s.created
  destroyed_of_remove : ∀ hw, .remove hw ∈ s.log → hw ∈ s.destroyed
  created_of_serving : ∀ hw ∈ s.replying ++ s.adding, hw ∈ s.created
  destroyed_of_removing : ∀ hw ∈ s.removing, hw ∈ s.destroyed
  created_of_destroyed : ∀ hw ∈ s.destroyed, hw ∈ s.created
  add_of_created : ∀ hw ∈ s.created, hw ∈ s.replying ∨ hw ∈ s.adding ∨ .add hw ∈ s.log
  remove_of_destroyed : ∀ hw ∈ s.destroyed, hw ∈ s.removing ∨ .remove hw ∈ s.log

theorem start_consistent : Consistent start where
  nodup := List.nodup_nil
  mem_iff := by simp [start, lastUpdate]
  created_of_add := by simp [start]
  destroyed_of_remove := by simp [start]
  created_of_serving := by simp [start]
  destroyed_of_removing := by simp [start]
  created_of_destroyed := by simp [start]
  add_of_created := by simp [start]
  remove_of_destroyed := by simp [start]

/-- An element taken out of a list is another one or still there. -/
theorem mem_erase_or {l : List Interface} {x : Interface} (h : x ∈ l) (hw : Interface) :
    x = hw ∨ x ∈ l.erase hw := by
  by_cases hx : x = hw
  · exact .inl hx
  · exact .inr ((List.mem_erase_of_ne hx).mpr h)

namespace Consistent

variable {s : Serving}

theorem addClient (h : Consistent s) {hw : Interface} (hmem : hw ∈ s.adding) :
    Consistent { s with
      service := s.service.addClient hw
      adding := s.adding.erase hw
      log := .add hw :: s.log } := by
  refine ⟨RockitHwService.nodup_addClient h.nodup hw, fun x => ?_, fun x hx => ?_, fun x hx => ?_,
    fun x hx => ?_, h.destroyed_of_removing, h.created_of_destroyed, fun x hx => ?_, fun x hx => ?_⟩
  · rw [RockitHwService.mem_addClient, lastUpdate_of_log (s := s) rfl, h.mem_iff]
    by_cases hx : hw = x
    · simp [Update.hw, hx]
    · have hne : x ≠ hw := fun he => hx he.symm
      simp [Update.hw, hx, hne]
  · rcases List.mem_cons.mp hx with heq | hx
    · cases heq
      exact h.created_of_serving hw (List.mem_append_right _ hmem)
    · exact h.created_of_add x hx
  · rcases List.mem_cons.mp hx with heq | hx
    · cases heq
    · exact h.destroyed_of_remove x hx
  · refine h.created_of_serving x ?_
    rcases List.mem_append.mp hx with hx | hx
    · exact List.mem_append_left _ hx
    · exact List.mem_append_right _ (List.mem_of_mem_erase hx)
  · rcases h.add_of_created x hx with hx | hx | hx
    · exact .inl hx
    · rcases mem_erase_or hx hw with rfl | hx
      · exact .inr (.inr List.mem_cons_self)
      · exact .inr (.inl hx)
    · exact .inr (.inr (List.mem_cons_of_mem _ hx))
  · rcases h.remove_of_destroyed x hx with hx | hx
    · exact .inl hx
    · exact .inr (List.mem_cons_of_mem _ hx)

theorem removeClient (h : Consistent s) {hw : Interface} (hmem : hw ∈ s.removing) :
    Consistent { s with
      service := s.service.removeClient hw
      removing := s.removing.erase hw
      log := .remove hw :: s.log } := by
  refine ⟨h.nodup.erase hw, fun x => ?_, fun x hx => ?_, fun x hx => ?_, h.created_of_serving,
    fun x hx => h.destroyed_of_removing x (List.mem_of_mem_erase hx), h.created_of_destroyed,
    fun x hx => ?_, fun x hx => ?_⟩
  · rw [RockitHwService.mem_removeClient h.nodup, lastUpdate_of_log (s := s) rfl, h.mem_iff]
    by_cases hx : hw = x
    · simp [Update.hw, hx]
    · have hne : x ≠ hw := fun he => hx he.symm
      simp [Update.hw, hx, hne]
  · rcases List.mem_cons.mp hx with heq | hx
    · cases heq
    · exact h.created_of_add x hx
  · rcases List.mem_cons.mp hx with heq | hx
    · cases heq
      exact h.destroyed_of_removing hw hmem
    · exact h.destroyed_of_remove x hx
  · rcases h.add_of_created x hx with hx | hx | hx
    · exact .inl hx
    · exact .inr (.inl hx)
    · exact .inr (.inr (List.mem_cons_of_mem _ hx))
  · rcases h.remove_of_destroyed x hx with hx | hx
    · rcases mem_erase_or hx hw with rfl | hx
      · exact .inr List.mem_cons_self
      · exact .inl hx
    · exact .inr (List.mem_cons_of_mem _ hx)

theorem create (h : Consistent s) :
    Consistent { s with
      next := s.next + 1
      replying := s.next :: s.replying
      created := s.next :: s.created } := by
  refine ⟨h.nodup, h.mem_iff, fun x hx => List.mem_cons_of_mem _ (h.created_of_add x hx),
    h.destroyed_of_remove, fun x hx => ?_, h.destroyed_of_removing,
    fun x hx => List.mem_cons_of_mem _ (h.created_of_destroyed x hx), fun x hx => ?_,
    h.remove_of_destroyed⟩
  · rw [List.cons_append] at hx
    rcases List.mem_cons.mp hx with rfl | hx
    · exact List.mem_cons_self
    · exact List.mem_cons_of_mem _ (h.created_of_serving x hx)
  · rcases List.mem_cons.mp hx with rfl | hx
    · exact .inl List.mem_cons_self
    · rcases h.add_of_created x hx with hx | hx
      · exact .inl (List.mem_cons_of_mem _ hx)
      · exact .inr hx

theorem reply (h : Consistent s) {hw : Interface} (hmem : hw ∈ s.replying) :
    Consistent { s with replying := s.replying.erase hw, adding := hw :: s.adding } := by
  refine ⟨h.nodup, h.mem_iff, h.created_of_add, h.destroyed_of_remove, fun x hx => ?_,
    h.destroyed_of_removing, h.created_of_destroyed, fun x hx => ?_, h.remove_of_destroyed⟩
  · refine h.created_of_serving x ?_
    rcases List.mem_append.mp hx with hx | hx
    · exact List.mem_append_left _ (List.mem_of_mem_erase hx)
    · rcases List.mem_cons.mp hx with rfl | hx
      · exact List.mem_append_left _ hmem
      · exact List.mem_append_right _ hx
  · rcases h.add_of_created x hx with hx | hx | hx
    · rcases mem_erase_or hx hw with rfl | hx
      · exact .inr (.inl List.mem_cons_self)
      · exact .inl hx
    · exact .inr (.inl (List.mem_cons_of_mem _ hx))
    · exact .inr (.inr hx)

theorem destroy (h : Consistent s) {hw : Interface} (hmem : hw ∈ s.created) :
    Consistent { s with removing := hw :: s.removing, destroyed := hw :: s.destroyed } := by
  refine ⟨h.nodup, h.mem_iff, h.created_of_add,
    fun x hx => List.mem_cons_of_mem _ (h.destroyed_of_remove x hx), h.created_of_serving,
    fun x hx => ?_, fun x hx => ?_, h.add_of_created, fun x hx => ?_⟩
  · rcases List.mem_cons.mp hx with rfl | hx
    · exact List.mem_cons_self
    · exact List.mem_cons_of_mem _ (h.destroyed_of_removing x hx)
  · rcases List.mem_cons.mp hx with rfl | hx
    · exact hmem
    · exact h.created_of_destroyed x hx
  · rcases List.mem_cons.mp hx with rfl | hx
    · exact .inl List.mem_cons_self
    · rcases h.remove_of_destroyed x hx with hx | hx
      · exact .inl (List.mem_cons_of_mem _ hx)
      · exact .inr hx

/-- Every step keeps registry and history consistent. -/
theorem step {s' : Serving} {a : ServiceAction} (h : Consistent s) (hstep : s.step a = some s') :
    Consistent s' := by
  unfold Serving.step at hstep
  cases a with
  | create =>
    obtain ⟨-, rfl⟩ := Option.ite_some_none_eq_some.mp hstep
    exact h.create
  | reply hw =>
    obtain ⟨hmem, rfl⟩ := Option.ite_some_none_eq_some.mp hstep
    exact h.reply hmem
  | addClient hw =>
    obtain ⟨hmem, rfl⟩ := Option.ite_some_none_eq_some.mp hstep
    exact h.addClient hmem
  | destroy hw =>
    obtain ⟨⟨-, hmem, -⟩, rfl⟩ := Option.ite_some_none_eq_some.mp hstep
    exact h.destroy hmem
  | removeClient hw =>
    obtain ⟨hmem, rfl⟩ := Option.ite_some_none_eq_some.mp hstep
    exact h.removeClient hmem

end Consistent

/-! ## Once all requests have finished -/

/-- **The registry is exact iff no registration came last.**  In every interleaving, once
all requests have finished, `mClients` are the interfaces created and not destroyed
exactly when the last update of each destroyed one is its removal. -/
theorem registry_exact_iff (s : Serving) (h : Reach step (fun _ _ => True) start s)
    (hfinished : s.Finished) :
    s.Exact ↔ ∀ hw ∈ s.destroyed, s.lastUpdate hw = some (.remove hw) := by
  have hc : Consistent s :=
    h.inv Consistent start_consistent fun _ _ _ hcons _ hstep => hcons.step hstep
  obtain ⟨hreplying, hadding, hremoving⟩ := hfinished
  have hadd : ∀ hw ∈ s.created, .add hw ∈ s.log := by
    intro hw hmem
    have hserved := hc.add_of_created hw hmem
    rw [hreplying, hadding] at hserved
    simpa using hserved
  have hremove : ∀ hw ∈ s.destroyed, .remove hw ∈ s.log := by
    intro hw hmem
    have hserved := hc.remove_of_destroyed hw hmem
    rw [hremoving] at hserved
    simpa using hserved
  constructor
  · intro hexact hw hmem
    rcases lastUpdate_isUpdate_iff.mpr (.inr (hremove hw hmem)) with hlast | hlast
    · have hin := (hc.mem_iff hw).mpr hlast
      exact absurd hmem ((hexact hw).mp hin).2
    · exact hlast
  · intro hall hw
    rw [hc.mem_iff]
    constructor
    · intro hlast
      refine ⟨hc.created_of_add hw (List.mem_of_find?_eq_some hlast), fun hmem => ?_⟩
      rw [hall hw hmem] at hlast
      cases hlast
    · rintro ⟨hcreated, hnot⟩
      rcases lastUpdate_isUpdate_iff.mpr (.inl (hadd hw hcreated)) with hlast | hlast
      · exact hlast
      · exact absurd (hc.destroyed_of_remove hw (List.mem_of_find?_eq_some hlast)) hnot

/-- Two interfaces are created, and the first is destroyed after its registration. -/
theorem registry_exact_two :
    ∃ s, run step (fun _ _ => True) start
        [.create, .create, .reply 0, .reply 1, .addClient 0, .destroy 0, .removeClient 0,
          .addClient 1] = some s ∧ s.service.mClients = [1] ∧ s.Exact := by
  refine ⟨_, (Option.some_get rfl).symm, rfl, ?_⟩
  refine (registry_exact_iff _ (Reach.of_run_get _ rfl) ⟨rfl, rfl, rfl⟩).mpr ?_
  decide

/-- The client destroys its interface between the reply and the registration: when both
requests have finished, it is registered. -/
theorem registry_overtaken :
    ∃ s, Reach step (fun _ _ => True) start s ∧ s.Finished ∧ s.service.mClients = [0] ∧
      s.created = [0] ∧ s.destroyed = [0] ∧ ¬ s.Exact := by
  refine ⟨_, Reach.of_run_get [.create, .reply 0, .destroy 0, .removeClient 0, .addClient 0] rfl,
    ⟨rfl, rfl, rfl⟩, rfl, rfl, rfl, fun hexact => ?_⟩
  exact ((hexact 0).mp (by decide)).2 (by decide)

end Serving

end RockchipHal.RockitHw
