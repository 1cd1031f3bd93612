import Mathlib.Data.List.Perm.Basic
import Mathlib.Data.List.Perm.Subperm
import Mathlib.Data.List.Nodup

/-!
# Custody of buffers that circulate through a queue

A client gives buffers to a queue, directly or by a request that is handled
later, and takes its front back.  The front is returned at once; a request makes
sure that it is erased, later.  So the first entries of the queue, as many as such
requests are in flight, are no longer the queue's:

    owned c = held ++ renders in flight ++ queue without its first
              (requests in flight) entries

A client that takes a front only when no request to erase is in flight moves
buffers within `owned` (`Accounted.move`): it is handed none it holds
(`Accounted.fresh`) and none is lost (`Accounted.placed`).  One that takes a front
out of turn has lost the buffer behind it once the requests are handled
(`Accounted.lost`).
-/

namespace RockchipHal.Sideband

variable {β : Type}

/-- A request in flight: to put a buffer into the queue, or to erase the queue's front. -/
inductive Request (β : Type)
  | render (buffer : β)
  | dequeue
deriving DecidableEq, Repr

/-- `inFlight` has the newest request first, `queue` its front. -/
structure Custody (β : Type) where
  held : List β
  given : List β
  inFlight : List (Request β)
  queue : List β

def Request.buffer? : Request β → Option β
  | .render b => some b
  | .dequeue => none

def Request.isDequeue : Request β → Bool
  | .render _ => false
  | .dequeue => true

def renders (l : List (Request β)) : List β := l.filterMap Request.buffer?

def dequeues (l : List (Request β)) : Nat := l.countP Request.isDequeue

theorem renders_append (l m : List (Request β)) : renders (l ++ m) = renders l ++ renders m :=
  List.filterMap_append

theorem dequeues_append (l m : List (Request β)) :
    dequeues (l ++ m) = dequeues l + dequeues m :=
  List.countP_append

theorem dequeues_cons_dequeue (l : List (Request β)) :
    dequeues (Request.dequeue :: l) = dequeues l + 1 :=
  List.countP_cons_of_pos rfl

@[simp] theorem renders_render (b : β) : renders [Request.render b] = [b] := rfl
@[simp] theorem renders_dequeue : renders [(Request.dequeue : Request β)] = [] := rfl
@[simp] theorem dequeues_render (b : β) : dequeues [Request.render b] = 0 := rfl
@[simp] theorem dequeues_dequeue : dequeues [(Request.dequeue : Request β)] = 1 := rfl

namespace Custody

/-- One move.  A front is taken from a queue of more than `least` entries only, and in
turn: when no request to erase one is in flight. -/
inductive Move [DecidableEq β] (least : Nat) : Custody β → Custody β → Prop
  | remain {c : Custody β} {b : β} (hb : b ∈ c.held) :
      Move least c
        { c with held := c.held.erase b, given := b :: c.given, queue := c.queue ++ [b] }
  | render {c : Custody β} {b : β} (hb : b ∈ c.held) :
      Move least c
        { c with
          held := c.held.erase b
          given := b :: c.given
          inFlight := .render b :: c.inFlight }
  | take {c : Custody β} {b : β} {rest : List β} (hq : c.queue = b :: rest)
      (hlen : least < c.queue.length) (hturn : dequeues c.inFlight = 0) :
      Move least c { c with held := b :: c.held, inFlight := .dequeue :: c.inFlight }
  | shown {c : Custody β} {b : β} {l : List (Request β)} (hl : c.inFlight = l ++ [.render b]) :
      Move least c { c with inFlight := l, queue := c.queue ++ [b] }
  | erased {c : Custody β} {b : β} {rest : List β} {l : List (Request β)}
      (hl : c.inFlight = l ++ [.dequeue]) (hq : c.queue = b :: rest) :
      Move least c { c with inFlight := l, queue := rest }

/-- The queue has an entry for every request to erase one. -/
def Covered (c : Custody β) : Prop := dequeues c.inFlight ≤ c.queue.length

def owned (c : Custody β) : List β :=
  c.held ++ renders c.inFlight ++ c.queue.drop (dequeues c.inFlight)

/-- The buffer is with the client, in a render in flight, or in the queue. -/
def Placed (c : Custody β) (b : β) : Prop :=
  b ∈ c.held ∨ b ∈ renders c.inFlight ∨ b ∈ c.queue

/-! ### What the moves make of the owned buffers -/

theorem owned_take {c : Custody β} {b : β} {rest : List β} (hq : c.queue = b :: rest)
    (hzero : dequeues c.inFlight = 0) :
    (owned { c with held := b :: c.held, inFlight := .dequeue :: c.inFlight }).Perm c.owned := by
  have hone : dequeues (Request.dequeue :: c.inFlight) = 1 := by
    rw [dequeues_cons_dequeue, hzero]
  show (b :: c.held ++ renders c.inFlight ++
    c.queue.drop (dequeues (Request.dequeue :: c.inFlight))).Perm
      (c.held ++ renders c.inFlight ++ c.queue.drop (dequeues c.inFlight))
  rw [hone, hzero, hq, List.drop_zero, List.drop_succ_cons, List.drop_zero]
  exact List.perm_middle.symm

theorem owned_shown {c : Custody β} {b : β} {l : List (Request β)} (hc : c.Covered)
    (hl : c.inFlight = l ++ [.render b]) :
    (owned { c with inFlight := l, queue := c.queue ++ [b] }).Perm c.owned := by
  have hdeq : dequeues c.inFlight = dequeues l := by rw [hl, dequeues_append, dequeues_render]; rfl
  have hren : renders c.inFlight = renders l ++ [b] := by
    rw [hl, renders_append, renders_render]
  have hlen : dequeues l ≤ c.queue.length := by
    rw [← hdeq]
    exact hc
  show (c.held ++ renders l ++ (c.queue ++ [b]).drop (dequeues l)).Perm
    (c.held ++ renders c.inFlight ++ c.queue.drop (dequeues c.inFlight))
  rw [hdeq, hren, List.drop_append_of_le_length hlen]
  simp only [List.append_assoc]
  exact (List.perm_append_comm.append_left _).append_left _

theorem owned_erased {c : Custody β} {b : β} {rest : List β} {l : List (Request β)}
    (hl : c.inFlight = l ++ [.dequeue]) (hq : c.queue = b :: rest) :
    owned { c with inFlight := l, queue := rest } = c.owned := by
  show c.held ++ renders l ++ rest.drop (dequeues l) =
    c.held ++ renders c.inFlight ++ c.queue.drop (dequeues c.inFlight)
  rw [hl, hq, renders_append, dequeues_append, renders_dequeue, dequeues_dequeue, List.append_nil,
    List.drop_succ_cons]

theorem owned_remain [DecidableEq β] {c : Custody β} {b : β} (hc : c.Covered) (hb : b ∈ c.held) :
    (owned { c with
      held := c.held.erase b, given := b :: c.given, queue := c.queue ++ [b] }).Perm c.owned := by
  show (c.held.erase b ++ renders c.inFlight ++
    (c.queue ++ [b]).drop (dequeues c.inFlight)).Perm c.owned
  rw [List.drop_append_of_le_length hc, ← List.append_assoc]
  refine (List.perm_append_singleton b _).trans ?_
  rw [← List.cons_append, ← List.cons_append]
  exact ((List.perm_cons_erase hb).symm.append_right _).append_right _

theorem owned_render [DecidableEq β] {c : Custody β} {b : β} (hb : b ∈ c.held) :
    (owned { c with
      held := c.held.erase b
      given := b :: c.given
      inFlight := .render b :: c.inFlight }).Perm c.owned := by
  show (c.held.erase b ++ b :: renders c.inFlight ++
    c.queue.drop (dequeues c.inFlight)).Perm c.owned
  refine (List.perm_middle.append_right _).trans ?_
  rw [← List.cons_append]
  exact ((List.perm_cons_erase hb).symm.append_right _).append_right _

/-- The books are right: what is owned are the buffers the client started with, the
queue's and the renders' were given, and at most one front, which is not the buffer behind
it, waits to be erased. -/
structure Accounted (all : List β) (c : Custody β) : Prop where
  perm : c.owned.Perm all
  given_mem : ∀ b ∈ c.given, b ∈ all
  queue_given : ∀ b ∈ c.queue, b ∈ c.given
  renders_given : ∀ b ∈ renders c.inFlight, b ∈ c.given
  pending : dequeues c.inFlight = 0 ∨
    dequeues c.inFlight = 1 ∧ ∃ x b rest, c.queue = x :: b :: rest ∧ x ≠ b

namespace Accounted

variable {all : List β} {c : Custody β} {least : Nat}

theorem covered (h : Accounted all c) : c.Covered := by
  unfold Covered
  rcases h.pending with hzero | ⟨hone, x, b, rest, hq, -⟩
  · omega
  · rw [hone, hq, List.length_cons]
    omega

theorem mem_of_held (h : Accounted all c) {b : β} (hb : b ∈ c.held) : b ∈ all :=
  h.perm.mem_iff.mp (List.mem_append_left _ (List.mem_append_left _ hb))

theorem mem_of_queue (h : Accounted all c) {b : β} (hb : b ∈ c.queue) : b ∈ all :=
  h.given_mem b (h.queue_given b hb)

theorem placed (h : Accounted all c) {b : β} (hb : b ∈ c.given) : c.Placed b := by
  have howned : b ∈ c.owned := h.perm.mem_iff.mpr (h.given_mem b hb)
  rcases List.mem_append.mp howned with hm | hm
  · rcases List.mem_append.mp hm with hm | hm
    · exact .inl hm
    · exact .inr (.inl hm)
  · exact .inr (.inr (List.mem_of_mem_drop hm))

/-- What the queue owns is neither held nor in flight. -/
theorem nodup_split (h : Accounted all c) (hn : all.Nodup) :
    (c.queue.drop (dequeues c.inFlight)).Nodup ∧
      ∀ b ∈ c.queue.drop (dequeues c.inFlight), b ∉ c.held ∧ b ∉ renders c.inFlight := by
  have hnodup : c.owned.Nodup := h.perm.nodup_iff.mpr hn
  obtain ⟨-, hqueue, hdisj⟩ := List.nodup_append.mp hnodup
  refine ⟨hqueue, fun b hb => ⟨fun hheld => ?_, fun hrender => ?_⟩⟩
  · exact hdisj b (List.mem_append_left _ hheld) b hb rfl
  · exact hdisj b (List.mem_append_right _ hrender) b hb rfl

theorem fresh (h : Accounted all c) (hn : all.Nodup) (hturn : dequeues c.inFlight = 0) {b : β}
    {rest : List β} (hq : c.queue = b :: rest) : b ∉ c.held := by
  have hsplit := (h.nodup_split hn).2 b
  rw [hturn, hq, List.drop_zero] at hsplit
  exact (hsplit List.mem_cons_self).1

/-! ## The moves -/

theorem take (h : Accounted all c) (hn : all.Nodup) (hleast : 0 < least)
    {b : β} {rest : List β} (hq : c.queue = b :: rest) (hlen : least < c.queue.length)
    (hzero : dequeues c.inFlight = 0) :
    Accounted all { c with held := b :: c.held, inFlight := .dequeue :: c.inFlight } := by
  have hone : dequeues (Request.dequeue :: c.inFlight) = 1 := by
    rw [dequeues_cons_dequeue, hzero]
  have hnodup : c.queue.Nodup := by
    have hsplit := (h.nodup_split hn).1
    rwa [hzero, List.drop_zero] at hsplit
  refine ⟨(owned_take hq hzero).trans h.perm, h.given_mem, h.queue_given, h.renders_given,
    .inr ⟨hone, ?_⟩⟩
  cases rest with
  | nil =>
    rw [hq, List.length_singleton] at hlen
    omega
  | cons y rest =>
    rw [hq] at hnodup
    refine ⟨b, y, rest, hq, ?_⟩
    rintro rfl
    exact (List.nodup_cons.mp hnodup).1 List.mem_cons_self

theorem shown (h : Accounted all c) {b : β} {l : List (Request β)}
    (hl : c.inFlight = l ++ [.render b]) :
    Accounted all { c with inFlight := l, queue := c.queue ++ [b] } := by
  have hdeq : dequeues c.inFlight = dequeues l := by rw [hl, dequeues_append, dequeues_render]; rfl
  have hren : renders c.inFlight = renders l ++ [b] := by
    rw [hl, renders_append, renders_render]
  have hrenders := h.renders_given
  have hpending := h.pending
  rw [hren] at hrenders
  rw [hdeq] at hpending
  refine ⟨(owned_shown h.covered hl).trans h.perm, h.given_mem, ?_,
    fun x hx => hrenders x (List.mem_append_left _ hx), ?_⟩
  · intro x hx
    rcases List.mem_append.mp hx with hx | hx
    · exact h.queue_given x hx
    · exact hrenders x (List.mem_append_right _ hx)
  · rcases hpending with hzero | ⟨hone, x, y, rest, hq, hxy⟩
    · exact .inl hzero
    · refine .inr ⟨hone, x, y, rest ++ [b], ?_, hxy⟩
      show c.queue ++ [b] = _
      rw [hq]
      rfl

theorem erased (h : Accounted all c) {b : β} {rest : List β} {l : List (Request β)}
    (hl : c.inFlight = l ++ [.dequeue]) (hq : c.queue = b :: rest) :
    Accounted all { c with inFlight := l, queue := rest } := by
  have hdeq : dequeues c.inFlight = dequeues l + 1 := by rw [hl, dequeues_append, dequeues_dequeue]
  have hren : renders c.inFlight = renders l := by
    rw [hl, renders_append, renders_dequeue, List.append_nil]
  have hrenders := h.renders_given
  have hqueue := h.queue_given
  rw [hren] at hrenders
  rw [hq] at hqueue
  refine ⟨(List.Perm.of_eq (owned_erased hl hq)).trans h.perm, h.given_mem,
    fun x hx => hqueue x (List.mem_cons_of_mem b hx), hrenders, ?_⟩
  rcases h.pending with hzero | ⟨hone, -⟩
  · omega
  · left
    show dequeues l = 0
    omega

section

variable [DecidableEq β]

theorem remain (h : Accounted all c) {b : β} (hb : b ∈ c.held) :
    Accounted all
      { c with held := c.held.erase b, given := b :: c.given, queue := c.queue ++ [b] } where
  perm := (owned_remain h.covered hb).trans h.perm
  given_mem := by
    intro x hx
    rcases List.mem_cons.mp hx with rfl | hx
    · exact h.mem_of_held hb
    · exact h.given_mem x hx
  queue_given := by
    intro x hx
    rcases List.mem_append.mp hx with hx | hx
    · exact List.mem_cons_of_mem b (h.queue_given x hx)
    · rw [List.mem_singleton.mp hx]
      exact List.mem_cons_self
  renders_given := fun x hx => List.mem_cons_of_mem b (h.renders_given x hx)
  pending := by
    rcases h.pending with hzero | ⟨hone, x, y, rest, hq, hxy⟩
    · exact .inl hzero
    · refine .inr ⟨hone, x, y, rest ++ [b], ?_, hxy⟩
      show c.queue ++ [b] = _
      rw [hq]
      rfl

theorem render (h : Accounted all c) {b : β} (hb : b ∈ c.held) :
    Accounted all
      { c with
        held := c.held.erase b
        given := b :: c.given
        inFlight := .render b :: c.inFlight } where
  perm := (owned_render hb).trans h.perm
  given_mem := by
    intro x hx
    rcases List.mem_cons.mp hx with rfl | hx
    · exact h.mem_of_held hb
    · exact h.given_mem x hx
  queue_given := fun x hx => List.mem_cons_of_mem b (h.queue_given x hx)
  renders_given := by
    intro x hx
    have hx : x ∈ b :: renders c.inFlight := hx
    rcases List.mem_cons.mp hx with rfl | hx
    · exact List.mem_cons_self
    · exact List.mem_cons_of_mem b (h.renders_given x hx)
  pending := h.pending

/-- Every move keeps the books right. -/
theorem move {c' : Custody β} (h : Accounted all c) (hn : all.Nodup) (hleast : 0 < least)
    (hm : Move least c c') : Accounted all c' := by
  cases hm with
  | remain hb => exact h.remain hb
  | render hb => exact h.render hb
  | take hq hlen hturn => exact h.take hn hleast hq hlen hturn
  | shown hl => exact h.shown hl
  | erased hl hq => exact h.erased hl hq

end

end Accounted

/-! ## Out of turn -/

/-- What is left when every request in flight has been handled. -/
def drained (c : Custody β) : Custody β :=
  { c with
    inFlight := []
    queue := (c.queue ++ (renders c.inFlight).reverse).drop (dequeues c.inFlight) }

theorem drained_nil {c : Custody β} (h : c.inFlight = []) : c.drained = c := by
  obtain ⟨held, given, inFlight, queue⟩ := c
  subst h
  simp [drained, renders, dequeues]

theorem drained_shown {c : Custody β} {b : β} {l : List (Request β)}
    (hl : c.inFlight = l ++ [.render b]) :
    drained { c with inFlight := l, queue := c.queue ++ [b] } = c.drained := by
  unfold drained
  rw [hl, renders_append, dequeues_append, renders_render, dequeues_render, List.reverse_append,
    List.append_assoc]
  rfl

theorem drained_erased {c : Custody β} {b : β} {rest : List β} {l : List (Request β)}
    (hl : c.inFlight = l ++ [.dequeue]) (hq : c.queue = b :: rest) :
    drained { c with inFlight := l, queue := rest } = c.drained := by
  unfold drained
  rw [hl, hq, renders_append, dequeues_append, renders_dequeue, dequeues_dequeue, List.append_nil,
    List.cons_append, List.drop_succ_cons]

theorem covered_shown {c : Custody β} (h : c.Covered) {b : β} {l : List (Request β)}
    (hl : c.inFlight = l ++ [.render b]) :
    Covered { c with inFlight := l, queue := c.queue ++ [b] } := by
  unfold Covered at h ⊢
  rw [hl, dequeues_append, dequeues_render] at h
  show dequeues l ≤ (c.queue ++ [b]).length
  rw [List.length_append]
  omega

theorem covered_erased {c : Custody β} (h : c.Covered) {b : β} {rest : List β}
    {l : List (Request β)} (hl : c.inFlight = l ++ [.dequeue]) (hq : c.queue = b :: rest) :
    Covered { c with inFlight := l, queue := rest } := by
  unfold Covered at h ⊢
  rw [hl, hq, dequeues_append, dequeues_dequeue, List.length_cons] at h
  show dequeues l ≤ rest.length
  omega

/-- A front taken while a request to erase is in flight: the two requests erase the buffer
behind it too, and nobody has that one then. -/
theorem Accounted.lost {all : List β} {c : Custody β} (h : Accounted all c) (hn : all.Nodup)
    (hpending : dequeues c.inFlight ≠ 0) {x : β} {rest : List β} (hq : c.queue = x :: rest) :
    ∃ b ∈ c.given,
      ¬ (drained { c with held := x :: c.held, inFlight := .dequeue :: c.inFlight }).Placed b := by
  rcases h.pending with hzero | ⟨hone, y, b, rest', hq', hne⟩
  · exact absurd hzero hpending
  · rw [hq', List.cons.injEq] at hq
    obtain ⟨rfl, rfl⟩ := hq
    obtain ⟨hnodup, hsplit⟩ := h.nodup_split hn
    rw [hone, hq', List.drop_succ_cons, List.drop_zero] at hnodup hsplit
    obtain ⟨hheld, hrender⟩ := hsplit b List.mem_cons_self
    have hmem : b ∈ c.queue := by
      rw [hq']
      exact List.mem_cons_of_mem y List.mem_cons_self
    have hdrop : (c.queue ++ (renders (Request.dequeue :: c.inFlight)).reverse).drop
        (dequeues (Request.dequeue :: c.inFlight)) = rest' ++ (renders c.inFlight).reverse := by
      have htwo : dequeues (Request.dequeue :: c.inFlight) = 2 := by
        rw [dequeues_cons_dequeue, hone]
      rw [htwo, hq']
      rfl
    refine ⟨b, h.queue_given b hmem, ?_⟩
    rintro (hb | hb | hb)
    · rcases List.mem_cons.mp hb with rfl | hb
      · exact hne rfl
      · exact hheld hb
    · cases hb
    · have hb : b ∈ (c.queue ++ (renders (Request.dequeue :: c.inFlight)).reverse).drop
          (dequeues (Request.dequeue :: c.inFlight)) := hb
      rw [hdrop] at hb
      rcases List.mem_append.mp hb with hb | hb
      · exact (List.nodup_cons.mp hnodup).1 hb
      · exact hrender (List.mem_reverse.mp hb)

end Custody

end RockchipHal.Sideband
