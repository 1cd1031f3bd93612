import RockchipHal.Lib.AddressSpace
import RockchipHal.RockitHw.DataList

/-!
# Packets and mappings

The data of a packet comes from an entry of `mDataList`, new or of an earlier
call; its length comes from the client.  The mappings of the listed entries stay
mapped and disjoint over every run (`dataList_backed`), so a packet always starts
at the start of a live mapping of its buffer; nothing compares its length with
the mapping's, so it ends inside exactly when the client's length does
(`packet_inBounds_iff`).

The kernel is assumed to place a mapping where nothing is mapped (`KernelOk`).
-/

namespace RockchipHal.RockitHw

section

variable (pageSize : UInt32)

/-! ## The address space -/

/-- `munmap` fails on the value of a failed `mmap`.  The service is built for 32 bits, where
the `int` length is passed on as the number it has in `uint32_t`. -/
def munmapPages (live : Nat → Prop) (addr : Nat) (length : UInt32) : Nat → Prop :=
  if addr ≠ mapFailed then unmapRegion live (addr, (pageRound pageSize length).toNat) else live

/-- The mapped bytes after one effect. -/
def Event.remap (live : Nat → Prop) : Event → Nat → Prop
  | .mmap addr length => mapRegion live (addr, length.toNat)
  | .munmap addr length => munmapPages pageSize live addr length
  | _ => live

/-- The mapped bytes after some effects. -/
def remapAll (live : Nat → Prop) (events : List Event) : Nat → Prop :=
  events.foldl (Event.remap pageSize) live

/-- The bytes mapped by a run so far. -/
def MpiRun.live (s : MpiRun) : Nat → Prop :=
  remapAll pageSize (fun _ => False) (s.history.flatMap Done.events)

/-- The region an entry maps. -/
def DataBufferCtx.region (b : DataBufferCtx) : Nat × Nat :=
  (b.mData, (pageRound pageSize b.mSize).toNat)

/-- The kernel maps a packet's buffer in whole pages and where nothing is mapped. -/
def KernelOk (s : MpiRun) : Call → Prop
  | .enqueue replies _ =>
    replies.drm.pageSize = pageSize ∧
      ∀ addr handle size, replies.drm.mmap = .ok addr → replies.drm.gemOpen = .ok (handle, size) →
        ∀ a, InRegion (addr, (pageRound pageSize size.toUInt32).toNat) a → ¬ s.live pageSize a
  | _ => True

theorem remapAll_append (live : Nat → Prop) (events rest : List Event) :
    remapAll pageSize live (events ++ rest) = remapAll pageSize (remapAll pageSize live events) rest :=
  List.foldl_append

theorem remap_neutral (live : Nat → Prop) (e : Event) (h : e.Neutral) :
    e.remap pageSize live = live := by
  cases e with
  | mmap addr length => exact absurd h id
  | munmap addr length =>
    have haddr : addr = mapFailed := h
    show munmapPages pageSize live addr length = live
    unfold munmapPages
    rw [if_neg (not_not_intro haddr)]
  | _ => rfl

theorem remapAll_neutral (events : List Event) : ∀ live : Nat → Prop,
    (∀ e ∈ events, e.Neutral) → remapAll pageSize live events = live := by
  induction events with
  | nil =>
    intro live _
    rfl
  | cons e events ih =>
    intro live h
    show remapAll pageSize (e.remap pageSize live) events = live
    rw [remap_neutral pageSize live e (h e List.mem_cons_self)]
    exact ih live fun e' he' => h e' (List.mem_cons_of_mem e he')

theorem live_after (s : MpiRun) (c : Call) :
    (s.after c).live pageSize = remapAll pageSize (s.live pageSize) (c.result s.hal).events := by
  unfold MpiRun.live MpiRun.after
  dsimp only
  rw [List.flatMap_append, remapAll_append, List.flatMap_cons, List.flatMap_nil, List.append_nil]

/-- Deleting an entry unmaps its region, or nothing. -/
theorem remapAll_delete (live : Nat → Prop) (b : DataBufferCtx) :
    remapAll pageSize live b.delete = live ∨
      remapAll pageSize live b.delete = unmapRegion live (b.region pageSize) := by
  have hclose : ∀ live' : Nat → Prop,
      remapAll pageSize live' (if 0 ≤ b.mFd then [.close b.mFd] else []) = live' := by
    intro live'
    apply remapAll_neutral
    intro e he
    split at he
    · rw [List.mem_singleton.mp he]
      trivial
    · cases he
  unfold DataBufferCtx.delete
  rw [remapAll_append, hclose]
  by_cases hnull : b.mData ≠ 0
  · rw [if_pos hnull]
    show munmapPages pageSize live b.mData b.mSize = live ∨
      munmapPages pageSize live b.mData b.mSize = _
    unfold munmapPages
    split
    · right
      rfl
    · left
      rfl
  · left
    rw [if_neg hnull]
    rfl

/-! ## The entries' mappings -/

/-- The regions of the listed entries are mapped and disjoint. -/
def DataBacked (live : Nat → Prop) (l : List DataBufferCtx) : Prop :=
  Backed live (l.map (DataBufferCtx.region pageSize))

theorem remapAll_mapped (live : Nat → Prop) (replies : DrmReplies) (bufferId : UInt32)
    (b : DataBufferCtx) (events : List Event) (h : Mapped replies bufferId b events)
    (hpage : replies.pageSize = pageSize) :
    remapAll pageSize live events = mapRegion live (b.region pageSize) := by
  obtain ⟨handle, size, -, -, rfl⟩ := h.opened
  rw [← hpage]
  rfl

/-- Every call keeps the listed entries mapped and disjoint. -/
theorem DataStep.backed {s : MpiRun} {c : Call} {l : List DataBufferCtx} {events : List Event}
    (h : DataStep s.hal c l events) (hk : KernelOk pageSize s c)
    (hb : DataBacked pageSize (s.live pageSize) s.hal.dataList) :
    DataBacked pageSize (remapAll pageSize (s.live pageSize) events) l := by
  cases h with
  | keep neutral =>
    rw [remapAll_neutral pageSize events _ neutral]
    exact hb
  | @add replies buffer b mapping rest call isOpen data miss mapped neutral =>
    subst call
    rw [remapAll_append, remapAll_neutral pageSize rest _ neutral,
      remapAll_mapped pageSize _ replies.drm buffer.bufferId b mapping mapped hk.1]
    unfold DataBacked
    rw [List.map_append, List.map_singleton]
    refine hb.push ?_
    obtain ⟨handle, size, hopen, hsize, -⟩ := mapped.opened
    intro a ha
    unfold DataBufferCtx.region at ha
    rw [hsize] at ha
    exact hk.2 b.mData handle size mapped.addr hopen a ha
  | free id =>
    rw [freeDataBuffer_fst, freeDataBuffer_snd]
    cases hfind : s.hal.dataList.find? fun b => b.mUniqueID = id with
    | none =>
      rw [List.eraseP_of_forall_not (by simpa using hfind)]
      exact hb
    | some b =>
      -- the entry found is the one erased
      obtain ⟨hid, l₁, l₂, hl, hl₁⟩ := List.find?_eq_some_iff_append.mp hfind
      have herase : s.hal.dataList.eraseP (fun b => b.mUniqueID = id) = l₁ ++ l₂ := by
        rw [hl, List.eraseP_append_right _ (by simpa using hl₁)]
        simp [hid]
      unfold DataBacked at hb ⊢
      rw [hl, List.map_append, List.map_cons] at hb
      rw [herase, List.map_append]
      show Backed (remapAll pageSize (s.live pageSize) b.delete) _
      rcases remapAll_delete pageSize (s.live pageSize) b with hd | hd
      · rw [hd]
        exact hb.sublist ((List.sublist_cons_self _ _).append_left _)
      · rw [hd]
        exact hb.unmap
  | clear _ => exact Backed.nil

theorem dataList_backed (m : RockitHwMpi) (replies : InitReplies) (pairs : RockitHWParamPairs)
    {s : MpiRun} (hs : Reach MpiRun.step (KernelOk pageSize) (.start m replies pairs) s) :
    DataBacked pageSize (s.live pageSize) s.hal.dataList := by
  refine hs.inv (fun s => DataBacked pageSize (s.live pageSize) s.hal.dataList) ?_ ?_
  · rw [(start_lists m replies pairs).1]
    exact Backed.nil
  · rintro s c s' hb hk ⟨⟩
    rw [live_after]
    exact (Call.dataStep s.hal c).backed pageSize hk hb

/-! ## The packet -/

/-- A packet with data is sent from an entry for its buffer, with the length the
client gave; the entry was listed, or has just been mapped. -/
theorem enqueue_packetInit (m : RockitHwMpi) (replies : EnqueueReplies) (buffer : RockitHWBuffer)
    (heos : (enqueueParams buffer.pair).val.eos = false) (data : Nat) (length : UInt32)
    (h : .packetInit data length ∈ (enqueue m replies buffer).val.events) :
    length = buffer.length ∧ ∃ b ∈ (enqueue m replies buffer).val.hal.dataList,
      b.mUniqueID = buffer.bufferId ∧ data = b.mData ∧
      (b ∈ m.dataList ∨
        .mmap b.mData (pageRound replies.drm.pageSize b.mSize) ∈
          (enqueue m replies buffer).val.events) := by
  unfold enqueue at h ⊢
  cases hopen : m.openCtx with
  | none =>
    rw [hopen] at h
    cases h
  | some ctx =>
    have hl := dataList_of_openCtx m ctx hopen
    rw [hopen] at h
    dsimp only at h ⊢
    rw [Reads.val_map] at h ⊢
    unfold enqueueWith at h ⊢
    rw [if_neg (by simp [heos])] at h ⊢
    cases hfind : findDataBuffer ctx.mDataList buffer.bufferId with
    | some b =>
      rw [hfind] at h
      have hmem : b ∈ m.dataList := by
        rw [hl]
        rw [findDataBuffer_eq] at hfind
        exact List.mem_of_mem_head? (Option.filter_eq_some_iff.mp hfind).1
      have hid : b.mUniqueID = buffer.bufferId := by
        rw [findDataBuffer_eq] at hfind
        simpa using (Option.filter_eq_some_iff.mp hfind).2
      simp [putPacket, mppPacket] at h
      exact ⟨h.2, b, hmem, hid, h.1, Or.inl hmem⟩
    | none =>
      rw [hfind] at h
      cases hmap : mapDataBuffer replies.drm buffer.bufferId with
      | error events =>
        simp only [hmap] at h
        exact absurd (mapDataBuffer_error _ _ _ hmap _ h) id
      | ok be =>
        obtain ⟨b, events⟩ := be
        have hm := mapDataBuffer_ok _ _ _ _ hmap
        obtain ⟨handle, size, -, -, rfl⟩ := hm.opened
        simp [hmap, putPacket, mppPacket] at h
        refine ⟨h.2, b, ?_, hm.id, h.1, Or.inr ?_⟩
        · show b ∈ ctx.mDataList ++ [b]
          exact List.mem_append_right _ List.mem_cons_self
        · simp [putPacket]

/-- **Where a packet lies.**  After any run, the packet of an `enqueue` with data
has the client's length and starts at the start of its buffer's mapping, one
listed before or made in this call, all of which is mapped; it ends inside the
mapping iff the client's length is at most the mapping's. -/
theorem packet_inBounds_iff (m : RockitHwMpi) (replies₀ : InitReplies)
    (pairs : RockitHWParamPairs) (s : MpiRun)
    (hs : Reach MpiRun.step (KernelOk pageSize) (.start m replies₀ pairs) s)
    (replies : EnqueueReplies) (buffer : RockitHWBuffer)
    (hk : KernelOk pageSize s (.enqueue replies buffer))
    (heos : (enqueueParams buffer.pair).val.eos = false) (data : Nat) (length : UInt32)
    (hp : .packetInit data length ∈ (enqueue s.hal replies buffer).val.events) :
    length = buffer.length ∧ ∃ b ∈ (enqueue s.hal replies buffer).val.hal.dataList,
      b.mUniqueID = buffer.bufferId ∧ data = b.mData ∧
      (b ∈ s.hal.dataList ∨
        .mmap b.mData (pageRound pageSize b.mSize) ∈ (enqueue s.hal replies buffer).val.events) ∧
      (∀ a, InRegion (b.region pageSize) a →
        (s.after (.enqueue replies buffer)).live pageSize a) ∧
      ((∀ a, InRegion (data, length.toNat) a → InRegion (b.region pageSize) a) ↔
        length.toNat ≤ (pageRound pageSize b.mSize).toNat) := by
  obtain ⟨hlen, b, hb, hid, hdata, hnew⟩ := enqueue_packetInit s.hal replies buffer heos data length hp
  have hbacked := dataList_backed pageSize m replies₀ pairs (.step hs hk rfl)
  rw [hk.1] at hnew
  refine ⟨hlen, b, hb, hid, hdata, hnew, ?_, ?_⟩
  · exact hbacked.mapped _ (List.mem_map.mpr ⟨b, hb, rfl⟩)
  · rw [hdata]
    exact inRegion_subset_iff b.mData length.toNat _

end

/-- Ten bytes of a page mapped for them. -/
theorem packet_inBounds_page :
    ∃ b ∈ (enqueue startedRun.hal (pageAt 1 4 0x10000) (packet 1 10)).val.hal.dataList,
      b.region 4096 = (0x10000, 4096) ∧
      ∀ a, InRegion (0x10000, 10) a → InRegion (b.region 4096) a := by
  obtain ⟨-, b, hb, -, hdata, -, -, hiff⟩ := packet_inBounds_iff 4096 ⟨none, 3, 0, 0, false⟩
    initReplies codecPairs startedRun .init (pageAt 1 4 0x10000) (packet 1 10)
    ⟨rfl, fun _ _ _ _ _ _ _ h => h⟩ (by decide) 0x10000 10 (by decide)
  have hlist : (enqueue startedRun.hal (pageAt 1 4 0x10000) (packet 1 10)).val.hal.dataList =
      [⟨4, 1, 0x10000, 4096, .byMpi⟩] := by decide
  rw [hlist, List.mem_singleton] at hb
  refine ⟨b, by rw [hlist, hb]; exact List.mem_cons_self, by rw [hb]; decide, hiff.mpr ?_⟩
  rw [hb]
  decide

/-- Two pages' worth of bytes sent from a mapping of one page. -/
theorem packet_past_mapping :
    .packetInit 0x10000 8192 ∈
        (enqueue startedRun.hal (pageAt 1 4 0x10000) (packet 1 8192)).val.events ∧
      (enqueue startedRun.hal (pageAt 1 4 0x10000) (packet 1 8192)).val.hal.dataList =
        [⟨4, 1, 0x10000, 4096, .byMpi⟩] ∧
      InRegion (0x10000, 8192) 0x11000 ∧
      ¬ (startedRun.after (.enqueue (pageAt 1 4 0x10000) (packet 1 8192))).live 4096 0x11000 := by
  refine ⟨by decide, by decide, by decide, ?_⟩
  rintro (h | h)
  · exact h
  · exact absurd h.2 (by decide)

end RockchipHal.RockitHw
