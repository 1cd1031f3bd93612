import RockchipHal.RockitHw.MpiRuns

/-!
# The map of bitstream buffers

`mDataList` is meant to hold one mapping for each buffer id: `enqueue` looks the
id up and maps the buffer on a miss.  The lookup only ever looks at the front
entry, so an id further back is mapped again.  As long as every packet's id is
at the front or not listed (`LookupWorks`), the list is the map it is meant to
be (`dataList_isMap`), and only then: the first packet that breaks the condition
makes an id occur twice.
-/

namespace RockchipHal.RockitHw

/-! ## Freeing -/

theorem freeDataBuffer_fst (l : List DataBufferCtx) (id : UInt32) :
    (freeDataBuffer l id).1 = l.eraseP fun b => b.mUniqueID = id := by
  induction l with
  | nil => rfl
  | cons b l ih =>
    unfold freeDataBuffer
    by_cases h : b.mUniqueID = id
    · rw [if_pos h, List.eraseP_cons_of_pos (by simpa using h)]
    · rw [if_neg h, List.eraseP_cons_of_neg (by simpa using h), ← ih]

/-- The entry erased is deleted. -/
theorem freeDataBuffer_snd (l : List DataBufferCtx) (id : UInt32) :
    (freeDataBuffer l id).2 =
      ((l.find? fun b => b.mUniqueID = id).map DataBufferCtx.delete).getD [] := by
  induction l with
  | nil => rfl
  | cons b l ih =>
    unfold freeDataBuffer
    by_cases h : b.mUniqueID = id
    · rw [if_pos h, List.find?_cons_of_pos (by simpa using h)]
      rfl
    · rw [if_neg h, List.find?_cons_of_neg (by simpa using h), ← ih]

/-! ## The lookup -/

/-- The id is that of the front entry, or of none. -/
def FrontOrAbsent (l : List DataBufferCtx) (id : UInt32) : Prop :=
  (∃ b ∈ l.head?, b.mUniqueID = id) ∨ ∀ b ∈ l, b.mUniqueID ≠ id

instance (l : List DataBufferCtx) (id : UInt32) : Decidable (FrontOrAbsent l id) :=
  inferInstanceAs (Decidable (_ ∨ _))

/-- A call after which nothing is mapped twice: a packet with data has its id at
the front of the list or not in it. -/
def LookupWorks (s : MpiRun) : Call → Prop
  | .enqueue _ buffer =>
    (enqueueParams buffer.pair).val.eos = true ∨ FrontOrAbsent s.hal.dataList buffer.bufferId
  | _ => True

instance (s : MpiRun) : (c : Call) → Decidable (LookupWorks s c)
  | .enqueue _ _ => inferInstanceAs (Decidable (_ ∨ _))
  | .dequeue _ _ | .commitBuffer _ _ | .giveBackBuffer _ | .reset _ | .flush _ | .control _ _
  | .query _ _ _ => inferInstanceAs (Decidable True)

theorem findDataBuffer_eq_none_iff (l : List DataBufferCtx) (id : UInt32) :
    findDataBuffer l id = none ↔ ∀ b ∈ l.head?, b.mUniqueID ≠ id := by
  rw [findDataBuffer_eq, Option.filter_eq_none_iff]
  simp

theorem findDataBuffer_front (l : List DataBufferCtx) (id : UInt32) (b : DataBufferCtx)
    (hb : b ∈ l.head?) (hid : b.mUniqueID = id) : findDataBuffer l id = some b := by
  rw [findDataBuffer_eq, Option.mem_def.mp hb]
  simp [Option.filter, hid]

/-- The ids stay distinct over a call that meets the condition. -/
theorem DataStep.distinct {s : MpiRun} {c : Call} {l : List DataBufferCtx} {events : List Event}
    (h : DataStep s.hal c l events) (hc : LookupWorks s c)
    (hd : Distinct DataBufferCtx.mUniqueID s.hal.dataList) :
    Distinct DataBufferCtx.mUniqueID l := by
  cases h with
  | keep _ => exact hd
  | @add replies buffer b mapping rest call isOpen data miss mapped neutral =>
    subst call
    have habsent : ∀ a ∈ s.hal.dataList, a.mUniqueID ≠ buffer.bufferId := by
      rcases hc with heos | ⟨a, ha, hid⟩ | habsent
      · rw [data] at heos
        cases heos
      · rw [findDataBuffer_front _ _ a ha hid] at miss
        cases miss
      · exact habsent
    rw [distinct_push]
    refine ⟨hd, fun a ha => ?_⟩
    rw [mapped.id]
    exact habsent a ha
  | free id =>
    rw [freeDataBuffer_fst]
    exact hd.sublist List.eraseP_sublist
  | clear _ => exact distinct_nil

/-- With the device closed, nothing is listed. -/
theorem DataStep.drm_open {m : RockitHwMpi} {c : Call} {l : List DataBufferCtx}
    {events : List Event} (h : DataStep m c l events) (hm : m.dataList = [] ∨ 0 ≤ m.mDrmFd) :
    l = [] ∨ 0 ≤ m.mDrmFd := by
  cases h with
  | keep _ => exact hm
  | add _ isOpen =>
    right
    exact isOpen
  | free id =>
    rcases hm with hm | hm
    · left
      rw [hm]
      rfl
    · right
      exact hm
  | clear _ =>
    left
    rfl

theorem dataList_distinct (m : RockitHwMpi) (replies : InitReplies) (pairs : RockitHWParamPairs)
    {s : MpiRun} (hs : Reach MpiRun.step LookupWorks (.start m replies pairs) s) :
    Distinct DataBufferCtx.mUniqueID s.hal.dataList := by
  refine hs.inv (fun s => Distinct DataBufferCtx.mUniqueID s.hal.dataList) ?_ ?_
  · rw [(start_lists m replies pairs).1]
    exact distinct_nil
  · rintro s c s' hd hc ⟨⟩
    exact (Call.dataStep s.hal c).distinct hc hd

theorem dataList_open (m : RockitHwMpi) (replies : InitReplies) (pairs : RockitHWParamPairs)
    {ok : MpiRun → Call → Prop} {s : MpiRun}
    (hs : Reach MpiRun.step ok (.start m replies pairs) s) :
    s.hal.dataList = [] ∨ 0 ≤ s.hal.mDrmFd := by
  refine hs.inv (fun s => s.hal.dataList = [] ∨ 0 ≤ s.hal.mDrmFd) ?_ ?_
  · left
    exact (start_lists m replies pairs).1
  · rintro s c s' h _ ⟨⟩
    show _ ∨ 0 ≤ (c.result s.hal).hal.mDrmFd
    rw [Call.result_mDrmFd]
    exact (Call.dataStep s.hal c).drm_open h

/-- What is listed has a context behind an open device. -/
theorem openCtx_of_listed (m : RockitHwMpi) (replies : InitReplies) (pairs : RockitHWParamPairs)
    {ok : MpiRun → Call → Prop} {s : MpiRun}
    (hs : Reach MpiRun.step ok (.start m replies pairs) s) {b : DataBufferCtx}
    (hb : b ∈ s.hal.dataList) : s.hal.openCtx.isSome := by
  have hdrm : 0 ≤ s.hal.mDrmFd := by
    rcases dataList_open m _ pairs hs with hnil | h
    · rw [hnil] at hb
      cases hb
    · exact h
  cases hctx : s.hal.mCtx with
  | none =>
    rw [RockitHwMpi.dataList, hctx] at hb
    cases hb
  | some ctx =>
    rw [(openCtx_eq_some_iff s.hal ctx).mpr ⟨hdrm, hctx⟩]
    rfl

/-- A listed id that meets the condition is found. -/
theorem findDataBuffer_listed {l : List DataBufferCtx} (hd : Distinct DataBufferCtx.mUniqueID l)
    {id : UInt32} (hc : FrontOrAbsent l id) {b : DataBufferCtx} (hb : b ∈ l)
    (hid : b.mUniqueID = id) : findDataBuffer l id = some b := by
  rcases hc with ⟨a, ha, haid⟩ | habsent
  · have hmem : a ∈ l := List.mem_of_mem_head? ha
    have hab : a = b := by
      have h1 := (hd.find?_eq_some_iff id a).mpr ⟨hmem, haid⟩
      have h2 := (hd.find?_eq_some_iff id b).mpr ⟨hb, hid⟩
      rw [h1] at h2
      exact Option.some.inj h2
    rw [← hab]
    exact findDataBuffer_front _ _ a ha haid
  · exact absurd hid (habsent b hb)

/-! ## Single calls -/

/-- A packet with data whose entry is found goes out with that entry's data. -/
theorem enqueue_hit (m : RockitHwMpi) (replies : EnqueueReplies) (buffer : RockitHWBuffer)
    (hopen : m.openCtx.isSome) (heos : (enqueueParams buffer.pair).val.eos = false)
    (b : DataBufferCtx) (hfind : findDataBuffer m.dataList buffer.bufferId = some b) :
    (enqueue m replies buffer).val = putPacket m []
      (mppPacket (enqueueParams buffer.pair).val b.mData buffer.length)
      replies.decodePutPacket := by
  obtain ⟨ctx, hctx⟩ := Option.isSome_iff_exists.mp hopen
  rw [dataList_of_openCtx m ctx hctx] at hfind
  unfold enqueue
  rw [hctx, Reads.val_map, enqueueWith, if_neg (by simp [heos]), hfind]

theorem enqueue_miss (m : RockitHwMpi) (replies : EnqueueReplies) (buffer : RockitHWBuffer)
    (hopen : m.openCtx.isSome) (heos : (enqueueParams buffer.pair).val.eos = false)
    (hfind : findDataBuffer m.dataList buffer.bufferId = none) (b : DataBufferCtx)
    (events : List Event) (hmap : mapDataBuffer replies.drm buffer.bufferId = .ok (b, events)) :
    (enqueue m replies buffer).val.hal.dataList = m.dataList ++ [b] := by
  obtain ⟨ctx, hctx⟩ := Option.isSome_iff_exists.mp hopen
  rw [dataList_of_openCtx m ctx hctx] at hfind ⊢
  unfold enqueue
  rw [hctx, Reads.val_map, enqueueWith, if_neg (by simp [heos]), hfind]
  simp only [hmap]
  rfl

theorem enqueue_eos (m : RockitHwMpi) (replies : EnqueueReplies) (buffer : RockitHWBuffer)
    (heos : (enqueueParams buffer.pair).val.eos = true) :
    (enqueue m replies buffer).val.hal = m ∧
      ∀ e ∈ (enqueue m replies buffer).val.events, e.Neutral := by
  unfold enqueue
  cases m.openCtx with
  | none => exact ⟨rfl, by simp⟩
  | some ctx =>
    rw [Reads.val_map, enqueueWith, if_pos heos]
    exact ⟨rfl, neutral_putPacket _⟩

/-- The id `HW_CMD_BUFFER_DATA_CLEAR` is given. -/
def clearedId (param : RockitHWParamPairs) : UInt32 :=
  (getValue param RockitHWParamKey.dataBuffer.code).val.toUInt32

theorem control_dataClear (m : RockitHwMpi) (param : RockitHWParamPairs) :
    (control m 3 param).val.hal.dataList = (freeDataBuffer m.dataList (clearedId param)).1 ∧
      (control m 3 param).val.events = (freeDataBuffer m.dataList (clearedId param)).2 := by
  unfold control
  cases hctx : m.mCtx with
  | none =>
    have hl : m.dataList = [] := by
      rw [RockitHwMpi.dataList, hctx]
      rfl
    rw [hl]
    exact ⟨hl, rfl⟩
  | some ctx =>
    rw [dataList_of_ctx m ctx hctx]
    exact ⟨rfl, rfl⟩

/-- With distinct ids, a cleared id is gone with its mapping and its descriptor. -/
theorem control_dataClear_none (m : RockitHwMpi) (param : RockitHWParamPairs)
    (hd : Distinct DataBufferCtx.mUniqueID m.dataList) :
    (∀ b ∈ (control m 3 param).val.hal.dataList, b.mUniqueID ≠ clearedId param) ∧
      ∀ b ∈ m.dataList, b.mUniqueID = clearedId param →
        ∀ e ∈ b.delete, e ∈ (control m 3 param).val.events := by
  rw [(control_dataClear m param).1, (control_dataClear m param).2, freeDataBuffer_fst,
    freeDataBuffer_snd]
  refine ⟨hd.eraseP_ne _, fun b hb hid => ?_⟩
  rw [(hd.find?_eq_some_iff (clearedId param) b).mpr ⟨hb, hid⟩]
  exact fun e he => he

/-- The ids stay distinct over a packet that gets mapped exactly when it was to be. -/
theorem enqueue_distinct_iff (s : MpiRun) (replies : EnqueueReplies) (buffer : RockitHWBuffer)
    (hd : Distinct DataBufferCtx.mUniqueID s.hal.dataList) (hopen : s.hal.openCtx.isSome)
    (heos : (enqueueParams buffer.pair).val.eos = false) (b : DataBufferCtx)
    (events : List Event) (hmap : mapDataBuffer replies.drm buffer.bufferId = .ok (b, events)) :
    Distinct DataBufferCtx.mUniqueID (enqueue s.hal replies buffer).val.hal.dataList ↔
      FrontOrAbsent s.hal.dataList buffer.bufferId := by
  constructor
  · intro hd'
    cases hfind : findDataBuffer s.hal.dataList buffer.bufferId with
    | none =>
      rw [enqueue_miss s.hal replies buffer hopen heos hfind b events hmap, distinct_push,
        (mapDataBuffer_ok _ _ _ _ hmap).id] at hd'
      right
      exact hd'.2
    | some a =>
      left
      by_contra hno
      have hnone : findDataBuffer s.hal.dataList buffer.bufferId = none := by
        rw [findDataBuffer_eq_none_iff]
        intro c hc hid
        exact hno ⟨c, hc, hid⟩
      rw [hnone] at hfind
      cases hfind
  · intro hc
    have hstep := Call.dataStep s.hal (.enqueue replies buffer)
    exact hstep.distinct (s := s) (Or.inr hc) hd

/-! ## The map -/

/-- **The list is a map.**  While every packet with data has its id at the front or
not listed: no id occurs twice; a packet whose id is listed maps nothing and goes
out with that entry's data (an end-of-stream packet with none); a cleared id is
gone.  A packet that breaks the condition and gets mapped ends this. -/
theorem dataList_isMap (m : RockitHwMpi) (replies : InitReplies) (pairs : RockitHWParamPairs)
    (s : MpiRun) (hs : Reach MpiRun.step LookupWorks (.start m replies pairs) s) :
    Distinct DataBufferCtx.mUniqueID s.hal.dataList ∧
    (∀ replies buffer, LookupWorks s (.enqueue replies buffer) →
      ((enqueueParams buffer.pair).val.eos = false →
        ∀ b ∈ s.hal.dataList, b.mUniqueID = buffer.bufferId →
          (enqueue s.hal replies buffer).val.hal = s.hal ∧
          .packetInit b.mData buffer.length ∈ (enqueue s.hal replies buffer).val.events ∧
          ∀ e ∈ (enqueue s.hal replies buffer).val.events, e.Neutral) ∧
      ((enqueueParams buffer.pair).val.eos = true →
        (enqueue s.hal replies buffer).val.hal = s.hal ∧
        ∀ e ∈ (enqueue s.hal replies buffer).val.events, e.Neutral)) ∧
    (∀ param,
      (∀ b ∈ (control s.hal 3 param).val.hal.dataList, b.mUniqueID ≠ clearedId param) ∧
      ∀ b ∈ s.hal.dataList, b.mUniqueID = clearedId param →
        ∀ e ∈ b.delete, e ∈ (control s.hal 3 param).val.events) ∧
    (∀ replies buffer b events, s.hal.openCtx.isSome →
      (enqueueParams buffer.pair).val.eos = false →
      mapDataBuffer replies.drm buffer.bufferId = .ok (b, events) →
      (Distinct DataBufferCtx.mUniqueID (enqueue s.hal replies buffer).val.hal.dataList ↔
        FrontOrAbsent s.hal.dataList buffer.bufferId)) := by
  have hd := dataList_distinct m replies pairs hs
  refine ⟨hd, fun replies buffer hc => ⟨fun heos b hb hid => ?_, enqueue_eos s.hal replies buffer⟩,
    fun param => control_dataClear_none s.hal param hd,
    fun replies buffer b events hopen heos hmap =>
      enqueue_distinct_iff s replies buffer hd hopen heos b events hmap⟩
  have hopen : s.hal.openCtx.isSome := openCtx_of_listed m _ pairs hs hb
  have hfind : findDataBuffer s.hal.dataList buffer.bufferId = some b := by
    rcases hc with h | hfront
    · rw [heos] at h
      cases h
    · exact findDataBuffer_listed hd hfront hb hid
  rw [enqueue_hit s.hal replies buffer hopen heos b hfind]
  exact ⟨rfl, List.mem_cons_self, neutral_putPacket _⟩

/-! ## Three packets -/

def noPairs : RockitHWParamPairs := ⟨0, [], fun _ => ⟨0, 0⟩⟩

/-- Codec 1 at 16 by 16. -/
def codecPairs : RockitHWParamPairs := ⟨3, [⟨1, 1⟩, ⟨2, 16⟩, ⟨4, 16⟩], fun _ => ⟨0, 0⟩⟩

def initReplies : InitReplies := ⟨true, .ok 1, 0, .ok 1, fun _ => (16, 16)⟩

/-- Handle and descriptor as numbered, one page mapped at `addr`. -/
def pageAt (handle : UInt32) (fd : Int) (addr : Nat) : EnqueueReplies :=
  ⟨⟨.ok (handle, 4096), .ok fd, .ok 0, .ok addr, 4096⟩, 0⟩

/-- A packet of `length` bytes in buffer `id`. -/
def packet (id length : UInt32) : RockitHWBuffer := ⟨0, id, 4096, length, noPairs⟩

def startedRun : MpiRun := .start ⟨none, 3, 0, 0, false⟩ initReplies codecPairs

/-- Buffers 1 and 2 are mapped once each; the third packet is in buffer 1 again. -/
theorem dataList_isMap_two :
    ∃ s ∈ run MpiRun.step LookupWorks startedRun
        [.enqueue (pageAt 1 4 0x10000) (packet 1 10), .enqueue (pageAt 2 5 0x20000) (packet 2 10),
          .enqueue (pageAt 3 6 0x30000) (packet 1 10)],
      Distinct DataBufferCtx.mUniqueID s.hal.dataList ∧ s.hal.dataList.length = 2 :=
  ⟨_, Option.get_mem rfl, (dataList_isMap ⟨none, 3, 0, 0, false⟩ initReplies codecPairs _
    (Reach.of_run_get _ rfl)).1, by decide⟩

/-- `HW_CMD_BUFFER_DATA_CLEAR` of buffer 2. -/
def clearTwo : RockitHWParamPairs := ⟨1, [⟨13, 2⟩], fun _ => ⟨0, 0⟩⟩

/-- A second packet in buffer 2 maps it again, and clearing 2 leaves the second
mapping listed. -/
theorem dataList_twice :
    ∃ s, Reach MpiRun.step (fun _ _ => True) startedRun s ∧
      s.hal.dataList.map DataBufferCtx.mUniqueID = [1, 2, 2] ∧
      ¬ Distinct DataBufferCtx.mUniqueID s.hal.dataList ∧
      clearedId clearTwo = 2 ∧
      (control s.hal 3 clearTwo).val.hal.dataList.map DataBufferCtx.mUniqueID = [1, 2] := by
  refine ⟨_, Reach.of_run_get [.enqueue (pageAt 1 4 0x10000) (packet 1 10),
    .enqueue (pageAt 2 5 0x20000) (packet 2 10), .enqueue (pageAt 3 6 0x30000) (packet 2 10)] rfl,
    by decide, ?_, by decide, by decide⟩
  unfold Distinct
  decide

end RockchipHal.RockitHw
