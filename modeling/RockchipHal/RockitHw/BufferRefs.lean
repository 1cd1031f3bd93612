import RockchipHal.RockitHw.CommitList
import RockchipHal.RockitHw.DataList

/-!
# References on committed buffers

`mCommitList` is searched by id while references belong to buffer objects.  The
two agree (`Tracks`) as long as every call keeps them together (`KeepsTrack`): no
id is committed while it is listed, the decoder returns only the object listed
under its id, and the group is cleared only when the client has given back every
id that is not handed out.  Over such runs references are paired, and all are
dropped once the client has given back every id (`refs_paired`).  A second commit
of a listed id breaks it: the call succeeds, and its reference is never dropped.
-/

namespace RockchipHal.RockitHw

/-! ## The rules -/

/-- What is assumed of the client and of the MPP library: an import returns a
fresh object, a frame holds an imported one, and an id is given back at most as
often as it was received. -/
def MppOk (s : MpiRun) : Call → Prop
  | .commitBuffer replies _ => ∃ obj ∈ replies.importBuffer, ∀ b ∈ s.imported, b.obj ≠ obj
  | .dequeue (.ok (some f)) _ => ∀ b ∈ f.buffer, b ∈ s.imported
  | .giveBackBuffer buffer => 0 < outstanding s.received buffer.bufferId
  | _ => True

/-- The calls that keep ids and objects together. -/
def KeepsTrack (s : MpiRun) : Call → Prop
  | .commitBuffer _ buffer => ∀ e ∈ s.hal.commitList, e.mUniqueID ≠ buffer.bufferId
  | .dequeue (.ok (some f)) _ =>
    ∀ b ∈ f.media, ∃ e ∈ s.hal.commitList, e.mUniqueID = b.index ∧ e.mMppBuffer = some b
  | .control cmd _ =>
    RockitHWCtrCmd.ofInt cmd = some .bufferGroupClear →
      ∀ e ∈ s.hal.commitList, e.mSite = .byMpi → outstanding s.received e.mUniqueID = 0
  | _ => True

instance (s : MpiRun) : (c : Call) → Decidable (MppOk s c)
  | .commitBuffer replies _ =>
    inferInstanceAs (Decidable (∃ obj ∈ replies.importBuffer, ∀ b ∈ s.imported, b.obj ≠ obj))
  | .dequeue (.ok (some f)) _ => inferInstanceAs (Decidable (∀ b ∈ f.buffer, b ∈ s.imported))
  | .giveBackBuffer buffer =>
    inferInstanceAs (Decidable (0 < outstanding s.received buffer.bufferId))
  | .dequeue (.ok none) _ | .dequeue (.error _) _ | .enqueue _ _ | .reset _ | .flush _
  | .control _ _ | .query _ _ _ => inferInstanceAs (Decidable True)

instance (s : MpiRun) : (c : Call) → Decidable (KeepsTrack s c)
  | .commitBuffer _ buffer =>
    inferInstanceAs (Decidable (∀ e ∈ s.hal.commitList, e.mUniqueID ≠ buffer.bufferId))
  | .dequeue (.ok (some f)) _ =>
    inferInstanceAs (Decidable (∀ b ∈ f.media,
      ∃ e ∈ s.hal.commitList, e.mUniqueID = b.index ∧ e.mMppBuffer = some b))
  | .control cmd _ =>
    inferInstanceAs (Decidable (RockitHWCtrCmd.ofInt cmd = some .bufferGroupClear →
      ∀ e ∈ s.hal.commitList, e.mSite = .byMpi → outstanding s.received e.mUniqueID = 0))
  | .dequeue (.ok none) _ | .dequeue (.error _) _ | .enqueue _ _ | .giveBackBuffer _ | .reset _
  | .flush _ | .query _ _ _ => inferInstanceAs (Decidable True)

/-! ## Listed objects -/

/-- The objects of the entries. -/
def heldBuffers (l : List MppBufferCtx) : List MppBuffer := l.filterMap MppBufferCtx.mMppBuffer

/-- Each entry has an object, the one imported under its id. -/
def EntriesImported (l : List MppBufferCtx) : Prop :=
  ∀ e ∈ l, ∃ b, e.mMppBuffer = some b ∧ b.index = e.mUniqueID

theorem mem_heldBuffers (l : List MppBufferCtx) (b : MppBuffer) :
    b ∈ heldBuffers l ↔ ∃ e ∈ l, e.mMppBuffer = some b := List.mem_filterMap

/-- The entry an object belongs to has the id it was imported under. -/
theorem EntriesImported.entry {l : List MppBufferCtx} (hl : EntriesImported l) {b : MppBuffer}
    (hb : b ∈ heldBuffers l) : ∃ e ∈ l, e.mMppBuffer = some b ∧ b.index = e.mUniqueID := by
  obtain ⟨e, he, heb⟩ := (mem_heldBuffers l b).mp hb
  obtain ⟨b', hb', hid⟩ := hl e he
  rw [heb] at hb'
  rw [Option.some.inj hb']
  exact ⟨e, he, heb.trans hb', hid⟩

/-- Changing the site of an entry changes neither its id nor its object. -/
theorem modifySite_pairs (l : List MppBufferCtx) (id : UInt32) (site : BufferSite) :
    (modifyMppBuffer l id fun e => { e with mSite := site }).map
      (fun e => (e.mUniqueID, e.mMppBuffer)) = l.map fun e => (e.mUniqueID, e.mMppBuffer) :=
  map_modifyKey _ id _ l fun _ _ _ => rfl

theorem heldBuffers_modifySite (l : List MppBufferCtx) (id : UInt32) (site : BufferSite) :
    heldBuffers (modifyMppBuffer l id fun e => { e with mSite := site }) = heldBuffers l := by
  have h : ∀ l' : List MppBufferCtx,
      heldBuffers l' = (l'.map fun e => (e.mUniqueID, e.mMppBuffer)).filterMap Prod.snd := by
    intro l'
    rw [List.filterMap_map]
    rfl
  rw [h, modifySite_pairs, ← h]

theorem entriesImported_modifySite (l : List MppBufferCtx) (id : UInt32) (site : BufferSite)
    (hl : EntriesImported l) :
    EntriesImported (modifyMppBuffer l id fun e => { e with mSite := site }) := by
  intro e he
  have hp : (e.mUniqueID, e.mMppBuffer) ∈ l.map fun e => (e.mUniqueID, e.mMppBuffer) := by
    rw [← modifySite_pairs l id site]
    exact List.mem_map.mpr ⟨e, he, rfl⟩
  obtain ⟨e', he', heq⟩ := List.mem_map.mp hp
  obtain ⟨hid, hbuf⟩ := Prod.mk.inj heq
  rw [← hid, ← hbuf]
  exact hl e' he'

theorem findMppBuffer_some (l : List MppBufferCtx) (id : UInt32) (e : MppBufferCtx)
    (h : findMppBuffer l id = some e) : e ∈ l ∧ e.mUniqueID = id :=
  ⟨List.mem_of_find?_eq_some h, by simpa using List.find?_some h⟩

/-! ## The invariant -/

/-- Ids, objects and both ledgers agree. -/
structure RefsTracked (l : List MppBufferCtx) (refs : List (Tx MppBuffer))
    (received : List (Tx UInt32)) : Prop where
  imported : EntriesImported l
  tracks : Tracks MppBuffer.index (heldBuffers l) refs received

namespace RefsTracked

variable {l : List MppBufferCtx} {refs : List (Tx MppBuffer)} {received : List (Tx UInt32)}

/-- A new id is listed with a fresh object. -/
theorem commit (hi : RefsTracked l refs received) {id : UInt32} (hid : ∀ e ∈ l, e.mUniqueID ≠ id)
    (fd : Int) (obj : Nat) :
    RefsTracked (l ++ [⟨fd, id, some ⟨obj, id⟩, .byMpi⟩]) (refs ++ [.acquire ⟨obj, id⟩])
      (received ++ [.acquire id]) := by
  refine ⟨fun e he => ?_, ?_⟩
  · rcases List.mem_append.mp he with he | he
    · exact hi.imported e he
    · rw [List.mem_singleton.mp he]
      exact ⟨⟨obj, id⟩, rfl, rfl⟩
  · have hnew : ∀ b ∈ heldBuffers l, b.index ≠ id := by
      intro b hb
      obtain ⟨e, he, -, hbid⟩ := hi.imported.entry hb
      rw [hbid]
      exact hid e he
    have hheld : heldBuffers (l ++ [⟨fd, id, some ⟨obj, id⟩, .byMpi⟩]) =
        heldBuffers l ++ [⟨obj, id⟩] := List.filterMap_append
    rw [hheld]
    exact (hi.tracks.extend hnew).acquire (b := ⟨obj, id⟩)
      (List.mem_append_right _ List.mem_cons_self)

/-- A listed object is handed out under its id. -/
theorem handOut (hi : RefsTracked l refs received) {b : MppBuffer} (hb : b ∈ heldBuffers l)
    (site : BufferSite) :
    RefsTracked (modifyMppBuffer l b.index fun e => { e with mSite := site })
      (refs ++ [.acquire b]) (received ++ [.acquire b.index]) := by
  refine ⟨entriesImported_modifySite _ _ _ hi.imported, ?_⟩
  rw [heldBuffers_modifySite]
  exact hi.tracks.acquire hb

/-- An object is put back under its id, of which one is outstanding. -/
theorem putBack (hi : RefsTracked l refs received) {b : MppBuffer} (hb : b ∈ heldBuffers l)
    (hpos : 0 < outstanding received b.index) (site : BufferSite) :
    RefsTracked (modifyMppBuffer l b.index fun e => { e with mSite := site })
      (refs ++ [.release b]) (received ++ [.release b.index]) := by
  refine ⟨entriesImported_modifySite _ _ _ hi.imported, ?_⟩
  rw [heldBuffers_modifySite]
  exact hi.tracks.release hb hpos

/-- An id with one outstanding is listed. -/
theorem listed (hi : RefsTracked l refs received) {id : UInt32}
    (hpos : 0 < outstanding received id) : ∃ e ∈ l, e.mUniqueID = id := by
  obtain ⟨b, hb, hbid⟩ := hi.tracks.held_of_pos hpos
  obtain ⟨e, he, -, hid⟩ := hi.imported.entry hb
  exact ⟨e, he, hid.symm.trans hbid⟩

/-- Entries of which nothing is outstanding are unlisted. -/
theorem unlist (hi : RefsTracked l refs received) (p : MppBufferCtx → Bool)
    (hgone : ∀ e ∈ l, p e = false → outstanding received e.mUniqueID = 0) :
    RefsTracked (l.filter p) refs received := by
  refine ⟨fun e he => hi.imported e (List.mem_filter.mp he).1,
    hi.tracks.sublist (List.filter_sublist.filterMap _) fun b hb hb' => ?_⟩
  obtain ⟨e, he, heb, hid⟩ := hi.imported.entry hb
  have hp : p e = false := by
    by_contra hp
    refine hb' ((mem_heldBuffers _ b).mpr ⟨e, ?_, heb⟩)
    rw [List.mem_filter]
    exact ⟨he, by simpa using hp⟩
  rw [hid]
  exact hgone e he hp

end RefsTracked

theorem CommitStep.tracked {s : MpiRun} {c : Call} {l : List MppBufferCtx}
    {refs : List (Tx MppBuffer)} {received : List (Tx UInt32)}
    (h : CommitStep s.hal c l refs received) (hok : MppOk s c) (hk : KeepsTrack s c)
    (hi : RefsTracked s.hal.commitList s.refs s.received) :
    RefsTracked l (s.refs ++ refs) (s.received ++ received) := by
  cases h with
  | keep =>
    rw [List.append_nil, List.append_nil]
    exact hi
  | @commit replies buffer fd call =>
    subst call
    obtain ⟨obj, hobj, -⟩ := hok
    have hnone : findMppBuffer s.hal.commitList buffer.bufferId = none :=
      (find?_eq_none_iff_key _ _).mpr hk
    rw [hnone, Option.mem_def.mp hobj]
    exact hi.commit hk fd obj
  | @dequeue f hwBuffer b call media =>
    subst call
    obtain ⟨e, he, -, heb⟩ := hk b media
    exact hi.handOut ((mem_heldBuffers _ b).mpr ⟨e, he, heb⟩) _
  | @giveBack buffer e call found =>
    subst call
    obtain ⟨he, hid⟩ := findMppBuffer_some _ _ _ found
    obtain ⟨b, heb, hbid⟩ := hi.imported e he
    have hb : b.index = buffer.bufferId := hbid.trans hid
    have hpos : 0 < outstanding s.received b.index := by
      rw [hb]
      exact hok
    rw [heb, ← hb]
    exact hi.putBack ((mem_heldBuffers _ b).mpr ⟨e, he, heb⟩) hpos _
  | @giveBackNone buffer call absent =>
    subst call
    obtain ⟨e, he, hid⟩ := hi.listed hok
    exact absurd hid ((find?_eq_none_iff_key _ _).mp absent e he)
  | @clear cmd param call isClear =>
    subst call
    rw [cleanMppBuffer_eq, List.append_nil, List.append_nil]
    refine hi.unlist _ fun e he hsite => ?_
    exact hk isClear e he (by simpa using hsite)

theorem refs_tracked (m : RockitHwMpi) (replies : InitReplies) (pairs : RockitHWParamPairs)
    {s : MpiRun}
    (hs : Reach MpiRun.step (fun s c => MppOk s c ∧ KeepsTrack s c) (.start m replies pairs) s) :
    RefsTracked s.hal.commitList s.refs s.received := by
  refine hs.inv (fun s => RefsTracked s.hal.commitList s.refs s.received) ?_ ?_
  · rw [(start_lists m replies pairs).2]
    exact ⟨by simp [EntriesImported], Tracks.nil⟩
  · rintro s c s' hi ⟨hok, hk⟩ ⟨⟩
    rw [refs_after, received_after]
    exact CommitStep.tracked (Call.commitStep s.hal c) hok hk hi

/-- **References are paired.**  While every call keeps ids and objects together,
every reference `giveBackBuffer` drops is outstanding on that object under that
id, and none is left once the client has given back every id it received. -/
theorem refs_paired (m : RockitHwMpi) (replies : InitReplies) (pairs : RockitHWParamPairs)
    (s : MpiRun)
    (hs : Reach MpiRun.step (fun s c => MppOk s c ∧ KeepsTrack s c) (.start m replies pairs) s) :
    Paired s.refs ∧ (Settled s.received → Settled s.refs) :=
  ⟨(refs_tracked m replies pairs hs).tracks.paired, (refs_tracked m replies pairs hs).tracks.settled⟩

/-! ## A commit, and a second one -/

/-- Opens the buffer and imports it as `obj`. -/
def importsAs (obj : Nat) : CommitReplies :=
  ⟨⟨.ok (1, 4096), .ok 4, .ok 0, .ok 0x10000, 4096⟩, some obj⟩

/-- A decoded frame in buffer object 1. -/
def frameOne : MppFrame :=
  ⟨false, false, some ⟨1, 1⟩, 16, 16, 16, 16, 0, 0, false, false, 0⟩

/-- Committed, given back, handed out, given back, cleared. -/
theorem refs_paired_once :
    ∃ s ∈ run MpiRun.step (fun s c => MppOk s c ∧ KeepsTrack s c) startedRun
        [.commitBuffer (importsAs 1) (packet 1 0), .giveBackBuffer (packet 1 0),
          .dequeue (.ok (some frameOne)) (packet 0 0), .giveBackBuffer (packet 1 0),
          .control 1 noPairs],
      s.refs.length = 4 ∧ Paired s.refs :=
  ⟨_, Option.get_mem rfl, by decide,
    (refs_paired ⟨none, 3, 0, 0, false⟩ initReplies codecPairs _ (Reach.of_run_get _ rfl)).1⟩

/-- Buffer 1 is committed twice and given back twice: both references dropped are
on the first object, and the second object's is never dropped. -/
theorem refs_committed_twice :
    ∃ s, Reach MpiRun.step MppOk startedRun s ∧ ¬ Paired s.refs ∧
      Settled s.received ∧ ¬ Settled s.refs := by
  refine ⟨_, Reach.of_run_get [.commitBuffer (importsAs 1) (packet 1 0),
    .commitBuffer (importsAs 2) (packet 1 0), .giveBackBuffer (packet 1 0),
    .giveBackBuffer (packet 1 0)] rfl, ?_, ?_, ?_⟩
  · intro h
    exact absurd (h [.acquire ⟨1, 1⟩, .acquire ⟨2, 1⟩, .release ⟨1, 1⟩] ⟨1, 1⟩ [] rfl) (by decide)
  · intro id
    show outstanding [.acquire 1, .acquire 1, .release 1, .release 1] id = 0
    by_cases h : (1 : UInt32) = id
    · rw [← h]
      decide
    · simp [outstanding, h]
  · intro h
    exact absurd (h ⟨2, 1⟩) (by decide)

end RockchipHal.RockitHw
