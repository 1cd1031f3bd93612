import RockchipHal.Lib.Ledger
import RockchipHal.Sound.EdidFormats

/-!
# What the cycles of EDID parsing give back

`updataFormatForAutoMode` initialises a result structure of its own, parses the EDID of
the sink into it, and destroys it.  Every audio data block that names a format allocates
an array; destroying the structure frees the one it holds at the end.

    events of a cycle = fopen :: (one malloc per array) ++ free of the last array

(`cycleEvents_opens`).  The file is closed by nothing, so a cycle gives everything back
exactly when no file opened (`cycles_released_iff`); its arrays alone it gives back
exactly when there is at most one (`arrays_released_iff`).
-/

namespace RockchipHal.Sound

/-! ## One cycle -/

/-- What a cycle acquires. -/
inductive Resource
  | array (addr : Nat)
  | file (file : Nat)
deriving DecidableEq, Repr

/-- No event releases a file: the parser has no `fclose`. -/
def Event.tx : Event → Tx Resource
  | .malloc addr => .acquire (.array addr)
  | .free addr => .release (.array addr)
  | .fopen file => .acquire (.file file)

def destoryHdmiAudio (s : Session) : Session where
  infor := { number := 0, channelLayout := -1, audio := none }
  mallocs := s.mallocs
  files := s.files
  events := s.events ++ s.infor.audio.toList.map fun audio => .free audio.addr

/-- `updataFormatForAutoMode` between its first and its last line, with a structure on
the stack; what it does to the settings acquires nothing. -/
def cycle (s : Session) (node : HdmiNode) : Session :=
  destoryHdmiAudio (parseHdmiAudio node { s with infor := initHdmiAudio }).val.2

def cycleEvents (s : Session) (node : HdmiNode) : List Event :=
  (cycle s node).events.drop s.events.length

/-- Everything acquired was released exactly once. -/
def Released (events : List Event) : Prop := GivesBack (events.map Event.tx)

/-! ## What the parse allocates -/

/-- From `s` to `s'` the arrays at `addrs` were allocated, nothing else was acquired or
released, and the last of them, if any, is held. -/
structure Allocates (s s' : Session) (addrs : List Nat) : Prop where
  events : s'.events = s.events ++ addrs.map Event.malloc
  held : s'.infor.audio.map (·.addr) = addrs.getLast?.or (s.infor.audio.map (·.addr))
  le : s.mallocs ≤ s'.mallocs
  fresh : ∀ a ∈ addrs, s.mallocs ≤ a ∧ a < s'.mallocs
  nodup : addrs.Nodup

namespace Allocates

variable {s s' s'' : Session} {addrs addrs' : List Nat}

theorem nil (hevents : s'.events = s.events) (haudio : s'.infor.audio = s.infor.audio)
    (hle : s.mallocs ≤ s'.mallocs) : Allocates s s' [] where
  events := by rw [hevents, List.map_nil, List.append_nil]
  held := by rw [haudio, List.getLast?_nil, Option.none_or]
  le := hle
  fresh := by simp
  nodup := List.nodup_nil

theorem refl (s : Session) : Allocates s s [] := nil rfl rfl (Nat.le_refl _)

theorem trans (h : Allocates s s' addrs) (h' : Allocates s' s'' addrs') :
    Allocates s s'' (addrs ++ addrs') where
  events := by rw [h'.events, h.events, List.map_append, List.append_assoc]
  held := by rw [h'.held, h.held, List.getLast?_append, Option.or_assoc]
  le := Nat.le_trans h.le h'.le
  fresh := by
    intro a ha
    rcases List.mem_append.mp ha with ha | ha
    · have hold := h.fresh a ha
      have hle := h'.le
      omega
    · have hnew := h'.fresh a ha
      have hle := h.le
      omega
  nodup := by
    refine List.nodup_append.mpr ⟨h.nodup, h'.nodup, ?_⟩
    intro a ha b hb hab
    have hold := h.fresh a ha
    have hnew := h'.fresh b hb
    omega

end Allocates

theorem ceaAudio_allocates (mallocOk : Nat → Bool) (buf : Block) (off : Nat) (s : Session) :
    ∃ addrs, Allocates s (hdmiEdidParseCeaAudio mallocOk buf off s).val.2 addrs := by
  unfold hdmiEdidParseCeaAudio
  rw [Reads.val_bind]
  by_cases hcount : payloadLength (buf.read off).val / 3 > 0
  · rw [if_pos hcount]
    by_cases hm : mallocOk s.mallocs = true
    · rw [if_pos hm]
      refine ⟨[s.mallocs], rfl, rfl, Nat.le_succ _, ?_, List.nodup_singleton _⟩
      intro a ha
      rw [List.mem_singleton.mp ha]
      exact ⟨Nat.le_refl _, Nat.lt_succ_self _⟩
    · rw [if_neg hm]
      exact ⟨[], Allocates.nil rfl rfl (Nat.le_succ _)⟩
  · rw [if_neg hcount]
    exact ⟨[], Allocates.refl s⟩

theorem parseDataBlock_allocates (mallocOk : Nat → Bool) (buf : Block) (cur : Nat)
    (s : Session) : ∃ addrs, Allocates s (parseDataBlock mallocOk buf cur s).val addrs := by
  show ∃ addrs, Allocates s (switchTag mallocOk buf cur s (buf.get cur >>> 5)).val addrs
  unfold switchTag
  split
  · exact ceaAudio_allocates mallocOk buf cur s
  · split
    · exact ⟨[], Allocates.nil rfl rfl (Nat.le_refl _)⟩
    · split
      · exact ⟨[], Allocates.refl s⟩
      · exact ⟨[], Allocates.refl s⟩

theorem dataBlocks_allocates (mallocOk : Nat → Bool) (buf : Block) (ddc fuel cur : Nat)
    (s : Session) : ∃ addrs, Allocates s (dataBlocks mallocOk buf ddc fuel cur s).val addrs := by
  induction fuel generalizing cur s with
  | zero => exact ⟨[], Allocates.refl s⟩
  | succ fuel ih =>
    unfold dataBlocks
    split
    · obtain ⟨addrs, hblock⟩ := parseDataBlock_allocates mallocOk buf cur s
      rw [Reads.val_bind, Reads.val_bind]
      obtain ⟨addrs', hrest⟩ := ih _ (parseDataBlock mallocOk buf cur s).val
      exact ⟨addrs ++ addrs', hblock.trans hrest⟩
    · exact ⟨[], Allocates.refl s⟩

theorem extensionBlocks_allocates (node : HdmiNode) (blocks k : Nat) (s : Session) :
    ∃ addrs, Allocates s (extensionBlocks node blocks k s).val addrs := by
  induction blocks generalizing k s with
  | zero => exact ⟨[], Allocates.refl s⟩
  | succ blocks ih =>
    unfold extensionBlocks
    split
    · have hext : ∃ addrs, Allocates s
          (hdmiEdidParseExtensions node.mallocOk (node.buffer (node.fread k)) s).val.2 addrs := by
        rw [parseExtensions_val]
        split
        · exact dataBlocks_allocates _ _ _ _ _ s
        · exact ⟨[], Allocates.refl s⟩
      obtain ⟨addrs, hext⟩ := hext
      rw [Reads.val_bind]
      obtain ⟨addrs', hrest⟩ := ih (k + 1) _
      exact ⟨addrs ++ addrs', hext.trans hrest⟩
    · exact ⟨[], Allocates.refl s⟩

/-! ## The events of a cycle -/

def HdmiNode.Opens (node : HdmiNode) : Prop := node.hdmiEdid ∨ node.drmEdid

instance (node : HdmiNode) : Decidable node.Opens :=
  inferInstanceAs (Decidable (node.hdmiEdid ∨ node.drmEdid))

theorem parseHdmiAudio_closed {node : HdmiNode} (h : ¬ node.Opens) (s : Session) :
    (parseHdmiAudio node s).val.2 = s := by
  unfold HdmiNode.Opens at h
  unfold parseHdmiAudio
  rw [if_neg h]
  rfl

theorem parseHdmiAudio_allocates {node : HdmiNode} (h : node.Opens) (s : Session) :
    ∃ addrs, Allocates s.fopened (parseHdmiAudio node s).val.2 addrs := by
  unfold HdmiNode.Opens at h
  unfold parseHdmiAudio
  rw [if_pos h]
  exact extensionBlocks_allocates node _ _ s.fopened

theorem cycleEvents_closed {node : HdmiNode} (h : ¬ node.Opens) (s : Session) :
    cycleEvents s node = [] := by
  unfold cycleEvents cycle
  rw [parseHdmiAudio_closed h]
  show (s.events ++ []).drop s.events.length = []
  rw [List.append_nil, List.drop_length]

/-- A file that opened, the arrays in turn, and a `free` of the last. -/
theorem cycleEvents_opens {node : HdmiNode} (h : node.Opens) (s : Session) :
    ∃ addrs : List Nat, addrs.Nodup ∧
      cycleEvents s node =
        .fopen s.files :: (addrs.map .malloc ++ addrs.getLast?.toList.map .free) := by
  obtain ⟨addrs, halloc⟩ := parseHdmiAudio_allocates h { s with infor := initHdmiAudio }
  have hheld : (parseHdmiAudio node { s with infor := initHdmiAudio }).val.2.infor.audio.map
      (·.addr) = addrs.getLast? := by
    rw [halloc.held]
    exact Option.or_none
  have hfreed : (parseHdmiAudio node { s with infor := initHdmiAudio }).val.2.infor.audio.toList.map
      (fun audio => Event.free audio.addr) = addrs.getLast?.toList.map .free := by
    rw [← hheld, Option.toList_map, List.map_map]
    rfl
  refine ⟨addrs, halloc.nodup, ?_⟩
  unfold cycleEvents cycle destoryHdmiAudio
  rw [hfreed, halloc.events]
  show (s.events ++ [Event.fopen s.files] ++ addrs.map Event.malloc ++ _).drop s.events.length = _
  rw [List.append_assoc, List.append_assoc, List.drop_left]
  rfl

/-! ## Exactly when everything is released -/

theorem count_release_file (events : List Event) (file : Nat) :
    (events.map Event.tx).count (Tx.release (Resource.file file)) = 0 := by
  apply List.count_eq_zero.mpr
  intro hmem
  obtain ⟨e, -, he⟩ := List.mem_map.mp hmem
  cases e with
  | malloc addr => cases he
  | free addr => cases he
  | fopen file => cases he

theorem cycle_released_iff (s : Session) (node : HdmiNode) :
    Released (cycleEvents s node) ↔ ¬ node.Opens := by
  constructor
  · intro hreleased hopens
    obtain ⟨addrs, -, hevents⟩ := cycleEvents_opens hopens s
    have hfile : Tx.acquire (Resource.file s.files) ∈ (cycleEvents s node).map Event.tx := by
      rw [hevents]
      exact List.mem_cons_self
    obtain ⟨-, hone⟩ := hreleased.once _ hfile
    rw [count_release_file] at hone
    exact absurd hone (by decide)
  · intro hclosed
    unfold Released
    rw [cycleEvents_closed hclosed]
    exact GivesBack.nil

/-- However the cycles follow each other, each gives back what it acquired exactly when in
none of them a file opens. -/
theorem cycles_released_iff (nodes : List HdmiNode) :
    (∀ before node after, nodes = before ++ node :: after →
        Released (cycleEvents (before.foldl cycle Session.init) node)) ↔
      ∀ node ∈ nodes, ¬ node.Opens := by
  constructor
  · intro h node hnode
    obtain ⟨before, after, hsplit⟩ := List.append_of_mem hnode
    exact (cycle_released_iff _ node).mp (h before node after hsplit)
  · rintro h before node after rfl
    exact (cycle_released_iff _ node).mpr (h node (by simp))

/-- An EDID with one audio data block, read twice. -/
theorem cycles_leak :
    ¬ ∀ (nodes : List HdmiNode) (before : List HdmiNode) (node : HdmiNode)
        (after : List HdmiNode), nodes = before ++ node :: after →
      Released (cycleEvents (before.foldl cycle Session.init) node) := by
  intro h
  have hreleased := h [nodeOf lpcmEdid, nodeOf lpcmEdid] [nodeOf lpcmEdid] (nodeOf lpcmEdid) [] rfl
  obtain ⟨-, hfile⟩ := hreleased.once (.file 1) (by decide +kernel)
  rw [count_release_file] at hfile
  exact absurd hfile (by decide)

/-- The array an event allocates. -/
def Event.malloced : Event → Option Nat
  | .malloc addr => some addr
  | .free _ => none
  | .fopen _ => none

/-- The arrays allocated in a cycle. -/
def cycleArrays (s : Session) (node : HdmiNode) : List Nat :=
  (cycleEvents s node).filterMap Event.malloced

theorem filterMap_malloced (file : Nat) (addrs freed : List Nat) :
    (Event.fopen file :: (addrs.map Event.malloc ++ freed.map Event.free)).filterMap
      Event.malloced = addrs := by
  have hfreed : (freed.map Event.free).filterMap Event.malloced = [] :=
    List.filterMap_eq_nil_iff.mpr fun e he => by
      obtain ⟨addr, -, rfl⟩ := List.mem_map.mp he
      rfl
  rw [List.filterMap_cons_none rfl, List.filterMap_append, hfreed, List.append_nil,
    List.filterMap_map]
  exact List.filterMap_some

theorem cycleArrays_freed (s : Session) (node : HdmiNode) :
    (cycleArrays s node).Nodup ∧
      ∀ addr, (cycleEvents s node).count (.free addr) =
        (cycleArrays s node).getLast?.toList.count addr := by
  by_cases h : node.Opens
  · obtain ⟨addrs, hnodup, hevents⟩ := cycleEvents_opens h s
    have harrays : cycleArrays s node = addrs := by
      unfold cycleArrays
      rw [hevents, filterMap_malloced]
    rw [harrays, hevents]
    refine ⟨hnodup, fun addr => ?_⟩
    have hmallocs : (addrs.map Event.malloc).count (.free addr) = 0 := by
      apply List.count_eq_zero.mpr
      simp
    rw [List.count_cons_of_ne (by simp), List.count_append, hmallocs, Nat.zero_add]
    cases addrs.getLast? with
    | none => rfl
    | some last => simp [List.count_singleton]
  · have hnone := cycleEvents_closed h s
    unfold cycleArrays
    rw [hnone]
    exact ⟨List.nodup_nil, fun _ => rfl⟩

/-- Of the arrays of a cycle the last is freed, and only that one: all are exactly when
there is at most one. -/
theorem arrays_released_iff (s : Session) (node : HdmiNode) :
    (∀ addr ∈ cycleArrays s node, (cycleEvents s node).count (.free addr) = 1) ↔
      (cycleArrays s node).length ≤ 1 := by
  obtain ⟨hnodup, hfreed⟩ := cycleArrays_freed s node
  simp only [hfreed]
  generalize cycleArrays s node = addrs at hnodup ⊢
  rcases addrs with _ | ⟨addr, _ | ⟨next, more⟩⟩
  · simp
  · simp
  · constructor
    · intro hall
      have hfirst := hall addr List.mem_cons_self
      have hlast : (addr :: next :: more).getLast? = some ((next :: more).getLast (by simp)) := by
        rw [List.getLast?_cons_cons, List.getLast?_eq_some_getLast]
      have hmem : (next :: more).getLast (by simp) ∈ next :: more := List.getLast_mem _
      have hne : (next :: more).getLast (by simp) ≠ addr := by
        intro heq
        rw [heq] at hmem
        exact (List.nodup_cons.mp hnodup).1 hmem
      rw [hlast, Option.toList_some, List.count_singleton] at hfirst
      simp [hne] at hfirst
    · intro hlen
      simp at hlen

end RockchipHal.Sound
