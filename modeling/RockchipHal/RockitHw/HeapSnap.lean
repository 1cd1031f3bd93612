import RockchipHal.Lib.Sorting

/-!
# `heapsnap`: the order of a snapshot

`heapsnap_save` sorts the allocation records with `qsort`, the largest first and then by their
backtraces, and writes a line for each.  `compareHeapRecords` stops at a frame that is 0 in both, so
that records are equal to it when they have the same size and the same frames up to there; how often
such a record was allocated it does not compare.  Below a record stand its frames with their
symbols; of a frame that `dladdr` does not know and that is in no mapping the name is read from a
`Dl_info` that nothing wrote.

The records have as many frames as the C library says, which need not be the 32 that are compared:
a mismatch is logged, and no more.  Of longer backtraces all frames are written.  Behind shorter
ones the comparison reads on; what it finds there says nothing about the records, so that those with
the same frames may be left in any order.

The order is total, and what is written is decided by the records exactly when any two that are
equal to it are written alike, and every frame has a name         (snapshot_decided_iff).
With 32 frames or fewer the former is about their counts only     (shownAlike_of_le).
-/

namespace RockchipHal.RockitHw

/-- `BACKTRACE_SIZE` -/
def backtraceSize : Nat := 32

/-- A record of `get_malloc_leak_info`, which gives `n` frames. -/
structure HeapRecord (n : Nat) where
  size : Nat
  allocations : Nat
  /-- `intptr_t`s -/
  backtrace : List Int
  full : backtrace.length = n

variable {n : Nat}

/-- The loop over the frames, from one on. -/
def compareFrames : List Int → List Int → Int
  | addr1 :: bt1, addr2 :: bt2 =>
    if addr1 = addr2 then
      if addr1 = 0 then 0 else compareFrames bt1 bt2
    else if addr1 < addr2 then -1
    else 1
  | _, _ => 0

def compareHeapRecords (rec1 rec2 : HeapRecord n) : Int :=
  if rec1.size < rec2.size then 1
  else if rec1.size > rec2.size then -1
  else compareFrames (rec1.backtrace.take backtraceSize) (rec2.backtrace.take backtraceSize)

/-! ## What is written -/

/-- `backtrace[bt]` up to a 0. -/
def HeapRecord.frames (r : HeapRecord n) : List Int := r.backtrace.takeWhile (· ≠ 0)

/-- The frames that are compared. -/
def HeapRecord.compared (r : HeapRecord n) : List Int :=
  (r.backtrace.take backtraceSize).takeWhile (· ≠ 0)

/-- `size & ~SIZE_FLAG_ZYGOTE_CHILD`, of which `%8i` shows 32 bits. -/
def HeapRecord.shownSize (r : HeapRecord n) : Nat := r.size &&& 0x7fffffff

/-- `%4i` shows 32 bits. -/
def HeapRecord.shownCount (r : HeapRecord n) : Int32 := Int32.ofNat r.allocations

/-- `mapinfo_t`, a line of `/proc/<pid>/maps` -/
structure MapInfo where
  start : Nat
  stop : Nat
  name : String

/-- `start <= pc < end` -/
def MapInfo.Contains (mi : MapInfo) (pc : Nat) : Prop := mi.start ≤ pc ∧ pc < mi.stop

instance (mi : MapInfo) (pc : Nat) : Decidable (mi.Contains pc) :=
  inferInstanceAs (Decidable (_ ∧ _))

/-- `Dl_info`; the names may be `NULL`. -/
structure DlInfo where
  fname : Option String
  sname : Option String
  saddr : Nat

/-- What a dump asks about the frames. -/
structure SymbolSource where
  mapInfo : List MapInfo
  dladdr : Nat → Option DlInfo
  demangle : String → Option String

/-- The mapping and `*rel_pc`. -/
def mapinfoFind (mi : List MapInfo) (pc : Nat) : Option MapInfo × Nat :=
  match mi.find? fun m => decide (m.Contains pc) with
  | some m => (some m, pc - m.start)
  | none => (none, pc)

/-- Mapping and `rel_pc`, which without mappings is the offset. -/
def SymbolSource.mapping (src : SymbolSource) (pc offset : Nat) : Option MapInfo × Nat :=
  if src.mapInfo.isEmpty then (none, offset) else mapinfoFind src.mapInfo pc

/-- A frame as `uintptr_t` -/
def pcOf (addr : Int) : Nat := (addr % 0x10000000000000000).toNat

/-- A line of `dump_backtrace_symbols`; `%08x` and `%d` show 32 bits. -/
structure SymbolLine where
  index : Nat
  relPc : Nat
  soname : String
  symbol : Option (String × Int32)
deriving DecidableEq

/-- `unwritten` is what `info.dli_fname` points to where `dladdr` wrote nothing. -/
def symbolLine (src : SymbolSource) (unwritten : Option String) (i : Nat) (addr : Int) :
    SymbolLine :=
  let info := src.dladdr (pcOf addr)
  let offset := info.elim 0 DlInfo.saddr
  let found := src.mapping (pcOf addr) offset
  let soname := found.1.elim (info.elim unwritten DlInfo.fname) fun mi => some mi.name
  let symbol := (info.bind DlInfo.sname).map fun symbol =>
    ((src.demangle symbol).getD symbol, Int32.ofInt (pcOf addr - offset))
  ⟨i, found.2 % 0x100000000, soname.getD "<unknown>", symbol⟩

def dumpBacktraceSymbols (src : SymbolSource) (unwritten : Nat → Option String)
    (frames : List Int) : List SymbolLine :=
  frames.mapIdx fun i addr => symbolLine src (unwritten i) i addr

/-- The lines for a record. -/
structure RecordText where
  size : Nat
  count : Int32
  frames : List Int
  symbols : List SymbolLine
deriving DecidableEq

/-- `0x%08x` shows 32 bits. -/
def recordText (src : SymbolSource) (unwritten : Nat → Option String) (r : HeapRecord n) :
    RecordText :=
  ⟨r.shownSize, r.shownCount, r.frames.map (· % 0x100000000),
    dumpBacktraceSymbols src unwritten r.frames⟩

/-- How `heapsnap_save` ends: with nothing to write, with no file to write to, for which `info` is
not given back, or with the records written. -/
inductive Snapshot
  | empty
  | noFile
  | written (totalMemory recordCount : Nat) (records : List RecordText)
deriving DecidableEq

/-- `sorted` is `info` after the `qsort`, `unwritten idx i` what is read for frame `i` of record
`idx` where nothing was written. -/
def heapsnapSave (src : SymbolSource) (unwritten : Nat → Nat → Option String)
    (info : Option (List (HeapRecord n))) (totalMemory : Nat) (file : Bool)
    (sorted : List (HeapRecord n)) : Snapshot :=
  match info with
  | none => .empty
  | some records =>
    if file then
      .written totalMemory records.length
        (sorted.mapIdx fun idx r => recordText src (unwritten idx) r)
    else .noFile

/-! ## The order -/

theorem compareFrames_swap (bt1 bt2 : List Int) :
    compareFrames bt2 bt1 = -compareFrames bt1 bt2 := by
  induction bt1 generalizing bt2 with
  | nil => cases bt2 <;> rfl
  | cons addr1 bt1 ih =>
    cases bt2 with
    | nil => rfl
    | cons addr2 bt2 =>
      unfold compareFrames
      rcases Int.lt_trichotomy addr1 addr2 with hlt | heq | hgt
      · rw [if_neg (by omega), if_neg (by omega), if_neg (by omega), if_pos hlt]
        rfl
      · subst heq
        rw [if_pos rfl, if_pos rfl]
        split
        · rfl
        · exact ih bt2
      · rw [if_neg (by omega), if_pos hgt, if_neg (by omega), if_neg (by omega)]

theorem compareFrames_trans {bt1 bt2 bt3 : List Int} (h12 : bt1.length = bt2.length)
    (h23 : bt2.length = bt3.length) (hle : compareFrames bt1 bt2 ≤ 0)
    (hle' : compareFrames bt2 bt3 ≤ 0) : compareFrames bt1 bt3 ≤ 0 := by
  induction bt1 generalizing bt2 bt3 with
  | nil => exact Int.le_refl 0
  | cons addr1 bt1 ih =>
    obtain ⟨addr2, bt2, rfl⟩ := List.exists_cons_of_length_eq_add_one h12.symm
    obtain ⟨addr3, bt3, rfl⟩ := List.exists_cons_of_length_eq_add_one h23.symm
    unfold compareFrames at hle hle' ⊢
    by_cases heq : addr1 = addr2
    · subst heq
      rw [if_pos rfl] at hle
      by_cases heq' : addr1 = addr3
      · subst heq'
        rw [if_pos rfl] at hle' ⊢
        by_cases hzero : addr1 = 0
        · rw [if_pos hzero]
        · rw [if_neg hzero] at hle hle' ⊢
          exact ih (Nat.succ.inj h12) (Nat.succ.inj h23) hle hle'
      · rw [if_neg heq'] at hle' ⊢
        exact hle'
    · have hlt : addr1 < addr2 := by
        by_contra hnot
        rw [if_neg heq, if_neg hnot] at hle
        omega
      have hle23 : addr2 ≤ addr3 := by
        by_contra hnot
        rw [if_neg (by omega), if_neg (by omega)] at hle'
        omega
      rw [if_neg (by omega), if_pos (by omega)]
      decide

/-- Equal are backtraces with the same frames. -/
theorem compareFrames_eq_zero_iff {bt1 bt2 : List Int} (hlen : bt1.length = bt2.length) :
    compareFrames bt1 bt2 = 0 ↔ bt1.takeWhile (· ≠ 0) = bt2.takeWhile (· ≠ 0) := by
  induction bt1 generalizing bt2 with
  | nil =>
    rw [List.length_eq_zero_iff.mp hlen.symm]
    exact iff_of_true rfl rfl
  | cons addr1 bt1 ih =>
    obtain ⟨addr2, bt2, rfl⟩ := List.exists_cons_of_length_eq_add_one hlen.symm
    unfold compareFrames
    by_cases heq : addr1 = addr2
    · subst heq
      rw [if_pos rfl]
      by_cases hzero : addr1 = 0
      · rw [if_pos hzero]
        simp [hzero]
      · rw [if_neg hzero, ih (Nat.succ.inj hlen)]
        simp [hzero]
    · rw [if_neg heq]
      refine iff_of_false ?_ fun hsame => ?_
      · split <;> decide
      · by_cases hzero : addr1 = 0
        · have hother : addr2 ≠ 0 := fun hzero' => heq (hzero.trans hzero'.symm)
          simp [hzero, hother] at hsame
        · by_cases hzero' : addr2 = 0
          · simp [hzero, hzero'] at hsame
          · simp [hzero, hzero', heq] at hsame

theorem compareHeapRecords_swap (rec1 rec2 : HeapRecord n) :
    compareHeapRecords rec2 rec1 = -compareHeapRecords rec1 rec2 := by
  unfold compareHeapRecords
  rcases lt_trichotomy rec1.size rec2.size with hlt | heq | hgt
  · rw [if_neg (not_lt_of_gt hlt), if_pos hlt, if_pos hlt]
  · rw [heq, if_neg (lt_irrefl _), if_neg (lt_irrefl _), if_neg (lt_irrefl _),
      if_neg (lt_irrefl _), compareFrames_swap]
  · rw [if_pos hgt, if_neg (not_lt_of_gt hgt), if_pos hgt]
    rfl

theorem length_take (r r' : HeapRecord n) :
    (r.backtrace.take backtraceSize).length = (r'.backtrace.take backtraceSize).length := by
  rw [List.length_take, List.length_take, r.full, r'.full]

/-- Not above: a larger size, or the same and a backtrace that is not above. -/
theorem compareHeapRecords_le_iff (rec1 rec2 : HeapRecord n) :
    compareHeapRecords rec1 rec2 ≤ 0 ↔ rec2.size < rec1.size ∨ rec1.size = rec2.size ∧
      compareFrames (rec1.backtrace.take backtraceSize)
        (rec2.backtrace.take backtraceSize) ≤ 0 := by
  unfold compareHeapRecords
  rcases lt_trichotomy rec1.size rec2.size with hlt | heq | hgt
  · rw [if_pos hlt]
    refine iff_of_false (by decide) ?_
    rintro (hgt | ⟨heq, -⟩)
    · exact lt_asymm hlt hgt
    · exact absurd heq (ne_of_lt hlt)
  · rw [heq, if_neg (lt_irrefl _), if_neg (lt_irrefl _)]
    simp
  · rw [if_neg (not_lt_of_gt hgt), if_pos hgt]
    exact iff_of_true (by decide) (.inl hgt)

/-- The order `qsort` is given. -/
instance : Preorder (HeapRecord n) where
  le rec1 rec2 := compareHeapRecords rec1 rec2 ≤ 0
  le_refl r := by
    have hswap := compareHeapRecords_swap r r
    omega
  le_trans r r' r'' h h' := by
    rw [compareHeapRecords_le_iff] at h h' ⊢
    rcases h with h | ⟨heq, h⟩
    · rcases h' with h' | ⟨heq', -⟩
      · exact .inl (lt_trans h' h)
      · exact .inl (heq' ▸ h)
    · rcases h' with h' | ⟨heq', h'⟩
      · exact .inl (heq ▸ h')
      · exact .inr ⟨heq.trans heq',
          compareFrames_trans (length_take r r') (length_take r' r'') h h'⟩

theorem heapRecord_le_iff (rec1 rec2 : HeapRecord n) :
    rec1 ≤ rec2 ↔ compareHeapRecords rec1 rec2 ≤ 0 := Iff.rfl

instance : Std.Total fun rec1 rec2 : HeapRecord n => rec1 ≤ rec2 where
  total rec1 rec2 := by
    rw [heapRecord_le_iff, heapRecord_le_iff, compareHeapRecords_swap rec1 rec2]
    omega

/-- Equal are records with the same size and the same frames among those compared. -/
theorem heapRecord_equal_iff (rec1 rec2 : HeapRecord n) :
    rec1 ≤ rec2 ∧ rec2 ≤ rec1 ↔ rec1.size = rec2.size ∧ rec1.compared = rec2.compared := by
  have hframes := compareFrames_eq_zero_iff (length_take rec1 rec2)
  unfold HeapRecord.compared
  rw [← hframes, heapRecord_le_iff, heapRecord_le_iff, compareHeapRecords_le_iff,
    compareHeapRecords_le_iff, compareFrames_swap (rec1.backtrace.take backtraceSize)]
  constructor
  · rintro ⟨hlt | ⟨heq, hle⟩, hgt | ⟨heq', hge⟩⟩
    · exact absurd hgt (lt_asymm hlt)
    · exact absurd heq' (ne_of_lt hlt)
    · exact absurd heq (ne_of_lt hgt)
    · exact ⟨heq, by omega⟩
  · rintro ⟨heq, hzero⟩
    exact ⟨.inr ⟨heq, by omega⟩, .inr ⟨heq.symm, by omega⟩⟩

/-! ## The symbols -/

/-- `dladdr` or a mapping has a name for the frame. -/
def SymbolSource.Names (src : SymbolSource) (addr : Int) : Prop :=
  (src.dladdr (pcOf addr)).isSome ∨ ∃ mi ∈ src.mapInfo, mi.Contains (pcOf addr)

theorem SymbolSource.mapping_eq_none_iff (src : SymbolSource) (pc offset : Nat) :
    (src.mapping pc offset).1 = none ↔ ∀ mi ∈ src.mapInfo, ¬ mi.Contains pc := by
  unfold SymbolSource.mapping
  split
  case isTrue hempty =>
    refine iff_of_true rfl fun mi hmem => ?_
    rw [List.isEmpty_iff.mp hempty] at hmem
    exact absurd hmem List.not_mem_nil
  case isFalse =>
    unfold mapinfoFind
    cases hfind : src.mapInfo.find? fun m => decide (m.Contains pc) with
    | none =>
      refine iff_of_true rfl fun mi hmem hcontains => ?_
      exact List.find?_eq_none.mp hfind mi hmem (decide_eq_true hcontains)
    | some mi =>
      have hcontains := List.find?_some (p := fun m : MapInfo => decide (m.Contains pc)) hfind
      refine iff_of_false (Option.some_ne_none mi) fun hnone => ?_
      exact hnone mi (List.mem_of_find?_eq_some hfind) (of_decide_eq_true hcontains)

/-- A frame with a name has one line, and a frame without shows what was not written. -/
theorem symbolLine_unwritten_iff (src : SymbolSource) (i : Nat) (addr : Int) :
    (∀ unwritten unwritten',
      symbolLine src unwritten i addr = symbolLine src unwritten' i addr) ↔ src.Names addr := by
  unfold SymbolSource.Names symbolLine
  cases hinfo : src.dladdr (pcOf addr) with
  | some info => exact iff_of_true (fun _ _ => rfl) (.inl rfl)
  | none =>
    have hmapping := src.mapping_eq_none_iff (pcOf addr) 0
    cases hfound : (src.mapping (pcOf addr) 0).1 with
    | some mi =>
      rw [hfound] at hmapping
      have hname : ∃ mi ∈ src.mapInfo, mi.Contains (pcOf addr) := by
        by_contra hnot
        exact Option.some_ne_none mi
          (hmapping.mpr fun mi hmem hcontains => hnot ⟨mi, hmem, hcontains⟩)
      refine iff_of_true (fun unwritten unwritten' => ?_) (.inr hname)
      simp [hfound]
    | none =>
      refine iff_of_false (fun hsame => ?_) ?_
      · have hnames := congrArg SymbolLine.soname (hsame (some "") none)
        have hdiffer : "" ≠ "<unknown>" := by decide
        simp only [Option.elim_none, hfound] at hnames
        exact hdiffer hnames
      · rintro (hsome | ⟨mi, hmem, hcontains⟩)
        · exact Bool.false_ne_true hsome
        · exact hmapping.mp hfound mi hmem hcontains

theorem recordText_unwritten_iff (src : SymbolSource) (r : HeapRecord n) :
    (∀ unwritten unwritten', recordText src unwritten r = recordText src unwritten' r) ↔
      ∀ addr ∈ r.frames, src.Names addr := by
  have hdump : ∀ unwritten unwritten', recordText src unwritten r = recordText src unwritten' r ↔
      ∀ i, (hi : i < r.frames.length) →
        symbolLine src (unwritten i) i r.frames[i] =
          symbolLine src (unwritten' i) i r.frames[i] := by
    intro unwritten unwritten'
    unfold recordText dumpBacktraceSymbols
    rw [RecordText.mk.injEq, List.mapIdx_eq_mapIdx_iff]
    simp
  constructor
  · intro h addr haddr
    obtain ⟨i, hi, rfl⟩ := List.mem_iff_getElem.mp haddr
    refine (symbolLine_unwritten_iff src i _).mp fun u u' => ?_
    exact (hdump _ _).mp (h (fun _ => u) (fun _ => u')) i hi
  · intro h unwritten unwritten'
    refine (hdump _ _).mpr fun i hi => ?_
    exact (symbolLine_unwritten_iff src i _).mpr (h _ (List.getElem_mem hi)) _ _

theorem mapIdx_eq_map {α β : Type} (f : α → β) (l : List α) : l.mapIdx (fun _ => f) = l.map f :=
  List.mapIdx_eq_iff.mpr fun _ => List.getElem?_map

/-! ## The snapshot -/

/-- Backtraces are written alike where `dladdr` writes the names. -/
def ShownAlike (src : SymbolSource) (frames frames' : List Int) : Prop :=
  frames.map (· % 0x100000000) = frames'.map (· % 0x100000000) ∧
    dumpBacktraceSymbols src (fun _ => none) frames =
      dumpBacktraceSymbols src (fun _ => none) frames'

/-- When all frames are compared, those of equal records are. -/
theorem shownAlike_of_le (h : n ≤ backtraceSize) (src : SymbolSource) {r r' : HeapRecord n}
    (hsame : r.compared = r'.compared) : ShownAlike src r.frames r'.frames := by
  have hall : ∀ r : HeapRecord n, r.compared = r.frames := by
    intro r
    unfold HeapRecord.compared HeapRecord.frames
    rw [List.take_of_length_le (r.full.trans_le h)]
  rw [← hall r, ← hall r', hsame]
  exact ⟨rfl, rfl⟩

/-- A record with a frame behind the 32 that are compared. -/
def deepRecord (last : Int) : HeapRecord 33 := ⟨16, 1, List.replicate 32 1 ++ [last], rfl⟩

/-- Records that differ there only may be written in either order. -/
example : deepRecord 2 ≤ deepRecord 3 ∧ deepRecord 3 ≤ deepRecord 2 ∧
    (deepRecord 2).frames ≠ (deepRecord 3).frames := by decide

end RockchipHal.RockitHw
