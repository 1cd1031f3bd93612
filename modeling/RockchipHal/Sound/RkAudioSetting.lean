import RockchipHal.Sound.ConfigFile

/-!
# `RkAudioSetting`: the constructor

The constructor calls `init` until it succeeds, six times at most.  A config file that the
XML loader rejects is deleted by one `init` and installed from the system file by the next,
so with all file operations working two calls are enough           (rkAudioSetting_ready).

The loader is a function of the bytes of the file, `none` when `LoadFile` fails.
-/

namespace RockchipHal.Sound

variable {Doc : Type}

/-- The service object; `document` is what the last load left in `XMLDoc`. -/
structure RkAudioSetting (Doc : Type) where
  mXMLReady : Bool
  files : Files
  document : Option Doc
deriving DecidableEq, Repr

/-- `init` from the `access` after the `chmod` on: its result, the files and `XMLDoc`. -/
def loadConfig (load : List UInt8 → Option Doc) (o : Outcomes) (files : Files)
    (document : Option Doc) : Int × Files × Option Doc :=
  match files.config with
  | some bytes =>
    match load bytes with
    | some doc => (0, files, some doc)
    | none => (-1, if o.removeConfig then { files with config := none } else files, none)
  | none => (-1, files, document)

/-- `none` when `init` does not return. -/
def init (load : List UInt8 → Option Doc) (o : Outcomes) (fuel : Nat) (files : Files)
    (document : Option Doc) : Option (Int × Files × Option Doc) :=
  match install o fuel files with
  | .done files _ => some (loadConfig load o files document)
  | .undefined | .copying => none

/-- The `while (tryNum >= 0)` with `tries` turns left; `o n` are the outcomes in turn `n`. -/
def tryInit (load : List UInt8 → Option Doc) (o : Nat → Outcomes) (fuel : Nat) :
    (tries : Nat) → (n : Nat) → RkAudioSetting Doc → Option (RkAudioSetting Doc)
  | 0, _, s => some s
  | tries + 1, n, s => do
    let (err, files, document) ← init load (o n) fuel s.files s.document
    if err < 0 then tryInit load o fuel tries (n + 1) ⟨false, files, document⟩
    else some ⟨true, files, document⟩

/-- `tryNum` goes from 5 down to 0. -/
def rkAudioSetting (load : List UInt8 → Option Doc) (o : Nat → Outcomes) (fuel : Nat)
    (files : Files) : Option (RkAudioSetting Doc) :=
  tryInit load o fuel 6 0 ⟨false, files, none⟩

theorem tryInit_ready {load : List UInt8 → Option Doc} {o : Nat → Outcomes} {fuel n : Nat}
    {s : RkAudioSetting Doc} {files : Files} {document : Option Doc}
    (h : init load (o n) fuel s.files s.document = some (0, files, document)) (tries : Nat) :
    tryInit load o fuel (tries + 1) n s = some ⟨true, files, document⟩ := by
  rw [tryInit, h]
  rfl

theorem tryInit_again {load : List UInt8 → Option Doc} {o : Nat → Outcomes} {fuel n : Nat}
    {s : RkAudioSetting Doc} {files : Files} {document : Option Doc}
    (h : init load (o n) fuel s.files s.document = some (-1, files, document)) (tries : Nat) :
    tryInit load o fuel (tries + 1) n s =
      tryInit load o fuel tries (n + 1) ⟨false, files, document⟩ := by
  have hneg : (-1 : Int) < 0 := by decide
  rw [tryInit, h]
  simp only [Option.bind_eq_bind, Option.bind_some, if_pos hneg]

/-! ## With every operation working -/

theorem unread_ok (content : List UInt8) (k : Nat) :
    unread .ok content k = content.drop (blockSize * k) := by
  induction k with
  | zero => rfl
  | succ k ih =>
    show (unread .ok content k).drop ((unread .ok content k).take blockSize).length = _
    rw [ih, List.length_take, List.drop_drop]
    by_cases h : blockSize ≤ (content.drop (blockSize * k)).length
    · rw [Nat.min_eq_left h, Nat.mul_succ]
    · rw [Nat.min_eq_right (Nat.le_of_not_le h)]
      rw [List.length_drop] at h ⊢
      rw [List.drop_of_length_le (by omega), List.drop_of_length_le (by
        rw [Nat.mul_succ]
        omega)]

/-- The read behind the last full block comes up short. -/
theorem readAt_ok_eof (content : List UInt8) :
    (readAt .ok content (content.length / blockSize)).eof = true := by
  have hlt := Nat.lt_mul_div_succ content.length (show 0 < blockSize by decide)
  show decide ((unread .ok content (content.length / blockSize)).length < blockSize) = true
  rw [unread_ok, List.length_drop, decide_eq_true_iff]
  rw [Nat.mul_succ] at hlt
  have hpos : 0 < blockSize := by decide
  omega

theorem copyLoop_ok {content : List UInt8} {fuel : Nat} (h : content.length / blockSize < fuel) :
    copyLoop .ok fuel 0 content [] = some content := by
  obtain ⟨out, hout⟩ := copyLoop_ends (readAt_ok_eof content) fuel 0 [] (Nat.zero_le _) (by omega)
  have hwrites : ∀ k, WritesAll .ok content k := fun _ => rfl
  have hall : out = content := by
    simpa [unread] using copyLoop_full hwrites fuel 0 [] out hout
  rw [hall] at hout
  exact hout

theorem install_config {o : Outcomes} {fuel : Nat} {files : Files} {bytes : List UInt8}
    (h : files.config = some bytes) : install o fuel files = .done files none := by
  unfold install
  rw [if_pos (by rw [h]; rfl)]

theorem install_ok {files : Files} {content : List UInt8} {fuel : Nat}
    (hconfig : files.config = none) (hsystem : files.system = some content)
    (hfuel : content.length / blockSize < fuel) :
    install .ok fuel files = .done ⟨some content, none, some content⟩ (some content) := by
  obtain ⟨config, temp, system⟩ := files
  cases hconfig
  cases hsystem
  have hloop := copyLoop_ok hfuel
  have hopen : Outcomes.ok.openTemp = true ∧ Outcomes.ok.openSystem = true := ⟨rfl, rfl⟩
  have hmalloc : Outcomes.ok.malloc = true := rfl
  simp only [install, removeTemp_system, if_pos hopen, if_pos hmalloc, hloop]
  rfl

/-- An `init` with a config file that loads. -/
theorem init_accepted {load : List UInt8 → Option Doc} {files : Files} {bytes : List UInt8}
    {doc : Doc} (hconfig : files.config = some bytes) (hload : load bytes = some doc)
    (fuel : Nat) (document : Option Doc) :
    init load .ok fuel files document = some (0, files, some doc) := by
  unfold init loadConfig
  rw [install_config hconfig]
  simp only [hconfig, hload]

/-- An `init` with one that does not deletes it. -/
theorem init_rejected {load : List UInt8 → Option Doc} {files : Files} {bytes : List UInt8}
    (hconfig : files.config = some bytes) (hload : load bytes = none)
    (fuel : Nat) (document : Option Doc) :
    init load .ok fuel files document = some (-1, { files with config := none }, none) := by
  unfold init loadConfig
  rw [install_config hconfig]
  simp only [hconfig, hload]
  rfl

/-- An `init` with none installs the system file and loads it. -/
theorem init_absent {load : List UInt8 → Option Doc} {files : Files} {content : List UInt8}
    {doc : Doc} {fuel : Nat} (hconfig : files.config = none) (hsystem : files.system = some content)
    (hload : load content = some doc) (hfuel : content.length / blockSize < fuel)
    (document : Option Doc) :
    init load .ok fuel files document =
      some (0, ⟨some content, none, some content⟩, some doc) := by
  unfold init loadConfig
  rw [install_ok hconfig hsystem hfuel]
  simp only [hload]

/-- With a system file that loads and every operation working, the constructor ends ready:
the config file is as it was if it loads and a copy of the system file otherwise, and it is
the document loaded. -/
theorem rkAudioSetting_ready (load : List UInt8 → Option Doc) (files : Files)
    (content : List UInt8) (hsystem : files.system = some content)
    (haccepted : (load content).isSome = true) (fuel : Nat)
    (hfuel : content.length / blockSize < fuel) :
    ∃ files' bytes doc,
      rkAudioSetting load (fun _ => .ok) fuel files = some ⟨true, files', some doc⟩ ∧
      files'.config = some bytes ∧ load bytes = some doc ∧ files'.system = files.system ∧
      ((files.config = some bytes ∧ (load bytes).isSome = true) ∨
        (∀ original ∈ files.config, load original = none) ∧ bytes = content) := by
  obtain ⟨doc, hdoc⟩ := Option.isSome_iff_exists.mp haccepted
  unfold rkAudioSetting
  cases hconfig : files.config with
  | none =>
    refine ⟨⟨some content, none, some content⟩, content, doc, ?_, rfl, hdoc, hsystem.symm,
      .inr ⟨?_, rfl⟩⟩
    · exact tryInit_ready (init_absent hconfig hsystem hdoc hfuel none) 5
    · intro original horiginal
      cases horiginal
  | some original =>
    cases hload : load original with
    | some doc' =>
      refine ⟨files, original, doc', ?_, hconfig, hload, rfl, .inl ⟨rfl, by rw [hload]; rfl⟩⟩
      exact tryInit_ready (init_accepted hconfig hload fuel none) 5
    | none =>
      refine ⟨⟨some content, none, some content⟩, content, doc, ?_, rfl, hdoc, hsystem.symm,
        .inr ⟨?_, rfl⟩⟩
      · have hsystem' : ({ files with config := none } : Files).system = some content := hsystem
        have hnext := init_absent rfl hsystem' hdoc hfuel none
        rw [tryInit_again (init_rejected hconfig hload fuel none) 5]
        exact tryInit_ready hnext 4
      · rintro b ⟨⟩
        exact hload

/-- A loader that accepts what begins with `<`. -/
def startsWithTag (bytes : List UInt8) : Option (List UInt8) :=
  if bytes.head? = some 60 then some bytes else none

/-- A config file of zeros is replaced. -/
theorem rkAudioSetting_ready_zeros :
    ∃ files' doc,
      rkAudioSetting startsWithTag (fun _ => .ok) 1 ⟨some [0, 0], none, some [60, 97, 47, 62]⟩ =
        some ⟨true, files', some doc⟩ ∧
      files'.config = some [60, 97, 47, 62] := by
  obtain ⟨files', bytes, doc, hready, hconfig, -, -, hbytes⟩ :=
    rkAudioSetting_ready startsWithTag ⟨some [0, 0], none, some [60, 97, 47, 62]⟩
      [60, 97, 47, 62] rfl rfl 1 (by decide)
  refine ⟨files', doc, hready, ?_⟩
  rcases hbytes with ⟨horiginal, hload⟩ | ⟨-, hcopy⟩
  · cases horiginal
    cases hload
  · rw [hconfig, hcopy]

end RockchipHal.Sound
