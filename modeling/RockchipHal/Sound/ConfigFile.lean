import Mathlib.Data.List.Basic

/-!
# `RkAudioSettingManager::init`: the installation of the config file

When there is no config file, `init` copies the system file to a temporary file in blocks
of 1024 bytes and renames that onto the config path.  How each file operation turns out is
an `Outcomes`; a file is its content, if it exists.

The rename is made whatever happened before it.  A copy that ends has read the whole
system file (`copyLoop_full`), but it has written it only if every `fwrite` wrote all it
was given (`copyLoop_length`).  So the temporary file is a copy of the system file at the
rename exactly under `InstallsWhole`                              (install_atomic_iff).
-/

namespace RockchipHal.Sound

/-- `/data/system/rt_audio_config.xml`, `/data/system/rt_audio_config_temp.xml` and
`/system/etc/rt_audio_config.xml`. -/
structure Files where
  config : Option (List UInt8)
  temp : Option (List UInt8)
  system : Option (List UInt8)
deriving DecidableEq, Repr

/-- How the file operations of one `init` turn out.  A limit is the number of bytes after
which an operation fails. -/
structure Outcomes where
  /-- the first `remove` of the temporary file works -/
  removeTemp : Bool
  malloc : Bool
  openSystem : Bool
  openTemp : Bool
  /-- of the `k`-th `fread` -/
  readLimit : Nat → Option Nat
  /-- of the `k`-th `fwrite` -/
  writeLimit : Nat → Option Nat
  /-- of what `fclose` has to write -/
  closeLimit : Option Nat
  rename : Bool
  /-- the `remove` of the temporary file after a failed `rename` works -/
  removeCopy : Bool
  /-- the `remove` of the config file works -/
  removeConfig : Bool

/-- Every operation works. -/
def Outcomes.ok : Outcomes where
  removeTemp := true
  malloc := true
  openSystem := true
  openTemp := true
  readLimit := fun _ => none
  writeLimit := fun _ => none
  closeLimit := none
  rename := true
  removeCopy := true
  removeConfig := true

def upTo (limit : Option Nat) (bytes : List UInt8) : List UInt8 :=
  match limit with
  | none => bytes
  | some n => bytes.take n

/-- The bytes in `buff` after an `fread`, and what `feof` says then. -/
structure ReadResult where
  bytes : List UInt8
  eof : Bool
deriving DecidableEq, Repr

def blockSize : Nat := 1024

/-- An `fread` that fails delivers less than it was asked for, and sets no end-of-file. -/
def fread (rest : List UInt8) : Option Nat → ReadResult
  | none => ⟨rest.take blockSize, rest.length < blockSize⟩
  | some n => ⟨rest.take (min n (blockSize - 1)), false⟩

/-- The `while (1)`, from turn `k` on with `rest` unread and `out` written; `none` while it
has not ended after `fuel` turns. -/
def copyLoop (o : Outcomes) : (fuel : Nat) → (k : Nat) → (rest out : List UInt8) →
    Option (List UInt8)
  | 0, _, _, _ => none
  | fuel + 1, k, rest, out =>
    let read := fread rest (o.readLimit k)
    -- a short block and a full one are written the same way
    let out := out ++ upTo (o.writeLimit k) read.bytes
    if read.eof then some out
    else copyLoop o fuel (k + 1) (rest.drop read.bytes.length) out

inductive InstallResult
  /-- an `fread` into a null `buff` -/
  | undefined
  | copying
  /-- `renamed` is what the temporary file held when it was renamed. -/
  | done (files : Files) (renamed : Option (List UInt8))
deriving DecidableEq, Repr

/-- From `rename` on. -/
def renameTemp (o : Outcomes) (files : Files) : InstallResult :=
  match files.temp with
  | some bytes =>
    if o.rename then .done { files with config := some bytes, temp := none } (some bytes)
    else .done { files with temp := if o.removeCopy then none else some bytes } none
  | none => .done files none

/-- An old temporary file is removed. -/
def removeTemp (o : Outcomes) (files : Files) : Files :=
  if o.removeTemp then { files with temp := none } else files

/-- `fopen` with `"w"` leaves an empty file. -/
def openTemp (o : Outcomes) (files : Files) : Files :=
  if o.openTemp then { files with temp := some [] } else files

/-- `init` as far as the `chmod`. -/
def install (o : Outcomes) (fuel : Nat) (files : Files) : InstallResult :=
  if files.config.isSome then .done files none
  else
    let files := removeTemp o files
    match files.system with
    | none => .done files none
    | some content =>
      let files := openTemp o files
      if o.openTemp ∧ o.openSystem then
        if o.malloc then
          match copyLoop o fuel 0 content [] with
          | none => .copying
          | some out => renameTemp o { files with temp := some (upTo o.closeLimit out) }
        else .undefined
      else renameTemp o files

/-! ## The copy loop -/

theorem isPrefix_upTo (limit : Option Nat) (bytes : List UInt8) : upTo limit bytes <+: bytes := by
  cases limit with
  | none => exact List.prefix_rfl
  | some n => exact List.take_prefix n bytes

theorem length_upTo_le (limit : Option Nat) (bytes : List UInt8) :
    (upTo limit bytes).length ≤ bytes.length :=
  (isPrefix_upTo limit bytes).length_le

theorem upTo_eq_of_length {limit : Option Nat} {bytes : List UInt8}
    (h : (upTo limit bytes).length = bytes.length) : upTo limit bytes = bytes :=
  (isPrefix_upTo limit bytes).eq_of_length h

/-- Reading goes on where it stopped. -/
theorem fread_append (rest : List UInt8) (limit : Option Nat) :
    (fread rest limit).bytes ++ rest.drop (fread rest limit).bytes.length = rest := by
  have hprefix : (fread rest limit).bytes <+: rest := by
    cases limit with
    | none => exact List.take_prefix _ _
    | some n => exact List.take_prefix _ _
  exact List.prefix_iff_eq_append.mp hprefix

/-- At the end of the file nothing is left. -/
theorem fread_eof {rest : List UInt8} {limit : Option Nat} (h : (fread rest limit).eof = true) :
    (fread rest limit).bytes = rest := by
  cases limit with
  | none =>
    have hlt : rest.length < blockSize := of_decide_eq_true h
    exact List.take_of_length_le (Nat.le_of_lt hlt)
  | some n => cases h

theorem fread_nil (limit : Option Nat) : (fread [] limit).bytes = [] := by
  cases limit <;> exact List.take_nil

/-- What is unread before turn `k`. -/
def unread (o : Outcomes) (content : List UInt8) : Nat → List UInt8
  | 0 => content
  | k + 1 => (unread o content k).drop (fread (unread o content k) (o.readLimit k)).bytes.length

/-- The `fread` of turn `k`. -/
def readAt (o : Outcomes) (content : List UInt8) (k : Nat) : ReadResult :=
  fread (unread o content k) (o.readLimit k)

/-- The `fwrite` of turn `k` writes all that was read. -/
def WritesAll (o : Outcomes) (content : List UInt8) (k : Nat) : Prop :=
  upTo (o.writeLimit k) (readAt o content k).bytes = (readAt o content k).bytes

theorem readAt_append (o : Outcomes) (content : List UInt8) (k : Nat) :
    (readAt o content k).bytes ++ unread o content (k + 1) = unread o content k :=
  fread_append _ _

theorem length_readAt (o : Outcomes) (content : List UInt8) (k : Nat) :
    (readAt o content k).bytes.length + (unread o content (k + 1)).length =
      (unread o content k).length := by
  rw [← List.length_append, readAt_append]

/-- Once all is read, the rest of the reads deliver nothing. -/
theorem writesAll_of_unread_nil {o : Outcomes} {content : List UInt8} {k : Nat}
    (h : unread o content k = []) : ∀ j, k ≤ j → WritesAll o content j := by
  have hnil : ∀ j, k ≤ j → unread o content j = [] := by
    intro j hj
    induction hj with
    | refl => exact h
    | @step j _ ih =>
      show (unread o content j).drop _ = []
      rw [ih]
      exact List.drop_nil
  intro j hj
  have hread : (readAt o content j).bytes = [] := by
    show (fread (unread o content j) _).bytes = []
    rw [hnil j hj]
    exact fread_nil _
  unfold WritesAll
  rw [hread]
  exact List.prefix_nil.mp (isPrefix_upTo _ _)

theorem copyLoop_succ (o : Outcomes) (content : List UInt8) (fuel k : Nat) (out : List UInt8) :
    copyLoop o (fuel + 1) k (unread o content k) out =
      if (readAt o content k).eof then
        some (out ++ upTo (o.writeLimit k) (readAt o content k).bytes)
      else copyLoop o fuel (k + 1) (unread o content (k + 1))
        (out ++ upTo (o.writeLimit k) (readAt o content k).bytes) :=
  rfl

/-- A loop that ends has read everything, and written it if every `fwrite` did. -/
theorem copyLoop_full {o : Outcomes} {content : List UInt8} (h : ∀ k, WritesAll o content k) :
    ∀ (fuel k : Nat) (out out' : List UInt8),
      copyLoop o fuel k (unread o content k) out = some out' → out' = out ++ unread o content k := by
  intro fuel
  induction fuel with
  | zero =>
    intro k out out' hloop
    cases hloop
  | succ fuel ih =>
    intro k out out' hloop
    rw [copyLoop_succ, h k] at hloop
    split at hloop
    · next heof =>
      cases hloop
      rw [show (readAt o content k).bytes = unread o content k from fread_eof heof]
    · rw [ih (k + 1) _ out' hloop, List.append_assoc, readAt_append]

/-- A loop that ends has written no more than it read, and less if an `fwrite` did not
write all. -/
theorem copyLoop_length (o : Outcomes) (content : List UInt8) :
    ∀ (fuel k : Nat) (out out' : List UInt8),
      copyLoop o fuel k (unread o content k) out = some out' →
      out'.length ≤ out.length + (unread o content k).length ∧
        (out'.length = out.length + (unread o content k).length →
          ∀ j, k ≤ j → WritesAll o content j) := by
  intro fuel
  induction fuel with
  | zero =>
    intro k out out' hloop
    cases hloop
  | succ fuel ih =>
    intro k out out' hloop
    have hcut := length_upTo_le (o.writeLimit k) (readAt o content k).bytes
    have hread := length_readAt o content k
    rw [copyLoop_succ] at hloop
    split at hloop
    · next heof =>
      have hall : (readAt o content k).bytes = unread o content k := fread_eof heof
      cases hloop
      rw [List.length_append]
      refine ⟨by omega, fun heq => ?_⟩
      have hfull : WritesAll o content k := upTo_eq_of_length (by omega)
      have hnil : unread o content (k + 1) = [] := by
        rw [hall] at hread
        exact List.eq_nil_of_length_eq_zero (by omega)
      intro j hj
      rcases Nat.eq_or_lt_of_le hj with rfl | hlt
      · exact hfull
      · exact writesAll_of_unread_nil hnil j hlt
    · obtain ⟨hle, hfull⟩ := ih (k + 1) _ out' hloop
      rw [List.length_append] at hle hfull
      refine ⟨by omega, fun heq => ?_⟩
      intro j hj
      rcases Nat.eq_or_lt_of_le hj with rfl | hlt
      · exact upTo_eq_of_length (by omega)
      · exact hfull (by omega) j hlt

/-- The loop ends when a read meets the end of the file. -/
theorem copyLoop_ends {o : Outcomes} {content : List UInt8} {n : Nat}
    (h : (readAt o content n).eof = true) :
    ∀ (fuel k : Nat) (out : List UInt8), k ≤ n → n < k + fuel →
      ∃ out', copyLoop o fuel k (unread o content k) out = some out' := by
  intro fuel
  induction fuel with
  | zero =>
    intro k out hk hn
    omega
  | succ fuel ih =>
    intro k out hk hn
    rw [copyLoop_succ]
    split
    · exact ⟨_, rfl⟩
    · next heof =>
      have hne : k ≠ n := by
        rintro rfl
        exact heof h
      exact ih (k + 1) _ (by omega) (by omega)

/-- The loop does not end when none does. -/
theorem copyLoop_none {o : Outcomes} {content : List UInt8}
    (h : ∀ k, (readAt o content k).eof = false) :
    ∀ (fuel k : Nat) (out : List UInt8), copyLoop o fuel k (unread o content k) out = none := by
  intro fuel
  induction fuel with
  | zero =>
    intro k out
    rfl
  | succ fuel ih =>
    intro k out
    rw [copyLoop_succ, h k]
    exact ih (k + 1) _

/-! ## The installation -/

/-- A rename onto the config path was that of a copy of the system file; without one the
config path is as it was. -/
def Atomic (files : Files) : InstallResult → Prop
  | .undefined => False
  | .copying => True
  | .done files' (some bytes) => files.system = some bytes ∧ files'.config = some bytes
  | .done files' none => files'.config = files.config

/-- The copy of `content` is whole, or not renamed. -/
def CopiesWhole (o : Outcomes) (content : List UInt8) : Prop :=
  o.rename = false ∨ (∀ k, (readAt o content k).eof = false) ∨
    (∀ k, WritesAll o content k) ∧ upTo o.closeLimit content = content

/-- There is nothing to install; or both files open, there is a buffer, and the copy is
whole; or one does not open, and what is at the temporary path all the same is not renamed
or is a copy. -/
def InstallsWhole (o : Outcomes) (files : Files) : Prop :=
  files.config.isSome = true ∨ ∀ content ∈ files.system,
    if o.openTemp = true ∧ o.openSystem = true then o.malloc = true ∧ CopiesWhole o content
    else o.rename = false ∨ ∀ bytes ∈ (openTemp o (removeTemp o files)).temp, bytes = content

@[simp] theorem removeTemp_config (o : Outcomes) (files : Files) :
    (removeTemp o files).config = files.config := by
  unfold removeTemp
  split <;> rfl

@[simp] theorem removeTemp_system (o : Outcomes) (files : Files) :
    (removeTemp o files).system = files.system := by
  unfold removeTemp
  split <;> rfl

@[simp] theorem openTemp_config (o : Outcomes) (files : Files) :
    (openTemp o files).config = files.config := by
  unfold openTemp
  split <;> rfl

@[simp] theorem openTemp_system (o : Outcomes) (files : Files) :
    (openTemp o files).system = files.system := by
  unfold openTemp
  split <;> rfl

/-- The rename is atomic when it fails or what is renamed is a copy. -/
theorem atomic_renameTemp_iff {o : Outcomes} {files files' : Files} {content : List UInt8}
    (hconfig : files'.config = files.config) (hsystem : files.system = some content) :
    Atomic files (renameTemp o files') ↔
      (o.rename = false ∨ ∀ bytes ∈ files'.temp, bytes = content) := by
  unfold renameTemp
  cases htemp : files'.temp with
  | none =>
    constructor
    · intro _
      right
      intro bytes hbytes
      cases hbytes
    · exact fun _ => hconfig
  | some bytes =>
    cases hrename : o.rename with
    | false => exact ⟨fun _ => .inl rfl, fun _ => hconfig⟩
    | true =>
      constructor
      · rintro ⟨hcopy, -⟩
        right
        rintro b ⟨⟩
        rw [hsystem] at hcopy
        exact (Option.some.inj hcopy).symm
      · rintro (hno | hcopy)
        · cases hno
        · refine ⟨?_, rfl⟩
          rw [hsystem, hcopy bytes rfl]

theorem atomic_renameCopy_iff {o : Outcomes} {files files' : Files} {content : List UInt8}
    (hconfig : files'.config = files.config) (hsystem : files.system = some content)
    (bytes : List UInt8) :
    Atomic files (renameTemp o { files' with temp := some bytes }) ↔
      (o.rename = false ∨ bytes = content) := by
  have hiff : Atomic files (renameTemp o { files' with temp := some bytes }) ↔
      (o.rename = false ∨ ∀ b ∈ some bytes, b = content) := atomic_renameTemp_iff hconfig hsystem
  rw [hiff]
  simp only [Option.mem_some_iff, forall_eq']

/-- What the loop and `fclose` leave is a copy when every write was whole. -/
theorem copied_eq_iff {o : Outcomes} {content out : List UInt8} {fuel : Nat}
    (h : copyLoop o fuel 0 content [] = some out) :
    upTo o.closeLimit out = content ↔
      (∀ k, WritesAll o content k) ∧ upTo o.closeLimit content = content := by
  constructor
  · intro heq
    obtain ⟨hle, hfull⟩ := copyLoop_length o content fuel 0 [] out h
    have hle : out.length ≤ content.length := by simpa [unread] using hle
    have hclose := length_upTo_le o.closeLimit out
    rw [heq] at hclose
    have hall : ∀ k, WritesAll o content k := by
      intro k
      refine hfull ?_ k (Nat.zero_le k)
      show out.length = [].length + content.length
      rw [List.length_nil]
      omega
    have hout : out = content := by simpa [unread] using copyLoop_full hall fuel 0 [] out h
    rw [hout] at heq
    exact ⟨hall, heq⟩
  · rintro ⟨hall, hclose⟩
    have hout : out = content := by simpa [unread] using copyLoop_full hall fuel 0 [] out h
    rw [hout]
    exact hclose

/-- The installation with both files open and a buffer. -/
theorem atomic_copy_iff {o : Outcomes} {files files' : Files} {content : List UInt8}
    (hconfig : files'.config = files.config) (hsystem : files.system = some content) :
    (∀ fuel, Atomic files
      (match copyLoop o fuel 0 content [] with
        | none => .copying
        | some out => renameTemp o { files' with temp := some (upTo o.closeLimit out) })) ↔
      CopiesWhole o content := by
  constructor
  · intro h
    by_cases hends : ∀ k, (readAt o content k).eof = false
    · exact .inr (.inl hends)
    · obtain ⟨n, hn⟩ := not_forall.mp hends
      obtain ⟨out, hout⟩ := copyLoop_ends (eq_true_of_ne_false hn) (n + 1) 0 []
        (Nat.zero_le n) (by omega)
      have hdone := h (n + 1)
      rw [show copyLoop o (n + 1) 0 content [] = some out from hout] at hdone
      rcases (atomic_renameCopy_iff hconfig hsystem _).mp hdone with hno | hcopy
      · exact .inl hno
      · exact .inr (.inr ((copied_eq_iff hout).mp hcopy))
  · intro h fuel
    cases hloop : copyLoop o fuel 0 content [] with
    | none => trivial
    | some out =>
      refine (atomic_renameCopy_iff hconfig hsystem _).mpr ?_
      rcases h with hno | hends | hwhole
      · exact .inl hno
      · have hnone := copyLoop_none hends fuel 0 []
        rw [show copyLoop o fuel 0 (unread o content 0) [] = some out from hloop] at hnone
        cases hnone
      · exact .inr ((copied_eq_iff hloop).mpr hwhole)

/-- Whenever the temporary file is renamed onto the config path it is a copy of the system
file, and otherwise the config path is as it was, exactly under `InstallsWhole`. -/
theorem install_atomic_iff (o : Outcomes) (files : Files) :
    (∀ fuel, Atomic files (install o fuel files)) ↔ InstallsWhole o files := by
  unfold install InstallsWhole
  by_cases hconfig : files.config.isSome = true
  · simp only [if_pos hconfig]
    exact ⟨fun _ => .inl hconfig, fun _ _ => rfl⟩
  · simp only [if_neg hconfig, removeTemp_system]
    rw [or_iff_right hconfig]
    cases hsystem : files.system with
    | none =>
      refine ⟨fun _ content hcontent => ?_, fun _ _ => removeTemp_config o files⟩
      cases hcontent
    | some content =>
      have hkeep : (openTemp o (removeTemp o files)).config = files.config := by
        rw [openTemp_config, removeTemp_config]
      simp only [Option.mem_some_iff, forall_eq']
      by_cases hopen : o.openTemp = true ∧ o.openSystem = true
      · simp only [if_pos hopen]
        cases hmalloc : o.malloc with
        | false =>
          refine ⟨fun h => (h 0).elim, fun h => ?_⟩
          cases h.1
        | true =>
          simp only [if_pos, true_and]
          exact atomic_copy_iff hkeep hsystem
      · simp only [if_neg hopen]
        rw [forall_const]
        exact atomic_renameTemp_iff hkeep hsystem

/-- The system file does not open, and the empty temporary file is renamed. -/
def systemUnreadable : Outcomes := { Outcomes.ok with openSystem := false }

theorem install_notAtomic :
    install systemUnreadable 1 ⟨none, none, some [60, 97, 47, 62]⟩ =
        .done ⟨some [], none, some [60, 97, 47, 62]⟩ (some []) ∧
      ¬ ∀ fuel, Atomic ⟨none, none, some [60, 97, 47, 62]⟩
        (install systemUnreadable fuel ⟨none, none, some [60, 97, 47, 62]⟩) := by
  refine ⟨rfl, fun h => ?_⟩
  obtain ⟨hcopy, -⟩ := h 1
  cases hcopy

end RockchipHal.Sound
