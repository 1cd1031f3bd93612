import RockchipHal.Sound.ConfigFile

/-!
# `RkAudioSettingManager::init`: when the copy loop ends

The loop is left only when `feof` holds after a read.  Over a stream that gives each read any
number of bytes, and says end-of-file or error whenever they are fewer than a block, it ends
exactly when some read says end-of-file:

    Terminates reads writeLimit ↔ ∃ k, (reads k).eof = true       (copyReads_terminates_iff)

So it never ends on a stream that says error at every read.  A file with reads of which only
finitely many fail is copied to its end (`copyLoop_terminates`).
-/

namespace RockchipHal.Sound

/-- A result of `fread(buff, 1, 1024, fin)`, with the indicators of the stream after it. -/
structure FreadResult extends ReadResult where
  error : Bool
  length_le : bytes.length ≤ blockSize
  short : bytes.length < blockSize → eof = true ∨ error = true

/-- The `while (1)` over the results of `fread`, from turn `k` on with `out` written; `none`
while it has not ended after `fuel` turns. -/
def copyReads (reads : Nat → FreadResult) (writeLimit : Nat → Option Nat) :
    (fuel : Nat) → (k : Nat) → (out : List UInt8) → Option (List UInt8)
  | 0, _, _ => none
  | fuel + 1, k, out =>
    let out := out ++ upTo (writeLimit k) (reads k).bytes
    if (reads k).eof then some out
    else copyReads reads writeLimit fuel (k + 1) out

/-- The loop is left after some number of turns. -/
def Terminates (reads : Nat → FreadResult) (writeLimit : Nat → Option Nat) : Prop :=
  ∃ fuel out, copyReads reads writeLimit fuel 0 [] = some out

section
variable (reads : Nat → FreadResult) (writeLimit : Nat → Option Nat)

/-- Within `fuel` turns the loop is left exactly when one of the reads says end-of-file. -/
theorem isSome_copyReads (fuel : Nat) :
    ∀ (k : Nat) (out : List UInt8),
      (copyReads reads writeLimit fuel k out).isSome = true ↔
        ∃ i < fuel, (reads (k + i)).eof = true := by
  induction fuel with
  | zero =>
    intro k out
    refine ⟨fun h => (nomatch h), ?_⟩
    rintro ⟨i, hi, -⟩
    omega
  | succ fuel ih =>
    intro k out
    rw [copyReads, Nat.exists_lt_succ_left]
    show _ ↔ (reads k).eof = true ∨ _
    by_cases heof : (reads k).eof = true
    · rw [if_pos heof]
      exact ⟨fun _ => .inl heof, fun _ => rfl⟩
    · have hnext (i : Nat) : k + 1 + i = k + (i + 1) := by omega
      rw [if_neg heof, ih, or_iff_right heof]
      simp only [hnext]

theorem eof_of_terminates (h : Terminates reads writeLimit) : ∃ k, (reads k).eof = true := by
  obtain ⟨fuel, out, hout⟩ := h
  obtain ⟨i, -, heof⟩ := (isSome_copyReads reads writeLimit fuel 0 []).mp (by rw [hout]; rfl)
  exact ⟨0 + i, heof⟩

theorem terminates_of_eof {k : Nat} (h : (reads k).eof = true) : Terminates reads writeLimit := by
  have hsome := (isSome_copyReads reads writeLimit (k + 1) 0 []).mpr
    ⟨k, Nat.lt_succ_self k, by rw [Nat.zero_add]; exact h⟩
  exact ⟨k + 1, Option.isSome_iff_exists.mp hsome⟩

/-- **Termination.**  The loop ends exactly on the streams that come to end-of-file. -/
theorem copyReads_terminates_iff :
    Terminates reads writeLimit ↔ ∃ k, (reads k).eof = true := by
  constructor
  · exact eof_of_terminates reads writeLimit
  · rintro ⟨k, heof⟩
    exact terminates_of_eof reads writeLimit heof

end

/-- A read that delivers nothing and says error. -/
def failedRead : FreadResult where
  bytes := []
  eof := false
  error := true
  length_le := Nat.zero_le _
  short := fun _ => .inr rfl

/-- A directory in place of the file. -/
theorem copyReads_not_terminates :
    ¬ ∀ (reads : Nat → FreadResult) (writeLimit : Nat → Option Nat),
      Terminates reads writeLimit := by
  intro hall
  obtain ⟨k, heof⟩ := eof_of_terminates _ _ (hall (fun _ => failedRead) fun _ => none)
  cases heof

/-! ## Files -/

/-- The reads of a file as a stream: those that fail say error. -/
def fileReads (o : Outcomes) (content : List UInt8) (k : Nat) : FreadResult where
  toReadResult := readAt o content k
  error := (o.readLimit k).isSome
  length_le := by
    unfold readAt fread
    cases o.readLimit k with
    | none => exact List.length_take_le _ _
    | some n =>
      refine Nat.le_trans (List.length_take_le _ _) ?_
      unfold blockSize
      omega
  short := by
    unfold readAt fread
    cases o.readLimit k with
    | none =>
      intro hshort
      dsimp only at hshort
      rw [List.length_take] at hshort
      exact .inl (decide_eq_true (by omega))
    | some n => exact fun _ => .inr rfl

theorem copyLoop_eq_copyReads (o : Outcomes) (content : List UInt8) (fuel : Nat) :
    ∀ (k : Nat) (out : List UInt8),
      copyLoop o fuel k (unread o content k) out =
        copyReads (fileReads o content) o.writeLimit fuel k out := by
  induction fuel with
  | zero =>
    intro k out
    rfl
  | succ fuel ih =>
    intro k out
    rw [copyLoop_succ, ih, copyReads]
    rfl

/-- As long as nothing fails and the end is not met, each turn reads a block. -/
theorem length_unread {o : Outcomes} {content : List UInt8} {n : Nat}
    (hreads : ∀ k, n ≤ k → o.readLimit k = none) (hno : ∀ k, (readAt o content k).eof ≠ true) :
    ∀ i, (unread o content (n + i)).length + blockSize * i = (unread o content n).length := by
  intro i
  induction i with
  | zero => rfl
  | succ i ih =>
    have hread := length_readAt o content (n + i)
    have heof := hno (n + i)
    unfold readAt at hread heof
    rw [hreads (n + i) (Nat.le_add_right n i)] at hread heof
    have hfull : ¬ (unread o content (n + i)).length < blockSize := fun hlt =>
      heof (decide_eq_true hlt)
    have hblock : (fread (unread o content (n + i)) none).bytes.length = blockSize := by
      unfold fread
      dsimp only
      rw [List.length_take]
      omega
    rw [Nat.mul_succ]
    show (unread o content (n + i + 1)).length + _ = _
    omega

/-- **Copies of files end.**  A file is finite: when no read fails from some turn on, one of
them meets the end. -/
theorem copyLoop_terminates (o : Outcomes) (content : List UInt8) (n : Nat)
    (hreads : ∀ k, n ≤ k → o.readLimit k = none) :
    ∃ fuel out, copyLoop o fuel 0 content [] = some out := by
  have hends : ∃ k, (fileReads o content k).eof = true := by
    by_contra hno
    have hno : ∀ k, (readAt o content k).eof ≠ true := not_exists.mp hno
    have hlen := length_unread hreads hno ((unread o content n).length + 1)
    unfold blockSize at hlen
    omega
  obtain ⟨k, heof⟩ := hends
  obtain ⟨fuel, out, hout⟩ := terminates_of_eof (fileReads o content) o.writeLimit heof
  refine ⟨fuel, out, ?_⟩
  rw [← hout]
  exact copyLoop_eq_copyReads o content fuel 0 []

end RockchipHal.Sound
