import RockchipHal.Lib.TextSearch

/-!
# `RTChips`: the name of the chip

`readDeviceTree` reads a list of NUL-terminated names into a buffer, puts spaces in the place
of the NULs and looks for a known chip in it.  The loop has no counter: each round looks for
the first NUL from the start, and the last round is the one that gets to the last byte.  So
it takes a round for each NUL of the file (`separate_ends`), and one more where the file does
not end with a NUL.  That one goes to the byte behind the file, which is the last byte of the
buffer where the file fills the rest of it:

    StaysInside ↔ file.length ≤ 1022 ∨ file[1022]? = some 0            (readDeviceTree_inside_iff)

The table of chips is in such an order that the first name found is the most specific one
(`matchChip_specific`).
-/

namespace RockchipHal.Rockit

/-! ## The table -/

inductive RKChipType
  | unkown
  | rk2928
  | rk3036
  | rk3066
  | rk3188
  | rk3368H
  | rk3128H
  | rk3128M
  | rk312X
  | rk3326
  | rk3288
  | rk3228A
  | rk3228B
  | rk3228H
  | rk3328
  | rk3229
  | rk3399
  | rk3368
deriving DecidableEq, Repr

structure RKChipInfo where
  name : List UInt8
  type : RKChipType
deriving DecidableEq, Repr

/-- The bytes of a literal. -/
def chip (name : String) (type : RKChipType) : RKChipInfo :=
  ⟨name.toList.map fun c => c.toNat.toUInt8, type⟩

def chipList : List RKChipInfo :=
  [chip "unkown" .unkown, chip "rk2928" .rk2928, chip "rk3036" .rk3036, chip "rk3066" .rk3066,
    chip "rk3188" .rk3188, chip "rk312x" .rk312X,
    -- 3128h first for string matching
    chip "rk3128h" .rk3128H, chip "rk3128m" .rk3128M, chip "rk3128" .rk312X,
    chip "rk3126" .rk312X, chip "rk3288" .rk3288, chip "rk3228a" .rk3228A,
    chip "rk3228b" .rk3228B, chip "rk322x" .rk3229, chip "rk3229" .rk3229,
    chip "rk3228h" .rk3228H, chip "rk3328" .rk3328, chip "rk3399" .rk3399,
    chip "rk3368h" .rk3368H, chip "rk3368" .rk3368, chip "rk3326" .rk3326, chip "px30" .rk3326]

/-- `match` -/
def matchChip (buf : List UInt8) : Option RKChipInfo :=
  chipList.find? fun e => (strstr buf e.name).isSome

/-! ## `readDeviceTree` -/

def maxSocNameLength : Nat := 1024

/-- `name`, and the places in it that were written. -/
structure NameBuffer where
  name : List UInt8
  writes : List Nat
deriving DecidableEq, Repr

/-- `*(name + p) = c;` -/
def NameBuffer.put (s : NameBuffer) (p : Nat) (c : UInt8) : NameBuffer :=
  ⟨s.name.set p c, s.writes ++ [p]⟩

def strnlen (s : List UInt8) (maxlen : Nat) : Nat := ((s.take maxlen).takeWhile (· ≠ 0)).length

/-- The loop, for at most so many rounds; `none` when they are not enough. -/
def separate (length : Int) : Nat → NameBuffer → Option NameBuffer
  | 0, _ => none
  | rounds + 1, s =>
    let ptr := strnlen s.name maxSocNameLength
    let s := s.put ptr 0x20
    if (ptr : Int) ≥ length - 1 then some s else separate length rounds s

/-- The buffer once the bytes are read into it. -/
def loaded (bytes : List UInt8) : NameBuffer :=
  ⟨bytes ++ List.replicate (maxSocNameLength - bytes.length) 0, []⟩

/-- The text that starts with these bytes. -/
def cString (memory : List UInt8) : List UInt8 := memory.takeWhile (· ≠ 0)

/-- The buffer that `match` was called with, if it was, and the result. -/
structure TreeRead where
  matched : Option NameBuffer
  infor : Option RKChipInfo
deriving DecidableEq, Repr

/-- `behind` is the memory behind the buffer.  The loop has no more rounds than there are
bytes. -/
def readDeviceTree (file : Option (List UInt8)) (behind : List UInt8) : Option TreeRead :=
  match file with
  | none => some ⟨none, none⟩
  | some file =>
    let bytes := file.take (maxSocNameLength - 1)
    if 0 < bytes.length then
      (separate bytes.length maxSocNameLength (loaded bytes)).map fun s =>
        ⟨some s, matchChip (cString (s.name ++ behind))⟩
    else some ⟨none, none⟩

/-- Only bytes of the buffer are written, and what is searched ends in it. -/
structure TreeRead.StaysInside (t : TreeRead) : Prop where
  writes : ∀ s ∈ t.matched, ∀ p ∈ s.writes, p < maxSocNameLength
  terminated : ∀ s ∈ t.matched, s.name.length = maxSocNameLength ∧ 0 ∈ s.name

/-! ## The most specific name -/

/-- `b` has the name of `a` as a proper part. -/
def Specific (a b : RKChipInfo) : Prop := a.name <:+: b.name ∧ b.name ≠ a.name

instance (a b : RKChipInfo) : Decidable (Specific a b) := inferInstanceAs (Decidable (_ ∧ _))

theorem chipList_order : chipList.Pairwise fun a b => ¬ Specific a b := by decide +kernel

theorem matchChip_none (buf : List UInt8) :
    matchChip buf = none ↔ ∀ e ∈ chipList, ¬ e.name <:+: buf := by
  unfold matchChip
  rw [List.find?_eq_none]
  simp only [isSome_strstr]

/-- **Most specific name.**  A chip is found when a name of the table occurs, and then no name
of the table occurs of which the one that is found is a proper part. -/
theorem matchChip_specific (buf : List UInt8) :
    (matchChip buf = none ↔ ∀ e ∈ chipList, ¬ e.name <:+: buf) ∧
      ∀ e, matchChip buf = some e →
        (e ∈ chipList ∧ e.name <:+: buf) ∧
          ∀ e' ∈ chipList, e.name <:+: e'.name ∧ e'.name ≠ e.name → ¬ e'.name <:+: buf := by
  refine ⟨matchChip_none buf, fun e he => ?_⟩
  have hoccurs := List.find?_some he
  refine ⟨⟨List.mem_of_find?_eq_some he, (isSome_strstr e.name buf).mp hoccurs⟩, ?_⟩
  intro e' he' hspec hin
  have hirrefl (a : RKChipInfo) : ¬ Specific a a := fun h => h.2 rfl
  have hmiss := find?_specific hirrefl chipList_order he e' he' hspec
  rw [Bool.eq_false_iff] at hmiss
  exact hmiss ((isSome_strstr e'.name buf).mpr hin)

/-! ## The loop -/

/-- `b` with a space in the place of a NUL. -/
def spaced (b : UInt8) : UInt8 := if b = 0 then 0x20 else b

theorem strnlen_append {before : List UInt8} (hbefore : 0 ∉ before) (after : List UInt8)
    {maxlen : Nat} (h : before.length < maxlen) :
    strnlen (before ++ 0 :: after) maxlen = before.length := by
  obtain ⟨n, rfl⟩ : ∃ n, maxlen = before.length + (n + 1) := ⟨maxlen - before.length - 1, by omega⟩
  have hall : ∀ b ∈ before, decide (b ≠ 0) = true := by
    intro b hb
    exact decide_eq_true fun h0 => hbefore (h0 ▸ hb)
  unfold strnlen
  rw [List.take_length_add_append, List.take_succ_cons, List.takeWhile_append_of_pos hall]
  simp

/-- One round: the first NUL becomes a space. -/
theorem separate_round {before : List UInt8} (hbefore : 0 ∉ before) (after : List UInt8)
    (writes : List Nat) (h : before.length < maxSocNameLength) (length : Int) (rounds : Nat) :
    separate length (rounds + 1) ⟨before ++ 0 :: after, writes⟩ =
      if (before.length : Int) ≥ length - 1 then
        some ⟨before ++ 0x20 :: after, writes ++ [before.length]⟩
      else separate length rounds ⟨before ++ 0x20 :: after, writes ++ [before.length]⟩ := by
  rw [separate]
  dsimp only
  rw [strnlen_append hbefore after h, NameBuffer.put, List.set_append_right _ _ (Nat.le_refl _),
    Nat.sub_self, List.set_cons_zero]

/-- The bytes behind a file of `length` bytes when the loop has ended. -/
def behindFile (length : Nat) (file : List UInt8) : List UInt8 :=
  if file.getLast? = some 0 then List.replicate (maxSocNameLength - length) 0
  else 0x20 :: List.replicate (maxSocNameLength - length - 1) 0

/-- The loop over a file of which the NULs in `before` are gone.  The induction is on what is
left of it; a round ends at the next NUL, and there is one more when the file does not end
with it. -/
theorem separate_spec {length : Nat} (hlen : length < maxSocNameLength) (rest : List UInt8) :
    ∀ (before : List UInt8) (writes : List Nat), 0 ∉ before →
      before.length + rest.length = length →
      ∃ places, (∀ p ∈ places, p < maxSocNameLength) ∧ ∀ rounds, rest.count 0 < rounds →
        separate length rounds
            ⟨before ++ (rest ++ List.replicate (maxSocNameLength - length) 0), writes⟩ =
          some ⟨before ++ (rest.map spaced ++ behindFile length rest), writes ++ places⟩ := by
  induction rest with
  | nil =>
    intro before writes hbefore hlength
    rw [List.length_nil] at hlength
    have hzeros : List.replicate (maxSocNameLength - length) (0 : UInt8) =
        0 :: List.replicate (maxSocNameLength - length - 1) 0 := by
      rw [← List.replicate_succ]
      congr 1
      omega
    refine ⟨[before.length], by simp; omega, fun rounds hrounds => ?_⟩
    obtain ⟨rounds, rfl⟩ : ∃ n, rounds = n + 1 := ⟨rounds - 1, by omega⟩
    rw [List.nil_append, hzeros, separate_round hbefore _ _ (by omega), if_pos (by omega)]
    rfl
  | cons b rest ih =>
    intro before writes hbefore hlength
    rw [List.length_cons] at hlength
    have hsplit (c : UInt8) (l : List UInt8) : before ++ c :: l = (before ++ [c]) ++ l := by simp
    by_cases hb : b = 0
    · subst hb
      rw [List.count_cons_self]
      cases rest with
      | nil =>
        rw [List.length_nil] at hlength
        refine ⟨[before.length], by simp; omega, fun rounds hrounds => ?_⟩
        obtain ⟨rounds, rfl⟩ : ∃ n, rounds = n + 1 := ⟨rounds - 1, by omega⟩
        rw [List.cons_append, separate_round hbefore _ _ (by omega), if_pos (by omega)]
        rfl
      | cons c rest =>
        have hspace : 0 ∉ before ++ [0x20] := by simp [hbefore]
        have hmoved : (before ++ [0x20]).length + (c :: rest).length = length := by
          rw [List.length_append, List.length_singleton]
          omega
        obtain ⟨places, hplaces, hends⟩ := ih (before ++ [0x20]) (writes ++ [before.length])
          hspace hmoved
        rw [List.length_cons] at hlength
        refine ⟨before.length :: places, ?_, fun rounds hrounds => ?_⟩
        · rintro p (_ | ⟨_, hp⟩)
          · omega
          · exact hplaces p hp
        · obtain ⟨rounds, rfl⟩ : ∃ n, rounds = n + 1 := ⟨rounds - 1, by omega⟩
          rw [List.cons_append, separate_round hbefore _ _ (by omega), if_neg (by omega), hsplit,
            hends rounds (by omega)]
          simp [spaced, behindFile]
    · have hkept : 0 ∉ before ++ [b] := by simp [hbefore, Ne.symm hb]
      have hmoved : (before ++ [b]).length + rest.length = length := by
        rw [List.length_append, List.length_singleton]
        omega
      obtain ⟨places, hplaces, hends⟩ := ih (before ++ [b]) writes hkept hmoved
      refine ⟨places, hplaces, fun rounds hrounds => ?_⟩
      rw [List.count_cons_of_ne hb] at hrounds
      have hlast : behindFile length (b :: rest) = behindFile length rest := by
        cases rest with
        | nil => simp [behindFile, hb]
        | cons c rest => simp [behindFile]
      rw [List.cons_append, hsplit, hends rounds hrounds, hlast]
      simp [spaced, hb]

/-- The loop over a file, with a round for each of its NULs and one more. -/
theorem separate_loaded {file : List UInt8} (hlen : file.length < maxSocNameLength) :
    ∃ places, (∀ p ∈ places, p < maxSocNameLength) ∧ ∀ rounds, file.count 0 < rounds →
      separate file.length rounds (loaded file) =
        some ⟨file.map spaced ++ behindFile file.length file, places⟩ := by
  obtain ⟨places, hplaces, hends⟩ := separate_spec hlen file [] [] List.not_mem_nil (by simp)
  exact ⟨places, hplaces, hends⟩

/-- **The loop ends.**  For every file that is read, it comes to an end with spaces in the place
of all NULs of the file, and the other bytes of the file as they were. -/
theorem separate_ends (file : List UInt8) (hlen : file.length ≤ 1023) :
    ∃ s, (∀ rounds, file.length < rounds →
        separate file.length rounds (loaded file) = some s) ∧
      s.name.take file.length = file.map fun b => if b = 0 then 0x20 else b := by
  obtain ⟨places, -, hends⟩ := separate_loaded (Nat.lt_succ_of_le hlen)
  refine ⟨_, fun rounds hrounds => hends rounds ?_, ?_⟩
  · exact Nat.lt_of_le_of_lt List.count_le_length hrounds
  · exact List.take_left' (List.length_map _)

/-- Two names, as in the file of a device. -/
theorem separate_ends_names :
    ∃ s, (∀ rounds, 6 < rounds →
        separate 6 rounds (loaded [0x72, 0x6b, 0x00, 0x72, 0x6b, 0x00]) = some s) ∧
      s.name.take 6 = [0x72, 0x6b, 0x20, 0x72, 0x6b, 0x20] :=
  separate_ends [0x72, 0x6b, 0x00, 0x72, 0x6b, 0x00] (by decide)

/-! ## The terminator -/

theorem length_behindFile {length : Nat} (h : length < maxSocNameLength) (file : List UInt8) :
    (behindFile length file).length = maxSocNameLength - length := by
  unfold behindFile
  split
  · rw [List.length_replicate]
  · rw [List.length_cons, List.length_replicate]
    omega

theorem zero_mem_behindFile {length : Nat} (h : length < maxSocNameLength) (file : List UInt8) :
    0 ∈ behindFile length file ↔
      length < maxSocNameLength - 1 ∨ file.getLast? = some 0 := by
  unfold behindFile
  split
  · next hlast =>
    rw [List.mem_replicate]
    exact ⟨fun _ => .inr hlast, fun _ => ⟨by omega, rfl⟩⟩
  · next hlast =>
    rw [List.mem_cons, List.mem_replicate]
    constructor
    · rintro (hspace | ⟨hne, -⟩)
      · exact absurd hspace (by decide)
      · exact .inl (by omega)
    · rintro (hlt | hnul)
      · exact .inr ⟨by omega, rfl⟩
      · exact absurd hnul hlast

/-- The bytes of the file have no NUL left. -/
theorem zero_not_mem_spaced (file : List UInt8) : 0 ∉ file.map spaced := by
  intro h
  obtain ⟨b, -, hb⟩ := List.mem_map.mp h
  unfold spaced at hb
  split at hb
  · exact absurd hb (by decide)
  · next hne => exact hne hb

/-- What `readDeviceTree` has in its buffer when it calls `match`. -/
theorem readDeviceTree_some (file behind : List UInt8) :
    ∃ t, readDeviceTree (some file) behind = some t ∧ (t.StaysInside ↔
      (file.take 1023).length < 1023 ∨ (file.take 1023).getLast? = some 0) := by
  have hlen : (file.take 1023).length < maxSocNameLength := by
    rw [List.length_take]
    unfold maxSocNameLength
    omega
  unfold readDeviceTree
  dsimp only
  rw [show maxSocNameLength - 1 = 1023 from rfl]
  generalize file.take 1023 = bytes at hlen ⊢
  by_cases hpos : 0 < bytes.length
  · obtain ⟨places, hplaces, hends⟩ := separate_loaded hlen
    have hrounds : bytes.count 0 < maxSocNameLength := Nat.lt_of_le_of_lt List.count_le_length hlen
    rw [if_pos hpos, hends maxSocNameLength hrounds]
    refine ⟨_, rfl, ?_⟩
    have hmem : 0 ∈ bytes.map spaced ++ behindFile bytes.length bytes ↔
        bytes.length < 1023 ∨ bytes.getLast? = some 0 := by
      rw [List.mem_append, zero_mem_behindFile hlen]
      exact or_iff_right (zero_not_mem_spaced bytes)
    constructor
    · intro h
      exact hmem.mp (h.terminated _ rfl).2
    · intro h
      refine ⟨?_, ?_⟩
      · rintro s ⟨⟩ p hp
        exact hplaces p hp
      · rintro s ⟨⟩
        refine ⟨?_, hmem.mpr h⟩
        rw [List.length_append, List.length_map, length_behindFile hlen]
        omega
  · rw [if_neg hpos]
    refine ⟨_, rfl, fun _ => .inl (by omega), fun _ => ⟨?_, ?_⟩⟩
    · intro s hs
      cases hs
    · intro s hs
      cases hs

/-- **Bounds of `readDeviceTree`.**  It returns for every file, and keeps to its buffer unless
the file fills the buffer up to its last byte and has no NUL there. -/
theorem readDeviceTree_inside_iff (file behind : List UInt8) :
    (∃ t, readDeviceTree (some file) behind = some t ∧ t.StaysInside) ↔
      file.length ≤ 1022 ∨ file[1022]? = some 0 := by
  obtain ⟨t, ht, hiff⟩ := readDeviceTree_some file behind
  have hlast : (file.take 1023).length < 1023 ∨ (file.take 1023).getLast? = some 0 ↔
      file.length ≤ 1022 ∨ file[1022]? = some 0 := by
    rw [List.length_take, List.getLast?_eq_getElem?, List.length_take]
    rcases Nat.lt_or_ge 1022 file.length with hlong | hshort
    · rw [Nat.min_eq_left (by omega), List.getElem?_take_of_lt (by omega)]
      exact or_congr_left (by omega)
    · exact ⟨fun _ => .inl hshort, fun _ => .inl (by omega)⟩
  rw [ht]
  constructor
  · rintro ⟨t', heq, hinside⟩
    obtain rfl := Option.some.inj heq
    exact hlast.mp (hiff.mp hinside)
  · intro h
    exact ⟨t, rfl, hiff.mpr (hlast.mpr h)⟩

/-- A file that fills the buffer and does not end with a NUL. -/
theorem readDeviceTree_not_inside :
    ¬ ∀ file behind : List UInt8,
      ∃ t, readDeviceTree (some file) behind = some t ∧ t.StaysInside := by
  intro hall
  obtain ⟨t, ht, hinside⟩ := hall (List.replicate 1023 0x61) []
  obtain ⟨t', ht', hiff⟩ := readDeviceTree_some (List.replicate 1023 0x61) []
  obtain rfl := Option.some.inj (ht.symm.trans ht')
  have hbad := hiff.mp hinside
  rw [List.take_of_length_le (Nat.le_of_eq List.length_replicate), List.length_replicate,
    List.getLast?_replicate, if_neg (by decide), Option.some.injEq] at hbad
  exact absurd hbad (by decide)

end RockchipHal.Rockit
