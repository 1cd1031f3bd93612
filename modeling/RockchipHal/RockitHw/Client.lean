import RockchipHal.RockitHw.Interface

/-!
# `RockitHwClient`: parameters to and from the service

The client's structures (`RockitHwDefine.h`) and their conversions to and from the
HIDL ones.  Where the client's `pairs` is `NULL`, `RockitHWParam2RTHWParam`
allocates an array for the reply, but sizes it by the counter it has just set to 0:

    (the reply is carried) ↔ hw.counter = 0 ∨ (rt.pairs ≠ NULL ∧ hw.counter ≤ INT_MAX)
                                                 (rockitHWParam2RTHWParam_carries_iff)
-/

namespace RockchipHal.RockitHw

/-! ## RockitHwDefine.h -/

structure RTHWParamPair where
  key : UInt32
  value : UInt64
deriving DecidableEq, Repr

/-- `sizeof(RTHWParamPair)`. -/
def sizeofRTHWParamPair : Nat := 16

/-- `pairs` is `NULL` or points to an array. -/
structure RTHWParamPairs where
  counter : UInt32
  pairs : Option (UncheckedVec RTHWParamPair)

structure RTHWBuffer where
  bufferType : UInt32
  bufferId : UInt32
  size : UInt32
  length : UInt32
  pair : RTHWParamPairs

def RockitHWParamPair.toRT (p : RockitHWParamPair) : RTHWParamPair := ⟨p.key, p.value⟩

def RTHWParamPair.toHW (p : RTHWParamPair) : RockitHWParamPair := ⟨p.key, p.value⟩

/-! ## Copy loops -/

def intMax : Nat := 2 ^ 31 - 1

/-- An array after a copy, and the indices written. -/
structure Copied (β : Type) where
  dst : UncheckedVec β
  writes : List Nat

/-- `for (int i = 0; i < counter; i++)` from index `i` on, with `n` steps left: element
`i` of `dst` becomes that of `src`.  There is no index after `INT_MAX`. -/
def copyPairs {α β : Type} (f : α → β) (src : UncheckedVec α) :
    (n i : Nat) → UncheckedVec β → Option (Copied β)
  | 0, _, dst => some ⟨dst, []⟩
  | n + 1, i, dst =>
    if i = intMax then none
    else
      (copyPairs f src n (i + 1) (dst.set i (f (src.get i)))).map fun c =>
        { c with writes := i :: c.writes }

/-! ## Conversions -/

/-- `malloc(bytes)` as an array of pairs; `grant` is what a granted block, and the memory
behind it, holds. -/
def mallocPairs (grant : Option (Nat → RTHWParamPair)) (bytes : Nat) :
    Option (UncheckedVec RTHWParamPair) :=
  grant.map fun mem => ⟨(List.range (bytes / sizeofRTHWParamPair)).map mem, mem⟩

/-- `rt` after a conversion, and the indices of its array that were written. -/
structure Converted where
  rt : RTHWParamPairs
  writes : List Nat

def rockitHWParam2RTHWParam (grant : Option (Nat → RTHWParamPair)) (hw : RockitHWParamPairs)
    (rt : RTHWParamPairs) : Option Converted :=
  let rt := { rt with counter := 0 }
  if hw.counter > 0 then
    let rt :=
      match rt.pairs with
      | some _ => rt
      | none =>
        { rt with pairs := mallocPairs grant (sizeofRTHWParamPair * rt.counter.toNat) }
    match rt.pairs with
    | none => some ⟨rt, []⟩
    | some dst =>
      (copyPairs RockitHWParamPair.toRT hw.pairs hw.counter.toNat 0 dst).map fun c =>
        ⟨⟨hw.counter, some c.dst⟩, c.writes⟩
  else some ⟨rt, []⟩

/-- No `rt` at all gives one default pair behind a counter of 0.  Pairs counted behind a
`NULL` cannot be read. -/
def rthwParam2RockitHWParam (hw : RockitHWParamPairs) :
    Option RTHWParamPairs → Option RockitHWParamPairs
  | none => some ⟨0, (hw.pairs.resize 1 ⟨0, 0⟩).set 0 ⟨0xffffffff, 1⟩⟩
  | some rt =>
    let pairs := hw.pairs.resize rt.counter.toNat ⟨0, 0⟩
    match rt.pairs with
    | none => if rt.counter = 0 then some ⟨rt.counter, pairs⟩ else none
    | some src =>
      (copyPairs RTHWParamPair.toHW src rt.counter.toNat 0 pairs).map fun c =>
        ⟨rt.counter, c.dst⟩

/-- Fills in `*rt`; the indices are those of its array of pairs. -/
def hwBuffer2RTBuffer (grant : Option (Nat → RTHWParamPair)) (hw : RockitHWBuffer)
    (rt : RTHWBuffer) : Option (RTHWBuffer × List Nat) :=
  (rockitHWParam2RTHWParam grant hw.pair rt.pair).map fun c =>
    (⟨hw.bufferType, hw.bufferId, hw.size, hw.length, c.rt⟩, c.writes)

/-! ## What the copy loop does -/

/-- The loop comes to its end exactly when no body runs at `INT_MAX`; then it has written
each index once, and the elements it wrote are those of `src`. -/
theorem copyPairs_eq_some {α β : Type} (f : α → β) (src : UncheckedVec α) :
    ∀ (n i : Nat) (dst : UncheckedVec β), n + i ≤ intMax →
      ∃ c, copyPairs f src n i dst = some c ∧ c.writes = List.range' i n ∧
        c.dst.size = dst.size ∧
        ∀ j, c.dst.get j = if i ≤ j ∧ j < i + n then f (src.get j) else dst.get j := by
  intro n
  induction n with
  | zero =>
    intro i dst _
    refine ⟨⟨dst, []⟩, rfl, rfl, rfl, fun j => ?_⟩
    rw [if_neg (by omega)]
  | succ n ih =>
    intro i dst hmax
    obtain ⟨c, hc, hwrites, hsize, hget⟩ := ih (i + 1) (dst.set i (f (src.get i))) (by omega)
    refine ⟨{ c with writes := i :: c.writes }, ?_, ?_, ?_, fun j => ?_⟩
    · rw [copyPairs, if_neg (by omega), hc]
      rfl
    · show i :: c.writes = _
      rw [hwrites, List.range'_succ]
    · show c.dst.size = _
      rw [hsize, UncheckedVec.size_set]
    · show c.dst.get j = _
      rw [hget, UncheckedVec.get_set]
      by_cases hji : j = i
      · rw [if_neg (by omega), if_pos hji, if_pos (by omega), hji]
      · by_cases hin : i ≤ j ∧ j < i + (n + 1)
        · rw [if_pos (by omega), if_pos hin]
        · rw [if_neg (by omega), if_neg hji, if_neg hin]

theorem copyPairs_eq_none {α β : Type} (f : α → β) (src : UncheckedVec α) :
    ∀ (n i : Nat) (dst : UncheckedVec β), i ≤ intMax → intMax < n + i →
      copyPairs f src n i dst = none := by
  intro n
  induction n with
  | zero =>
    intro i dst hi hmax
    omega
  | succ n ih =>
    intro i dst hi hmax
    rw [copyPairs]
    by_cases hend : i = intMax
    · rw [if_pos hend]
    · rw [if_neg hend, ih (i + 1) _ (by omega) (by omega)]
      rfl

/-! ## What the reply's conversion leaves -/

/-- The conversion wrote inside the array only, and `rt` has the counter and the pairs of
`hw`. -/
structure Carries (hw : RockitHWParamPairs) (c : Converted) : Prop where
  inside : ∀ i ∈ c.writes, ∃ dst, c.rt.pairs = some dst ∧ i < dst.size
  counter : c.rt.counter = hw.counter
  pairs : ∀ i < hw.counter.toNat, ∃ dst p, c.rt.pairs = some dst ∧ hw.pairs.data[i]? = some p ∧
    dst.get i = p.toRT

theorem counter_pos_iff (n : UInt32) : n > 0 ↔ 0 < n.toNat := Iff.rfl

theorem counter_eq_zero_iff (n : UInt32) : n = 0 ↔ n.toNat = 0 := by
  rw [← UInt32.toNat_inj]
  rfl

/-- The array to be filled in: the one given, or what `malloc(0)` returns. -/
theorem rockitHWParam2RTHWParam_of_pos (grant : Option (Nat → RTHWParamPair))
    (hw : RockitHWParamPairs) (rt : RTHWParamPairs) (hpos : 0 < hw.counter.toNat) :
    rockitHWParam2RTHWParam grant hw rt =
      match rt.pairs.or (mallocPairs grant 0) with
      | none => some ⟨⟨0, none⟩, []⟩
      | some dst =>
        (copyPairs RockitHWParamPair.toRT hw.pairs hw.counter.toNat 0 dst).map fun c =>
          ⟨⟨hw.counter, some c.dst⟩, c.writes⟩ := by
  obtain ⟨counter, pairs⟩ := rt
  unfold rockitHWParam2RTHWParam
  dsimp only
  rw [if_pos ((counter_pos_iff _).mpr hpos)]
  cases pairs with
  | some dst => rfl
  | none => cases grant <;> rfl

theorem copy_carries {hw : RockitHWParamPairs} (hsize : hw.counter.toNat = hw.pairs.size)
    {dst : UncheckedVec RTHWParamPair} {c : Copied RTHWParamPair}
    (hroom : hw.counter.toNat ≤ dst.size) (hwrites : c.writes = List.range' 0 hw.counter.toNat)
    (hdst : c.dst.size = dst.size)
    (hget : ∀ j, c.dst.get j =
      if 0 ≤ j ∧ j < 0 + hw.counter.toNat then (hw.pairs.get j).toRT else dst.get j) :
    Carries hw ⟨⟨hw.counter, some c.dst⟩, c.writes⟩ where
  inside := by
    intro i hi
    have hi : i ∈ c.writes := hi
    rw [hwrites, List.mem_range'_1] at hi
    exact ⟨c.dst, rfl, by omega⟩
  counter := rfl
  pairs := by
    intro i hi
    have hlt : i < hw.pairs.data.length := by
      rw [hsize] at hi
      exact hi
    refine ⟨c.dst, hw.pairs.data[i], rfl, List.getElem?_eq_getElem hlt, ?_⟩
    rw [hget, if_pos (by omega), hw.pairs.get_of_lt i hlt]

/-- Into an array with room for them, the pairs are carried unless the loop overflows. -/
theorem given_carries_iff (grant : Option (Nat → RTHWParamPair)) (hw : RockitHWParamPairs)
    {rt : RTHWParamPairs} {dst : UncheckedVec RTHWParamPair} (hpairs : rt.pairs = some dst)
    (hpos : 0 < hw.counter.toNat) (hsize : hw.counter.toNat = hw.pairs.size)
    (hroom : hw.counter.toNat ≤ dst.size) :
    (∃ c, rockitHWParam2RTHWParam grant hw rt = some c ∧ Carries hw c) ↔
      hw.counter.toNat ≤ intMax := by
  rw [rockitHWParam2RTHWParam_of_pos grant hw rt hpos, hpairs, Option.some_or]
  dsimp only
  constructor
  · rintro ⟨c, hc, -⟩
    by_contra hmax
    rw [copyPairs_eq_none RockitHWParamPair.toRT hw.pairs hw.counter.toNat 0 dst
      (Nat.zero_le _) (by omega)] at hc
    cases hc
  · intro hmax
    obtain ⟨c, hc, hwrites, hdst, hget⟩ :=
      copyPairs_eq_some RockitHWParamPair.toRT hw.pairs hw.counter.toNat 0 dst (by omega)
    refine ⟨_, ?_, copy_carries hsize hroom hwrites hdst hget⟩
    rw [hc]
    rfl

/-- Into a block of no bytes, the first write is outside. -/
theorem empty_not_carries {hw : RockitHWParamPairs} {c : Converted}
    {dst : UncheckedVec RTHWParamPair} (hpos : 0 < hw.counter.toNat) (hempty : dst.size = 0)
    (hc : (copyPairs RockitHWParamPair.toRT hw.pairs hw.counter.toNat 0 dst).map
      (fun c => (⟨⟨hw.counter, some c.dst⟩, c.writes⟩ : Converted)) = some c) :
    ¬ Carries hw c := by
  intro hcarries
  by_cases hmax : hw.counter.toNat ≤ intMax
  · obtain ⟨c', hc', hwrites, hdst, -⟩ :=
      copyPairs_eq_some RockitHWParamPair.toRT hw.pairs hw.counter.toNat 0 dst (by omega)
    rw [hc', Option.map_some, Option.some.injEq] at hc
    subst hc
    have hfirst : 0 ∈ c'.writes := by
      rw [hwrites, List.mem_range'_1]
      omega
    obtain ⟨dst', hdst', hlt⟩ := hcarries.inside 0 hfirst
    cases hdst'
    omega
  · rw [copyPairs_eq_none RockitHWParamPair.toRT hw.pairs hw.counter.toNat 0 dst
      (Nat.zero_le _) (by omega)] at hc
    cases hc

/-- Without an array from the caller, nothing is carried, whatever `malloc(0)` returns. -/
theorem null_not_carries (grant : Option (Nat → RTHWParamPair)) (hw : RockitHWParamPairs)
    {rt : RTHWParamPairs} (hpairs : rt.pairs = none) (hpos : 0 < hw.counter.toNat) :
    ¬ ∃ c, rockitHWParam2RTHWParam grant hw rt = some c ∧ Carries hw c := by
  rintro ⟨c, hc, hcarries⟩
  rw [rockitHWParam2RTHWParam_of_pos grant hw rt hpos, hpairs, Option.none_or] at hc
  cases grant with
  | none =>
    cases hc
    have hcounter : (0 : UInt32) = hw.counter := hcarries.counter
    rw [← hcounter] at hpos
    exact absurd hpos (by decide)
  | some mem => exact empty_not_carries hpos rfl hc hcarries

/-- **The reply's pairs reach the caller** exactly when there are none, or the caller
brings an array and the `int` that counts them does not overflow. -/
theorem rockitHWParam2RTHWParam_carries_iff (grant : Option (Nat → RTHWParamPair))
    (hw : RockitHWParamPairs) (rt : RTHWParamPairs) (hsize : hw.counter.toNat = hw.pairs.size)
    (hroom : ∀ dst, rt.pairs = some dst → hw.counter.toNat ≤ dst.size) :
    (∃ c, rockitHWParam2RTHWParam grant hw rt = some c ∧ Carries hw c) ↔
      hw.counter = 0 ∨ (rt.pairs.isSome ∧ hw.counter.toNat ≤ intMax) := by
  rw [counter_eq_zero_iff]
  rcases Nat.eq_zero_or_pos hw.counter.toNat with hzero | hpos
  · refine iff_of_true ⟨⟨{ rt with counter := 0 }, []⟩, ?_, ?_, ?_, ?_⟩ (.inl hzero)
    · unfold rockitHWParam2RTHWParam
      rw [if_neg (by rw [counter_pos_iff]; omega)]
    · intro i hi
      cases hi
    · exact ((counter_eq_zero_iff _).mpr hzero).symm
    · intro i hi
      omega
  · cases hpairs : rt.pairs with
    | some dst =>
      rw [given_carries_iff grant hw hpairs hpos hsize (hroom dst hpairs), Option.isSome_some]
      constructor
      · intro hmax
        exact .inr ⟨rfl, hmax⟩
      · rintro (hzero | ⟨-, hmax⟩)
        · omega
        · exact hmax
    | none =>
      refine iff_of_false (null_not_carries grant hw hpairs hpos) ?_
      rintro (hzero | ⟨hsome, -⟩)
      · omega
      · cases hsome

/-- One pair: width stride 1920. -/
def onePair : RockitHWParamPairs := ⟨1, [⟨3, 1920⟩], fun _ => ⟨0, 0⟩⟩

theorem onePair_carried :
    ∃ c, rockitHWParam2RTHWParam none onePair ⟨0, some ⟨[⟨0, 0⟩], fun _ => ⟨0, 0⟩⟩⟩ = some c ∧
      Carries onePair c :=
  (rockitHWParam2RTHWParam_carries_iff none onePair ⟨0, some ⟨[⟨0, 0⟩], fun _ => ⟨0, 0⟩⟩⟩ rfl
    (by
      intro dst hdst
      cases hdst
      exact Nat.le_refl 1)).mpr (.inr ⟨rfl, by decide⟩)

/-- With `NULL` for the array, the pair is written to a block of no bytes, or, when there
is no such block, not at all. -/
theorem onePair_not_carried :
    (∃ c, rockitHWParam2RTHWParam (some fun _ => ⟨0, 0⟩) onePair ⟨0, none⟩ = some c ∧
      0 ∈ c.writes ∧ (c.rt.pairs.map UncheckedVec.size) = some 0 ∧ ¬ Carries onePair c) ∧
    ∃ c, rockitHWParam2RTHWParam none onePair ⟨0, none⟩ = some c ∧ c.rt.counter = 0 ∧
      ¬ Carries onePair c := by
  refine ⟨⟨_, rfl, by decide, by decide, ?_⟩, ⟨_, rfl, rfl, ?_⟩⟩
  · intro h
    obtain ⟨dst, hdst, hlt⟩ := h.inside 0 (by decide)
    cases hdst
    exact absurd hlt (by decide)
  · intro h
    exact absurd h.counter (by decide)

end RockchipHal.RockitHw
