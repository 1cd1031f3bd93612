import RockchipHal.Lib.Reads

/-!
# Parameters and buffers of the Rockit HW HAL

The HIDL structures of `rockit.hw@1.0` and the two functions of
`RockitHwInterface` on them.  `RockitHWParamPairs` carries a counter beside its
vector, and nothing relates the two: `getValue` scans up to the counter and
stops at the key, so where it reads depends on both.

    (getValue param key).Below param.pairs.size ↔
      param.counter ≤ param.pairs.size ∨ param.HasKey key          (getValue_below_iff)
-/

namespace RockchipHal.RockitHw

/-! ## types.hal -/

inductive RockitHWParamKey
  | codecId | width | widthStride | height | heightStride | format | fastMode | presentTimeOrder
  | pts | dts | flags | token | dataBuffer | fbcOutput | debug
deriving DecidableEq, Repr

/-- The key as it crosses the wire. -/
def RockitHWParamKey.code : RockitHWParamKey → UInt32
  | codecId => 1
  | width => 2
  | widthStride => 3
  | height => 4
  | heightStride => 5
  | format => 6
  | fastMode => 7
  | presentTimeOrder => 8
  | pts => 9
  | dts => 10
  | flags => 11
  | token => 12
  | dataBuffer => 13
  | fbcOutput => 14
  | debug => 0x88888888

/-! ### RockitHWBufferFlags -/

def hwFlagsEos : UInt32 := 1
def hwFlagsErrorInfor : UInt32 := 2
def hwFlagsInforChange : UInt32 := 4
def hwFlagsI4O2 : UInt32 := 8
def hwFlagsExtraDatas : UInt32 := 16

inductive RockitHWCtrCmd
  | bufferGroupClear | bufferReady | bufferDataClear
deriving DecidableEq, Repr

/-- `(RockitHWCtrCmd)cmd`; `none` for a number that is no member. -/
def RockitHWCtrCmd.ofInt (cmd : Int) : Option RockitHWCtrCmd :=
  if cmd = 1 then some bufferGroupClear
  else if cmd = 2 then some bufferReady
  else if cmd = 3 then some bufferDataClear
  else none

inductive RockitHWQueryCmd
  | widthStride | heightStride | unusedBufferCounter
deriving DecidableEq, Repr

/-- The query commands with a case of their own in `query`. -/
def RockitHWQueryCmd.ofInt (cmd : Int) : Option RockitHWQueryCmd :=
  if cmd = 1 then some widthStride
  else if cmd = 2 then some heightStride
  else if cmd = 3 then some unusedBufferCounter
  else none

structure RockitHWParamPair where
  key : UInt32
  value : UInt64
deriving DecidableEq, Repr

structure RockitHWParamPairs where
  counter : UInt32
  pairs : UncheckedVec RockitHWParamPair

structure RockitHWBuffer where
  bufferType : UInt32
  bufferId : UInt32
  size : UInt32
  length : UInt32
  pair : RockitHWParamPairs

/-! ## RockitHwInterface -/

/-- `KEY_NO_VALUES`. -/
def keyNoValues : UInt64 := 0

/-- The loop of `getValue` from index `i` on, with `n` steps left to the counter.
(The loop variable is an `int`; its overflow, undefined in C, is not modelled.) -/
def getValueFrom (pairs : UncheckedVec RockitHWParamPair) (key : UInt32) :
    (n i : Nat) → Reads UInt64
  | 0, _ => pure keyNoValues
  | n + 1, i => do
    if (← pairs.read i).key = key then
      return (← pairs.read i).value
    else
      getValueFrom pairs key n (i + 1)

def getValue (param : RockitHWParamPairs) (key : UInt32) : Reads UInt64 :=
  getValueFrom param.pairs key param.counter.toNat 0

/-- The pair goes to the index the counter had. -/
def setValue (param : RockitHWParamPairs) (key : UInt32) (value : UInt64) :
    RockitHWParamPairs where
  counter := param.counter + 1
  pairs := param.pairs.set param.counter.toNat ⟨key, value⟩

/-- The key occurs in the vector. -/
def RockitHWParamPairs.HasKey (param : RockitHWParamPairs) (key : UInt32) : Prop :=
  ∃ p ∈ param.pairs.data, p.key = key

/-! ## Where `getValue` reads -/

theorem getValueFrom_below_iff (pairs : UncheckedVec RockitHWParamPair) (key : UInt32) :
    ∀ n i, i ≤ pairs.size → ((getValueFrom pairs key n i).Below pairs.size ↔
      n + i ≤ pairs.size ∨ ∃ p ∈ pairs.data.drop i, p.key = key) := by
  intro n
  induction n with
  | zero =>
    intro i hi
    rw [getValueFrom]
    constructor
    · intro _
      left
      omega
    · intro _
      exact Reads.below_pure _ _
  | succ n ih =>
    intro i hi
    rw [getValueFrom, Reads.below_bind, UncheckedVec.below_read, UncheckedVec.val_read]
    rcases Nat.lt_or_ge i pairs.size with hlt | hge
    · have hlt' : i < pairs.data.length := hlt
      have hget : pairs.get i = pairs.data[i] := pairs.get_of_lt i hlt'
      have hdrop : pairs.data.drop i = pairs.data[i] :: pairs.data.drop (i + 1) :=
        List.drop_eq_getElem_cons hlt'
      by_cases hkey : (pairs.get i).key = key
      · rw [if_pos hkey, hdrop]
        constructor
        · intro _
          right
          exact ⟨pairs.data[i], List.mem_cons_self, by rw [← hget, hkey]⟩
        · intro _
          exact ⟨hlt, by simp [hlt]⟩
      · rw [if_neg hkey, ih (i + 1) (by omega), hdrop]
        have hne : pairs.data[i].key ≠ key := by
          rw [← hget]
          exact hkey
        simp only [List.mem_cons, exists_eq_or_imp, hne, false_or]
        constructor
        · rintro ⟨-, h | h⟩
          · left
            omega
          · right
            exact h
        · rintro (h | h)
          · exact ⟨hlt, Or.inl (by omega)⟩
          · exact ⟨hlt, Or.inr h⟩
    · -- the cursor is at the end: the next read is outside, and no pair is left
      have hend : i = pairs.data.length := Nat.le_antisymm hi hge
      constructor
      · rintro ⟨h, -⟩
        omega
      · rintro (h | ⟨p, hp, -⟩)
        · omega
        · rw [hend, List.drop_length] at hp
          cases hp

/-- A lookup stays inside the vector iff the counter does or the key is found. -/
theorem getValue_below_iff (param : RockitHWParamPairs) (key : UInt32) :
    (getValue param key).Below param.pairs.size ↔
      param.counter.toNat ≤ param.pairs.size ∨ param.HasKey key := by
  rw [getValue, getValueFrom_below_iff _ _ _ _ (Nat.zero_le _), List.drop_zero, Nat.add_zero]
  rfl

/-- When several lookups in one structure stay inside its vector. -/
def LookupsFit (param : RockitHWParamPairs) (keys : List UInt32) : Prop :=
  param.counter.toNat ≤ param.pairs.size ∨ ∀ key ∈ keys, param.HasKey key

theorem lookupsFit_nil (param : RockitHWParamPairs) : LookupsFit param [] :=
  Or.inr (by simp)

theorem lookupsFit_cons (param : RockitHWParamPairs) (key : UInt32) (keys : List UInt32) :
    LookupsFit param (key :: keys) ↔
      (getValue param key).Below param.pairs.size ∧ LookupsFit param keys := by
  rw [getValue_below_iff]
  unfold LookupsFit
  by_cases h : param.counter.toNat ≤ param.pairs.size
  · simp [h]
  · simp [h]

end RockchipHal.RockitHw
