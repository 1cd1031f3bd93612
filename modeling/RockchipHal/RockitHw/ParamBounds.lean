import RockchipHal.RockitHw.Mpi

/-!
# Where parameter lookups read

`init`, `enqueue` and `control` hand the client's `RockitHWParamPairs` to
`getValue`, and none of them compares its counter with its vector's length.
They read inside the vector exactly when the counter is at most the length, or
every key they look up occurs (`lookups_below_iff`).
-/

namespace RockchipHal.RockitHw

open RockitHWParamKey in
/-- The keys `init` looks up. -/
def initKeys : List UInt32 :=
  [codecId, width, height, format, fastMode, fbcOutput, presentTimeOrder, debug].map code

open RockitHWParamKey in
/-- The keys `enqueue` looks up. -/
def enqueueKeys : List UInt32 := [flags, pts, dts].map code

theorem initParams_below_iff (pairs : RockitHWParamPairs) :
    (initParams pairs).Below pairs.pairs.size ↔ LookupsFit pairs initKeys := by
  unfold initParams initKeys
  simp only [Reads.below_bind, Reads.below_pure, and_true, List.map_cons, List.map_nil,
    lookupsFit_cons, lookupsFit_nil]

theorem enqueueParams_below_iff (pairs : RockitHWParamPairs) :
    (enqueueParams pairs).Below pairs.pairs.size ↔ LookupsFit pairs enqueueKeys := by
  unfold enqueueParams enqueueKeys
  simp only [Reads.below_bind, Reads.below_pure, and_true, List.map_cons, List.map_nil,
    lookupsFit_cons, lookupsFit_nil]

/-- `init` comes to its lookups once the context is allocated and created. -/
theorem init_below_iff (m : RockitHwMpi) (replies : InitReplies) (pairs : RockitHWParamPairs) :
    (init m replies pairs).Below pairs.pairs.size ↔
      (replies.malloc = false ∨ replies.mppCreate.isOk = false) ∨ LookupsFit pairs initKeys := by
  unfold init
  by_cases hmalloc : replies.malloc = false
  · simp [hmalloc]
  · rw [if_neg hmalloc]
    cases replies.mppCreate with
    | error e => simp [Except.isOk, Except.toBool]
    | ok ctx =>
      rw [Reads.below_map, initParams_below_iff]
      simp [hmalloc, Except.isOk, Except.toBool]

/-- `enqueue` comes to its lookups on an initialised object. -/
theorem enqueue_below_iff (m : RockitHwMpi) (replies : EnqueueReplies) (buffer : RockitHWBuffer) :
    (enqueue m replies buffer).Below buffer.pair.pairs.size ↔
      m.openCtx = none ∨ LookupsFit buffer.pair enqueueKeys := by
  unfold enqueue
  cases m.openCtx with
  | none => simp
  | some ctx =>
    rw [Reads.below_map, enqueueParams_below_iff]
    simp

/-- `control` looks up a key for `HW_CMD_BUFFER_DATA_CLEAR` only. -/
theorem control_below_iff (m : RockitHwMpi) (cmd : Int) (param : RockitHWParamPairs) :
    (control m cmd param).Below param.pairs.size ↔
      (m.mCtx = none ∨ RockitHWCtrCmd.ofInt cmd ≠ some .bufferDataClear) ∨
        LookupsFit param [RockitHWParamKey.dataBuffer.code] := by
  unfold control
  cases m.mCtx with
  | none => simp
  | some ctx =>
    rcases RockitHWCtrCmd.ofInt cmd with _ | _ | _ | _
    · simp
    · simp
    · simp
    · rw [Reads.below_map, lookupsFit_cons]
      simp [lookupsFit_nil]

/-- **Bounds of the lookups.**  For every counter and every vector, a lookup, and
each call that makes some, stays inside the vector exactly when the counter does
or the keys occur (or the call ends before its lookups). -/
theorem lookups_below_iff :
    (∀ param key, (getValue param key).Below param.pairs.size ↔
      param.counter.toNat ≤ param.pairs.size ∨ param.HasKey key) ∧
    (∀ m replies pairs, (init m replies pairs).Below pairs.pairs.size ↔
      (replies.malloc = false ∨ replies.mppCreate.isOk = false) ∨ LookupsFit pairs initKeys) ∧
    (∀ m replies buffer, (enqueue m replies buffer).Below buffer.pair.pairs.size ↔
      m.openCtx = none ∨ LookupsFit buffer.pair enqueueKeys) ∧
    (∀ m cmd param, (control m cmd param).Below param.pairs.size ↔
      (m.mCtx = none ∨ RockitHWCtrCmd.ofInt cmd ≠ some .bufferDataClear) ∨
        LookupsFit param [RockitHWParamKey.dataBuffer.code]) :=
  ⟨getValue_below_iff, init_below_iff, enqueue_below_iff, control_below_iff⟩

/-- No pairs, and a counter of one. -/
def countedPairs : RockitHWParamPairs := ⟨1, [], fun _ => ⟨0, 0⟩⟩

/-- `HW_CMD_BUFFER_DATA_CLEAR` then reads the first pair of an empty vector. -/
theorem countedPairs_not_below :
    0 ∈ (control ⟨some ⟨1, 1, [], []⟩, 3, 0, 0, false⟩ 3 countedPairs).log ∧
      countedPairs.pairs.size = 0 ∧
      ¬ (control ⟨some ⟨1, 1, [], []⟩, 3, 0, 0, false⟩ 3 countedPairs).Below
        countedPairs.pairs.size := by
  decide

end RockchipHal.RockitHw
