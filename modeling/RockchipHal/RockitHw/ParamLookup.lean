import RockchipHal.RockitHw.ManagerInit

/-!
# Parameters from the application to the service's lookups

The client copies the application's pairs into a HIDL structure, and the service looks keys
up in that.  Counter and vector are set apart on one side and read apart on the other; for
an array with as many pairs as its counter says, the lookup finds the first pair of the key,
as in the array itself (`getValue_request`).  `NULL` crosses as one pair behind a counter of
0, which no lookup reads.
-/

namespace RockchipHal.RockitHw

/-! ## The client's calls -/

def rtBuffer2HwBuffer (rt : RTHWBuffer) (hw : RockitHWBuffer) : Option RockitHWBuffer :=
  (rthwParam2RockitHWParam hw.pair (some rt.pair)).map fun pair =>
    ⟨rt.bufferType, rt.bufferId, rt.size, rt.length, pair⟩

/-- The application's calls that carry parameters. -/
inductive ClientCall
  | init (type : Int32) (param : Option RTHWParamPairs)
  | control (cmd : UInt32) (param : Option RTHWParamPairs)
  | enqueue (buffer : RTHWBuffer)
  | commitBuffer (buffer : RTHWBuffer)
  | giveBackBuffer (buffer : RTHWBuffer)

/-- The parameters as the application has them; `none` is `NULL`. -/
def ClientCall.param : ClientCall → Option RTHWParamPairs
  | init _ param | control _ param => param
  | enqueue buffer | commitBuffer buffer | giveBackBuffer buffer => some buffer.pair

/-- What the service receives. -/
inductive Request
  | init (type : RockitHWType) (param : RockitHWParamPairs)
  | control (cmd : UInt32) (param : RockitHWParamPairs)
  | enqueue (buffer : RockitHWBuffer)
  | commitBuffer (buffer : RockitHWBuffer)
  | giveBackBuffer (buffer : RockitHWBuffer)

def Request.param : Request → RockitHWParamPairs
  | init _ param | control _ param => param
  | enqueue buffer | commitBuffer buffer | giveBackBuffer buffer => buffer.pair

/-- The local `hwBuffer` before it is filled in. -/
def emptyBuffer : RockitHWBuffer := ⟨0, 0, 0, 0, RockitHwClient.emptyPairs⟩

/-- What the call sends; `none` when it ends before the service. -/
def RockitHwClient.request (c : RockitHwClient) : ClientCall → Option Request
  | .init type param => (c.sent param).map (.init (.ofInt type))
  | .control cmd param =>
    c.service.bind fun _ => (rthwParam2RockitHWParam emptyPairs param).map (.control cmd)
  | .enqueue buffer =>
    c.service.bind fun _ => (rtBuffer2HwBuffer buffer emptyBuffer).map .enqueue
  | .commitBuffer buffer =>
    c.service.bind fun _ => (rtBuffer2HwBuffer buffer emptyBuffer).map .commitBuffer
  | .giveBackBuffer buffer =>
    c.service.bind fun _ => (rtBuffer2HwBuffer buffer emptyBuffer).map .giveBackBuffer

/-! ## What the application means -/

/-- The array of the pairs. -/
def RTHWParamPairs.array (rt : RTHWParamPairs) : List RTHWParamPair :=
  rt.pairs.elim [] UncheckedVec.data

/-- `counter` pairs; none where there is no array. -/
def RTHWParamPairs.WellFormed (rt : RTHWParamPairs) : Prop :=
  rt.array.length = rt.counter.toNat

/-- The value of the first pair with the key, or 0. -/
def firstValue (param : Option RTHWParamPairs) (key : UInt32) : UInt64 :=
  ((param.elim [] RTHWParamPairs.array).find? fun p => p.key = key).elim 0 RTHWParamPair.value

/-! ## What a lookup finds -/

/-- The loop finds the first pair of the key among those it counts. -/
theorem val_getValueFrom (pairs : UncheckedVec RockitHWParamPair) (key : UInt32) :
    ∀ n i, (getValueFrom pairs key n i).val =
      (((List.range' i n).map pairs.get).find? fun p => p.key = key).elim keyNoValues
        RockitHWParamPair.value := by
  intro n
  induction n with
  | zero =>
    intro i
    rfl
  | succ n ih =>
    intro i
    rw [getValueFrom, Reads.val_bind, UncheckedVec.val_read, List.range'_succ, List.map_cons]
    by_cases hkey : (pairs.get i).key = key
    · rw [if_pos hkey, List.find?_cons_of_pos (by simpa using hkey)]
      rfl
    · rw [if_neg hkey, List.find?_cons_of_neg (by simpa using hkey)]
      exact ih (i + 1)

/-- Where the counter is the length of the vector, among all of them. -/
theorem val_getValue (param : RockitHWParamPairs) (key : UInt32)
    (hsize : param.counter.toNat = param.pairs.size) :
    (getValue param key).val = (param.pairs.data.find? fun p => p.key = key).elim keyNoValues
      RockitHWParamPair.value := by
  unfold getValue
  rw [val_getValueFrom, hsize, ← List.range_eq_range', UncheckedVec.map_get_range]

/-! ## What the conversion keeps -/

/-- The pairs sent are those of the array, as many as the counter says. -/
structure Carried (rt : RTHWParamPairs) (hw : RockitHWParamPairs) : Prop where
  counter : hw.counter = rt.counter
  pairs : hw.pairs.data = rt.array.map RTHWParamPair.toHW

theorem carried_of_conversion {hw hw' : RockitHWParamPairs} {rt : RTHWParamPairs}
    (hwf : rt.WellFormed) (h : rthwParam2RockitHWParam hw (some rt) = some hw') :
    Carried rt hw' := by
  obtain ⟨counter, pairs⟩ := rt
  have hlen : (RTHWParamPairs.array ⟨counter, pairs⟩).length = counter.toNat := hwf
  unfold rthwParam2RockitHWParam at h
  cases pairs with
  | none =>
    have hzero : counter.toNat = 0 := hlen.symm
    dsimp only at h
    rw [if_pos ((counter_eq_zero_iff _).mpr hzero)] at h
    cases h
    refine ⟨rfl, List.eq_nil_of_length_eq_zero ?_⟩
    show (hw.pairs.resize counter.toNat ⟨0, 0⟩).size = 0
    rw [UncheckedVec.size_resize, hzero]
  | some src =>
    have hsrc : src.data.length = counter.toNat := hlen
    obtain ⟨c, hc, rfl⟩ := Option.map_eq_some_iff.mp h
    have hmax : counter.toNat ≤ intMax := by
      by_contra hmax
      dsimp only at hc
      rw [copyPairs_eq_none RTHWParamPair.toHW src counter.toNat 0 _ (Nat.zero_le _) (by omega)]
        at hc
      cases hc
    obtain ⟨c', hc', -, hsize, hget⟩ := copyPairs_eq_some RTHWParamPair.toHW src counter.toNat 0
      (hw.pairs.resize counter.toNat ⟨0, 0⟩) (by omega)
    have hcc : c' = c := Option.some.inj (hc'.symm.trans hc)
    subst hcc
    rw [UncheckedVec.size_resize] at hsize
    have hdata : c'.dst.data = src.data.map RTHWParamPair.toHW := by
      refine List.ext_getElem ?_ fun i hi _ => ?_
      · rw [List.length_map, hsrc]
        exact hsize
      · have hin : i < counter.toNat := by
          rw [← hsize]
          exact hi
        rw [List.getElem_map, ← c'.dst.get_of_lt i hi, hget, if_pos (by omega),
          src.get_of_lt i (by omega)]
    exact ⟨rfl, hdata⟩

/-- The conversion comes to its end unless the `int` overflows. -/
theorem conversion_isSome_iff (hw : RockitHWParamPairs) {rt : RTHWParamPairs}
    (hwf : rt.WellFormed) :
    (rthwParam2RockitHWParam hw (some rt)).isSome ↔ rt.counter.toNat ≤ intMax := by
  obtain ⟨counter, pairs⟩ := rt
  unfold rthwParam2RockitHWParam
  cases pairs with
  | none =>
    have hzero : counter.toNat = 0 := Eq.symm hwf
    dsimp only
    rw [if_pos ((counter_eq_zero_iff _).mpr hzero), hzero]
    exact iff_of_true rfl (Nat.zero_le _)
  | some src =>
    dsimp only
    rw [Option.isSome_map]
    by_cases hmax : counter.toNat ≤ intMax
    · obtain ⟨c, hc, -⟩ := copyPairs_eq_some RTHWParamPair.toHW src counter.toNat 0
        (hw.pairs.resize counter.toNat ⟨0, 0⟩) hmax
      rw [hc]
      exact iff_of_true rfl hmax
    · rw [copyPairs_eq_none RTHWParamPair.toHW src counter.toNat 0 _ (Nat.zero_le _) (by omega)]
      exact iff_of_false (by decide) hmax

namespace Carried

variable {rt : RTHWParamPairs} {hw : RockitHWParamPairs}

theorem size (h : Carried rt hw) (hwf : rt.WellFormed) : hw.counter.toNat = hw.pairs.size := by
  have hlen : rt.array.length = rt.counter.toNat := hwf
  show hw.counter.toNat = hw.pairs.data.length
  rw [h.counter, h.pairs, List.length_map, hlen]

/-- A lookup in what was sent is a lookup in the array. -/
theorem val_getValue (h : Carried rt hw) (hwf : rt.WellFormed) (key : UInt32) :
    (getValue hw key).val = firstValue (some rt) key := by
  have hfind : ∀ l : List RTHWParamPair,
      ((l.map RTHWParamPair.toHW).find? fun p => p.key = key).elim keyNoValues
        RockitHWParamPair.value = (l.find? fun p => p.key = key).elim 0 RTHWParamPair.value := by
    intro l
    rw [List.find?_map]
    cases hl : l.find? ((fun p => decide (p.key = key)) ∘ RTHWParamPair.toHW) with
    | none =>
      have hl : (l.find? fun p => p.key = key) = none := hl
      rw [hl]
      rfl
    | some p =>
      have hl : (l.find? fun p => p.key = key) = some p := hl
      rw [hl]
      rfl
  rw [RockitHw.val_getValue hw key (h.size hwf), h.pairs]
  exact hfind rt.array

end Carried

/-! ## End to end -/

/-- The request's parameters are the converted ones of the call. -/
theorem request_param {c : RockitHwClient} {call : ClientCall} {r : Request}
    (h : c.request call = some r) :
    rthwParam2RockitHWParam RockitHwClient.emptyPairs call.param = some r.param := by
  have hbuffer : ∀ {buffer : RTHWBuffer} {hw : RockitHWBuffer},
      rtBuffer2HwBuffer buffer emptyBuffer = some hw →
        rthwParam2RockitHWParam RockitHwClient.emptyPairs (some buffer.pair) = some hw.pair := by
    intro buffer hw hhw
    obtain ⟨pair, hpair, rfl⟩ := Option.map_eq_some_iff.mp hhw
    exact hpair
  cases call with
  | init type param =>
    obtain ⟨hw, hsent, rfl⟩ := Option.map_eq_some_iff.mp h
    unfold RockitHwClient.sent at hsent
    split at hsent
    · exact hsent
    · cases hsent
  | control cmd param =>
    obtain ⟨_, _, hmap⟩ := Option.bind_eq_some_iff.mp h
    obtain ⟨hw, hconv, rfl⟩ := Option.map_eq_some_iff.mp hmap
    exact hconv
  | enqueue buffer =>
    obtain ⟨_, _, hmap⟩ := Option.bind_eq_some_iff.mp h
    obtain ⟨hw, hconv, rfl⟩ := Option.map_eq_some_iff.mp hmap
    exact hbuffer hconv
  | commitBuffer buffer =>
    obtain ⟨_, _, hmap⟩ := Option.bind_eq_some_iff.mp h
    obtain ⟨hw, hconv, rfl⟩ := Option.map_eq_some_iff.mp hmap
    exact hbuffer hconv
  | giveBackBuffer buffer =>
    obtain ⟨_, _, hmap⟩ := Option.bind_eq_some_iff.mp h
    obtain ⟨hw, hconv, rfl⟩ := Option.map_eq_some_iff.mp hmap
    exact hbuffer hconv

/-- With a service, every call is sent but an `init` with `NULL`. -/
def ClientCall.sends : ClientCall → Bool
  | init _ none => false
  | _ => true

/-- `counter`; 0 for `NULL`. -/
def ClientCall.counter (call : ClientCall) : Nat :=
  call.param.elim 0 fun rt => rt.counter.toNat

theorem request_isSome (c : RockitHwClient) (call : ClientCall) :
    (c.request call).isSome ↔ c.service.isSome ∧ call.sends ∧
      (rthwParam2RockitHWParam RockitHwClient.emptyPairs call.param).isSome := by
  cases call with
  | init type param =>
    unfold RockitHwClient.request RockitHwClient.sent
    cases param with
    | none => simp [ClientCall.sends]
    | some rt => cases hservice : c.service <;> simp [ClientCall.sends, ClientCall.param]
  | control cmd param =>
    unfold RockitHwClient.request
    cases c.service <;> simp [ClientCall.sends, ClientCall.param]
  | enqueue buffer =>
    unfold RockitHwClient.request rtBuffer2HwBuffer
    cases c.service <;> simp [ClientCall.sends, ClientCall.param, emptyBuffer]
  | commitBuffer buffer =>
    unfold RockitHwClient.request rtBuffer2HwBuffer
    cases c.service <;> simp [ClientCall.sends, ClientCall.param, emptyBuffer]
  | giveBackBuffer buffer =>
    unfold RockitHwClient.request rtBuffer2HwBuffer
    cases c.service <;> simp [ClientCall.sends, ClientCall.param, emptyBuffer]

/-- **A lookup at the service** stays inside the vector and finds the value of the first
pair of the key in the application's array, or 0; and each call with a service is sent, but
an `init` with `NULL` and one whose count overflows an `int`. -/
theorem getValue_request (c : RockitHwClient) (call : ClientCall)
    (hwf : ∀ rt, call.param = some rt → rt.WellFormed) :
    ((c.request call).isSome ↔
      c.service.isSome ∧ call.sends ∧ call.counter ≤ intMax) ∧
    ∀ r, c.request call = some r → ∀ key,
      (getValue r.param key).val = firstValue call.param key ∧
        (getValue r.param key).Below r.param.pairs.size := by
  constructor
  · rw [request_isSome]
    unfold ClientCall.counter
    cases hparam : call.param with
    | none => simp [rthwParam2RockitHWParam]
    | some rt => rw [conversion_isSome_iff _ (hwf rt hparam), Option.elim_some]
  · intro r hr key
    have hconv := request_param hr
    cases hparam : call.param with
    | none =>
      -- the pair behind the counter of 0
      rw [hparam] at hconv
      have hr : r.param = ⟨0, _⟩ := (Option.some.inj hconv).symm
      rw [hr]
      exact ⟨rfl, Reads.below_pure _ _⟩
    | some rt =>
      rw [hparam] at hconv
      have hcarried := carried_of_conversion (hwf rt hparam) hconv
      have hsize := hcarried.size (hwf rt hparam)
      exact ⟨hcarried.val_getValue (hwf rt hparam) key,
        (getValue_below_iff r.param key).mpr (.inl (Nat.le_of_eq hsize))⟩

/-- Key 2 twice: the first pair counts, a key without a pair is 0, and so is the key of the
pair that stands for `NULL`. -/
theorem getValue_request_twice :
    (∃ r, RockitHwClient.request ⟨some ⟨some .new⟩⟩
        (.enqueue ⟨0, 1, 8, 8, ⟨2, some ⟨[⟨2, 16⟩, ⟨2, 32⟩], fun _ => ⟨0, 0⟩⟩⟩⟩) = some r ∧
      (getValue r.param 2).val = 16 ∧ (getValue r.param 4).val = 0) ∧
    ∃ r, RockitHwClient.request ⟨some ⟨some .new⟩⟩ (.control 3 none) = some r ∧
      r.param.pairs.data = [⟨0xffffffff, 1⟩] ∧ (getValue r.param 0xffffffff).val = 0 := by
  have hbuffer := (getValue_request ⟨some ⟨some .new⟩⟩
    (.enqueue ⟨0, 1, 8, 8, ⟨2, some ⟨[⟨2, 16⟩, ⟨2, 32⟩], fun _ => ⟨0, 0⟩⟩⟩⟩) (by
      intro rt hrt
      cases hrt
      rfl)).2 _ rfl
  have hnull := (getValue_request ⟨some ⟨some .new⟩⟩ (.control 3 none) (by
    intro rt hrt
    cases hrt)).2 _ rfl
  exact ⟨⟨_, rfl, (hbuffer 2).1, (hbuffer 4).1⟩, ⟨_, rfl, rfl, (hnull 0xffffffff).1⟩⟩

end RockchipHal.RockitHw
