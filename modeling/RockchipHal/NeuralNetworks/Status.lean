import RockchipHal.NeuralNetworks.Transport

/-!
# Statuses through the bridge

`rknn_query`, `rknn_inputs_set` and `rknn_outputs_get` return 0 whatever the
allocator, the transport and the server answered; `rknn_run` drops the server's
status, `rknn_init` a refused allocation, a failed status and, with its calls of
`rknn_query`, whatever becomes of these.  For each call, this is exactly when
success means success (`bridge_success_iff`).
-/

namespace RockchipHal.NeuralNetworks.Builder

/-! ## rknn_init and its queries -/

/-- A query gets its memory, goes through and is answered with success. -/
def QueryServed (hal : Hal) (t : Nat) (context : UInt64) (cmd : RknnQueryCmd) (info : List UInt8)
    (size : UInt32) : Prop :=
  (hal.allocate t size.toNat).isGranted = true ∧
    queryReply hal t context cmd info size = some rknnSucc

/-- The context behind the first query of `_get_model_info`, with the numbers of tensors. -/
def queriedContext (hal : Hal) (rContext : UInt64) : RknnContext :=
  numContext hal rContext
    (rknnQuery hal 1 rContext .inOutNum (List.replicate 8 0) sizeofInputOutputNum).2

/-- So it is with every query of `_get_model_info`: the numbers, then each input's attributes,
then each output's. -/
structure QueriesServed (hal : Hal) (rContext : UInt64) : Prop where
  numbers : QueryServed hal 1 rContext .inOutNum (List.replicate 8 0) sizeofInputOutputNum
  inputs : ∀ i < (queriedContext hal rContext).nInput.toNat,
    QueryServed hal (2 + i) rContext .inputAttr (tensorAttrBytes (UInt32.ofNat i)) sizeofTensorAttr
  outputs : ∀ i < (queriedContext hal rContext).nOutput.toNat,
    QueryServed hal (2 + (queriedContext hal rContext).nInput.toNat + i) rContext .outputAttr
      (tensorAttrBytes (UInt32.ofNat i)) sizeofTensorAttr

/-- An array is allocated for the attributes of the inputs if there are any, and so for the
outputs. -/
def AttrsAllocated (hal : Hal) (rContext : UInt64) : Prop :=
  ((queriedContext hal rContext).nInput = 0 ∨ hal.mallocAttrs.1 = true) ∧
    ((queriedContext hal rContext).nOutput = 0 ∨ hal.mallocAttrs.2 = true)

theorem rknnQuery_ret (hal : Hal) (t : Nat) (context : UInt64) (cmd : RknnQueryCmd)
    (info : List UInt8) {size : UInt32} (hsize : size ≠ 0) :
    (rknnQuery hal t context cmd info size).1 = rknnSucc := by
  unfold rknnQuery
  rw [if_neg hsize]
  cases hal.allocate t size.toNat <;> rfl

/-- A query of a size above 0 never fails, and so never ends the loop. -/
theorem queryAttrs_ret (hal : Hal) (context : UInt64) (cmd : RknnQueryCmd) (t n i : Nat) :
    (queryAttrs hal context cmd t n i).1 = rknnSucc := by
  induction n generalizing i with
  | zero => rfl
  | succ n ih =>
    unfold queryAttrs
    dsimp only
    rw [if_neg (not_not_intro (rknnQuery_ret hal _ _ _ _ (by decide)))]
    exact ih (i + 1)

/-- The test before an array is written to. -/
theorem not_unallocated_iff (n : UInt32) (granted : Bool) :
    ¬ (n ≠ 0 ∧ granted = false) ↔ n = 0 ∨ granted = true := by
  rw [not_and_or, not_not, Bool.not_eq_false]

theorem getOutputAttrs_isSome (hal : Hal) (t : Nat) (ctx : RknnContext) :
    (getOutputAttrs hal t ctx).isSome ↔ ctx.nOutput = 0 ∨ hal.mallocAttrs.2 = true := by
  rw [← not_unallocated_iff]
  unfold getOutputAttrs
  split
  · next hmalloc => exact iff_of_false Bool.false_ne_true (not_not_intro hmalloc)
  · next hmalloc => exact iff_of_true rfl hmalloc

theorem getOutputAttrs_context (hal : Hal) (t : Nat) (ctx : RknnContext) (p : Int × RknnContext)
    (h : getOutputAttrs hal t ctx = some p) : p.2.context = ctx.context := by
  unfold getOutputAttrs at h
  split at h
  · cases h
  · cases h
    rfl

theorem getTensorAttrs_context (hal : Hal) (ctx : RknnContext) (p : Int × RknnContext)
    (h : getTensorAttrs hal ctx = some p) : p.2.context = ctx.context := by
  unfold getTensorAttrs at h
  split at h
  · cases h
  · dsimp only at h
    split at h
    · cases h
      rfl
    · rw [getOutputAttrs_context hal _ _ p h]

theorem getOutputAttrs_ret (hal : Hal) (t : Nat) (ctx : RknnContext) (p : Int × RknnContext)
    (h : getOutputAttrs hal t ctx = some p) : p.1 = rknnSucc := by
  unfold getOutputAttrs at h
  split at h
  · cases h
  · rw [← Option.some.inj h]
    exact if_neg (not_not_intro (queryAttrs_ret hal _ _ _ _ _))

theorem getTensorAttrs_isSome (hal : Hal) (ctx : RknnContext) :
    (getTensorAttrs hal ctx).isSome ↔
      (ctx.nInput = 0 ∨ hal.mallocAttrs.1 = true) ∧
        (ctx.nOutput = 0 ∨ hal.mallocAttrs.2 = true) := by
  rw [← not_unallocated_iff ctx.nInput]
  unfold getTensorAttrs
  split
  · next hmalloc => exact iff_of_false Bool.false_ne_true fun h => h.1 hmalloc
  · next hmalloc =>
    dsimp only
    rw [if_neg (not_not_intro (queryAttrs_ret hal _ _ _ _ _)), getOutputAttrs_isSome]
    exact (and_iff_right hmalloc).symm

theorem getTensorAttrs_ret (hal : Hal) (ctx : RknnContext) (p : Int × RknnContext)
    (h : getTensorAttrs hal ctx = some p) : p.1 = rknnSucc := by
  unfold getTensorAttrs at h
  split at h
  · cases h
  · dsimp only at h
    rw [if_neg (not_not_intro (queryAttrs_ret hal _ _ _ _ _))] at h
    exact getOutputAttrs_ret hal _ _ p h

theorem getModelInfo_eq (hal : Hal) (rContext : UInt64) :
    getModelInfo hal rContext = getTensorAttrs hal (queriedContext hal rContext) :=
  if_neg (not_not_intro (rknnQuery_ret hal _ _ _ _ (by decide)))

/-- `_get_model_info` never reports that a query failed. -/
theorem getModelInfo_ret (hal : Hal) (rContext : UInt64) (p : Int × RknnContext)
    (h : getModelInfo hal rContext = some p) : p.1 = rknnSucc :=
  getTensorAttrs_ret hal _ p ((getModelInfo_eq hal rContext).symm.trans h)

/-- It fills in the context the server returned. -/
theorem getModelInfo_context (hal : Hal) (rContext : UInt64) (p : Int × RknnContext)
    (h : getModelInfo hal rContext = some p) : p.2.context = rContext :=
  getTensorAttrs_context hal _ p ((getModelInfo_eq hal rContext).symm.trans h)

/-- With the model accepted, success is honest unless `_get_model_info` returns after a query
that was not served. -/
theorem rknnInit_accepted_iff (hal : Hal) (c : UInt64) :
    (∀ r, ((getModelInfo hal c).map fun p => (⟨p.1, some p.2⟩ : InitResult)) = some r →
        r.ret = rknnSucc → (∃ ctx, r.stored = some ctx ∧ ctx.context = c) ∧ QueriesServed hal c) ↔
      (AttrsAllocated hal c → QueriesServed hal c) := by
  have hsome : (getModelInfo hal c).isSome ↔ AttrsAllocated hal c := by
    rw [getModelInfo_eq, getTensorAttrs_isSome]
    rfl
  rw [← hsome]
  constructor
  · intro h hsome
    obtain ⟨p, hp⟩ := Option.isSome_iff_exists.mp hsome
    rw [hp] at h
    exact (h _ rfl (getModelInfo_ret hal c p hp)).2
  · intro h r hr _
    obtain ⟨p, hp, rfl⟩ := Option.map_eq_some_iff.mp hr
    exact ⟨⟨p.2, rfl, getModelInfo_context hal c p hp⟩, h (by rw [hp]; rfl)⟩

/-- `rknn_init` reports success honestly iff it was given no data, or the memory was granted
and the HAL call failed in transport or returned success, with every query behind it served (or
an array for the attributes missing, so that it does not return). -/
theorem rknnInit_success_iff (hal : Hal) (pData : List UInt8) (size flag : UInt32) :
    (∀ r, rknnInit hal pData size flag = some r → r.ret = rknnSucc →
      (hal.allocate 0 size.toNat).isGranted = true ∧
      ∃ c ctx, initReply hal pData size flag = some (rknnSucc, c) ∧
        r.stored = some ctx ∧ ctx.context = c ∧ QueriesServed hal c) ↔
    size = 0 ∨ ((hal.allocate 0 size.toNat).isGranted = true ∧
      ∀ status c, initReply hal pData size flag = some (status, c) →
        status = rknnSucc ∧ (AttrsAllocated hal c → QueriesServed hal c)) := by
  unfold rknnInit initReply
  by_cases hsize : size = 0
  · simp [hsize, rknnSucc]
  · rw [if_neg hsize]
    cases halloc : hal.allocate 0 size.toNat with
    | transportError => simp [AllocReply.isGranted, hsize, rknnSucc]
    | refused => simp [AllocReply.isGranted, hsize, rknnSucc]
    | granted mem =>
      simp only [AllocReply.isGranted, hsize, false_or, true_and]
      generalize hal.rknnInit (initModel pData size mem) size flag = reply
      match reply with
      | none => simp [rknnSucc]
      | some (status, c) =>
        by_cases hs : status = rknnSucc
        · subst hs
          simp only [if_true]
          constructor
          · intro h status' c' he
            cases he
            refine ⟨rfl, (rknnInit_accepted_iff hal c).mp fun r hr hret => ?_⟩
            obtain ⟨c', ctx, he, hstored, hcontext, hqueries⟩ := h r hr hret
            cases he
            exact ⟨⟨ctx, hstored, hcontext⟩, hqueries⟩
          · intro h r hr hret
            obtain ⟨⟨ctx, hstored, hcontext⟩, hqueries⟩ :=
              (rknnInit_accepted_iff hal c).mpr (h _ c rfl).2 r hr hret
            exact ⟨c, ctx, rfl, hstored, hcontext, hqueries⟩
        · have hs' : ¬ status = 0 := hs
          simp [hs', rknnSucc]

/-! ## The other calls -/

theorem rknnQuery_success_iff (hal : Hal) (t : Nat) (context : UInt64) (cmd : RknnQueryCmd)
    (info : List UInt8) (size : UInt32) :
    ((rknnQuery hal t context cmd info size).1 = rknnSucc →
      (hal.allocate t size.toNat).isGranted = true ∧
        queryReply hal t context cmd info size = some rknnSucc) ↔
    size = 0 ∨ ((hal.allocate t size.toNat).isGranted = true ∧
      queryReply hal t context cmd info size = some rknnSucc) := by
  unfold rknnQuery queryReply
  by_cases hsize : size = 0
  · simp [hsize, rknnSucc]
  · rw [if_neg hsize]
    cases hal.allocate t size.toNat <;> simp [AllocReply.isGranted, hsize, rknnSucc]

theorem rknnInputsSet_success_iff (hal : Hal) (ctx : RknnContext) (inputs : List ClientInput) :
    (rknnInputsSet hal ctx inputs = rknnSucc →
      (hal.allocate 0 (intToUInt64 (poolSize (inputs.map fun x => x.size))).toNat).isGranted = true ∧
        inputsSetReply hal ctx inputs = some rknnSucc) ↔
    poolSize (inputs.map fun x => x.size) = 0 ∨
      ((hal.allocate 0 (intToUInt64 (poolSize (inputs.map fun x => x.size))).toNat).isGranted = true ∧
        inputsSetReply hal ctx inputs = some rknnSucc) := by
  unfold rknnInputsSet inputsSetReply
  simp only []
  by_cases hsize : poolSize (inputs.map fun x => x.size) = 0
  · simp [hsize, rknnSucc]
  · rw [if_neg hsize]
    cases hal.allocate 0 (intToUInt64 (poolSize (inputs.map fun x => x.size))).toNat with
    | transportError => simp [AllocReply.isGranted, hsize, rknnSucc]
    | refused => simp [AllocReply.isGranted, hsize, rknnSucc]
    | granted mem =>
      dsimp only
      generalize hal.rknnInputsSet ctx.context (inputsRequest hal.behindInputs inputs mem.val) = reply
      cases reply <;> simp [AllocReply.isGranted, hsize, rknnSucc]

theorem rknnRun_success_iff (hal : Hal) (ctx : RknnContext) (extend : Option UInt64) :
    (rknnRun hal ctx extend = rknnSucc →
      hal.rknnRun ctx.context (runExtend extend) = some rknnSucc) ↔
    ∀ status, hal.rknnRun ctx.context (runExtend extend) = some status → status = rknnSucc := by
  unfold rknnRun
  cases hal.rknnRun ctx.context (runExtend extend) <;> simp [rknnSucc]

theorem rknnOutputsGet_success_iff (hal : Hal) (ctx : RknnContext)
    (outputs : List (RknnOutput Nat)) (extend : Option UInt64) :
    ((rknnOutputsGet hal ctx outputs extend).ret = rknnSucc →
      (hal.allocate 0 (intToUInt64 (poolSize
        ((sizedOutputs ctx outputs).map fun x => x.size))).toNat).isGranted = true ∧
        outputsGetReply hal ctx outputs extend = some rknnSucc) ↔
    poolSize ((sizedOutputs ctx outputs).map fun x => x.size) = 0 ∨
      ((hal.allocate 0 (intToUInt64 (poolSize
        ((sizedOutputs ctx outputs).map fun x => x.size))).toNat).isGranted = true ∧
        outputsGetReply hal ctx outputs extend = some rknnSucc) := by
  unfold rknnOutputsGet outputsGetReply
  simp only []
  by_cases hsize : poolSize ((sizedOutputs ctx outputs).map fun x => x.size) = 0
  · simp [hsize, rknnSucc]
  · rw [if_neg hsize]
    cases hal.allocate 0 (intToUInt64 (poolSize
      ((sizedOutputs ctx outputs).map fun x => x.size))).toNat <;>
      simp [AllocReply.isGranted, hsize, rknnSucc]

/-- **When success means success.**  The five calls return `RKNN_SUCC` only after
a granted allocation, a transport that worked and a successful status (and
`rknn_init` only with the server's context stored and so with each of its queries)
exactly under these conditions on the sizes and the answers. -/
theorem bridge_success_iff (hal : Hal) :
    (∀ pData size flag,
      (∀ r, rknnInit hal pData size flag = some r → r.ret = rknnSucc →
        (hal.allocate 0 size.toNat).isGranted = true ∧
        ∃ c ctx, initReply hal pData size flag = some (rknnSucc, c) ∧
          r.stored = some ctx ∧ ctx.context = c ∧ QueriesServed hal c) ↔
      size = 0 ∨ ((hal.allocate 0 size.toNat).isGranted = true ∧
        ∀ status c, initReply hal pData size flag = some (status, c) →
          status = rknnSucc ∧ (AttrsAllocated hal c → QueriesServed hal c))) ∧
    (∀ t context cmd info size,
      ((rknnQuery hal t context cmd info size).1 = rknnSucc →
        (hal.allocate t size.toNat).isGranted = true ∧
          queryReply hal t context cmd info size = some rknnSucc) ↔
      size = 0 ∨ ((hal.allocate t size.toNat).isGranted = true ∧
        queryReply hal t context cmd info size = some rknnSucc)) ∧
    (∀ ctx (inputs : List ClientInput),
      (rknnInputsSet hal ctx inputs = rknnSucc →
        (hal.allocate 0 (intToUInt64 (poolSize (inputs.map fun x => x.size))).toNat).isGranted = true ∧
          inputsSetReply hal ctx inputs = some rknnSucc) ↔
      totalSize (inputs.map fun x => x.size) % 2 ^ 32 = 0 ∨
        ((hal.allocate 0 (intToUInt64 (poolSize (inputs.map fun x => x.size))).toNat).isGranted = true ∧
          inputsSetReply hal ctx inputs = some rknnSucc)) ∧
    (∀ ctx extend,
      (rknnRun hal ctx extend = rknnSucc →
        hal.rknnRun ctx.context (runExtend extend) = some rknnSucc) ↔
      ∀ status, hal.rknnRun ctx.context (runExtend extend) = some status → status = rknnSucc) ∧
    (∀ ctx outputs extend,
      ((rknnOutputsGet hal ctx outputs extend).ret = rknnSucc →
        (hal.allocate 0 (intToUInt64 (poolSize
          ((sizedOutputs ctx outputs).map fun x => x.size))).toNat).isGranted = true ∧
          outputsGetReply hal ctx outputs extend = some rknnSucc) ↔
      totalSize ((sizedOutputs ctx outputs).map fun x => x.size) % 2 ^ 32 = 0 ∨
        ((hal.allocate 0 (intToUInt64 (poolSize
          ((sizedOutputs ctx outputs).map fun x => x.size))).toNat).isGranted = true ∧
          outputsGetReply hal ctx outputs extend = some rknnSucc)) := by
  refine ⟨rknnInit_success_iff hal, rknnQuery_success_iff hal, fun ctx inputs => ?_,
    rknnRun_success_iff hal, fun ctx outputs extend => ?_⟩
  · rw [← poolSize_eq_zero_iff]
    exact rknnInputsSet_success_iff hal ctx inputs
  · rw [← poolSize_eq_zero_iff]
    exact rknnOutputsGet_success_iff hal ctx outputs extend

/-- The allocator grants zeroed memory iff `grant`; every call goes through, and
the server's status is `status`. -/
def answeringHal (grant : Bool) (status : V1_0.ErrorStatus) : Hal where
  allocate := fun _ n => if grant then .granted ⟨List.replicate n 0, by simp⟩ else .refused
  rknnInit := fun _ _ _ => some (status, 1)
  rknnQuery := fun _ _ _ info _ => (some status, ⟨info.bytes, rfl⟩)
  rknnInputsSet := fun _ _ => some status
  rknnRun := fun _ _ => some status
  rknnOutputsGet := fun _ response _ => (some status, ⟨response.pool.bytes, rfl⟩)
  mallocAttrs := (true, true)
  mallocOutput := fun i => i + 1
  behindAttrs := fun _ => (0, 0)
  behindInputs := fun _ => ⟨0, ⟨0, 0, 0⟩, 0, .uint8, .nhwc⟩
  behindOutputs := fun _ => ⟨0, 0, ⟨0, 0, 0⟩, ⟨0, 0, 0⟩⟩

def emptyContext : RknnContext := ⟨1, 0, 0, [], ⟨[], fun _ => ⟨0, 0⟩⟩⟩

/-- The server takes the model and answers every query with -1. -/
def queryRefusingHal : Hal := { answeringHal true (-1) with rknnInit := fun _ _ _ => some (0, 1) }

/-- All five calls return `RKNN_SUCC` on a status of -1 from the server, and `rknn_init` stores
no context; so they do, `rknn_run` apart, on a refused allocation, and `rknn_init` when its first
query is answered with -1. -/
theorem bridge_success_on_failure :
    (rknnInit (answeringHal true (-1)) [0] 1 0 = some ⟨rknnSucc, none⟩ ∧
      initReply (answeringHal true (-1)) [0] 1 0 = some (-1, 1)) ∧
    ((rknnQuery (answeringHal true (-1)) 0 1 .sdkVersion [0] 1).1 = rknnSucc ∧
      queryReply (answeringHal true (-1)) 0 1 .sdkVersion [0] 1 = some (-1)) ∧
    (rknnInputsSet (answeringHal true (-1)) emptyContext [byteInput 0 1] = rknnSucc ∧
      inputsSetReply (answeringHal true (-1)) emptyContext [byteInput 0 1] = some (-1)) ∧
    (rknnRun (answeringHal true (-1)) emptyContext none = rknnSucc ∧
      (answeringHal true (-1)).rknnRun emptyContext.context (runExtend none) = some (-1)) ∧
    ((rknnOutputsGet (answeringHal true (-1)) emptyContext [⟨0, 1, 0, 1, 4⟩] none).ret = rknnSucc ∧
      outputsGetReply (answeringHal true (-1)) emptyContext [⟨0, 1, 0, 1, 4⟩] none = some (-1)) ∧
    ((answeringHal false 0).allocate 0 1).isGranted = false ∧
      rknnInit (answeringHal false 0) [0] 1 0 = some ⟨rknnSucc, none⟩ ∧
      (rknnQuery (answeringHal false 0) 0 1 .sdkVersion [0] 1).1 = rknnSucc ∧
      rknnInputsSet (answeringHal false 0) emptyContext [byteInput 0 1] = rknnSucc ∧
      (rknnOutputsGet (answeringHal false 0) emptyContext [⟨0, 1, 0, 1, 4⟩] none).ret = rknnSucc ∧
    (∃ ctx, rknnInit queryRefusingHal [0] 1 0 = some ⟨rknnSucc, some ctx⟩) ∧
      queryReply queryRefusingHal 1 1 .inOutNum (List.replicate 8 0) sizeofInputOutputNum =
        some (-1) := by
  exact ⟨⟨rfl, rfl⟩, ⟨rfl, rfl⟩, ⟨rfl, rfl⟩, ⟨rfl, rfl⟩, ⟨rfl, rfl⟩, rfl, rfl, rfl, rfl, rfl,
    ⟨_, rfl⟩, rfl⟩

end RockchipHal.NeuralNetworks.Builder
