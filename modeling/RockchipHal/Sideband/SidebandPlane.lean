import RockchipHal.Lib.Ledger
import RockchipHal.Sideband.OutputDetect

/-!
# `DrmVopRender`: finding the sideband plane

`FindSidebandPlane` walks the planes of a connected output, and of each its properties,
for one that is `ASYNC_COMMIT` and has a value.  Every object it fetches is an entry of
its ledger.  When all lookups succeed,

    result = find? over the planes,  ledger of a plane = plane (properties (property*))

so the first such plane is found (`planeLoop_ret`), and the objects, nested inside each
other, have all been freed once (`planeLoop_givesBack`).
-/

namespace RockchipHal.Sideband

/-! ## FindSidebandPlane -/

structure DrmPlane where
  planeId : UInt32
deriving DecidableEq, Repr

/-- What the kernel answers, in the turn of the `i`-th plane. -/
structure PlaneReplies where
  plane : (i : Nat) → (id : UInt32) → Option DrmPlane
  /-- `drmModeObjectGetProperties` of a plane -/
  props : (i : Nat) → (planeId : UInt32) → Option (List DrmProperty)
  /-- `drmModeGetProperty` of its `j`-th property fails -/
  fails : (i j : Nat) → Bool

/-- An object fetched in the turn of the `i`-th plane. -/
inductive PlaneObject
  | plane (i : Nat)
  | props (i : Nat)
  | property (i j : Nat)
deriving DecidableEq, Repr

def PlaneObject.turn : PlaneObject → Nat
  | .plane i | .props i | .property i _ => i

/-- The id found or what the function fails with, and the objects fetched and freed. -/
structure PlaneSearch where
  ret : Except VopFault Int32
  ledger : List (Tx PlaneObject)

/-- `-ENODEV`. -/
def minusEnodev : Int32 := -19

def isAsyncCommit (prop : DrmProperty) : Bool := prop.name = "ASYNC_COMMIT" ∧ prop.value ≠ 0

/-- The loop over a plane's properties: whether one matches. -/
def propLoop (replies : PlaneReplies) (i : Nat) :
    (j : Nat) → List DrmProperty → Except VopFault Bool × List (Tx PlaneObject)
  | _, [] => (.ok false, [])
  | j, prop :: props =>
    if replies.fails i j then (.error .nullProperty, [])
    else if isAsyncCommit prop then
      (.ok true, [.acquire (.property i j), .release (.property i j)])
    else
      let rest := propLoop replies i (j + 1) props
      (rest.1, [.acquire (.property i j), .release (.property i j)] ++ rest.2)

/-- What `find_plan_id` is turned into behind the loop. -/
def planeFound (found : Int32) : Int32 := if found = 0 then -1 else found

/-- The loop over the planes; `found` is `find_plan_id`. -/
def planeLoop (replies : PlaneReplies) :
    (i : Nat) → List UInt32 → (found : Int32) → PlaneSearch
  | _, [], found => ⟨.ok (planeFound found), []⟩
  | i, id :: ids, found =>
    match replies.plane i id with
    | none => ⟨.error .nullPlane, []⟩
    | some plane =>
      match replies.props i plane.planeId with
      | none => ⟨.ok minusEnodev, [.acquire (.plane i)]⟩
      | some props =>
        let walk := propLoop replies i 0 props
        match walk.1 with
        | .error fault => ⟨.error fault, .acquire (.plane i) :: .acquire (.props i) :: walk.2⟩
        | .ok isMatch =>
          let found := if isMatch then plane.planeId.toInt32 else found
          let ledger := .acquire (.plane i) ::
            (.acquire (.props i) :: (walk.2 ++ [.release (.props i)]) ++ [.release (.plane i)])
          if found > 0 then ⟨.ok (planeFound found), ledger⟩
          else
            let rest := planeLoop replies (i + 1) ids found
            ⟨rest.ret, ledger ++ rest.ledger⟩

/-- Without an output for the device, or when it is not connected, `false` is returned. -/
def findSidebandPlane (r : DrmVop) (device : Int32) (replies : PlaneReplies) : PlaneSearch :=
  match getOutputIndex device with
  | none => ⟨.ok 0, []⟩
  | some index =>
    if (r.mOutputs index).connected = false then ⟨.ok 0, []⟩
    else
      match (r.mOutputs index).planeRes with
      | none => ⟨.error .nullPlaneRes, []⟩
      | some ids => planeLoop replies 0 ids 0

/-- The function dereferences no crtc. -/
theorem propLoop_fault (replies : PlaneReplies) (i j : Nat) (props : List DrmProperty) :
    (propLoop replies i j props).1 ≠ .error .nullCrtc := by
  induction props generalizing j with
  | nil => exact fun h => by cases h
  | cons prop props ih =>
    unfold propLoop
    split
    · exact fun h => by cases h
    · split
      · exact fun h => by cases h
      · exact ih (j + 1)

theorem planeLoop_fault (replies : PlaneReplies) (i : Nat) (ids : List UInt32) (found : Int32) :
    (planeLoop replies i ids found).ret ≠ .error .nullCrtc := by
  induction ids generalizing i found with
  | nil => exact fun h => by cases h
  | cons id ids ih =>
    unfold planeLoop
    split
    · exact fun h => by cases h
    · split
      · exact fun h => by cases h
      · next props _ =>
        have hwalk := propLoop_fault replies i 0 props
        dsimp only
        split
        · next fault hfault =>
          intro h
          rw [hfault] at hwalk
          exact hwalk (congrArg Except.error (Except.error.inj h))
        · next isMatch _ =>
          generalize (if isMatch = true then _ else found) = found'
          split
          · exact fun h => by cases h
          · exact ih (i + 1) found'

theorem findSidebandPlane_fault (r : DrmVop) (device : Int32) (replies : PlaneReplies) :
    (findSidebandPlane r device replies).ret ≠ .error .nullCrtc := by
  unfold findSidebandPlane
  split
  · exact fun h => by cases h
  · split
    · exact fun h => by cases h
    · split
      · exact fun h => by cases h
      · exact planeLoop_fault replies 0 _ 0

/-! ## When all lookups succeed -/

/-- Each plane is found under its id, with properties that can all be looked up. -/
structure PlanesAnswer (replies : PlaneReplies) (propsOf : UInt32 → List DrmProperty)
    (ids : List UInt32) : Prop where
  plane : ∀ i, ∀ id ∈ ids, replies.plane i id = some ⟨id⟩
  props : ∀ i, ∀ id ∈ ids, replies.props i id = some (propsOf id)
  property : ∀ i j, replies.fails i j = false

theorem PlanesAnswer.tail {replies : PlaneReplies} {propsOf : UInt32 → List DrmProperty}
    {id : UInt32} {ids : List UInt32} (h : PlanesAnswer replies propsOf (id :: ids)) :
    PlanesAnswer replies propsOf ids where
  plane := fun i a ha => h.plane i a (List.mem_cons_of_mem _ ha)
  props := fun i a ha => h.props i a (List.mem_cons_of_mem _ ha)
  property := h.property

/-- The plane has an `ASYNC_COMMIT` property with a value. -/
def hasAsyncCommit (propsOf : UInt32 → List DrmProperty) (id : UInt32) : Bool :=
  (propsOf id).any isAsyncCommit

section

variable {replies : PlaneReplies} (hfails : ∀ i j, replies.fails i j = false)
include hfails

theorem propLoop_ret (i j : Nat) (props : List DrmProperty) :
    (propLoop replies i j props).1 = .ok (props.any isAsyncCommit) := by
  induction props generalizing j with
  | nil => rfl
  | cons prop props ih =>
    unfold propLoop
    rw [if_neg (by simp [hfails]), List.any_cons]
    by_cases hprop : isAsyncCommit prop = true
    · rw [if_pos hprop, hprop]
      rfl
    · have hfalse : isAsyncCommit prop = false := by simpa using hprop
      rw [if_neg hprop, hfalse, Bool.false_or]
      exact ih (j + 1)

/-- One property after the other, each freed before the next. -/
theorem propLoop_givesBack (i j : Nat) (props : List DrmProperty) :
    GivesBack (propLoop replies i j props).2 ∧
      ∀ r, .acquire r ∈ (propLoop replies i j props).2 → ∃ j', r = .property i j' ∧ j ≤ j' := by
  induction props generalizing j with
  | nil => exact ⟨GivesBack.nil, fun r hr => by cases hr⟩
  | cons prop props ih =>
    have hone : GivesBack [Tx.acquire (PlaneObject.property i j), .release (.property i j)] :=
      GivesBack.nil.nest (by simp)
    unfold propLoop
    rw [if_neg (by simp [hfails])]
    by_cases hprop : isAsyncCommit prop = true
    · rw [if_pos hprop]
      refine ⟨hone, fun r hr => ⟨j, ?_, Nat.le_refl j⟩⟩
      simpa using hr
    · obtain ⟨hrest, hturn⟩ := ih (j + 1)
      rw [if_neg hprop]
      refine ⟨hone.append hrest fun r hr hr' => ?_, fun r hr => ?_⟩
      · obtain ⟨j', rfl, hle⟩ := hturn r hr'
        have hj : j' = j := by simpa using hr
        omega
      · rcases List.mem_append.mp hr with hr | hr
        · exact ⟨j, by simpa using hr, Nat.le_refl j⟩
        · obtain ⟨j', hj', hle⟩ := hturn r hr
          exact ⟨j', hj', by omega⟩

end

theorem toInt_toInt32 {id : UInt32} (h : id.toNat < 2 ^ 31) : id.toInt32.toInt = id.toNat := by
  show id.toBitVec.toInt = id.toBitVec.toNat
  exact BitVec.toInt_eq_toNat_of_lt (show 2 * id.toNat < 2 ^ 32 by omega)

theorem toInt32_pos {id : UInt32} (hpos : 0 < id.toNat) (h : id.toNat < 2 ^ 31) :
    0 < id.toInt32 := by
  rw [Int32.lt_iff_toInt_lt, toInt_toInt32 h]
  show (0 : Int) < id.toNat
  omega

/-- The objects of one plane. -/
def planeLedger (i : Nat) (walk : List (Tx PlaneObject)) : List (Tx PlaneObject) :=
  .acquire (.plane i) ::
    (.acquire (.props i) :: (walk ++ [.release (.props i)]) ++ [.release (.plane i)])

section

variable {replies : PlaneReplies} {propsOf : UInt32 → List DrmProperty}

/-- A plane that matches ends the loop, any other leaves it to the rest. -/
theorem planeLoop_cons {id : UInt32} {ids : List UInt32}
    (h : PlanesAnswer replies propsOf (id :: ids)) (hpos : 0 < id.toNat)
    (hlt : id.toNat < 2 ^ 31) (i : Nat) :
    planeLoop replies i (id :: ids) 0 =
      if hasAsyncCommit propsOf id then
        ⟨.ok id.toInt32, planeLedger i (propLoop replies i 0 (propsOf id)).2⟩
      else
        ⟨(planeLoop replies (i + 1) ids 0).ret,
          planeLedger i (propLoop replies i 0 (propsOf id)).2 ++
            (planeLoop replies (i + 1) ids 0).ledger⟩ := by
  have hfound := toInt32_pos hpos hlt
  have hne : id.toInt32 ≠ 0 := fun hzero => by
    rw [hzero] at hfound
    exact absurd hfound (by decide)
  have hwalk := propLoop_ret h.property i 0 (propsOf id)
  conv =>
    lhs
    unfold planeLoop
  rw [h.plane i id List.mem_cons_self]
  dsimp only
  rw [h.props i id List.mem_cons_self]
  dsimp only
  rw [hwalk]
  dsimp only
  unfold hasAsyncCommit
  cases (propsOf id).any isAsyncCommit with
  | true =>
    rw [if_pos rfl, if_pos rfl, if_pos hfound]
    unfold planeFound
    rw [if_neg hne]
    rfl
  | false =>
    have hnot : ¬ (0 : Int32) > 0 := by decide
    simp only [Bool.false_eq_true, if_false]
    rw [if_neg hnot]
    rfl

/-- The first plane that matches, or -1. -/
theorem planeLoop_ret {ids : List UInt32} (h : PlanesAnswer replies propsOf ids)
    (hids : ∀ id ∈ ids, 0 < id.toNat ∧ id.toNat < 2 ^ 31) (i : Nat) :
    (planeLoop replies i ids 0).ret =
      .ok (((ids.find? (hasAsyncCommit propsOf)).map UInt32.toInt32).getD (-1)) := by
  induction ids generalizing i with
  | nil => rfl
  | cons id ids ih =>
    obtain ⟨⟨hpos, hlt⟩, hrest⟩ := List.forall_mem_cons.mp hids
    rw [planeLoop_cons h hpos hlt]
    by_cases hmatch : hasAsyncCommit propsOf id = true
    · rw [if_pos hmatch, List.find?_cons_of_pos hmatch]
      rfl
    · rw [if_neg hmatch, List.find?_cons_of_neg hmatch]
      exact ih h.tail hrest (i + 1)

/-- Properties inside the property list inside the plane. -/
theorem planeLedger_givesBack (hfails : ∀ i j, replies.fails i j = false) (i : Nat)
    (props : List DrmProperty) :
    GivesBack (planeLedger i (propLoop replies i 0 props).2) ∧
      ∀ r, .acquire r ∈ planeLedger i (propLoop replies i 0 props).2 → r.turn = i := by
  obtain ⟨hwalk, hproperty⟩ := propLoop_givesBack hfails i 0 props
  have hprops : .acquire (PlaneObject.props i) ∉ (propLoop replies i 0 props).2 := by
    intro hr
    obtain ⟨j, hj, -⟩ := hproperty _ hr
    cases hj
  have hplane : .acquire (PlaneObject.plane i) ∉
      .acquire (.props i) :: ((propLoop replies i 0 props).2 ++ [.release (.props i)]) := by
    intro hr
    have hr : .acquire (PlaneObject.plane i) ∈ (propLoop replies i 0 props).2 := by simpa using hr
    obtain ⟨j, hj, -⟩ := hproperty _ hr
    cases hj
  refine ⟨(hwalk.nest hprops).nest hplane, fun r hr => ?_⟩
  have hr : r = .plane i ∨ r = .props i ∨ .acquire r ∈ (propLoop replies i 0 props).2 := by
    simpa [planeLedger] using hr
  rcases hr with rfl | rfl | hr
  · rfl
  · rfl
  · obtain ⟨j, rfl, -⟩ := hproperty r hr
    rfl

/-- One plane after the other. -/
theorem planeLoop_givesBack {ids : List UInt32} (h : PlanesAnswer replies propsOf ids)
    (hids : ∀ id ∈ ids, 0 < id.toNat ∧ id.toNat < 2 ^ 31) (i : Nat) :
    GivesBack (planeLoop replies i ids 0).ledger ∧
      ∀ r, .acquire r ∈ (planeLoop replies i ids 0).ledger → i ≤ r.turn := by
  induction ids generalizing i with
  | nil => exact ⟨GivesBack.nil, fun r hr => by cases hr⟩
  | cons id ids ih =>
    obtain ⟨⟨hpos, hlt⟩, hrest⟩ := List.forall_mem_cons.mp hids
    obtain ⟨hplane, hturn⟩ := planeLedger_givesBack h.property i (propsOf id)
    rw [planeLoop_cons h hpos hlt]
    split
    · exact ⟨hplane, fun r hr => Nat.le_of_eq (hturn r hr).symm⟩
    · obtain ⟨hlater, hturn'⟩ := ih h.tail hrest (i + 1)
      refine ⟨hplane.append hlater fun r hr hr' => ?_, fun r hr => ?_⟩
      · have hi := hturn r hr
        have hle := hturn' r hr'
        omega
      · rcases List.mem_append.mp hr with hr | hr
        · exact Nat.le_of_eq (hturn r hr).symm
        · have hle := hturn' r hr
          omega

end

/-- On a connected output whose planes answer: the id of the first plane that has an
`ASYNC_COMMIT` property with a value, or -1, and every object fetched freed once. -/
theorem findSidebandPlane_first (r : DrmVop) (device : Int32) (index : OutputIndex)
    (hindex : getOutputIndex device = some index)
    (hconnected : (r.mOutputs index).connected = true) (ids : List UInt32)
    (hplanes : (r.mOutputs index).planeRes = some ids) (replies : PlaneReplies)
    (propsOf : UInt32 → List DrmProperty) (h : PlanesAnswer replies propsOf ids)
    (hids : ∀ id ∈ ids, 0 < id.toNat ∧ id.toNat < 2 ^ 31) :
    (∃ planeId : Int32, (findSidebandPlane r device replies).ret = .ok planeId ∧
        planeId.toInt = ((ids.find? (hasAsyncCommit propsOf)).map fun id =>
          (id.toNat : Int)).getD (-1)) ∧
      GivesBack (findSidebandPlane r device replies).ledger := by
  have hfind : findSidebandPlane r device replies = planeLoop replies 0 ids 0 := by
    unfold findSidebandPlane
    rw [hindex]
    dsimp only
    rw [if_neg (by simp [hconnected]), hplanes]
  rw [hfind]
  refine ⟨⟨_, planeLoop_ret h hids 0, ?_⟩, (planeLoop_givesBack h hids 0).1⟩
  cases hfirst : ids.find? (hasAsyncCommit propsOf) with
  | none => rfl
  | some id => exact toInt_toInt32 (hids id (List.mem_of_find?_eq_some hfirst)).2

/-- Two planes, the second of which matches. -/
def twoPlanes : PlaneReplies where
  plane := fun _ id => some ⟨id⟩
  props := fun _ id => some [⟨"ASYNC_COMMIT", if id = 8 then 1 else 0⟩]
  fails := fun _ _ => false

theorem findSidebandPlane_twoPlanes :
    ∃ planeId : Int32, (findSidebandPlane
        (freshVop.setOutput .primary { emptyOutput with connected := true, planeRes := some [7, 8] })
        0 twoPlanes).ret = .ok planeId ∧ planeId.toInt = 8 := by
  refine (findSidebandPlane_first _ 0 .primary rfl rfl [7, 8] rfl twoPlanes
    (fun id => [⟨"ASYNC_COMMIT", if id = 8 then 1 else 0⟩])
    ⟨fun _ _ _ => rfl, fun _ _ _ => rfl, fun _ _ => rfl⟩ fun id hid => ?_).1
  rcases List.mem_cons.mp hid with rfl | hid
  · exact ⟨by decide, by decide⟩
  · obtain rfl := List.mem_singleton.mp hid
    exact ⟨by decide, by decide⟩

end RockchipHal.Sideband
