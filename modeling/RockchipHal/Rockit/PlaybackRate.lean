import RockchipHal.Lib.Reach

/-!
# `RockitPlayerManager`: the playback rate

The rate set last lives in the manager (`mAudioPlayRate`), in a flag that it is still to
be given to a sink (`mAudioPlayRateChanged`), and in the sink it was given to.  The flag
is raised only while there is no sink, and the first sink lowers it:

    no sink : the manager has the rate, and the flag is up if there is one   (Kept.pending)
    a sink  : the flag is down, and the sink was given the rate              (Kept.given)

So a second sink is given no rate, unless it has it already (`SetsInTime`).  And what
`getPlaybackSettings` reports is the sink's answer, which is another rate while the sink
is not open (`ReportsWhen`).
-/

namespace RockchipHal.Rockit

variable {Rate : Type}

/-- What the code takes of rates: the range test of `setPlaybackSettings`, the manager's
`AUDIO_PLAYBACK_RATE_DEFAULT`, and the rate `RTAudioSinkCallback` answers for a sink that is
not prepared. -/
structure RateRules (Rate : Type) where
  inRange : Rate → Bool
  playbackRateDefault : Rate
  notPrepared : Rate

/-- `sp<MediaPlayerBase::AudioSink>`, as the sink pointed to. -/
abbrev SinkId := Nat

/-- `own` is its rate before `setPlaybackRate` gives it one. -/
structure AudioSink (Rate : Type) where
  opened : Bool
  given : Option Rate
  own : Rate
deriving DecidableEq, Repr

namespace AudioSink

/-- `none` is an error. -/
def getPlaybackRate (k : AudioSink Rate) : Option Rate :=
  if k.opened then some (k.given.getD k.own) else none

def setPlaybackRate (k : AudioSink Rate) (rate : Rate) : AudioSink Rate :=
  { k with given := some rate }

end AudioSink

/-- `mAudioSinkCB` is the sink the callback object wraps. -/
structure RockitPlayerManager (Rate : Type) where
  mAudioSinkCB : Option SinkId
  mAudioPlayRate : Rate
  mAudioPlayRateChanged : Bool

/-- The manager and the sinks; `accepted` is the last rate `setPlaybackSettings` accepted. -/
structure Player (Rate : Type) where
  manager : RockitPlayerManager Rate
  sinks : SinkId → AudioSink Rate
  accepted : Option Rate

namespace Player

variable (rules : RateRules Rate)

def start (sinks : SinkId → AudioSink Rate) : Player Rate :=
  ⟨⟨none, rules.playbackRateDefault, false⟩, sinks, none⟩

/-- `RTAudioSinkCallback::getPlaybackRate`, which never fails. -/
def callbackRate (k : AudioSink Rate) : Rate := k.getPlaybackRate.getD rules.notPrepared

/-- `RTAudioSinkCallback::setPlaybackRate`. -/
def giveRate (p : Player Rate) (k : SinkId) (rate : Rate) : Player Rate :=
  { p with sinks := fun i => if i = k then (p.sinks i).setPlaybackRate rate else p.sinks i }

def setAudioSink (p : Player Rate) (k : SinkId) : Player Rate :=
  let p := { p with manager := { p.manager with mAudioSinkCB := some k } }
  if p.manager.mAudioPlayRateChanged then
    let p := p.giveRate k p.manager.mAudioPlayRate
    { p with manager := { p.manager with mAudioPlayRateChanged := false } }
  else p

/-- `*rate`, and the player afterwards. -/
def getPlaybackSettings (p : Player Rate) : Rate × Player Rate :=
  match p.manager.mAudioSinkCB with
  | some k =>
    let rate := callbackRate rules (p.sinks k)
    (rate, { p with manager := { p.manager with mAudioPlayRate := rate } })
  | none => (p.manager.mAudioPlayRate, p)

/-- `mCtx->mAudioPlayRate = rate`. -/
def accept (p : Player Rate) (rate : Rate) : Player Rate :=
  { p with
    manager := { p.manager with mAudioPlayRate := rate }
    accepted := some rate }

/-- `BAD_VALUE` or `OK`, and the player afterwards. -/
def setPlaybackSettings (p : Player Rate) (rate : Rate) : Int × Player Rate :=
  if rules.inRange rate then
    match p.manager.mAudioSinkCB with
    | some k => (0, (p.accept rate).giveRate k rate)
    | none =>
      (0, { p.accept rate with
        manager := { (p.accept rate).manager with mAudioPlayRateChanged := true } })
  else (-22, p)

/-- The player opens a sink. -/
def openSink (p : Player Rate) (k : SinkId) : Player Rate :=
  { p with sinks := fun i => if i = k then { p.sinks i with opened := true } else p.sinks i }

inductive Action (Rate : Type)
  | setAudioSink (sink : SinkId)
  | setPlaybackSettings (rate : Rate)
  | getPlaybackSettings
  | openSink (sink : SinkId)
deriving DecidableEq

def next (p : Player Rate) : Action Rate → Player Rate
  | .setAudioSink k => p.setAudioSink k
  | .setPlaybackSettings rate => (setPlaybackSettings rules p rate).2
  | .getPlaybackSettings => (getPlaybackSettings rules p).2
  | .openSink k => p.openSink k

def step (p : Player Rate) (a : Action Rate) : Option (Player Rate) := some (next rules p a)

/-! ## What is asked of a state -/

/-- The current sink was given the last rate accepted. -/
def Given (p : Player Rate) : Prop :=
  ∀ k ∈ p.manager.mAudioSinkCB, ∀ rate ∈ p.accepted, (p.sinks k).given = some rate

/-- `getPlaybackSettings` reports that rate. -/
def Reports (p : Player Rate) : Prop :=
  ∀ rate ∈ p.accepted, (getPlaybackSettings rules p).1 = rate

/-- A `getPlaybackSettings` changes nothing that any sink is given, whatever follows. -/
def GetHidden (p : Player Rate) : Prop :=
  ∀ later : List (Action Rate),
    (later.foldl (next rules) (getPlaybackSettings rules p).2).sinks =
      (later.foldl (next rules) p).sinks

/-- A new sink comes before any rate, or while one is waiting for it, or has it already. -/
def SetsInTime (p : Player Rate) : Action Rate → Prop
  | .setAudioSink k =>
    p.accepted = none ∨ p.manager.mAudioPlayRateChanged = true ∨ (p.sinks k).given = p.accepted
  | _ => True

/-- No sink has been set, or it is open, or the rate is the one answered for it. -/
def ReportsWhen (p : Player Rate) : Prop :=
  ∀ k ∈ p.manager.mAudioSinkCB, (p.sinks k).opened = true ∨ ∀ rate ∈ p.accepted,
    rate = rules.notPrepared

instance [DecidableEq Rate] (p : Player Rate) : (a : Action Rate) → Decidable (p.SetsInTime a)
  | .setAudioSink _ => inferInstanceAs (Decidable (_ ∨ _))
  | .setPlaybackSettings _ | .getPlaybackSettings | .openSink _ =>
    inferInstanceAs (Decidable True)

/-! ## The invariant -/

structure Kept (p : Player Rate) : Prop where
  given : p.Given
  pending : p.manager.mAudioSinkCB = none → (p.manager.mAudioPlayRateChanged = true ↔
    p.accepted ≠ none) ∧ ∀ rate ∈ p.accepted, p.manager.mAudioPlayRate = rate
  lowered : p.manager.mAudioSinkCB ≠ none → p.manager.mAudioPlayRateChanged = false

theorem start_kept (sinks : SinkId → AudioSink Rate) : Kept (start rules sinks) where
  given := by
    intro k hk
    cases hk
  pending := by
    intro _
    refine ⟨⟨?_, fun h => absurd rfl h⟩, ?_⟩
    · intro h
      cases h
    · intro rate h
      cases h
  lowered := fun h => absurd rfl h

theorem giveRate_given (p : Player Rate) (k : SinkId) (rate : Rate) :
    ((p.giveRate k rate).sinks k).given = some rate := by
  show (if k = k then (p.sinks k).setPlaybackRate rate else p.sinks k).given = some rate
  rw [if_pos rfl]
  rfl

theorem giveRate_sinks_congr {p q : Player Rate} (h : p.sinks = q.sinks) (k : SinkId)
    (rate : Rate) : (p.giveRate k rate).sinks = (q.giveRate k rate).sinks := by
  unfold giveRate
  rw [h]

theorem setAudioSink_changed {p : Player Rate} (h : p.manager.mAudioPlayRateChanged = true)
    (k : SinkId) :
    p.setAudioSink k = { p.giveRate k p.manager.mAudioPlayRate with
      manager := { p.manager with mAudioSinkCB := some k, mAudioPlayRateChanged := false } } := by
  unfold setAudioSink
  rw [if_pos h]
  rfl

theorem setAudioSink_unchanged {p : Player Rate} (h : p.manager.mAudioPlayRateChanged ≠ true)
    (k : SinkId) :
    p.setAudioSink k = { p with manager := { p.manager with mAudioSinkCB := some k } } := by
  unfold setAudioSink
  rw [if_neg h]

theorem openSink_given (p : Player Rate) (k i : SinkId) :
    ((p.openSink k).sinks i).given = (p.sinks i).given := by
  show (if i = k then { p.sinks i with opened := true } else p.sinks i).given = _
  split <;> rfl

namespace Kept

variable {p : Player Rate}

/-- A rate that waits is the one accepted. -/
theorem of_changed (h : Kept p) (hchanged : p.manager.mAudioPlayRateChanged = true) :
    ∀ rate ∈ p.accepted, p.manager.mAudioPlayRate = rate := by
  have hnone : p.manager.mAudioSinkCB = none := by
    by_contra hsome
    rw [h.lowered hsome] at hchanged
    cases hchanged
  exact (h.pending hnone).2

theorem setAudioSink (h : Kept p) (k : SinkId) (hok : p.SetsInTime (.setAudioSink k)) :
    Kept (p.setAudioSink k) := by
  by_cases hchanged : p.manager.mAudioPlayRateChanged = true
  · rw [setAudioSink_changed hchanged]
    refine ⟨?_, ?_, fun _ => rfl⟩
    · intro i hi rate hrate
      cases hi
      show ((p.giveRate k p.manager.mAudioPlayRate).sinks k).given = some rate
      rw [giveRate_given, h.of_changed hchanged rate hrate]
    · intro hno
      cases hno
  · rw [setAudioSink_unchanged hchanged]
    refine ⟨?_, ?_, fun _ => Bool.eq_false_iff.mpr hchanged⟩
    · intro i hi rate hrate
      cases hi
      have hrate : p.accepted = some rate := hrate
      show (p.sinks k).given = some rate
      rcases hok with hnone | hchanged' | hgiven
      · rw [hnone] at hrate
        cases hrate
      · exact absurd hchanged' hchanged
      · rw [hgiven, hrate]
    · intro hno
      cases hno

theorem setPlaybackSettings (h : Kept p) (rate : Rate) :
    Kept (Player.setPlaybackSettings rules p rate).2 := by
  unfold Player.setPlaybackSettings
  split
  · cases hcb : p.manager.mAudioSinkCB with
    | some k =>
      refine ⟨?_, ?_, fun _ => h.lowered ?_⟩
      · intro i hi r hr
        cases hr
        have hi : p.manager.mAudioSinkCB = some i := hi
        rw [hcb] at hi
        cases hi
        exact giveRate_given (p.accept rate) k rate
      · intro hno
        have hno : p.manager.mAudioSinkCB = none := hno
        rw [hcb] at hno
        cases hno
      · rw [hcb]
        exact Option.some_ne_none k
    | none =>
      refine ⟨?_, fun _ => ⟨⟨fun _ => Option.some_ne_none rate, fun _ => rfl⟩, ?_⟩, ?_⟩
      · intro i hi
        have hi : p.manager.mAudioSinkCB = some i := hi
        rw [hcb] at hi
        cases hi
      · intro r hr
        cases hr
        rfl
      · intro hsome
        exact absurd hcb hsome
  · exact h

theorem getPlaybackSettings (h : Kept p) : Kept (Player.getPlaybackSettings rules p).2 := by
  unfold Player.getPlaybackSettings
  cases hcb : p.manager.mAudioSinkCB with
  | some k =>
    refine ⟨h.given, ?_, h.lowered⟩
    intro hno
    have hno : p.manager.mAudioSinkCB = none := hno
    rw [hcb] at hno
    cases hno
  | none => exact h

theorem openSink (h : Kept p) (k : SinkId) : Kept (p.openSink k) where
  given := by
    intro i hi rate hrate
    rw [openSink_given]
    exact h.given i hi rate hrate
  pending := h.pending
  lowered := h.lowered

/-- Every action keeps the rate, a new sink if it comes in time. -/
theorem next (h : Kept p) (a : Action Rate) (hok : p.SetsInTime a) : Kept (Player.next rules p a) := by
  cases a with
  | setAudioSink k => exact h.setAudioSink k hok
  | setPlaybackSettings rate => exact h.setPlaybackSettings rules rate
  | getPlaybackSettings => exact h.getPlaybackSettings rules
  | openSink k => exact h.openSink k

/-- A new sink has been given the rate afterwards only if it came in time. -/
theorem given_setAudioSink_iff (h : Kept p) (k : SinkId) :
    (p.setAudioSink k).Given ↔ p.SetsInTime (.setAudioSink k) := by
  constructor
  · intro hgiven
    by_cases hchanged : p.manager.mAudioPlayRateChanged = true
    · exact .inr (.inl hchanged)
    · rw [setAudioSink_unchanged hchanged] at hgiven
      cases haccepted : p.accepted with
      | none => exact .inl haccepted
      | some rate =>
        right
        right
        rw [haccepted]
        exact hgiven k rfl rate haccepted
  · exact fun hok => (h.setAudioSink k hok).given

theorem reports_iff (h : Kept p) : p.Reports rules ↔ p.ReportsWhen rules := by
  unfold Reports ReportsWhen Player.getPlaybackSettings
  cases hcb : p.manager.mAudioSinkCB with
  | none =>
    constructor
    · intro _ k hk
      cases hk
    · exact fun _ rate hrate => (h.pending hcb).2 rate hrate
  | some k =>
    show (∀ rate ∈ p.accepted, callbackRate rules (p.sinks k) = rate) ↔ _
    unfold callbackRate AudioSink.getPlaybackRate
    by_cases hopen : (p.sinks k).opened = true
    · rw [if_pos hopen]
      constructor
      · intro _ i hi
        cases hi
        exact .inl hopen
      · intro _ rate hrate
        rw [h.given k hcb rate hrate]
        rfl
    · rw [if_neg hopen]
      constructor
      · intro hreports i hi
        cases hi
        exact .inr fun rate hrate => (hreports rate hrate).symm
      · intro hwhen rate hrate
        rcases hwhen k rfl with hopened | hdefault
        · exact absurd hopened hopen
        · exact (hdefault rate hrate).symm

end Kept

/-! ## A rate that no sink will be given -/

/-- The players differ at most in a rate that no sink will be given. -/
structure SameSinks (p q : Player Rate) : Prop where
  sinks : p.sinks = q.sinks
  mAudioSinkCB : p.manager.mAudioSinkCB = q.manager.mAudioSinkCB
  changed : p.manager.mAudioPlayRateChanged = q.manager.mAudioPlayRateChanged
  rate : p.manager.mAudioSinkCB = none → p.manager.mAudioPlayRate = q.manager.mAudioPlayRate
  lowered : p.manager.mAudioSinkCB ≠ none → p.manager.mAudioPlayRateChanged = false

namespace SameSinks

variable {p q : Player Rate}

theorem setAudioSink (h : SameSinks p q) (k : SinkId) :
    SameSinks (p.setAudioSink k) (q.setAudioSink k) := by
  by_cases hchanged : p.manager.mAudioPlayRateChanged = true
  · have hnone : p.manager.mAudioSinkCB = none := by
      by_contra hsome
      rw [h.lowered hsome] at hchanged
      cases hchanged
    have hchanged' : q.manager.mAudioPlayRateChanged = true := by
      rw [← h.changed]
      exact hchanged
    rw [setAudioSink_changed hchanged, setAudioSink_changed hchanged']
    refine ⟨?_, rfl, rfl, ?_, fun _ => rfl⟩
    · rw [h.rate hnone]
      exact giveRate_sinks_congr h.sinks k _
    · intro hno
      cases hno
  · have hchanged' : q.manager.mAudioPlayRateChanged ≠ true := by
      rw [← h.changed]
      exact hchanged
    rw [setAudioSink_unchanged hchanged, setAudioSink_unchanged hchanged']
    refine ⟨h.sinks, rfl, h.changed, ?_, fun _ => Bool.eq_false_iff.mpr hchanged⟩
    intro hno
    cases hno

theorem setPlaybackSettings (h : SameSinks p q) (rate : Rate) :
    SameSinks (Player.setPlaybackSettings rules p rate).2
      (Player.setPlaybackSettings rules q rate).2 := by
  unfold Player.setPlaybackSettings
  split
  · rw [← h.mAudioSinkCB]
    cases hcb : p.manager.mAudioSinkCB with
    | some k =>
      exact ⟨giveRate_sinks_congr h.sinks k rate, h.mAudioSinkCB, h.changed,
        fun _ => rfl, h.lowered⟩
    | none => exact ⟨h.sinks, h.mAudioSinkCB, rfl, fun _ => rfl, fun hno => absurd hcb hno⟩
  · exact h

theorem getPlaybackSettings (h : SameSinks p q) :
    SameSinks (Player.getPlaybackSettings rules p).2 (Player.getPlaybackSettings rules q).2 := by
  unfold Player.getPlaybackSettings
  rw [← h.mAudioSinkCB]
  cases hcb : p.manager.mAudioSinkCB with
  | some k =>
    refine ⟨h.sinks, h.mAudioSinkCB, h.changed, ?_, h.lowered⟩
    intro hno
    have hno : p.manager.mAudioSinkCB = none := hno
    rw [hcb] at hno
    cases hno
  | none => exact h

theorem openSink (h : SameSinks p q) (k : SinkId) : SameSinks (p.openSink k) (q.openSink k) := by
  refine ⟨?_, h.mAudioSinkCB, h.changed, h.rate, h.lowered⟩
  unfold Player.openSink
  rw [h.sinks]

theorem next (h : SameSinks p q) (a : Action Rate) :
    SameSinks (Player.next rules p a) (Player.next rules q a) := by
  cases a with
  | setAudioSink k => exact h.setAudioSink k
  | setPlaybackSettings rate => exact h.setPlaybackSettings rules rate
  | getPlaybackSettings => exact h.getPlaybackSettings rules
  | openSink k => exact h.openSink k

theorem foldl (h : SameSinks p q) (later : List (Action Rate)) :
    SameSinks (later.foldl (Player.next rules) p) (later.foldl (Player.next rules) q) := by
  induction later generalizing p q with
  | nil => exact h
  | cons a later ih => exact ih (h.next rules a)

end SameSinks

theorem Kept.getHidden {p : Player Rate} (h : Kept p) : p.GetHidden rules := by
  intro later
  have hsame : SameSinks (Player.getPlaybackSettings rules p).2 p := by
    unfold Player.getPlaybackSettings
    cases hcb : p.manager.mAudioSinkCB with
    | some k =>
      refine ⟨rfl, rfl, rfl, ?_, h.lowered⟩
      intro hno
      have hno : p.manager.mAudioSinkCB = none := hno
      rw [hcb] at hno
      cases hno
    | none => exact ⟨rfl, rfl, rfl, fun _ => rfl, h.lowered⟩
  exact (hsame.foldl rules later).sinks

/-! ## Runs -/

theorem kept_run (sinks : SinkId → AudioSink Rate) {p : Player Rate}
    (h : Reach (step rules) SetsInTime (start rules sinks) p) : Kept p := by
  refine h.inv Kept (start_kept rules sinks) ?_
  rintro p a p' hkept hok ⟨⟩
  exact hkept.next rules a hok

/-- While every new sink comes in time, the current sink was given the last rate accepted,
`getPlaybackSettings` reports it exactly when `ReportsWhen` says so, and changes nothing that
a sink is given.  A sink that does not come in time is not given the rate. -/
theorem rate_kept_iff (sinks : SinkId → AudioSink Rate) (p : Player Rate)
    (h : Reach (step rules) SetsInTime (start rules sinks) p) :
    p.Given ∧ (p.Reports rules ↔ p.ReportsWhen rules) ∧ p.GetHidden rules ∧
      ∀ k, (p.setAudioSink k).Given ↔ p.SetsInTime (.setAudioSink k) := by
  have hkept := kept_run rules sinks h
  exact ⟨hkept.given, hkept.reports_iff rules, hkept.getHidden rules, hkept.given_setAudioSink_iff⟩

/-- Rates are speeds in percent. -/
def percent : RateRules Nat := ⟨fun rate => rate ≤ 800, 100, 100⟩

def freshSink : AudioSink Nat := ⟨false, none, 100⟩

/-- A rate is set, a sink comes and is opened, and another rate is set. -/
def oneSink : List (Action Nat) :=
  [.setPlaybackSettings 200, .getPlaybackSettings, .setAudioSink 1, .openSink 1,
    .setPlaybackSettings 150, .getPlaybackSettings]

theorem rate_kept_oneSink :
    ∃ p, run (step percent) SetsInTime (start percent fun _ => freshSink) oneSink = some p ∧
      (p.sinks 1).given = some 150 ∧ p.Given ∧ p.Reports percent := by
  obtain ⟨hgiven, hreports, -, -⟩ := rate_kept_iff percent (fun _ => freshSink) _
    (Reach.of_run_get oneSink rfl)
  refine ⟨_, (Option.some_get rfl).symm, rfl, hgiven, hreports.mpr ?_⟩
  rintro k ⟨⟩
  exact .inl rfl

/-- A second sink is given no rate; and the first, not yet open, has the default reported
for it. -/
theorem rate_lost :
    (∃ p, Reach (step percent) (fun _ _ => True) (start percent fun _ => freshSink) p ∧
      p.accepted = some 200 ∧ p.manager.mAudioSinkCB = some 2 ∧ (p.sinks 2).given = none) ∧
    ∃ p, Reach (step percent) (fun _ _ => True) (start percent fun _ => freshSink) p ∧
      p.accepted = some 200 ∧ (getPlaybackSettings percent p).1 = 100 :=
  ⟨⟨_, Reach.of_run_get [.setPlaybackSettings 200, .setAudioSink 1, .setAudioSink 2] rfl, rfl, rfl,
    rfl⟩, _, Reach.of_run_get [.setPlaybackSettings 200, .setAudioSink 1] rfl, rfl, rfl⟩

end Player

end RockchipHal.Rockit
