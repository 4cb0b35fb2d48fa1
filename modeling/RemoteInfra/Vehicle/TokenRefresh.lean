import Mathlib.Tactic.Linarith
import RemoteInfra.Vehicle.Agent

/-!
# The vehicle's access token and the loop that refreshes it

`VehicleTokenManager` of `device_credentials.py`.  A request takes no time here and a sleep takes
exactly as long as it is asked to.  After a failed attempt the loop sleeps twice: for the retry,
and then for a second at least, which is too long once the retry waits for the expiry itself.
-/

namespace RemoteInfra.Vehicle

open RemoteInfra.Library RemoteInfra.Python

/-- A reading of the clock with a float added to it. -/
inductive Instant
  | finite (time : ℚ)
  | infinity (negative : Bool)
  | nan
  deriving DecidableEq

namespace Instant

/-- `time.monotonic() + lifetime`. -/
def after (monotonic : ℚ) : PyFloat → Instant
  | .nan => .nan
  | .infinity negative => .infinity negative
  | .finite negative d => .finite (monotonic + if negative then -d.val else d.val)

/-- `e - time.monotonic() > seconds`. -/
def MoreThan (e : Instant) (monotonic seconds : ℚ) : Prop :=
  match e with
  | .finite time => time - monotonic > seconds
  | .infinity negative => negative = false
  | .nan => False

/-- `max(1, e - monotonic)`, for which a NaN is not more than 1; `none` if it is infinite. -/
def sleepUntil (e : Instant) (monotonic : ℚ) : Option ℚ :=
  match e with
  | .finite time => some (max 1 (time - monotonic))
  | .infinity false => none
  | .infinity true => some 1
  | .nan => some 1

/-- `30 if remaining > 30 else max(1, remaining)`. -/
def retrySleep (e : Instant) (monotonic : ℚ) : ℚ :=
  match e with
  | .finite time => if time - monotonic > 30 then 30 else max 1 (time - monotonic)
  | .infinity false => 30
  | .infinity true => 1
  | .nan => 1

def minus (e : Instant) (seconds : ℚ) : Instant :=
  match e with
  | .finite time => .finite (time - seconds)
  | e => e

end Instant

structure VehicleTokenManager where
  refreshBeforeSeconds : ℤ
  positive : 0 < refreshBeforeSeconds
  accessToken : Option PyStr
  expiresAt : Instant

namespace VehicleTokenManager

def new (refreshBeforeSeconds : ℤ) (h : 0 < refreshBeforeSeconds) : VehicleTokenManager where
  refreshBeforeSeconds := refreshBeforeSeconds
  positive := h
  accessToken := none
  expiresAt := .finite 0

/-- The token is stored before its lifetime is converted. -/
def refresh [PythonPlatform] (m : VehicleTokenManager) (outcome : HTTPOutcome) (monotonic : ℚ) :
    VehicleTokenManager × Except PyExc PyStr :=
  match admitToken m.refreshBeforeSeconds outcome with
  | .error e => (m, .error e)
  | .ok (token, expiresIn) =>
      let stored := { m with accessToken := some token }
      match pyFloat expiresIn with
      | .error e => (stored, .error e)
      | .ok lifetime => ({ stored with expiresAt := .after monotonic lifetime }, .ok token)

/-- `await on_refresh(await self.refresh(session))`, where `on_refresh` ends with `notified`. -/
def attempt [PythonPlatform] (m : VehicleTokenManager) (outcome : HTTPOutcome)
    (notified : Except PyExc Unit) (monotonic : ℚ) : VehicleTokenManager × Except PyExc Unit :=
  match m.refresh outcome monotonic with
  | (m', .error e) => (m', .error e)
  | (m', .ok _) => (m', notified)

/-- What the attempt stores, if it stores anything, is what is stored already. -/
def KeepsToken [PythonPlatform] (m : VehicleTokenManager) (outcome : HTTPOutcome)
    (monotonic : ℚ) : Prop :=
  ∀ token expiresIn, admitToken m.refreshBeforeSeconds outcome = .ok (token, expiresIn) →
    m.accessToken = some token ∧
      ∀ lifetime, pyFloat expiresIn = .ok lifetime → m.expiresAt = .after monotonic lifetime

theorem attempt_fst [PythonPlatform] (m : VehicleTokenManager) (outcome : HTTPOutcome)
    (notified : Except PyExc Unit) (monotonic : ℚ) :
    (m.attempt outcome notified monotonic).1 = (m.refresh outcome monotonic).1 := by
  unfold attempt
  split <;> rename_i h <;> rw [h]

/-- Token and expiry survive exactly the attempts that store nothing new. -/
theorem attempt_fst_eq_iff [PythonPlatform] {m : VehicleTokenManager} {outcome : HTTPOutcome}
    {notified : Except PyExc Unit} {monotonic : ℚ} :
    (m.attempt outcome notified monotonic).1 = m ↔ m.KeepsToken outcome monotonic := by
  rw [attempt_fst, refresh, KeepsToken]
  cases hadmit : admitToken m.refreshBeforeSeconds outcome with
  | error e => simp
  | ok admitted =>
      obtain ⟨token, expiresIn⟩ := admitted
      cases hfloat : pyFloat expiresIn with
      | error e =>
          simp only [hfloat]
          constructor
          · intro h token' expiresIn' heq
            obtain ⟨rfl, rfl⟩ := Prod.mk.inj (Except.ok.inj heq)
            refine ⟨(congrArg accessToken h).symm, fun lifetime hlifetime ↦ ?_⟩
            rw [hfloat] at hlifetime
            cases hlifetime
          · intro h
            obtain ⟨htoken, -⟩ := h token expiresIn rfl
            rw [← htoken]
      | ok lifetime =>
          simp only [hfloat]
          constructor
          · intro h token' expiresIn' heq
            obtain ⟨rfl, rfl⟩ := Prod.mk.inj (Except.ok.inj heq)
            refine ⟨(congrArg accessToken h).symm, fun lifetime' hlifetime ↦ ?_⟩
            obtain rfl := Except.ok.inj (hfloat.symm.trans hlifetime)
            exact (congrArg expiresAt h).symm
          · intro h
            obtain ⟨htoken, hexpiry⟩ := h token expiresIn rfl
            rw [← htoken, ← hexpiry lifetime hfloat]

end VehicleTokenManager

/-! ## The refresh loop -/

/-- Where `refresh_loop` stands: before its sleep, at an attempt, or before it retries. -/
inductive TokenPhase
  | delaying
  | attempting
  | retrying
  deriving DecidableEq

structure TokenLoopState where
  monotonic : ℚ
  manager : VehicleTokenManager
  phase : TokenPhase

inductive TokenLoopLabel
  | delay
  | attempt (outcome : HTTPOutcome) (notified : Except PyExc Unit)
  | retry

namespace TokenLoopState

/-- The sleep before the next attempt; `none` if it never ends. -/
def delay (st : TokenLoopState) : Option ℚ :=
  (st.manager.expiresAt.minus st.manager.refreshBeforeSeconds).sleepUntil st.monotonic

inductive Step [PythonPlatform] : TokenLoopState → TokenLoopLabel → TokenLoopState → Prop
  | delay {st : TokenLoopState} {seconds : ℚ} :
      st.phase = .delaying → st.delay = some seconds →
        Step st .delay
          { st with monotonic := st.monotonic + seconds, phase := .attempting }
  | refreshed {st : TokenLoopState} {outcome : HTTPOutcome} {notified : Except PyExc Unit}
      {manager : VehicleTokenManager} :
      st.phase = .attempting →
        st.manager.attempt outcome notified st.monotonic = (manager, .ok ()) →
          Step st (.attempt outcome notified) { st with manager := manager, phase := .delaying }
  | failed {st : TokenLoopState} {outcome : HTTPOutcome} {notified : Except PyExc Unit}
      {manager : VehicleTokenManager} {e : PyExc} :
      st.phase = .attempting →
        st.manager.attempt outcome notified st.monotonic = (manager, .error e) →
          Step st (.attempt outcome notified) { st with manager := manager, phase := .retrying }
  | retry {st : TokenLoopState} :
      st.phase = .retrying →
        Step st .retry
          { st with
            monotonic := st.monotonic + st.manager.expiresAt.retrySleep st.monotonic
            phase := .delaying }

/-- From a failed attempt the loop comes to its next one while `deadline` lies ahead. -/
def AttemptsBefore [PythonPlatform] (st : TokenLoopState) (deadline : Instant) : Prop :=
  ∃ st₁ st₂, Step st .retry st₁ ∧ Step st₁ .delay st₂ ∧ st₂.phase = .attempting ∧
    deadline.MoreThan st₂.monotonic 0

end TokenLoopState

/-- The loop starts at any time, over a manager that may have been refreshed before. -/
def tokenLoop [PythonPlatform] : TransitionSystem TokenLoopState TokenLoopLabel where
  Init st := st.phase = .delaying
  Step := TokenLoopState.Step

/-- There is no attempt with a token that never expires: the sleep before it never ends. -/
theorem expiresAt_ne_infinity_of_run [PythonPlatform] {ls : List TokenLoopLabel}
    {st : TokenLoopState} (hrun : tokenLoop.Run ls st) :
    st.phase = .attempting → st.manager.expiresAt ≠ .infinity false := by
  apply hrun.invariant
    (P := fun _ st ↦ st.phase = .attempting → st.manager.expiresAt ≠ .infinity false)
  · intro st hinit hphase
    rw [show st.phase = .delaying from hinit] at hphase
    cases hphase
  · intro ls st l st' _ _ _ hstep hphase
    cases hstep with
    | delay _ hdelay =>
        intro hinfinity
        have hinfinity : st.manager.expiresAt = .infinity false := hinfinity
        rw [TokenLoopState.delay, hinfinity] at hdelay
        cases hdelay
    | refreshed => cases hphase
    | failed => cases hphase
    | retry => cases hphase

/-- The two sleeps after a failed attempt, over a token that expires at `time`. -/
def nextAttempt (refreshBeforeSeconds : ℤ) (monotonic time : ℚ) : ℚ :=
  let retried := monotonic + (Instant.finite time).retrySleep monotonic
  retried + max 1 (time - refreshBeforeSeconds - retried)

/-- With more than two seconds left, the next attempt is in time exactly if more than 31 seconds
are left: else the retry sleeps until a second before the expiry, or beyond it. -/
theorem nextAttempt_lt_iff {refreshBeforeSeconds : ℤ} (hpositive : 0 < refreshBeforeSeconds)
    {monotonic time : ℚ} (hvalid : time - monotonic > 2) :
    nextAttempt refreshBeforeSeconds monotonic time < time ↔ time - monotonic > 31 := by
  have hbefore : (0 : ℚ) < refreshBeforeSeconds := Int.cast_pos.mpr hpositive
  simp only [nextAttempt, Instant.retrySleep]
  split_ifs with hlong
  · constructor
    · intro hlt
      have hsecond := le_max_left (1 : ℚ) (time - refreshBeforeSeconds - (monotonic + 30))
      linarith
    · intro hlong
      rw [← lt_sub_iff_add_lt', max_lt_iff]
      constructor <;> linarith
  · rw [max_eq_right (by linarith)]
    constructor
    · intro hlt
      have hsecond := le_max_left (1 : ℚ)
        (time - refreshBeforeSeconds - (monotonic + (time - monotonic)))
      linarith
    · intro hlong
      linarith

/-- From a failed attempt the loop comes to the next one after both sleeps, and nowhere else. -/
theorem attemptsBefore_iff [PythonPlatform] (st : TokenLoopState) (hphase : st.phase = .retrying)
    {time : ℚ} (hexpiry : st.manager.expiresAt = .finite time) (deadline : Instant) :
    st.AttemptsBefore deadline ↔
      deadline.MoreThan
        (nextAttempt st.manager.refreshBeforeSeconds st.monotonic time) 0 := by
  constructor
  · rintro ⟨st₁, st₂, hretry, hdelay, -, hahead⟩
    cases hretry with
    | retry _ =>
        cases hdelay with
        | delay _ hseconds =>
            simp only [TokenLoopState.delay, hexpiry, Instant.minus, Instant.sleepUntil,
              Option.some.injEq] at hseconds
            subst hseconds
            simpa only [nextAttempt, hexpiry] using hahead
  · intro hahead
    let retried : TokenLoopState :=
      { st with
        monotonic := st.monotonic + st.manager.expiresAt.retrySleep st.monotonic
        phase := .delaying }
    have hdelay : retried.delay =
        some (max 1 (time - st.manager.refreshBeforeSeconds - retried.monotonic)) := by
      rw [TokenLoopState.delay, show retried.manager.expiresAt = .finite time from hexpiry]
      rfl
    refine ⟨retried, _, .retry hphase, .delay rfl hdelay, rfl, ?_⟩
    simpa only [nextAttempt, retried, hexpiry] using hahead

/-- A failed attempt with more than two seconds left is followed by another one before the token
expires, and every failed attempt leaves token and expiry alone, if and only if more than 31
seconds are left where it is more than two, and the attempt has stored nothing new before it
failed. -/
theorem retry_before_expiry_iff [PythonPlatform] {ls : List TokenLoopLabel}
    {st st' : TokenLoopState} {outcome : HTTPOutcome} {notified : Except PyExc Unit}
    (hrun : tokenLoop.Run ls st) (hstep : tokenLoop.Step st (.attempt outcome notified) st')
    (hfailed : st'.phase = .retrying) :
    ((st.manager.expiresAt.MoreThan st.monotonic 2 → st'.AttemptsBefore st.manager.expiresAt) ∧
        st'.manager = st.manager) ↔
      ((st.manager.expiresAt.MoreThan st.monotonic 2 →
          st.manager.expiresAt.MoreThan st.monotonic 31) ∧
        st.manager.KeepsToken outcome st.monotonic) := by
  cases hstep with
  | refreshed => cases hfailed
  | @failed _ _ manager e hphase hattempt =>
      have hmanager : (st.manager.attempt outcome notified st.monotonic).1 = manager := by
        rw [hattempt]
      have hkeeps : manager = st.manager ↔ st.manager.KeepsToken outcome st.monotonic := by
        rw [← hmanager]
        exact VehicleTokenManager.attempt_fst_eq_iff
      simp only
      rw [← hkeeps]
      apply and_congr_left
      rintro rfl
      apply imp_congr_right
      intro hvalid
      have hnever := expiresAt_ne_infinity_of_run hrun hphase
      cases hexpiry : st.manager.expiresAt with
      | finite time =>
          rw [hexpiry] at hvalid
          rw [attemptsBefore_iff { st with phase := .retrying } rfl hexpiry]
          simp only [Instant.MoreThan, gt_iff_lt, sub_pos]
          exact nextAttempt_lt_iff st.manager.positive hvalid
      | infinity negative =>
          rw [hexpiry] at hvalid hnever
          exact absurd (congrArg Instant.infinity hvalid) hnever
      | nan =>
          rw [hexpiry] at hvalid
          exact hvalid.elim

section Sample

/-! ## An answer that fails to come -/

def sampleManager (refreshBeforeSeconds : ℤ) (h : 0 < refreshBeforeSeconds) :
    VehicleTokenManager :=
  { VehicleTokenManager.new refreshBeforeSeconds h with
    accessToken := some (PyStr.ofString "vehicle-access-token")
    expiresAt := .finite 900 }

/-- The loop at its first attempt with a token that expires at 900. -/
def atFirstAttempt (refreshBeforeSeconds : ℤ) (h : 0 < refreshBeforeSeconds) (monotonic : ℚ) :
    TokenLoopState :=
  ⟨monotonic, sampleManager refreshBeforeSeconds h, .attempting⟩

theorem atFirstAttempt_run [PythonPlatform] {refreshBeforeSeconds : ℤ}
    (h : 0 < refreshBeforeSeconds) {monotonic : ℚ}
    (hwait : max 1 (900 - (refreshBeforeSeconds : ℚ) - 0) = monotonic) :
    tokenLoop.Run [.delay] (atFirstAttempt refreshBeforeSeconds h monotonic) := by
  have hinit : tokenLoop.Run [] ⟨0, sampleManager refreshBeforeSeconds h, .delaying⟩ := .init rfl
  have hdelay : TokenLoopState.delay ⟨0, sampleManager refreshBeforeSeconds h, .delaying⟩ =
      some monotonic := congrArg some hwait
  have hstep := TokenLoopState.Step.delay rfl hdelay
  simp only [zero_add] at hstep
  exact .step hinit trivial hstep

/-- A connection error drops nothing. -/
theorem keepsToken_of_raised [PythonPlatform] (m : VehicleTokenManager) (e : PyExc)
    (monotonic : ℚ) : m.KeepsToken (.raised e) monotonic := by
  intro token expiresIn hadmit
  cases hadmit

/-- Five minutes before the expiry there is time for another attempt. -/
theorem retry_before_expiry_five_minutes :
    let := PythonPlatform.ascii
    ({ atFirstAttempt 300 (by decide) 600 with phase := .retrying }).AttemptsBefore
      (.finite 900) := by
  let := PythonPlatform.ascii
  have hrun : tokenLoop.Run [.delay] (atFirstAttempt 300 (by decide) 600) :=
    atFirstAttempt_run (by decide) (by norm_num)
  have hstep : tokenLoop.Step (atFirstAttempt 300 (by decide) 600)
      (.attempt (.raised .clientError) (.ok ()))
      { atFirstAttempt 300 (by decide) 600 with phase := .retrying } := .failed rfl rfl
  have hvalid : (Instant.finite 900).MoreThan 600 2 := by
    simp only [Instant.MoreThan]
    norm_num
  have hlong : (Instant.finite 900).MoreThan 600 31 := by
    simp only [Instant.MoreThan]
    norm_num
  exact ((retry_before_expiry_iff hrun hstep rfl).mpr
    ⟨fun _ ↦ hlong, keepsToken_of_raised _ _ _⟩).1 hvalid

/-- Ten seconds before the expiry there is none: the retry sleeps until the expiry, and the delay
takes one more second. -/
theorem retry_after_expiry :
    ∃ ls st st', (@tokenLoop PythonPlatform.ascii).Run ls st ∧
      (@tokenLoop PythonPlatform.ascii).Step st (.attempt (.raised .clientError) (.ok ())) st' ∧
      st'.phase = .retrying ∧ st.manager.expiresAt.MoreThan st.monotonic 2 ∧
      ¬@TokenLoopState.AttemptsBefore PythonPlatform.ascii st' st.manager.expiresAt := by
  let := PythonPlatform.ascii
  have hrun : tokenLoop.Run [.delay] (atFirstAttempt 10 (by decide) 890) :=
    atFirstAttempt_run (by decide) (by norm_num)
  refine ⟨_, _, _, hrun, .failed rfl rfl, rfl, ?_, ?_⟩
  · simp only [atFirstAttempt, sampleManager, Instant.MoreThan]
    norm_num
  · rw [attemptsBefore_iff _ rfl (show _ = Instant.finite 900 from rfl)]
    simp only [atFirstAttempt, sampleManager, VehicleTokenManager.new, Instant.MoreThan,
      nextAttempt, Instant.retrySleep]
    norm_num

end Sample

end RemoteInfra.Vehicle
