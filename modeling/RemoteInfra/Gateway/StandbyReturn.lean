import RemoteInfra.Gateway.Faults
import RemoteInfra.Gateway.Handlers
import RemoteInfra.Library.TransitionSystem

/-!
# Video returns to standby

Control and video requests, one at a time and each at a single instant, whose Redis commands
may fail.  The video record follows the control lease only where a request says so: nothing
clears the controller of a lease that expires, nor that of an acquire that is rolled back.
-/

namespace RemoteInfra.Gateway

open RemoteInfra.Library RemoteInfra.Library.Program

structure StandbyState where
  gateway : GatewayState
  /-- when the vehicle last had a live lease, as far as it has been looked at -/
  heldUntil : Option ℤ

inductive StandbyLabel
  | call (c : GatewayCall) (response : HTTPResponse)
  | tick (t : ℤ)

namespace StandbyState

/-- The last instant up to `t` at which the vehicle had a live lease. -/
def lastHeld (st : StandbyState) (vehicleID : GoString) (t : ℤ) : Option ℤ :=
  match st.gateway.redis.live st.gateway.clock (.controlLease vehicleID) with
  | some lease => some (min lease.deadline t)
  | none => st.heldUntil

inductive Step [Cjson] (g : GatewayConfig) (vehicleID : GoString) :
    StandbyState → StandbyLabel → StandbyState → Prop
  | call {st : StandbyState} {c : GatewayCall} {response : HTTPResponse} {w : GatewayState} :
      Completes (MayFail Timing.instant) st.gateway (c.handle g) response w →
        Step g vehicleID st (.call c response)
          { gateway := w, heldUntil := st.lastHeld vehicleID st.gateway.clock }
  | tick {st : StandbyState} {t : ℤ} : st.gateway.clock ≤ t →
      Step g vehicleID st (.tick t)
        { gateway := { st.gateway with clock := t }, heldUntil := st.lastHeld vehicleID t }

/-- The vehicle has no live lease, and has had none for `gracePeriod`. -/
def LongFree (st : StandbyState) (vehicleID : GoString) (gracePeriod : ℤ) : Prop :=
  st.gateway.redis.live st.gateway.clock (.controlLease vehicleID) = none ∧
    ∀ t, st.heldUntil = some t → t + gracePeriod ≤ st.gateway.clock

end StandbyState

def standbySystem [Cjson] (g : GatewayConfig) (vehicleID : GoString) :
    TransitionSystem StandbyState StandbyLabel where
  Init st := st.gateway.redis = Store.empty ∧ 0 < st.gateway.clock ∧ st.heldUntil = none
  Step := StandbyState.Step g vehicleID

/-- Asked of every step: nobody is let in to watch the vehicle. -/
def NoViewers (vehicleID : GoString) : TransitionSystem.StepCondition StandbyState StandbyLabel
  | _, _, .call (.acquireVideo r) response => r.vehicleID = vehicleID → response.status = 403
  | _, _, _ => True

/-- Asked of every step: no lease of the vehicle expires; an acquire does not fail once it has
the lease; a release does not fail halfway. -/
def EndsByRelease (vehicleID : GoString) :
    TransitionSystem.StepCondition StandbyState StandbyLabel
  | _, st, .tick t =>
      ∀ lease, st.gateway.redis.live st.gateway.clock (.controlLease vehicleID) = some lease →
        t ≤ lease.deadline
  | _, _, .call (.acquireControl r) response =>
      r.vehicleID = vehicleID → response.status ≠ 500 ∧ response.status ≠ 503
  | _, st, .call (.releaseControl r) response =>
      st.gateway.redis.get st.gateway.clock (.controlSessionIndex r.sessionID) = some vehicleID →
        response.status ≠ 503
  | _, _, _ => True

/-- The mode that `Get` returns. -/
def videoMode [Cjson] (w : GatewayState) (vehicleID : GoString) : Option VideoMode :=
  match (VideoSessionStore.get vehicleID).evaluate (serveAtOnce []) w with
  | some (.ok session, _) => some session.mode
  | _ => none

/-- The record of the vehicle names a controller. -/
def NamesController (w : GatewayState) (vehicleID : GoString) : Prop :=
  ∃ record, w.redis.get w.clock (.videoSession vehicleID) = some record ∧
    record.controllerSessionID ≠ []

/-! ## What is stored -/

/-- A record that counts no viewer.  With no controller either, its grace period ends at most
`gracePeriod` after the lease was last held. -/
structure Unwatched (gracePeriod : ℤ) (held : Option ℤ) (record : VideoSession) : Prop where
  viewerCount : record.viewerCount = 0
  controlled : record.controllerSessionID ≠ [] → record.mode = .active
  free : record.controllerSessionID = [] → record.mode = .standby ∨
    0 < record.graceDeadlineMS ∧
      ∃ t, held = some t ∧ record.graceDeadlineMS ≤ t + gracePeriod

structure Quiet (vehicleID : GoString) (gracePeriod : ℤ) (held : Option ℤ) (w : GatewayState) :
    Prop where
  started : 0 < w.clock
  kept : ∀ v e, w.redis (.videoSession v) = some e → e.value.Kept v
  leased : ∀ v e, w.redis (.controlLease v) = some e →
    e.value.session.vehicleID = v ∧ v.throughJSON = v
  viewers : ∀ sessionID e, w.redis (.videoViewer sessionID) = some e →
    e.value ≠ vehicleID ∧ e.value.throughJSON = e.value
  unwatched : ∀ e, w.redis (.videoSession vehicleID) = some e →
    Unwatched gracePeriod held e.value

/-- The controller in the vehicle's record. -/
def controllerOf (w : GatewayState) (vehicleID : GoString) : Option GoString :=
  (w.redis (.videoSession vehicleID)).map fun e ↦ e.value.controllerSessionID

/-- The controller in the record is that of a live lease. -/
def ControllerLeased (vehicleID : GoString) (w : GatewayState) : Prop :=
  ∀ controller, controllerOf w vehicleID = some controller → controller ≠ [] →
    ∃ lease, w.redis.live w.clock (.controlLease vehicleID) = some lease ∧
      lease.value.session.sessionID = controller

/-- From `w` to `w'` the clock, the session index and the vehicle's lease are the same. -/
structure SameLease (vehicleID : GoString) (w w' : GatewayState) : Prop where
  clock : w'.clock = w.clock
  lease : w'.redis (.controlLease vehicleID) = w.redis (.controlLease vehicleID)
  index : ∀ sessionID,
    w'.redis (.controlSessionIndex sessionID) = w.redis (.controlSessionIndex sessionID)

/-- And so is the controller in its record. -/
structure Undisturbed (vehicleID : GoString) (w w' : GatewayState) : Prop
    extends SameLease vehicleID w w' where
  controller : controllerOf w' vehicleID = controllerOf w vehicleID

section Stored

variable {vehicleID : GoString} {gracePeriod : ℤ} {held : Option ℤ} {w w' w'' : GatewayState}

theorem SameLease.trans (h : SameLease vehicleID w w') (h' : SameLease vehicleID w' w'') :
    SameLease vehicleID w w'' :=
  ⟨h'.clock.trans h.clock, h'.lease.trans h.lease, fun id ↦ (h'.index id).trans (h.index id)⟩

theorem SameLease.live (h : SameLease vehicleID w w') :
    w'.redis.live w'.clock (.controlLease vehicleID) =
      w.redis.live w.clock (.controlLease vehicleID) := by
  rw [Store.live, Store.live, h.lease, h.clock]

theorem Undisturbed.refl (w : GatewayState) : Undisturbed vehicleID w w :=
  ⟨⟨rfl, rfl, fun _ ↦ rfl⟩, rfl⟩

theorem Undisturbed.trans (h : Undisturbed vehicleID w w') (h' : Undisturbed vehicleID w' w'') :
    Undisturbed vehicleID w w'' :=
  ⟨h.toSameLease.trans h'.toSameLease, h'.controller.trans h.controller⟩

theorem ControllerLeased.same (h : ControllerLeased vehicleID w) (hclock : w'.clock = w.clock)
    (hlease : w'.redis (.controlLease vehicleID) = w.redis (.controlLease vehicleID))
    (hcontroller : controllerOf w' vehicleID = controllerOf w vehicleID) :
    ControllerLeased vehicleID w' := by
  intro controller hnames hne
  rw [Store.live, hclock, hlease]
  exact h controller (hcontroller.symm.trans hnames) hne

theorem VideoSession.kept_iff {record : VideoSession} : record.Kept vehicleID ↔
    record.vehicleID = vehicleID ∧ vehicleID.throughJSON = vehicleID ∧
      record.sessionID.throughJSON = record.sessionID ∧
        record.controllerSessionID.throughJSON = record.controllerSessionID := by
  constructor
  · rintro ⟨rfl, hmarshal⟩
    exact ⟨rfl, congrArg VideoSession.vehicleID hmarshal,
      congrArg VideoSession.sessionID hmarshal,
      congrArg VideoSession.controllerSessionID hmarshal⟩
  · rintro ⟨rfl, hvehicle, hid, hcontroller⟩
    refine ⟨rfl, ?_⟩
    simp only [VideoSession.marshal, hvehicle, hid, hcontroller]

theorem Undisturbed.of_drawn {drawn : List GoString} :
    Undisturbed vehicleID w { w with drawn := drawn } :=
  ⟨⟨rfl, rfl, fun _ ↦ rfl⟩, rfl⟩

theorem Quiet.mono (h : Quiet vehicleID gracePeriod held w) {held' : Option ℤ}
    (hlater : ∀ t, held = some t → ∃ t', held' = some t' ∧ t ≤ t') :
    Quiet vehicleID gracePeriod held' w := by
  refine { h with unwatched := fun e he ↦ { h.unwatched e he with free := fun hempty ↦ ?_ } }
  rcases (h.unwatched e he).free hempty with hstandby | ⟨hpositive, t, ht, hle⟩
  · exact .inl hstandby
  · obtain ⟨t', ht', hle'⟩ := hlater t ht
    exact .inr ⟨hpositive, t', ht', by omega⟩

/-- A record may be stored that is its own reading and, under the vehicle, counts nobody. -/
theorem Quiet.store (h : Quiet vehicleID gracePeriod held w) {v : GoString}
    {record : VideoSession} {deadline : ℤ} (hkept : record.Kept v)
    (hunwatched : v = vehicleID → Unwatched gracePeriod held record)
    (hclock : w'.clock = w.clock)
    (hredis : w'.redis = w.redis.set (.videoSession v) record deadline) :
    Quiet vehicleID gracePeriod held w' := by
  refine ⟨hclock ▸ h.started, fun u e he ↦ ?_, fun u e he ↦ ?_, fun id e he ↦ ?_, fun e he ↦ ?_⟩
  · rw [hredis] at he
    by_cases hu : u = v
    · subst hu
      rw [Store.set_apply_self] at he
      obtain rfl := Option.some.inj he
      exact hkept
    · exact h.kept u e (Store.apply_of_set he (by simpa using hu))
  · rw [hredis] at he
    exact h.leased u e (Store.apply_of_set he (by simp))
  · rw [hredis] at he
    exact h.viewers id e (Store.apply_of_set he (by simp))
  · rw [hredis] at he
    by_cases hv : vehicleID = v
    · subst hv
      rw [Store.set_apply_self] at he
      obtain rfl := Option.some.inj he
      exact hunwatched rfl
    · exact h.unwatched e (Store.apply_of_set he (by simpa using hv))

/-- A viewer index entry may be stored that names another vehicle. -/
theorem Quiet.indexViewer (h : Quiet vehicleID gracePeriod held w) {v : GoString}
    (hne : v ≠ vehicleID) (hv : v.throughJSON = v) (sessionID : GoString) (deadline : ℤ) :
    Quiet vehicleID gracePeriod held
        { w with redis := w.redis.set (.videoViewer sessionID) v deadline } ∧
      Undisturbed vehicleID w
        { w with redis := w.redis.set (.videoViewer sessionID) v deadline } := by
  generalize hredis : w.redis.set (.videoViewer sessionID) v deadline = redis
  refine ⟨⟨h.started, fun u e he ↦ ?_, fun u e he ↦ ?_, fun id e he ↦ ?_, fun e he ↦ ?_⟩,
    ⟨⟨rfl, ?_, fun id ↦ ?_⟩, ?_⟩⟩
  · dsimp only at he
    rw [← hredis] at he
    exact h.kept u e (Store.apply_of_set he (by simp))
  · dsimp only at he
    rw [← hredis] at he
    exact h.leased u e (Store.apply_of_set he (by simp))
  · dsimp only at he
    rw [← hredis] at he
    by_cases hid : id = sessionID
    · subst hid
      rw [Store.set_apply_self] at he
      obtain rfl := Option.some.inj he
      exact ⟨hne, hv⟩
    · exact h.viewers id e (Store.apply_of_set he (by simpa using hid))
  · dsimp only at he
    rw [← hredis] at he
    exact h.unwatched e (Store.apply_of_set he (by simp))
  · dsimp only
    rw [← hredis]
    exact Store.set_apply_of_ne _ (by simp) _ _
  · dsimp only
    rw [← hredis]
    exact Store.set_apply_of_ne _ (by simp) _ _
  · simp only [controllerOf]
    rw [← hredis, Store.set_apply_of_ne _ (by simp)]

theorem Quiet.drop (h : Quiet vehicleID gracePeriod held w) (key : RedisKey) :
    Quiet vehicleID gracePeriod held { w with redis := w.redis.del key } where
  started := h.started
  kept v e he := h.kept v e (Store.apply_of_del (k := key) he)
  leased v e he := h.leased v e (Store.apply_of_del (k := key) he)
  viewers id e he := h.viewers id e (Store.apply_of_del (k := key) he)
  unwatched e he := h.unwatched e (Store.apply_of_del (k := key) he)

theorem undisturbed_drop (w : GatewayState) {key : RedisKey}
    (hlease : RedisKey.controlLease vehicleID ≠ key)
    (hindex : ∀ sessionID, RedisKey.controlSessionIndex sessionID ≠ key)
    (hrecord : RedisKey.videoSession vehicleID ≠ key) :
    Undisturbed vehicleID w { w with redis := w.redis.del key } := by
  refine ⟨⟨rfl, Store.del_apply_of_ne _ hlease, fun id ↦ Store.del_apply_of_ne _ (hindex id)⟩, ?_⟩
  simp only [controllerOf, Store.del_apply_of_ne _ hrecord]

end Stored

/-! ## The operations of the video store -/

namespace VideoSessionStore

variable {vehicleID v : GoString} {gracePeriod : ℤ} {held : Option ℤ} {w : GatewayState}

/-- What `save` may leave: the record as it was, or the one it was given. -/
structure Saved (vehicleID : GoString) (gracePeriod : ℤ) (held : Option ℤ)
    (session : VideoSession) (w : GatewayState) (succeeded : Prop) (w' : GatewayState) : Prop where
  quiet : Quiet vehicleID gracePeriod held w'
  same : SameLease vehicleID w w'
  other : session.vehicleID ≠ vehicleID → controllerOf w' vehicleID = controllerOf w vehicleID
  controller : controllerOf w' vehicleID = controllerOf w vehicleID ∨
    controllerOf w' vehicleID = some session.controllerSessionID
  stored : succeeded → session.vehicleID = vehicleID →
    controllerOf w' vehicleID = some session.controllerSessionID

theorem Saved.unchanged (h : Quiet vehicleID gracePeriod held w) {session : VideoSession}
    {succeeded : Prop} (hfailed : ¬succeeded) :
    Saved vehicleID gracePeriod held session w succeeded w :=
  ⟨h, ⟨rfl, rfl, fun _ ↦ rfl⟩, fun _ ↦ rfl, .inl rfl, fun hsucceeded ↦ absurd hsucceeded hfailed⟩

theorem Saved.changed (h : Quiet vehicleID gracePeriod held w) {session : VideoSession}
    (hkept : session.Kept v) (hunwatched : v = vehicleID → Unwatched gracePeriod held session)
    (expiresAtMS : ℤ) (succeeded : Prop) :
    Saved vehicleID gracePeriod held session w succeeded
      (w.saved session expiresAtMS w.clock) := by
  obtain ⟨rfl, -⟩ := id hkept
  have hstamp : ({ session with expiresAtMS := expiresAtMS } : VideoSession).Kept
      session.vehicleID := by
    rw [VideoSession.kept_iff] at hkept ⊢
    exact hkept
  have hcontroller : session.vehicleID = vehicleID →
      controllerOf (w.saved session expiresAtMS w.clock) vehicleID =
        some session.controllerSessionID := by
    rintro rfl
    simp only [controllerOf, GatewayState.saved, Store.set_apply_self, hstamp.2, Option.map_some]
  have hother : session.vehicleID ≠ vehicleID →
      controllerOf (w.saved session expiresAtMS w.clock) vehicleID = controllerOf w vehicleID := by
    intro hne
    have hkey : RedisKey.videoSession vehicleID ≠ .videoSession session.vehicleID := by
      simpa using hne.symm
    simp only [controllerOf, GatewayState.saved, Store.set_apply_of_ne _ hkey]
  have hredis : (w.saved session expiresAtMS w.clock).redis =
      w.redis.set (.videoSession session.vehicleID)
        ({ session with expiresAtMS := expiresAtMS } : VideoSession).marshal
        (w.clock + videoSessionTTL) := rfl
  refine ⟨?_, ⟨rfl, ?_, fun id ↦ ?_⟩, hother, ?_, fun _ ↦ hcontroller⟩
  · rw [hstamp.2] at hredis
    refine h.store hstamp (fun hv ↦ ?_) rfl hredis
    exact ⟨(hunwatched hv).viewerCount, (hunwatched hv).controlled, (hunwatched hv).free⟩
  · rw [hredis]
    exact Store.set_apply_of_ne _ (by simp) _ _
  · rw [hredis]
    exact Store.set_apply_of_ne _ (by simp) _ _
  · by_cases hv : session.vehicleID = vehicleID
    · exact .inr (hcontroller hv)
    · exact .inl (hother hv)

variable [Cjson]

theorem ensures_stamped {session : VideoSession} :
    Ensures (MayFail Timing.instant) w (stamped session) fun session' w' ↦
      w' = w ∧ ∃ expiresAtMS, session' = { session with expiresAtMS := expiresAtMS } := by
  unfold stamped
  split_ifs with hzero
  · apply ensures_timeNow
    exact Ensures.pure ⟨rfl, _, rfl⟩
  · exact Ensures.pure ⟨rfl, session.expiresAtMS, rfl⟩

theorem ensures_save (h : Quiet vehicleID gracePeriod held w) {session : VideoSession}
    (hkept : session.Kept v)
    (hunwatched : v = vehicleID → Unwatched gracePeriod held session) :
    Ensures (MayFail Timing.instant) w (save session) fun result w' ↦
      Saved vehicleID gracePeriod held session w (result = .ok ()) w' := by
  refine Ensures.bind ensures_stamped ?_
  rintro session' w' ⟨rfl, expiresAtMS, rfl⟩
  apply ensures_redis
  · intro error
    exact Ensures.pure (Saved.unchanged h (by simp))
  · intro result redis hexec
    simp only [RedisCommand.exec] at hexec
    split_ifs at hexec with hpx
    obtain ⟨-, rfl⟩ := Prod.mk.inj (Except.ok.inj hexec)
    constructor
    · exact Ensures.pure (Saved.changed h hkept hunwatched expiresAtMS _)
    · intro error
      exact Ensures.pure (Saved.changed h hkept hunwatched expiresAtMS _)

theorem ensures_andSave (h : Quiet vehicleID gracePeriod held w) {session : VideoSession}
    (hkept : session.Kept v)
    (hunwatched : v = vehicleID → Unwatched gracePeriod held session) :
    Ensures (MayFail Timing.instant) w (andSave session) fun result w' ↦
      Saved vehicleID gracePeriod held session w (∃ saved, result = .ok saved) w' ∧
        ∀ saved, result = .ok saved → saved = session := by
  refine Ensures.bind (ensures_save h hkept hunwatched) ?_
  intro result w' hsaved
  rcases result with error | saved
  · refine Ensures.pure ⟨{ hsaved with stored := ?_ }, ?_⟩
    · rintro ⟨saved, hok⟩
      cases hok
    · intro saved hok
      cases hok
  · refine Ensures.pure ⟨{ hsaved with stored := fun _ ↦ hsaved.stored rfl }, ?_⟩
    intro saved hok
    exact (Except.ok.inj hok).symm

/-- What `Get` may have found. -/
structure Found (vehicleID : GoString) (gracePeriod : ℤ) (held : Option ℤ) (w : GatewayState)
    (v : GoString) (session : VideoSession) : Prop where
  kept : v.throughJSON = v → session.Kept v
  unwatched : v = vehicleID → Unwatched gracePeriod held session
  controller : v = vehicleID → session.controllerSessionID = [] ∨
    controllerOf w vehicleID = some session.controllerSessionID

theorem ensures_look (h : Quiet vehicleID gracePeriod held w) (v : GoString) :
    Ensures (MayFail Timing.instant) w (get v) fun result w' ↦
      Quiet vehicleID gracePeriod held w' ∧ Undisturbed vehicleID w w' ∧
        ∀ session, result = .ok session → Found vehicleID gracePeriod held w v session := by
  apply ensures_get
  · intro error
    refine Ensures.pure ⟨h, .refl w, fun session hok ↦ ?_⟩
    cases hok
  cases hget : w.redis.get w.clock (.videoSession v) with
  | none =>
      apply ensures_timeNow
      refine Ensures.pure ⟨h, .refl w, fun session hok ↦ ?_⟩
      obtain rfl := Except.ok.inj hok
      refine ⟨fun hv ↦ ⟨rfl, ?_⟩, fun _ ↦ ⟨rfl, fun hne ↦ absurd rfl hne, fun _ ↦ .inl rfl⟩,
        fun _ ↦ .inl rfl⟩
      simp only [VideoSession.marshal, standbySession, hv]
      rfl
  | some session =>
      obtain ⟨e, hlive, rfl⟩ := Store.get_eq_some_iff.mp hget
      have hstored := (Store.live_eq_some_iff.mp hlive).1
      have hkept := h.kept v e hstored
      have hfound : Found vehicleID gracePeriod held w v e.value := by
        refine ⟨fun _ ↦ hkept, ?_, ?_⟩
        · rintro rfl
          exact h.unwatched e hstored
        · rintro rfl
          exact .inr (by simp only [controllerOf, hstored, Option.map_some])
      have hsteady : Quiet vehicleID gracePeriod held w ∧ Undisturbed vehicleID w w ∧
          ∀ session, (.ok e.value : Except VideoSessionError VideoSession) = .ok session →
            Found vehicleID gracePeriod held w v session := by
        refine ⟨h, .refl w, fun session hok ↦ ?_⟩
        obtain rfl := Except.ok.inj hok
        exact hfound
      dsimp only
      split_ifs with hgrace
      · apply ensures_timeNow
        split_ifs with hover
        · have hcontroller : e.value.controllerSessionID = [] := by
            simp only [inGrace, Bool.and_eq_true, decide_eq_true_eq] at hgrace
            exact hgrace.1.2
          have hsettled : e.value.settled.Kept v := by
            rw [VideoSession.kept_iff] at hkept ⊢
            exact hkept
          have hunwatched : v = vehicleID →
              Unwatched gracePeriod held e.value.settled := by
            intro hv
            exact ⟨(hfound.unwatched hv).viewerCount, fun hne ↦ absurd hcontroller hne,
              fun _ ↦ .inl rfl⟩
          refine (ensures_andSave h hsettled hunwatched).mono ?_
          rintro result w' ⟨hsaved, hresult⟩
          refine ⟨hsaved.quiet, ⟨hsaved.same, ?_⟩, fun session hok ↦ ?_⟩
          · rcases hsaved.controller with hsame | hnew
            · exact hsame
            · by_cases hv : v = vehicleID
              · subst hv
                rw [hnew]
                simp only [controllerOf, hstored, Option.map_some]
                rfl
              · exact hsaved.other (by rwa [hsettled.1])
          · obtain rfl := hresult session hok
            exact ⟨fun _ ↦ hsettled, hunwatched, fun _ ↦ .inl hcontroller⟩
        · exact Ensures.pure hsteady
      · exact Ensures.pure hsteady

theorem ensures_named {session : VideoSession} (h : Quiet vehicleID gracePeriod held w) :
    Ensures (MayFail Timing.instant) w (named session) fun session' w' ↦
      Quiet vehicleID gracePeriod held w' ∧ Undisturbed vehicleID w w' ∧
        (session.Kept v → session'.Kept v) ∧ session'.viewerCount = session.viewerCount := by
  unfold named
  split_ifs with hempty
  · apply ensures_newUUID
    intro id hnew hvalid hne
    apply ensures_timeNow
    refine Ensures.pure ⟨⟨h.started, h.kept, h.leased, h.viewers, h.unwatched⟩,
      .of_drawn, fun hkept ↦ ?_, rfl⟩
    rw [VideoSession.kept_iff] at hkept ⊢
    exact ⟨hkept.1, hkept.2.1, GoString.throughJSON_of_valid hvalid, hkept.2.2.2⟩
  · exact Ensures.pure ⟨h, .refl w, id, rfl⟩

/-- What an operation on `v` that stores the controller `stored` may leave. -/
structure Sets (vehicleID : GoString) (gracePeriod : ℤ) (held : Option ℤ) (v : GoString)
    (stored : GoString → Prop) (w : GatewayState) (succeeded : Prop) (w' : GatewayState) :
    Prop where
  quiet : Quiet vehicleID gracePeriod held w'
  same : SameLease vehicleID w w'
  other : v ≠ vehicleID → Undisturbed vehicleID w w'
  controller : controllerOf w' vehicleID = controllerOf w vehicleID ∨
    ∃ controller, controllerOf w' vehicleID = some controller ∧ stored controller
  stored : succeeded → v = vehicleID →
    ∃ controller, controllerOf w' vehicleID = some controller ∧ stored controller

theorem ensures_setController (h : Quiet vehicleID gracePeriod held w)
    (hv : v.throughJSON = v) {controlSessionID : GoString}
    (hid : controlSessionID.throughJSON = controlSessionID) (hne : controlSessionID ≠ []) :
    Ensures (MayFail Timing.instant) w (setController v controlSessionID) fun result w' ↦
      Sets vehicleID gracePeriod held v (fun controller ↦ controller = controlSessionID) w
        (∃ session, result = .ok session) w' := by
  refine Ensures.bind (ensures_look h v) ?_
  rintro result w₁ ⟨hquiet, hsame, hfound⟩
  rcases result with error | session
  · refine Ensures.pure ⟨hquiet, hsame.toSameLease, fun _ ↦ hsame, .inl hsame.controller, ?_⟩
    rintro ⟨session, hok⟩
    cases hok
  · have hsession := hfound session rfl
    refine Ensures.bind (ensures_named (v := v) hquiet) ?_
    rintro session' w₂ ⟨hquiet', hsame', hkept, hcount⟩
    have hsame₂ := hsame.trans hsame'
    have hnew : ({ session' with
        controllerSessionID := controlSessionID
        mode := .active
        graceDeadlineMS := 0 } : VideoSession).Kept v := by
      have hkept' := hkept (hsession.kept hv)
      rw [VideoSession.kept_iff] at hkept' ⊢
      exact ⟨hkept'.1, hkept'.2.1, hkept'.2.2.1, hid⟩
    refine (ensures_andSave hquiet' hnew fun heq ↦ ?_).mono ?_
    · exact ⟨hcount.trans (hsession.unwatched heq).viewerCount, fun _ ↦ rfl,
        fun hempty ↦ absurd hempty hne⟩
    · rintro result w₃ ⟨hsaved, -⟩
      refine ⟨hsaved.quiet, hsame₂.toSameLease.trans hsaved.same, fun hother ↦ ?_, ?_,
        fun hok heq ↦ ?_⟩
      · exact hsame₂.trans ⟨hsaved.same, hsaved.other (by rwa [hnew.1])⟩
      · rcases hsaved.controller with hold | hset
        · exact .inl (hold.trans hsame₂.controller)
        · exact .inr ⟨controlSessionID, hset, rfl⟩
      · exact ⟨controlSessionID, hsaved.stored hok (hnew.1.trans heq), rfl⟩

theorem ensures_saveAfterViewerChange (s : VideoSessionStore)
    (h : Quiet vehicleID s.gracePeriod held w) (hgrace : 0 ≤ s.gracePeriod)
    {session : VideoSession} (hkept : session.Kept v)
    (hunwatched : v = vehicleID → session.viewerCount = 0 ∧
      (session.controllerSessionID ≠ [] → session.mode = .active) ∧ held = some w.clock) :
    Ensures (MayFail Timing.instant) w (s.saveAfterViewerChange session) fun result w' ↦
      Sets vehicleID s.gracePeriod held v
        (fun controller ↦ controller = session.controllerSessionID) w
        (∃ session, result = .ok session) w' := by
  have hsets : ∀ {session' : VideoSession} {result : Except VideoSessionError VideoSession}
      {w' : GatewayState}, session'.Kept v →
        session'.controllerSessionID = session.controllerSessionID →
        Saved vehicleID s.gracePeriod held session' w (∃ saved, result = .ok saved) w' →
          Sets vehicleID s.gracePeriod held v
            (fun controller ↦ controller = session.controllerSessionID) w
            (∃ session, result = .ok session) w' := by
    intro session' result w' hkept' hcontroller hsaved
    refine ⟨hsaved.quiet, hsaved.same, fun hother ↦ ⟨hsaved.same, hsaved.other ?_⟩, ?_, ?_⟩
    · rwa [hkept'.1]
    · rcases hsaved.controller with hold | hset
      · exact .inl hold
      · exact .inr ⟨_, hset, hcontroller⟩
    · intro hok heq
      exact ⟨_, hsaved.stored hok (hkept'.1.trans heq), hcontroller⟩
  unfold saveAfterViewerChange
  split_ifs with hidle
  · apply ensures_timeNow
    have hnew : ({ session with
        mode := .active
        graceDeadlineMS := w.clock + s.gracePeriod } : VideoSession).Kept v := by
      rw [VideoSession.kept_iff] at hkept ⊢
      exact hkept
    refine (ensures_andSave h hnew fun heq ↦ ?_).mono ?_
    · refine ⟨(hunwatched heq).1, fun _ ↦ rfl, fun _ ↦ .inr ⟨?_, w.clock, (hunwatched heq).2.2,
        le_rfl⟩⟩
      have hstarted := h.started
      dsimp only
      omega
    · rintro result w' ⟨hsaved, -⟩
      exact hsets hnew rfl hsaved
  · refine (ensures_andSave h hkept fun heq ↦ ?_).mono ?_
    · obtain ⟨hcount, hactive, -⟩ := hunwatched heq
      refine ⟨hcount, hactive, fun hempty ↦ ?_⟩
      exact absurd ⟨hcount, hempty⟩ hidle
    · rintro result w' ⟨hsaved, -⟩
      exact hsets hkept rfl hsaved

/-- Clearing the controller of a vehicle whose lease was live when the request came. -/
theorem ensures_clearController (s : VideoSessionStore)
    (h : Quiet vehicleID s.gracePeriod held w) (hgrace : 0 ≤ s.gracePeriod)
    (hv : v.throughJSON = v) (hheld : v = vehicleID → held = some w.clock)
    (controlSessionID : GoString) :
    Ensures (MayFail Timing.instant) w (s.clearController v controlSessionID) fun result w' ↦
      Sets vehicleID s.gracePeriod held v
        (fun controller ↦ controller = [] ∨
          controllerOf w vehicleID = some controller ∧ controller ≠ controlSessionID) w
        (∃ session, result = .ok session) w' := by
  refine Ensures.bind (ensures_look h v) ?_
  rintro result w₁ ⟨hquiet, hsame, hfound⟩
  rcases result with error | session
  · refine Ensures.pure ⟨hquiet, hsame.toSameLease, fun _ ↦ hsame, .inl hsame.controller, ?_⟩
    rintro ⟨session, hok⟩
    cases hok
  · have hsession := hfound session rfl
    have hkept := hsession.kept hv
    have hcleared : ({ session with
        controllerSessionID :=
          if session.controllerSessionID = controlSessionID then []
          else session.controllerSessionID } : VideoSession).Kept v := by
      rw [VideoSession.kept_iff] at hkept ⊢
      refine ⟨hkept.1, hkept.2.1, hkept.2.2.1, ?_⟩
      dsimp only
      split_ifs
      · rfl
      · exact hkept.2.2.2
    refine (ensures_saveAfterViewerChange s hquiet hgrace hcleared fun heq ↦ ?_).mono ?_
    · refine ⟨(hsession.unwatched heq).viewerCount, fun hne ↦ ?_, ?_⟩
      · dsimp only at hne
        split_ifs at hne with hid
        · exact absurd rfl hne
        · exact (hsession.unwatched heq).controlled hne
      · rw [hsame.clock]
        exact hheld heq
    · intro result w₂ hsets
      have hclears : ∀ {controller : GoString}, v = vehicleID →
          (controller = if session.controllerSessionID = controlSessionID then []
            else session.controllerSessionID) →
          controller = [] ∨ controllerOf w vehicleID = some controller ∧
            controller ≠ controlSessionID := by
        intro controller heq hcontroller
        split_ifs at hcontroller with hid
        · exact .inl hcontroller
        · rcases hsession.controller heq with hempty | hsome
          · exact .inl (hcontroller.trans hempty)
          · rw [← hcontroller] at hsome hid
            exact .inr ⟨hsome, hid⟩
      refine ⟨hsets.quiet, hsame.toSameLease.trans hsets.same,
        fun hother ↦ hsame.trans (hsets.other hother), ?_, fun hok heq ↦ ?_⟩
      · by_cases heq : v = vehicleID
        · rcases hsets.controller with hold | ⟨controller, hset, hcontroller⟩
          · exact .inl (hold.trans hsame.controller)
          · exact .inr ⟨controller, hset, hclears heq hcontroller⟩
        · exact .inl (hsame.trans (hsets.other heq)).controller
      · obtain ⟨controller, hset, hcontroller⟩ := hsets.stored hok heq
        exact ⟨controller, hset, hclears heq hcontroller⟩

/-- Another vehicle's viewer leaves. -/
theorem ensures_releaseViewer (s : VideoSessionStore)
    (h : Quiet vehicleID s.gracePeriod held w) (hgrace : 0 ≤ s.gracePeriod)
    (sessionID : GoString) :
    Ensures (MayFail Timing.instant) w (s.releaseViewer sessionID) fun _ w' ↦
      Quiet vehicleID s.gracePeriod held w' ∧ Undisturbed vehicleID w w' := by
  apply ensures_get
  · intro error
    exact Ensures.pure ⟨h, .refl w⟩
  cases hget : w.redis.get w.clock (.videoViewer sessionID) with
  | none => exact Ensures.pure ⟨h, .refl w⟩
  | some v =>
      obtain ⟨e, hlive, rfl⟩ := Store.get_eq_some_iff.mp hget
      obtain ⟨hne, hv⟩ := h.viewers sessionID e (Store.live_eq_some_iff.mp hlive).1
      refine Ensures.bind (ensures_look h e.value) ?_
      rintro result w₁ ⟨hquiet, hsame, hfound⟩
      rcases result with error | session
      · exact Ensures.pure ⟨hquiet, hsame⟩
      have hkept := (hfound session rfl).kept hv
      have hleft : ({ session with
          viewerCount :=
            if session.viewerCount > 0 then session.viewerCount - 1
            else session.viewerCount } : VideoSession).Kept e.value := by
        rw [VideoSession.kept_iff] at hkept ⊢
        exact hkept
      have hrest : ∀ {w₂ : GatewayState}, Quiet vehicleID s.gracePeriod held w₂ →
          Undisturbed vehicleID w w₂ →
          Ensures (MayFail Timing.instant) w₂ (s.saveAfterViewerChange
            { session with
              viewerCount :=
                if session.viewerCount > 0 then session.viewerCount - 1
                else session.viewerCount }) fun _ w' ↦
            Quiet vehicleID s.gracePeriod held w' ∧ Undisturbed vehicleID w w' := by
        intro w₂ hquiet₂ hsame₂
        refine (ensures_saveAfterViewerChange s hquiet₂ hgrace hleft
          fun heq ↦ absurd heq hne).mono ?_
        intro result w' hsets
        exact ⟨hsets.quiet, hsame₂.trans (hsets.other hne)⟩
      apply ensures_redis
      · intro error
        exact hrest hquiet hsame
      · intro result redis hexec
        obtain ⟨-, rfl⟩ := Prod.mk.inj (Except.ok.inj hexec)
        have hquiet₂ := hquiet.drop (.videoViewer sessionID)
        have hdropped : Undisturbed vehicleID w₁
            { w₁ with redis := w₁.redis.del (.videoViewer sessionID) } :=
          undisturbed_drop w₁ (by simp) (by simp) (by simp)
        have hsame₂ := hsame.trans hdropped
        exact ⟨hrest hquiet₂ hsame₂, fun _ ↦ hrest hquiet₂ hsame₂⟩

/-- Somebody watches another vehicle. -/
theorem ensures_acquireViewer (s : VideoSessionStore)
    (h : Quiet vehicleID gracePeriod held w) (hne : v ≠ vehicleID) (hv : v.throughJSON = v) :
    Ensures (MayFail Timing.instant) w (s.acquireViewer v) fun _ w' ↦
      Quiet vehicleID gracePeriod held w' ∧ Undisturbed vehicleID w w' := by
  refine Ensures.bind (ensures_look h v) ?_
  rintro result w₁ ⟨hquiet, hsame, hfound⟩
  rcases result with error | session
  · exact Ensures.pure ⟨hquiet, hsame⟩
  refine Ensures.bind (ensures_named (v := v) hquiet) ?_
  rintro session' w₂ ⟨hquiet₂, hsame₂, hkept, -⟩
  have hnew : ({ session' with
      viewerCount := session'.viewerCount + 1
      mode := .active
      graceDeadlineMS := 0 } : VideoSession).Kept v := by
    have hkept' := hkept ((hfound session rfl).kept hv)
    rw [VideoSession.kept_iff] at hkept' ⊢
    exact hkept'
  refine Ensures.bind (ensures_save hquiet₂ hnew fun heq ↦ absurd heq hne) ?_
  intro result w₃ hsaved
  have hsame₃ : Undisturbed vehicleID w w₃ :=
    (hsame.trans hsame₂).trans ⟨hsaved.same, hsaved.other (by rwa [hnew.1])⟩
  rcases result with error | saved
  · exact Ensures.pure ⟨hsaved.quiet, hsame₃⟩
  apply ensures_redis
  · intro error
    exact Ensures.pure ⟨hsaved.quiet, hsame₃⟩
  · intro result redis hexec
    simp only [RedisCommand.exec] at hexec
    split_ifs at hexec with hpx
    obtain ⟨-, rfl⟩ := Prod.mk.inj (Except.ok.inj hexec)
    have hquiet₄ := hsaved.quiet.indexViewer hne hv session'.sessionID
      (w₃.clock + (s.gracePeriod + 60 * 60 * 1000))
    exact ⟨Ensures.pure ⟨hquiet₄.1, hsame₃.trans hquiet₄.2⟩,
      fun _ ↦ Ensures.pure ⟨hquiet₄.1, hsame₃.trans hquiet₄.2⟩⟩


end VideoSessionStore

/-! ## The operations of the lease store -/

section Leases

variable {vehicleID v : GoString} {gracePeriod : ℤ} {held : Option ℤ} {w : GatewayState}

/-- `w` with a lease and its index entry. -/
def GatewayState.leasing (w : GatewayState) (vehicleID sessionID indexed : GoString)
    (payload : ControlSessionJSON) (deadline : ℤ) : GatewayState :=
  { w with
    redis := (w.redis.set (.controlLease vehicleID) payload deadline).set
      (.controlSessionIndex sessionID) indexed deadline }

/-- `w` without a lease and its index entry. -/
def GatewayState.releasing (w : GatewayState) (vehicleID sessionID : GoString) : GatewayState :=
  { w with
    redis := (w.redis.del (.controlLease vehicleID)).del (.controlSessionIndex sessionID) }

/-- A lease may be stored under its own vehicle. -/
theorem Quiet.leasing (h : Quiet vehicleID gracePeriod held w) {payload : ControlSessionJSON}
    (hvehicle : payload.session.vehicleID = v) (hv : v.throughJSON = v)
    (sessionID indexed : GoString) (deadline : ℤ) :
    Quiet vehicleID gracePeriod held (w.leasing v sessionID indexed payload deadline) := by
  refine ⟨h.started, fun u e he ↦ ?_, fun u e he ↦ ?_, fun id e he ↦ ?_, fun e he ↦ ?_⟩
  all_goals simp only [GatewayState.leasing] at he
  · exact h.kept u e (Store.apply_of_set (Store.apply_of_set he (by simp)) (by simp))
  · have hset := Store.apply_of_set he (by simp)
    by_cases hu : u = v
    · subst hu
      rw [Store.set_apply_self] at hset
      obtain rfl := Option.some.inj hset
      exact ⟨hvehicle, hv⟩
    · exact h.leased u e (Store.apply_of_set hset (by simpa using hu))
  · exact h.viewers id e (Store.apply_of_set (Store.apply_of_set he (by simp)) (by simp))
  · exact h.unwatched e (Store.apply_of_set (Store.apply_of_set he (by simp)) (by simp))

theorem controllerOf_leasing (w : GatewayState) (sessionID indexed : GoString)
    (payload : ControlSessionJSON) (deadline : ℤ) :
    controllerOf (w.leasing v sessionID indexed payload deadline) vehicleID =
      controllerOf w vehicleID := by
  simp only [controllerOf, GatewayState.leasing]
  rw [Store.set_apply_of_ne _ (by simp), Store.set_apply_of_ne _ (by simp)]

theorem leasing_other (w : GatewayState) (hne : v ≠ vehicleID) (sessionID indexed : GoString)
    (payload : ControlSessionJSON) (deadline : ℤ) :
    (w.leasing v sessionID indexed payload deadline).redis (.controlLease vehicleID) =
      w.redis (.controlLease vehicleID) := by
  simp only [GatewayState.leasing]
  rw [Store.set_apply_of_ne _ (by simp), Store.set_apply_of_ne _ (by simpa using hne.symm)]

theorem live_leasing (w : GatewayState) (sessionID indexed : GoString)
    (payload : ControlSessionJSON) {px : ℤ} (hpx : 0 < px) :
    (w.leasing v sessionID indexed payload (w.clock + px)).redis.live w.clock (.controlLease v) =
      some ⟨payload, w.clock + px⟩ := by
  simp only [GatewayState.leasing]
  rw [Store.live_set_of_ne _ _ (by simp)]
  exact Store.live_set_self _ _ _ _ _ (by omega)

theorem controllerOf_releasing (w : GatewayState) (sessionID : GoString) :
    controllerOf (w.releasing v sessionID) vehicleID = controllerOf w vehicleID := by
  simp only [controllerOf, GatewayState.releasing]
  rw [Store.del_apply_of_ne _ (by simp), Store.del_apply_of_ne _ (by simp)]

theorem releasing_other (w : GatewayState) (hne : v ≠ vehicleID) (sessionID : GoString) :
    (w.releasing v sessionID).redis (.controlLease vehicleID) =
      w.redis (.controlLease vehicleID) := by
  simp only [GatewayState.releasing]
  rw [Store.del_apply_of_ne _ (by simp), Store.del_apply_of_ne _ (by simpa using hne.symm)]

/-- What `getSessionByID` finds: the live lease of the vehicle that the index names. -/
def IndexedLease (w : GatewayState) (sessionID vehicleID : GoString)
    (session : ControlSession) : Prop :=
  w.redis.get w.clock (.controlSessionIndex sessionID) = some vehicleID ∧
    session.sessionID = sessionID ∧
      ∃ lease, w.redis.live w.clock (.controlLease vehicleID) = some lease ∧
        lease.value.session = session

namespace ControlLeaseStore

variable [Cjson]

theorem ensures_getControlSession (w : GatewayState) (v : GoString) :
    Ensures (MayFail Timing.instant) w (getControlSession v) fun result w' ↦
      w' = w ∧ ∀ session, result = .ok session →
        ∃ lease, w.redis.live w.clock (.controlLease v) = some lease ∧
          lease.value.session = session := by
  have hfailed : ∀ error : ControlSessionError, w = w ∧
      ∀ session, (.error error : Except ControlSessionError ControlSession) = .ok session →
        ∃ lease, w.redis.live w.clock (.controlLease v) = some lease ∧
          lease.value.session = session := by
    intro error
    refine ⟨rfl, fun session hok ↦ ?_⟩
    cases hok
  apply ensures_get
  · intro error
    exact Ensures.pure (hfailed _)
  cases hlease : w.redis.get w.clock (.controlLease v) with
  | none => exact Ensures.pure (hfailed _)
  | some raw =>
      obtain ⟨lease, hlive, rfl⟩ := Store.get_eq_some_iff.mp hlease
      dsimp only
      cases hraw : lease.value.unmarshal with
      | none => exact Ensures.pure (hfailed _)
      | some session =>
          unfold ControlSessionJSON.unmarshal at hraw
          split_ifs at hraw with hreadable
          obtain rfl := Option.some.inj hraw
          refine Ensures.pure ⟨rfl, fun session hok ↦ ?_⟩
          obtain rfl := Except.ok.inj hok
          exact ⟨lease, hlive, rfl⟩

theorem ensures_getSessionByID (w : GatewayState) (sessionID : GoString) :
    Ensures (MayFail Timing.instant) w (getSessionByID sessionID) fun result w' ↦
      w' = w ∧ ∀ session, result = .ok session → ∃ v, IndexedLease w sessionID v session := by
  have hfailed : ∀ error : ControlSessionError,
      w = w ∧ ∀ session, (.error error : Except ControlSessionError ControlSession) = .ok session →
        ∃ v, IndexedLease w sessionID v session := by
    intro error
    refine ⟨rfl, fun session hok ↦ ?_⟩
    cases hok
  apply ensures_get
  · intro error
    exact Ensures.pure (hfailed _)
  cases hindex : w.redis.get w.clock (.controlSessionIndex sessionID) with
  | none => exact Ensures.pure (hfailed _)
  | some v =>
      refine Ensures.bind (ensures_getControlSession w v) ?_
      rintro result w' ⟨rfl, hfound⟩
      rcases result with error | session
      · exact Ensures.pure (hfailed _)
      dsimp only
      split_ifs with hid
      · exact Ensures.pure (hfailed _)
      · refine Ensures.pure ⟨rfl, fun session' hok ↦ ?_⟩
        obtain rfl := Except.ok.inj hok
        exact ⟨v, hindex, not_not.mp hid, hfound session rfl⟩

/-- An acquire stores the lease, whether or not it learns of it, or nothing. -/
theorem ensures_acquireControlSession (s : ControlLeaseStore) (session : ControlSession) :
    Ensures (MayFail Timing.instant) w (s.acquireControlSession session) fun result w' ↦
      ((∃ error, result = .error error) ∧ w' = w) ∨
        (result = .ok () ∨ result = .error .wrapped) ∧ 0 < s.ttl ∧
          w' = w.leasing session.vehicleID session.sessionID session.vehicleID session.marshal
            (w.clock + s.ttl) := by
  apply ensures_redis
  · intro error
    exact Ensures.pure (.inl ⟨⟨_, rfl⟩, rfl⟩)
  · intro result redis hexec
    rcases acquireControlSessionScript_cases hexec with ⟨rfl, rfl, -⟩ | ⟨rfl, -, hpx, rfl⟩
    · exact ⟨Ensures.pure (.inl ⟨⟨_, rfl⟩, rfl⟩), fun _ ↦ Ensures.pure (.inl ⟨⟨_, rfl⟩, rfl⟩)⟩
    · exact ⟨Ensures.pure (.inr ⟨.inl rfl, hpx, rfl⟩),
        fun _ ↦ Ensures.pure (.inr ⟨.inr rfl, hpx, rfl⟩)⟩

/-- What releasing a session may leave. -/
structure Released (vehicleID : GoString) (gracePeriod : ℤ) (held : Option ℤ)
    (sessionID : GoString) (w : GatewayState) (result : Except ControlSessionError Unit)
    (w' : GatewayState) : Prop where
  quiet : Quiet vehicleID gracePeriod held w'
  clock : w'.clock = w.clock
  controller : controllerOf w' vehicleID = controllerOf w vehicleID
  lease : w.redis.get w.clock (.controlSessionIndex sessionID) ≠ some vehicleID →
    w'.redis (.controlLease vehicleID) = w.redis (.controlLease vehicleID)
  refused : (∃ error, result = .error error ∧ error ≠ .wrapped) → w' = w

theorem ensures_releaseControlSession (h : Quiet vehicleID gracePeriod held w)
    (sessionID operatorID : GoString) :
    Ensures (MayFail Timing.instant) w (releaseControlSession sessionID operatorID)
      (Released vehicleID gracePeriod held sessionID w) := by
  have hunchanged : ∀ result : Except ControlSessionError Unit,
      Released vehicleID gracePeriod held sessionID w result w := fun _ ↦
    ⟨h, rfl, rfl, fun _ ↦ rfl, fun _ ↦ rfl⟩
  refine Ensures.bind (ensures_getSessionByID w sessionID) ?_
  rintro result w' ⟨rfl, hfound⟩
  rcases result with error | session
  · exact Ensures.pure (hunchanged _)
  obtain ⟨v, hindex, -, lease, hlive, rfl⟩ := hfound session rfl
  have hvehicle := (h.leased v lease (Store.live_eq_some_iff.mp hlive).1).1
  dsimp only
  split_ifs with howner
  · exact Ensures.pure (hunchanged _)
  apply ensures_redis
  · intro error
    exact Ensures.pure (hunchanged _)
  · intro result redis hexec
    rcases releaseControlSessionScript_cases (Except.ok.inj hexec) with
      ⟨hresult, rfl⟩ | ⟨lease', rfl, hlive', -, -, rfl⟩
    · constructor
      · dsimp only
        split_ifs
        · exact Ensures.pure (hunchanged _)
        · exact Ensures.pure (hunchanged _)
        · exact Ensures.pure (hunchanged _)
      · intro error
        exact Ensures.pure (hunchanged _)
    · rw [hvehicle]
      have hdropped : ∀ {result : Except ControlSessionError Unit},
          (∀ error, result = .error error → error = .wrapped) →
          Released vehicleID gracePeriod held sessionID w' result (w'.releasing v sessionID) := by
        intro result hresult
        refine ⟨(h.drop (.controlLease v)).drop (.controlSessionIndex sessionID), rfl,
          controllerOf_releasing w' sessionID, fun hother ↦ ?_, ?_⟩
        · refine releasing_other w' ?_ sessionID
          rintro rfl
          exact hother hindex
        · rintro ⟨error, herror, hne⟩
          exact absurd (hresult error herror) hne
      constructor
      · refine Ensures.pure (hdropped ?_)
        intro error herror
        cases herror
      · intro error
        refine Ensures.pure (hdropped ?_)
        intro error' herror
        exact (Except.error.inj herror).symm

end ControlLeaseStore

/-! ## The handlers -/

/-- What a request leaves; `ended` says that it is not one that leaves a controller behind. -/
structure Keeps (vehicleID : GoString) (gracePeriod : ℤ) (held : Option ℤ) (w : GatewayState)
    (ended : Prop) (w' : GatewayState) : Prop where
  quiet : Quiet vehicleID gracePeriod held w'
  clock : w'.clock = w.clock
  leased : ended → ControllerLeased vehicleID w → ControllerLeased vehicleID w'

theorem Keeps.undisturbed {w' : GatewayState} {ended : Prop}
    (h : Quiet vehicleID gracePeriod held w') (hsame : Undisturbed vehicleID w w') :
    Keeps vehicleID gracePeriod held w ended w' :=
  ⟨h, hsame.clock, fun _ hleased ↦ hleased.same hsame.clock hsame.lease hsame.controller⟩

variable [Cjson] {g : GatewayConfig}

theorem ensures_handleRenewControl (h : Quiet vehicleID gracePeriod held w)
    (r : SessionRequest) :
    Ensures (MayFail Timing.instant) w (handleRenewControl g r) fun _ w' ↦
      Keeps vehicleID gracePeriod held w True w' := by
  have hsame : Keeps vehicleID gracePeriod held w True w := .undisturbed h (.refl w)
  have hrenew : Ensures (MayFail Timing.instant) w
      (g.controlLeases.renewControlSession r.sessionID r.claims.name) fun _ w' ↦
        Keeps vehicleID gracePeriod held w True w' := by
    refine Ensures.bind (ControlLeaseStore.ensures_getSessionByID w r.sessionID) ?_
    rintro result w' ⟨rfl, hfound⟩
    rcases result with error | session
    · exact Ensures.pure hsame
    obtain ⟨v, -, -, lease, hlive, rfl⟩ := hfound session rfl
    obtain ⟨hvehicle, hv⟩ := h.leased v lease (Store.live_eq_some_iff.mp hlive).1
    dsimp only
    split_ifs with howner
    · exact Ensures.pure hsame
    apply ensures_timeNow
    rw [hvehicle]
    apply ensures_redis
    · intro error
      exact Ensures.pure hsame
    · intro result redis hexec
      have hran : Keeps vehicleID gracePeriod held w' True { w' with redis := redis } := by
        rcases renewControlSessionScript_cases hexec with
          ⟨-, rfl⟩ | ⟨lease', -, hlive', -, -, -, -, hpx, rfl⟩
        · exact hsame
        · have hstored := (Store.live_eq_some_iff.mp hlive').1
          have hvehicle' := (h.leased v lease' hstored).1
          change Keeps vehicleID gracePeriod held w' True (w'.leasing v r.sessionID v
            ({ lease'.value.session with
              expiresAtMS := w'.clock + g.controlLeases.ttl } : ControlSession).cjsonEncode
            (w'.clock + g.controlLeases.ttl))
          refine ⟨h.leasing ?_ hv _ _ _, rfl, fun _ hleased ↦ ?_⟩
          · exact hvehicle'
          intro controller hcontroller hne
          obtain ⟨old, hold, hid⟩ :=
            hleased controller ((controllerOf_leasing w' _ _ _ _).symm.trans hcontroller) hne
          by_cases heq : v = vehicleID
          · subst heq
            obtain rfl := Option.some.inj (hold.symm.trans hlive')
            exact ⟨_, live_leasing w' _ _ _ hpx, hid⟩
          · refine ⟨old, ?_, hid⟩
            rw [Store.live] at hold ⊢
            exact (congrArg _ (leasing_other w' heq _ _ _ _)).trans hold
      constructor
      · dsimp only
        split_ifs
        · exact Ensures.pure hran
        · exact Ensures.pure hran
        · exact Ensures.pure hran
      · intro error
        exact Ensures.pure hran
  unfold handleRenewControl
  split_ifs with hmethod
  · exact Ensures.pure hsame
  · refine Ensures.bind hrenew ?_
    intro result w' hkeeps
    rcases result with error | session
    · exact Ensures.pure hkeeps
    · exact ensures_recordAudit (Ensures.pure hkeeps)

theorem ensures_handleReleaseControl (h : Quiet vehicleID g.videoSessions.gracePeriod held w)
    (hgrace : 0 ≤ g.videoSessions.gracePeriod)
    (hheld : ∀ lease, w.redis.live w.clock (.controlLease vehicleID) = some lease →
      held = some w.clock) (r : SessionRequest) :
    Ensures (MayFail Timing.instant) w (handleReleaseControl g r) fun response w' ↦
      Keeps vehicleID g.videoSessions.gracePeriod held w
        (w.redis.get w.clock (.controlSessionIndex r.sessionID) = some vehicleID →
          response.status ≠ 503) w' := by
  have hsame : ∀ {ended : Prop}, Keeps vehicleID g.videoSessions.gracePeriod held w ended w :=
    .undisturbed h (.refl w)
  unfold handleReleaseControl
  split_ifs with hmethod
  · exact Ensures.pure hsame
  refine Ensures.bind (ControlLeaseStore.ensures_getSessionByID w r.sessionID) ?_
  rintro result w' ⟨rfl, hfound⟩
  rcases result with error | session
  · exact Ensures.pure hsame
  obtain ⟨v, hindex, hid, lease, hlive, rfl⟩ := hfound session rfl
  obtain ⟨hvehicle, hv⟩ := h.leased v lease (Store.live_eq_some_iff.mp hlive).1
  rw [← hid] at hindex ⊢
  dsimp only
  rw [hvehicle]
  refine Ensures.bind (ControlLeaseStore.ensures_releaseControlSession h
    lease.value.session.sessionID r.claims.name) ?_
  intro result w₁ hreleased
  have hother : v ≠ vehicleID → w₁.redis (.controlLease vehicleID) =
      w'.redis (.controlLease vehicleID) := by
    intro hne
    apply hreleased.lease
    rw [hindex]
    exact fun hsome ↦ hne (Option.some.inj hsome)
  -- a release of another vehicle's session leaves this one's lease and record alone
  have hkeeps : ∀ {w₂ : GatewayState} {ended : Prop},
      Quiet vehicleID g.videoSessions.gracePeriod held w₂ → w₂.clock = w'.clock →
        (v ≠ vehicleID → Undisturbed vehicleID w₁ w₂) →
          (v = vehicleID → ended → ControllerLeased vehicleID w' → ControllerLeased vehicleID w₂) →
            Keeps vehicleID g.videoSessions.gracePeriod held w' ended w₂ := by
    intro w₂ ended hquiet hclock hundisturbed hthis
    refine ⟨hquiet, hclock, fun hended hleased ↦ ?_⟩
    by_cases heq : v = vehicleID
    · exact hthis heq hended hleased
    · have hsame₂ := hundisturbed heq
      exact hleased.same hclock (hsame₂.lease.trans (hother heq))
        (hsame₂.controller.trans hreleased.controller)
  have hhalfway : ∀ {status : ℕ}, status = 503 → v = vehicleID →
      ¬(w'.redis.get w'.clock (.controlSessionIndex lease.value.session.sessionID) =
        some vehicleID → status ≠ 503) := by
    rintro status rfl rfl hended
    exact hended hindex rfl
  rcases result with error | released
  · by_cases hwrapped : error = .wrapped
    · subst hwrapped
      refine Ensures.pure (hkeeps hreleased.quiet hreleased.clock (fun _ ↦ .refl w₁) ?_)
      intro heq hended
      exact absurd hended (hhalfway rfl heq)
    · obtain rfl := hreleased.refused ⟨error, rfl, hwrapped⟩
      exact Ensures.pure hsame
  · refine Ensures.bind (VideoSessionStore.ensures_clearController g.videoSessions hreleased.quiet
      hgrace hv (fun heq ↦ ?_) lease.value.session.sessionID) ?_
    · subst heq
      rw [hreleased.clock]
      exact hheld lease hlive
    intro result w₂ hcleared
    have hclock := hcleared.same.clock.trans hreleased.clock
    rcases result with error | session
    · refine Ensures.pure (hkeeps hcleared.quiet hclock hcleared.other ?_)
      intro heq hended
      exact absurd hended (hhalfway rfl heq)
    · refine ensures_recordAudit (Ensures.pure (hkeeps hcleared.quiet hclock hcleared.other ?_))
      intro heq _ hleased controller hcontroller hne
      obtain ⟨stored, hstored, hempty | ⟨hbefore, hid'⟩⟩ := hcleared.stored ⟨session, rfl⟩ heq
      · obtain rfl := Option.some.inj (hstored.symm.trans hcontroller)
        exact absurd hempty hne
      · obtain rfl := Option.some.inj (hstored.symm.trans hcontroller)
        rw [hreleased.controller] at hbefore
        obtain ⟨lease', hlive', hcontroller'⟩ := hleased stored hbefore hne
        subst heq
        obtain rfl := Option.some.inj (hlive.symm.trans hlive')
        exact absurd hcontroller'.symm hid'

theorem ensures_handleAcquireControl (h : Quiet vehicleID gracePeriod held w)
    (r : AcquireControlRequest) :
    Ensures (MayFail Timing.instant) w (handleAcquireControl g r) fun response w' ↦
      Keeps vehicleID gracePeriod held w
        (r.vehicleID = vehicleID → response.status ≠ 500 ∧ response.status ≠ 503) w' := by
  have hsame : ∀ {ended : Prop}, Keeps vehicleID gracePeriod held w ended w :=
    .undisturbed h (.refl w)
  unfold handleAcquireControl
  cases hcheck : r.check g with
  | error response => exact Ensures.pure hsame
  | ok publicKeyB64 =>
    have hadmitted := AcquireControlRequest.admitted_of_check hcheck
    have hv : r.vehicleID.throughJSON = r.vehicleID :=
      GoString.throughJSON_of_valid
        (VehicleAuthorizer.validUTF8_of_authorize hadmitted.authorize_eq)
    apply ensures_timeNow
    apply ensures_newUUID
    intro sessionID hnew hvalid hne
    have hid := GoString.throughJSON_of_valid hvalid
    have hdrawn : Keeps vehicleID gracePeriod held w True
        { w with drawn := sessionID :: w.drawn } :=
      .undisturbed ⟨h.started, h.kept, h.leased, h.viewers, h.unwatched⟩ .of_drawn
    have hdrawn' : ∀ {ended : Prop}, Keeps vehicleID gracePeriod held w ended
        { w with drawn := sessionID :: w.drawn } :=
      ⟨hdrawn.quiet, hdrawn.clock, fun _ ↦ hdrawn.leased trivial⟩
    generalize ({ w with drawn := sessionID :: w.drawn } : GatewayState) = w₀ at *
    refine Ensures.bind (ControlLeaseStore.ensures_acquireControlSession g.controlLeases _) ?_
    rintro result w₁ (⟨⟨error, rfl⟩, rfl⟩ | ⟨hresult, hpx, hw₁⟩)
    · exact Ensures.pure hdrawn'
    change w₁ = w₀.leasing r.vehicleID sessionID r.vehicleID
      (r.session g publicKeyB64 sessionID w.clock).marshal (w₀.clock + g.controlLeases.ttl) at hw₁
    have hquiet : Quiet vehicleID gracePeriod held w₁ := by
      rw [hw₁]
      exact hdrawn.quiet.leasing hv hv _ _ _
    have hclock : w₁.clock = w.clock := by
      rw [hw₁]
      exact hdrawn.clock
    -- nothing of this touches another vehicle, and a 500 or 503 on this one is left out
    have hkeeps : ∀ {w₂ : GatewayState} {status : ℕ}, Quiet vehicleID gracePeriod held w₂ →
        w₂.clock = w₁.clock →
          (r.vehicleID ≠ vehicleID →
            w₂.redis (.controlLease vehicleID) = w₁.redis (.controlLease vehicleID) ∧
              controllerOf w₂ vehicleID = controllerOf w₁ vehicleID) →
            (r.vehicleID = vehicleID → status = 500 ∨ status = 503 ∨
              ControllerLeased vehicleID w₂) →
              Keeps vehicleID gracePeriod held w
                (r.vehicleID = vehicleID → status ≠ 500 ∧ status ≠ 503) w₂ := by
      intro w₂ status hquiet₂ hclock₂ hother hthis
      refine ⟨hquiet₂, hclock₂.trans hclock, fun hended hleased ↦ ?_⟩
      by_cases heq : r.vehicleID = vehicleID
      · obtain ⟨h500, h503⟩ := hended heq
        rcases hthis heq with hbad | hbad | hgood
        · exact absurd hbad h500
        · exact absurd hbad h503
        · exact hgood
      · obtain ⟨hlease, hcontroller⟩ := hother heq
        have hleased₀ := hdrawn.leased trivial hleased
        refine hleased₀.same (hclock₂.trans (hclock.trans hdrawn.clock.symm)) (hlease.trans ?_)
          (hcontroller.trans ?_)
        · rw [hw₁]
          exact leasing_other w₀ heq _ _ _ _
        · rw [hw₁]
          exact controllerOf_leasing w₀ _ _ _ _
    rcases hresult with rfl | rfl
    rotate_left
    · exact Ensures.pure (hkeeps hquiet rfl (fun _ ↦ ⟨rfl, rfl⟩) fun _ ↦ .inr (.inl rfl))
    refine Ensures.bind (VideoSessionStore.ensures_setController hquiet hv hid hne) ?_
    intro result w₂ hset
    have hrollback : ∀ {status : ℕ} {message : String}, status = 500 ∨ status = 503 →
        Ensures (MayFail Timing.instant) w₂
          (ControlLeaseStore.releaseControlSession sessionID r.claims.name >>= fun _ ↦
            Pure.pure (httpError message status)) fun response w' ↦
          Keeps vehicleID gracePeriod held w
            (r.vehicleID = vehicleID → response.status ≠ 500 ∧ response.status ≠ 503) w' := by
      intro status message hstatus
      refine Ensures.bind (ControlLeaseStore.ensures_releaseControlSession hset.quiet sessionID
        r.claims.name) ?_
      intro result w₃ hreleased
      refine Ensures.pure (hkeeps hreleased.quiet (hreleased.clock.trans hset.same.clock)
        (fun hne' ↦ ?_) fun _ ↦ ?_)
      · have hindex : w₂.redis.get w₂.clock (.controlSessionIndex sessionID) ≠
            some vehicleID := by
          intro hsome
          obtain ⟨e, hlive, heq⟩ := Store.get_eq_some_iff.mp hsome
          have hstored := (Store.live_eq_some_iff.mp hlive).1
          rw [hset.same.index, hw₁] at hstored
          have hindexed := Store.set_apply_self
            (w₀.redis.set (.controlLease r.vehicleID)
              (r.session g publicKeyB64 sessionID w.clock).marshal
              (w₀.clock + g.controlLeases.ttl))
            (.controlSessionIndex sessionID) r.vehicleID (w₀.clock + g.controlLeases.ttl)
          obtain rfl := Option.some.inj (hindexed.symm.trans hstored)
          exact hne' heq
        have hsame₂ := hset.other hne'
        exact ⟨(hreleased.lease hindex).trans hsame₂.lease,
          hreleased.controller.trans hsame₂.controller⟩
      · rcases hstatus with h500 | h503
        · exact .inl h500
        · exact .inr (.inl h503)
    rcases result with error | video
    · exact hrollback (.inr rfl)
    · apply ensures_issueOperatorToken
      intro token
      cases token with
      | none => exact hrollback (.inl rfl)
      | some token =>
          refine ensures_recordAudit (Ensures.pure (hkeeps hset.quiet hset.same.clock
            (fun hne' ↦ ?_) fun heq ↦ .inr (.inr ?_)))
          · have hsame₂ := hset.other hne'
            exact ⟨hsame₂.lease, hsame₂.controller⟩
          · intro controller hcontroller _
            obtain ⟨stored, hstored, rfl⟩ := hset.stored ⟨video, rfl⟩ heq
            obtain rfl := Option.some.inj (hstored.symm.trans hcontroller)
            subst heq
            have hlive : w₂.redis.live w₂.clock (.controlLease r.vehicleID) =
                some ⟨(r.session g publicKeyB64 stored w.clock).marshal,
                  w₀.clock + g.controlLeases.ttl⟩ := by
              rw [hset.same.live, hw₁]
              exact live_leasing w₀ _ _ _ hpx
            exact ⟨_, hlive, hid⟩

theorem ensures_handleAcquireVideo (h : Quiet vehicleID gracePeriod held w)
    (r : VehicleRequest) :
    Ensures (MayFail Timing.instant) w (handleAcquireVideo g r) fun response w' ↦
      (r.vehicleID = vehicleID → response.status = 403) →
        Keeps vehicleID gracePeriod held w True w' := by
  unfold handleAcquireVideo
  split_ifs with hobserve
  · exact Ensures.pure fun _ ↦ .undisturbed h (.refl w)
  · by_cases heq : r.vehicleID = vehicleID
    · -- whoever gets this far is not answered 403
      refine Ensures.bind (P := fun _ _ ↦ True) (fun _ _ _ ↦ trivial) ?_
      intro result w' _
      rcases result with error | session
      · refine Ensures.pure fun hforbidden ↦ ?_
        cases error <;> cases hforbidden heq
      · refine ensures_recordAudit (Ensures.pure fun hforbidden ↦ ?_)
        cases hforbidden heq
    · have hv : r.vehicleID.throughJSON = r.vehicleID := by
        apply GoString.throughJSON_of_valid
        have hmay : r.mayObserve g = true := by simpa using hobserve
        simp only [VehicleRequest.mayObserve, Bool.and_eq_true] at hmay
        exact VehicleAuthorizer.validUTF8_of_authorize hmay.2
      refine Ensures.bind (VideoSessionStore.ensures_acquireViewer g.videoSessions h heq hv) ?_
      rintro result w' ⟨hquiet, hsame⟩
      rcases result with error | session
      · exact Ensures.pure fun _ ↦ .undisturbed hquiet hsame
      · exact ensures_recordAudit (Ensures.pure fun _ ↦ .undisturbed hquiet hsame)

theorem ensures_handleReleaseVideo (h : Quiet vehicleID g.videoSessions.gracePeriod held w)
    (hgrace : 0 ≤ g.videoSessions.gracePeriod) (r : SessionRequest) :
    Ensures (MayFail Timing.instant) w (handleReleaseVideo g r) fun _ w' ↦
      Keeps vehicleID g.videoSessions.gracePeriod held w True w' := by
  refine Ensures.bind (VideoSessionStore.ensures_releaseViewer g.videoSessions h hgrace
    r.sessionID) ?_
  rintro result w' ⟨hquiet, hsame⟩
  rcases result with error | session
  · exact Ensures.pure (.undisturbed hquiet hsame)
  · exact ensures_recordAudit (Ensures.pure (.undisturbed hquiet hsame))

theorem ensures_handleGetVideo (h : Quiet vehicleID gracePeriod held w) (r : VehicleRequest) :
    Ensures (MayFail Timing.instant) w (handleGetVideo g r) fun _ w' ↦
      Keeps vehicleID gracePeriod held w True w' := by
  unfold handleGetVideo
  split_ifs with hobserve
  · exact Ensures.pure (.undisturbed h (.refl w))
  · refine Ensures.bind (VideoSessionStore.ensures_look h r.vehicleID) ?_
    rintro result w' ⟨hquiet, hsame, -⟩
    rcases result with error | session
    · exact Ensures.pure (.undisturbed hquiet hsame)
    · exact Ensures.pure (.undisturbed hquiet hsame)

theorem ensures_handleGetControl (h : Quiet vehicleID gracePeriod held w) (r : VehicleRequest) :
    Ensures (MayFail Timing.instant) w (handleGetControl g r) fun _ w' ↦
      Keeps vehicleID gracePeriod held w True w' := by
  unfold handleGetControl
  split_ifs with hmethod hrole
  · exact Ensures.pure (.undisturbed h (.refl w))
  · exact Ensures.pure (.undisturbed h (.refl w))
  · refine Ensures.bind (ControlLeaseStore.ensures_getControlSession w r.vehicleID) ?_
    rintro result w' ⟨rfl, -⟩
    rcases result with error | session
    · exact Ensures.pure (.undisturbed h (.refl w'))
    · exact Ensures.pure (.undisturbed h (.refl w'))

/-- What the conditions on steps ask of a request that is answered at once. -/
theorem ensures_handle (h : Quiet vehicleID g.videoSessions.gracePeriod held w)
    (hgrace : 0 ≤ g.videoSessions.gracePeriod)
    (hheld : ∀ lease, w.redis.live w.clock (.controlLease vehicleID) = some lease →
      held = some w.clock) (c : GatewayCall) {st : StandbyState} (hst : st.gateway = w)
    (ls : List StandbyLabel) :
    Ensures (MayFail Timing.instant) w (c.handle g) fun response w' ↦
      NoViewers vehicleID ls st (.call c response) →
        Keeps vehicleID g.videoSessions.gracePeriod held w
          (EndsByRelease vehicleID ls st (.call c response)) w' := by
  subst hst
  cases c with
  | acquireControl r => exact (ensures_handleAcquireControl h r).mono fun _ _ hkeeps _ ↦ hkeeps
  | renewControl r => exact (ensures_handleRenewControl h r).mono fun _ _ hkeeps _ ↦ hkeeps
  | releaseControl r =>
      exact (ensures_handleReleaseControl h hgrace hheld r).mono fun _ _ hkeeps _ ↦ hkeeps
  | getControl r => exact (ensures_handleGetControl h r).mono fun _ _ hkeeps _ ↦ hkeeps
  | acquireVideo r => exact (ensures_handleAcquireVideo h r).mono fun _ _ hkeeps hno ↦ hkeeps hno
  | releaseVideo r =>
      exact (ensures_handleReleaseVideo h hgrace r).mono fun _ _ hkeeps _ ↦ hkeeps
  | getVideo r => exact (ensures_handleGetVideo h r).mono fun _ _ hkeeps _ ↦ hkeeps

end Leases

/-! ## Runs -/

section Runs

variable {vehicleID : GoString} {st : StandbyState}

theorem StandbyState.lastHeld_of_live {lease : Entry ControlSessionJSON}
    (hlive : st.gateway.redis.live st.gateway.clock (.controlLease vehicleID) = some lease)
    (t : ℤ) : st.lastHeld vehicleID t = some (min lease.deadline t) := by
  simp only [lastHeld, hlive]

theorem StandbyState.lastHeld_of_free
    (hfree : st.gateway.redis.live st.gateway.clock (.controlLease vehicleID) = none) (t : ℤ) :
    st.lastHeld vehicleID t = st.heldUntil := by
  simp only [lastHeld, hfree]

structure StandbyInvariant (vehicleID : GoString) (gracePeriod : ℤ) (st : StandbyState) : Prop where
  quiet : Quiet vehicleID gracePeriod (st.lastHeld vehicleID st.gateway.clock) st.gateway
  past : ∀ t, st.heldUntil = some t → t ≤ st.gateway.clock

theorem StandbyInvariant.lastHeld_le {gracePeriod : ℤ}
    (h : StandbyInvariant vehicleID gracePeriod st) {t u : ℤ} (hle : st.gateway.clock ≤ t)
    (hlast : st.lastHeld vehicleID t = some u) : u ≤ t := by
  cases hlease : st.gateway.redis.live st.gateway.clock (.controlLease vehicleID) with
  | none =>
      rw [StandbyState.lastHeld_of_free hlease] at hlast
      exact (h.past u hlast).trans hle
  | some lease =>
      rw [StandbyState.lastHeld_of_live hlease] at hlast
      obtain rfl := Option.some.inj hlast
      exact min_le_right _ _

variable [Cjson] {g : GatewayConfig}

theorem StandbyInvariant.step (hgrace : 0 ≤ g.videoSessions.gracePeriod)
    (h : StandbyInvariant vehicleID g.videoSessions.gracePeriod st) {ls : List StandbyLabel}
    {l : StandbyLabel} {st' : StandbyState} (hnone : NoViewers vehicleID ls st l)
    (hstep : StandbyState.Step g vehicleID st l st') :
    StandbyInvariant vehicleID g.videoSessions.gracePeriod st' ∧
      (EndsByRelease vehicleID ls st l → ControllerLeased vehicleID st.gateway →
        ControllerLeased vehicleID st'.gateway) := by
  cases hstep with
  | @call c response w hcompletes =>
      have hheld : ∀ lease,
          st.gateway.redis.live st.gateway.clock (.controlLease vehicleID) = some lease →
            st.lastHeld vehicleID st.gateway.clock = some st.gateway.clock := by
        intro lease hlive
        rw [StandbyState.lastHeld_of_live hlive]
        exact congrArg some (min_eq_right (Store.live_eq_some_iff.mp hlive).2)
      have hkeeps := ensures_handle h.quiet hgrace hheld c rfl ls response w hcompletes hnone
      have hpast : ∀ t, st.lastHeld vehicleID st.gateway.clock = some t → t ≤ w.clock := by
        intro t ht
        rw [hkeeps.clock]
        exact h.lastHeld_le le_rfl ht
      refine ⟨⟨hkeeps.quiet.mono fun t ht ↦ ?_, hpast⟩, hkeeps.leased⟩
      cases hlease : w.redis.live w.clock (.controlLease vehicleID) with
      | none =>
          rw [StandbyState.lastHeld_of_free hlease]
          exact ⟨t, ht, le_rfl⟩
      | some lease =>
          rw [StandbyState.lastHeld_of_live hlease]
          have hle := (Store.live_eq_some_iff.mp hlease).2
          exact ⟨_, rfl, (hpast t ht).trans (le_min hle le_rfl)⟩
  | @tick t hle =>
      refine ⟨⟨?_, fun u hu ↦ h.lastHeld_le hle hu⟩, ?_⟩
      · have hstarted := h.quiet.started
        have hlater : Quiet vehicleID g.videoSessions.gracePeriod
            (st.lastHeld vehicleID st.gateway.clock) { st.gateway with clock := t } :=
          ⟨by dsimp only; omega, h.quiet.kept, h.quiet.leased, h.quiet.viewers,
            h.quiet.unwatched⟩
        refine hlater.mono fun u hu ↦ ?_
        cases hlease : st.gateway.redis.live st.gateway.clock (.controlLease vehicleID) with
        | none =>
            rw [StandbyState.lastHeld_of_free hlease] at hu
            have hgone : st.gateway.redis.live t (.controlLease vehicleID) = none := by
              cases hlater : st.gateway.redis.live t (.controlLease vehicleID) with
              | none => rfl
              | some lease => cases hlease.symm.trans (Store.live_earlier hle hlater)
            rw [StandbyState.lastHeld_of_free hgone, StandbyState.lastHeld_of_free hlease]
            exact ⟨u, hu, le_rfl⟩
        | some lease =>
            rw [StandbyState.lastHeld_of_live hlease] at hu
            obtain rfl := Option.some.inj hu
            have hlater : st.gateway.redis.live t (.controlLease vehicleID) = some lease ∨
                (st.gateway.redis.live t (.controlLease vehicleID) = none ∧
                  lease.deadline < t) := Store.live_later hlease
            rcases hlater with hstill | ⟨hgone, -⟩
            · rw [StandbyState.lastHeld_of_live hstill]
              exact ⟨_, rfl, min_le_min_left _ hle⟩
            · rw [StandbyState.lastHeld_of_free hgone, StandbyState.lastHeld_of_live hlease]
              exact ⟨_, rfl, min_le_min_left _ hle⟩
      · intro hended hleased controller hcontroller hne
        obtain ⟨lease, hlive, hid⟩ := hleased controller hcontroller hne
        have hstored := (Store.live_eq_some_iff.mp hlive).1
        exact ⟨lease, Store.live_eq_some_iff.mpr ⟨hstored, hended lease hlive⟩, hid⟩

theorem StandbyInvariant.of_run (hgrace : 0 ≤ g.videoSessions.gracePeriod)
    {ls : List StandbyLabel}
    (hrun : (standbySystem g vehicleID).RunWhere (NoViewers vehicleID) ls st) :
    StandbyInvariant vehicleID g.videoSessions.gracePeriod st := by
  refine hrun.invariant
    (P := fun _ st ↦ StandbyInvariant vehicleID g.videoSessions.gracePeriod st) ?_ ?_
  · rintro st ⟨hempty, hclock, hheld⟩
    have hnothing : ∀ key e, st.gateway.redis key ≠ some e := by
      intro key e he
      rw [hempty] at he
      cases he
    refine ⟨⟨hclock, ?_, ?_, ?_, ?_⟩, ?_⟩
    · exact fun v e he ↦ absurd he (hnothing _ e)
    · exact fun v e he ↦ absurd he (hnothing _ e)
    · exact fun id e he ↦ absurd he (hnothing _ e)
    · exact fun e he ↦ absurd he (hnothing _ e)
    · intro t ht
      cases hheld.symm.trans ht
  · intro ls st l st' _ h hnone hstep
    exact (h.step hgrace hnone hstep).1

theorem ControllerLeased.of_run (hgrace : 0 ≤ g.videoSessions.gracePeriod)
    {ls : List StandbyLabel}
    (hrun : (standbySystem g vehicleID).RunWhere
      ((NoViewers vehicleID).and (EndsByRelease vehicleID)) ls st) :
    ControllerLeased vehicleID st.gateway := by
  refine hrun.invariant (P := fun _ st ↦ ControllerLeased vehicleID st.gateway) ?_ ?_
  · rintro st ⟨hempty, -, -⟩ controller hcontroller
    rw [controllerOf, hempty] at hcontroller
    cases hcontroller
  · intro ls st l st' hrun hleased hcond hstep
    exact ((StandbyInvariant.of_run hgrace hrun.left).step hgrace hcond.1 hstep).2 hcond.2 hleased

/-! ## What `Get` returns -/

theorem videoMode_eq {w w' : GatewayState} {session : VideoSession}
    (h : (VideoSessionStore.get vehicleID).evaluate (serveAtOnce []) w = some (.ok session, w')) :
    videoMode w vehicleID = some session.mode := by
  rw [videoMode, h]

theorem evaluate_andSave (w : GatewayState) (session : VideoSession) :
    ∃ w', (VideoSessionStore.andSave session).evaluate (serveAtOnce []) w =
      some (.ok session, w') := by
  have hset : ∀ session : VideoSession,
      serveAtOnce [] w (.redis (.set (.videoSession session.vehicleID) session.marshal
        videoSessionTTL)) = some (.ok (), w.saved session session.expiresAtMS w.clock) :=
    fun _ ↦ rfl
  have hstamped : ∃ session',
      (VideoSessionStore.stamped session).evaluate (serveAtOnce []) w = some (session', w) := by
    unfold VideoSessionStore.stamped
    split_ifs with hzero
    · exact ⟨_, rfl⟩
    · exact ⟨_, rfl⟩
  obtain ⟨session', hstamped⟩ := hstamped
  have hsave : (VideoSessionStore.save session).evaluate (serveAtOnce []) w =
      some (.ok (), w.saved session' session'.expiresAtMS w.clock) :=
    (evaluate_bind hstamped).trans (evaluate_call (hset session'))
  exact ⟨_, evaluate_bind hsave⟩

theorem videoMode_of_missing {w : GatewayState}
    (hget : w.redis.get w.clock (.videoSession vehicleID) = none) :
    videoMode w vehicleID = some .standby := by
  have hreply : serveAtOnce [] w (.redis (.get (.videoSession vehicleID))) =
      some (.ok none, w) := by
    simp only [serveAtOnce, RedisCommand.exec, hget]
  exact videoMode_eq (evaluate_call hreply)

theorem videoMode_of_record {w : GatewayState} {record : VideoSession}
    (hget : w.redis.get w.clock (.videoSession vehicleID) = some record) :
    videoMode w vehicleID = some
      (if VideoSessionStore.inGrace record = true ∧ record.graceDeadlineMS ≤ w.clock then .standby
        else record.mode) := by
  have hreply : serveAtOnce [] w (.redis (.get (.videoSession vehicleID))) =
      some (.ok (some record), w) := by
    simp only [serveAtOnce, RedisCommand.exec, hget]
  have hlook : (VideoSessionStore.get vehicleID).evaluate (serveAtOnce []) w =
      Program.evaluate (serveAtOnce [])
        (if VideoSessionStore.inGrace record then do
          let now ← timeNow
          if now ≥ record.graceDeadlineMS then
            VideoSessionStore.andSave { record with mode := .standby, graceDeadlineMS := 0 }
          else return .ok record
        else return .ok record) w := evaluate_call hreply
  have htime : serveAtOnce [] w .timeNow = some (w.clock, w) := rfl
  by_cases hgrace : VideoSessionStore.inGrace record = true
  · rw [if_pos hgrace] at hlook
    have hnow := hlook.trans (evaluate_call htime)
    simp only [Program.bind, ge_iff_le] at hnow
    by_cases hover : record.graceDeadlineMS ≤ w.clock
    · rw [if_pos hover] at hnow
      obtain ⟨w', hsave⟩ := evaluate_andSave w
        { record with mode := .standby, graceDeadlineMS := 0 }
      rw [if_pos ⟨hgrace, hover⟩]
      exact videoMode_eq (hnow.trans hsave)
    · rw [if_neg hover] at hnow
      rw [if_neg fun hboth ↦ hover hboth.2]
      exact videoMode_eq hnow
  · rw [if_neg hgrace] at hlook
    rw [if_neg fun hboth ↦ hgrace hboth.1]
    exact videoMode_eq hlook

/-- The vehicle has been free long enough, and nobody watches. -/
theorem StandbyInvariant.videoMode_iff {gracePeriod : ℤ}
    (h : StandbyInvariant vehicleID gracePeriod st) (hfree : st.LongFree vehicleID gracePeriod) :
    videoMode st.gateway vehicleID = some .standby ↔ ¬NamesController st.gateway vehicleID := by
  cases hget : st.gateway.redis.get st.gateway.clock (.videoSession vehicleID) with
  | none =>
      have hnames : ¬NamesController st.gateway vehicleID := by
        rintro ⟨record, hrecord, -⟩
        cases hget.symm.trans hrecord
      exact ⟨fun _ ↦ hnames, fun _ ↦ videoMode_of_missing hget⟩
  | some record =>
      obtain ⟨e, hlive, rfl⟩ := Store.get_eq_some_iff.mp hget
      have hunwatched := h.quiet.unwatched e (Store.live_eq_some_iff.mp hlive).1
      rw [StandbyState.lastHeld_of_free hfree.1] at hunwatched
      rw [videoMode_of_record hget]
      by_cases hempty : e.value.controllerSessionID = []
      · have hnames : ¬NamesController st.gateway vehicleID := by
          rintro ⟨record, hrecord, hne⟩
          obtain rfl := Option.some.inj (hget.symm.trans hrecord)
          exact hne hempty
        refine ⟨fun _ ↦ hnames, fun _ ↦ congrArg some ?_⟩
        rcases hunwatched.free hempty with hstandby | ⟨hpositive, t, ht, hle⟩
        · split_ifs
          · rfl
          · exact hstandby
        · have hover : e.value.graceDeadlineMS ≤ st.gateway.clock := hle.trans (hfree.2 t ht)
          cases hmode : e.value.mode with
          | standby => exact ite_self _
          | active =>
              refine if_pos ⟨?_, hover⟩
              simp [VideoSessionStore.inGrace, hmode, hunwatched.viewerCount, hempty, hpositive]
      · have hactive := hunwatched.controlled hempty
        have hgrace : ¬(VideoSessionStore.inGrace e.value = true ∧
            e.value.graceDeadlineMS ≤ st.gateway.clock) := by
          rintro ⟨hgrace, -⟩
          simp only [VideoSessionStore.inGrace, Bool.and_eq_true, decide_eq_true_eq] at hgrace
          exact hempty hgrace.1.2
        rw [if_neg hgrace, hactive]
        constructor
        · intro hstandby
          cases hstandby
        · intro hnames
          exact absurd ⟨e.value, hget, hempty⟩ hnames

/-- A vehicle that nobody was let in to watch and whose lease ended at least the grace period
ago is back to standby if and only if its record names no controller; and so it is when no
lease of it expires, no acquire fails once it has the lease and no release fails halfway. -/
theorem video_returns_to_standby (hgrace : 0 ≤ g.videoSessions.gracePeriod)
    (vehicleID : GoString) :
    (∀ ls st, (standbySystem g vehicleID).RunWhere (NoViewers vehicleID) ls st →
      st.LongFree vehicleID g.videoSessions.gracePeriod →
        (videoMode st.gateway vehicleID = some .standby ↔
          ¬NamesController st.gateway vehicleID)) ∧
      ∀ ls st, (standbySystem g vehicleID).RunWhere
          ((NoViewers vehicleID).and (EndsByRelease vehicleID)) ls st →
        st.LongFree vehicleID g.videoSessions.gracePeriod →
          videoMode st.gateway vehicleID = some .standby := by
  refine ⟨fun ls st hrun hfree ↦ (StandbyInvariant.of_run hgrace hrun).videoMode_iff hfree,
    fun ls st hrun hfree ↦ ?_⟩
  refine ((StandbyInvariant.of_run hgrace hrun.left).videoMode_iff hfree).mpr ?_
  rintro ⟨record, hget, hne⟩
  obtain ⟨e, hlive, rfl⟩ := Store.get_eq_some_iff.mp hget
  have hcontroller : controllerOf st.gateway vehicleID = some e.value.controllerSessionID := by
    simp only [controllerOf, (Store.live_eq_some_iff.mp hlive).1, Option.map_some]
  obtain ⟨lease, hlease, -⟩ := ControllerLeased.of_run hgrace hrun _ hcontroller hne
  cases hfree.1.symm.trans hlease

end Runs

/-! ## Alice's lease -/

section Sample

open TransitionSystem

/-- What a request answers and leaves, if it is answered at once. -/
def answered [Cjson] (c : GatewayCall) (w : GatewayState)
    (h : ((c.handle sampleGateway).evaluate (serveAtOnce ["s-1", "v-1"]) w).isSome = true) :
    HTTPResponse × GatewayState :=
  ((c.handle sampleGateway).evaluate (serveAtOnce ["s-1", "v-1"]) w).get h

/-- `st` after a request that is answered at once. -/
def StandbyState.after [Cjson] (st : StandbyState) (c : GatewayCall)
    (h : ((c.handle sampleGateway).evaluate (serveAtOnce ["s-1", "v-1"]) st.gateway).isSome =
      true) : StandbyState where
  gateway := (answered c st.gateway h).2
  heldUntil := st.lastHeld leasedSession.vehicleID st.gateway.clock

theorem StandbyState.step_after [Cjson] (st : StandbyState) (c : GatewayCall)
    (h : ((c.handle sampleGateway).evaluate (serveAtOnce ["s-1", "v-1"]) st.gateway).isSome =
      true) :
    StandbyState.Step sampleGateway leasedSession.vehicleID st
      (.call c (answered c st.gateway h).1) (st.after c h) := by
  have hanswer : ∀ w e r w', serveAtOnce ["s-1", "v-1"] w e = some (r, w') →
      MayFail Timing.instant w e r w' :=
    fun _ _ _ _ hserves ↦ ⟨.done, .done (serves_of_serveAtOnce hserves)⟩
  exact .call (completes_of_evaluate hanswer (Option.some_get h).symm)

def nobodyYet : StandbyState := ⟨⟨1, Store.empty, []⟩, none⟩

def aliceDrives : StandbyState :=
  @StandbyState.after Cjson.fourteenDigits nobodyYet (.acquireControl aliceRequest)
    (by decide +kernel)

/-- Asked of Alice's requests. -/
def OrderlyEnd : TransitionSystem.StepCondition StandbyState StandbyLabel :=
  (NoViewers leasedSession.vehicleID).and (EndsByRelease leasedSession.vehicleID)

theorem aliceDrives_run :
    ∃ response, (@standbySystem Cjson.fourteenDigits sampleGateway
      leasedSession.vehicleID).RunWhere OrderlyEnd
        [.call (.acquireControl aliceRequest) response] aliceDrives := by
  let := Cjson.fourteenDigits
  have hinit : (standbySystem sampleGateway leasedSession.vehicleID).RunWhere OrderlyEnd []
      nobodyYet := .init ⟨rfl, by decide, rfl⟩
  refine ⟨_, hinit.step ⟨trivial, fun _ ↦ ⟨?_, ?_⟩⟩ (nobodyYet.step_after _ (by decide +kernel))⟩
  · decide +kernel
  · decide +kernel

/-- A minute has passed. -/
def StandbyState.minuteLater (st : StandbyState) : StandbyState where
  gateway := { st.gateway with clock := 60000 }
  heldUntil := st.lastHeld leasedSession.vehicleID 60000

theorem StandbyState.step_minuteLater [Cjson] (st : StandbyState) (h : st.gateway.clock ≤ 60000) :
    StandbyState.Step sampleGateway leasedSession.vehicleID st (.tick 60000) st.minuteLater :=
  .tick h

def aliceStops : GatewayCall :=
  .releaseControl ⟨.post, aliceRequest.claims, leasedSession.sessionID⟩

def aliceStopped : StandbyState :=
  @StandbyState.after Cjson.fourteenDigits aliceDrives aliceStops (by decide +kernel)

theorem aliceStopped_run :
    ∃ ls, (@standbySystem Cjson.fourteenDigits sampleGateway
      leasedSession.vehicleID).RunWhere OrderlyEnd ls aliceStopped.minuteLater := by
  let := Cjson.fourteenDigits
  obtain ⟨response, hdrives⟩ := aliceDrives_run
  have hstop := aliceDrives.step_after aliceStops (by decide +kernel)
  have hreleased : (answered aliceStops aliceDrives.gateway (by decide +kernel)).1.status ≠ 503 := by
    decide +kernel
  have hstopped := RunWhere.step hdrives (C := OrderlyEnd) (by exact ⟨trivial, fun _ ↦ hreleased⟩)
    hstop
  have hfree : aliceStopped.gateway.redis.live aliceStopped.gateway.clock
      (.controlLease leasedSession.vehicleID) = none :=
    Option.isNone_iff_eq_none.mp (by decide +kernel)
  have hlater := StandbyState.step_minuteLater aliceStopped (by decide +kernel)
  refine ⟨_, RunWhere.step hstopped ?_ hlater⟩
  refine ⟨trivial, fun lease hlive ↦ ?_⟩
  cases hfree.symm.trans hlive

theorem StandbyState.longFree_of_none {st : StandbyState} {vehicleID : GoString} {gracePeriod t : ℤ}
    (hfree : (st.gateway.redis.live st.gateway.clock (.controlLease vehicleID)).isNone = true)
    (hheld : st.heldUntil = some t) (hlong : t + gracePeriod ≤ st.gateway.clock) :
    st.LongFree vehicleID gracePeriod := by
  refine ⟨Option.isNone_iff_eq_none.mp hfree, fun u hu ↦ ?_⟩
  obtain rfl := Option.some.inj (hheld.symm.trans hu)
  exact hlong

/-- Alice drives, and stops; a minute later the video is back to standby. -/
theorem standby_after_release :
    @videoMode Cjson.fourteenDigits aliceStopped.minuteLater.gateway leasedSession.vehicleID =
      some .standby := by
  let := Cjson.fourteenDigits
  obtain ⟨ls, hrun⟩ := aliceStopped_run
  have hfree : aliceStopped.minuteLater.LongFree leasedSession.vehicleID
      sampleGateway.videoSessions.gracePeriod :=
    StandbyState.longFree_of_none (t := 1) (by decide +kernel) (by decide +kernel)
      (by decide +kernel)
  exact (video_returns_to_standby (by decide) leasedSession.vehicleID).2 ls _ hrun hfree

/-- Alice drives, and is heard of no more.  Her lease expires; a minute later the video is
still active. -/
theorem active_after_expiry :
    ∃ ls, (@standbySystem Cjson.fourteenDigits sampleGateway leasedSession.vehicleID).RunWhere
        (NoViewers leasedSession.vehicleID) ls aliceDrives.minuteLater ∧
      aliceDrives.minuteLater.LongFree leasedSession.vehicleID
        sampleGateway.videoSessions.gracePeriod ∧
      @videoMode Cjson.fourteenDigits aliceDrives.minuteLater.gateway leasedSession.vehicleID =
        some .active := by
  let := Cjson.fourteenDigits
  obtain ⟨response, hdrives⟩ := aliceDrives_run
  have hlater := StandbyState.step_minuteLater aliceDrives (by decide +kernel)
  have hrun : (standbySystem sampleGateway leasedSession.vehicleID).RunWhere
      (NoViewers leasedSession.vehicleID) _ aliceDrives := hdrives.left
  refine ⟨_, RunWhere.step hrun (by trivial) hlater,
    StandbyState.longFree_of_none (t := 5001) (by decide +kernel) (by decide +kernel)
      (by decide +kernel), by decide +kernel⟩

end Sample

end RemoteInfra.Gateway
