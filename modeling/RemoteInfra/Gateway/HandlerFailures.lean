import RemoteInfra.Gateway.HandlerLeases
import RemoteInfra.Gateway.StandbyReturn
import RemoteInfra.Gateway.VideoFailures

/-!
# One control request that meets failures

An acquire or a release runs alone, in any state that concurrent requests may have left.  It
writes the lease and then the video record; an acquire that gets no further takes its lease
back, over the same Redis and with the same context.
-/

namespace RemoteInfra.Gateway

open RemoteInfra.Library RemoteInfra.Library.Program

/-! ## The operations of the lease store -/

/-- What `GetControlSession` reads. -/
def GatewayState.controlSession (w : GatewayState) (v : GoString) : Option ControlSession :=
  (w.redis.get w.clock (.controlLease v)).bind ControlSessionJSON.unmarshal

/-- What `getSessionByID` finds. -/
def GatewayState.sessionByID (w : GatewayState) (sessionID : GoString) : Option ControlSession :=
  (w.redis.get w.clock (.controlSessionIndex sessionID)).bind fun v ↦
    (w.controlSession v).filter fun session ↦ session.sessionID = sessionID

/-- Every stored lease is that of the vehicle it is stored for. -/
def GatewayState.LeasesNamed (w : GatewayState) : Prop :=
  ∀ v e, w.redis (.controlLease v) = some e → e.value.session.vehicleID = v ∧ v.ValidUTF8

/-- A session that is found is on the lease of its own vehicle. -/
theorem GatewayState.LeasesNamed.found {w : GatewayState} (h : w.LeasesNamed)
    {sessionID : GoString} {session : ControlSession}
    (hfound : w.sessionByID sessionID = some session) :
    session.sessionID = sessionID ∧ session.vehicleID.ValidUTF8 ∧
      ∃ lease, w.redis.live w.clock (.controlLease session.vehicleID) = some lease ∧
        lease.value.session = session := by
  obtain ⟨v, -, hsession⟩ := Option.bind_eq_some_iff.mp hfound
  obtain ⟨hsession, hid⟩ := Option.filter_eq_some_iff.mp hsession
  obtain ⟨raw, hget, hraw⟩ := Option.bind_eq_some_iff.mp hsession
  obtain ⟨lease, hlive, rfl⟩ := Store.get_eq_some_iff.mp hget
  unfold ControlSessionJSON.unmarshal at hraw
  split_ifs at hraw
  obtain rfl := Option.some.inj hraw
  obtain ⟨hvehicle, hv⟩ := h v lease (Store.live_eq_some_iff.mp hlive).1
  rw [hvehicle]
  exact ⟨of_decide_eq_true hid, hv, lease, hlive, rfl⟩

namespace Attempt

open ControlLeaseStore

variable [Cjson] {x : Circumstances} {a a' : Attempt}

theorem completes_getControlSession {v : GoString}
    {result : Except ControlSessionError ControlSession}
    (h : Completes (Step x) a (getControlSession v) result a') :
    a' = { a with commands := a.commands + 1 } ∧ ∀ session, result = .ok session ↔
      x.fates a.commands = .done ∧ a.gateway.controlSession v = some session := by
  obtain ⟨reply, a₁, hget, h⟩ := completes_call_iff.mp h
  obtain ⟨rfl, ⟨hdone, rfl⟩ | ⟨hfailed, error, rfl⟩⟩ := step_get hget
  · unfold GatewayState.controlSession
    cases hlease : a.gateway.redis.get a.gateway.clock (.controlLease v) with
    | none =>
        rw [hlease] at h
        obtain ⟨rfl, rfl⟩ := completes_pure_iff.mp h
        exact ⟨rfl, by simp⟩
    | some raw =>
        rw [hlease] at h
        simp only [Program.bind] at h
        cases hraw : raw.unmarshal with
        | none =>
            rw [hraw] at h
            obtain ⟨rfl, rfl⟩ := completes_pure_iff.mp h
            exact ⟨rfl, by simp [hraw]⟩
        | some session =>
            rw [hraw] at h
            obtain ⟨rfl, rfl⟩ := completes_pure_iff.mp h
            exact ⟨rfl, by simp [hraw, hdone]⟩
  · obtain ⟨rfl, rfl⟩ := completes_pure_iff.mp h
    exact ⟨rfl, by simp [hfailed]⟩

theorem completes_getSessionByID {sessionID : GoString}
    {result : Except ControlSessionError ControlSession}
    (h : Completes (Step x) a (getSessionByID sessionID) result a') :
    a'.gateway = a.gateway ∧ a'.readings = a.readings ∧
      (∀ session, result = .ok session → a'.commands = a.commands + 2) ∧
      ∀ session, result = .ok session ↔ x.fates a.commands = .done ∧
        x.fates (a.commands + 1) = .done ∧ a.gateway.sessionByID sessionID = some session := by
  obtain ⟨reply, a₁, hget, h⟩ := completes_call_iff.mp h
  obtain ⟨rfl, ⟨hdone, rfl⟩ | ⟨hfailed, error, rfl⟩⟩ := step_get hget
  · unfold GatewayState.sessionByID
    cases hindex : a.gateway.redis.get a.gateway.clock (.controlSessionIndex sessionID) with
    | none =>
        rw [hindex] at h
        obtain ⟨rfl, rfl⟩ := completes_pure_iff.mp h
        exact ⟨rfl, rfl, by simp, by simp⟩
    | some v =>
        rw [hindex] at h
        obtain ⟨found, a₂, hfound, h⟩ := (completes_bind_iff (p := getControlSession v)).mp h
        obtain ⟨rfl, hsession⟩ := completes_getControlSession hfound
        rcases found with error | session
        · obtain ⟨rfl, rfl⟩ := completes_pure_iff.mp h
          refine ⟨rfl, rfl, by simp, fun session ↦ iff_of_false (by simp) ?_⟩
          rintro ⟨-, hdone', hfilter⟩
          obtain ⟨hsome, -⟩ := Option.filter_eq_some_iff.mp hfilter
          cases (hsession session).mpr ⟨hdone', hsome⟩
        · obtain ⟨hdone', hsome⟩ := (hsession session).mp rfl
          dsimp only at hdone' hsome h
          split_ifs at h with hid
          · obtain ⟨rfl, rfl⟩ := completes_pure_iff.mp h
            exact ⟨rfl, rfl, by simp, by simp [hsome, Option.filter, hid]⟩
          · obtain ⟨rfl, rfl⟩ := completes_pure_iff.mp h
            refine ⟨rfl, rfl, fun _ _ ↦ rfl, ?_⟩
            simp [hsome, Option.filter, not_not.mp hid, hdone, hdone']
  · obtain ⟨rfl, rfl⟩ := completes_pure_iff.mp h
    exact ⟨rfl, rfl, by simp, by simp [hfailed]⟩

/-- Redis answers when the session is looked up, and it is the operator's. -/
structure Reaches (x : Circumstances) (a : Attempt) (sessionID operatorID : GoString)
    (session : ControlSession) : Prop where
  indexed : x.fates a.commands = .done
  leased : x.fates (a.commands + 1) = .done
  found : a.gateway.sessionByID sessionID = some session
  owned : session.operatorID = operatorID

theorem completes_releaseControlSession {sessionID operatorID : GoString}
    {result : Except ControlSessionError Unit} (hnamed : a.gateway.LeasesNamed)
    (h : Completes (Step x) a (releaseControlSession sessionID operatorID) result a') :
    a'.readings = a.readings ∧
      ((∃ session, Reaches x a sessionID operatorID session ∧ a'.commands = a.commands + 3 ∧
          Written a.gateway (a.gateway.releasing session.vehicleID sessionID)
            (x.fates (a.commands + 2)) (result = .ok ()) a'.gateway) ∨
        (¬∃ session, Reaches x a sessionID operatorID session) ∧ a'.gateway = a.gateway ∧
          ∃ error, result = .error error) := by
  obtain ⟨found, a₁, hfound, h⟩ := completes_bind_iff.mp h
  obtain ⟨hgateway, hreadings, hcommands, hsession⟩ := completes_getSessionByID hfound
  rcases found with error | session
  · obtain ⟨rfl, rfl⟩ := completes_pure_iff.mp h
    refine ⟨hreadings, .inr ⟨?_, hgateway, error, rfl⟩⟩
    rintro ⟨session, hreaches⟩
    cases (hsession session).mpr ⟨hreaches.indexed, hreaches.leased, hreaches.found⟩
  · obtain ⟨hdone, hdone', hsome⟩ := (hsession session).mp rfl
    obtain ⟨hid, -, lease, hlive, hlease⟩ := hnamed.found hsome
    dsimp only at h
    split_ifs at h with howner
    · obtain ⟨rfl, rfl⟩ := completes_pure_iff.mp h
      refine ⟨hreadings, .inr ⟨?_, hgateway, _, rfl⟩⟩
      rintro ⟨session', hreaches⟩
      obtain rfl := Option.some.inj (hsome.symm.trans hreaches.found)
      exact howner hreaches.owned
    · have howned := not_not.mp howner
      obtain ⟨reply, a₂, hscript, h⟩ := completes_call_iff.mp h
      have hexec : (RedisCommand.releaseScript session.vehicleID sessionID sessionID
          operatorID).exec a₁.gateway.clock a₁.gateway.redis =
            .ok (1, (a.gateway.releasing session.vehicleID sessionID).redis) := by
        rw [hgateway, ← hid, ← howned]
        simp [RedisCommand.exec, releaseControlSessionScript, Store.get, hlive, hlease,
          GatewayState.releasing]
      obtain ⟨hcommands', hreadings', hreply, hwritten⟩ := step_redis hexec hscript
      rw [hcommands session rfl, hgateway] at hwritten
      rw [hcommands session rfl] at hcommands'
      have hreaches : Reaches x a sessionID operatorID session := ⟨hdone, hdone', hsome, howned⟩
      obtain ⟨rfl, hok⟩ : a' = a₂ ∧ (reply = .ok (1 : ℤ) ↔ result = .ok ()) := by
        rcases hreply with rfl | ⟨error, rfl⟩
        · obtain ⟨rfl, rfl⟩ := completes_pure_iff.mp h
          exact ⟨rfl, iff_of_true rfl rfl⟩
        · obtain ⟨rfl, rfl⟩ := completes_pure_iff.mp h
          exact ⟨rfl, by simp⟩
      exact ⟨hreadings'.trans hreadings, .inl ⟨session, hreaches, hcommands', hwritten.imp hok⟩⟩

theorem completes_acquireControlSession {s : ControlLeaseStore} {session : ControlSession}
    {result : Except ControlSessionError Unit}
    (h : Completes (Step x) a (s.acquireControlSession session) result a') :
    a'.commands = a.commands + 1 ∧ a'.readings = a.readings ∧
      (a.gateway.redis.live a.gateway.clock (.controlLease session.vehicleID) = none ∧ 0 < s.ttl ∧
          Written a.gateway
            (a.gateway.leasing session.vehicleID session.sessionID session.vehicleID
              session.marshal (a.gateway.clock + s.ttl))
            (x.fates a.commands) (result = .ok ()) a'.gateway ∨
        ¬(a.gateway.redis.live a.gateway.clock (.controlLease session.vehicleID) = none ∧
            0 < s.ttl) ∧ a'.gateway = a.gateway ∧ ∃ error, result = .error error) := by
  obtain ⟨reply, a₁, hscript, h⟩ := completes_call_iff.mp h
  by_cases hheld : (a.gateway.redis.live a.gateway.clock
      (.controlLease session.vehicleID)).isSome
  · have hexec : (RedisCommand.acquireScript session.vehicleID session.sessionID session.marshal
        s.ttl session.vehicleID).exec a.gateway.clock a.gateway.redis =
          .ok (0, a.gateway.redis) := if_pos hheld
    obtain ⟨hcommands, hreadings, hreply, hwritten⟩ := step_redis hexec hscript
    have hgateway : a₁.gateway = a.gateway := by
      rcases hwritten.effect with heq | heq <;> rw [heq]
    have hnone : ¬(a.gateway.redis.live a.gateway.clock (.controlLease session.vehicleID) = none ∧
        0 < s.ttl) := by
      rintro ⟨hnone, -⟩
      simp [hnone] at hheld
    rcases hreply with rfl | ⟨error, rfl⟩
    · obtain ⟨rfl, rfl⟩ := completes_pure_iff.mp h
      exact ⟨hcommands, hreadings, .inr ⟨hnone, hgateway, _, rfl⟩⟩
    · obtain ⟨rfl, rfl⟩ := completes_pure_iff.mp h
      exact ⟨hcommands, hreadings, .inr ⟨hnone, hgateway, _, rfl⟩⟩
  · have hfree : a.gateway.redis.live a.gateway.clock (.controlLease session.vehicleID) = none := by
      simpa using hheld
    by_cases hpx : s.ttl ≤ 0
    · have hexec : (RedisCommand.acquireScript session.vehicleID session.sessionID
          session.marshal s.ttl session.vehicleID).exec a.gateway.clock a.gateway.redis =
            .error .invalidExpireTime := (if_neg hheld).trans (if_pos hpx)
      obtain ⟨rfl, error, rfl⟩ := step_redis_error hexec hscript
      obtain ⟨rfl, rfl⟩ := completes_pure_iff.mp h
      exact ⟨rfl, rfl, .inr ⟨fun hboth ↦ absurd hboth.2 (not_lt.mpr hpx), rfl, _, rfl⟩⟩
    · have hexec : (RedisCommand.acquireScript session.vehicleID session.sessionID
          session.marshal s.ttl session.vehicleID).exec a.gateway.clock a.gateway.redis =
            .ok (1, (a.gateway.leasing session.vehicleID session.sessionID session.vehicleID
              session.marshal (a.gateway.clock + s.ttl)).redis) :=
        (if_neg hheld).trans (if_neg hpx)
      obtain ⟨hcommands, hreadings, hreply, hwritten⟩ := step_redis hexec hscript
      obtain ⟨rfl, hok⟩ : a' = a₁ ∧ (reply = .ok (1 : ℤ) ↔ result = .ok ()) := by
        rcases hreply with rfl | ⟨error, rfl⟩
        · obtain ⟨rfl, rfl⟩ := completes_pure_iff.mp h
          exact ⟨rfl, iff_of_true rfl rfl⟩
        · obtain ⟨rfl, rfl⟩ := completes_pure_iff.mp h
          exact ⟨rfl, by simp⟩
      exact ⟨hcommands, hreadings, .inl ⟨hfree, not_le.mp hpx, hwritten.imp hok⟩⟩

/-! ## The controller of the video -/

/-- What `SetController` comes to: it does not get to write, or the record changes, whether or
not all goes well. -/
inductive SetsController (x : Circumstances) (a : Attempt) (v id : GoString) (succeeded : Prop)
    (a' : Attempt) : Prop
  | unread : x.fates a.commands ≠ .done → a'.commands = a.commands + 1 → ¬succeeded →
      a'.gateway.redis (.videoSession v) = a.gateway.redis (.videoSession v) →
        SetsController x a v id succeeded a'
  | refused : x.fates a.commands = .done → x.fates (a.commands + 1) = .refused →
      a'.commands = a.commands + 2 → ¬succeeded →
        a'.gateway.redis (.videoSession v) = a.gateway.redis (.videoSession v) →
          SetsController x a v id succeeded a'
  | changed : x.fates a.commands = .done → x.fates (a.commands + 1) ≠ .refused →
      (succeeded ↔ x.fates (a.commands + 1) = .done ∧
        ((a.gateway.video v).settles (x.clock a.readings) = true →
          x.fates (a.commands + 2) = .done)) →
      ((a'.gateway.video v).controllerSessionID = id.throughJSON ∨
        (a.gateway.video v).settles (x.clock a.readings) = true ∧
          a'.gateway.video v = .standby) →
        SetsController x a v id succeeded a'

theorem completes_setController {v id : GoString} (hkept : a.gateway.RecordKept v)
    {result : Except VideoSessionError VideoSession}
    (h : Completes (Step x) a (VideoSessionStore.setController v id) result a') :
    a'.gateway.clock = a.gateway.clock ∧
      (∀ k, k ≠ .videoSession v → a'.gateway.redis k = a.gateway.redis k) ∧
        SetsController x a v id (Succeeds result) a' := by
  obtain ⟨looked, a₁, hget, h⟩ := completes_bind_iff.mp h
  have hlooks := completes_get hkept hget
  rcases looked with error | session
  · obtain ⟨rfl, rfl⟩ := completes_pure_iff.mp h
    have hfails := not_succeeds_error error
    refine ⟨hlooks.clock, hlooks.frame, ?_⟩
    by_cases hread : x.fates a.commands = .done
    · have hunseen := mt hlooks.succeeds.mpr hfails
      obtain ⟨hsettles, hlost⟩ : (a.gateway.video v).settles (x.clock a.readings) = true ∧
          x.fates (a.commands + 1) ≠ .done := by
        simpa [VideoState.Looked, hread] using hunseen
      obtain ⟨hcommands, hkeeps, hstandby⟩ := hlooks.settled hread hsettles
      by_cases hrefused : x.fates (a.commands + 1) = .refused
      · refine .refused hread hrefused hcommands hfails ?_
        rw [hkeeps hrefused]
      · refine .changed hread hrefused ?_ (.inr ⟨hsettles, hstandby hrefused⟩)
        exact iff_of_false hfails fun hboth ↦ hlost hboth.1
    · obtain ⟨hgateway, hcommands⟩ := hlooks.failed hread
      refine .unread hread hcommands hfails ?_
      rw [hgateway]
  · obtain ⟨hvehicle, hstate, hcommands⟩ := hlooks.found session rfl
    obtain ⟨hread, hsaved⟩ := hlooks.succeeds.mp (succeeds_ok session)
    obtain ⟨named, a₂, hnamed, h⟩ := completes_bind_iff.mp h
    obtain ⟨hvehicle', -, hcommands', drawn, hgateway⟩ := completes_named hnamed
    obtain ⟨expiresAtMS, hcommands'', hwritten, -⟩ := completes_andSave h
    have hv : named.vehicleID = v := hvehicle'.trans hvehicle
    have hcontroller : ∀ w : GatewayState,
        ((w.saved { named with controllerSessionID := id, mode := .active, graceDeadlineMS := 0 }
          expiresAtMS w.clock).video v).controllerSessionID = id.throughJSON := by
      intro w
      rw [← hv]
      exact congrArg VideoState.controllerSessionID (video_saved w _ expiresAtMS)
    have hframe : ∀ k, k ≠ .videoSession v → a₂.gateway.redis k = a.gateway.redis k := by
      rw [hgateway]
      exact hlooks.frame
    refine ⟨?_, ?_, ?_⟩
    · rcases hwritten.effect with heq | heq <;> rw [heq, hgateway] <;> exact hlooks.clock
    · intro k hk
      rcases hwritten.effect with heq | heq
      · rw [heq]
        exact hframe k hk
      · rw [heq, ← hframe k hk]
        rw [← hv] at hk
        exact Store.set_apply_of_ne _ hk _ _
    · cases hsettles : (a.gateway.video v).settles (x.clock a.readings) with
      | false =>
          have hfate : a₂.commands = a.commands + 1 := by
            rw [hcommands', hcommands, VideoState.lookCommands, hsettles]
            rfl
          rw [hfate] at hwritten hcommands''
          by_cases hrefused : x.fates (a.commands + 1) = .refused
          · refine .refused hread hrefused hcommands'' ?_ ?_
            · rw [hwritten.iff_done, hrefused]
              decide
            · rw [hwritten.kept hrefused, hgateway, hlooks.unsettled hsettles]
          · refine .changed hread hrefused (hwritten.iff_done.trans (by simp [hsettles])) (.inl ?_)
            rw [hwritten.ran hrefused]
            exact hcontroller _
      | true =>
          have hfate : a₂.commands = a.commands + 2 := by
            rw [hcommands', hcommands, VideoState.lookCommands, hsettles]
            rfl
          have hstandby : a₂.gateway.video v = .standby := by
            rw [hgateway]
            refine ((hlooks.settled hread hsettles).2.2 ?_)
            simp [hsaved hsettles]
          rw [hfate] at hwritten
          refine .changed hread (by simp [hsaved hsettles]) ?_ ?_
          · rw [hwritten.iff_done]
            simp [hsaved hsettles, hsettles]
          · rcases hwritten.effect with heq | heq
            · rw [heq]
              exact .inr ⟨hsettles, hstandby⟩
            · rw [heq]
              exact .inl (hcontroller _)

/-- `ClearController` writes nothing but the video record. -/
theorem completes_clearController {s : VideoSessionStore} {v id : GoString}
    (hkept : a.gateway.RecordKept v) {result : Except VideoSessionError VideoSession}
    (h : Completes (Step x) a (s.clearController v id) result a') :
    a'.gateway.clock = a.gateway.clock ∧
      (∀ k, k ≠ .videoSession v → a'.gateway.redis k = a.gateway.redis k) ∧
        (Succeeds result ↔ (a.gateway.video v).Looked x.fates (x.clock a.readings) a.commands ∧
          x.fates (a.commands + (a.gateway.video v).lookCommands (x.clock a.readings)) =
            .done) := by
  obtain ⟨looked, a₁, hget, h⟩ := completes_bind_iff.mp h
  have hlooks := completes_get hkept hget
  rcases looked with error | session
  · obtain ⟨rfl, rfl⟩ := completes_pure_iff.mp h
    have hfails := not_succeeds_error error
    exact ⟨hlooks.clock, hlooks.frame,
      iff_of_false hfails fun hall ↦ hfails (hlooks.succeeds.mpr hall.1)⟩
  · obtain ⟨hvehicle, -, hcommands⟩ := hlooks.found session rfl
    have hlooked := hlooks.succeeds.mp (succeeds_ok session)
    obtain ⟨saved, expiresAtMS, hvehicle', -, hwritten⟩ := completes_saveAfterViewerChange h
    have hv : saved.vehicleID = v := hvehicle'.trans hvehicle
    refine ⟨?_, fun k hk ↦ ?_, ?_⟩
    · rcases hwritten.effect with heq | heq <;> rw [heq] <;> exact hlooks.clock
    · rw [← hlooks.frame k hk]
      rcases hwritten.effect with heq | heq
      · rw [heq]
      · rw [heq]
        rw [← hv] at hk
        exact Store.set_apply_of_ne _ hk _ _
    · rw [hwritten.iff_done, hcommands]
      exact (and_iff_right hlooked).symm

end Attempt

/-! ## Acquiring -/

/-- Command `n` starts a release of the lease that was just taken, and the lease goes. -/
def Circumstances.RollsBack (x : Circumstances) (n : ℕ) : Prop :=
  x.fates n = .done ∧ x.fates (n + 1) = .done ∧ x.fates (n + 2) ≠ .refused

/-- An acquire that has stored its lease leaves something behind, though it fails:
* the video record is not written, and the lease is not given back;
* the video record is written, and a later step fails. -/
def Circumstances.TearsControl (x : Circumstances) (v : VideoState) : Prop :=
  x.fates 1 ≠ .done ∧ ¬x.RollsBack 2 ∨ x.fates 1 = .done ∧
    (x.fates 2 = .refused ∧ ¬x.RollsBack 3 ∨ x.fates 2 ≠ .refused ∧
      ¬(x.fates 2 = .done ∧ (v.settles (x.clock 1) = true → x.fates 3 = .done) ∧
        x.token ≠ none))

/-- An acquire leaves something behind, though it fails: it finds a free lease, and stores it
without a reply, or fails later on. -/
def AcquireControlRequest.Torn (g : GatewayConfig) (r : AcquireControlRequest)
    (w : GatewayState) (x : Circumstances) : Prop :=
  (∃ publicKeyB64, r.check g = .ok publicKeyB64) ∧
    w.redis.live w.clock (.controlLease r.vehicleID) = none ∧ 0 < g.controlLeases.ttl ∧
      (x.fates 0 = .lost ∨ x.fates 0 = .done ∧ x.TearsControl (w.video r.vehicleID))

/-- Whoever holds the lease held it before, and the video record is the same. -/
structure Withdrawn (v : GoString) (w w' : GatewayState) : Prop where
  lease : ∀ lease, w'.redis.live w'.clock (.controlLease v) = some lease →
    w.redis.live w.clock (.controlLease v) = some lease
  record : w'.redis.get w'.clock (.videoSession v) = w.redis.get w.clock (.videoSession v)

theorem Withdrawn.video {v : GoString} {w w' : GatewayState} (h : Withdrawn v w w') :
    w'.video v = w.video v := by
  simp only [GatewayState.video, h.record]

/-- The rest of a request whose lease is stored. -/
def takeControl (g : GatewayConfig) (session : ControlSession) : GatewayProgram HTTPResponse := do
  match ← VideoSessionStore.setController session.vehicleID session.sessionID with
  | .error _ =>
      let _ ← ControlLeaseStore.releaseControlSession session.sessionID session.operatorID
      return httpError "video session unavailable" 503
  | .ok _ =>
      match ← issueOperatorToken session.vehicleID session.operatorID .controller with
      | none =>
          let _ ← ControlLeaseStore.releaseControlSession session.sessionID session.operatorID
          return httpError "failed to issue LiveKit token" 500
      | some token =>
          recordAudit (controlAudit "control_acquire" session)
          return ⟨200, .control session token (g.controlLeases.ttl.tdiv 2)⟩

/-- The rest of an admitted request that has made its session. -/
def leaseAndControl (g : GatewayConfig) (session : ControlSession) :
    GatewayProgram HTTPResponse := do
  match ← g.controlLeases.acquireControlSession session with
  | .error e => return controlSessionErrorResponse e
  | .ok _ => takeControl g session

theorem handleAcquireControl_eq {g : GatewayConfig} {r : AcquireControlRequest}
    {publicKeyB64 : GoString} (hcheck : r.check g = .ok publicKeyB64) :
    handleAcquireControl g r = .call .timeNow fun now ↦ .call .newUUID fun sessionID ↦
      leaseAndControl g (r.session g publicKeyB64 sessionID now) := by
  unfold handleAcquireControl
  rw [hcheck]
  rfl

/-- The names in the session are texts. -/
structure ControlSession.Valid (session : ControlSession) : Prop where
  sessionID : session.sessionID.ValidUTF8
  vehicleID : session.vehicleID.ValidUTF8
  operatorID : session.operatorID.ValidUTF8

/-- The lease and the index entry are those of `session`. -/
structure Leased (w : GatewayState) (session : ControlSession) : Prop where
  index : w.redis.get w.clock (.controlSessionIndex session.sessionID) = some session.vehicleID
  lease : w.redis.get w.clock (.controlLease session.vehicleID) = some session.marshal

section Stored

variable {w w' : GatewayState} {session : ControlSession}

theorem Leased.found (h : Leased w session) (hvalid : session.Valid) :
    w.sessionByID session.sessionID = some session.marshal.session := by
  have hid : session.marshal.session.sessionID = session.sessionID :=
    GoString.throughJSON_of_valid hvalid.sessionID
  have hread : session.marshal.unmarshal = some session.marshal.session := rfl
  simp [GatewayState.sessionByID, GatewayState.controlSession, h.index, h.lease, hread,
    Option.filter, hid]

theorem Leased.live (h : Leased w session) :
    ∃ lease, w.redis.live w.clock (.controlLease session.vehicleID) = some lease := by
  obtain ⟨lease, hlive, -⟩ := Store.get_eq_some_iff.mp h.lease
  exact ⟨lease, hlive⟩

theorem Leased.frame {v : GoString} (h : Leased w session) (hclock : w'.clock = w.clock)
    (hframe : ∀ k, k ≠ .videoSession v → w'.redis k = w.redis k) : Leased w' session := by
  refine ⟨?_, ?_⟩
  · rw [Store.get, Store.live, hclock, hframe _ (by simp)]
    exact h.index
  · rw [Store.get, Store.live, hclock, hframe _ (by simp)]
    exact h.lease

theorem GatewayState.LeasesNamed.frame {v : GoString} (h : w.LeasesNamed)
    (hframe : ∀ k, k ≠ .videoSession v → w'.redis k = w.redis k) : w'.LeasesNamed := by
  intro u e he
  rw [hframe _ (by simp)] at he
  exact h u e he

/-- The new lease and its index entry. -/
theorem leased_leasing {px : ℤ} (hpx : 0 < px) :
    Leased (w.leasing session.vehicleID session.sessionID session.vehicleID session.marshal
      (w.clock + px)) session := by
  refine ⟨?_, ?_⟩
  · exact Store.get_set_self _ _ _ _ _ (Int.le_add_of_nonneg_right hpx.le)
  · exact congrArg (Option.map Entry.value) (live_leasing w _ _ _ hpx)

theorem GatewayState.LeasesNamed.leasing (h : w.LeasesNamed) (hvalid : session.Valid)
    (indexed : GoString) (deadline : ℤ) :
    (w.leasing session.vehicleID session.sessionID indexed session.marshal
      deadline).LeasesNamed := by
  intro u e he
  simp only [GatewayState.leasing] at he
  have hset := Store.apply_of_set he (by simp)
  by_cases hu : u = session.vehicleID
  · subst hu
    rw [Store.set_apply_self] at hset
    obtain rfl := Option.some.inj hset
    exact ⟨GoString.throughJSON_of_valid hvalid.vehicleID, hvalid.vehicleID⟩
  · exact h u e (Store.apply_of_set hset (by simpa using hu))

end Stored

namespace Attempt

variable [Cjson] {x : Circumstances} {a a' : Attempt} {w : GatewayState}

/-- Taking back a lease that was just taken. -/
theorem completes_rollback {session : ControlSession} (hnamed : a.gateway.LeasesNamed)
    (hvalid : session.Valid) (hleased : Leased a.gateway session)
    {result : Except ControlSessionError Unit}
    (h : Completes (Step x) a
      (ControlLeaseStore.releaseControlSession session.sessionID session.operatorID) result a') :
    (x.RollsBack a.commands →
        a'.gateway = a.gateway.releasing session.vehicleID session.sessionID) ∧
      (¬x.RollsBack a.commands → a'.gateway = a.gateway) := by
  have hfound := hleased.found hvalid
  obtain ⟨-, ⟨found, hreaches, -, hwritten⟩ | ⟨hunreached, hgateway, -⟩⟩ :=
    completes_releaseControlSession hnamed h
  · obtain rfl := Option.some.inj (hfound.symm.trans hreaches.found)
    rw [show session.marshal.session.vehicleID = session.vehicleID from
      GoString.throughJSON_of_valid hvalid.vehicleID] at hwritten
    refine ⟨fun hrolls ↦ hwritten.ran hrolls.2.2, fun hstays ↦ hwritten.kept ?_⟩
    by_contra hran
    exact hstays ⟨hreaches.indexed, hreaches.leased, hran⟩
  · refine ⟨fun hrolls ↦ absurd ⟨session.marshal.session, ?_⟩ hunreached, fun _ ↦ hgateway⟩
    exact ⟨hrolls.1, hrolls.2.1, hfound, GoString.throughJSON_of_valid hvalid.operatorID⟩

/-- What a request that has stored its lease comes to. -/
inductive Controls (x : Circumstances) (a : Attempt) (session : ControlSession)
    (response : HTTPResponse) (a' : Attempt) : Prop
  | granted : response.status = 200 → ¬x.TearsControl (a.gateway.video session.vehicleID) →
      Controls x a session response a'
  | rolledBack : ¬x.TearsControl (a.gateway.video session.vehicleID) →
      a'.gateway.clock = a.gateway.clock →
      a'.gateway.redis (.controlLease session.vehicleID) = none →
      a'.gateway.redis (.videoSession session.vehicleID) =
        a.gateway.redis (.videoSession session.vehicleID) →
          Controls x a session response a'
  | kept : response.status ≠ 200 → x.TearsControl (a.gateway.video session.vehicleID) →
      (∃ lease, a'.gateway.redis.live a'.gateway.clock (.controlLease session.vehicleID) =
        some lease) → Controls x a session response a'
  | recorded : response.status ≠ 200 → x.TearsControl (a.gateway.video session.vehicleID) →
      ((a'.gateway.video session.vehicleID).controllerSessionID = session.sessionID ∨
        (a.gateway.video session.vehicleID).settles (x.clock 1) = true ∧
          a'.gateway.video session.vehicleID = .standby) →
            Controls x a session response a'

theorem completes_takeControl {g : GatewayConfig} {session : ControlSession}
    (hnamed : w.LeasesNamed) (hkept : w.RecordKept session.vehicleID) (hvalid : session.Valid)
    (hleased : Leased w session) {response : HTTPResponse}
    (h : Completes (Step x) ⟨w, 1, 1⟩ (takeControl g session) response a') :
    Controls x ⟨w, 1, 1⟩ session response a' := by
  obtain ⟨result, a₁, hset, h⟩ := completes_bind_iff.mp h
  obtain ⟨hclock, hframe, hset⟩ := completes_setController hkept hset
  have hnamed₁ := hnamed.frame hframe
  have hleased₁ := hleased.frame hclock hframe
  -- a rollback does not touch the video record
  have hrecorded : ∀ {released a₂},
      Completes (Step x) a₁
        (ControlLeaseStore.releaseControlSession session.sessionID session.operatorID) released
          a₂ → a₂.gateway.video session.vehicleID = a₁.gateway.video session.vehicleID := by
    intro released a₂ hrollback
    obtain ⟨hgone, hstays⟩ := completes_rollback hnamed₁ hvalid hleased₁ hrollback
    by_cases hrolls : x.RollsBack a₁.commands
    · rw [hgone hrolls]
      exact video_congr rfl (by simp [GatewayState.releasing, Store.del_apply_of_ne])
    · rw [hstays hrolls]
  have hcontroller : (a₁.gateway.video session.vehicleID).controllerSessionID =
      session.sessionID.throughJSON → (a₁.gateway.video session.vehicleID).controllerSessionID =
        session.sessionID := fun heq ↦ heq.trans (GoString.throughJSON_of_valid hvalid.sessionID)
  rcases result with error | video
  · have hfails := not_succeeds_error error
    obtain ⟨released, a₂, hrollback, h⟩ := completes_bind_iff.mp h
    obtain ⟨rfl, rfl⟩ := completes_pure_iff.mp h
    obtain ⟨hgone, hstays⟩ := completes_rollback hnamed₁ hvalid hleased₁ hrollback
    have hunwritten : ∀ n, a₁.commands = n →
        (x.TearsControl (w.video session.vehicleID) ↔ ¬x.RollsBack n) →
        a₁.gateway.redis (.videoSession session.vehicleID) =
          w.redis (.videoSession session.vehicleID) →
            Controls x ⟨w, 1, 1⟩ session (httpError "video session unavailable" 503) a' := by
      rintro _ rfl htears hsame
      by_cases hrolls : x.RollsBack a₁.commands
      · have heq := hgone hrolls
        refine .rolledBack (fun htorn ↦ htears.mp htorn hrolls) ?_ ?_ ?_
        · rw [heq]
          exact hclock
        · rw [heq]
          simp [GatewayState.releasing, Store.del_apply_of_ne]
        · rw [heq, ← hsame]
          simp [GatewayState.releasing, Store.del_apply_of_ne]
      · refine .kept (by decide) (htears.mpr hrolls) ?_
        rw [hstays hrolls]
        exact hleased₁.live
    cases hset with
    | unread hread hcommands _ hsame =>
        refine hunwritten 2 hcommands ?_ hsame
        simp [Circumstances.TearsControl, show x.fates 1 ≠ .done from hread]
    | refused hread hrefused hcommands _ hsame =>
        refine hunwritten 3 hcommands ?_ hsame
        simp [Circumstances.TearsControl, show x.fates 1 = .done from hread,
          show x.fates 2 = .refused from hrefused]
    | changed hread hran hsucceeds hvideo =>
        refine .recorded (by decide) ?_ ?_
        · refine .inr ⟨hread, .inr ⟨hran, fun hall ↦ ?_⟩⟩
          exact hfails (hsucceeds.mpr ⟨hall.1, hall.2.1⟩)
        · rw [hrecorded hrollback]
          exact hvideo.imp_left hcontroller
  · cases hset with
    | unread _ _ hfails => exact absurd (succeeds_ok video) hfails
    | refused _ _ _ hfails => exact absurd (succeeds_ok video) hfails
    | changed hread hran hsucceeds hvideo =>
        obtain ⟨hsaved, hsettled⟩ := hsucceeds.mp (succeeds_ok video)
        obtain ⟨token, a₂, htoken, h⟩ := completes_call_iff.mp h
        cases htoken with
        | issueOperatorToken =>
            cases hsigned : x.token with
            | none =>
                rw [hsigned] at h
                obtain ⟨released, a₂, hrollback, h⟩ := (completes_bind_iff
                  (p := ControlLeaseStore.releaseControlSession session.sessionID
                    session.operatorID)).mp h
                obtain ⟨rfl, rfl⟩ := completes_pure_iff.mp h
                refine .recorded (by decide) ?_ ?_
                · exact .inr ⟨hread, .inr ⟨hran, fun hall ↦ hall.2.2 hsigned⟩⟩
                · rw [hrecorded hrollback]
                  exact hvideo.imp_left hcontroller
            | some token =>
                rw [hsigned] at h
                obtain ⟨_, a₂, -, h⟩ := completes_call_iff.mp h
                obtain ⟨rfl, rfl⟩ := completes_pure_iff.mp h
                refine .granted rfl ?_
                rintro (⟨hunread, -⟩ | ⟨-, ⟨hrefused, -⟩ | ⟨-, hfailed⟩⟩)
                · exact hunread hread
                · exact hran hrefused
                · exact hfailed ⟨hsaved, hsettled, by simp [hsigned]⟩

/-- What an acquire that fails and cannot take everything back leaves behind. -/
def LeftBehind (x : Circumstances) (w w' : GatewayState) (v sessionID : GoString) : Prop :=
  (∃ lease, w'.redis.live w'.clock (.controlLease v) = some lease) ∨
    (w'.video v).controllerSessionID = sessionID ∨
      (w.video v).settles (x.clock 1) = true ∧ w'.video v = .standby

theorem completes_leaseAndControl {g : GatewayConfig} {session : ControlSession}
    (hnamed : w.LeasesNamed) (hkept : w.RecordKept session.vehicleID) (hvalid : session.Valid)
    {response : HTTPResponse}
    (h : Completes (Step x) ⟨w, 0, 1⟩ (leaseAndControl g session) response a') :
    let torn := w.redis.live w.clock (.controlLease session.vehicleID) = none ∧
      0 < g.controlLeases.ttl ∧
        (x.fates 0 = .lost ∨ x.fates 0 = .done ∧ x.TearsControl (w.video session.vehicleID))
    ¬torn ∧ (response.status ≠ 200 → Withdrawn session.vehicleID w a'.gateway) ∨
      torn ∧ response.status ≠ 200 ∧
        LeftBehind x w a'.gateway session.vehicleID session.sessionID := by
  intro torn
  obtain ⟨acquired, ⟨w₁, n, m⟩, hacquire, h⟩ := completes_bind_iff.mp h
  obtain ⟨hcommands, hreadings, ⟨hfree, hpx, hwritten⟩ | ⟨hnot, hgateway, error, rfl⟩⟩ :=
    completes_acquireControlSession hacquire
  · dsimp only at hcommands hreadings hwritten hfree
    subst hcommands hreadings
    generalize hw₂ : w.leasing session.vehicleID session.sessionID session.vehicleID
      session.marshal (w.clock + g.controlLeases.ttl) = w₂ at hwritten
    have hleased : Leased w₂ session := hw₂ ▸ leased_leasing hpx
    have hnamed₂ : w₂.LeasesNamed := hw₂ ▸ hnamed.leasing hvalid _ _
    have hclock : w₂.clock = w.clock := hw₂ ▸ rfl
    have hrecord : w₂.redis (.videoSession session.vehicleID) =
        w.redis (.videoSession session.vehicleID) := by
      rw [← hw₂]
      simp only [GatewayState.leasing]
      rw [Store.set_apply_of_ne _ (by simp), Store.set_apply_of_ne _ (by simp)]
    have hvideo : w₂.video session.vehicleID = w.video session.vehicleID :=
      video_congr hclock hrecord
    have hkept₂ : w₂.RecordKept session.vehicleID := by
      intro record hget
      rw [Store.get, Store.live, hclock, hrecord] at hget
      exact hkept record hget
    rcases acquired with error | _
    · obtain ⟨rfl, rfl⟩ := completes_pure_iff.mp h
      have hstatus := (controlSessionErrorResponse_status error).1
      generalize hfate : x.fates 0 = fate at hwritten
      cases hwritten with
      | done hok => cases hok
      | refused =>
          refine .inl ⟨?_, fun _ ↦ ⟨fun _ hlive ↦ hlive, rfl⟩⟩
          rintro ⟨-, -, hlost | ⟨hdone, -⟩⟩
          · cases hfate.symm.trans hlost
          · cases hfate.symm.trans hdone
      | lost => exact .inr ⟨⟨hfree, hpx, .inl hfate⟩, hstatus, .inl hleased.live⟩
    · have hfate := hwritten.iff_done.mp rfl
      obtain rfl := hwritten.ran (by simp [hfate])
      have htorn : torn ↔ x.TearsControl (w.video session.vehicleID) := by
        simp [torn, hfree, hpx, hfate]
      rw [htorn, ← hvideo]
      cases completes_takeControl hnamed₂ hkept₂ hvalid hleased h with
      | granted hstatus htears => exact .inl ⟨htears, absurd hstatus⟩
      | rolledBack htears hclock' hgone hsame =>
          refine .inl ⟨htears, fun _ ↦ ⟨fun lease hlive ↦ ?_, ?_⟩⟩
          · rw [Store.live, hgone] at hlive
            cases hlive
          · rw [Store.get, Store.get, Store.live, Store.live, hclock', hsame]
            rw [← hclock, ← hrecord]
      | kept hstatus htears hlive => exact .inr ⟨htears, hstatus, .inl hlive⟩
      | recorded hstatus htears hleft =>
          rw [hvideo] at hleft
          exact .inr ⟨htears, hstatus, .inr hleft⟩
  · obtain ⟨rfl, rfl⟩ := completes_pure_iff.mp h
    obtain rfl : w₁ = w := hgateway
    exact .inl ⟨fun htorn ↦ hnot ⟨htorn.1, htorn.2.1⟩, fun _ ↦ ⟨fun _ hlive ↦ hlive, rfl⟩⟩

/-- However ids are drawn, an acquire that fails has taken everything back, if and only if it
does not tear. -/
theorem acquire_withdraws_iff (g : GatewayConfig) (r : AcquireControlRequest)
    (x : Circumstances) (hnamed : w.LeasesNamed) (hkept : ∀ v, v.ValidUTF8 → w.RecordKept v) :
    (∀ response w', Ends x w (handleAcquireControl g r) response w' →
      response.status ≠ 200 → Withdrawn r.vehicleID w w') ↔ ¬r.Torn g w x := by
  cases hcheck : r.check g with
  | error refusal =>
      have htorn : ¬r.Torn g w x := by
        rintro ⟨⟨publicKeyB64, hok⟩, -⟩
        cases hcheck.symm.trans hok
      refine iff_of_true ?_ htorn
      rintro response w' ⟨commands, readings, h⟩ -
      unfold handleAcquireControl at h
      rw [hcheck] at h
      obtain ⟨-, ha⟩ := completes_pure_iff.mp h
      obtain rfl : w' = w := congrArg Attempt.gateway ha
      exact ⟨fun _ hlive ↦ hlive, rfl⟩
  | ok publicKeyB64 =>
      have hadmitted := AcquireControlRequest.admitted_of_check hcheck
      have hv := VehicleAuthorizer.validUTF8_of_authorize hadmitted.authorize_eq
      have hname := VehicleAuthorizer.validName_of_authorize hadmitted.authorize_eq
      have hoperator := handleAcquireControl_eq hcheck
      constructor
      · rintro hkeeps ⟨-, htorn⟩
        obtain ⟨id, hnew, hvalid, hne⟩ :=
          exists_fresh ((w.video r.vehicleID).controllerSessionID :: w.drawn)
        obtain ⟨hother, hnew⟩ := not_or.mp (mt List.mem_cons.mpr hnew)
        obtain ⟨response, ⟨w', commands, readings⟩, h⟩ :=
          exists_completes x ⟨{ w with drawn := id :: w.drawn }, 0, 1⟩
            (leaseAndControl g (r.session g publicKeyB64 id (x.clock 0)))
        have hends : Ends x w (handleAcquireControl g r) response w' := by
          rw [hoperator]
          exact ⟨commands, readings, .call .timeNow (.call (.newUUID hnew hvalid hne) h)⟩
        rcases completes_leaseAndControl (w := { w with drawn := id :: w.drawn }) hnamed
          (hkept _ hv) ⟨hvalid, hv, hname⟩ h with
          ⟨hnot, -⟩ | ⟨-, hstatus, hleft⟩
        · exact hnot htorn
        · have hback := hkeeps response w' hends hstatus
          rcases hleft with ⟨lease, hlive⟩ | hcontroller | ⟨hsettles, hstandby⟩
          · cases htorn.1.symm.trans (hback.lease lease hlive)
          · have hsame := congrArg VideoState.controllerSessionID hback.video
            exact hother (hcontroller.symm.trans hsame)
          · have hbefore : w.video r.vehicleID = .standby := hback.video.symm.trans hstandby
            have hsettles' : (w.video r.vehicleID).settles (x.clock 1) = true := hsettles
            rw [hbefore] at hsettles'
            cases hsettles'
      · rintro hnot response w' ⟨commands, readings, h⟩ hstatus
        rw [hoperator] at h
        obtain ⟨now, a₁, hnow, h⟩ := completes_call_iff.mp h
        obtain ⟨rfl, rfl⟩ := step_timeNow hnow
        obtain ⟨id, a₂, hnew, h⟩ := completes_call_iff.mp h
        obtain ⟨hvalid, -, rfl⟩ := step_newUUID hnew
        have h : Completes (Step x) ⟨{ w with drawn := id :: w.drawn }, 0, 1⟩
          (leaseAndControl g (r.session g publicKeyB64 id (x.clock 0))) response
            ⟨w', commands, readings⟩ := h
        rcases completes_leaseAndControl (w := { w with drawn := id :: w.drawn }) hnamed
          (hkept _ hv) ⟨hvalid, hv, hname⟩ h with
          ⟨-, hback⟩ | ⟨htorn, -⟩
        · exact ⟨(hback hstatus).lease, (hback hstatus).record⟩
        · exact absurd ⟨⟨publicKeyB64, hcheck⟩, htorn⟩ hnot

end Attempt

/-! ## Releasing -/

/-- A release fails though the lease is gone: it deletes the lease without a reply, or does not
get through with the video record afterwards. -/
def SessionRequest.Torn (r : SessionRequest) (w : GatewayState) (x : Circumstances) : Prop :=
  r.method = .post ∧ ∃ session, w.sessionByID r.sessionID = some session ∧
    session.operatorID = r.claims.name ∧ (∀ n < 4, x.fates n = .done) ∧
      (x.fates 4 = .lost ∨ x.fates 4 = .done ∧
        ¬((w.video session.vehicleID).Looked x.fates (x.clock 0) 5 ∧
          x.fates (5 + (w.video session.vehicleID).lookCommands (x.clock 0)) = .done))

/-- The leases and the controllers are the same. -/
structure StillLeased (w w' : GatewayState) : Prop where
  lease : ∀ v, w'.redis.live w'.clock (.controlLease v) = w.redis.live w.clock (.controlLease v)
  controller : ∀ v, (w'.video v).controllerSessionID = (w.video v).controllerSessionID

theorem StillLeased.refl (w : GatewayState) : StillLeased w w := ⟨fun _ ↦ rfl, fun _ ↦ rfl⟩

namespace Attempt

variable [Cjson] {x : Circumstances} {w w' : GatewayState}

/-- A release that fails has changed nothing, if and only if it does not tear. -/
theorem release_keeps_iff {g : GatewayConfig} {r : SessionRequest} (hnamed : w.LeasesNamed)
    (hkept : ∀ v, v.ValidUTF8 → w.RecordKept v) {response : HTTPResponse}
    (h : Ends x w (handleReleaseControl g r) response w') :
    (response.status ≠ 204 → StillLeased w w') ↔ ¬r.Torn w x := by
  obtain ⟨commands, readings, h⟩ := h
  unfold handleReleaseControl at h
  split_ifs at h with hmethod
  · obtain ⟨-, ha⟩ := completes_pure_iff.mp h
    obtain rfl : w' = w := congrArg Attempt.gateway ha
    exact iff_of_true (fun _ ↦ .refl w') fun htorn ↦ hmethod htorn.1
  have hpost := not_not.mp hmethod
  obtain ⟨found, ⟨w₁, n, m⟩, hfound, h⟩ := completes_bind_iff.mp h
  obtain ⟨hgateway, hreadings, hcommands, hsession⟩ := completes_getSessionByID hfound
  dsimp only at hgateway hreadings hsession
  subst hgateway hreadings
  rcases found with error | session
  · obtain ⟨-, ha⟩ := completes_pure_iff.mp h
    obtain rfl : w' = w₁ := congrArg Attempt.gateway ha
    refine iff_of_true (fun _ ↦ .refl w') ?_
    rintro ⟨-, session, hsome, -, hdone, -⟩
    cases (hsession session).mpr ⟨hdone 0 (by decide), hdone 1 (by decide), hsome⟩
  obtain ⟨hdone₀, hdone₁, hsome⟩ := (hsession session).mp rfl
  obtain rfl : n = 2 := hcommands session rfl
  obtain ⟨hid, hv, lease, hlive, -⟩ := hnamed.found hsome
  obtain ⟨released, ⟨w₂, n, m⟩, hrelease, h⟩ := completes_bind_iff.mp h
  rw [← hid] at hsome
  obtain ⟨hreadings, ⟨found, hreaches, hcommands, hwritten⟩ | ⟨hunreached, hgateway, error, rfl⟩⟩ :=
    completes_releaseControlSession hnamed hrelease
  · obtain rfl := Option.some.inj (hsome.symm.trans hreaches.found)
    dsimp only at hreadings hcommands hwritten
    subst hreadings hcommands
    have htorn : r.Torn w₁ x ↔ x.fates 4 = .lost ∨ x.fates 4 = .done ∧
        ¬((w₁.video session.vehicleID).Looked x.fates (x.clock 0) 5 ∧
          x.fates (5 + (w₁.video session.vehicleID).lookCommands (x.clock 0)) = .done) := by
      constructor
      · rintro ⟨-, other, hother, -, -, hfails⟩
        rw [← hid] at hother
        obtain rfl := Option.some.inj (hsome.symm.trans hother)
        exact hfails
      · intro hfails
        have hanswered : ∀ n < 4, x.fates n = .done
          | 0, _ => hdone₀
          | 1, _ => hdone₁
          | 2, _ => hreaches.indexed
          | 3, _ => hreaches.leased
        exact ⟨hpost, session, hid ▸ hsome, hreaches.owned, hanswered, hfails⟩
    -- without the lease the release has not left things as they were
    have hgone : ∀ {w'' : GatewayState}, w''.redis (.controlLease session.vehicleID) = none →
        ¬StillLeased w₁ w'' := by
      intro w'' hnone hsame
      have hlease := hsame.lease session.vehicleID
      rw [Store.live, hnone, hlive] at hlease
      cases hlease
    have hreleased : (w₁.releasing session.vehicleID session.sessionID).redis
        (.controlLease session.vehicleID) = none := by
      simp [GatewayState.releasing, Store.del_apply_of_ne]
    rw [htorn]
    rcases released with error | _
    · obtain ⟨rfl, ha⟩ := completes_pure_iff.mp h
      obtain rfl : w' = w₂ := congrArg Attempt.gateway ha
      have hstatus := (controlSessionErrorResponse_status error).2
      generalize hfate : x.fates 4 = fate at hwritten ⊢
      cases hwritten with
      | done hok => cases hok
      | refused => exact iff_of_true (fun _ ↦ .refl w') (by simp)
      | lost => exact iff_of_false (fun hsame ↦ hgone hreleased (hsame hstatus)) (by simp)
    · have hfate := hwritten.iff_done.mp rfl
      generalize hw₂ : w₁.releasing session.vehicleID session.sessionID = w₂' at hwritten hreleased
      obtain rfl := hwritten.ran (by simp [hfate])
      have hclock : w₂.clock = w₁.clock := hw₂ ▸ rfl
      have hrecord : w₂.redis (.videoSession session.vehicleID) =
          w₁.redis (.videoSession session.vehicleID) := by
        rw [← hw₂]
        simp [GatewayState.releasing, Store.del_apply_of_ne]
      have hvideo : w₂.video session.vehicleID = w₁.video session.vehicleID :=
        video_congr hclock hrecord
      have hkept₂ : w₂.RecordKept session.vehicleID := by
        intro record hget
        rw [Store.get, Store.live, hclock, hrecord] at hget
        exact hkept _ hv record hget
      obtain ⟨cleared, a₃, hclear, h⟩ := completes_bind_iff.mp h
      obtain ⟨-, hframe, hsucceeds⟩ := completes_clearController hkept₂ hclear
      dsimp only at hframe hsucceeds
      rw [hvideo] at hsucceeds
      rw [hfate, ← hsucceeds]
      rcases cleared with error | video
      · obtain ⟨rfl, ha⟩ := completes_pure_iff.mp h
        obtain rfl : w' = a₃.gateway := congrArg Attempt.gateway ha
        have hnone := (hframe (.controlLease session.vehicleID) (by simp)).trans hreleased
        refine iff_of_false (fun hsame ↦ hgone hnone (hsame (by decide))) (not_not_intro ?_)
        exact .inr ⟨rfl, not_succeeds_error error⟩
      · obtain ⟨_, a₄, -, h⟩ := completes_call_iff.mp h
        obtain ⟨rfl, -⟩ := completes_pure_iff.mp h
        refine iff_of_true (fun hstatus ↦ absurd rfl hstatus) ?_
        simp [succeeds_ok]
  · obtain ⟨-, ha⟩ := completes_pure_iff.mp h
    obtain rfl : w' = w₂ := congrArg Attempt.gateway ha
    obtain rfl : w' = w₁ := hgateway
    refine iff_of_true (fun _ ↦ .refl w') ?_
    rintro ⟨-, other, hother, howned, hdone, -⟩
    rw [← hid] at hother
    exact hunreached ⟨other, hdone 2 (by decide), hdone 3 (by decide), hother, howned⟩

end Attempt

/-! ## Every reachable state -/

/-- The handlers over one Redis that may fail. -/
def failingPool [Cjson] (g : GatewayConfig) :
    PoolSystem GatewayState GatewayCall ℤ Effect Effect.Reply HTTPResponse where
  Init w := w.redis = Store.empty
  program := GatewayCall.handle g
  Exec := MayFail Timing.free
  EnvStep := ClockStep

/-- Leases are stored for the vehicle they name. -/
def NamesLease (e : Effect) : Prop :=
  ∀ cmd, e = .redis cmd → (∀ v, ¬cmd.OverwritesLease v) ∧
    ∀ leaseOf indexOf payload px vehicleID,
      cmd = .acquireScript leaseOf indexOf payload px vehicleID →
        payload.session.vehicleID = leaseOf ∧ leaseOf.ValidUTF8

theorem GatewayCall.namesLease (g : GatewayConfig) (c : GatewayCall) :
    OnlyAsks NamesLease (c.handle g) := by
  refine (c.follows g).onlyAsks ?_
  rintro tr e hasks cmd rfl
  refine ⟨hasks.not_overwritesLease, ?_⟩
  rintro leaseOf indexOf payload px vehicleID rfl
  cases hasks with
  | safe h => cases h with | video h => cases h
  | acquire r publicKeyB64 sessionID now hcall hadmitted _ =>
      have hv := VehicleAuthorizer.validUTF8_of_authorize hadmitted.authorize_eq
      exact ⟨GoString.throughJSON_of_valid hv, hv⟩

section Upheld

variable {g : GatewayConfig}

abbrev UpholdsVideo {α : Type} (p : GatewayProgram α) : Prop :=
  VideoSessionStore.Upholds (fun _ ↦ True) (fun _ ↦ True) (fun _ ↦ True) p

theorem upholdsVideo_pure {α : Type} (a : α) : UpholdsVideo (Pure.pure a : GatewayProgram α) :=
  Keeps.pure trivial

theorem upholdsVideo_of_returns
    {p : GatewayProgram (Except VideoSessionError VideoSession)}
    (h : VideoSessionStore.Upholds (fun _ ↦ True) (fun _ ↦ True)
      (VideoSessionStore.Returns fun _ ↦ True) p) : UpholdsVideo p :=
  h.mono fun _ _ _ ↦ trivial

theorem upholdsVideo_getSessionByID (sessionID : GoString) :
    UpholdsVideo (ControlLeaseStore.getSessionByID sessionID) :=
  (ControlLeaseStore.onlyAsks_getSessionByID (fun _ ↦ trivial) sessionID).keeps

theorem upholdsVideo_releaseControlSession (sessionID operatorID : GoString) :
    UpholdsVideo (ControlLeaseStore.releaseControlSession sessionID operatorID) :=
  (ControlLeaseStore.onlyAsks_releaseControlSession (fun _ ↦ trivial) fun _ ↦ trivial).keeps

theorem GatewayCall.upholdsVideo (hgrace : 0 ≤ g.videoSessions.gracePeriod) (c : GatewayCall) :
    UpholdsVideo (c.handle g) := by
  have hP := VideoState.preserved_true fun _ ↦ True
  cases c with
  | acquireControl r =>
      change UpholdsVideo (handleAcquireControl g r)
      cases hcheck : r.check g with
      | error response =>
          unfold handleAcquireControl
          rw [hcheck]
          exact upholdsVideo_pure _
      | ok publicKeyB64 =>
          rw [handleAcquireControl_eq hcheck]
          refine Keeps.call trivial fun now _ ↦ Keeps.call trivial fun sessionID _ ↦ ?_
          refine (ControlLeaseStore.onlyAsks_acquireControlSession trivial).keeps.bind
            fun acquired _ ↦ ?_
          rcases acquired with error | _
          · exact upholdsVideo_pure _
          refine (upholdsVideo_of_returns
            (VideoSessionStore.upholds_setController hP trivial trivial)).bind fun set _ ↦ ?_
          rcases set with error | video
          · exact (upholdsVideo_releaseControlSession _ _).bind fun _ _ ↦ upholdsVideo_pure _
          refine Keeps.call trivial fun token _ ↦ ?_
          cases token with
          | none =>
              exact (upholdsVideo_releaseControlSession _ _).bind fun _ _ ↦ upholdsVideo_pure _
          | some token => exact Keeps.call trivial fun _ _ ↦ upholdsVideo_pure _
  | renewControl r =>
      change UpholdsVideo (handleRenewControl g r)
      unfold handleRenewControl
      split_ifs
      · exact upholdsVideo_pure _
      refine (ControlLeaseStore.onlyAsks_renewControlSession (fun _ ↦ trivial) trivial
        fun _ _ ↦ trivial).keeps.bind fun renewed _ ↦ ?_
      rcases renewed with error | session
      · exact upholdsVideo_pure _
      · exact Keeps.call trivial fun _ _ ↦ upholdsVideo_pure _
  | releaseControl r =>
      change UpholdsVideo (handleReleaseControl g r)
      unfold handleReleaseControl
      split_ifs
      · exact upholdsVideo_pure _
      refine (upholdsVideo_getSessionByID _).bind fun found _ ↦ ?_
      rcases found with error | session
      · exact upholdsVideo_pure _
      refine (upholdsVideo_releaseControlSession _ _).bind fun released _ ↦ ?_
      rcases released with error | _
      · exact upholdsVideo_pure _
      refine (upholdsVideo_of_returns
        (VideoSessionStore.upholds_clearController hP hgrace trivial _)).bind fun cleared _ ↦ ?_
      rcases cleared with error | video
      · exact upholdsVideo_pure _
      · exact Keeps.call trivial fun _ _ ↦ upholdsVideo_pure _
  | getControl r =>
      change UpholdsVideo (handleGetControl g r)
      unfold handleGetControl
      split_ifs
      · exact upholdsVideo_pure _
      · exact upholdsVideo_pure _
      refine (ControlLeaseStore.onlyAsks_getControlSession (fun _ ↦ trivial) _).keeps.bind
        fun found _ ↦ ?_
      rcases found with error | session <;> exact upholdsVideo_pure _
  | acquireVideo r =>
      change UpholdsVideo (handleAcquireVideo g r)
      unfold handleAcquireVideo
      split_ifs
      · exact upholdsVideo_pure _
      refine (upholdsVideo_of_returns
        (VideoSessionStore.upholds_acquireViewer hP _ trivial)).bind fun acquired _ ↦ ?_
      rcases acquired with error | session
      · exact upholdsVideo_pure _
      · exact Keeps.call trivial fun _ _ ↦ upholdsVideo_pure _
  | releaseVideo r =>
      change UpholdsVideo (handleReleaseVideo g r)
      refine (upholdsVideo_of_returns
        (VideoSessionStore.upholds_releaseViewer hP hgrace _)).bind fun released _ ↦ ?_
      rcases released with error | session
      · exact upholdsVideo_pure _
      · exact Keeps.call trivial fun _ _ ↦ upholdsVideo_pure _
  | getVideo r =>
      change UpholdsVideo (handleGetVideo g r)
      unfold handleGetVideo
      split_ifs
      · exact upholdsVideo_pure _
      refine (VideoSessionStore.upholds_get hP _).bind fun found _ ↦ ?_
      rcases found with error | session <;> exact upholdsVideo_pure _

end Upheld

section Runs

variable [Cjson] {g : GatewayConfig}
  {C : TransitionSystem.StepCondition (GatewayPool GatewayCall HTTPResponse)
    (GatewayLabel GatewayCall)}
  {ls : List (GatewayLabel GatewayCall)} {st : GatewayPool GatewayCall HTTPResponse}

theorem leasesNamed_of_run (hrun : (failingPool g).system.RunWhere C ls st) :
    st.shared.LeasesNamed := by
  have hcommand : ∀ {w : GatewayState} {t : ℤ} {cmd : RedisCommand} {result : cmd.Result}
      {redis : Redis}, w.LeasesNamed → NamesLease (.redis cmd) →
        cmd.exec t w.redis = .ok (result, redis) →
          ({ w with clock := t, redis := redis } : GatewayState).LeasesNamed := by
    intro w t cmd result redis hnamed hnames hexec v e' he'
    obtain ⟨hover, hacquires⟩ := hnames cmd rfl
    rcases RedisCommand.exec_stores_lease hexec (hover v) he' with
      hold | ⟨indexOf, px, vehicleID, hcmd, -, -⟩ |
        ⟨e, indexOf, expiresAt, px, vehicleID, -, hlive, rfl⟩
    · exact hnamed v e' hold
    · cases hcmd
      exact hacquires _ _ _ _ _ rfl
    · exact hnamed v e (Store.live_eq_some_iff.mp hlive).1
  have hspawn : ∀ ls st c, C ls st (.spawn c) →
      ((failingPool g).program c).Keeps NamesLease (fun _ _ ↦ True) (fun _ ↦ True) :=
    fun ls st c _ ↦ (c.namesLease g).keeps
  refine (PoolSystem.invariant_of_keeps (I := GatewayState.LeasesNamed) ?_ hspawn ?_ ?_ hrun).1
  · intro w hinit v e he
    have hempty : w.redis = Store.empty := hinit
    simp [hempty, Store.empty] at he
  · rintro w e r w' hnamed hnames ⟨fate, hfaces⟩
    refine ⟨trivial, ?_⟩
    cases hfaces with
    | done hserves =>
        cases hserves with
        | redis _ hexec => exact hcommand hnamed hnames hexec
        | timeNow | newUUID | issueOperatorToken | recordAudit => exact hnamed
    | refused => exact hnamed
    | lost _ hexec => exact hcommand hnamed hnames hexec
  · intro w t w' hnamed hmoved
    cases hmoved
    exact hnamed

theorem upheld_of_requests (hgrace : 0 ≤ g.videoSessions.gracePeriod)
    (hrun : (failingPool g).system.RunWhere C ls st) :
    Upheld (fun _ ↦ True) (fun _ ↦ True) st.shared := by
  have hP := VideoState.preserved_true fun _ ↦ True
  have hspawn : ∀ ls st c, C ls st (.spawn c) → UpholdsVideo ((failingPool g).program c) :=
    fun ls st c _ ↦ c.upholdsVideo hgrace
  refine (PoolSystem.invariant_of_keeps (I := Upheld (fun _ ↦ True) fun _ ↦ True) ?_ hspawn ?_ ?_
    hrun).1
  · intro w hinit
    have hempty : w.redis = Store.empty := hinit
    constructor
    · intro vehicleID e he
      simp [hempty, Store.empty] at he
    · intro sessionID e he
      simp [hempty, Store.empty] at he
  · intro w e r w' hupheld hstores hexec
    exact hupheld.effect hP (fun _ _ ↦ trivial) hstores hexec
  · intro w t w' hupheld hmoved
    cases hmoved
    exact ⟨hupheld.record, hupheld.index⟩

/-- Whatever fails, an acquire that does not answer 200 has taken everything back, and a release
that does not answer 204 has changed nothing, if and only if it does not tear. -/
theorem control_all_or_nothing_iff (hgrace : 0 ≤ g.videoSessions.gracePeriod)
    (hrun : (failingPool g).system.Run ls st) (x : Circumstances) :
    (∀ r : AcquireControlRequest,
        (∀ response w', Attempt.Ends x st.shared (handleAcquireControl g r) response w' →
          response.status ≠ 200 → Withdrawn r.vehicleID st.shared w') ↔
            ¬r.Torn g st.shared x) ∧
      ∀ r : SessionRequest,
        (∀ response w', Attempt.Ends x st.shared (handleReleaseControl g r) response w' →
          response.status ≠ 204 → StillLeased st.shared w') ↔ ¬r.Torn st.shared x := by
  have hnamed := leasesNamed_of_run hrun
  have hkept : ∀ v, v.ValidUTF8 → st.shared.RecordKept v :=
    fun v hv ↦ (upheld_of_requests hgrace hrun).recordKept fun _ ↦ hv
  refine ⟨fun r ↦ Attempt.acquire_withdraws_iff g r x hnamed hkept, fun r ↦ ?_⟩
  obtain ⟨response, w', hends⟩ := Attempt.exists_ends x st.shared (handleReleaseControl g r)
  constructor
  · intro hkeeps
    exact (Attempt.release_keeps_iff hnamed hkept hends).mp (hkeeps response w' hends)
  · intro htorn response w' hends
    exact (Attempt.release_keeps_iff hnamed hkept hends).mpr htorn

end Runs

section Sample

/-- Alice gets the lease, the video record cannot be read, and the lease is given back. -/
theorem unread_record_withdrawn :
    letI := Cjson.fourteenDigits
    ∃ ls st, (failingPool sampleGateway).system.Run ls st ∧
      ∀ response w',
        Attempt.Ends ⟨refusedAt 1, fun _ ↦ 1, none⟩ st.shared
          (handleAcquireControl sampleGateway aliceRequest) response w' →
            response.status ≠ 200 → Withdrawn aliceRequest.vehicleID st.shared w' := by
  let := Cjson.fourteenDigits
  have hrun : (failingPool sampleGateway).system.Run [] ⟨⟨1, Store.empty, []⟩, []⟩ :=
    .init ⟨rfl, rfl⟩
  have hnot : ¬aliceRequest.Torn sampleGateway ⟨1, Store.empty, []⟩
      ⟨refusedAt 1, fun _ ↦ 1, none⟩ := by
    rintro ⟨-, -, -, hlost | ⟨-, ⟨-, hstays⟩ | ⟨hread, -⟩⟩⟩
    · exact absurd hlost (by decide)
    · exact hstays ⟨rfl, rfl, by decide⟩
    · exact absurd hread (by decide)
  exact ⟨[], _, hrun,
    ((control_all_or_nothing_iff (by decide) hrun ⟨refusedAt 1, fun _ ↦ 1, none⟩).1
      aliceRequest).mpr hnot⟩

/-- Alice gets the lease and controls the video, but no token; only the lease is given back. -/
theorem unsigned_token_leaves_controller :
    letI := Cjson.fourteenDigits
    ∃ ls st x response w', (failingPool sampleGateway).system.Run ls st ∧
      Attempt.Ends x st.shared (handleAcquireControl sampleGateway aliceRequest) response w' ∧
        response.status ≠ 200 ∧ ¬Withdrawn aliceRequest.vehicleID st.shared w' := by
  let := Cjson.fourteenDigits
  have hrun : (failingPool sampleGateway).system.Run [] ⟨⟨1, Store.empty, []⟩, []⟩ :=
    .init ⟨rfl, rfl⟩
  have htorn : aliceRequest.Torn sampleGateway ⟨1, Store.empty, []⟩
      ⟨fun _ ↦ .done, fun _ ↦ 1, none⟩ := by
    refine ⟨⟨_, check_aliceRequest⟩, rfl, by decide, .inr ⟨rfl, .inr ⟨rfl, .inr ⟨by decide, ?_⟩⟩⟩⟩
    exact fun hall ↦ hall.2.2 rfl
  have hbroken := mt (Attempt.acquire_withdraws_iff sampleGateway aliceRequest _
    (leasesNamed_of_run hrun) (by rintro v hv record ⟨⟩)).mp (not_not_intro htorn)
  push Not at hbroken
  obtain ⟨response, w', hends, hstatus, hleft⟩ := hbroken
  exact ⟨[], _, _, response, w', hrun, hends, hstatus, hleft⟩

end Sample

end RemoteInfra.Gateway
