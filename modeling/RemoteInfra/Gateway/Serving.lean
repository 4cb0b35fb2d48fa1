import RemoteInfra.Gateway.VideoSession
import RemoteInfra.Library.Sequential

/-!
# Calls served one at a time

The video store with nobody else at work and with every Redis command succeeding.  How far
Redis's clock moves on between two commands, and what a gateway process may read off its own
clock, is a parameter.
-/

namespace RemoteInfra.Gateway

open RemoteInfra.Library RemoteInfra.Library.Program

structure Timing where
  /-- Redis's clock before an effect and at it -/
  passes : ℤ → ℤ → Prop
  /-- what a process may read while Redis's clock shows the first argument -/
  reads : ℤ → ℤ → Prop
  forward : ∀ {c t}, passes c t → c ≤ t
  trans : ∀ {c t u}, passes c t → passes t u → passes c u

theorem within_forward (limit : ℤ) {c t : ℤ} (h : c ≤ t ∧ t < limit) : c ≤ t := h.1

theorem within_trans (limit : ℤ) {c t u : ℤ} (h : c ≤ t ∧ t < limit) (h' : t ≤ u ∧ u < limit) :
    c ≤ u ∧ u < limit :=
  ⟨h.1.trans h'.1, h'.2⟩

/-- A call takes no time, and all clocks agree. -/
def Timing.instant : Timing where
  passes c t := t = c
  reads t now := now = t
  forward h := h.ge
  trans h h' := h'.trans h

/-- Time passes at every effect, but not up to `limit`. -/
def Timing.before (limit : ℤ) : Timing where
  passes c t := c ≤ t ∧ t < limit
  reads _ _ := True
  forward := @within_forward limit
  trans := @within_trans limit

inductive Serves [Cjson] (T : Timing) (w : GatewayState) :
    (e : Effect) → e.Reply → GatewayState → Prop
  | timeNow {t now : ℤ} : T.passes w.clock t → T.reads t now →
      Serves T w .timeNow now { w with clock := t }
  | newUUID {t : ℤ} {id : GoString} : T.passes w.clock t → id ∉ w.drawn → id.ValidUTF8 → id ≠ [] →
      Serves T w .newUUID id { w with clock := t, drawn := id :: w.drawn }
  | redis {t : ℤ} {cmd : RedisCommand} {result : cmd.Result} {redis : Redis} :
      T.passes w.clock t → cmd.exec t w.redis = .ok (result, redis) →
        Serves T w (.redis cmd) (.ok result) { w with clock := t, redis := redis }
  | issueOperatorToken {t : ℤ} {vehicleID operatorID : GoString} {access : OperatorAccess}
      (token : Option GoString) : T.passes w.clock t →
        Serves T w (.issueOperatorToken vehicleID operatorID access) token { w with clock := t }
  | recordAudit {t : ℤ} {event : AuditEvent} : T.passes w.clock t →
      Serves T w (.recordAudit event) () { w with clock := t }

section Serves

variable [Cjson] {T : Timing} {w w' : GatewayState}

/-- Serving is time passing and then an effect as any call may meet it. -/
theorem Serves.sound {e : Effect} {r : e.Reply} (h : Serves T w e r w') :
    ∃ t w₁, ClockStep w t w₁ ∧ Effect.Exec w₁ e r w' := by
  cases h with
  | timeNow hpasses _ => exact ⟨_, _, .tick (T.forward hpasses), .timeNow _⟩
  | newUUID hpasses hnew hvalid hne =>
      exact ⟨_, _, .tick (T.forward hpasses), .newUUID hnew hvalid hne⟩
  | redis hpasses hexec => exact ⟨_, _, .tick (T.forward hpasses), .ran hexec .heard⟩
  | issueOperatorToken token hpasses =>
      exact ⟨_, _, .tick (T.forward hpasses), .issueOperatorToken token⟩
  | recordAudit hpasses => exact ⟨_, _, .tick (T.forward hpasses), .recordAudit⟩

theorem Serves.mono {T' : Timing} (hpasses : ∀ t, T.passes w.clock t → T'.passes w.clock t)
    (hreads : ∀ t now, T.passes w.clock t → T.reads t now → T'.reads t now) {e : Effect}
    {r : e.Reply} (h : Serves T w e r w') : Serves T' w e r w' := by
  cases h with
  | timeNow ht hnow => exact .timeNow (hpasses _ ht) (hreads _ _ ht hnow)
  | newUUID ht hnew hvalid hne => exact .newUUID (hpasses _ ht) hnew hvalid hne
  | redis ht hexec => exact .redis (hpasses _ ht) hexec
  | issueOperatorToken token ht => exact .issueOperatorToken token (hpasses _ ht)
  | recordAudit ht => exact .recordAudit (hpasses _ ht)

theorem Serves.passes {e : Effect} {r : e.Reply} (h : Serves T w e r w') :
    T.passes w.clock w'.clock := by
  cases h with
  | timeNow hpasses _ => exact hpasses
  | newUUID hpasses _ _ _ => exact hpasses
  | redis hpasses _ => exact hpasses
  | issueOperatorToken _ hpasses => exact hpasses
  | recordAudit hpasses => exact hpasses

theorem Serves.clock_le {e : Effect} {r : e.Reply} (h : Serves T w e r w') :
    w.clock ≤ w'.clock :=
  T.forward h.passes

theorem Serves.clock_eq {e : Effect} {r : e.Reply} (h : Serves Timing.instant w e r w') :
    w'.clock = w.clock :=
  h.passes

theorem serves_timeNow_iff {now : ℤ} :
    Serves T w .timeNow now w' ↔
      ∃ t, T.passes w.clock t ∧ T.reads t now ∧ w' = { w with clock := t } := by
  constructor
  · rintro ⟨hpasses, hreads⟩
    exact ⟨_, hpasses, hreads, rfl⟩
  · rintro ⟨t, hpasses, hreads, rfl⟩
    exact .timeNow hpasses hreads

theorem serves_get_iff {k : RedisKey} {reply : Except RedisError (Option k.Value)} :
    Serves T w (.redis (.get k)) reply w' ↔
      ∃ t, T.passes w.clock t ∧ reply = .ok (w.redis.get t k) ∧ w' = { w with clock := t } := by
  constructor
  · intro h
    cases h with
    | redis hpasses hexec =>
        obtain ⟨rfl, rfl⟩ := Prod.mk.inj (Except.ok.inj hexec)
        exact ⟨_, hpasses, rfl, rfl⟩
  · rintro ⟨t, hpasses, rfl, rfl⟩
    exact .redis hpasses rfl

theorem serves_set_iff {k : RedisKey} {v : k.Value} {px : ℤ} {reply : Except RedisError Unit} :
    Serves T w (.redis (.set k v px)) reply w' ↔
      ∃ t, T.passes w.clock t ∧ 0 < px ∧ reply = .ok () ∧
        w' = { w with clock := t, redis := w.redis.set k v (t + px) } := by
  constructor
  · intro h
    cases h with
    | redis hpasses hexec =>
        simp only [RedisCommand.exec] at hexec
        split_ifs at hexec with hpx
        obtain ⟨-, rfl⟩ := Prod.mk.inj (Except.ok.inj hexec)
        exact ⟨_, hpasses, not_le.mp hpx, rfl, rfl⟩
  · rintro ⟨t, hpasses, hpx, rfl, rfl⟩
    exact .redis hpasses (if_neg (not_le.mpr hpx))

theorem serves_del_iff {k : RedisKey} {reply : Except RedisError Unit} :
    Serves T w (.redis (.del k)) reply w' ↔
      ∃ t, T.passes w.clock t ∧ reply = .ok () ∧
        w' = { w with clock := t, redis := w.redis.del k } := by
  constructor
  · intro h
    cases h with
    | redis hpasses hexec =>
        obtain ⟨-, rfl⟩ := Prod.mk.inj (Except.ok.inj hexec)
        exact ⟨_, hpasses, rfl, rfl⟩
  · rintro ⟨t, hpasses, rfl, rfl⟩
    exact .redis hpasses rfl

/-- Answers every effect at once; the process draws `ids`, in order. -/
def serveAtOnce (ids : List String) (w : GatewayState) : (e : Effect) →
    Option (e.Reply × GatewayState)
  | .timeNow => some (w.clock, w)
  | .newUUID =>
      match ids[w.drawn.length]? with
      | some id =>
          if GoString.ofString id ∉ w.drawn ∧ GoString.ofString id ≠ [] then
            some (GoString.ofString id, { w with drawn := GoString.ofString id :: w.drawn })
          else none
      | none => none
  | .redis cmd =>
      match cmd.exec w.clock w.redis with
      | .ok (result, redis) => some (.ok result, { w with redis := redis })
      | .error _ => none
  | .issueOperatorToken _ _ _ => some (some [], w)
  | .recordAudit _ => some ((), w)

theorem serves_of_serveAtOnce {ids : List String} {e : Effect} {r : e.Reply}
    (h : serveAtOnce ids w e = some (r, w')) : Serves Timing.instant w e r w' := by
  cases e with
  | timeNow =>
      obtain ⟨rfl, rfl⟩ := Prod.mk.inj (Option.some.inj h)
      exact .timeNow rfl rfl
  | newUUID =>
      simp only [serveAtOnce] at h
      split at h
      · rename_i id _
        split_ifs at h with hnew
        obtain ⟨rfl, rfl⟩ := Prod.mk.inj (Option.some.inj h)
        exact .newUUID rfl hnew.1 (GoString.validUTF8_ofString id) hnew.2
      · cases h
  | redis cmd =>
      simp only [serveAtOnce] at h
      split at h
      · rename_i result redis hexec
        obtain ⟨rfl, rfl⟩ := Prod.mk.inj (Option.some.inj h)
        exact .redis rfl hexec
      · cases h
  | issueOperatorToken vehicleID operatorID access =>
      obtain ⟨rfl, rfl⟩ := Prod.mk.inj (Option.some.inj h)
      exact .issueOperatorToken _ rfl
  | recordAudit event =>
      obtain ⟨rfl, rfl⟩ := Prod.mk.inj (Option.some.inj h)
      exact .recordAudit rfl

end Serves

/-! ## The operations of the store -/

/-- The record of a vehicle whose grace period is over. -/
def VideoSession.settled (session : VideoSession) : VideoSession :=
  { session with mode := .standby, graceDeadlineMS := 0 }

/-- `w` once `session` has been saved at `t`, with some expiry in it. -/
def GatewayState.saved (w : GatewayState) (session : VideoSession) (expiresAtMS t : ℤ) :
    GatewayState :=
  { w with
    clock := t
    redis := w.redis.set (.videoSession session.vehicleID)
      ({ session with expiresAtMS := expiresAtMS } : VideoSession).marshal (t + videoSessionTTL) }

/-- A record as `save` leaves it. -/
def VideoSession.Kept (vehicleID : GoString) (record : VideoSession) : Prop :=
  record.vehicleID = vehicleID ∧ record.marshal = record

theorem VideoSession.marshal_marshal (session : VideoSession) :
    session.marshal.marshal = session.marshal := by
  simp [VideoSession.marshal]

theorem VideoSession.Kept.sessionID {vehicleID : GoString} {record : VideoSession}
    (h : record.Kept vehicleID) : record.sessionID.throughJSON = record.sessionID :=
  congrArg VideoSession.sessionID h.2

theorem VideoSession.kept_marshal {vehicleID : GoString} (hv : vehicleID.ValidUTF8)
    {session : VideoSession} (hvehicle : session.vehicleID = vehicleID) :
    session.marshal.Kept vehicleID := by
  refine ⟨?_, session.marshal_marshal⟩
  simp only [VideoSession.marshal, hvehicle]
  exact GoString.throughJSON_of_valid hv

/-- What `Get` may come to. -/
inductive Looks (T : Timing) (vehicleID : GoString) (w : GatewayState) :
    VideoSession → GatewayState → Prop
  | missing {t now : ℤ} : T.passes w.clock t → T.reads t now →
      (∃ c, T.passes w.clock c ∧ c ≤ t ∧ w.redis.get c (.videoSession vehicleID) = none) →
        Looks T vehicleID w (VideoSessionStore.standbySession vehicleID now) { w with clock := t }
  | steady {t : ℤ} {session : VideoSession} : T.passes w.clock t →
      w.redis.get t (.videoSession vehicleID) = some session →
        VideoSessionStore.inGrace session = false →
          Looks T vehicleID w session { w with clock := t }
  | waiting {c t now : ℤ} {session : VideoSession} : T.passes w.clock c → T.passes c t →
      T.reads t now → w.redis.get c (.videoSession vehicleID) = some session →
        VideoSessionStore.inGrace session = true → now < session.graceDeadlineMS →
          Looks T vehicleID w session { w with clock := t }
  | settled {c t now saved expiresAtMS : ℤ} {session : VideoSession} : T.passes w.clock c →
      T.passes c t → T.reads t now → T.passes t saved →
        w.redis.get c (.videoSession vehicleID) = some session →
          VideoSessionStore.inGrace session = true → session.graceDeadlineMS ≤ now →
            Looks T vehicleID w session.settled (w.saved session.settled expiresAtMS saved)

/-- Nothing that counts viewers or names the controller is different. -/
structure SameViewers (a b : VideoSession) : Prop where
  vehicleID : a.vehicleID = b.vehicleID
  sessionID : a.sessionID = b.sessionID
  viewerCount : a.viewerCount = b.viewerCount
  controllerSessionID : a.controllerSessionID = b.controllerSessionID

theorem Looks.found {T : Timing} {vehicleID : GoString} {w w' : GatewayState}
    {session : VideoSession} (h : Looks T vehicleID w session w') :
    ∃ c, T.passes w.clock c ∧
      ((w.redis.get c (.videoSession vehicleID) = none ∧
          ∃ now, session = VideoSessionStore.standbySession vehicleID now) ∨
        ∃ record, w.redis.get c (.videoSession vehicleID) = some record ∧
          SameViewers session record) := by
  cases h with
  | missing hpasses _ hnone =>
      obtain ⟨c, hc, -, hget⟩ := hnone
      exact ⟨c, hc, .inl ⟨hget, _, rfl⟩⟩
  | steady hpasses hget _ => exact ⟨_, hpasses, .inr ⟨_, hget, rfl, rfl, rfl, rfl⟩⟩
  | waiting hc _ _ hget _ _ => exact ⟨_, hc, .inr ⟨_, hget, rfl, rfl, rfl, rfl⟩⟩
  | settled hc _ _ _ hget _ _ => exact ⟨_, hc, .inr ⟨_, hget, rfl, rfl, rfl, rfl⟩⟩

/-- A look changes no other key. -/
theorem Looks.frame {T : Timing} {vehicleID : GoString} {w w' : GatewayState}
    {session : VideoSession} (h : Looks T vehicleID w session w') {k : RedisKey}
    (hk : k ≠ .videoSession session.vehicleID) : w'.redis k = w.redis k := by
  cases h with
  | missing _ _ _ => rfl
  | steady _ _ _ => rfl
  | waiting _ _ _ _ _ _ => rfl
  | settled _ _ _ _ _ _ _ => exact Store.set_apply_of_ne _ hk _ _

theorem Looks.passes {T : Timing} {vehicleID : GoString} {w w' : GatewayState}
    {session : VideoSession} (h : Looks T vehicleID w session w') : T.passes w.clock w'.clock := by
  cases h with
  | missing hpasses _ _ => exact hpasses
  | steady hpasses _ _ => exact hpasses
  | waiting hc ht _ _ _ _ => exact T.trans hc ht
  | settled hc ht _ hsaved _ _ _ => exact T.trans (T.trans hc ht) hsaved

namespace VideoSessionStore

variable [Cjson] {T : Timing} {w w' : GatewayState}

theorem completes_stamped {session session' : VideoSession}
    (h : Completes (Serves T) w (stamped session) session' w') :
    (w' = w ∨ ∃ t, T.passes w.clock t ∧ w' = { w with clock := t }) ∧
      ∃ expiresAtMS, session' = { session with expiresAtMS := expiresAtMS } := by
  unfold stamped at h
  split_ifs at h with hzero
  · obtain ⟨now, w₁, hnow, h⟩ := completes_call_iff.mp h
    obtain ⟨rfl, rfl⟩ := completes_pure_iff.mp h
    obtain ⟨t, hpasses, -, rfl⟩ := serves_timeNow_iff.mp hnow
    exact ⟨.inr ⟨t, hpasses, rfl⟩, _, rfl⟩
  · obtain ⟨rfl, rfl⟩ := completes_pure_iff.mp h
    exact ⟨.inl rfl, session'.expiresAtMS, rfl⟩

theorem completes_save {session : VideoSession} {result : Except VideoSessionError Unit}
    (h : Completes (Serves T) w (save session) result w') :
    ∃ expiresAtMS t, T.passes w.clock t ∧ result = .ok () ∧
      w' = w.saved session expiresAtMS t := by
  obtain ⟨session', w₁, hstamped, h⟩ := completes_bind_iff.mp h
  obtain ⟨hw₁, expiresAtMS, rfl⟩ := completes_stamped hstamped
  obtain ⟨reply, w₂, hset, h⟩ := completes_call_iff.mp h
  obtain ⟨t, hpasses, -, rfl, rfl⟩ := serves_set_iff.mp hset
  obtain ⟨rfl, rfl⟩ := completes_pure_iff.mp h
  rcases hw₁ with rfl | ⟨t₁, hpasses₁, rfl⟩
  · exact ⟨expiresAtMS, t, hpasses, rfl, rfl⟩
  · exact ⟨expiresAtMS, t, T.trans hpasses₁ hpasses, rfl, rfl⟩

theorem completes_andSave {session : VideoSession}
    {result : Except VideoSessionError VideoSession}
    (h : Completes (Serves T) w (andSave session) result w') :
    ∃ expiresAtMS t, T.passes w.clock t ∧ result = .ok session ∧
      w' = w.saved session expiresAtMS t := by
  obtain ⟨saved, w₁, hsave, h⟩ := completes_bind_iff.mp h
  obtain ⟨expiresAtMS, t, hpasses, rfl, rfl⟩ := completes_save hsave
  obtain ⟨rfl, rfl⟩ := completes_pure_iff.mp h
  exact ⟨expiresAtMS, t, hpasses, rfl, rfl⟩

theorem completes_get {vehicleID : GoString} {result : Except VideoSessionError VideoSession}
    (h : Completes (Serves T) w (get vehicleID) result w') :
    ∃ session, result = .ok session ∧ Looks T vehicleID w session w' := by
  obtain ⟨reply, w₁, hget, h⟩ := completes_call_iff.mp h
  obtain ⟨c, hpasses, rfl, rfl⟩ := serves_get_iff.mp hget
  cases hfound : w.redis.get c (.videoSession vehicleID) with
  | none =>
      rw [hfound] at h
      obtain ⟨now, w₂, hnow, h⟩ := completes_call_iff.mp h
      obtain ⟨t, hpasses', hreads, rfl⟩ := serves_timeNow_iff.mp hnow
      obtain ⟨rfl, rfl⟩ := completes_pure_iff.mp h
      exact ⟨_, rfl, .missing (T.trans hpasses hpasses') hreads
        ⟨c, hpasses, T.forward hpasses', hfound⟩⟩
  | some session =>
      rw [hfound] at h
      simp only [Program.bind] at h
      split_ifs at h with hgrace
      · obtain ⟨now, w₂, hnow, h⟩ := completes_call_iff.mp h
        obtain ⟨t, hpasses', hreads, rfl⟩ := serves_timeNow_iff.mp hnow
        simp only [Program.bind] at h
        split_ifs at h with hover
        · obtain ⟨expiresAtMS, saved, hsaved, rfl, rfl⟩ := completes_andSave h
          exact ⟨_, rfl, .settled hpasses hpasses' hreads hsaved hfound hgrace hover⟩
        · obtain ⟨rfl, rfl⟩ := completes_pure_iff.mp h
          exact ⟨_, rfl, .waiting hpasses hpasses' hreads hfound hgrace (not_le.mp hover)⟩
      · obtain ⟨rfl, rfl⟩ := completes_pure_iff.mp h
        exact ⟨_, rfl, .steady hpasses hfound ((Bool.not_eq_true _).mp hgrace)⟩

theorem completes_named {session session' : VideoSession}
    (h : Completes (Serves T) w (named session) session' w') :
    (session.sessionID ≠ [] ∧ session' = session ∧ w' = w) ∨
      ∃ (sessionID : GoString) (createdAtMS t : ℤ), session.sessionID = [] ∧ T.passes w.clock t ∧
        sessionID.ValidUTF8 ∧ sessionID ≠ [] ∧
        session' = { session with sessionID := sessionID, createdAtMS := createdAtMS } ∧
          w' = { w with clock := t, drawn := sessionID :: w.drawn } := by
  unfold named at h
  split_ifs at h with hempty
  · obtain ⟨id, w₁, hnew, h⟩ := completes_call_iff.mp h
    obtain ⟨now, w₂, hnow, h⟩ := completes_call_iff.mp h
    obtain ⟨t, hpasses', -, rfl⟩ := serves_timeNow_iff.mp hnow
    obtain ⟨rfl, rfl⟩ := completes_pure_iff.mp h
    cases hnew with
    | newUUID hpasses hfresh hvalid hne =>
        exact .inr ⟨id, now, t, hempty, T.trans hpasses hpasses', hvalid, hne, rfl, rfl⟩
  · obtain ⟨rfl, rfl⟩ := completes_pure_iff.mp h
    exact .inl ⟨hempty, rfl, rfl⟩

theorem completes_saveAfterViewerChange {s : VideoSessionStore} {session : VideoSession}
    {result : Except VideoSessionError VideoSession}
    (h : Completes (Serves T) w (s.saveAfterViewerChange session) result w') :
    ∃ session' expiresAtMS t, T.passes w.clock t ∧ result = .ok session' ∧
      w' = w.saved session' expiresAtMS t ∧
      ((session.viewerCount = 0 ∧ session.controllerSessionID = [] ∧
          ∃ c now, T.passes w.clock c ∧ T.reads c now ∧
            session' = { session with mode := .active, graceDeadlineMS := now + s.gracePeriod }) ∨
        ¬(session.viewerCount = 0 ∧ session.controllerSessionID = []) ∧ session' = session) := by
  unfold saveAfterViewerChange at h
  split_ifs at h with hidle
  · obtain ⟨now, w₁, hnow, h⟩ := completes_call_iff.mp h
    obtain ⟨c, hpasses, hreads, rfl⟩ := serves_timeNow_iff.mp hnow
    obtain ⟨expiresAtMS, t, hpasses', rfl, rfl⟩ := completes_andSave h
    exact ⟨_, expiresAtMS, t, T.trans hpasses hpasses', rfl, rfl,
      .inl ⟨hidle.1, hidle.2, c, now, hpasses, hreads, rfl⟩⟩
  · obtain ⟨expiresAtMS, t, hpasses, rfl, rfl⟩ := completes_andSave h
    exact ⟨_, expiresAtMS, t, hpasses, rfl, rfl, .inr ⟨hidle, rfl⟩⟩

/-- What `AcquireViewer` does: the record counts one viewer more, and the index names the
vehicle. -/
theorem completes_acquireViewer {s : VideoSessionStore} {vehicleID : GoString}
    {result : Except VideoSessionError VideoSession}
    (h : Completes (Serves T) w (s.acquireViewer vehicleID) result w') :
    ∃ old w₁ session expiresAtMS t, Looks T vehicleID w old w₁ ∧ result = .ok session ∧
      T.passes w₁.clock t ∧ T.passes t w'.clock ∧ session.vehicleID = old.vehicleID ∧
      session.viewerCount = old.viewerCount + 1 ∧
      session.controllerSessionID = old.controllerSessionID ∧
      (session.sessionID = old.sessionID ∧ old.sessionID ≠ [] ∨
        session.sessionID.ValidUTF8 ∧ session.sessionID ≠ [] ∧ old.sessionID = []) ∧
      w'.redis = ((w₁.saved session expiresAtMS t).redis.set (.videoViewer session.sessionID)
        vehicleID (w'.clock + (s.gracePeriod + 60 * 60 * 1000))) := by
  obtain ⟨looked, w₁, hget, h⟩ := completes_bind_iff.mp h
  obtain ⟨old, rfl, hlooks⟩ := completes_get hget
  obtain ⟨named, w₂, hnamed, h⟩ := completes_bind_iff.mp h
  obtain ⟨reply, w₃, hsave, h⟩ := completes_bind_iff.mp h
  obtain ⟨expiresAtMS, t, hpasses, rfl, rfl⟩ := completes_save hsave
  obtain ⟨indexed, w₄, hset, h⟩ := completes_call_iff.mp h
  obtain ⟨t', hpasses', -, rfl, rfl⟩ := serves_set_iff.mp hset
  obtain ⟨rfl, rfl⟩ := completes_pure_iff.mp h
  rcases completes_named hnamed with
    ⟨hne, rfl, rfl⟩ | ⟨sessionID, createdAtMS, c, hempty, hc, hvalid, hne, rfl, rfl⟩
  · exact ⟨_, _, _, expiresAtMS, t, hlooks, rfl, hpasses, hpasses', rfl, rfl, rfl,
      .inl ⟨rfl, hne⟩, rfl⟩
  · exact ⟨_, _, _, expiresAtMS, t, hlooks, rfl, T.trans hc hpasses, hpasses', rfl, rfl, rfl,
      .inr ⟨hvalid, hne, hempty⟩, rfl⟩

/-- What `ReleaseViewer` does once it has read the index. -/
theorem completes_releaseViewer_of_index {s : VideoSessionStore} {sessionID vehicleID : GoString}
    {next : Except RedisError (Option GoString) → GatewayProgram _}
    (hnext : s.releaseViewer sessionID = .call (.redis (.get (.videoViewer sessionID))) next)
    {result : Except VideoSessionError VideoSession}
    (h : Completes (Serves T) w (next (.ok (some vehicleID))) result w') :
    ∃ old w₁ session expiresAtMS, Looks T vehicleID w old w₁ ∧ result = .ok session ∧
      T.passes w₁.clock w'.clock ∧ session.vehicleID = old.vehicleID ∧
      session.sessionID = old.sessionID ∧
      session.viewerCount =
        (if old.viewerCount > 0 then old.viewerCount - 1 else old.viewerCount) ∧
      session.controllerSessionID = old.controllerSessionID ∧
      w'.redis = (({ w₁ with redis := w₁.redis.del (.videoViewer sessionID) } :
        GatewayState).saved session expiresAtMS w'.clock).redis := by
  obtain ⟨-, hnext⟩ := Program.call.inj hnext
  obtain rfl := eq_of_heq hnext
  change Completes (Serves T) w (get vehicleID >>= _) result w' at h
  obtain ⟨looked, w₁, hget, h⟩ := completes_bind_iff.mp h
  obtain ⟨old, rfl, hlooks⟩ := completes_get hget
  obtain ⟨deleted, w₂, hdel, h⟩ := completes_call_iff.mp h
  obtain ⟨t, hpasses, rfl, rfl⟩ := serves_del_iff.mp hdel
  obtain ⟨session, expiresAtMS, t', hpasses', rfl, rfl, hsession⟩ :=
    completes_saveAfterViewerChange h
  rcases hsession with ⟨hcount, hcontroller, c, now, -, -, rfl⟩ | ⟨-, rfl⟩
  · exact ⟨old, w₁, _, expiresAtMS, hlooks, rfl, T.trans hpasses hpasses', rfl, rfl, rfl, rfl,
      rfl⟩
  · exact ⟨old, w₁, _, expiresAtMS, hlooks, rfl, T.trans hpasses hpasses', rfl, rfl, rfl, rfl,
      rfl⟩

end VideoSessionStore

end RemoteInfra.Gateway
