import RemoteInfra.Gateway.Handlers
import RemoteInfra.Gateway.LeaseHistory

/-!
# What the handlers ask of the leases

Of all handlers only an admitted acquire request runs the acquire script, for its own vehicle
and caller; every expiry that a script writes is a time the handler read plus the lease's
lifetime.
-/

namespace RemoteInfra.Gateway

open RemoteInfra.Library Program

section Following

variable {α : Type} {asks : List GatewayEvent → Effect → Prop}
  {Q : List GatewayEvent → α → Prop} {tr : List GatewayEvent}

theorem follows_issueOperatorToken_bind {vehicleID operatorID : GoString}
    {access : OperatorAccess} {f : Option GoString → GatewayProgram α}
    (h : asks tr (.issueOperatorToken vehicleID operatorID access))
    (hf : ∀ token,
      (f token).Follows asks Q (tr ++ [⟨.issueOperatorToken vehicleID operatorID access, token⟩])) :
    (issueOperatorToken vehicleID operatorID access >>= f).Follows asks Q tr :=
  Follows.call h hf

theorem follows_recordAudit_bind {event : AuditEvent} {f : Unit → GatewayProgram α}
    (h : asks tr (.recordAudit event))
    (hf : (f ()).Follows asks Q (tr ++ [⟨.recordAudit event, ()⟩])) :
    (recordAudit event >>= f).Follows asks Q tr :=
  Follows.call h fun _ ↦ hf

end Following

/-- The handlers over one Redis. -/
def handlerPool [Cjson] (g : GatewayConfig) :
    PoolSystem GatewayState GatewayCall ℤ Effect Effect.Reply HTTPResponse :=
  gatewayPool (GatewayCall.handle g)

/-- The effects of the video store. -/
inductive VideoEffect : Effect → Prop
  | timeNow : VideoEffect .timeNow
  | newUUID : VideoEffect .newUUID
  | get (k : RedisKey) : VideoEffect (.redis (.get k))
  | saveSession (v : GoString) (session : VideoSession) (px : ℤ) :
      VideoEffect (.redis (.set (.videoSession v) session px))
  | saveViewer (sessionID v : GoString) (px : ℤ) :
      VideoEffect (.redis (.set (.videoViewer sessionID) v px))
  | dropViewer (sessionID : GoString) : VideoEffect (.redis (.del (.videoViewer sessionID)))

/-- Effects that leave leases alone, or release them. -/
inductive LeaseSafe : Effect → Prop
  | video {e : Effect} (h : VideoEffect e) : LeaseSafe e
  | release (leaseOf sessionID operatorID : GoString) :
      LeaseSafe (.redis (.releaseScript leaseOf sessionID sessionID operatorID))
  | issueOperatorToken (vehicleID operatorID : GoString) (access : OperatorAccess) :
      LeaseSafe (.issueOperatorToken vehicleID operatorID access)
  | recordAudit (event : AuditEvent) : LeaseSafe (.recordAudit event)

/-- What a handler may ask of the leases, having gone through `tr`. -/
inductive AsksLease (g : GatewayConfig) (c : GatewayCall) (tr : List GatewayEvent) :
    Effect → Prop
  | safe {e : Effect} (h : LeaseSafe e) : AsksLease g c tr e
  | acquire (r : AcquireControlRequest) (publicKeyB64 sessionID : GoString) (now : ℤ)
      (hcall : c = .acquireControl r) (hadmitted : r.Admitted g publicKeyB64)
      (htrace : tr = [⟨.timeNow, now⟩, ⟨.newUUID, sessionID⟩]) :
      AsksLease g c tr (.redis (.acquireScript r.vehicleID sessionID
        (r.session g publicKeyB64 sessionID now).marshal g.controlLeases.ttl r.vehicleID))
  | renew (leaseOf sessionID operatorID : GoString) (now : ℤ)
      (hnow : ⟨.timeNow, now⟩ ∈ tr) :
      AsksLease g c tr (.redis (.renewScript leaseOf sessionID sessionID operatorID
        (now + g.controlLeases.ttl) g.controlLeases.ttl leaseOf))

/-- A 200 answer to a read of the lease carries a session that was read. -/
def GatewayCall.Returns (c : GatewayCall) (tr : List GatewayEvent) (response : HTTPResponse) :
    Prop :=
  ∀ r, c = .getControl r → response.status = 200 →
    ∃ raw session, ⟨.redis (.get (.controlLease r.vehicleID)), .ok (some raw)⟩ ∈ tr ∧
      raw.unmarshal = some session ∧ response.body = .control session [] 0

section Video

theorem onlyAsks_stamped (session : VideoSession) :
    OnlyAsks VideoEffect (VideoSessionStore.stamped session) := by
  unfold VideoSessionStore.stamped
  split_ifs
  · exact onlyAsks_timeNow_bind .timeNow fun now ↦ OnlyAsks.pure _
  · exact OnlyAsks.pure _

theorem onlyAsks_save (session : VideoSession) :
    OnlyAsks VideoEffect (VideoSessionStore.save session) := by
  refine (onlyAsks_stamped session).bind fun stamped ↦
    onlyAsks_runRedis_bind (.saveSession _ _ _) fun reply ↦ ?_
  rcases reply with error | _ <;> exact OnlyAsks.pure _

theorem onlyAsks_andSave (session : VideoSession) :
    OnlyAsks VideoEffect (VideoSessionStore.andSave session) := by
  refine (onlyAsks_save session).bind fun result ↦ ?_
  rcases result with error | _ <;> exact OnlyAsks.pure _

theorem onlyAsks_getVideo (vehicleID : GoString) :
    OnlyAsks VideoEffect (VideoSessionStore.get vehicleID) := by
  refine onlyAsks_runRedis_bind (.get _) fun reply ↦ ?_
  rcases reply with error | _ | session
  · exact OnlyAsks.pure _
  · exact onlyAsks_timeNow_bind .timeNow fun now ↦ OnlyAsks.pure _
  · dsimp only
    split_ifs
    · refine onlyAsks_timeNow_bind .timeNow fun now ↦ ?_
      split_ifs
      · exact onlyAsks_andSave _
      · exact OnlyAsks.pure _
    · exact OnlyAsks.pure _

theorem onlyAsks_named (session : VideoSession) :
    OnlyAsks VideoEffect (VideoSessionStore.named session) := by
  unfold VideoSessionStore.named
  split_ifs
  · exact onlyAsks_newUUID_bind .newUUID fun sessionID ↦
      onlyAsks_timeNow_bind .timeNow fun now ↦ OnlyAsks.pure _
  · exact OnlyAsks.pure _

theorem onlyAsks_acquireViewer (s : VideoSessionStore) (vehicleID : GoString) :
    OnlyAsks VideoEffect (s.acquireViewer vehicleID) := by
  refine (onlyAsks_getVideo vehicleID).bind fun result ↦ ?_
  rcases result with error | session
  · exact OnlyAsks.pure _
  · refine (onlyAsks_named session).bind fun session ↦ (onlyAsks_save _).bind fun saved ↦ ?_
    rcases saved with error | _
    · exact OnlyAsks.pure _
    · refine onlyAsks_runRedis_bind (.saveViewer _ _ _) fun reply ↦ ?_
      rcases reply with error | _ <;> exact OnlyAsks.pure _

theorem onlyAsks_saveAfterViewerChange (s : VideoSessionStore) (session : VideoSession) :
    OnlyAsks VideoEffect (s.saveAfterViewerChange session) := by
  unfold VideoSessionStore.saveAfterViewerChange
  split_ifs
  · exact onlyAsks_timeNow_bind .timeNow fun now ↦ onlyAsks_andSave _
  · exact onlyAsks_andSave _

theorem onlyAsks_releaseViewer (s : VideoSessionStore) (sessionID : GoString) :
    OnlyAsks VideoEffect (s.releaseViewer sessionID) := by
  refine onlyAsks_runRedis_bind (.get _) fun reply ↦ ?_
  rcases reply with error | _ | vehicleID
  · exact OnlyAsks.pure _
  · exact OnlyAsks.pure _
  · refine (onlyAsks_getVideo vehicleID).bind fun result ↦ ?_
    rcases result with error | session
    · exact OnlyAsks.pure _
    · exact onlyAsks_runRedis_bind (.dropViewer _) fun reply ↦ onlyAsks_saveAfterViewerChange s _

theorem onlyAsks_setController (vehicleID controlSessionID : GoString) :
    OnlyAsks VideoEffect (VideoSessionStore.setController vehicleID controlSessionID) := by
  refine (onlyAsks_getVideo vehicleID).bind fun result ↦ ?_
  rcases result with error | session
  · exact OnlyAsks.pure _
  · exact (onlyAsks_named session).bind fun session ↦ onlyAsks_andSave _

theorem onlyAsks_clearController (s : VideoSessionStore) (vehicleID controlSessionID : GoString) :
    OnlyAsks VideoEffect (s.clearController vehicleID controlSessionID) := by
  refine (onlyAsks_getVideo vehicleID).bind fun result ↦ ?_
  rcases result with error | session
  · exact OnlyAsks.pure _
  · exact onlyAsks_saveAfterViewerChange s _

end Video

section Lease

variable {g : GatewayConfig} {c : GatewayCall} {tr : List GatewayEvent}

/-- Video operations and releases, in the middle of a handler. -/
theorem follows_of_leaseSafe {α β : Type} {p : GatewayProgram α} {f : α → GatewayProgram β}
    {Q : List GatewayEvent → β → Prop} (hp : OnlyAsks LeaseSafe p)
    (hf : ∀ a evs, (f a).Follows (AsksLease g c) Q (tr ++ evs)) :
    (p >>= f).Follows (AsksLease g c) Q tr := by
  refine Follows.bind (Follows.mono ?_ (hp.follows fun _ _ he ↦ .safe he))
  rintro tr' a ⟨evs, rfl, -⟩
  exact hf a evs

theorem onlyAsks_releaseSafe (sessionID operatorID : GoString) :
    OnlyAsks LeaseSafe (ControlLeaseStore.releaseControlSession sessionID operatorID) :=
  ControlLeaseStore.onlyAsks_releaseControlSession (fun k ↦ .video (.get k))
    fun vehicleID ↦ .release vehicleID sessionID operatorID

theorem onlyAsks_getSessionByIDSafe (sessionID : GoString) :
    OnlyAsks LeaseSafe (ControlLeaseStore.getSessionByID sessionID) :=
  ControlLeaseStore.onlyAsks_getSessionByID (fun k ↦ .video (.get k)) sessionID

theorem onlyAsks_recordAudit (event : AuditEvent) : OnlyAsks LeaseSafe (recordAudit event) :=
  OnlyAsks.call (.recordAudit event) fun _ ↦ OnlyAsks.pure _

theorem videoSafe {α : Type} {p : GatewayProgram α} (h : OnlyAsks VideoEffect p) :
    OnlyAsks LeaseSafe p :=
  h.imp fun _ ↦ .video

/-- Handlers whose effects are all safe, whatever they return. -/
theorem follows_of_safe {p : GatewayProgram HTTPResponse} (hp : OnlyAsks LeaseSafe p)
    (hc : ∀ r, c ≠ .getControl r) : p.Follows (AsksLease g c) c.Returns tr :=
  Follows.mono (fun _ _ _ r hr ↦ absurd hr (hc r)) (hp.follows fun _ _ he ↦ .safe he)

theorem handleAcquireControl_follows (r : AcquireControlRequest) :
    (handleAcquireControl g r).Follows (AsksLease g (.acquireControl r))
      (GatewayCall.acquireControl r).Returns [] := by
  have hreturn : ∀ {tr : List GatewayEvent} (response : HTTPResponse),
      (Pure.pure response : GatewayProgram HTTPResponse).Follows
        (AsksLease g (.acquireControl r)) (GatewayCall.acquireControl r).Returns tr :=
    fun _ ↦ Follows.pure fun _ hr ↦ by cases hr
  unfold handleAcquireControl
  split
  · exact hreturn _
  · rename_i publicKeyB64 hcheck
    refine follows_timeNow_bind (.safe (.video .timeNow)) fun now ↦ ?_
    refine follows_newUUID_bind (.safe (.video .newUUID)) fun sessionID ↦ ?_
    refine Follows.bind (follows_runRedis_bind (.acquire r publicKeyB64 sessionID now rfl
      (AcquireControlRequest.admitted_of_check hcheck) rfl) fun reply ↦ ?_)
    rcases reply with error | result
    · exact Follows.pure (hreturn _)
    · refine Follows.pure ?_
      split
      · exact hreturn _
      · refine follows_of_leaseSafe (videoSafe (onlyAsks_setController _ _)) fun saved evs ↦ ?_
        rcases saved with error | session
        · exact follows_of_leaseSafe (onlyAsks_releaseSafe _ _) fun _ _ ↦ hreturn _
        · refine follows_issueOperatorToken_bind (.safe (.issueOperatorToken _ _ _))
            fun token ↦ ?_
          rcases token with _ | token
          · exact follows_of_leaseSafe (onlyAsks_releaseSafe _ _) fun _ _ ↦ hreturn _
          · exact follows_recordAudit_bind (.safe (.recordAudit _)) (hreturn _)

theorem handleRenewControl_follows (r : SessionRequest) :
    (handleRenewControl g r).Follows (AsksLease g (.renewControl r))
      (GatewayCall.renewControl r).Returns [] := by
  have hreturn : ∀ {tr : List GatewayEvent} (response : HTTPResponse),
      (Pure.pure response : GatewayProgram HTTPResponse).Follows
        (AsksLease g (.renewControl r)) (GatewayCall.renewControl r).Returns tr :=
    fun _ ↦ Follows.pure fun _ hr ↦ by cases hr
  unfold handleRenewControl
  split_ifs
  · exact hreturn _
  · unfold ControlLeaseStore.renewControlSession
    refine Follows.bind (follows_of_leaseSafe (onlyAsks_getSessionByIDSafe _) fun found evs ↦ ?_)
    rcases found with error | session
    · exact Follows.pure (hreturn _)
    · dsimp only
      split_ifs
      · exact Follows.pure (hreturn _)
      · refine follows_timeNow_bind (.safe (.video .timeNow)) fun now ↦ ?_
        refine follows_runRedis_bind (.renew _ _ _ now (by simp)) fun reply ↦ ?_
        rcases reply with error | result
        · exact Follows.pure (hreturn _)
        · dsimp only
          split_ifs
          · exact Follows.pure (hreturn _)
          · exact Follows.pure (hreturn _)
          · exact Follows.pure (follows_recordAudit_bind (.safe (.recordAudit _)) (hreturn _))

theorem handleGetControl_follows (r : VehicleRequest) :
    (handleGetControl g r).Follows (AsksLease g (.getControl r))
      (GatewayCall.getControl r).Returns [] := by
  have hrefuse : ∀ {tr : List GatewayEvent} {response : HTTPResponse}, response.status ≠ 200 →
      (Pure.pure response : GatewayProgram HTTPResponse).Follows
        (AsksLease g (.getControl r)) (GatewayCall.getControl r).Returns tr :=
    fun hstatus ↦ Follows.pure fun _ _ hok ↦ absurd hok hstatus
  unfold handleGetControl
  split_ifs
  · exact hrefuse (by decide)
  · exact hrefuse (by decide)
  · refine Follows.bind (follows_runRedis_bind (.safe (.video (.get _))) fun reply ↦ ?_)
    rcases reply with error | _ | raw
    · exact Follows.pure (hrefuse (by decide))
    · exact Follows.pure (hrefuse (by decide))
    · dsimp only
      cases hraw : raw.unmarshal with
      | none => exact Follows.pure (hrefuse (by decide))
      | some session =>
          refine Follows.pure (Follows.pure ?_)
          rintro r' ⟨⟩ -
          exact ⟨raw, session, by simp, hraw, rfl⟩

/-- Every handler keeps to what it may ask of the leases. -/
theorem GatewayCall.follows (g : GatewayConfig) (c : GatewayCall) :
    (c.handle g).Follows (AsksLease g c) c.Returns [] := by
  cases c with
  | acquireControl r => exact handleAcquireControl_follows r
  | renewControl r => exact handleRenewControl_follows r
  | getControl r => exact handleGetControl_follows r
  | releaseControl r =>
      refine follows_of_safe (p := handleReleaseControl g r) ?_ (by simp)
      unfold handleReleaseControl
      split_ifs
      · exact OnlyAsks.pure _
      · refine (onlyAsks_getSessionByIDSafe _).bind fun found ↦ ?_
        rcases found with error | session
        · exact OnlyAsks.pure _
        · refine (onlyAsks_releaseSafe _ _).bind fun released ↦ ?_
          rcases released with error | _
          · exact OnlyAsks.pure _
          · refine (videoSafe (onlyAsks_clearController _ _ _)).bind fun cleared ↦ ?_
            rcases cleared with error | _
            · exact OnlyAsks.pure _
            · exact (onlyAsks_recordAudit _).bind fun _ ↦ OnlyAsks.pure _
  | acquireVideo r =>
      refine follows_of_safe (p := handleAcquireVideo g r) ?_ (by simp)
      unfold handleAcquireVideo
      split_ifs
      · exact OnlyAsks.pure _
      · refine (videoSafe (onlyAsks_acquireViewer _ _)).bind fun acquired ↦ ?_
        rcases acquired with error | session
        · exact OnlyAsks.pure _
        · exact (onlyAsks_recordAudit _).bind fun _ ↦ OnlyAsks.pure _
  | releaseVideo r =>
      refine follows_of_safe ?_ (by simp)
      refine (videoSafe (onlyAsks_releaseViewer _ _)).bind fun released ↦ ?_
      rcases released with error | session
      · exact OnlyAsks.pure _
      · exact (onlyAsks_recordAudit _).bind fun _ ↦ OnlyAsks.pure _
  | getVideo r =>
      refine follows_of_safe (p := handleGetVideo g r) ?_ (by simp)
      unfold handleGetVideo
      split_ifs
      · exact OnlyAsks.pure _
      · refine (videoSafe (onlyAsks_getVideo _)).bind fun found ↦ ?_
        rcases found with error | session <;> exact OnlyAsks.pure _

end Lease

theorem AsksLease.not_overwritesLease {g : GatewayConfig} {c : GatewayCall}
    {tr : List GatewayEvent} {cmd : RedisCommand} (h : AsksLease g c tr (.redis cmd))
    (v : GoString) : ¬ cmd.OverwritesLease v := by
  rintro (⟨payload, px, rfl⟩ | rfl)
  all_goals
    cases h with
    | safe h => cases h with | video h => cases h

theorem GatewayCall.looksFirst (g : GatewayConfig) : LooksFirstAlways (GatewayCall.handle g) := by
  refine fun c ↦ (c.follows g).onlyAsks ?_
  rintro tr e he cmd v rfl
  exact he.not_overwritesLease v

section Runs

variable [Cjson] {g : GatewayConfig}
  {C : TransitionSystem.StepCondition (GatewayPool GatewayCall HTTPResponse)
    (GatewayLabel GatewayCall)}
  {ls : List (GatewayLabel GatewayCall)} {st st' : GatewayPool GatewayCall HTTPResponse}

theorem asksLease_of_step (hrun : (handlerPool g).system.RunWhere C ls st) {i : ℕ}
    {c : GatewayCall} {e : Effect} {r : e.Reply}
    (hstep : (handlerPool g).system.Step st (.exec i c e r) st') :
    AsksLease g c (PoolSystem.trace i ls) e := by
  cases hstep with
  | exec hi _ =>
      exact Program.Meets.allowed
        ((PoolSystem.follows_of_run (GatewayCall.follows g) hrun).2 i c _ hi)

/-- The acquire request `r` stored the session `s` on the lease of its vehicle; renewals may
have moved the expiry since. -/
structure AcquiredBy (g : GatewayConfig) (ls : List (GatewayLabel GatewayCall))
    (r : AcquireControlRequest) (publicKeyB64 : GoString) (s : ControlSession) : Prop where
  spawned : .spawn (.acquireControl r) ∈ ls
  admitted : r.Admitted g publicKeyB64
  stored : ∃ i sessionID now reply, scriptAnswer reply = some 1 ∧
    .exec i (.acquireControl r) (.redis (.acquireScript r.vehicleID sessionID
      (r.session g publicKeyB64 sessionID now).marshal g.controlLeases.ttl r.vehicleID)) reply ∈ ls ∧
    s = { (r.session g publicKeyB64 sessionID now).marshal.session with
      expiresAtMS := s.expiresAtMS }

/-- A lease that was ever read was stored by an acquire request for that vehicle. -/
theorem acquiredBy_of_read (hrun : (handlerPool g).system.RunWhere C ls st) {i : ℕ}
    {c : GatewayCall} {v : GoString} {raw : ControlSessionJSON}
    (hread : .exec i c (.redis (.get (.controlLease v))) (.ok (some raw)) ∈ ls) :
    ∃ r publicKeyB64, r.vehicleID = v ∧ AcquiredBy g ls r publicKeyB64 raw.session := by
  obtain ⟨j, d, indexOf, payload, px, vehicleID, reply, hreply, hmem, hsession⟩ :=
    leaseOrigin_of_read (GatewayCall.looksFirst g) hrun hread
  obtain ⟨hspawned, before, -, hasks⟩ := PoolSystem.asks_of_mem (GatewayCall.follows g) hrun hmem
  cases hasks with
  | safe h => cases h with | video h => cases h
  | acquire r publicKeyB64 sessionID now hcall hadmitted _ =>
      subst hcall
      exact ⟨r, publicKeyB64, rfl, hspawned, hadmitted, j, indexOf, now, reply, hreply, hmem,
        hsession⟩

end Runs

end RemoteInfra.Gateway
