import RemoteInfra.Gateway.HandlerLeases
import RemoteInfra.Gateway.LeaseIntegrity

/-!
# What guards a vehicle

Several gateway processes, each with its own access list, share one Redis.  Requests that
name a vehicle are checked against the list of the process that handles them; requests that
name a session are checked against the operator of the session, whom some process admitted.
-/

namespace RemoteInfra.Gateway

open RemoteInfra.Library Program

/-- A request to a process, given by its configuration. -/
abbrev FleetCall := GatewayConfig × GatewayCall

def fleetPool [Cjson] : PoolSystem GatewayState FleetCall ℤ Effect Effect.Reply HTTPResponse :=
  gatewayPool fun c ↦ c.2.handle c.1

/-! ## What a success shows -/

/-- Whatever the program asks for. -/
abbrev AsksAny : List GatewayEvent → Effect → Prop := fun _ _ ↦ True

section Following

variable {α β : Type} {Q : List GatewayEvent → β → Prop} {tr : List GatewayEvent}

/-- A part of a handler whose effects do not matter for what the handler shows. -/
theorem follows_any_bind {p : GatewayProgram α} {f : α → GatewayProgram β}
    (hf : ∀ a evs, (f a).Follows AsksAny Q (tr ++ evs)) : (p >>= f).Follows AsksAny Q tr := by
  refine Follows.bind (Follows.mono ?_ ((OnlyAsks.of_true p).follows fun _ _ _ ↦ trivial))
  rintro tr' a ⟨evs, rfl, -⟩
  exact hf a evs

theorem follows_of_always (p : GatewayProgram β) (h : ∀ tr b, Q tr b) : p.Follows AsksAny Q tr :=
  Follows.mono (fun tr' b _ ↦ h tr' b) ((OnlyAsks.of_true p).follows fun _ _ _ ↦ trivial)

end Following

/-- A lookup in the trace found the session `sessionID` to be the operator's. -/
def FoundOwned (tr : List GatewayEvent) (sessionID operatorID : GoString)
    (session : ControlSession) : Prop :=
  session.sessionID = sessionID ∧ session.operatorID = operatorID ∧
    ∃ v raw, ⟨.redis (.get (.controlLease v)), .ok (some raw)⟩ ∈ tr ∧ raw.session = session

/-- What a successful answer to the call shows, by the call's own trace. -/
def GatewayCall.Shows (g : GatewayConfig) (tr : List GatewayEvent) :
    GatewayCall → HTTPResponse → Prop
  | .acquireControl r, response => response.status = 200 →
      canControl r.claims = true ∧
        g.vehicleAuthorizer.authorize r.claims r.vehicleID .control = true
  | .renewControl r, response => response.status = 200 → ∃ session expiresAt,
      FoundOwned tr r.sessionID r.claims.name session ∧
        response.body = .control { session with expiresAtMS := expiresAt } []
          (g.controlLeases.ttl.tdiv 2)
  | .releaseControl r, response => response.status = 204 → ∃ session n,
      FoundOwned tr r.sessionID r.claims.name session ∧
        ⟨.redis (.releaseScript session.vehicleID r.sessionID r.sessionID r.claims.name),
          .ok (n : ℤ)⟩ ∈ tr ∧ 0 < n
  | .getControl r, response => response.status = 200 →
      r.mayObserve g = true ∨ vehicleSelfMatches r.claims r.vehicleID g.vehicleIdentities = true
  | .acquireVideo r, response => response.status = 200 → r.mayObserve g = true
  | .getVideo r, response => response.status = 200 →
      r.mayObserve g = true ∨ hasRole r.claims.roles (GoString.ofString "vehicle") = true
  | .releaseVideo _, _ => True

section Shows

variable {g : GatewayConfig}

theorem session_of_unmarshal {raw : ControlSessionJSON} {session : ControlSession}
    (h : raw.unmarshal = some session) : raw.session = session := by
  unfold ControlSessionJSON.unmarshal at h
  split_ifs at h
  exact Option.some.inj h

theorem renewControlSession_shows (s : ControlLeaseStore) (sessionID operatorID : GoString)
    (tr : List GatewayEvent) :
    (s.renewControlSession sessionID operatorID).Follows AsksAny
      (fun tr' result ↦ ∀ renewed, result = .ok renewed → ∃ session expiresAt,
        FoundOwned tr' sessionID operatorID session ∧
          renewed = { session with expiresAtMS := expiresAt }) tr := by
  unfold ControlLeaseStore.renewControlSession
  refine follows_getSessionByID_bind (fun _ _ ↦ trivial) ?_ ?_
  · intro e evs _
    exact Follows.pure (by simp)
  · intro v raw session hraw hid
    dsimp only
    split_ifs with howner
    · exact Follows.pure (by simp)
    · refine follows_timeNow_bind trivial fun now ↦ follows_runRedis_bind trivial fun reply ↦ ?_
      rcases reply with error | result
      · exact Follows.pure (by simp)
      · dsimp only
        split_ifs
        · exact Follows.pure (by simp)
        · exact Follows.pure (by simp)
        · refine Follows.pure ?_
          rintro renewed ⟨⟩
          exact ⟨session, _, ⟨hid, not_not.mp howner, v, raw, by simp, session_of_unmarshal hraw⟩,
            rfl⟩

theorem releaseControlSession_shows (sessionID operatorID : GoString) (tr : List GatewayEvent) :
    (ControlLeaseStore.releaseControlSession sessionID operatorID).Follows AsksAny
      (fun tr' result ↦ result = .ok () → ∃ session n,
        FoundOwned tr' sessionID operatorID session ∧
          ⟨.redis (.releaseScript session.vehicleID sessionID sessionID operatorID),
            .ok (n : ℤ)⟩ ∈ tr' ∧ 0 < n) tr := by
  unfold ControlLeaseStore.releaseControlSession
  refine follows_getSessionByID_bind (fun _ _ ↦ trivial) ?_ ?_
  · intro e evs _
    exact Follows.pure (by simp)
  · intro v raw session hraw hid
    dsimp only
    split_ifs with howner
    · exact Follows.pure (by simp)
    · refine follows_runRedis_bind trivial fun reply ↦ ?_
      rcases reply with error | result
      · exact Follows.pure (by simp)
      · dsimp only
        split_ifs with hzero hneg
        · exact Follows.pure (by simp)
        · exact Follows.pure (by simp)
        · have hpos : 0 < (result : ℤ) := lt_of_le_of_ne (not_lt.mp hneg) (Ne.symm hzero)
          refine Follows.pure fun _ ↦ ?_
          exact ⟨session, result,
            ⟨hid, not_not.mp howner, v, raw, by simp, session_of_unmarshal hraw⟩, by simp, hpos⟩

theorem AcquireControlRequest.check_error_status {r : AcquireControlRequest}
    {response : HTTPResponse} (h : r.check g = .error response) : response.status ≠ 200 := by
  unfold check at h
  split_ifs at h
  · cases h; decide
  · cases h; decide
  · cases h; decide
  · cases h; decide
  · split at h
    · cases h; decide
    · split_ifs at h
      cases h; decide

theorem handleAcquireControl_shows (r : AcquireControlRequest) :
    (handleAcquireControl g r).Follows AsksAny
      (fun tr ↦ (GatewayCall.acquireControl r).Shows g tr) [] := by
  unfold handleAcquireControl
  split
  · rename_i response hcheck
    exact Follows.pure fun hstatus ↦ absurd hstatus (r.check_error_status hcheck)
  · rename_i publicKeyB64 hcheck
    have hadmitted := AcquireControlRequest.admitted_of_check hcheck
    exact follows_of_always _ fun _ _ _ ↦ ⟨hadmitted.canControl_eq, hadmitted.authorize_eq⟩

theorem handleRenewControl_shows (r : SessionRequest) :
    (handleRenewControl g r).Follows AsksAny
      (fun tr ↦ (GatewayCall.renewControl r).Shows g tr) [] := by
  unfold handleRenewControl
  split_ifs
  · exact Follows.pure fun h ↦ by cases h
  · refine Follows.bind (Follows.mono ?_ (renewControlSession_shows _ _ _ _))
    intro tr result hresult
    rcases result with e | renewed
    · exact Follows.pure fun h ↦ absurd h (controlSessionErrorResponse_status e).1
    · obtain ⟨session, expiresAt, ⟨hid, howner, v, raw, hread, hsession⟩, rfl⟩ :=
        hresult renewed rfl
      refine follows_recordAudit_bind trivial (Follows.pure fun _ ↦ ?_)
      exact ⟨session, expiresAt, ⟨hid, howner, v, raw, by simp [hread], hsession⟩, rfl⟩

theorem handleReleaseControl_shows (r : SessionRequest) :
    (handleReleaseControl g r).Follows AsksAny
      (fun tr ↦ (GatewayCall.releaseControl r).Shows g tr) [] := by
  unfold handleReleaseControl
  split_ifs
  · exact Follows.pure fun h ↦ by cases h
  · refine follows_getSessionByID_bind (fun _ _ ↦ trivial) ?_ ?_
    · intro e evs _
      exact Follows.pure fun h ↦ absurd h (controlSessionErrorResponse_status e).2
    · intro u raw₀ found hfound hfoundID
      refine Follows.bind (Follows.mono ?_ (releaseControlSession_shows _ _ _))
      intro tr result hresult
      rcases result with e | ⟨⟩
      · exact Follows.pure fun h ↦ absurd h (controlSessionErrorResponse_status e).2
      · obtain ⟨session, n, ⟨hid, howner, v, raw, hread, hsession⟩, hscript, hpos⟩ := hresult rfl
        rw [hfoundID] at hid hscript
        refine follows_any_bind fun cleared evs ↦ ?_
        rcases cleared with e | cleared
        · exact Follows.pure fun h ↦ by cases h
        · refine follows_recordAudit_bind trivial (Follows.pure fun _ ↦ ?_)
          exact ⟨session, n, ⟨hid, howner, v, raw, by simp [hread], hsession⟩, by simp [hscript],
            hpos⟩

/-- Every handler shows what its success takes. -/
theorem GatewayCall.shows_of_handle (g : GatewayConfig) (c : GatewayCall) :
    (c.handle g).Follows AsksAny (fun tr ↦ c.Shows g tr) [] := by
  cases c with
  | acquireControl r => exact handleAcquireControl_shows r
  | renewControl r => exact handleRenewControl_shows r
  | releaseControl r => exact handleReleaseControl_shows r
  | releaseVideo r =>
      exact follows_of_always _ fun _ _ ↦ trivial
  | getControl r =>
      change (handleGetControl g r).Follows _ _ _
      unfold handleGetControl
      split_ifs with hmethod hrefused
      · exact Follows.pure fun h ↦ by cases h
      · exact Follows.pure fun h ↦ by cases h
      · have hmay : r.mayObserve g = true ∨
            vehicleSelfMatches r.claims r.vehicleID g.vehicleIdentities = true := by
          by_contra hnone
          push Not at hnone
          simp [hnone.1, hnone.2] at hrefused
        exact follows_of_always _ fun _ _ _ ↦ hmay
  | acquireVideo r =>
      change (handleAcquireVideo g r).Follows _ _ _
      unfold handleAcquireVideo
      split_ifs with hrefused
      · exact Follows.pure fun h ↦ by cases h
      · have hmay : r.mayObserve g = true := by simpa using hrefused
        exact follows_of_always _ fun _ _ _ ↦ hmay
  | getVideo r =>
      change (handleGetVideo g r).Follows _ _ _
      unfold handleGetVideo
      split_ifs with hrefused
      · exact Follows.pure fun h ↦ by cases h
      · have hmay : r.mayObserve g = true ∨
            hasRole r.claims.roles (GoString.ofString "vehicle") = true := by
          by_contra hnone
          push Not at hnone
          simp [hnone.1, hnone.2] at hrefused
        exact follows_of_always _ fun _ _ _ ↦ hmay

end Shows

/-! ## Runs of the fleet -/

/-- The session is the operator's, and was acquired for its vehicle by a request of the same
operator that passed the checks of the process that handled it. -/
structure AdmittedSession (ls : List (GatewayLabel FleetCall)) (sessionID operatorID : GoString)
    (session : ControlSession) : Prop where
  sessionID_eq : session.sessionID = sessionID
  operatorID_eq : session.operatorID = operatorID
  acquired : ∃ g r publicKeyB64, .spawn (g, .acquireControl r) ∈ ls ∧ r.Admitted g publicKeyB64 ∧
    r.vehicleID = session.vehicleID ∧ r.claims.name = operatorID

/-- What must be so when the process `g` answers the call with success. -/
def GatewayCall.Guarded (ls : List (GatewayLabel FleetCall)) (g : GatewayConfig) :
    GatewayCall → HTTPResponse → Prop
  | .acquireControl r, response => response.status = 200 →
      canControl r.claims = true ∧
        g.vehicleAuthorizer.authorize r.claims r.vehicleID .control = true
  | .renewControl r, response => response.status = 200 → ∃ session expiresAt,
      AdmittedSession ls r.sessionID r.claims.name session ∧
        response.body = .control { session with expiresAtMS := expiresAt } []
          (g.controlLeases.ttl.tdiv 2)
  | .releaseControl r, response => response.status = 204 → ∃ session i c n,
      AdmittedSession ls r.sessionID r.claims.name session ∧
        .exec i c (.redis (.releaseScript session.vehicleID r.sessionID r.sessionID
          r.claims.name)) (.ok (n : ℤ)) ∈ ls ∧ 0 < n
  | .getControl r, response => response.status = 200 →
      r.mayObserve g = true ∨ vehicleSelfMatches r.claims r.vehicleID g.vehicleIdentities = true
  | .acquireVideo r, response => response.status = 200 → r.mayObserve g = true
  | .getVideo r, response => response.status = 200 →
      r.mayObserve g = true ∨ hasRole r.claims.roles (GoString.ofString "vehicle") = true
  | .releaseVideo _, _ => True

section Runs

variable [Cjson] {C : TransitionSystem.StepCondition (GatewayPool FleetCall HTTPResponse)
    (GatewayLabel FleetCall)}
  {ls : List (GatewayLabel FleetCall)} {st : GatewayPool FleetCall HTTPResponse}

/-- A session that was read from a lease is one that an admitted request acquired. -/
theorem admitted_of_read (hrun : fleetPool.system.RunWhere C ls st) {i : ℕ} {c : FleetCall}
    {v : GoString} {raw : ControlSessionJSON}
    (hread : .exec i c (.redis (.get (.controlLease v))) (.ok (some raw)) ∈ ls) :
    AdmittedSession ls raw.session.sessionID raw.session.operatorID raw.session := by
  have hlooks : LooksFirstAlways fun c : FleetCall ↦ c.2.handle c.1 :=
    fun c ↦ GatewayCall.looksFirst c.1 c.2
  obtain ⟨j, ⟨g, d⟩, indexOf, payload, px, vehicleID, reply, -, hmem, hsession⟩ :=
    leaseOrigin_of_read hlooks hrun hread
  obtain ⟨hspawned, before, -, hasks⟩ := PoolSystem.asks_of_mem (S := fleetPool)
    (fun c ↦ GatewayCall.follows c.1 c.2) hrun hmem
  cases hasks with
  | safe h => cases h with | video h => cases h
  | acquire r publicKeyB64 sessionID now hcall hadmitted _ =>
      obtain rfl : d = .acquireControl r := hcall
      have hvehicle := VehicleAuthorizer.validUTF8_of_authorize hadmitted.authorize_eq
      have hname := VehicleAuthorizer.validName_of_authorize hadmitted.authorize_eq
      refine ⟨rfl, rfl, g, r, publicKeyB64, hspawned, hadmitted, ?_, ?_⟩
      · rw [hsession]
        exact (GoString.throughJSON_of_valid hvehicle).symm
      · rw [hsession]
        exact (GoString.throughJSON_of_valid hname).symm

theorem admitted_of_found (hrun : fleetPool.system.RunWhere C ls st) {i : ℕ}
    {sessionID operatorID : GoString} {session : ControlSession}
    (h : FoundOwned (PoolSystem.trace i ls) sessionID operatorID session) :
    AdmittedSession ls sessionID operatorID session := by
  obtain ⟨rfl, rfl, v, raw, hread, rfl⟩ := h
  obtain ⟨c, hmem⟩ := PoolSystem.mem_trace.mp hread
  exact admitted_of_read hrun hmem

end Runs

/-- Whatever the access lists of the processes, a success is one that the handling process
allows the caller on the vehicle, or, for a session's renewal and release, one of the operator
whom some process allowed to acquire it. -/
theorem success_is_guarded [Cjson] {ls : List (GatewayLabel FleetCall)}
    {st : GatewayPool FleetCall HTTPResponse} (hrun : fleetPool.system.Run ls st) {i : ℕ}
    {g : GatewayConfig} {c : GatewayCall} {response : HTTPResponse}
    (hi : st.pool[i]? = some ((g, c), .pure response)) : c.Guarded ls g response := by
  have hshows : c.Shows g (PoolSystem.trace i ls) response :=
    ((PoolSystem.follows_of_run (S := fleetPool)
      (fun c ↦ GatewayCall.shows_of_handle c.1 c.2) hrun).2 i _ _ hi).result
  cases c with
  | acquireControl | getControl | acquireVideo | getVideo | releaseVideo => exact hshows
  | renewControl r =>
      intro hstatus
      obtain ⟨session, expiresAt, hfound, hbody⟩ := hshows hstatus
      exact ⟨session, expiresAt, admitted_of_found hrun hfound, hbody⟩
  | releaseControl r =>
      intro hstatus
      obtain ⟨session, n, hfound, hscript, hpos⟩ := hshows hstatus
      obtain ⟨d, hmem⟩ := PoolSystem.mem_trace.mp hscript
      exact ⟨session, i, d, n, admitted_of_found hrun hfound, hmem, hpos⟩

section Sample

/-- A process whose list no longer names alice. -/
def revokedGateway : GatewayConfig where
  controlLeases := sampleGateway.controlLeases
  videoSessions := sampleGateway.videoSessions
  vehicleAuthorizer := ⟨[], by simp, by simp, by simp⟩
  vehicleIdentities := sampleGateway.vehicleIdentities

def aliceAcquire : FleetCall := (sampleGateway, .acquireControl aliceRequest)

def aliceRenewal : FleetCall := (revokedGateway, .renewControl renewRequest)

def aliceWatched : VehicleRequest := ⟨.post, aliceRequest.claims, aliceRequest.vehicleID⟩

def aliceWatch : FleetCall := (sampleGateway, .acquireVideo aliceWatched)

abbrev FleetTurn := Turn FleetCall ℤ Answer

def fleetPlayer [Cjson] : fleetPool.Player Answer :=
  gatewayPlayer fun c : FleetCall ↦ c.2.handle c.1

/-- The processes before their first request. -/
def idleFleet : GatewayPool FleetCall HTTPResponse := ⟨⟨1, Store.empty, []⟩, []⟩

theorem run_of_fleetPlay [Cjson] {ts : List FleetTurn} {ls : List (GatewayLabel FleetCall)}
    {st : GatewayPool FleetCall HTTPResponse}
    (hplay : fleetPlayer.play [] idleFleet ts = some (ls, st)) : fleetPool.system.Run ls st := by
  have hinit : fleetPool.system.Run [] idleFleet := .init ⟨rfl, rfl⟩
  exact fleetPlayer.run_of_play hinit hplay
    (fleetPlayer.keeps_of_forall (fun _ _ _ ↦ trivial) _ _ _)

/-- Alice acquires at one process and renews at the other. -/
def acquireThenRenew : List FleetTurn :=
  [.next 0 .served, .next 0 (.drew "s-1"), .next 0 .served, .start aliceRenewal] ++
    List.replicate 5 (.next 1 .served)

theorem aliceRenewal_run [Cjson] : ∃ ls st session, fleetPool.system.Run ls st ∧
    st.pool[1]? = some (aliceRenewal, .pure ⟨200, .control session [] 2500⟩) ∧
      session.vehicleID = aliceRequest.vehicleID := by
  obtain ⟨tail, htail⟩ := handleAcquireControl_of_check check_aliceRequest
  have hinit : fleetPool.system.Run [] ⟨⟨0, Store.empty, []⟩, []⟩ := .init ⟨rfl, rfl⟩
  have hspawn : fleetPool.system.Run [.spawn aliceAcquire]
      ⟨⟨0, Store.empty, []⟩, [(aliceAcquire, handleAcquireControl sampleGateway aliceRequest)]⟩ :=
    hinit.step trivial (.spawn _ _ _)
  rw [htail] at hspawn
  let asked : GatewayPool FleetCall HTTPResponse := ⟨⟨0, Store.empty, []⟩,
    [(aliceAcquire, .call .timeNow fun now ↦ .call .newUUID fun sessionID ↦
      .call (.redis (.acquireScript aliceRequest.vehicleID sessionID
        (aliceRequest.session sampleGateway leasedSession.publicKeyB64 sessionID now).marshal
        sampleGateway.controlLeases.ttl aliceRequest.vehicleID)) (tail now sessionID))]⟩
  obtain ⟨ls, st, session, hplay, hpool, hvehicle⟩ : ∃ ls st session,
      fleetPlayer.play [.spawn aliceAcquire] asked acquireThenRenew = some (ls, st) ∧
      st.pool[1]? = some (aliceRenewal, .pure ⟨200, .control session [] 2500⟩) ∧
      session.vehicleID = aliceRequest.vehicleID := ⟨_, _, _, rfl, rfl, rfl⟩
  have hkeeps := fleetPlayer.keeps_of_forall (fun _ _ _ ↦ trivial) [.spawn aliceAcquire] asked
    acquireThenRenew
  exact ⟨ls, st, session, fleetPlayer.run_of_play hspawn hplay hkeeps, hpool, hvehicle⟩

/-- Alice is served the car's video. -/
def watchServed : List FleetTurn :=
  [.start aliceWatch, .next 0 .served, .next 0 .served, .next 0 (.drew "v-1")] ++
    List.replicate 4 (.next 0 .served)

/-- A renewal that the lease guards, and a watch that the list does. -/
theorem success_is_guarded_alice :
    letI := Cjson.fourteenDigits
    (∃ ls st renewed session expiresAt, fleetPool.system.Run ls st ∧
      st.pool[1]? = some (aliceRenewal, .pure ⟨200, .control renewed [] 2500⟩) ∧
      AdmittedSession ls renewRequest.sessionID renewRequest.claims.name session ∧
      renewed = { session with expiresAtMS := expiresAt }) ∧
    (∃ ls st video, fleetPool.system.Run ls st ∧
      st.pool[0]? = some (aliceWatch, .pure ⟨200, video⟩)) ∧
    aliceWatched.mayObserve sampleGateway = true := by
  let := Cjson.fourteenDigits
  obtain ⟨ls, st, renewed, hrun, hpool, -⟩ := aliceRenewal_run
  obtain ⟨session, expiresAt, hadmitted, hbody⟩ := success_is_guarded hrun hpool rfl
  obtain ⟨hrenewed, -⟩ := ResponseBody.control.inj hbody
  obtain ⟨ls', st', video, hplay, hwatch⟩ : ∃ ls st video,
      fleetPlayer.play [] idleFleet watchServed = some (ls, st) ∧
      st.pool[0]? = some (aliceWatch, .pure ⟨200, video⟩) := ⟨_, _, _, rfl, rfl⟩
  have hrun' := run_of_fleetPlay hplay
  exact ⟨⟨ls, st, renewed, session, expiresAt, hrun, hpool, hadmitted, hrenewed⟩,
    ⟨ls', st', video, hrun', hwatch⟩, success_is_guarded hrun' hwatch rfl⟩

/-- A vehicle that asks for the video of another. -/
def otherVehicle : VehicleRequest where
  method := .get
  claims := ⟨GoString.ofString "car-002", [GoString.ofString "vehicle"], [], []⟩
  vehicleID := GoString.ofString "car-001"

def otherRead : FleetCall := (sampleGateway, .getVideo otherVehicle)

/-- Somebody without any role who has learnt the id of a video session. -/
def strangerRelease : SessionRequest where
  method := .post
  claims := ⟨GoString.ofString "mallory", [], [], []⟩
  sessionID := GoString.ofString "v-1"

def strangerCall : FleetCall := (sampleGateway, .releaseVideo strangerRelease)

def watchThenRelease : List FleetTurn :=
  watchServed ++ .start strangerCall :: List.replicate 6 (.next 1 .served)

/-- Successes that the handling process's list would not allow: a renewal once the list has
changed, a read of the video by another vehicle, and a release of the video by anybody. -/
theorem success_without_permission :
    letI := Cjson.fourteenDigits
    (∃ ls st session, fleetPool.system.Run ls st ∧
      st.pool[1]? = some (aliceRenewal, .pure ⟨200, .control session [] 2500⟩) ∧
      revokedGateway.vehicleAuthorizer.authorize renewRequest.claims session.vehicleID .control =
        false) ∧
    (∃ ls st session, fleetPool.system.Run ls st ∧
      st.pool[0]? = some (otherRead, .pure ⟨200, .video session⟩) ∧
      canObserve otherVehicle.claims = false ∧ vehicleSelfMatches otherVehicle.claims
        otherVehicle.vehicleID sampleGateway.vehicleIdentities = false) ∧
    ∃ ls st, fleetPool.system.Run ls st ∧
      st.pool[1]? = some (strangerCall, .pure ⟨204, .empty⟩) ∧
      canObserve strangerRelease.claims = false := by
  let := Cjson.fourteenDigits
  refine ⟨?_, ?_, ?_⟩
  · obtain ⟨ls, st, session, hrun, hpool, -⟩ := aliceRenewal_run
    refine ⟨ls, st, session, hrun, hpool, ?_⟩
    simp [VehicleAuthorizer.authorize, revokedGateway]
  · obtain ⟨ls, st, session, hplay, hpool⟩ : ∃ ls st session,
        fleetPlayer.play [] idleFleet [.start otherRead, .next 0 .served, .next 0 .served] =
          some (ls, st) ∧
        st.pool[0]? = some (otherRead, .pure ⟨200, .video session⟩) := ⟨_, _, _, rfl, rfl⟩
    exact ⟨ls, st, session, run_of_fleetPlay hplay, hpool, by decide +kernel, by decide +kernel⟩
  · obtain ⟨ls, st, hplay, hpool⟩ : ∃ ls st,
        fleetPlayer.play [] idleFleet watchThenRelease = some (ls, st) ∧
        st.pool[1]? = some (strangerCall, .pure ⟨204, .empty⟩) := ⟨_, _, rfl, rfl⟩
    exact ⟨ls, st, run_of_fleetPlay hplay, hpool, by decide +kernel⟩

end Sample

end RemoteInfra.Gateway
