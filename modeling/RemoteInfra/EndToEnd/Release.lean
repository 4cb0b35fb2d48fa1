import RemoteInfra.EndToEnd.Expiry
import RemoteInfra.Gateway.LeaseRelease

/-!
# Released sessions stay dead

The vehicle works from a copy of the lease until its next refresh.  A refresh that begins
after the release is answered from a read after the release, so from then on nothing of the
released session is accepted.
-/

namespace RemoteInfra.EndToEnd

open RemoteInfra.Library RemoteInfra.Python RemoteInfra.Gateway RemoteInfra.Vehicle

def isBeginRefresh : WorldLabel → Bool
  | .vehicle .beginRefresh => true
  | _ => false

/-- How many refreshes have begun. -/
def refreshes (ls : List WorldLabel) : ℕ := ls.countP isBeginRefresh

theorem refreshes_append (ls ls' : List WorldLabel) :
    refreshes (ls ++ ls') = refreshes ls + refreshes ls' :=
  List.countP_append

/-- Call `j` answers a request that was sent after refresh `i` began. -/
def SentDuring (ls : List WorldLabel) (i j : ℕ) : Prop :=
  ∃ before after, ls = before ++ .vehicle .beginRefresh :: after ∧ refreshes before = i ∧
    PoolSystem.trace j (gatewayLabels before) = []

/-- Asked of every step: the vehicle refreshes one at a time, and takes the answers to its own
requests only. -/
def RefreshesInTurn : TransitionSystem.StepCondition World WorldLabel
  | _, w, .vehicle .beginRefresh => ∀ refresh ∈ w.vehicle.flights, refresh = none
  | ls, w, .vehicle (.finishRefresh i (.answered 200 payload) _) =>
      ∃ (j : ℕ) (r : VehicleRequest) (session : ControlSession) (token : GoString)
        (renewAfterMS : ℤ), SentDuring ls i j ∧
        w.gateway.pool[j]? = some (.getControl r, .pure ⟨200, .control session token renewAfterMS⟩) ∧
          payload = controlSessionResponse session token renewAfterMS
  | _, _, _ => True

/-- The session in the vehicle was read from a lease since the last refresh began. -/
def LoadedSince (ls : List WorldLabel) (session : ActiveControlSession) : Prop :=
  ∃ before after i c v raw, ls = before ++ .vehicle .beginRefresh :: after ∧
    refreshes after = 0 ∧ session = activeSession raw.session ∧
    .gateway (.exec i c (.redis (.get (.controlLease v))) (.ok (some raw))) ∈ after

theorem LoadedSince.append {session : ActiveControlSession} (h : LoadedSince ls session)
    {l : WorldLabel} (hl : isBeginRefresh l = false) : LoadedSince (ls ++ [l]) session := by
  obtain ⟨before, after, i, c, v, raw, rfl, hlast, hsession, hread⟩ := h
  refine ⟨before, after ++ [l], i, c, v, raw, by simp, ?_, hsession, List.mem_append_left _ hread⟩
  rw [refreshes_append, hlast]
  simp [refreshes, hl]

section Runs

variable [Cjson] [PythonPlatform] [Ed25519] {g : GatewayConfig} {timeoutMS : ℚ}
  {ls : List WorldLabel} {w : World}

/-- Only the refresh that began last can be under way. -/
theorem lastRefresh_of_run (hrun : (worldSystem g timeoutMS).RunWhere RefreshesInTurn ls w) :
    w.vehicle.flights.length = refreshes ls ∧
      ∀ i refresh, w.vehicle.flights[i]? = some (some refresh) → i + 1 = refreshes ls := by
  refine hrun.invariant (P := fun ls w ↦ w.vehicle.flights.length = refreshes ls ∧
    ∀ i refresh, w.vehicle.flights[i]? = some (some refresh) → i + 1 = refreshes ls) ?_ ?_
  · rintro w ⟨-, -, hflights, -⟩
    simp [hflights, refreshes]
  · rintro ls w l w' - ⟨hlength, hlast⟩ hturn hstep
    have hkeep : isBeginRefresh l = false → refreshes (ls ++ [l]) = refreshes ls := by
      intro hl
      simp [refreshes, hl]
    cases hstep with
    | gateway | sign =>
        rw [hkeep rfl]
        exact ⟨hlength, hlast⟩
    | vehicle _ hvehicle =>
        cases hvehicle with
        | time | message | watchdog | audit | telemetry | stop =>
            rw [hkeep rfl]
            exact ⟨hlength, hlast⟩
        | finishRefresh =>
            rw [hkeep rfl]
            refine ⟨by simpa using hlength, fun i refresh hi ↦ ?_⟩
            rw [List.getElem?_set] at hi
            split_ifs at hi
            · simp at hi
            · exact hlast i refresh hi
        | beginRefresh hbegin =>
            have hnext : refreshes (ls ++ [.vehicle .beginRefresh]) = refreshes ls + 1 := by
              simp [refreshes, isBeginRefresh]
            rw [hnext]
            refine ⟨by simpa using hlength, fun i refresh hi ↦ ?_⟩
            rcases lt_or_ge i w.vehicle.flights.length with hlt | hge
            · rw [List.getElem?_append_left hlt] at hi
              cases hturn _ (List.mem_of_getElem? hi)
            · have hbound := (List.getElem?_eq_some_iff.mp hi).1
              simp only [List.length_append, List.length_singleton] at hbound
              omega

theorem loadedSince_of_run (hrun : (worldSystem g timeoutMS).RunWhere RefreshesInTurn ls w)
    {session : ActiveControlSession} (hsession : w.verifier.session = some session) :
    LoadedSince ls session := by
  suffices h : ∀ session, w.verifier.session = some session → LoadedSince ls session from
    h session hsession
  clear hsession session
  refine hrun.invariant
    (P := fun ls w ↦ ∀ session, w.verifier.session = some session → LoadedSince ls session) ?_ ?_
  · rintro w ⟨-, ⟨vehicleID, maxAgeMS, maxFutureSkewMS, hruntime⟩, -⟩ session hsession
    simp [World.verifier, hruntime, SessionVehicleRuntime.new, SessionCommandVerifier.new]
      at hsession
  · intro ls w l w' hrun ih hturn hstep session hsession
    have hstep' := hstep
    cases hstep with
    | gateway | sign => exact (ih session hsession).append rfl
    | @vehicle l st _ hvehicle =>
        obtain ⟨-, ⟨hsame, -⟩ | hnone | ⟨i, payload, result, loaded, key, rfl, hload, hloaded, -⟩⟩ :=
          loads_of_step hvehicle
        · have hold := ih session (hsame.symm.trans hsession)
          by_cases hbegin : isBeginRefresh (.vehicle l) = true
          · cases hvehicle with
            | beginRefresh h =>
                obtain ⟨-, rfl⟩ := Prod.mk.inj h
                simp [World.verifier, SessionCommandVerifier.clearSession] at hsession
            | _ => simp [isBeginRefresh] at hbegin
          · exact hold.append (by simpa using hbegin)
        · cases hnone.symm.trans hsession
        · obtain rfl := Option.some.inj (hloaded.symm.trans hsession)
          obtain ⟨j, r, s, token, renewAfterMS, ⟨before, after, hls, hi, hquiet⟩, hj, rfl⟩ := hturn
          obtain ⟨raw, rfl, hread⟩ := read_of_answer hrun hj
          obtain rfl := Except.ok.inj ((SessionCommandVerifier.loadSession_ok hload).1.symm.trans
            (readSession_controlSessionResponse raw.session token renewAfterMS))
          -- the refresh that ends is the last one, so the read came after it began
          have hlast : refreshes after = 0 := by
            cases hvehicle with
            | finishRefresh hflight _ =>
                have hcount := (lastRefresh_of_run hrun).2 i _ hflight
                rw [hls, refreshes_append, hi] at hcount
                simp only [refreshes, List.countP_cons, isBeginRefresh] at hcount ⊢
                simpa using hcount
          have hsplit : gatewayLabels ls = gatewayLabels before ++ gatewayLabels after := by
            rw [hls]
            simp
          rw [hsplit, PoolSystem.trace_append, hquiet, List.nil_append] at hread
          obtain ⟨c, hmem⟩ := PoolSystem.mem_trace.mp hread
          refine LoadedSince.append ?_ rfl
          exact ⟨before, after, j, c, _, raw, hls, hlast, rfl, mem_gatewayLabels.mp hmem⟩

end Runs

/-- Once a session is released, from the next refresh on the vehicle accepts no packet of
it. -/
theorem released_session_stays_dead [Cjson] [PythonPlatform] [Ed25519] {g : GatewayConfig}
    {timeoutMS : ℚ} {before after : List WorldLabel} {w : World}
    (hrun : (worldSystem g timeoutMS).RunWhere RefreshesInTurn
      (before ++ .vehicle .beginRefresh :: after) w)
    {sessionID : GoString} (hreleased : Released (gatewayLabels before) sessionID)
    (rawMessage senderIdentity : PyStr) :
    ¬ ∃ packet x w', (worldSystem g timeoutMS).Step w
        (.vehicle (.message rawMessage senderIdentity (.ok (some packet)))) w' ∧
      packet.getItem "session_id" = .ok x ∧ x.eq (.str (toPy sessionID)) = true := by
  rintro ⟨packet, x, w', hstep, hx, heq⟩
  obtain ⟨s, r, publicKeyB64, key, sequence, v, -, -, -, haccepts⟩ :=
    accepted_under_lease hrun hstep
  obtain ⟨before', after', i, c, u, raw, hls, hlast, hsession, hread⟩ :=
    loadedSince_of_run hrun haccepts.session_eq
  have hgateway : (handlerPool g).system.Run (gatewayLabels _) w.gateway :=
    gatewayRun_of_run (fun _ _ _ _ ↦ trivial) hrun
  -- the release came before the read
  have hsubset : before ⊆ before' := by
    rcases List.append_eq_append_iff.mp hls with ⟨mid, rfl, -⟩ | ⟨mid, rfl, hmid⟩
    · exact List.subset_append_left _ _
    · cases mid with
      | nil => simp
      | cons l mid =>
          obtain ⟨rfl, rfl⟩ := List.cons.inj hmid
          simp [refreshes, isBeginRefresh] at hlast
  obtain ⟨a₁, a₂, rfl⟩ := List.append_of_mem hread
  have hsplit : gatewayLabels (before ++ .vehicle .beginRefresh :: after) =
      gatewayLabels (before' ++ .vehicle .beginRefresh :: a₁) ++
        .exec i c (.redis (.get (.controlLease u))) (.ok (some raw)) :: gatewayLabels a₂ := by
    rw [hls]
    simp
  rw [hsplit] at hgateway
  have hearlier : Released (gatewayLabels (before' ++ .vehicle .beginRefresh :: a₁)) sessionID :=
    hreleased.mono fun l hl ↦
      mem_gatewayLabels.mpr (List.mem_append_left _ (hsubset (mem_gatewayLabels.mp hl)))
  have hne := read_ne_released hgateway hearlier
  have hvalid := valid_of_read hgateway (List.mem_append_right _ List.mem_cons_self)
  have hvalid' := valid_of_released hgateway (hearlier.mono (List.subset_append_left _ _))
  obtain ⟨y, hy, hyeq⟩ := haccepts.passes.sessionID
  obtain rfl := Except.ok.inj (hx.symm.trans hy)
  rw [hsession] at hyeq
  have hsame : toPy raw.session.sessionID = toPy sessionID := by
    rw [PyValue.eq_str_iff] at heq
    have hyeq' : x.eq (.str (toPy raw.session.sessionID)) = true := hyeq
    rw [PyValue.eq_str_iff] at hyeq'
    exact PyValue.str.inj (hyeq'.symm.trans heq)
  exact hne (toPy_injOn hvalid hvalid' hsame)

section Sample

/-! ## Alice releases between two refreshes -/

def aliceRelease : SessionRequest where
  method := .post
  claims := aliceRequest.claims
  sessionID := leasedSession.sessionID

/-- The vehicle has asked for the lease while alice acquired it, and loads what was read. -/
def loadedLabels : List WorldLabel :=
  ([.vehicle .beginRefresh] ++ sampleAcquire.map .gateway) ++
    [.vehicle (.finishRefresh 0 sampleAnswer (.ok ()))]

def releaseTurns : List (Turn GatewayCall ℤ Answer) :=
  .start (.releaseControl aliceRelease) :: List.replicate 5 (.next 2 .served)

theorem loaded_run [Cjson] : ∃ p,
    (@worldSystem _ PythonPlatform.ascii Ed25519.sample sampleGateway 300).RunWhere
      RefreshesInTurn loadedLabels
      ⟨leasedGateway 1050 p (.pure ⟨200, .control leasedSession [] 0⟩),
        sampleVehicle sampleVerifier [none]⟩ := by
  let := PythonPlatform.ascii
  let := Ed25519.sample
  obtain ⟨p, hgateway⟩ := sampleAcquire_run
  let gateway := leasedGateway 1050 p (.pure ⟨200, .control leasedSession [] 0⟩)
  have hbegin : ∀ q, (handlerPool sampleGateway).system.Init q →
      (worldSystem sampleGateway 300).RunWhere RefreshesInTurn [.vehicle .beginRefresh]
        ⟨q, sampleVehicle newVerifier [some ⟨.none, 0⟩]⟩ := by
    intro q hq
    have hinit : (worldSystem sampleGateway 300).RunWhere RefreshesInTurn []
        ⟨q, sampleVehicle newVerifier []⟩ := .init ⟨hq, ⟨_, _, _, rfl⟩, rfl, rfl, rfl⟩
    have hnone : RefreshesInTurn [] ⟨q, sampleVehicle newVerifier []⟩
        (.vehicle .beginRefresh) := by
      rintro refresh ⟨⟩
    exact .step hinit hnone (.vehicle trivial (.beginRefresh rfl))
  have hread : (worldSystem sampleGateway 300).RunWhere RefreshesInTurn
      ([.vehicle .beginRefresh] ++ sampleAcquire.map .gateway)
      ⟨gateway, sampleVehicle newVerifier [some ⟨.none, 0⟩]⟩ :=
    run_of_gatewayRun hbegin (fun _ _ _ _ ↦ trivial) hgateway
  have hauthentic : Authentic ⟨gateway, sampleVehicle newVerifier [some ⟨.none, 0⟩]⟩
      (.finishRefresh 0 sampleAnswer (.ok ())) :=
    ⟨1, pollRequest, leasedSession, [], 0, rfl, rfl⟩
  have hturn : RefreshesInTurn ([.vehicle .beginRefresh] ++ sampleAcquire.map .gateway)
      ⟨gateway, sampleVehicle newVerifier [some ⟨.none, 0⟩]⟩
      (.vehicle (.finishRefresh 0 sampleAnswer (.ok ()))) :=
    ⟨1, pollRequest, leasedSession, [], 0, ⟨[], _, rfl, rfl, rfl⟩, rfl, rfl⟩
  exact ⟨p, .step hread hturn
    (.vehicle hauthentic (.finishRefresh rfl finishRefresh_sampleAnswer))⟩

/-- The vehicle asks again. -/
def pollTurns : List (Turn GatewayCall ℤ Answer) :=
  [.start (.getControl pollRequest), .next 3 .served]

/-- Then alice releases, so that there is no lease the next time that the vehicle asks. -/
theorem released_run [Cjson] : ∃ ls q,
    (@worldSystem _ PythonPlatform.ascii Ed25519.sample sampleGateway 300).RunWhere
      RefreshesInTurn ls ⟨q, sampleVehicle sampleVerifier [none]⟩ ∧
    Released (gatewayLabels ls) leasedSession.sessionID ∧
    ∃ poll q' body, (gatewayPlayer (GatewayCall.handle sampleGateway)).play [] q pollTurns =
        some (poll, q') ∧
      q'.pool[3]? = some (.getControl pollRequest, .pure ⟨404, body⟩) := by
  let := PythonPlatform.ascii
  let := Ed25519.sample
  obtain ⟨p, hloaded⟩ := loaded_run
  let P := gatewayPlayer (GatewayCall.handle sampleGateway)
  obtain ⟨gls, q, hplay, hreleased, hpoll⟩ : ∃ gls q,
      P.play [] (leasedGateway 1050 p (.pure ⟨200, .control leasedSession [] 0⟩)) releaseTurns =
        some (gls, q) ∧ Released gls leasedSession.sessionID ∧
      ∃ poll q' body, P.play [] q pollTurns = some (poll, q') ∧
        q'.pool[3]? = some (.getControl pollRequest, .pure ⟨404, body⟩) :=
    ⟨_, _, rfl, ⟨2, _, _, _, _, _, rfl, List.mem_of_getElem? (i := 5) rfl⟩, _, _, _, rfl, rfl⟩
  have hkeeps : ∀ gls st ts, P.Keeps (fun _ _ _ ↦ True) gls st ts :=
    P.keeps_of_forall fun _ _ _ ↦ trivial
  obtain ⟨new, rfl, hrun⟩ := run_of_gatewayPlay P (fun _ _ _ _ _ ↦ trivial) hloaded hplay
    (hkeeps _ _ _)
  refine ⟨_, q, hrun, hreleased.mono fun l hl ↦ ?_, hpoll⟩
  rw [gatewayLabels_append, gatewayLabels_map]
  exact List.mem_append_right _ hl

/-- Until the next refresh the vehicle goes on to accept. -/
theorem released_session_accepted :
    letI := Cjson.fourteenDigits
    ∃ ls w w' packet x,
      (@worldSystem _ PythonPlatform.ascii Ed25519.sample sampleGateway 300).RunWhere
        RefreshesInTurn ls w ∧
      Released (gatewayLabels ls) leasedSession.sessionID ∧
      (@worldSystem _ PythonPlatform.ascii Ed25519.sample sampleGateway 300).Step w
        (.vehicle (.message sampleMessage sampleSender (.ok (some packet)))) w' ∧
      packet.getItem "session_id" = .ok x ∧
      x.eq (.str (toPy leasedSession.sessionID)) = true := by
  let := Cjson.fourteenDigits
  let := PythonPlatform.ascii
  let := Ed25519.sample
  obtain ⟨ls, q, hrun, hreleased, -⟩ := released_run
  have hvehicle : World.vehicle ⟨q, sampleVehicle sampleVerifier [none]⟩ =
      sampleVehicle sampleVerifier [none] := rfl
  obtain ⟨w', hstep⟩ := sampleWorld_accepts hvehicle
  exact ⟨ls, _, w', acceptedPacket, _, hrun, hreleased, hstep, rfl, rfl⟩

/-- The next refresh finds no lease, and a packet of the session that arrives is rejected. -/
theorem released_session_stays_dead_alice :
    letI := Cjson.fourteenDigits
    ∃ before w body, ∃ poll : List (GatewayLabel GatewayCall),
      (@worldSystem _ PythonPlatform.ascii Ed25519.sample sampleGateway 300).RunWhere
        RefreshesInTurn (before ++ .vehicle .beginRefresh :: (poll.map .gateway ++
          [.vehicle (.finishRefresh 1 (.answered 404 .none) (.ok ())),
            .vehicle (.message sampleMessage sampleSender (.ok none))])) w ∧
      Released (gatewayLabels before) leasedSession.sessionID ∧
      w.gateway.pool[3]? = some (.getControl pollRequest, .pure ⟨404, body⟩) ∧
      ¬ ∃ packet x w',
        (@worldSystem _ PythonPlatform.ascii Ed25519.sample sampleGateway 300).Step w
          (.vehicle (.message sampleMessage sampleSender (.ok (some packet)))) w' ∧
        packet.getItem "session_id" = .ok x ∧
        x.eq (.str (toPy leasedSession.sessionID)) = true := by
  let := Cjson.fourteenDigits
  let := PythonPlatform.ascii
  let := Ed25519.sample
  obtain ⟨ls, q, hrun, hreleased, poll, q', body, hplay, hanswer⟩ := released_run
  have hnone : RefreshesInTurn ls ⟨q, sampleVehicle sampleVerifier [none]⟩
      (.vehicle .beginRefresh) := by
    rintro refresh hrefresh
    exact List.mem_singleton.mp hrefresh
  have hbegun := hrun.step hnone (.vehicle trivial (.beginRefresh rfl))
  let P := gatewayPlayer (GatewayCall.handle sampleGateway)
  have hkeeps : ∀ gls st ts, P.Keeps (fun _ _ _ ↦ True) gls st ts :=
    P.keeps_of_forall fun _ _ _ ↦ trivial
  obtain ⟨_, rfl, hpolled⟩ := run_of_gatewayPlay P (fun _ _ _ _ _ ↦ trivial) hbegun hplay
    (hkeeps _ _ _)
  let cleared := sampleVerifier.clearSession
  have hfinish : (worldSystem sampleGateway 300).Step
      ⟨q', sampleVehicle cleared [none, some ⟨sampleSession.sessionID, 0⟩]⟩
      (.vehicle (.finishRefresh 1 (.answered 404 .none) (.ok ())))
      ⟨q', sampleVehicle cleared [none, none]⟩ :=
    .vehicle trivial (.finishRefresh rfl rfl)
  have hmessage : ∃ st, (worldSystem sampleGateway 300).Step ⟨q', sampleVehicle cleared [none, none]⟩
      (.vehicle (.message sampleMessage sampleSender (.ok none))) ⟨q', st⟩ :=
    ⟨_, .vehicle trivial (.message rfl rfl)⟩
  obtain ⟨st, hmessage⟩ := hmessage
  have hturn : ∀ ls w, RefreshesInTurn ls w
      (.vehicle (.finishRefresh 1 (.answered 404 .none) (.ok ()))) := fun _ _ ↦ trivial
  have hany : ∀ ls w, RefreshesInTurn ls w
      (.vehicle (.message sampleMessage sampleSender (.ok none))) := fun _ _ ↦ trivial
  have hrejected := (hpolled.step (hturn _ _) hfinish).step (hany _ _) hmessage
  simp only [List.append_assoc, List.nil_append, List.cons_append] at hrejected
  exact ⟨ls, _, body, _, hrejected, hreleased, hanswer,
    released_session_stays_dead hrejected hreleased _ _⟩

end Sample

end RemoteInfra.EndToEnd
