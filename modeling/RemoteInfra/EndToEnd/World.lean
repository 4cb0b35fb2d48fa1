import RemoteInfra.Gateway.HandlerLeases
import RemoteInfra.Vehicle.Watchdog

/-!
# Gateway and vehicle together

The gateway's handlers, one vehicle that polls them, and whoever sends packets.  A vehicle's
refresh ends with anything, but with a 200 answer only if a handler gave that answer, however
long ago.
-/

namespace RemoteInfra.EndToEnd

open RemoteInfra.Library RemoteInfra.Python RemoteInfra.Gateway RemoteInfra.Vehicle

/-! ## Answers on their way from Go to Python -/

/-- A Go string as Python reads it out of the JSON that Go wrote. -/
def toPy (s : GoString) : PyStr :=
  s.map fun
    | .rune c => .scalar c
    | .stray _ => .scalar (Char.ofNat 0xFFFD)

@[simp] theorem toPy_throughJSON (s : GoString) : toPy s.throughJSON = toPy s := by
  simp only [toPy, GoString.throughJSON, List.map_map]
  refine List.map_congr_left fun u _ ↦ ?_
  cases u <;> rfl

/-- Strings that JSON keeps arrive as different strings. -/
theorem toPy_injOn {s t : GoString} (hs : s.ValidUTF8) (ht : t.ValidUTF8)
    (h : toPy s = toPy t) : s = t := by
  induction s generalizing t with
  | nil =>
      cases t with
      | nil => rfl
      | cons u t => simp [toPy] at h
  | cons u s ih =>
      cases t with
      | nil => simp [toPy] at h
      | cons v t =>
          obtain ⟨c, rfl⟩ := hs u (by simp)
          obtain ⟨d, rfl⟩ := ht v (by simp)
          obtain ⟨hhead, htail⟩ := List.cons.inj h
          obtain rfl := PyChar.scalar.inj hhead
          rw [ih (fun w hw ↦ hs w (by simp [hw])) (fun w hw ↦ ht w (by simp [hw])) htail]

def statusText : ControlSessionStatus → String
  | .active => "ACTIVE"
  | .released => "RELEASED"
  | .expired => "EXPIRED"
  | .revoked => "REVOKED"

def controlSessionJSON (s : ControlSession) : PyValue :=
  .dict
    [(PyStr.ofString "session_id", .str (toPy s.sessionID)),
      (PyStr.ofString "vehicle_id", .str (toPy s.vehicleID)),
      (PyStr.ofString "operator_id", .str (toPy s.operatorID)),
      (PyStr.ofString "public_key_b64", .str (toPy s.publicKeyB64)),
      (PyStr.ofString "status", .str (PyStr.ofString (statusText s.status))),
      (PyStr.ofString "created_at_ms", .int s.createdAtMS),
      (PyStr.ofString "expires_at_ms", .int s.expiresAtMS)]

/-- `controlSessionResponse`, whose last two fields are left out when empty. -/
def controlSessionResponse (s : ControlSession) (token : GoString) (renewAfterMS : ℤ) :
    PyValue :=
  .dict ([(PyStr.ofString "session", controlSessionJSON s)] ++
    (if token = [] then [] else [(PyStr.ofString "token", .str (toPy token))]) ++
    (if renewAfterMS = 0 then [] else [(PyStr.ofString "renew_after_ms", .int renewAfterMS)]))

/-- The session the vehicle makes of an answer. -/
def activeSession (s : ControlSession) : ActiveControlSession where
  sessionID := .str (toPy s.sessionID)
  vehicleID := .str (toPy s.vehicleID)
  operatorID := .str (toPy s.operatorID)
  publicKeyB64 := .str (toPy s.publicKeyB64)
  status := .str (PyStr.ofString (statusText s.status))
  expiresAtMS := s.expiresAtMS

theorem readSession_controlSessionResponse [PythonPlatform] (s : ControlSession)
    (token : GoString) (renewAfterMS : ℤ) :
    SessionCommandVerifier.readSession (controlSessionResponse s token renewAfterMS) =
      .ok (activeSession s) :=
  rfl

/-! ## The world -/

structure World where
  gateway : GatewayPool GatewayCall HTTPResponse
  vehicle : RuntimeState

inductive WorldLabel
  | gateway (l : GatewayLabel GatewayCall)
  | vehicle (l : RuntimeLabel)
  /-- whoever has the private key signs a text -/
  | sign (key : VerifyKey) (message : List Char)

/-- A 200 answer to the vehicle is one that a handler gave. -/
def Authentic (w : World) : RuntimeLabel → Prop
  | .finishRefresh _ (.answered 200 payload) _ =>
      ∃ (j : ℕ) (r : VehicleRequest) (session : ControlSession) (token : GoString)
        (renewAfterMS : ℤ),
        w.gateway.pool[j]? = some (.getControl r, .pure ⟨200, .control session token renewAfterMS⟩) ∧
          payload = controlSessionResponse session token renewAfterMS
  | _ => True

inductive World.Step [Cjson] [PythonPlatform] [Ed25519] (g : GatewayConfig) (timeoutMS : ℚ) :
    World → WorldLabel → World → Prop
  | gateway {w : World} {l : GatewayLabel GatewayCall} {p : GatewayPool GatewayCall HTTPResponse} :
      (handlerPool g).system.Step w.gateway l p →
        Step g timeoutMS w (.gateway l) { w with gateway := p }
  | vehicle {w : World} {l : RuntimeLabel} {st : RuntimeState} :
      Authentic w l → RuntimeState.Step timeoutMS w.vehicle l st →
        Step g timeoutMS w (.vehicle l) { w with vehicle := st }
  | sign {w : World} {key : VerifyKey} {message : List Char} :
      Step g timeoutMS w (.sign key message) w

def worldSystem [Cjson] [PythonPlatform] [Ed25519] (g : GatewayConfig) (timeoutMS : ℚ) :
    TransitionSystem World WorldLabel where
  Init w := (handlerPool g).system.Init w.gateway ∧ w.vehicle.Initial
  Step := World.Step g timeoutMS

def World.verifier (w : World) : SessionCommandVerifier := w.vehicle.runtime.verifier

def gatewayLabel : WorldLabel → Option (GatewayLabel GatewayCall)
  | .gateway l => some l
  | _ => none

/-- The gateway's part of a history. -/
def gatewayLabels (ls : List WorldLabel) : List (GatewayLabel GatewayCall) :=
  ls.filterMap gatewayLabel

@[simp] theorem gatewayLabels_append (ls ls' : List WorldLabel) :
    gatewayLabels (ls ++ ls') = gatewayLabels ls ++ gatewayLabels ls' :=
  List.filterMap_append

@[simp] theorem gatewayLabels_nil : gatewayLabels [] = [] := rfl

@[simp] theorem gatewayLabels_gateway (l : GatewayLabel GatewayCall) (ls : List WorldLabel) :
    gatewayLabels (.gateway l :: ls) = l :: gatewayLabels ls := rfl

@[simp] theorem gatewayLabels_vehicle (l : RuntimeLabel) (ls : List WorldLabel) :
    gatewayLabels (.vehicle l :: ls) = gatewayLabels ls := rfl

@[simp] theorem gatewayLabels_sign (key : VerifyKey) (message : List Char)
    (ls : List WorldLabel) : gatewayLabels (.sign key message :: ls) = gatewayLabels ls := rfl

@[simp] theorem gatewayLabels_map (ls : List (GatewayLabel GatewayCall)) :
    gatewayLabels (ls.map .gateway) = ls := by
  induction ls with
  | nil => rfl
  | cons l ls ih => exact congrArg (l :: ·) ih

theorem mem_gatewayLabels {ls : List WorldLabel} {l : GatewayLabel GatewayCall} :
    l ∈ gatewayLabels ls ↔ .gateway l ∈ ls := by
  simp only [gatewayLabels, List.mem_filterMap]
  constructor
  · rintro ⟨m, hm, heq⟩
    cases m with
    | gateway k =>
        obtain rfl := Option.some.inj heq
        exact hm
    | vehicle | sign => cases heq
  · intro h
    exact ⟨_, h, rfl⟩

section Runs

variable [Cjson] [PythonPlatform] [Ed25519] {g : GatewayConfig} {timeoutMS : ℚ}
  {C : TransitionSystem.StepCondition World WorldLabel} {ls : List WorldLabel} {w : World}

/-- The gateway's part of a run is a run of the gateway. -/
theorem gatewayRun_of_run
    {D : TransitionSystem.StepCondition (GatewayPool GatewayCall HTTPResponse)
      (GatewayLabel GatewayCall)}
    (himp : ∀ ls w l, C ls w (.gateway l) → D (gatewayLabels ls) w.gateway l)
    (hrun : (worldSystem g timeoutMS).RunWhere C ls w) :
    (handlerPool g).system.RunWhere D (gatewayLabels ls) w.gateway := by
  induction hrun with
  | init h => exact .init h.1
  | step _ hcond hstep ih =>
      rw [gatewayLabels_append]
      cases hstep with
      | gateway hgateway => exact .step ih (himp _ _ _ hcond) hgateway
      | vehicle | sign => simpa using ih

/-- A run of the gateway is a run of the world in which the vehicle does nothing after what
it did first. -/
theorem run_of_gatewayRun
    {D : TransitionSystem.StepCondition (GatewayPool GatewayCall HTTPResponse)
      (GatewayLabel GatewayCall)}
    {first : List WorldLabel} {vehicle : RuntimeState}
    (hfirst : ∀ p, (handlerPool g).system.Init p →
      (worldSystem g timeoutMS).RunWhere C first ⟨p, vehicle⟩)
    (himp : ∀ ls p l, D ls p l → C (first ++ ls.map .gateway) ⟨p, vehicle⟩ (.gateway l))
    {ls : List (GatewayLabel GatewayCall)} {p : GatewayPool GatewayCall HTTPResponse}
    (hrun : (handlerPool g).system.RunWhere D ls p) :
    (worldSystem g timeoutMS).RunWhere C (first ++ ls.map .gateway) ⟨p, vehicle⟩ := by
  induction hrun with
  | init h => simpa using hfirst _ h
  | step _ hcond hstep ih =>
      rw [List.map_append, ← List.append_assoc]
      exact .step ih (himp _ _ _ hcond) (.gateway hstep)

/-- A run of the world goes on with whatever a schedule of the gateway plays. -/
theorem run_of_gatewayPlay {A : Type} (P : (handlerPool g).Player A)
    {D : TransitionSystem.StepCondition (GatewayPool GatewayCall HTTPResponse)
      (GatewayLabel GatewayCall)}
    (himp : ∀ ls w gls l, D gls w.gateway l → C ls w (.gateway l))
    (hrun : (worldSystem g timeoutMS).RunWhere C ls w)
    {gls gls' : List (GatewayLabel GatewayCall)} {p : GatewayPool GatewayCall HTTPResponse}
    {ts : List (Turn GatewayCall ℤ A)} (hplay : P.play gls w.gateway ts = some (gls', p))
    (hkeeps : P.Keeps D gls w.gateway ts) :
    ∃ new, gls' = gls ++ new ∧
      (worldSystem g timeoutMS).RunWhere C (ls ++ new.map .gateway) { w with gateway := p } := by
  induction ts generalizing gls ls w with
  | nil =>
      obtain ⟨rfl, rfl⟩ := Prod.mk.inj (Option.some.inj hplay)
      exact ⟨[], by simp, by simpa using hrun⟩
  | cons t ts ih =>
      simp only [PoolSystem.Player.play] at hplay
      simp only [PoolSystem.Player.Keeps] at hkeeps
      cases hturn : P.turn w.gateway t with
      | none => simp [hturn] at hplay
      | some next =>
          obtain ⟨l, q⟩ := next
          rw [hturn] at hplay hkeeps
          obtain ⟨hcond, hrest⟩ := hkeeps
          have hstep : (worldSystem g timeoutMS).RunWhere C (ls ++ [.gateway l])
              { w with gateway := q } :=
            .step hrun (himp _ _ _ _ hcond) (.gateway (P.turn_sound hturn))
          obtain ⟨new, rfl, hnew⟩ := ih hstep hplay hrest
          exact ⟨l :: new, by simp, by simpa using hnew⟩

end Runs

/-! ## What is loaded into the vehicle -/

/-- How a step of the vehicle changes what is loaded. -/
theorem loads_of_step [PythonPlatform] [Ed25519] {timeoutMS : ℚ} {st st' : RuntimeState}
    {l : RuntimeLabel} (h : RuntimeState.Step timeoutMS st l st') :
    st'.runtime.verifier.vehicleID = st.runtime.verifier.vehicleID ∧
      ((st'.runtime.verifier.session = st.runtime.verifier.session ∧
          st'.runtime.verifier.verifyKey = st.runtime.verifier.verifyKey) ∨
        st'.runtime.verifier.session = none ∨
        ∃ i payload result session key, l = .finishRefresh i (.answered 200 payload) result ∧
          SessionCommandVerifier.loadSession st.runtime.verifier.vehicleID payload =
            .ok (session, key) ∧
          st'.runtime.verifier.session = some session ∧
          st'.runtime.verifier.verifyKey = some key) := by
  cases h with
  | time | stop => exact ⟨rfl, .inl ⟨rfl, rfl⟩⟩
  | watchdog => exact ⟨by simp, .inl ⟨by simp, by simp⟩⟩
  | audit _ htake =>
      obtain ⟨-, rfl⟩ := Prod.mk.inj htake
      exact ⟨rfl, .inl ⟨rfl, rfl⟩⟩
  | @telemetry report r _ htake =>
      obtain rfl : st.runtime.takeTelemetry.2 = r := congrArg Prod.snd htake
      exact ⟨by simp, .inl ⟨by simp, by simp⟩⟩
  | beginRefresh hbegin =>
      obtain ⟨-, rfl⟩ := Prod.mk.inj hbegin
      exact ⟨rfl, .inr (.inl rfl)⟩
  | finishRefresh _ hfinish =>
      rcases SessionCommandVerifier.finishRefresh_cases hfinish with
        rfl | ⟨payload, session, key, rfl, -, hload, rfl⟩
      · exact ⟨rfl, .inl ⟨rfl, rfl⟩⟩
      · exact ⟨rfl, .inr (.inr ⟨_, payload, _, session, key, rfl, hload, rfl, rfl⟩)⟩
  | message hverify hmessage =>
      rcases SessionVehicleRuntime.onDatachannelMessage_cases hverify hmessage with
        ⟨packet, session, key, sequence, command, -, -, haccepts, hobeys⟩ |
          ⟨-, hverifier, -, rfl | rfl, -⟩
      · have hv := hobeys.verifier_eq
        rw [haccepts.state_eq] at hv
        exact ⟨by simp [hv], .inl ⟨by simp [hv], by simp [hv]⟩⟩
      · exact ⟨by simp [hverifier], .inl ⟨by simp [hverifier], by simp [hverifier]⟩⟩
      · refine ⟨by simp [hverifier, SessionCommandVerifier.clearSession], .inr (.inl ?_)⟩
        simp [hverifier, SessionCommandVerifier.clearSession]

/-- A read of the lease of `v` brought the session `s`. -/
def LeaseRead (ls : List WorldLabel) (v : GoString) (s : ControlSession) : Prop :=
  ∃ i c raw, .gateway (.exec i c (.redis (.get (.controlLease v))) (.ok (some raw))) ∈ ls ∧
    raw.session = s

/-- The loaded session and key are those of the session `s`, which was read from a lease. -/
structure Installed [PythonPlatform] (ls : List WorldLabel) (v : SessionCommandVerifier)
    (session : ActiveControlSession) (key : VerifyKey) (s : ControlSession) : Prop where
  read : ∃ leaseOf, LeaseRead ls leaseOf s
  session_eq : session = activeSession s
  vehicleID_eq : toPy s.vehicleID = v.vehicleID
  sessionKey_eq : SessionCommandVerifier.sessionKey session = .ok key

theorem LeaseRead.append {ls : List WorldLabel} {v : GoString} {s : ControlSession}
    (h : LeaseRead ls v s) (l : WorldLabel) : LeaseRead (ls ++ [l]) v s := by
  obtain ⟨i, c, raw, hmem, hsession⟩ := h
  exact ⟨i, c, raw, List.mem_append_left _ hmem, hsession⟩

/-- A 200 answer to a read of the lease carries a session that its handler read. -/
theorem read_of_answer [Cjson] [PythonPlatform] [Ed25519] {g : GatewayConfig}
    {timeoutMS : ℚ} {C : TransitionSystem.StepCondition World WorldLabel}
    {ls : List WorldLabel} {w : World} (hrun : (worldSystem g timeoutMS).RunWhere C ls w) {j : ℕ}
    {r : VehicleRequest} {session : ControlSession} {token : GoString} {renewAfterMS : ℤ}
    (hj : w.gateway.pool[j]? =
      some (.getControl r, .pure ⟨200, .control session token renewAfterMS⟩)) :
    ∃ raw, raw.session = session ∧ ⟨.redis (.get (.controlLease r.vehicleID)), .ok (some raw)⟩ ∈
      PoolSystem.trace j (gatewayLabels ls) := by
  have hgateway : (handlerPool g).system.Run (gatewayLabels ls) w.gateway :=
    gatewayRun_of_run (fun _ _ _ _ ↦ trivial) hrun
  have hreturns : GatewayCall.Returns (.getControl r) (PoolSystem.trace j (gatewayLabels ls))
      ⟨200, .control session token renewAfterMS⟩ :=
    Program.Meets.result ((PoolSystem.follows_of_run (GatewayCall.follows g) hgateway).2 j _ _ hj)
  obtain ⟨raw, s, hread, hraw, hbody⟩ := hreturns r rfl rfl
  obtain ⟨rfl, -, -⟩ := ResponseBody.control.inj hbody
  unfold ControlSessionJSON.unmarshal at hraw
  split_ifs at hraw
  exact ⟨raw, Option.some.inj hraw, hread⟩

/-- A 200 answer to the vehicle carries a session that was read. -/
theorem leaseRead_of_answer [Cjson] [PythonPlatform] [Ed25519] {g : GatewayConfig}
    {timeoutMS : ℚ} {C : TransitionSystem.StepCondition World WorldLabel}
    {ls : List WorldLabel} {w : World} (hrun : (worldSystem g timeoutMS).RunWhere C ls w) {i : ℕ}
    {payload : PyValue} {result : Except PyExc Unit}
    (hauthentic : Authentic w (.finishRefresh i (.answered 200 payload) result)) :
    ∃ leaseOf s, LeaseRead ls leaseOf s ∧
      SessionCommandVerifier.readSession payload = .ok (activeSession s) := by
  obtain ⟨j, r, session, token, renewAfterMS, hj, rfl⟩ := hauthentic
  obtain ⟨raw, hsession, hread⟩ := read_of_answer hrun hj
  obtain ⟨c, hmem⟩ := PoolSystem.mem_trace.mp hread
  exact ⟨_, session, ⟨j, c, raw, mem_gatewayLabels.mp hmem, hsession⟩,
    readSession_controlSessionResponse session token renewAfterMS⟩

/-- Whatever is loaded into the vehicle was read from a lease. -/
theorem installed_of_run [Cjson] [PythonPlatform] [Ed25519] {g : GatewayConfig}
    {timeoutMS : ℚ} {C : TransitionSystem.StepCondition World WorldLabel}
    {ls : List WorldLabel} {w : World} (hrun : (worldSystem g timeoutMS).RunWhere C ls w)
    {session : ActiveControlSession} {key : VerifyKey}
    (hsession : w.verifier.session = some session) (hkey : w.verifier.verifyKey = some key) :
    ∃ s, Installed ls w.verifier session key s := by
  suffices h : ∀ session key, w.verifier.session = some session →
      w.verifier.verifyKey = some key → ∃ s, Installed ls w.verifier session key s from
    h session key hsession hkey
  clear hsession hkey session key
  refine hrun.invariant (P := fun ls w ↦ ∀ session key, w.verifier.session = some session →
    w.verifier.verifyKey = some key → ∃ s, Installed ls w.verifier session key s) ?_ ?_
  · rintro w ⟨-, ⟨vehicleID, maxAgeMS, maxFutureSkewMS, hruntime⟩, -⟩ session key hsession -
    simp [World.verifier, hruntime, SessionVehicleRuntime.new, SessionCommandVerifier.new]
      at hsession
  · intro ls w l w' hrun ih _ hstep session key hsession hkey
    have hkeep : ∀ l, w'.verifier.vehicleID = w.verifier.vehicleID →
        w.verifier.session = some session → w.verifier.verifyKey = some key →
          ∃ s, Installed (ls ++ [l]) w'.verifier session key s := by
      intro l hvehicle hsession hkey
      obtain ⟨s, ⟨leaseOf, hread⟩, heq, hvehicle', hpublic⟩ := ih session key hsession hkey
      exact ⟨s, ⟨leaseOf, hread.append l⟩, heq, hvehicle'.trans hvehicle.symm, hpublic⟩
    cases hstep with
    | gateway | sign => exact hkeep _ rfl hsession hkey
    | vehicle hauthentic hvehicle =>
        obtain ⟨hid, ⟨hsame, hsameKey⟩ | hnone |
          ⟨i, payload, result, loaded, loadedKey, rfl, hload, hloaded, hloadedKey⟩⟩ :=
          loads_of_step hvehicle
        · exact hkeep _ hid (hsame.symm.trans hsession) (hsameKey.symm.trans hkey)
        · cases hnone.symm.trans hsession
        · obtain rfl := Option.some.inj (hloaded.symm.trans hsession)
          obtain rfl := Option.some.inj (hloadedKey.symm.trans hkey)
          obtain ⟨leaseOf, s, hread, hanswer⟩ := leaseRead_of_answer hrun hauthentic
          obtain ⟨hreads, hvehicleID, -, hpublic⟩ := SessionCommandVerifier.loadSession_ok hload
          obtain rfl := Except.ok.inj (hreads.symm.trans hanswer)
          exact ⟨s, ⟨leaseOf, hread.append _⟩, rfl,
            (PyValue.str.inj hvehicleID).trans hid.symm, hpublic⟩

end RemoteInfra.EndToEnd
