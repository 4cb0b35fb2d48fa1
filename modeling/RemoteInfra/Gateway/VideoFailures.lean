import Mathlib.Data.Fintype.EquivFin
import RemoteInfra.Gateway.VideoRecords

/-!
# One call of the video store that meets failures

A call runs alone while Redis's clock stands still.  What becomes of its commands, and what
it reads off its own clock, is given beforehand, by number.
-/

namespace RemoteInfra.Gateway

open RemoteInfra.Library RemoteInfra.Library.Program

/-- How far a call has come. -/
structure Attempt where
  gateway : GatewayState
  commands : ℕ
  readings : ℕ

/-- What a call meets: the fate of each command, each reading of the process's clock, and what
signing a token comes to. -/
structure Circumstances where
  fates : ℕ → Fate
  clock : ℕ → ℤ
  token : Option GoString

namespace Attempt

inductive Step [Cjson] (x : Circumstances) (a : Attempt) :
    (e : Effect) → e.Reply → Attempt → Prop
  | redis {cmd : RedisCommand} {reply : Except RedisError cmd.Result} {w : GatewayState} :
      Faces Timing.instant a.gateway (x.fates a.commands) (.redis cmd) reply w →
        Step x a (.redis cmd) reply { a with gateway := w, commands := a.commands + 1 }
  /-- Redis itself turns the command down. -/
  | rejected {cmd : RedisCommand} {error : RedisError} :
      cmd.exec a.gateway.clock a.gateway.redis = .error error →
        Step x a (.redis cmd) (.error error) { a with commands := a.commands + 1 }
  | timeNow : Step x a .timeNow (x.clock a.readings) { a with readings := a.readings + 1 }
  | newUUID {id : GoString} : id ∉ a.gateway.drawn → id.ValidUTF8 → id ≠ [] →
      Step x a .newUUID id
        { a with gateway := { a.gateway with drawn := id :: a.gateway.drawn } }
  | issueOperatorToken {vehicleID operatorID : GoString} {access : OperatorAccess} :
      Step x a (.issueOperatorToken vehicleID operatorID access) x.token a
  | recordAudit {event : AuditEvent} : Step x a (.recordAudit event) () a

/-- What `p` may return, and leave, when it starts from `w`. -/
def Ends [Cjson] {α : Type} (x : Circumstances) (w : GatewayState)
    (p : GatewayProgram α) (result : α) (w' : GatewayState) : Prop :=
  ∃ commands readings,
    Completes (Step x) ⟨w, 0, 0⟩ p result ⟨w', commands, readings⟩

theorem exists_fresh (drawn : List GoString) :
    ∃ id : GoString, id ∉ drawn ∧ id.ValidUTF8 ∧ id ≠ [] := by
  obtain ⟨n, hn⟩ :=
    Infinite.exists_notMem_finset (drawn.map fun id ↦ id.length - 1).toFinset
  refine ⟨List.replicate (n + 1) (.rune 'a'), fun hmem ↦ hn ?_, fun u hu ↦ ?_, by simp⟩
  · refine List.mem_toFinset.mpr (List.mem_map.mpr ⟨_, hmem, ?_⟩)
    simp
  · exact ⟨'a', List.eq_of_mem_replicate hu⟩

section Total

variable [Cjson] (x : Circumstances)

/-- Every effect is answered. -/
theorem exists_step (a : Attempt) (e : Effect) : ∃ r a', Step x a e r a' := by
  cases e with
  | timeNow => exact ⟨_, _, .timeNow⟩
  | newUUID =>
      obtain ⟨id, hnew, hvalid, hne⟩ := exists_fresh a.gateway.drawn
      exact ⟨_, _, .newUUID hnew hvalid hne⟩
  | redis cmd =>
      cases hexec : cmd.exec a.gateway.clock a.gateway.redis with
      | error error => exact ⟨_, _, .rejected hexec⟩
      | ok ran =>
          obtain ⟨result, redis⟩ := ran
          obtain ⟨reply, w, hfaces⟩ : ∃ reply w,
              Faces Timing.instant a.gateway (x.fates a.commands) (.redis cmd) reply w := by
            cases x.fates a.commands with
            | done => exact ⟨_, _, .done (.redis rfl hexec)⟩
            | refused => exact ⟨.error .unavailable, _, .refused rfl⟩
            | lost => exact ⟨.error .unavailable, _, .lost rfl hexec⟩
          exact ⟨_, _, .redis hfaces⟩
  | issueOperatorToken => exact ⟨_, _, .issueOperatorToken⟩
  | recordAudit => exact ⟨_, _, .recordAudit⟩

theorem exists_completes {α : Type} (a : Attempt) (p : GatewayProgram α) :
    ∃ result a', Completes (Step x) a p result a' := by
  induction p generalizing a with
  | pure result => exact ⟨result, a, .pure a result⟩
  | call e next ih =>
      obtain ⟨r, a', hstep⟩ := exists_step x a e
      obtain ⟨result, a'', hrest⟩ := ih r a'
      exact ⟨result, a'', .call hstep hrest⟩

theorem exists_ends {α : Type} (w : GatewayState) (p : GatewayProgram α) :
    ∃ result w', Ends x w p result w' := by
  obtain ⟨result, a', hcompletes⟩ := exists_completes x ⟨w, 0, 0⟩ p
  exact ⟨result, a'.gateway, a'.commands, a'.readings, hcompletes⟩

end Total

/-! ## Single effects -/

section Effects

variable [Cjson] {x : Circumstances} {a a' : Attempt}

theorem step_timeNow {now : ℤ} (h : Step x a .timeNow now a') :
    now = x.clock a.readings ∧ a' = { a with readings := a.readings + 1 } := by
  cases h
  exact ⟨rfl, rfl⟩

theorem step_newUUID {id : GoString} (h : Step x a .newUUID id a') :
    id.ValidUTF8 ∧ id ≠ [] ∧
      a' = { a with gateway := { a.gateway with drawn := id :: a.gateway.drawn } } := by
  cases h with
  | newUUID hnew hvalid hne => exact ⟨hvalid, hne, rfl⟩

/-- A read returns what is there, or fails. -/
theorem step_get {k : RedisKey} {reply : Except RedisError (Option k.Value)}
    (h : Step x a (.redis (.get k)) reply a') :
    a' = { a with commands := a.commands + 1 } ∧
      (x.fates a.commands = .done ∧ reply = .ok (a.gateway.redis.get a.gateway.clock k) ∨
        x.fates a.commands ≠ .done ∧ ∃ error, reply = .error error) := by
  cases h with
  | rejected hexec => cases hexec
  | @redis _ _ w hfaces =>
      generalize hfate : x.fates a.commands = fate at hfaces
      cases hfaces with
      | done hserves =>
          obtain ⟨t, rfl, rfl, rfl⟩ := serves_get_iff.mp hserves
          exact ⟨rfl, .inl ⟨rfl, rfl⟩⟩
      | refused hpasses =>
          obtain rfl : _ = a.gateway.clock := hpasses
          exact ⟨rfl, .inr ⟨by decide, _, rfl⟩⟩
      | lost hpasses hexec =>
          obtain rfl : _ = a.gateway.clock := hpasses
          obtain ⟨-, rfl⟩ := Prod.mk.inj (Except.ok.inj hexec)
          exact ⟨rfl, .inr ⟨by decide, _, rfl⟩⟩

/-- What a write comes to: whether it succeeds, and whether it takes effect. -/
inductive Written (w written : GatewayState) : Fate → Prop → GatewayState → Prop
  | done {succeeded : Prop} : succeeded → Written w written .done succeeded written
  | refused {succeeded : Prop} : ¬succeeded → Written w written .refused succeeded w
  | lost {succeeded : Prop} : ¬succeeded → Written w written .lost succeeded written

/-- A command that Redis can run. -/
theorem step_redis {cmd : RedisCommand} {result : cmd.Result} {redis : Redis}
    (hexec : cmd.exec a.gateway.clock a.gateway.redis = .ok (result, redis))
    {reply : Except RedisError cmd.Result} (h : Step x a (.redis cmd) reply a') :
    a'.commands = a.commands + 1 ∧ a'.readings = a.readings ∧
      (reply = .ok result ∨ ∃ error, reply = .error error) ∧
        Written a.gateway { a.gateway with redis := redis } (x.fates a.commands)
          (reply = .ok result) a'.gateway := by
  cases h with
  | rejected herror => cases herror.symm.trans hexec
  | @redis _ _ w hfaces =>
      generalize x.fates a.commands = fate at hfaces
      cases hfaces with
      | done hserves =>
          cases hserves with
          | redis hpasses hran =>
              obtain rfl : _ = a.gateway.clock := hpasses
              obtain ⟨rfl, rfl⟩ := Prod.mk.inj (Except.ok.inj (hexec.symm.trans hran))
              exact ⟨rfl, rfl, .inl rfl, .done rfl⟩
      | refused hpasses =>
          obtain rfl : _ = a.gateway.clock := hpasses
          exact ⟨rfl, rfl, .inr ⟨_, rfl⟩, .refused (by simp)⟩
      | lost hpasses hran =>
          obtain rfl : _ = a.gateway.clock := hpasses
          obtain ⟨-, rfl⟩ := Prod.mk.inj (Except.ok.inj (hexec.symm.trans hran))
          exact ⟨rfl, rfl, .inr ⟨_, rfl⟩, .lost (by simp)⟩

theorem step_set {k : RedisKey} {v : k.Value} {px : ℤ} (hpx : 0 < px)
    {reply : Except RedisError Unit} (h : Step x a (.redis (.set k v px)) reply a') :
    a'.commands = a.commands + 1 ∧ a'.readings = a.readings ∧
      Written a.gateway
        { a.gateway with redis := a.gateway.redis.set k v (a.gateway.clock + px) }
        (x.fates a.commands) (reply = .ok ()) a'.gateway := by
  have hexec : (RedisCommand.set k v px).exec a.gateway.clock a.gateway.redis =
      .ok ((), a.gateway.redis.set k v (a.gateway.clock + px)) := if_neg (not_le.mpr hpx)
  obtain ⟨hcommands, hreadings, -, hwritten⟩ := step_redis hexec h
  exact ⟨hcommands, hreadings, hwritten⟩

theorem step_del {k : RedisKey} {reply : Except RedisError Unit}
    (h : Step x a (.redis (.del k)) reply a') :
    a'.commands = a.commands + 1 ∧ a'.readings = a.readings ∧
      Written a.gateway { a.gateway with redis := a.gateway.redis.del k }
        (x.fates a.commands) (reply = .ok ()) a'.gateway := by
  have hexec : (RedisCommand.del k).exec a.gateway.clock a.gateway.redis =
      .ok ((), a.gateway.redis.del k) := rfl
  obtain ⟨hcommands, hreadings, -, hwritten⟩ := step_redis hexec h
  exact ⟨hcommands, hreadings, hwritten⟩

/-- A command that Redis itself would turn down. -/
theorem step_redis_error {cmd : RedisCommand} {error : RedisError}
    (hexec : cmd.exec a.gateway.clock a.gateway.redis = .error error)
    {reply : Except RedisError cmd.Result} (h : Step x a (.redis cmd) reply a') :
    a' = { a with commands := a.commands + 1 } ∧ ∃ error, reply = .error error := by
  cases h with
  | rejected => exact ⟨rfl, _, rfl⟩
  | @redis _ _ w hfaces =>
      generalize x.fates a.commands = fate at hfaces
      cases hfaces with
      | done hserves =>
          cases hserves with
          | redis hpasses hran =>
              obtain rfl : _ = a.gateway.clock := hpasses
              cases hexec.symm.trans hran
      | refused hpasses =>
          obtain rfl : _ = a.gateway.clock := hpasses
          exact ⟨rfl, _, rfl⟩
      | lost hpasses hran =>
          obtain rfl : _ = a.gateway.clock := hpasses
          cases hexec.symm.trans hran

end Effects

end Attempt

/-! ## What the store shows -/

/-- What is stored of a vehicle's video. -/
def GatewayState.video (w : GatewayState) (vehicleID : GoString) : VideoState :=
  match w.redis.get w.clock (.videoSession vehicleID) with
  | some record => record.state
  | none => .standby

def GatewayState.viewerIndex (w : GatewayState) (sessionID : GoString) : Option GoString :=
  w.redis.get w.clock (.videoViewer sessionID)

/-- The records count the same viewers and name the same controllers, and the viewer index is
the same. -/
structure SameViewing (w w' : GatewayState) : Prop where
  viewerCount : ∀ v, (w'.video v).viewerCount = (w.video v).viewerCount
  controller : ∀ v, (w'.video v).controllerSessionID = (w.video v).controllerSessionID
  index : ∀ id, w'.viewerIndex id = w.viewerIndex id

section Shown

variable {w w' w'' : GatewayState} {v : GoString}

theorem SameViewing.refl (w : GatewayState) : SameViewing w w :=
  ⟨fun _ ↦ rfl, fun _ ↦ rfl, fun _ ↦ rfl⟩

theorem SameViewing.symm (h : SameViewing w w') : SameViewing w' w :=
  ⟨fun v ↦ (h.viewerCount v).symm, fun v ↦ (h.controller v).symm, fun id ↦ (h.index id).symm⟩

theorem SameViewing.trans (h : SameViewing w w') (h' : SameViewing w' w'') : SameViewing w w'' :=
  ⟨fun v ↦ (h'.viewerCount v).trans (h.viewerCount v),
    fun v ↦ (h'.controller v).trans (h.controller v), fun id ↦ (h'.index id).trans (h.index id)⟩

theorem SameViewing.iff_right (h : SameViewing w w') :
    SameViewing w w'' ↔ SameViewing w' w'' :=
  ⟨fun h' ↦ h.symm.trans h', fun h' ↦ h.trans h'⟩

theorem video_saved (w : GatewayState) (session : VideoSession) (expiresAtMS : ℤ) :
    (w.saved session expiresAtMS w.clock).video session.vehicleID = session.state.throughJSON := by
  have hget : (w.saved session expiresAtMS w.clock).redis.get w.clock
      (.videoSession session.vehicleID) =
        some ({ session with expiresAtMS := expiresAtMS } : VideoSession).marshal :=
    Store.get_set_self _ _ _ _ _ (Int.le_add_of_nonneg_right (by decide))
  simp only [GatewayState.video]
  rw [show (w.saved session expiresAtMS w.clock).clock = w.clock from rfl, hget]
  rfl

theorem video_congr (hclock : w'.clock = w.clock)
    (hrecord : w'.redis (.videoSession v) = w.redis (.videoSession v)) :
    w'.video v = w.video v := by
  simp only [GatewayState.video, Store.get, Store.live, hclock, hrecord]

theorem video_saved_of_ne (w : GatewayState) {session : VideoSession} (hv : v ≠ session.vehicleID)
    (expiresAtMS : ℤ) : (w.saved session expiresAtMS w.clock).video v = w.video v :=
  video_congr rfl (Store.set_apply_of_ne _ (by simpa using hv) _ _)

theorem viewerIndex_saved (w : GatewayState) (session : VideoSession) (expiresAtMS : ℤ)
    (id : GoString) :
    (w.saved session expiresAtMS w.clock).viewerIndex id = w.viewerIndex id :=
  Store.get_set_of_ne _ _ (by simp) _ _

/-- Saving a record keeps the viewing if it has the viewers and the controller that are
stored. -/
theorem sameViewing_saved_iff {session : VideoSession} {expiresAtMS : ℤ}
    (hv : session.vehicleID = v) : SameViewing w (w.saved session expiresAtMS w.clock) ↔
      session.viewerCount = (w.video v).viewerCount ∧
        session.controllerSessionID.throughJSON = (w.video v).controllerSessionID := by
  subst hv
  constructor
  · intro h
    have hcount := h.viewerCount session.vehicleID
    have hcontroller := h.controller session.vehicleID
    rw [video_saved] at hcount hcontroller
    exact ⟨hcount, hcontroller⟩
  · rintro ⟨hcount, hcontroller⟩
    refine ⟨fun u ↦ ?_, fun u ↦ ?_, viewerIndex_saved w session expiresAtMS⟩
    · by_cases hu : u = session.vehicleID
      · subst hu
        rw [video_saved]
        exact hcount
      · rw [video_saved_of_ne w hu]
    · by_cases hu : u = session.vehicleID
      · subst hu
        rw [video_saved]
        exact hcontroller
      · rw [video_saved_of_ne w hu]

/-- The record of the vehicle, if there is one, is as `save` left it. -/
def GatewayState.RecordKept (w : GatewayState) (v : GoString) : Prop :=
  ∀ record, w.redis.get w.clock (.videoSession v) = some record → record.Kept v

theorem GatewayState.RecordKept.throughJSON (h : w.RecordKept v) :
    (w.video v).throughJSON = w.video v := by
  unfold GatewayState.video
  cases hget : w.redis.get w.clock (.videoSession v) with
  | none => rfl
  | some record =>
      have hcontroller := congrArg VideoSession.controllerSessionID (h record hget).2
      simp only [VideoSession.marshal] at hcontroller
      simp only [VideoState.throughJSON, VideoSession.state, hcontroller]

end Shown

/-- A look at the clock ends the grace period. -/
def VideoState.settles (v : VideoState) (now : ℤ) : Bool :=
  v.mode = .active && v.Idle && 0 < v.graceDeadlineMS && v.graceDeadlineMS ≤ now

/-- What a look returns. -/
def VideoState.seen (v : VideoState) (now : ℤ) : VideoState :=
  if v.settles now then .standby else v

theorem VideoState.settles_idle {v : VideoState} {now : ℤ} (h : v.settles now = true) :
    v.Idle := by
  simp only [settles, Bool.and_eq_true, decide_eq_true_eq] at h
  exact h.1.1.2

theorem VideoState.seen_of_unsettled {v : VideoState} {now : ℤ} (h : v.settles now = false) :
    v.seen now = v := by
  rw [seen, h]
  rfl

theorem VideoState.clearedOf_of_ne {v : VideoState} {id : GoString}
    (h : v.controllerSessionID ≠ id) : v.clearedOf id = v := by
  rw [clearedOf, if_neg h]

theorem VideoState.seen_viewerCount (v : VideoState) (now : ℤ) :
    (v.seen now).viewerCount = v.viewerCount := by
  unfold seen
  split_ifs with h
  · exact (settles_idle h).1.symm
  · rfl

theorem VideoState.seen_controller (v : VideoState) (now : ℤ) :
    (v.seen now).controllerSessionID = v.controllerSessionID := by
  unfold seen
  split_ifs with h
  · exact (settles_idle h).2.symm
  · rfl

/-- How many commands a look takes. -/
def VideoState.lookCommands (v : VideoState) (now : ℤ) : ℕ := if v.settles now then 2 else 1

/-- The commands of a look that starts with the `n`th succeed. -/
def VideoState.Looked (v : VideoState) (fates : ℕ → Fate) (now : ℤ) (n : ℕ) : Prop :=
  fates n = .done ∧ (v.settles now = true → fates (n + 1) = .done)

instance (v : VideoState) (fates : ℕ → Fate) (now : ℤ) (n : ℕ) :
    Decidable (v.Looked fates now n) :=
  inferInstanceAs (Decidable (_ ∧ (_ → _)))

/-! ## The operations -/

/-- The operation returns a session and no error. -/
def Succeeds (result : Except VideoSessionError VideoSession) : Prop :=
  ∃ session, result = .ok session

theorem succeeds_ok (session : VideoSession) : Succeeds (.ok session) := ⟨session, rfl⟩

theorem not_succeeds_error (error : VideoSessionError) : ¬Succeeds (.error error) := by
  rintro ⟨session, ⟨⟩⟩

namespace Attempt

open VideoSessionStore

variable [Cjson] {x : Circumstances} {a a' : Attempt} {w : GatewayState}
  {v : GoString}

omit [Cjson] in
theorem Written.imp {written w' : GatewayState} {fate : Fate} {p q : Prop} (h : p ↔ q)
    (hwritten : Written w written fate p w') : Written w written fate q w' := by
  cases hwritten with
  | done hp => exact .done (h.mp hp)
  | refused hp => exact .refused (mt h.mpr hp)
  | lost hp => exact .lost (mt h.mpr hp)

omit [Cjson] in
theorem Written.iff_done {written w' : GatewayState} {fate : Fate} {succeeded : Prop}
    (h : Written w written fate succeeded w') : succeeded ↔ fate = .done := by
  cases h with
  | done hp => exact iff_of_true hp rfl
  | refused hp => exact iff_of_false hp (by decide)
  | lost hp => exact iff_of_false hp (by decide)

omit [Cjson] in
theorem Written.effect {written w' : GatewayState} {fate : Fate} {succeeded : Prop}
    (h : Written w written fate succeeded w') : w' = w ∨ w' = written := by
  cases h with
  | done => exact .inr rfl
  | refused => exact .inl rfl
  | lost => exact .inr rfl

omit [Cjson] in
theorem Written.ran {written w' : GatewayState} {fate : Fate} {succeeded : Prop}
    (h : Written w written fate succeeded w') (hfate : fate ≠ .refused) : w' = written := by
  cases h with
  | done => rfl
  | refused => exact absurd rfl hfate
  | lost => rfl

omit [Cjson] in
theorem Written.kept {written w' : GatewayState} {fate : Fate} {succeeded : Prop}
    (h : Written w written fate succeeded w') (hfate : fate = .refused) : w' = w := by
  cases h with
  | done => cases hfate
  | refused => rfl
  | lost => cases hfate

theorem completes_save {session : VideoSession} {result : Except VideoSessionError Unit}
    (h : Completes (Step x) a (save session) result a') :
    ∃ expiresAtMS, a'.commands = a.commands + 1 ∧
      Written a.gateway (a.gateway.saved session expiresAtMS a.gateway.clock)
        (x.fates a.commands) (result = .ok ()) a'.gateway := by
  obtain ⟨stamped, a₁, hstamped, h⟩ := completes_bind_iff.mp h
  obtain ⟨expiresAtMS, readings, rfl, rfl⟩ : ∃ expiresAtMS readings,
      stamped = { session with expiresAtMS := expiresAtMS } ∧
        a₁ = { a with readings := readings } := by
    unfold VideoSessionStore.stamped at hstamped
    split_ifs at hstamped
    · obtain ⟨now, a₂, hnow, hstamped⟩ := completes_call_iff.mp hstamped
      obtain ⟨rfl, rfl⟩ := step_timeNow hnow
      obtain ⟨rfl, rfl⟩ := completes_pure_iff.mp hstamped
      exact ⟨_, _, rfl, rfl⟩
    · obtain ⟨rfl, rfl⟩ := completes_pure_iff.mp hstamped
      exact ⟨stamped.expiresAtMS, a₁.readings, rfl, rfl⟩
  obtain ⟨reply, a₂, hset, h⟩ := completes_call_iff.mp h
  obtain ⟨hcommands, -, hwritten⟩ := step_set (by decide) hset
  refine ⟨expiresAtMS, ?_⟩
  rcases reply with error | _
  · obtain ⟨rfl, rfl⟩ := completes_pure_iff.mp h
    exact ⟨hcommands, hwritten.imp (by simp)⟩
  · obtain ⟨rfl, rfl⟩ := completes_pure_iff.mp h
    exact ⟨hcommands, hwritten.imp (by simp)⟩

theorem completes_andSave {session : VideoSession}
    {result : Except VideoSessionError VideoSession}
    (h : Completes (Step x) a (andSave session) result a') :
    ∃ expiresAtMS, a'.commands = a.commands + 1 ∧
      Written a.gateway (a.gateway.saved session expiresAtMS a.gateway.clock)
        (x.fates a.commands) (Succeeds result) a'.gateway ∧
      ∀ returned, result = .ok returned → returned = session := by
  obtain ⟨saved, a₁, hsave, h⟩ := completes_bind_iff.mp h
  obtain ⟨expiresAtMS, hcommands, hwritten⟩ := completes_save hsave
  refine ⟨expiresAtMS, ?_⟩
  rcases saved with error | _
  · obtain ⟨rfl, rfl⟩ := completes_pure_iff.mp h
    exact ⟨hcommands, hwritten.imp (by simp [Succeeds]), by rintro returned ⟨⟩⟩
  · obtain ⟨rfl, rfl⟩ := completes_pure_iff.mp h
    exact ⟨hcommands, hwritten.imp (by simp [Succeeds]), by rintro returned ⟨⟩; rfl⟩

/-- What a look does that comes first in its call, or after another command. -/
structure LooksAt (fates : ℕ → Fate) (now : ℤ) (w : GatewayState) (v : GoString) (n : ℕ)
    (result : Except VideoSessionError VideoSession) (a' : Attempt) : Prop where
  same : SameViewing w a'.gateway
  clock : a'.gateway.clock = w.clock
  unsettled : (w.video v).settles now = false → a'.gateway = w
  succeeds : Succeeds result ↔ (w.video v).Looked fates now n
  found : ∀ session, result = .ok session → session.vehicleID = v ∧
    session.state = (w.video v).seen now ∧ a'.commands = n + (w.video v).lookCommands now
  frame : ∀ k, k ≠ .videoSession v → a'.gateway.redis k = w.redis k
  failed : fates n ≠ .done → a'.gateway = w ∧ a'.commands = n + 1
  settled : fates n = .done → (w.video v).settles now = true → a'.commands = n + 2 ∧
    (fates (n + 1) = .refused → a'.gateway = w) ∧
    (fates (n + 1) ≠ .refused → a'.gateway.video v = .standby)

omit [Cjson] in
theorem settles_iff_inGrace {record : VideoSession}
    (hget : w.redis.get w.clock (.videoSession v) = some record) (now : ℤ) :
    (w.video v).settles now = true ↔
      inGrace record = true ∧ record.graceDeadlineMS ≤ now := by
  simp only [GatewayState.video, hget, VideoState.settles, inGrace, VideoSession.state,
    VideoState.Idle, Bool.and_eq_true, decide_eq_true_eq, and_assoc]

omit [Cjson] in
/-- The session is returned as it was read. -/
theorem looksAt_of_unsettled {fates : ℕ → Fate} {now : ℤ} {n : ℕ} {session : VideoSession}
    (hdone : fates n = .done) (hvehicle : session.vehicleID = v)
    (hstate : session.state = w.video v) (readings : ℕ)
    (hunsettled : (w.video v).settles now = false) :
    LooksAt fates now w v n (.ok session) ⟨w, n + 1, readings⟩ := by
  refine ⟨.refl w, rfl, fun _ ↦ rfl, ?_, ?_, fun _ _ ↦ rfl, ?_, ?_⟩
  · exact iff_of_true (succeeds_ok session) ⟨hdone, by simp [hunsettled]⟩
  · rintro _ ⟨⟩
    refine ⟨hvehicle, ?_, ?_⟩
    · rw [VideoState.seen_of_unsettled hunsettled]
      exact hstate
    · rw [VideoState.lookCommands, hunsettled]
      rfl
  · exact fun hfailed ↦ absurd hdone hfailed
  · intro _ hsettles
    simp [hunsettled] at hsettles

/-- The grace period is over, and the look saves that. -/
theorem looksAt_of_settled {now : ℤ} {n readings : ℕ} {record : VideoSession}
    (hvehicle : record.vehicleID = v) (hdone : x.fates n = .done)
    (hgrace : inGrace record = true) (hsettles : (w.video v).settles now = true)
    {result : Except VideoSessionError VideoSession}
    (h : Completes (Step x) ⟨w, n + 1, readings⟩ (andSave record.settled) result a') :
    LooksAt x.fates now w v n result a' := by
  obtain ⟨expiresAtMS, hcommands, hwritten, hreturned⟩ := completes_andSave h
  have hstate : record.settled.state = .standby := settled_state hgrace
  have hsaved : SameViewing w (w.saved record.settled expiresAtMS w.clock) := by
    have hvehicle' : record.settled.vehicleID = v := hvehicle
    obtain ⟨hcount, hcontroller⟩ := VideoState.settles_idle hsettles
    have hnobody : record.settled.viewerCount = 0 := congrArg VideoState.viewerCount hstate
    have hempty : record.settled.controllerSessionID = [] :=
      congrArg VideoState.controllerSessionID hstate
    rw [sameViewing_saved_iff hvehicle', hnobody, hempty, hcount, hcontroller]
    exact ⟨rfl, rfl⟩
  have hfound : ∀ session, result = .ok session → session.vehicleID = v ∧
      session.state = (w.video v).seen now ∧
        a'.commands = n + (w.video v).lookCommands now := by
    intro session hsession
    obtain rfl := hreturned session hsession
    refine ⟨hvehicle, ?_, ?_⟩
    · rw [VideoState.seen, if_pos hsettles]
      exact hstate
    · rw [hcommands, VideoState.lookCommands, if_pos hsettles]
  have hnot : (w.video v).settles now ≠ false := by simp [hsettles]
  have hlooked : (w.video v).Looked x.fates now n ↔ x.fates (n + 1) = .done := by
    simp [VideoState.Looked, hdone, hsettles]
  have hstandby : (w.saved record.settled expiresAtMS w.clock).video v = .standby := by
    rw [← hvehicle]
    refine (video_saved w record.settled expiresAtMS).trans ?_
    rw [hstate]
    rfl
  have hframe : ∀ k, k ≠ .videoSession v →
      (w.saved record.settled expiresAtMS w.clock).redis k = w.redis k := by
    rintro k hk
    rw [← hvehicle] at hk
    exact Store.set_apply_of_ne _ hk _ _
  refine ⟨?_, ?_, fun h ↦ absurd h hnot, hwritten.iff_done.trans hlooked.symm, hfound, ?_,
    fun hfailed ↦ absurd hdone hfailed, fun _ _ ↦ ⟨hcommands, ?_, ?_⟩⟩
  · rcases hwritten.effect with heq | heq
    · rw [heq]
      exact .refl w
    · rw [heq]
      exact hsaved
  · rcases hwritten.effect with heq | heq <;> rw [heq]
    rfl
  · rcases hwritten.effect with heq | heq <;> rw [heq]
    · exact fun _ _ ↦ rfl
    · exact hframe
  · exact fun hrefused ↦ hwritten.kept hrefused
  · intro hran
    rw [hwritten.ran hran]
    exact hstandby

theorem completes_get (hkept : w.RecordKept v) {n m : ℕ}
    {result : Except VideoSessionError VideoSession}
    (h : Completes (Step x) ⟨w, n, m⟩ (get v) result a') :
    LooksAt x.fates (x.clock m) w v n result a' := by
  obtain ⟨reply, a₁, hget, h⟩ := completes_call_iff.mp h
  obtain ⟨rfl, ⟨hdone, hreply⟩ | ⟨hfailed, error, hreply⟩⟩ := step_get hget
  · cases hfound : w.redis.get w.clock (.videoSession v) with
    | none =>
        obtain rfl : reply = .ok none := hreply.trans (congrArg _ hfound)
        obtain ⟨now, a₂, hnow, h⟩ := completes_call_iff.mp h
        obtain ⟨rfl, rfl⟩ := step_timeNow hnow
        obtain ⟨rfl, rfl⟩ := completes_pure_iff.mp h
        have hvideo : w.video v = .standby := by simp only [GatewayState.video, hfound]
        have hunsettled : (w.video v).settles (x.clock m) = false := by
          rw [hvideo]
          rfl
        refine looksAt_of_unsettled hdone ?_ ?_ _ hunsettled
        · rfl
        · exact hvideo.symm
    | some record =>
        obtain rfl : reply = .ok (some record) := hreply.trans (congrArg _ hfound)
        obtain ⟨hvehicle, hmarshal⟩ := hkept record hfound
        have hvideo : w.video v = record.state := by simp only [GatewayState.video, hfound]
        have hsteady : ∀ readings, (w.video v).settles (x.clock m) = false →
            LooksAt x.fates (x.clock m) w v n (.ok record) ⟨w, n + 1, readings⟩ :=
          looksAt_of_unsettled hdone hvehicle hvideo.symm
        have hsettles := settles_iff_inGrace hfound (x.clock m)
        simp only [Program.bind] at h
        split_ifs at h with hgrace
        · obtain ⟨now, a₂, hnow, h⟩ := completes_call_iff.mp h
          obtain ⟨rfl, rfl⟩ := step_timeNow hnow
          simp only [Program.bind] at h
          split_ifs at h with hover
          · exact looksAt_of_settled hvehicle hdone hgrace (hsettles.mpr ⟨hgrace, hover⟩) h
          · obtain ⟨rfl, rfl⟩ := completes_pure_iff.mp h
            refine hsteady _ ((Bool.not_eq_true _).mp fun h ↦ hover ?_)
            exact (hsettles.mp h).2
        · obtain ⟨rfl, rfl⟩ := completes_pure_iff.mp h
          refine hsteady _ ((Bool.not_eq_true _).mp fun h ↦ hgrace ?_)
          exact (hsettles.mp h).1
  · obtain rfl := hreply
    obtain ⟨rfl, rfl⟩ := completes_pure_iff.mp h
    refine ⟨.refl w, rfl, fun _ ↦ rfl, ?_, by rintro session ⟨⟩, fun _ _ ↦ rfl,
      fun _ ↦ ⟨rfl, rfl⟩, fun hdone ↦ absurd hdone hfailed⟩
    exact iff_of_false (not_succeeds_error _) fun hlooked ↦ hfailed hlooked.1

theorem completes_named {session session' : VideoSession}
    (h : Completes (Step x) a (named session) session' a') :
    session'.vehicleID = session.vehicleID ∧ session'.state = session.state ∧
      a'.commands = a.commands ∧ ∃ drawn, a'.gateway = { a.gateway with drawn := drawn } := by
  unfold named at h
  split_ifs at h
  · obtain ⟨id, a₁, hnew, h⟩ := completes_call_iff.mp h
    obtain ⟨-, -, rfl⟩ := step_newUUID hnew
    obtain ⟨now, a₂, hnow, h⟩ := completes_call_iff.mp h
    obtain ⟨rfl, rfl⟩ := step_timeNow hnow
    obtain ⟨rfl, rfl⟩ := completes_pure_iff.mp h
    exact ⟨rfl, rfl, rfl, _, rfl⟩
  · obtain ⟨rfl, rfl⟩ := completes_pure_iff.mp h
    exact ⟨rfl, rfl, rfl, _, rfl⟩

/-- What `saveAfterViewerChange` saves: an idle vehicle gets a grace period. -/
theorem completes_saveAfterViewerChange {s : VideoSessionStore} {session : VideoSession}
    {result : Except VideoSessionError VideoSession}
    (h : Completes (Step x) a (s.saveAfterViewerChange session) result a') :
    ∃ saved expiresAtMS, saved.vehicleID = session.vehicleID ∧
      (∃ m, saved.state = session.state.resting (x.clock m + s.gracePeriod)) ∧
      Written a.gateway (a.gateway.saved saved expiresAtMS a.gateway.clock)
        (x.fates a.commands) (Succeeds result) a'.gateway := by
  unfold saveAfterViewerChange at h
  split_ifs at h with hidle
  · have hstate : session.state.Idle := hidle
    obtain ⟨now, a₁, hnow, h⟩ := completes_call_iff.mp h
    obtain ⟨rfl, rfl⟩ := step_timeNow hnow
    obtain ⟨expiresAtMS, -, hwritten, -⟩ := completes_andSave h
    refine ⟨{ session with mode := .active, graceDeadlineMS := x.clock a.readings + s.gracePeriod },
      expiresAtMS, rfl, ⟨a.readings, ?_⟩, hwritten⟩
    rw [VideoState.resting, if_pos hstate]
    rfl
  · have hstate : ¬session.state.Idle := hidle
    obtain ⟨expiresAtMS, -, hwritten, -⟩ := completes_andSave h
    refine ⟨session, expiresAtMS, rfl, ⟨0, ?_⟩, hwritten⟩
    rw [VideoState.resting, if_neg hstate]

omit [Cjson] in
/-- A write that fails changes the viewing only if it was made. -/
theorem Written.keeps_iff {w₁ written w' : GatewayState} {fate : Fate} {succeeded : Prop}
    (hsame : SameViewing w w₁) (h : Written w₁ written fate succeeded w') :
    (¬succeeded → SameViewing w w') ↔ ¬(fate = .lost ∧ ¬SameViewing w₁ written) := by
  cases h with
  | done hp => exact iff_of_true (absurd hp) (by simp)
  | refused hp => exact iff_of_true (fun _ ↦ hsame) (by simp)
  | lost hp => simp [hp, hsame.iff_right]

end Attempt

theorem VideoState.resting_viewerCount (v : VideoState) (deadline : ℤ) :
    (v.resting deadline).viewerCount = v.viewerCount := by
  unfold resting
  split_ifs <;> rfl

theorem VideoState.resting_controller (v : VideoState) (deadline : ℤ) :
    (v.resting deadline).controllerSessionID = v.controllerSessionID := by
  unfold resting
  split_ifs <;> rfl

/-! ## Which failures leave something behind -/

namespace VideoCall

/-- The commands fail in such a way that an error is returned though something has changed:
* a viewer joins, and the record is saved without a reply, or the index is not;
* a viewer leaves, and the index entry goes but the record is not saved, or the record is saved
  without a reply;
* the controller changes, and the record is saved without a reply. -/
def Torn (w : GatewayState) (fates : ℕ → Fate) (now : ℤ) : VideoCall → Prop
  | get _ => False
  | acquireViewer v =>
      let n := (w.video v).lookCommands now
      (w.video v).Looked fates now 0 ∧
        (fates n = .lost ∨ fates n = .done ∧ fates (n + 1) ≠ .done)
  | releaseViewer sessionID => ∃ v, w.viewerIndex sessionID = some v ∧
      let n := 1 + (w.video v).lookCommands now
      fates 0 = .done ∧ (w.video v).Looked fates now 1 ∧
        (fates n ≠ .refused ∧ fates (n + 1) ≠ .done ∨
          fates (n + 1) = .lost ∧ 0 < (w.video v).viewerCount)
  | setController v controlSessionID =>
      (w.video v).Looked fates now 0 ∧ fates ((w.video v).lookCommands now) = .lost ∧
        (w.video v).controllerSessionID ≠ controlSessionID.throughJSON
  | clearController v controlSessionID =>
      (w.video v).Looked fates now 0 ∧ fates ((w.video v).lookCommands now) = .lost ∧
        (w.video v).controllerSessionID = controlSessionID ∧ controlSessionID ≠ []

end VideoCall

namespace Attempt

open VideoSessionStore

variable [Cjson] {x : Circumstances} {w w' : GatewayState} {v : GoString}
  {result : Except VideoSessionError VideoSession}

/-- Of what follows a look, only what follows a look that succeeds can change the viewing. -/
theorem bind_get_iff (hkept : w.RecordKept v) {n : ℕ} {a' : Attempt}
    {next : Except VideoSessionError VideoSession →
      GatewayProgram (Except VideoSessionError VideoSession)}
    (herror : ∀ error, next (.error error) = .pure (.error error)) {torn : Prop}
    (hnext : ∀ session a₁, Completes (Step x) a₁ (next (.ok session)) result a' →
      SameViewing w a₁.gateway → a₁.gateway.clock = w.clock → session.vehicleID = v →
      session.state = (w.video v).seen (x.clock 0) →
      a₁.commands = n + (w.video v).lookCommands (x.clock 0) →
        ((¬Succeeds result → SameViewing w a'.gateway) ↔ ¬torn))
    (h : Completes (Step x) ⟨w, n, 0⟩ (get v >>= next) result a') :
    (¬Succeeds result → SameViewing w a'.gateway) ↔
      ¬((w.video v).Looked x.fates (x.clock 0) n ∧ torn) := by
  obtain ⟨looked, a₁, hget, h⟩ := completes_bind_iff.mp h
  have hlooks := completes_get hkept hget
  rcases looked with error | session
  · rw [herror] at h
    obtain ⟨rfl, rfl⟩ := completes_pure_iff.mp h
    refine iff_of_true (fun _ ↦ hlooks.same) fun hlooked ↦ ?_
    exact not_succeeds_error error (hlooks.succeeds.mpr hlooked.1)
  · obtain ⟨hvehicle, hstate, hcommands⟩ := hlooks.found session rfl
    have hlooked := hlooks.succeeds.mp (succeeds_ok session)
    rw [hnext session a₁ h hlooks.same hlooks.clock hvehicle hstate hcommands]
    exact not_congr (iff_and_self.mpr fun _ ↦ hlooked)

/-- A record that counts other viewers is saved, and then the index. -/
theorem save_index_keeps_iff {session returned : VideoSession} {id vehicleID : GoString} {px : ℤ}
    (hpx : 0 < px) {a a' : Attempt} (hsame : SameViewing w a.gateway)
    (hvehicle : session.vehicleID = v) (hcount : session.viewerCount ≠ (w.video v).viewerCount)
    {next : Except VideoSessionError Unit →
      GatewayProgram (Except VideoSessionError VideoSession)}
    (herror : ∀ error, next (.error error) = .pure (.error error))
    {index : Except RedisError Unit → GatewayProgram (Except VideoSessionError VideoSession)}
    (hok : next (.ok ()) = .call (.redis (.set (.videoViewer id) vehicleID px)) index)
    (hlost : ∀ error, index (.error error) = .pure (.error .wrapped))
    (hindexed : index (.ok ()) = .pure (.ok returned))
    (h : Completes (Step x) a (save session >>= next) result a') :
    (¬Succeeds result → SameViewing w a'.gateway) ↔
      ¬(x.fates a.commands = .lost ∨
        x.fates a.commands = .done ∧ x.fates (a.commands + 1) ≠ .done) := by
  obtain ⟨saved, a₁, hsave, h⟩ := completes_bind_iff.mp h
  obtain ⟨expiresAtMS, hcommands, hwritten⟩ := completes_save hsave
  have hchanged : ∀ w' : GatewayState, w'.video v =
      (a.gateway.saved session expiresAtMS a.gateway.clock).video v → ¬SameViewing w w' := by
    intro w' hvideo hkeeps
    have hbefore := hkeeps.viewerCount v
    rw [hvideo, ← hvehicle, video_saved, hvehicle] at hbefore
    exact hcount hbefore
  obtain ⟨w₁, commands, readings⟩ := a₁
  dsimp only at hcommands hwritten
  subst hcommands
  rcases saved with error | _
  · rw [herror] at h
    obtain ⟨rfl, rfl⟩ := completes_pure_iff.mp h
    have hfails := not_succeeds_error error
    generalize x.fates a.commands = fate at hwritten
    cases hwritten with
    | done hdone => cases hdone
    | refused => exact iff_of_true (fun _ ↦ hsame) (by simp)
    | lost => exact iff_of_false (fun hkeeps ↦ hchanged _ rfl (hkeeps hfails)) (by simp)
  · rw [hok] at h
    generalize x.fates a.commands = fate at hwritten
    cases hwritten with
    | refused hfailed => exact absurd rfl hfailed
    | lost hfailed => exact absurd rfl hfailed
    | done =>
        obtain ⟨reply, a₂, hset, h⟩ := completes_call_iff.mp h
        obtain ⟨-, -, hwritten⟩ := step_set hpx hset
        have hvideo : a₂.gateway.video v =
            (a.gateway.saved session expiresAtMS a.gateway.clock).video v := by
          rcases hwritten.effect with hrefused | hran
          · rw [hrefused]
          · rw [hran]
            refine video_congr rfl ?_
            dsimp only
            exact Store.set_apply_of_ne _ (by simp) _ _
        rcases reply with error | _
        · rw [hlost] at h
          obtain ⟨rfl, rfl⟩ := completes_pure_iff.mp h
          have hfails := not_succeeds_error .wrapped
          refine iff_of_false (fun hkeeps ↦ hchanged _ hvideo (hkeeps hfails)) ?_
          refine not_not_intro (.inr ⟨rfl, fun hfate ↦ ?_⟩)
          cases hwritten.iff_done.mpr hfate
        · rw [hindexed] at h
          obtain ⟨rfl, rfl⟩ := completes_pure_iff.mp h
          refine iff_of_true (fun hfails ↦ absurd (succeeds_ok returned) hfails) ?_
          simp [hwritten.iff_done.mp rfl]

theorem acquireViewer_keeps_iff {s : VideoSessionStore} (hgrace : 0 ≤ s.gracePeriod)
    (hkept : w.RecordKept v) (h : Ends x w (s.acquireViewer v) result w') :
    (¬Succeeds result → SameViewing w w') ↔
      ¬(VideoCall.acquireViewer v).Torn w x.fates (x.clock 0) := by
  obtain ⟨commands, readings, h⟩ := h
  refine bind_get_iff hkept ?_ ?_ h
  · exact fun _ ↦ rfl
  · intro session a₁ h hsame hclock hvehicle hstate hcommands
    obtain ⟨named, a₂, hnamed, h⟩ := completes_bind_iff.mp h
    obtain ⟨hvehicle', hstate', hcommands', drawn, hgateway⟩ := completes_named hnamed
    have hsame₂ : SameViewing w a₂.gateway := by
      rw [hgateway]
      exact hsame.trans ⟨fun _ ↦ rfl, fun _ ↦ rfl, fun _ ↦ rfl⟩
    have hcount : named.viewerCount = (w.video v).viewerCount := by
      have hseen := congrArg VideoState.viewerCount (hstate'.trans hstate)
      rwa [VideoState.seen_viewerCount] at hseen
    have hmore : named.viewerCount + 1 ≠ (w.video v).viewerCount := by omega
    have hpx : 0 < s.gracePeriod + 60 * 60 * 1000 := by omega
    rw [zero_add] at hcommands
    rw [← hcommands, ← hcommands']
    refine save_index_keeps_iff (v := v) hpx hsame₂ ?_ ?_ ?_ rfl ?_ rfl h
    · exact hvehicle'.trans hvehicle
    · exact hmore
    · exact fun _ ↦ rfl
    · exact fun _ ↦ rfl

theorem setController_keeps_iff (hkept : w.RecordKept v) {controlSessionID : GoString}
    (h : Ends x w (setController v controlSessionID) result w') :
    (¬Succeeds result → SameViewing w w') ↔
      ¬(VideoCall.setController v controlSessionID).Torn w x.fates (x.clock 0) := by
  obtain ⟨commands, readings, h⟩ := h
  refine bind_get_iff hkept ?_ ?_ h
  · exact fun _ ↦ rfl
  · intro session a₁ h hsame hclock hvehicle hstate hcommands
    obtain ⟨named, a₂, hnamed, h⟩ := completes_bind_iff.mp h
    obtain ⟨hvehicle', hstate', hcommands', drawn, hgateway⟩ := completes_named hnamed
    obtain ⟨expiresAtMS, -, hwritten, -⟩ := completes_andSave h
    have hsame₂ : SameViewing w a₂.gateway := by
      rw [hgateway]
      exact hsame.trans ⟨fun _ ↦ rfl, fun _ ↦ rfl, fun _ ↦ rfl⟩
    have hcount : named.viewerCount = (a₂.gateway.video v).viewerCount := by
      have hseen := congrArg VideoState.viewerCount (hstate'.trans hstate)
      rw [VideoState.seen_viewerCount] at hseen
      exact hseen.trans (hsame₂.viewerCount v).symm
    rw [zero_add] at hcommands
    rw [hwritten.keeps_iff hsame₂, sameViewing_saved_iff (v := v), hsame₂.controller v,
      hcommands', hcommands]
    · refine not_congr (and_congr_right fun _ ↦ not_congr ?_)
      exact ⟨fun hsaved ↦ hsaved.2.symm, fun hcontroller ↦ ⟨hcount, hcontroller.symm⟩⟩
    · exact hvehicle'.trans hvehicle

theorem clearController_keeps_iff {s : VideoSessionStore} (hkept : w.RecordKept v)
    {controlSessionID : GoString}
    (h : Ends x w (s.clearController v controlSessionID) result w') :
    (¬Succeeds result → SameViewing w w') ↔
      ¬(VideoCall.clearController v controlSessionID).Torn w x.fates (x.clock 0) := by
  obtain ⟨commands, readings, h⟩ := h
  refine bind_get_iff hkept ?_ ?_ h
  · exact fun _ ↦ rfl
  · intro session a₁ h hsame hclock hvehicle hstate hcommands
    obtain ⟨saved, expiresAtMS, hvehicle', ⟨m, hsaved⟩, hwritten⟩ :=
      completes_saveAfterViewerChange h
    have hcount : saved.viewerCount = (a₁.gateway.video v).viewerCount := by
      have hseen := congrArg VideoState.viewerCount hsaved
      rw [VideoState.resting_viewerCount] at hseen
      have hlooked := congrArg VideoState.viewerCount hstate
      rw [VideoState.seen_viewerCount] at hlooked
      exact (hseen.trans hlooked).trans (hsame.viewerCount v).symm
    have hbefore : session.controllerSessionID = (w.video v).controllerSessionID := by
      have hlooked := congrArg VideoState.controllerSessionID hstate
      rwa [VideoState.seen_controller] at hlooked
    have hafter : saved.controllerSessionID =
        if (w.video v).controllerSessionID = controlSessionID then []
        else (w.video v).controllerSessionID := by
      have hseen := congrArg VideoState.controllerSessionID hsaved
      rw [VideoState.resting_controller] at hseen
      rw [← hbefore]
      exact hseen
    have hvalid := congrArg VideoState.controllerSessionID hkept.throughJSON
    rw [zero_add] at hcommands
    rw [hwritten.keeps_iff hsame, sameViewing_saved_iff (v := v) (hvehicle'.trans hvehicle),
      hsame.controller v, hcommands, hafter]
    refine not_congr (and_congr_right fun _ ↦ ?_)
    split_ifs with hnames
    · -- the controller goes
      subst hnames
      refine ⟨fun hchanged ↦ ⟨rfl, fun hempty ↦ hchanged ⟨hcount, hempty.symm⟩⟩, ?_⟩
      rintro ⟨-, hne⟩ ⟨-, hempty⟩
      exact hne hempty.symm
    · exact iff_of_false (not_not_intro ⟨hcount, hvalid⟩) fun hnamed ↦ hnames hnamed.1

/-- The index entry is dropped, and then the record is saved with one viewer less. -/
theorem drop_save_keeps_iff {s : VideoSessionStore} {sessionID : GoString}
    {session : VideoSession} {a a' : Attempt} (hindex : w.viewerIndex sessionID = some v)
    (hkept : w.RecordKept v) (hsame : SameViewing w a.gateway) (hvehicle : session.vehicleID = v)
    (hcount : session.viewerCount = (w.video v).left.viewerCount)
    (hcontroller : session.controllerSessionID = (w.video v).controllerSessionID)
    (h : Completes (Step x) a (.call (.redis (.del (.videoViewer sessionID))) fun _ ↦
      s.saveAfterViewerChange session) result a') :
    (¬Succeeds result → SameViewing w a'.gateway) ↔
      ¬(x.fates a.commands ≠ .refused ∧ x.fates (a.commands + 1) ≠ .done ∨
        x.fates (a.commands + 1) = .lost ∧ 0 < (w.video v).viewerCount) := by
  obtain ⟨deleted, ⟨w₁, commands, readings⟩, hdel, h⟩ := completes_call_iff.mp h
  obtain ⟨hcommands, -, hdropped⟩ := step_del hdel
  obtain ⟨saved, expiresAtMS, hvehicle', ⟨m, hsaved⟩, hwritten⟩ :=
    completes_saveAfterViewerChange h
  dsimp only at hcommands hdropped hwritten
  subst hcommands
  generalize x.fates a.commands = fate at hdropped
  by_cases hrefused : fate = .refused
  · subst hrefused
    have hfewer : SameViewing w (w₁.saved saved expiresAtMS w₁.clock) ↔
        ¬0 < (w.video v).viewerCount := by
      cases hdropped with
      | refused =>
          rw [hsame.iff_right, sameViewing_saved_iff (v := v) (hvehicle'.trans hvehicle),
            hsame.viewerCount v, hsame.controller v]
          have hviewers := congrArg VideoState.viewerCount hsaved
          have hnames := congrArg VideoState.controllerSessionID hsaved
          have hvalid := congrArg VideoState.controllerSessionID hkept.throughJSON
          rw [VideoState.resting_viewerCount] at hviewers
          rw [VideoState.resting_controller] at hnames
          rw [show saved.viewerCount = _ from hviewers.trans hcount,
            show saved.controllerSessionID = _ from hnames.trans hcontroller]
          refine ⟨fun hkeeps hpositive ↦ ?_, fun hnone ↦ ⟨if_neg hnone, hvalid⟩⟩
          have hleft : (w.video v).left.viewerCount = (w.video v).viewerCount - 1 :=
            if_pos hpositive
          have hstays := hkeeps.1
          omega
    have hsame₁ : SameViewing w w₁ := by
      cases hdropped with
      | refused => exact hsame
    rw [hwritten.keeps_iff hsame₁, ← hsame₁.iff_right, hfewer]
    simp
  · have hgone : a'.gateway.viewerIndex sessionID = none := by
      have hdeleted : w₁.viewerIndex sessionID = none := by
        cases hdropped with
        | done => simp [GatewayState.viewerIndex]
        | refused => exact absurd rfl hrefused
        | lost => simp [GatewayState.viewerIndex]
      rcases hwritten.effect with heq | heq
      · rw [heq]
        exact hdeleted
      · rw [heq, viewerIndex_saved]
        exact hdeleted
    have hchanged : ¬SameViewing w a'.gateway := by
      intro hkeeps
      cases hgone.symm.trans ((hkeeps.index sessionID).trans hindex)
    have hsucceeds := hwritten.iff_done
    constructor
    · intro hkeeps htorn
      have hfate : x.fates (a.commands + 1) = .done :=
        hsucceeds.mp (by_contra fun hfails ↦ hchanged (hkeeps hfails))
      simp [hfate] at htorn
    · intro htorn hfails
      exact absurd (.inl ⟨hrefused, mt hsucceeds.mpr hfails⟩) htorn

theorem releaseViewer_keeps_iff {s : VideoSessionStore} {sessionID : GoString}
    (hkept : ∀ v, w.viewerIndex sessionID = some v → w.RecordKept v)
    (h : Ends x w (s.releaseViewer sessionID) result w') :
    (¬Succeeds result → SameViewing w w') ↔
      ¬(VideoCall.releaseViewer sessionID).Torn w x.fates (x.clock 0) := by
  obtain ⟨commands, readings, h⟩ := h
  obtain ⟨reply, a₀, hindex, h⟩ := completes_call_iff.mp h
  obtain ⟨rfl, ⟨hdone, hreply⟩ | ⟨hfailed, error, hreply⟩⟩ := step_get hindex
  · cases hfound : w.viewerIndex sessionID with
    | none =>
        obtain rfl : reply = .ok none := hreply.trans (congrArg _ hfound)
        obtain ⟨rfl, ha⟩ := completes_pure_iff.mp h
        obtain rfl : w' = w := congrArg Attempt.gateway ha
        refine iff_of_true (fun _ ↦ .refl _) ?_
        rintro ⟨v, hsome, -⟩
        cases hfound.symm.trans hsome
    | some v =>
        obtain rfl : reply = .ok (some v) := hreply.trans (congrArg _ hfound)
        have htorn : (VideoCall.releaseViewer sessionID).Torn w x.fates (x.clock 0) ↔
            (w.video v).Looked x.fates (x.clock 0) 1 ∧
              (x.fates (1 + (w.video v).lookCommands (x.clock 0)) ≠ .refused ∧
                  x.fates (1 + (w.video v).lookCommands (x.clock 0) + 1) ≠ .done ∨
                x.fates (1 + (w.video v).lookCommands (x.clock 0) + 1) = .lost ∧
                  0 < (w.video v).viewerCount) := by
          constructor
          · rintro ⟨u, hsome, -, htorn⟩
            obtain rfl := Option.some.inj (hsome.symm.trans hfound)
            exact htorn
          · exact fun htorn ↦ ⟨v, hfound, hdone, htorn⟩
        rw [htorn]
        refine bind_get_iff (hkept v hfound) ?_ ?_ h
        · exact fun _ ↦ rfl
        · intro session a₁ h hsame hclock hvehicle hstate hcommands
          have hcount := congrArg VideoState.viewerCount hstate
          have hcontroller := congrArg VideoState.controllerSessionID hstate
          rw [VideoState.seen_viewerCount] at hcount
          rw [VideoState.seen_controller] at hcontroller
          rw [← hcommands]
          refine drop_save_keeps_iff hfound (hkept v hfound) hsame ?_ ?_ ?_ h
          · exact hvehicle
          · rw [VideoState.left, ← hcount]
            rfl
          · exact hcontroller
  · obtain rfl := hreply
    obtain ⟨rfl, ha⟩ := completes_pure_iff.mp h
    obtain rfl : w' = w := congrArg Attempt.gateway ha
    refine iff_of_true (fun _ ↦ .refl _) ?_
    rintro ⟨v, -, hdone, -⟩
    exact hfailed hdone

end Attempt

/-! ## Every reachable store -/

/-- Whose video is to be changed is named by a text. -/
abbrev VideoCall.Addressed : VideoCall → Prop := Admitted (fun _ ↦ True) GoString.ValidUTF8

/-- Asked of every step: who starts a call has the vehicle from the access list or a lease. -/
def CallsAddressed : TransitionSystem.StepCondition VideoPool VideoLabel :=
  fun _ _ l ↦ ∀ c, l = .spawn c → c.Addressed

theorem Upheld.recordKept {P : VideoState → Prop} {vehicles : GoString → Prop}
    {w : GatewayState} (h : Upheld P vehicles w) {v : GoString}
    (hv : vehicles v → v.ValidUTF8) : w.RecordKept v := by
  intro record hget
  obtain ⟨e, hlive, rfl⟩ := Store.get_eq_some_iff.mp hget
  obtain ⟨hvehicle, session, heq, -, hrecord⟩ :=
    h.record v e (Store.live_eq_some_iff.mp hlive).1
  rw [hrecord]
  exact VideoSession.kept_marshal (hv hvehicle) heq

section Reachable

variable [Cjson] {s : VideoSessionStore} {ls : List VideoLabel} {st : VideoPool}

theorem upheld_of_addressed (hgrace : 0 ≤ s.gracePeriod)
    (hrun : (videoPool s).system.RunWhere CallsAddressed ls st) :
    Upheld (fun _ ↦ True) GoString.ValidUTF8 st.shared := by
  refine upheld_of_run (VideoState.preserved_true fun _ ↦ True) ?_ hgrace ?_ hrun
  · exact fun v _ ↦ GoString.validUTF8_throughJSON v
  · exact fun ls st c hcond ↦ hcond c rfl

/-- A call that returns an error leaves the viewers, the controllers and the viewer index as
they were, if and only if its commands do not fail in one of the ways that tear it. -/
theorem failed_call_atomic_iff (hgrace : 0 ≤ s.gracePeriod)
    (hrun : (videoPool s).system.RunWhere CallsAddressed ls st) {c : VideoCall}
    (hc : c.Addressed) (x : Circumstances) :
    (∃ result w', Attempt.Ends x st.shared (c.program s) result w') ∧
      ∀ result w', Attempt.Ends x st.shared (c.program s) result w' →
        ((¬Succeeds result → SameViewing st.shared w') ↔
          ¬c.Torn st.shared x.fates (x.clock 0)) := by
  refine ⟨Attempt.exists_ends x st.shared (c.program s), fun result w' hends ↦ ?_⟩
  have hkept : ∀ v, st.shared.RecordKept v :=
    fun v ↦ (upheld_of_addressed hgrace hrun).recordKept id
  cases c with
  | get v =>
      obtain ⟨commands, readings, hcompletes⟩ := hends
      have hlooks := Attempt.completes_get (hkept v) hcompletes
      exact iff_of_true (fun _ ↦ hlooks.same) not_false
  | acquireViewer v => exact Attempt.acquireViewer_keeps_iff hgrace (hkept v) hends
  | releaseViewer id => exact Attempt.releaseViewer_keeps_iff (fun v _ ↦ hkept v) hends
  | setController v id => exact Attempt.setController_keeps_iff (hkept v) hends
  | clearController v id => exact Attempt.clearController_keeps_iff (hkept v) hends

end Reachable

/-! ## A clear by a controller that has gone -/

/-- What `ClearController` saves, once it has looked. -/
theorem ends_clearController [Cjson] {s : VideoSessionStore} {x : Circumstances}
    {w w' : GatewayState} {v controlSessionID : GoString} (hkept : w.RecordKept v)
    {result : Except VideoSessionError VideoSession}
    (h : Attempt.Ends x w (s.clearController v controlSessionID) result w') :
    (¬(w.video v).Looked x.fates (x.clock 0) 0 ∧
        ((w.video v).settles (x.clock 0) = false → w' = w)) ∨
      ∃ w₁ saved expiresAtMS m, ((w.video v).settles (x.clock 0) = false → w₁ = w) ∧
        saved.vehicleID = v ∧
        saved.state = (((w.video v).seen (x.clock 0)).clearedOf controlSessionID).resting
          (x.clock m + s.gracePeriod) ∧
        Attempt.Written w₁ (w₁.saved saved expiresAtMS w₁.clock)
          (x.fates ((w.video v).lookCommands (x.clock 0))) (Succeeds result) w' := by
  obtain ⟨commands, readings, h⟩ := h
  obtain ⟨looked, a₁, hget, h⟩ := completes_bind_iff.mp h
  have hlooks := Attempt.completes_get hkept hget
  rcases looked with error | session
  · obtain ⟨rfl, rfl⟩ := completes_pure_iff.mp h
    exact .inl ⟨mt hlooks.succeeds.mpr (not_succeeds_error error), hlooks.unsettled⟩
  · obtain ⟨hvehicle, hstate, hcommands⟩ := hlooks.found session rfl
    obtain ⟨saved, expiresAtMS, hvehicle', ⟨m, hsaved⟩, hwritten⟩ :=
      Attempt.completes_saveAfterViewerChange h
    rw [hcommands, zero_add] at hwritten
    refine .inr ⟨a₁.gateway, saved, expiresAtMS, m, hlooks.unsettled, hvehicle'.trans hvehicle,
      ?_, hwritten⟩
    rw [hsaved, ← hstate]
    rfl

/-- Clearing a controller that is not the vehicle's leaves its video as it was, whatever
happens, if and only if somebody watches or controls. -/
theorem stale_clear_keeps_iff [Cjson] {s : VideoSessionStore} (hgrace : 0 ≤ s.gracePeriod)
    {ls : List VideoLabel} {st : VideoPool} (hrun : (videoPool s).system.Run ls st)
    {v controlSessionID : GoString} (hv : v.ValidUTF8)
    (hstale : (st.shared.video v).controllerSessionID ≠ controlSessionID) :
    (∀ x result w',
        Attempt.Ends x st.shared (s.clearController v controlSessionID) result w' →
          w'.video v = st.shared.video v) ↔ ¬(st.shared.video v).Idle := by
  have hupheld : Upheld (fun _ ↦ True) (fun _ ↦ True) st.shared := by
    refine upheld_of_run (VideoState.preserved_true fun _ ↦ True) (fun _ _ ↦ trivial) hgrace ?_
      hrun
    intro ls st c hcond
    cases c with
    | setController => exact ⟨trivial, trivial⟩
    | get | acquireViewer | releaseViewer | clearController => trivial
  have hkept := hupheld.recordKept fun _ ↦ hv
  constructor
  · intro hkeeps hidle
    -- all commands succeed, at a time other than the one that the deadline was made from
    let now := |(st.shared.video v).graceDeadlineMS| + 1
    obtain ⟨result, w', hends⟩ := Attempt.exists_ends ⟨fun _ ↦ .done, fun _ ↦ now, none⟩ st.shared
      (s.clearController v controlSessionID)
    have hsame := hkeeps _ _ _ hends
    rcases ends_clearController hkept hends with
      ⟨hfailed, -⟩ | ⟨w₁, saved, expiresAtMS, m, -, hvehicle, hsaved, hwritten⟩
    · exact hfailed ⟨rfl, fun _ ↦ rfl⟩
    · have hrests : (((st.shared.video v).seen now).clearedOf controlSessionID).Idle := by
        refine ⟨(VideoState.seen_viewerCount _ _).trans hidle.1, ?_⟩
        simp only [VideoState.clearedOf, VideoState.seen_controller, hidle.2, ite_self]
      rw [VideoState.resting, if_pos hrests] at hsaved
      have hdeadline : (w'.video v).graceDeadlineMS = now + s.gracePeriod := by
        cases hwritten with
        | done =>
            rw [← hvehicle, video_saved, hsaved]
            rfl
      rw [hsame] at hdeadline
      have habs := le_abs_self (st.shared.video v).graceDeadlineMS
      dsimp only [now] at hdeadline
      omega
  · intro hused x result w' hends
    have hunsettled : (st.shared.video v).settles (x.clock 0) = false :=
      (Bool.not_eq_true _).mp fun h ↦ hused (VideoState.settles_idle h)
    rcases ends_clearController hkept hends with
      ⟨-, hunchanged⟩ | ⟨w₁, saved, expiresAtMS, m, hunchanged, hvehicle, hsaved, hwritten⟩
    · rw [hunchanged hunsettled]
    · obtain rfl := hunchanged hunsettled
      have hstate : saved.state = st.shared.video v := by
        rw [hsaved, VideoState.seen_of_unsettled hunsettled, VideoState.clearedOf_of_ne hstale]
        exact if_neg hused
      rcases hwritten.effect with heq | heq
      · rw [heq]
      · rw [heq, ← hvehicle, video_saved, hstate, hvehicle]
        exact hkept.throughJSON

section Sample

/-- All commands succeed but the `n`th, which is refused. -/
def refusedAt (n : ℕ) (i : ℕ) : Fate := if i = n then .refused else .done

def watching : List (Turn VideoCall ℤ Unit) :=
  .start (.acquireViewer watched) :: List.replicate 6 (.next 0 ())

theorem watching_play :
    letI := Cjson.fourteenDigits
    ∃ ls st, (videoPlayer ⟨45000⟩).play [] ⟨⟨1, Store.empty, []⟩, []⟩ watching = some (ls, st) ∧
      st.shared.viewerIndex (GoString.ofString "v-1") = some watched ∧
      st.shared.video watched = ⟨.active, 1, [], 0⟩ := ⟨_, _, rfl, rfl, rfl⟩

/-- A viewer leaves, the index entry goes and the record is not saved: an error is returned,
and the leave cannot be tried again. -/
theorem left_but_failed :
    letI := Cjson.fourteenDigits
    ∃ ls st result w', (videoPool ⟨45000⟩).system.RunWhere CallsAddressed ls st ∧
      Attempt.Ends ⟨refusedAt 3, fun _ ↦ 1, none⟩ st.shared
        (VideoSessionStore.releaseViewer ⟨45000⟩ (GoString.ofString "v-1")) result w' ∧
      ¬Succeeds result ∧ ¬SameViewing st.shared w' := by
  let := Cjson.fourteenDigits
  let P := videoPlayer ⟨45000⟩
  obtain ⟨ls, st, hplay, hindex, hvideo⟩ := watching_play
  have hinit : (videoPool ⟨45000⟩).system.RunWhere CallsAddressed []
      ⟨⟨1, Store.empty, []⟩, []⟩ := .init ⟨rfl, rfl⟩
  have hcalls : ∀ c, Turn.start c ∈ watching → c.Addressed := by
    intro c hc
    obtain rfl : c = .acquireViewer watched := by simpa [watching] using hc
    exact GoString.validUTF8_ofString _
  have hkeeps : P.Keeps CallsAddressed [] ⟨⟨1, Store.empty, []⟩, []⟩ watching :=
    P.keeps_of_starts (fun ls st l hallowed c hl ↦ hallowed c hl) _ _ hcalls
  have hrun := P.run_of_play hinit hplay hkeeps
  obtain ⟨⟨result, w', hends⟩, hatomic⟩ := failed_call_atomic_iff (by decide) hrun
    (c := .releaseViewer (GoString.ofString "v-1")) trivial ⟨refusedAt 3, fun _ ↦ 1, none⟩
  have htorn : (VideoCall.releaseViewer (GoString.ofString "v-1")).Torn st.shared (refusedAt 3)
      1 := by
    refine ⟨watched, hindex, ?_⟩
    rw [hvideo]
    dsimp only
    decide
  have hchanged := mt (hatomic result w' hends).mp (not_not_intro htorn)
  rw [Classical.not_imp] at hchanged
  exact ⟨ls, st, result, w', hrun, hends, hchanged.1, hchanged.2⟩

/-- A viewer joins, the record is saved and the index is not: an error is returned, and the
viewer is counted. -/
theorem phantom_viewer :
    letI := Cjson.fourteenDigits
    ∃ ls st result w', (videoPool ⟨45000⟩).system.RunWhere CallsAddressed ls st ∧
      Attempt.Ends ⟨refusedAt 2, fun _ ↦ 1, none⟩ st.shared
        (VideoSessionStore.acquireViewer ⟨45000⟩ watched) result w' ∧
      ¬Succeeds result ∧ ¬SameViewing st.shared w' := by
  let := Cjson.fourteenDigits
  have hrun : (videoPool ⟨45000⟩).system.RunWhere CallsAddressed []
      ⟨⟨1, Store.empty, []⟩, []⟩ := .init ⟨rfl, rfl⟩
  obtain ⟨result, w', hends⟩ := Attempt.exists_ends ⟨refusedAt 2, fun _ ↦ 1, none⟩
    ⟨1, Store.empty, []⟩ (VideoSessionStore.acquireViewer ⟨45000⟩ watched)
  have hatomic := Attempt.acquireViewer_keeps_iff (by decide) (by rintro record ⟨⟩) hends
  have htorn : (VideoCall.acquireViewer watched).Torn ⟨1, Store.empty, []⟩ (refusedAt 2) 1 := by
    dsimp only [VideoCall.Torn]
    decide
  have hchanged := mt hatomic.mp (not_not_intro htorn)
  rw [Classical.not_imp] at hchanged
  exact ⟨[], _, result, w', hrun, hends, hchanged.1, hchanged.2⟩

/-- Somebody watches: a stale clear changes nothing. -/
theorem watched_clear_keeps :
    letI := Cjson.fourteenDigits
    ∃ ls st, (videoPool ⟨45000⟩).system.Run ls st ∧
      ∀ x result w', Attempt.Ends x st.shared
        (VideoSessionStore.clearController ⟨45000⟩ watched (GoString.ofString "c-1")) result w' →
          w'.video watched = ⟨.active, 1, [], 0⟩ := by
  let := Cjson.fourteenDigits
  let P := videoPlayer ⟨45000⟩
  obtain ⟨ls, st, hplay, -, hvideo⟩ := watching_play
  have hinit : (videoPool ⟨45000⟩).system.Run [] ⟨⟨1, Store.empty, []⟩, []⟩ := .init ⟨rfl, rfl⟩
  have hrun := P.run_of_play hinit hplay (P.keeps_of_forall (fun _ _ _ ↦ trivial) _ _ _)
  have hstale : (st.shared.video watched).controllerSessionID ≠ GoString.ofString "c-1" := by
    rw [hvideo]
    decide
  have hused : ¬(st.shared.video watched).Idle := by
    rw [hvideo]
    decide
  refine ⟨ls, st, hrun, fun x result w' hends ↦ ?_⟩
  rw [← hvideo]
  exact (stale_clear_keeps_iff (by decide) hrun (GoString.validUTF8_ofString _) hstale).mpr hused
    x result w' hends

/-- A vehicle on standby is turned on by a clear that concerns nobody. -/
theorem stale_clear_reactivates :
    letI := Cjson.fourteenDigits
    ∃ ls st x result w', (videoPool ⟨45000⟩).system.Run ls st ∧
      Attempt.Ends x st.shared
        (VideoSessionStore.clearController ⟨45000⟩ watched (GoString.ofString "c-1")) result w' ∧
      (st.shared.video watched).controllerSessionID ≠ GoString.ofString "c-1" ∧
      (st.shared.video watched).mode = .standby ∧ (w'.video watched).mode = .active := by
  let := Cjson.fourteenDigits
  have hrun : (videoPool ⟨45000⟩).system.Run [] ⟨⟨1, Store.empty, []⟩, []⟩ := .init ⟨rfl, rfl⟩
  obtain ⟨result, w', hends⟩ := Attempt.exists_ends ⟨fun _ ↦ .done, fun _ ↦ 1, none⟩
    ⟨1, Store.empty, []⟩
    (VideoSessionStore.clearController ⟨45000⟩ watched (GoString.ofString "c-1"))
  refine ⟨[], _, _, result, w', hrun, hends, by decide, by decide, ?_⟩
  rcases ends_clearController (by rintro record ⟨⟩) hends with
    ⟨hfailed, -⟩ | ⟨w₁, saved, expiresAtMS, m, -, hvehicle, hsaved, hwritten⟩
  · exact absurd ⟨rfl, fun _ ↦ rfl⟩ hfailed
  · cases hwritten with
    | done =>
        rw [← hvehicle, video_saved, hsaved]
        rfl

end Sample

end RemoteInfra.Gateway
