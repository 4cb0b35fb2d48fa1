import RemoteInfra.Gateway.Faults
import RemoteInfra.Gateway.LeaseHistory

/-!
# What is stored about a vehicle's video

Any number of calls of the video store at once, whose Redis commands may fail, run without a
reply, or find a key expired.  Every call writes back a record that it made from the record
it read, however old; so what holds of every stored record is what each operation preserves
on its own.
-/

namespace RemoteInfra.Gateway

open RemoteInfra.Library RemoteInfra.Library.Program

/-- What a record says of the video itself. -/
structure VideoState where
  mode : VideoMode
  viewerCount : ℤ
  controllerSessionID : GoString
  graceDeadlineMS : ℤ
  deriving DecidableEq

def VideoSession.state (session : VideoSession) : VideoState where
  mode := session.mode
  viewerCount := session.viewerCount
  controllerSessionID := session.controllerSessionID
  graceDeadlineMS := session.graceDeadlineMS

namespace VideoState

/-! ## The operations, on what a record says -/

def standby : VideoState := ⟨.standby, 0, [], 0⟩

/-- Nobody watches and nobody controls. -/
def Idle (v : VideoState) : Prop := v.viewerCount = 0 ∧ v.controllerSessionID = []

instance (v : VideoState) : Decidable v.Idle :=
  inferInstanceAs (Decidable (v.viewerCount = 0 ∧ v.controllerSessionID = []))

def joined (v : VideoState) : VideoState :=
  { v with viewerCount := v.viewerCount + 1, mode := .active, graceDeadlineMS := 0 }

def left (v : VideoState) : VideoState :=
  { v with viewerCount := if v.viewerCount > 0 then v.viewerCount - 1 else v.viewerCount }

def controlledBy (v : VideoState) (controlSessionID : GoString) : VideoState :=
  { v with controllerSessionID := controlSessionID, mode := .active, graceDeadlineMS := 0 }

def clearedOf (v : VideoState) (controlSessionID : GoString) : VideoState :=
  { v with
    controllerSessionID :=
      if v.controllerSessionID = controlSessionID then [] else v.controllerSessionID }

/-- The grace period of an idle vehicle ends at `deadline`. -/
def resting (v : VideoState) (deadline : ℤ) : VideoState :=
  if v.Idle then { v with mode := .active, graceDeadlineMS := deadline } else v

/-- The state as it comes back out of the store. -/
def throughJSON (v : VideoState) : VideoState :=
  { v with controllerSessionID := v.controllerSessionID.throughJSON }

/-- A property that every operation preserves, if control sessions have `permitted` ids. -/
structure Preserved (permitted : GoString → Prop) (P : VideoState → Prop) : Prop where
  standby : P standby
  throughJSON : ∀ {v}, P v → P v.throughJSON
  joined : ∀ {v}, P v → P v.joined
  left : ∀ {v deadline}, P v → 0 < deadline → P (v.left.resting deadline)
  controlledBy : ∀ {v id}, P v → permitted id → P (v.controlledBy id)
  clearedOf : ∀ {v id deadline}, P v → 0 < deadline → P ((v.clearedOf id).resting deadline)

theorem preserved_true (permitted : GoString → Prop) :
    Preserved permitted fun _ ↦ True := by
  constructor <;> intros <;> trivial

/-- The video is on while somebody watches or controls; left alone, it is on until a deadline
or else on standby. -/
structure Consistent (v : VideoState) : Prop where
  counted : 0 ≤ v.viewerCount
  used : 0 < v.viewerCount ∨ v.controllerSessionID ≠ [] →
    v.mode = .active ∧ v.graceDeadlineMS = 0
  idle : v.viewerCount = 0 → v.controllerSessionID = [] → v.mode = .active →
    0 < v.graceDeadlineMS
  standby : v.mode = .standby → v.graceDeadlineMS = 0

namespace Consistent

theorem standby_state : VideoState.standby.Consistent where
  counted := le_rfl
  used h := by
    rcases h with hcount | hcontroller
    · exact absurd hcount (by decide)
    · exact absurd rfl hcontroller
  idle _ _ h := by cases h
  standby _ := rfl

/-- With somebody there the video is on, without a deadline. -/
theorem of_used {v : VideoState} (hcount : 0 ≤ v.viewerCount)
    (hused : 0 < v.viewerCount ∨ v.controllerSessionID ≠ []) (hmode : v.mode = .active)
    (hdeadline : v.graceDeadlineMS = 0) : v.Consistent where
  counted := hcount
  used _ := ⟨hmode, hdeadline⟩
  idle hzero hempty := by
    rcases hused with hpositive | hnamed
    · omega
    · exact absurd hempty hnamed
  standby _ := hdeadline

theorem of_resting {v : VideoState} {deadline : ℤ} (hcount : 0 ≤ v.viewerCount)
    (hused : ¬v.Idle → v.mode = .active ∧ v.graceDeadlineMS = 0) (hdeadline : 0 < deadline) :
    (v.resting deadline).Consistent := by
  unfold resting
  split_ifs with hidle
  · refine ⟨hcount, fun hused ↦ ?_, fun _ _ _ ↦ hdeadline, fun h ↦ by cases h⟩
    rcases hused with hpositive | hnamed
    · have hzero := hidle.1
      dsimp only at hpositive
      omega
    · exact absurd hidle.2 hnamed
  · obtain ⟨hmode, hzero⟩ := hused hidle
    refine of_used hcount ?_ hmode hzero
    by_cases hempty : v.controllerSessionID = []
    · left
      have hne : v.viewerCount ≠ 0 := fun hcount ↦ hidle ⟨hcount, hempty⟩
      omega
    · exact .inr hempty

variable {v : VideoState}

theorem throughJSON (h : v.Consistent) : v.throughJSON.Consistent := by
  have hnamed : v.controllerSessionID.throughJSON = [] ↔ v.controllerSessionID = [] :=
    List.map_eq_nil_iff
  refine ⟨h.counted, fun hused ↦ h.used ?_, fun hcount hempty ↦ ?_, h.standby⟩
  · exact hused.imp_right fun hne hempty ↦ hne (hnamed.mpr hempty)
  · exact h.idle hcount (hnamed.mp hempty)

theorem joined (h : v.Consistent) : v.joined.Consistent := by
  have hcount := h.counted
  refine of_used ?_ (.inl ?_) rfl rfl
  · dsimp only [VideoState.joined]
    omega
  · dsimp only [VideoState.joined]
    omega

theorem left (h : v.Consistent) {deadline : ℤ} (hdeadline : 0 < deadline) :
    (v.left.resting deadline).Consistent := by
  have hcount := h.counted
  refine of_resting ?_ (fun hidle ↦ h.used ?_) hdeadline
  · dsimp only [VideoState.left]
    split_ifs <;> omega
  · -- whoever is still there was there before
    by_cases hempty : v.controllerSessionID = []
    · left
      by_contra hnone
      refine hidle ⟨?_, hempty⟩
      dsimp only [VideoState.left]
      rw [if_neg hnone]
      omega
    · exact .inr hempty

theorem controlledBy (h : v.Consistent) {id : GoString} (hid : id ≠ []) :
    (v.controlledBy id).Consistent :=
  of_used h.counted (.inr hid) rfl rfl

theorem clearedOf (h : v.Consistent) (id : GoString) {deadline : ℤ} (hdeadline : 0 < deadline) :
    ((v.clearedOf id).resting deadline).Consistent := by
  refine of_resting h.counted (fun hidle ↦ h.used ?_) hdeadline
  by_cases hempty : v.controllerSessionID = []
  · left
    have hcount := h.counted
    have hne : v.viewerCount ≠ 0 := by
      intro hzero
      refine hidle ⟨hzero, ?_⟩
      dsimp only [VideoState.clearedOf]
      rw [hempty]
      exact ite_self _
    omega
  · exact .inr hempty

end Consistent

theorem preserved_consistent : Preserved (· ≠ []) Consistent where
  standby := Consistent.standby_state
  throughJSON h := h.throughJSON
  joined h := h.joined
  left h hdeadline := h.left hdeadline
  controlledBy h hid := h.controlledBy hid
  clearedOf h hdeadline := h.clearedOf _ hdeadline

end VideoState

/-! ## What the programs store -/

/-- Redis's clock never goes back; a process may read any positive time off its own. -/
def Timing.free : Timing where
  passes c t := c ≤ t
  reads _ now := 0 < now
  forward h := h
  trans h h' := h.trans h'

/-- A record as `save` puts it under the key of one of `vehicles`. -/
def WrittenFor (P : VideoState → Prop) (vehicles : GoString → Prop) (vehicleID : GoString)
    (record : VideoSession) : Prop :=
  vehicles vehicleID ∧ ∃ session : VideoSession,
    session.vehicleID = vehicleID ∧ P session.state ∧ record = session.marshal

/-- Records that satisfy `P`, and index entries, of `vehicles`. -/
def Stores (P : VideoState → Prop) (vehicles : GoString → Prop) : Effect → Prop
  | .redis (.set (.videoSession vehicleID) record _) => WrittenFor P vehicles vehicleID record
  | .redis (.set (.videoViewer _) vehicleID _) => vehicles vehicleID
  | _ => True

/-- Times are positive; records that are read satisfy `P`, and they and the index entries are of
`vehicles`. -/
def Reads (P : VideoState → Prop) (vehicles : GoString → Prop) : (e : Effect) → e.Reply → Prop
  | .timeNow, now => 0 < now
  | .redis (.get (.videoSession _)), reply =>
      ∀ record, reply = .ok (some record) → P record.state ∧ vehicles record.vehicleID
  | .redis (.get (.videoViewer _)), reply =>
      ∀ vehicleID, reply = .ok (some vehicleID) → vehicles vehicleID
  | _, _ => True

structure Upheld (P : VideoState → Prop) (vehicles : GoString → Prop) (w : GatewayState) :
    Prop where
  record : ∀ vehicleID e, w.redis (.videoSession vehicleID) = some e →
    WrittenFor P vehicles vehicleID e.value
  index : ∀ sessionID e, w.redis (.videoViewer sessionID) = some e → vehicles e.value

section Upheld

variable [Cjson] {P : VideoState → Prop} {permitted vehicles : GoString → Prop}
  {w w' : GatewayState}

theorem Upheld.command (h : Upheld P vehicles w) {t : ℤ} {cmd : RedisCommand}
    {result : cmd.Result} {redis : Redis} (hstores : Stores P vehicles (.redis cmd))
    (hexec : cmd.exec t w.redis = .ok (result, redis)) :
    Upheld P vehicles { w with clock := t, redis := redis } where
  record vehicleID e he := by
    rcases RedisCommand.exec_stores hexec (by simp) (by simp) he with hold | ⟨px, rfl⟩
    · exact h.record vehicleID e hold
    · exact hstores
  index sessionID e he := by
    rcases RedisCommand.exec_stores hexec (by simp) (by simp) he with hold | ⟨px, rfl⟩
    · exact h.index sessionID e hold
    · exact hstores

/-- What is read is what is stored. -/
theorem Upheld.reads (h : Upheld P vehicles w) (hP : VideoState.Preserved permitted P)
    (hvehicles : ∀ v, vehicles v → vehicles v.throughJSON) {t : ℤ} {cmd : RedisCommand}
    {result : cmd.Result} {redis : Redis} (hexec : cmd.exec t w.redis = .ok (result, redis)) :
    Reads P vehicles (.redis cmd) (.ok result) := by
  cases cmd with
  | get k =>
      cases k with
      | videoSession vehicleID =>
          rintro record hrecord
          obtain ⟨rfl, rfl⟩ := Prod.mk.inj (Except.ok.inj hexec)
          obtain ⟨e, hlive, rfl⟩ := Store.get_eq_some_iff.mp (Except.ok.inj hrecord)
          obtain ⟨hvehicle, session, rfl, hsession, heq⟩ :=
            h.record vehicleID e (Store.live_eq_some_iff.mp hlive).1
          rw [heq]
          exact ⟨hP.throughJSON hsession, hvehicles _ hvehicle⟩
      | videoViewer sessionID =>
          rintro vehicleID hindex
          obtain ⟨rfl, rfl⟩ := Prod.mk.inj (Except.ok.inj hexec)
          obtain ⟨e, hlive, rfl⟩ := Store.get_eq_some_iff.mp (Except.ok.inj hindex)
          exact h.index sessionID e (Store.live_eq_some_iff.mp hlive).1
      | controlLease | controlSessionIndex => trivial
  | set | del | acquireScript | renewScript | releaseScript => trivial

omit [Cjson] in
theorem reads_of_error (P : VideoState → Prop) (vehicles : GoString → Prop) (cmd : RedisCommand)
    (error : RedisError) : Reads P vehicles (.redis cmd) (.error error) := by
  cases cmd with
  | get k =>
      cases k with
      | videoSession => rintro record ⟨⟩
      | videoViewer => rintro vehicleID ⟨⟩
      | controlLease | controlSessionIndex => trivial
  | set | del | acquireScript | renewScript | releaseScript => trivial

theorem Upheld.effect (h : Upheld P vehicles w) (hP : VideoState.Preserved permitted P)
    (hvehicles : ∀ v, vehicles v → vehicles v.throughJSON) {e : Effect} {r : e.Reply}
    (hstores : Stores P vehicles e) (hexec : MayFail Timing.free w e r w') :
    Reads P vehicles e r ∧ Upheld P vehicles w' := by
  obtain ⟨fate, hfaces⟩ := hexec
  cases hfaces with
  | done hserves =>
      cases hserves with
      | timeNow _ hreads => exact ⟨hreads, h.record, h.index⟩
      | newUUID => exact ⟨trivial, h.record, h.index⟩
      | redis _ hran => exact ⟨h.reads hP hvehicles hran, h.command hstores hran⟩
      | issueOperatorToken => exact ⟨trivial, h.record, h.index⟩
      | recordAudit => exact ⟨trivial, h.record, h.index⟩
  | refused => exact ⟨reads_of_error P vehicles _ _, h.record, h.index⟩
  | lost _ hran => exact ⟨reads_of_error P vehicles _ _, h.command hstores hran⟩

end Upheld

namespace VideoSessionStore

variable {P : VideoState → Prop} {permitted vehicles : GoString → Prop}

/-- Asks only for what `Stores` permits, as long as replies are as `Reads` says. -/
abbrev Upholds {α : Type} (P : VideoState → Prop) (vehicles : GoString → Prop) (Q : α → Prop)
    (p : GatewayProgram α) : Prop :=
  p.Keeps (Stores P vehicles) (Reads P vehicles) Q

/-- A session that is returned satisfies `P`. -/
def Returns (P : VideoState → Prop) (result : Except VideoSessionError VideoSession) : Prop :=
  ∀ session, result = .ok session → P session.state

theorem returns_error (P : VideoState → Prop) (error : VideoSessionError) :
    Returns P (.error error) := by
  rintro session ⟨⟩

theorem returns_ok {session : VideoSession} (h : P session.state) : Returns P (.ok session) := by
  rintro _ ⟨⟩
  exact h

theorem upholds_stamped (session : VideoSession) :
    Upholds P vehicles
      (fun stamped ↦ stamped.vehicleID = session.vehicleID ∧ stamped.state = session.state)
      (stamped session) := by
  unfold stamped
  split_ifs
  · exact Keeps.call trivial fun now _ ↦ Keeps.pure ⟨rfl, rfl⟩
  · exact Keeps.pure ⟨rfl, rfl⟩

theorem upholds_save {session : VideoSession} (hvehicle : vehicles session.vehicleID)
    (h : P session.state) : Upholds P vehicles (fun _ ↦ True) (save session) := by
  refine (upholds_stamped session).bind fun stamped hstamped ↦ ?_
  have hwritten : WrittenFor P vehicles stamped.vehicleID stamped.marshal := by
    rw [← hstamped.1] at hvehicle
    rw [← hstamped.2] at h
    exact ⟨hvehicle, stamped, rfl, h, rfl⟩
  refine Keeps.call hwritten fun reply _ ↦ ?_
  rcases reply with error | _ <;> exact Keeps.pure trivial

theorem upholds_andSave {session : VideoSession} (hvehicle : vehicles session.vehicleID)
    (h : P session.state) : Upholds P vehicles (Returns P) (andSave session) := by
  refine (upholds_save hvehicle h).bind fun result _ ↦ ?_
  rcases result with error | _
  · exact Keeps.pure (returns_error P _)
  · exact Keeps.pure (returns_ok h)

theorem inGrace_iff {session : VideoSession} : inGrace session = true ↔
    session.mode = .active ∧ session.state.Idle ∧ 0 < session.graceDeadlineMS := by
  simp [inGrace, VideoState.Idle, VideoSession.state, and_assoc]

/-- Once its grace period is over a vehicle is as if it had no record. -/
theorem settled_state {session : VideoSession} (h : inGrace session = true) :
    session.settled.state = .standby := by
  obtain ⟨-, ⟨hcount, hcontroller⟩, -⟩ := inGrace_iff.mp h
  simp only [VideoSession.state] at hcount hcontroller
  simp [VideoSession.state, VideoSession.settled, VideoState.standby, hcount, hcontroller]

variable (hP : VideoState.Preserved permitted P)

include hP

/-- A look returns a session of the vehicle that was asked for, or of one that was read. -/
theorem upholds_get (vehicleID : GoString) :
    Upholds P vehicles
      (fun result ↦ ∀ session, result = .ok session →
        P session.state ∧ (vehicles vehicleID → vehicles session.vehicleID)) (get vehicleID) := by
  refine Keeps.call trivial fun reply hreads ↦ ?_
  rcases reply with error | _ | session
  · exact Keeps.pure (by rintro session ⟨⟩)
  · refine Keeps.call trivial fun now _ ↦ Keeps.pure ?_
    rintro session ⟨⟩
    exact ⟨hP.standby, id⟩
  · obtain ⟨hsession, hvehicle⟩ := hreads session rfl
    have hreturned : ∀ returned, (Except.ok session : Except VideoSessionError VideoSession) =
        .ok returned → P returned.state ∧ (vehicles vehicleID → vehicles returned.vehicleID) := by
      rintro returned ⟨⟩
      exact ⟨hsession, fun _ ↦ hvehicle⟩
    simp only [Program.bind]
    split_ifs with hgrace
    · refine Keeps.call trivial fun now _ ↦ ?_
      simp only [Program.bind]
      split_ifs
      · have hsettled : P session.settled.state := by
          rw [settled_state hgrace]
          exact hP.standby
        have hsaved : Upholds P vehicles (fun _ ↦ True) (save session.settled) :=
          upholds_save hvehicle hsettled
        refine hsaved.bind fun saved _ ↦ ?_
        rcases saved with error | _
        · exact Keeps.pure (by rintro returned ⟨⟩)
        · refine Keeps.pure ?_
          rintro returned ⟨⟩
          exact ⟨hsettled, fun _ ↦ hvehicle⟩
      · exact Keeps.pure hreturned
    · exact Keeps.pure hreturned

omit hP in
theorem upholds_named (session : VideoSession) :
    Upholds P vehicles
      (fun named ↦ named.vehicleID = session.vehicleID ∧ named.state = session.state)
      (named session) := by
  unfold named
  split_ifs
  · exact Keeps.call trivial fun id _ ↦ Keeps.call trivial fun now _ ↦ Keeps.pure ⟨rfl, rfl⟩
  · exact Keeps.pure ⟨rfl, rfl⟩

theorem upholds_acquireViewer (s : VideoSessionStore) {vehicleID : GoString}
    (hvehicle : vehicles vehicleID) :
    Upholds P vehicles (Returns P) (s.acquireViewer vehicleID) := by
  refine (upholds_get hP vehicleID).bind fun result hresult ↦ ?_
  rcases result with error | session
  · exact Keeps.pure (returns_error P _)
  · refine (upholds_named session).bind fun named hnamed ↦ ?_
    obtain ⟨hsession, hfound⟩ := hresult session rfl
    have hvehicle' : vehicles named.vehicleID := by
      rw [hnamed.1]
      exact hfound hvehicle
    have hjoined : P named.state.joined := by
      rw [hnamed.2]
      exact hP.joined hsession
    refine Keeps.bind (P := fun _ ↦ True) (upholds_save ?_ hjoined) fun saved _ ↦ ?_
    · exact hvehicle'
    · rcases saved with error | _
      · exact Keeps.pure (returns_error P _)
      · refine Keeps.call hvehicle fun reply _ ↦ ?_
        rcases reply with error | _
        · exact Keeps.pure (returns_error P _)
        · exact Keeps.pure (returns_ok hjoined)

omit hP in
theorem upholds_saveAfterViewerChange {s : VideoSessionStore} (hgrace : 0 ≤ s.gracePeriod)
    {session : VideoSession} (hvehicle : vehicles session.vehicleID)
    (h : ∀ deadline, 0 < deadline → P (session.state.resting deadline)) :
    Upholds P vehicles (Returns P) (s.saveAfterViewerChange session) := by
  unfold saveAfterViewerChange
  split_ifs with hidle
  · have hstate : session.state.Idle := hidle
    refine Keeps.call trivial fun now hnow ↦ upholds_andSave hvehicle ?_
    have hresting := h (now + s.gracePeriod) (lt_add_of_pos_of_le hnow hgrace)
    rwa [VideoState.resting, if_pos hstate] at hresting
  · have hstate : ¬session.state.Idle := hidle
    refine upholds_andSave hvehicle ?_
    have hresting := h 1 (by decide)
    rwa [VideoState.resting, if_neg hstate] at hresting

theorem upholds_releaseViewer {s : VideoSessionStore} (hgrace : 0 ≤ s.gracePeriod)
    (sessionID : GoString) : Upholds P vehicles (Returns P) (s.releaseViewer sessionID) := by
  refine Keeps.call trivial fun reply hreads ↦ ?_
  rcases reply with error | _ | vehicleID
  · exact Keeps.pure (returns_error P _)
  · exact Keeps.pure (returns_error P _)
  · have hvehicle : vehicles vehicleID := hreads vehicleID rfl
    refine (upholds_get hP vehicleID).bind fun result hresult ↦ ?_
    rcases result with error | session
    · exact Keeps.pure (returns_error P _)
    · obtain ⟨hsession, hfound⟩ := hresult session rfl
      exact Keeps.call trivial fun reply _ ↦
        upholds_saveAfterViewerChange hgrace (hfound hvehicle) fun deadline hdeadline ↦
          hP.left hsession hdeadline

theorem upholds_setController {vehicleID controlSessionID : GoString}
    (hvehicle : vehicles vehicleID) (hid : permitted controlSessionID) :
    Upholds P vehicles (Returns P) (setController vehicleID controlSessionID) := by
  refine (upholds_get hP vehicleID).bind fun result hresult ↦ ?_
  rcases result with error | session
  · exact Keeps.pure (returns_error P _)
  · obtain ⟨hsession, hfound⟩ := hresult session rfl
    refine (upholds_named session).bind fun named hnamed ↦ upholds_andSave ?_ ?_
    · have hvehicle' := hfound hvehicle
      rwa [← hnamed.1] at hvehicle'
    · have hcontrolled := hP.controlledBy hsession hid
      rwa [← hnamed.2] at hcontrolled

theorem upholds_clearController {s : VideoSessionStore} (hgrace : 0 ≤ s.gracePeriod)
    {vehicleID : GoString} (hvehicle : vehicles vehicleID) (controlSessionID : GoString) :
    Upholds P vehicles (Returns P) (s.clearController vehicleID controlSessionID) := by
  refine (upholds_get hP vehicleID).bind fun result hresult ↦ ?_
  rcases result with error | session
  · exact Keeps.pure (returns_error P _)
  · obtain ⟨hsession, hfound⟩ := hresult session rfl
    exact upholds_saveAfterViewerChange hgrace (hfound hvehicle) fun deadline hdeadline ↦
      hP.clearedOf hsession hdeadline

end VideoSessionStore

/-! ## Runs of the store -/

inductive VideoCall
  | get (vehicleID : GoString)
  | acquireViewer (vehicleID : GoString)
  | releaseViewer (sessionID : GoString)
  | setController (vehicleID controlSessionID : GoString)
  | clearController (vehicleID controlSessionID : GoString)
  deriving DecidableEq

namespace VideoCall

def program (s : VideoSessionStore) :
    VideoCall → GatewayProgram (Except VideoSessionError VideoSession)
  | get vehicleID => VideoSessionStore.get vehicleID
  | acquireViewer vehicleID => s.acquireViewer vehicleID
  | releaseViewer sessionID => s.releaseViewer sessionID
  | setController vehicleID controlSessionID =>
      VideoSessionStore.setController vehicleID controlSessionID
  | clearController vehicleID controlSessionID => s.clearController vehicleID controlSessionID

/-- What is changed is the video of `vehicles`, and controllers have `permitted` ids. -/
def Admitted (permitted vehicles : GoString → Prop) : VideoCall → Prop
  | acquireViewer vehicleID => vehicles vehicleID
  | setController vehicleID controlSessionID => vehicles vehicleID ∧ permitted controlSessionID
  | clearController vehicleID _ => vehicles vehicleID
  | get _ | releaseViewer _ => True

theorem upholds_program {P : VideoState → Prop} {permitted vehicles : GoString → Prop}
    (hP : VideoState.Preserved permitted P) {s : VideoSessionStore}
    (hgrace : 0 ≤ s.gracePeriod) {c : VideoCall} (hc : c.Admitted permitted vehicles) :
    VideoSessionStore.Upholds P vehicles (VideoSessionStore.Returns P) (c.program s) := by
  cases c with
  | get v =>
      refine (VideoSessionStore.upholds_get hP v).mono fun _ result hresult session hsession ↦ ?_
      exact (hresult session hsession).1
  | acquireViewer v => exact VideoSessionStore.upholds_acquireViewer hP s hc
  | releaseViewer id => exact VideoSessionStore.upholds_releaseViewer hP hgrace id
  | setController v id => exact VideoSessionStore.upholds_setController hP hc.1 hc.2
  | clearController v id => exact VideoSessionStore.upholds_clearController hP hgrace hc id

end VideoCall

abbrev VideoLabel := GatewayLabel VideoCall

abbrev VideoPool := GatewayPool VideoCall (Except VideoSessionError VideoSession)

/-- Concurrent calls of the store, on a Redis that starts empty. -/
def videoPool [Cjson] (s : VideoSessionStore) :
    PoolSystem GatewayState VideoCall ℤ Effect Effect.Reply
      (Except VideoSessionError VideoSession) where
  Init w := w.redis = Store.empty
  program := VideoCall.program s
  Exec := MayFail Timing.free
  EnvStep := ClockStep

section Runs

variable [Cjson] {s : VideoSessionStore} {ls : List VideoLabel} {st : VideoPool}

theorem upheld_of_run {P : VideoState → Prop} {permitted vehicles : GoString → Prop}
    (hP : VideoState.Preserved permitted P)
    (hvehicles : ∀ v, vehicles v → vehicles v.throughJSON) (hgrace : 0 ≤ s.gracePeriod)
    {C : TransitionSystem.StepCondition VideoPool VideoLabel}
    (hC : ∀ ls st c, C ls st (.spawn c) → c.Admitted permitted vehicles)
    (hrun : (videoPool s).system.RunWhere C ls st) : Upheld P vehicles st.shared := by
  have hspawn : ∀ ls st c, C ls st (.spawn c) → VideoSessionStore.Upholds P vehicles
      (VideoSessionStore.Returns P) ((videoPool s).program c) :=
    fun ls st c hcond ↦ VideoCall.upholds_program hP hgrace (hC ls st c hcond)
  refine (PoolSystem.invariant_of_keeps (I := Upheld P vehicles) ?_ hspawn ?_ ?_ hrun).1
  · intro w hinit
    have hempty : w.redis = Store.empty := hinit
    constructor
    · intro vehicleID e he
      simp [hempty, Store.empty] at he
    · intro sessionID e he
      simp [hempty, Store.empty] at he
  · intro w e r w' hupheld hstores hexec
    exact hupheld.effect hP hvehicles hstores hexec
  · intro w t w' hupheld hmoved
    cases hmoved
    exact ⟨hupheld.record, hupheld.index⟩

/-- Asked of every step: who takes control has a control session. -/
def ControllersNamed : TransitionSystem.StepCondition VideoPool VideoLabel :=
  fun _ _ l ↦ ∀ vehicleID controlSessionID,
    l = .spawn (.setController vehicleID controlSessionID) → controlSessionID ≠ []

theorem consistent_of_run (hgrace : 0 ≤ s.gracePeriod)
    (hrun : (videoPool s).system.RunWhere ControllersNamed ls st) {vehicleID : GoString}
    {e : Entry VideoSession} (hstored : st.shared.redis (.videoSession vehicleID) = some e) :
    e.value.state.Consistent := by
  have hupheld : Upheld VideoState.Consistent (fun _ ↦ True) st.shared := by
    refine upheld_of_run VideoState.preserved_consistent (fun _ _ ↦ trivial) hgrace
      (fun ls st c hcond ↦ ?_) hrun
    cases c with
    | setController v id => exact ⟨trivial, hcond v id rfl⟩
    | get | acquireViewer | releaseViewer | clearController => trivial
  obtain ⟨-, session, -, hsession, heq⟩ := hupheld.record vehicleID e hstored
  rw [heq]
  exact hsession.throughJSON

end Runs

/-! ## What a look at an idle vehicle returns -/

namespace VideoSessionStore

/-- Between reading an idle record and returning it, `Get` reads the clock once and compares. -/
def Compares (vehicleID : GoString) (tr : List GatewayEvent)
    (result : Except VideoSessionError VideoSession) : Prop :=
  ∀ session record rest, result = .ok session →
    tr = ⟨.redis (.get (.videoSession vehicleID)), .ok (some record)⟩ :: rest →
      inGrace record = true → ∃ now rest', rest = ⟨.timeNow, now⟩ :: rest' ∧
        (session.mode = .standby ↔ record.graceDeadlineMS ≤ now)

theorem follows_andSave (session : VideoSession) (tr : List GatewayEvent) :
    (andSave session).Follows (fun _ _ ↦ True)
      (fun tr' result ↦ (∃ evs, tr' = tr ++ evs) ∧
        ∀ returned, result = .ok returned → returned = session) tr := by
  have hsave : (save session).Follows (fun _ _ ↦ True) (fun tr' _ ↦ ∃ evs, tr' = tr ++ evs) tr :=
    Follows.mono (fun _ _ h ↦ h.imp fun _ hevs ↦ hevs.1)
      ((OnlyAsks.of_true (save session)).follows fun _ _ _ ↦ trivial)
  refine Follows.bind (Follows.mono ?_ hsave)
  rintro tr' result ⟨evs, rfl⟩
  rcases result with error | _
  · exact Follows.pure ⟨⟨evs, rfl⟩, by rintro returned ⟨⟩⟩
  · exact Follows.pure ⟨⟨evs, rfl⟩, by rintro returned ⟨⟩; rfl⟩

theorem follows_get (vehicleID : GoString) :
    (get vehicleID).Follows (fun _ _ ↦ True) (Compares vehicleID) [] := by
  refine Follows.call trivial fun reply ↦ ?_
  rcases reply with error | _ | record
  · refine Follows.pure ?_
    rintro session record rest ⟨⟩
  · refine Follows.call trivial fun now ↦ Follows.pure ?_
    intro session record rest _ htrace
    simp at htrace
  · have hread : ∀ {record' : VideoSession} {evs rest : List GatewayEvent},
        [⟨.redis (.get (.videoSession vehicleID)), .ok (some record)⟩] ++ evs =
          (⟨.redis (.get (.videoSession vehicleID)), .ok (some record')⟩ :: rest :
            List GatewayEvent) → record = record' ∧ evs = rest := by
      intro record' evs rest heq
      obtain ⟨hevent, hrest⟩ := List.cons.inj heq
      cases hevent
      exact ⟨rfl, hrest⟩
    simp only [List.nil_append, Program.bind]
    split_ifs with hgrace
    · refine Follows.call trivial fun now ↦ ?_
      simp only [Program.bind]
      split_ifs with hover
      · refine Follows.mono ?_ (follows_andSave _ _)
        rintro tr result ⟨⟨evs, rfl⟩, hreturned⟩ session record' rest hsession htrace hgrace'
        obtain rfl := hreturned session hsession
        rw [List.append_assoc] at htrace
        obtain ⟨rfl, rfl⟩ := hread htrace
        exact ⟨now, evs, rfl, iff_of_true rfl hover⟩
      · refine Follows.pure ?_
        rintro session record' rest ⟨⟩ htrace hgrace'
        obtain ⟨rfl, rfl⟩ := hread htrace
        have hmode := (inGrace_iff.mp hgrace').1
        exact ⟨now, [], rfl, iff_of_false (by rw [hmode]; decide) hover⟩
    · refine Follows.pure ?_
      rintro session record' rest ⟨⟩ htrace hgrace'
      obtain ⟨rfl, -⟩ := hread htrace
      exact absurd hgrace' hgrace

end VideoSessionStore

/-- Unless somebody takes control without a control session, every record that is ever stored
is consistent; and a look at an idle vehicle whose video is on returns standby exactly when
the clock it then reads has reached the deadline. -/
theorem video_records_consistent [Cjson] {s : VideoSessionStore} (hgrace : 0 ≤ s.gracePeriod)
    {ls : List VideoLabel} {st : VideoPool}
    (hrun : (videoPool s).system.RunWhere ControllersNamed ls st) :
    (∀ vehicleID e, st.shared.redis (.videoSession vehicleID) = some e →
        e.value.state.Consistent) ∧
      ∀ i vehicleID session record rest,
        st.pool[i]? = some (.get vehicleID, .pure (.ok session)) →
          PoolSystem.trace i ls =
              ⟨.redis (.get (.videoSession vehicleID)), .ok (some record)⟩ :: rest →
            record.mode = .active → record.state.Idle →
              ∃ now rest', rest = ⟨.timeNow, now⟩ :: rest' ∧
                (session.mode = .standby ↔ record.graceDeadlineMS ≤ now) := by
  refine ⟨fun vehicleID e he ↦ consistent_of_run hgrace hrun he, ?_⟩
  intro i vehicleID session record rest hpool htrace hmode hidle
  have hgraced : VideoSessionStore.inGrace record = true := by
    obtain ⟨c, hmem⟩ := PoolSystem.mem_trace.mp (htrace ▸ List.mem_cons_self)
    obtain ⟨before, t, t', -, hbefore, -, hstep⟩ := hrun.exists_step hmem
    obtain ⟨e, he, rfl⟩ : ∃ e, t.shared.redis (.videoSession vehicleID) = some e ∧
        e.value = record := by
      cases hstep with
      | exec _ hexec =>
          obtain ⟨fate, hfaces⟩ := hexec
          cases hfaces with
          | done hserves =>
              obtain ⟨clock, -, hreply, -⟩ := serves_get_iff.mp hserves
              obtain ⟨e, hlive, heq⟩ := Store.get_eq_some_iff.mp (Except.ok.inj hreply).symm
              exact ⟨e, (Store.live_eq_some_iff.mp hlive).1, heq⟩
    have hconsistent := consistent_of_run hgrace hbefore he
    exact VideoSessionStore.inGrace_iff.mpr
      ⟨hmode, hidle, hconsistent.idle hidle.1 hidle.2 hmode⟩
  have hprogram : ∀ c, ((videoPool s).program c).Follows (fun _ _ ↦ True)
      (fun tr result ↦ ∀ v, c = .get v → VideoSessionStore.Compares v tr result) [] := by
    intro c
    cases c with
    | get v =>
        refine Follows.mono ?_ (VideoSessionStore.follows_get v)
        rintro tr result hcompares _ ⟨⟩
        exact hcompares
    | acquireViewer | releaseViewer | setController | clearController =>
        refine Follows.mono ?_ ((OnlyAsks.of_true _).follows fun _ _ _ ↦ trivial)
        rintro tr result - v ⟨⟩
  have hcompares := ((PoolSystem.follows_of_run hprogram hrun).2 i _ _ hpool).result
  exact hcompares vehicleID rfl session record rest rfl htrace hgraced

section Sample

/-- Answers at once, as long as the clock is positive. -/
def videoPlayer [Cjson] (s : VideoSessionStore) : (videoPool s).Player Unit where
  exec w e _ := if 0 < w.clock then serveAtOnce ["v-1"] w e else none
  pass w t := if w.clock ≤ t then some { w with clock := t } else none
  exec_sound {w e a r w'} h := by
    split_ifs at h with hpositive
    refine ⟨.done, .done ((serves_of_serveAtOnce h).mono ?_ ?_)⟩
    · exact fun t ht ↦ Timing.instant.forward ht
    · rintro t now rfl rfl
      exact hpositive
  pass_sound {w t w'} h := by
    split_ifs at h with hle
    obtain rfl := Option.some.inj h
    exact .tick hle

def watched : GoString := GoString.ofString "car-001"

/-- A viewer joins and leaves; somebody looks when the grace period is over. -/
def watchedOnce : List (Turn VideoCall ℤ Unit) :=
  .start (.acquireViewer watched) :: List.replicate 6 (.next 0 ()) ++
    .start (.releaseViewer (GoString.ofString "v-1")) :: List.replicate 5 (.next 1 ()) ++
      .pass 45001 :: .start (.get watched) :: List.replicate 3 (.next 2 ())

theorem watchedOnce_play :
    letI := Cjson.fourteenDigits
    ∃ ls st session record rest,
      (videoPlayer ⟨45000⟩).play [] ⟨⟨1, Store.empty, []⟩, []⟩ watchedOnce = some (ls, st) ∧
        st.pool[2]? = some (.get watched, .pure (.ok session)) ∧
        PoolSystem.trace 2 ls =
          ⟨.redis (.get (.videoSession watched)), .ok (some record)⟩ :: rest ∧
        session.mode = .standby ∧ record.state = ⟨.active, 0, [], 45001⟩ :=
  ⟨_, _, _, _, _, rfl, rfl, rfl, rfl, rfl⟩

/-- The look returns standby, since the clock it read had reached the deadline. -/
theorem look_after_grace :
    letI := Cjson.fourteenDigits
    ∃ ls st session record now rest,
      (videoPool ⟨45000⟩).system.RunWhere ControllersNamed ls st ∧
        st.pool[2]? = some (.get watched, .pure (.ok session)) ∧ session.mode = .standby ∧
        PoolSystem.trace 2 ls = ⟨.redis (.get (.videoSession watched)), .ok (some record)⟩ ::
          ⟨.timeNow, now⟩ :: rest ∧ record.graceDeadlineMS ≤ now := by
  let := Cjson.fourteenDigits
  let P := videoPlayer ⟨45000⟩
  obtain ⟨ls, st, session, record, rest, hplay, hpool, htrace, hstandby, hstate⟩ :=
    watchedOnce_play
  have hinit : (videoPool ⟨45000⟩).system.RunWhere ControllersNamed []
      ⟨⟨1, Store.empty, []⟩, []⟩ := .init ⟨rfl, rfl⟩
  have hcalls : ∀ c, .start c ∈ watchedOnce → ∀ v id, c = .setController v id → id ≠ [] := by
    simp [watchedOnce]
  have hkeeps : P.Keeps ControllersNamed [] ⟨⟨1, Store.empty, []⟩, []⟩ watchedOnce := by
    refine P.keeps_of_starts (fun ls st l hallowed v id hl ↦ ?_) _ _ hcalls
    exact hallowed _ hl v id rfl
  have hrun := P.run_of_play hinit hplay hkeeps
  obtain ⟨hmode, hcount, hcontroller, -⟩ := VideoState.mk.inj hstate
  obtain ⟨now, rest', rfl, hcompared⟩ := (video_records_consistent (by decide) hrun).2 2 watched
    session record rest hpool htrace hmode ⟨hcount, hcontroller⟩
  exact ⟨ls, st, session, record, now, rest', hrun, hpool, hstandby, htrace,
    hcompared.mp hstandby⟩

/-- A controller without a control session leaves the video on, with nobody there and no
deadline. -/
theorem unnamed_controller_never_rests :
    letI := Cjson.fourteenDigits
    ∃ ls st e, (videoPool ⟨45000⟩).system.Run ls st ∧
      st.shared.redis (.videoSession watched) = some e ∧
      e.value.state = ⟨.active, 0, [], 0⟩ ∧ ¬e.value.state.Consistent := by
  let := Cjson.fourteenDigits
  let P := videoPlayer ⟨45000⟩
  let start : VideoPool := ⟨⟨1, Store.empty, []⟩, []⟩
  obtain ⟨ls, st, e, hplay, hstored, hstate⟩ : ∃ ls st e,
      P.play [] start (.start (.setController watched []) :: List.replicate 5 (.next 0 ())) =
        some (ls, st) ∧ st.shared.redis (.videoSession watched) = some e ∧
          e.value.state = ⟨.active, 0, [], 0⟩ := ⟨_, _, _, rfl, rfl, rfl⟩
  have hinit : (videoPool ⟨45000⟩).system.Run [] start := .init ⟨rfl, rfl⟩
  have hrun := P.run_of_play hinit hplay (P.keeps_of_forall (fun _ _ _ ↦ trivial) _ _ _)
  refine ⟨ls, st, e, hrun, hstored, hstate, fun hconsistent ↦ ?_⟩
  rw [hstate] at hconsistent
  exact absurd (hconsistent.idle rfl rfl rfl) (by decide)

end Sample

end RemoteInfra.Gateway
