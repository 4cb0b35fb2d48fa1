import RemoteInfra.Gateway.Access
import RemoteInfra.Library.ExpiringStore
import RemoteInfra.Library.Program

/-!
# The gateway's Redis

The records of `control_session.go` and `video_session.go`, the keys they live under, the
three Lua scripts, and the single commands through which every handler reaches Redis.
A command or a script is one atomic step at the server's clock.
-/

namespace RemoteInfra.Gateway

open RemoteInfra.Library

inductive ControlSessionStatus
  | active
  | released
  | expired
  | revoked
  deriving DecidableEq

structure ControlSession where
  sessionID : GoString
  vehicleID : GoString
  operatorID : GoString
  publicKeyB64 : GoString
  status : ControlSessionStatus
  createdAtMS : ℤ
  expiresAtMS : ℤ
  deriving DecidableEq

inductive VideoMode
  | standby
  | active
  deriving DecidableEq

structure VideoSession where
  vehicleID : GoString
  sessionID : GoString
  mode : VideoMode
  viewerCount : ℤ
  controllerSessionID : GoString
  graceDeadlineMS : ℤ
  createdAtMS : ℤ
  expiresAtMS : ℤ
  deriving DecidableEq

/-- The JSON text of a control session.  `readable` is false when a number in it is written
so that `json.Unmarshal` refuses it for an `int64` field. -/
structure ControlSessionJSON where
  session : ControlSession
  readable : Bool
  deriving DecidableEq

/-- `json.Marshal(session)`. -/
def ControlSession.marshal (s : ControlSession) : ControlSessionJSON where
  session :=
    { s with
      sessionID := s.sessionID.throughJSON
      vehicleID := s.vehicleID.throughJSON
      operatorID := s.operatorID.throughJSON
      publicKeyB64 := s.publicKeyB64.throughJSON }
  readable := true

/-- `json.Unmarshal(raw, &session)`. -/
def ControlSessionJSON.unmarshal (raw : ControlSessionJSON) : Option ControlSession :=
  if raw.readable then some raw.session else none

/-- `json.Marshal(session)` of a video session, which Go alone writes and reads. -/
def VideoSession.marshal (s : VideoSession) : VideoSession :=
  { s with
    vehicleID := s.vehicleID.throughJSON
    sessionID := s.sessionID.throughJSON
    controllerSessionID := s.controllerSessionID.throughJSON }

/-- Redis's `cjson`.  Decoding and encoding a record keeps its strings; an integer survives
when 14 significant digits hold it, and is otherwise written with an exponent. -/
class Cjson where
  survives : ℤ → Bool
  survives_of_lt : ∀ n : ℤ, n.natAbs < 10 ^ 14 → survives n = true

/-- `cjson` with its default precision. -/
@[reducible] def Cjson.fourteenDigits : Cjson where
  survives n := decide (n.natAbs < 10 ^ 14)
  survives_of_lt n h := by simpa using h

/-- `cjson.encode` of a decoded control session. -/
def ControlSession.cjsonEncode [Cjson] (s : ControlSession) : ControlSessionJSON where
  session := s
  readable := Cjson.survives s.createdAtMS && Cjson.survives s.expiresAtMS

/-- The keys that `controlLeaseKey`, `controlSessionIndexKey`, `videoSessionKey` and
`videoViewerKey` make.  What each puts before the first colon (`control`, `control-session`,
`video_session`, `video_viewer`) is its own, so that keys of two families never meet in Redis. -/
inductive RedisKey
  | controlLease (vehicleID : GoString)
  | controlSessionIndex (sessionID : GoString)
  | videoSession (vehicleID : GoString)
  | videoViewer (sessionID : GoString)
  deriving DecidableEq

namespace RedisKey

@[reducible] def Value : RedisKey → Type
  | controlLease _ => ControlSessionJSON
  | controlSessionIndex _ => GoString
  | videoSession _ => VideoSession
  | videoViewer _ => GoString

end RedisKey

abbrev Redis := Store RedisKey RedisKey.Value

inductive RedisError
  | invalidExpireTime
  | unavailable
  /-- the command ran, but its reply did not arrive; nobody learns the `answer` of a script, which
  is here for the statements only -/
  | replyLost (answer : ℤ)
  deriving DecidableEq

/-! ## The Lua scripts

`leaseOf` and `indexOf` name the records that `KEYS[1]` and `KEYS[2]` address; the other
arguments are `ARGV` in order.  A `PX` that is not positive makes Redis abort the script at
its first `SET`. -/

def acquireControlSessionScript (now : ℤ) (r : Redis) (leaseOf indexOf : GoString)
    (payload : ControlSessionJSON) (px : ℤ) (vehicleID : GoString) :
    Except RedisError (ℤ × Redis) :=
  if (r.live now (.controlLease leaseOf)).isSome then .ok (0, r)
  else if px ≤ 0 then .error .invalidExpireTime
  else .ok (1, (r.set (.controlLease leaseOf) payload (now + px)).set
    (.controlSessionIndex indexOf) vehicleID (now + px))

def renewControlSessionScript [Cjson] (now : ℤ) (r : Redis) (leaseOf indexOf : GoString)
    (sessionID operatorID : GoString) (expiresAt px : ℤ) (vehicleID : GoString) :
    Except RedisError (ℤ × Redis) :=
  match r.get now (.controlLease leaseOf) with
  | none => .ok (0, r)
  | some raw =>
      if r.get now (.controlSessionIndex indexOf) ≠ some vehicleID then .ok (0, r)
      else if raw.session.sessionID ≠ sessionID ∨ raw.session.operatorID ≠ operatorID ∨
          raw.session.status ≠ .active then .ok (-1, r)
      else if px ≤ 0 then .error .invalidExpireTime
      else
        let session := { raw.session with expiresAtMS := expiresAt }
        .ok (1, (r.set (.controlLease leaseOf) session.cjsonEncode (now + px)).set
          (.controlSessionIndex indexOf) vehicleID (now + px))

def releaseControlSessionScript (now : ℤ) (r : Redis) (leaseOf indexOf : GoString)
    (sessionID operatorID : GoString) : ℤ × Redis :=
  match r.get now (.controlLease leaseOf) with
  | none => (0, r)
  | some raw =>
      if raw.session.sessionID ≠ sessionID ∨ raw.session.operatorID ≠ operatorID then (-1, r)
      else (1, (r.del (.controlLease leaseOf)).del (.controlSessionIndex indexOf))

/-- The acquire script stores both keys if and only if nobody holds the lease. -/
theorem acquireControlSessionScript_cases {now : ℤ} {r r' : Redis} {leaseOf indexOf : GoString}
    {payload : ControlSessionJSON} {px : ℤ} {vehicleID : GoString} {result : ℤ}
    (h : acquireControlSessionScript now r leaseOf indexOf payload px vehicleID =
      .ok (result, r')) :
    (result = 0 ∧ r' = r ∧ (r.live now (.controlLease leaseOf)).isSome) ∨
      (result = 1 ∧ r.live now (.controlLease leaseOf) = none ∧ 0 < px ∧
        r' = (r.set (.controlLease leaseOf) payload (now + px)).set
          (.controlSessionIndex indexOf) vehicleID (now + px)) := by
  unfold acquireControlSessionScript at h
  split_ifs at h with hheld hpx
  · obtain ⟨rfl, rfl⟩ := Prod.mk.inj (Except.ok.inj h)
    exact .inl ⟨rfl, rfl, hheld⟩
  · obtain ⟨rfl, rfl⟩ := Prod.mk.inj (Except.ok.inj h)
    exact .inr ⟨rfl, by simpa using hheld, by omega, rfl⟩

/-- The renew script changes something only for the holder of a lease whose index names
the vehicle; then it moves both deadlines and rewrites `expires_at_ms`. -/
theorem renewControlSessionScript_cases [Cjson] {now : ℤ} {r r' : Redis}
    {leaseOf indexOf sessionID operatorID : GoString} {expiresAt px : ℤ} {vehicleID : GoString}
    {result : ℤ}
    (h : renewControlSessionScript now r leaseOf indexOf sessionID operatorID expiresAt px
      vehicleID = .ok (result, r')) :
    (result ≤ 0 ∧ r' = r) ∨
      ∃ e, result = 1 ∧ r.live now (.controlLease leaseOf) = some e ∧
        r.get now (.controlSessionIndex indexOf) = some vehicleID ∧
        e.value.session.sessionID = sessionID ∧ e.value.session.operatorID = operatorID ∧
        e.value.session.status = .active ∧ 0 < px ∧
        r' = (r.set (.controlLease leaseOf)
            ({ e.value.session with expiresAtMS := expiresAt } : ControlSession).cjsonEncode
            (now + px)).set (.controlSessionIndex indexOf) vehicleID (now + px) := by
  unfold renewControlSessionScript at h
  cases hget : r.get now (.controlLease leaseOf) with
  | none =>
      simp only [hget] at h
      obtain ⟨rfl, rfl⟩ := Prod.mk.inj (Except.ok.inj h)
      exact .inl ⟨le_rfl, rfl⟩
  | some raw =>
      obtain ⟨e, hlive, rfl⟩ := Store.get_eq_some_iff.mp hget
      simp only [hget] at h
      split_ifs at h with hindex howner hpx
      · obtain ⟨rfl, rfl⟩ := Prod.mk.inj (Except.ok.inj h)
        exact .inl ⟨le_rfl, rfl⟩
      · obtain ⟨rfl, rfl⟩ := Prod.mk.inj (Except.ok.inj h)
        exact .inl ⟨by decide, rfl⟩
      · obtain ⟨rfl, rfl⟩ := Prod.mk.inj (Except.ok.inj h)
        push Not at hindex howner
        exact .inr ⟨e, rfl, hlive, hindex, howner.1, howner.2.1, howner.2.2, by omega, rfl⟩

/-- The release script changes something only for the holder; then both keys are gone. -/
theorem releaseControlSessionScript_cases {now : ℤ} {r r' : Redis}
    {leaseOf indexOf sessionID operatorID : GoString} {result : ℤ}
    (h : releaseControlSessionScript now r leaseOf indexOf sessionID operatorID =
      (result, r')) :
    (result ≤ 0 ∧ r' = r) ∨
      ∃ e, result = 1 ∧ r.live now (.controlLease leaseOf) = some e ∧
        e.value.session.sessionID = sessionID ∧ e.value.session.operatorID = operatorID ∧
        r' = (r.del (.controlLease leaseOf)).del (.controlSessionIndex indexOf) := by
  unfold releaseControlSessionScript at h
  cases hget : r.get now (.controlLease leaseOf) with
  | none =>
      simp only [hget] at h
      obtain ⟨rfl, rfl⟩ := Prod.mk.inj h
      exact .inl ⟨le_rfl, rfl⟩
  | some raw =>
      obtain ⟨e, hlive, rfl⟩ := Store.get_eq_some_iff.mp hget
      simp only [hget] at h
      split_ifs at h with howner
      · obtain ⟨rfl, rfl⟩ := Prod.mk.inj h
        exact .inl ⟨by decide, rfl⟩
      · obtain ⟨rfl, rfl⟩ := Prod.mk.inj h
        push Not at howner
        exact .inr ⟨e, rfl, hlive, howner.1, howner.2, rfl⟩

inductive RedisCommand
  | get (k : RedisKey)
  | set (k : RedisKey) (v : k.Value) (px : ℤ)
  | del (k : RedisKey)
  | acquireScript (leaseOf indexOf : GoString) (payload : ControlSessionJSON) (px : ℤ)
      (vehicleID : GoString)
  | renewScript (leaseOf indexOf sessionID operatorID : GoString) (expiresAt px : ℤ)
      (vehicleID : GoString)
  | releaseScript (leaseOf indexOf sessionID operatorID : GoString)

@[reducible] def RedisCommand.Result : RedisCommand → Type
  | get k => Option k.Value
  | set _ _ _ => Unit
  | del _ => Unit
  | acquireScript .. => ℤ
  | renewScript .. => ℤ
  | releaseScript .. => ℤ

/-- One command at the server's clock. -/
def RedisCommand.exec [Cjson] (now : ℤ) (r : Redis) :
    (cmd : RedisCommand) → Except RedisError (cmd.Result × Redis)
  | get k => .ok (r.get now k, r)
  | set k v px =>
      if px ≤ 0 then .error .invalidExpireTime else .ok ((), r.set k v (now + px))
  | del k => .ok ((), r.del k)
  | acquireScript leaseOf indexOf payload px vehicleID =>
      acquireControlSessionScript now r leaseOf indexOf payload px vehicleID
  | renewScript leaseOf indexOf sessionID operatorID expiresAt px vehicleID =>
      renewControlSessionScript now r leaseOf indexOf sessionID operatorID expiresAt px vehicleID
  | releaseScript leaseOf indexOf sessionID operatorID =>
      .ok (releaseControlSessionScript now r leaseOf indexOf sessionID operatorID)

/-- What a script returned. -/
def RedisCommand.answer : (cmd : RedisCommand) → cmd.Result → ℤ
  | acquireScript .., n => n
  | renewScript .., n => n
  | releaseScript .., n => n
  | get _, _ => 0
  | set _ _ _, _ => 0
  | del _, _ => 0

/-- How the caller hears of a result: by the reply, or not at all. -/
inductive RedisCommand.Reports (cmd : RedisCommand) (result : cmd.Result) :
    Except RedisError cmd.Result → Prop
  | heard : cmd.Reports result (.ok result)
  | lost : cmd.Reports result (.error (.replyLost (cmd.answer result)))

theorem RedisCommand.reports_iff {cmd : RedisCommand} {result : cmd.Result}
    {reply : Except RedisError cmd.Result} : cmd.Reports result reply ↔
      reply = .ok result ∨ reply = .error (.replyLost (cmd.answer result)) := by
  constructor
  · rintro (_ | _)
    · exact .inl rfl
    · exact .inr rfl
  · rintro (rfl | rfl)
    · exact .heard
    · exact .lost

/-- What a script returned, whether its caller heard of it or not. -/
def scriptAnswer : Except RedisError ℤ → Option ℤ
  | .ok n => some n
  | .error (.replyLost n) => some n
  | .error _ => none

theorem scriptAnswer_eq_some_iff {reply : Except RedisError ℤ} {n : ℤ} :
    scriptAnswer reply = some n ↔ reply = .ok n ∨ reply = .error (.replyLost n) := by
  rcases reply with (_ | _ | _) | _ <;> simp [scriptAnswer]

theorem scriptAnswer_error {error : RedisError} (h : ∀ n, error ≠ .replyLost n) :
    scriptAnswer (.error error) = none := by
  cases error with
  | invalidExpireTime | unavailable => rfl
  | replyLost n => exact absurd rfl (h n)

/-- A command that Redis rejects has not run. -/
theorem RedisCommand.exec_error [Cjson] {now : ℤ} {r : Redis} {cmd : RedisCommand}
    {error : RedisError} (h : cmd.exec now r = .error error) : error = .invalidExpireTime := by
  cases cmd with
  | get | del | releaseScript => cases h
  | set k v px =>
      simp only [exec] at h
      split_ifs at h
      exact (Except.error.inj h).symm
  | acquireScript leaseOf indexOf payload px vehicleID =>
      simp only [exec, acquireControlSessionScript] at h
      split_ifs at h
      exact (Except.error.inj h).symm
  | renewScript leaseOf indexOf sessionID operatorID expiresAt px vehicleID =>
      simp only [exec, renewControlSessionScript] at h
      split at h
      · cases h
      · split_ifs at h
        exact (Except.error.inj h).symm

/-- The command writes the lease of `v` without looking at it. -/
def RedisCommand.OverwritesLease (v : GoString) (cmd : RedisCommand) : Prop :=
  (∃ payload px, cmd = .set (.controlLease v) payload px) ∨ cmd = .del (.controlLease v)

/-- What one command can do to a live lease: nothing, release it for its holder, or renew it
for its holder. -/
theorem RedisCommand.exec_lease [Cjson] {now : ℤ} {r r' : Redis} {cmd : RedisCommand}
    {result : cmd.Result} (hexec : cmd.exec now r = .ok (result, r')) {v : GoString}
    (hcmd : ¬ cmd.OverwritesLease v) {e : Entry ControlSessionJSON}
    (hlive : r.live now (.controlLease v) = some e) :
    r'.live now (.controlLease v) = some e ∨
      (∃ indexOf, (⟨cmd, result⟩ : (c : RedisCommand) × c.Result) =
          ⟨.releaseScript v indexOf e.value.session.sessionID e.value.session.operatorID, 1⟩ ∧
        r'.live now (.controlLease v) = none) ∨
      ∃ indexOf expiresAt px vehicleID,
        (⟨cmd, result⟩ : (c : RedisCommand) × c.Result) =
          ⟨.renewScript v indexOf e.value.session.sessionID e.value.session.operatorID
            expiresAt px vehicleID, 1⟩ ∧
        r'.live now (.controlLease v) = some
          ⟨({ e.value.session with expiresAtMS := expiresAt } : ControlSession).cjsonEncode,
            now + px⟩ := by
  cases cmd with
  | get k =>
      obtain ⟨-, rfl⟩ := Prod.mk.inj (Except.ok.inj hexec)
      exact .inl hlive
  | set k payload px =>
      have hk : RedisKey.controlLease v ≠ k := by
        rintro rfl
        exact hcmd (.inl ⟨payload, px, rfl⟩)
      simp only [exec] at hexec
      split_ifs at hexec
      obtain ⟨-, rfl⟩ := Prod.mk.inj (Except.ok.inj hexec)
      exact .inl ((Store.live_set_of_ne r now hk _ _).trans hlive)
  | del k =>
      have hk : RedisKey.controlLease v ≠ k := by
        rintro rfl
        exact hcmd (.inr rfl)
      obtain ⟨-, rfl⟩ := Prod.mk.inj (Except.ok.inj hexec)
      exact .inl ((Store.live_del_of_ne r now hk).trans hlive)
  | acquireScript leaseOf indexOf payload px vehicleID =>
      rcases acquireControlSessionScript_cases hexec with ⟨-, rfl, -⟩ | ⟨-, hfree, -, rfl⟩
      · exact .inl hlive
      · have hv : RedisKey.controlLease v ≠ .controlLease leaseOf := by
          rintro h
          obtain rfl := RedisKey.controlLease.inj h
          simp [hfree] at hlive
        left
        rw [Store.live_set_of_ne _ _ (by simp), Store.live_set_of_ne _ _ hv]
        exact hlive
  | renewScript leaseOf indexOf sessionID operatorID expiresAt px vehicleID =>
      rcases renewControlSessionScript_cases hexec with
        ⟨-, rfl⟩ | ⟨e', rfl, hlive', -, rfl, rfl, -, hpx, rfl⟩
      · exact .inl hlive
      · by_cases hv : v = leaseOf
        · subst hv
          obtain rfl : e = e' := Option.some.inj (hlive.symm.trans hlive')
          refine .inr (.inr ⟨indexOf, expiresAt, px, vehicleID, rfl, ?_⟩)
          rw [Store.live_set_of_ne _ _ (by simp)]
          exact Store.live_set_self _ _ _ _ _ (by omega)
        · left
          rw [Store.live_set_of_ne _ _ (by simp), Store.live_set_of_ne _ _ (by simpa using hv)]
          exact hlive
  | releaseScript leaseOf indexOf sessionID operatorID =>
      rcases releaseControlSessionScript_cases (Except.ok.inj hexec) with
        ⟨-, rfl⟩ | ⟨e', rfl, hlive', rfl, rfl, rfl⟩
      · exact .inl hlive
      · by_cases hv : v = leaseOf
        · subst hv
          obtain rfl : e = e' := Option.some.inj (hlive.symm.trans hlive')
          refine .inr (.inl ⟨indexOf, rfl, ?_⟩)
          rw [Store.live_del_of_ne _ _ (by simp)]
          exact Store.live_del_self _ _ _
        · left
          rw [Store.live_del_of_ne _ _ (by simp), Store.live_del_of_ne _ _ (by simpa using hv)]
          exact hlive

/-- Where a stored lease comes from: it was there, the acquire script stored it on a free
lease, or the renew script rewrote the lease of its holder. -/
theorem RedisCommand.exec_stores_lease [Cjson] {now : ℤ} {r r' : Redis} {cmd : RedisCommand}
    {result : cmd.Result} (hexec : cmd.exec now r = .ok (result, r')) {v : GoString}
    (hcmd : ¬ cmd.OverwritesLease v) {e' : Entry ControlSessionJSON}
    (hstored : r' (.controlLease v) = some e') :
    r (.controlLease v) = some e' ∨
      (∃ indexOf px vehicleID, (⟨cmd, result⟩ : (c : RedisCommand) × c.Result) =
          ⟨.acquireScript v indexOf e'.value px vehicleID, 1⟩ ∧
        r.live now (.controlLease v) = none ∧ e'.deadline = now + px) ∨
      ∃ e indexOf expiresAt px vehicleID,
        (⟨cmd, result⟩ : (c : RedisCommand) × c.Result) =
          ⟨.renewScript v indexOf e.value.session.sessionID e.value.session.operatorID
            expiresAt px vehicleID, 1⟩ ∧
        r.live now (.controlLease v) = some e ∧
        e' = ⟨({ e.value.session with expiresAtMS := expiresAt } : ControlSession).cjsonEncode,
            now + px⟩ := by
  cases cmd with
  | get k =>
      obtain ⟨-, rfl⟩ := Prod.mk.inj (Except.ok.inj hexec)
      exact .inl hstored
  | set k payload px =>
      have hk : RedisKey.controlLease v ≠ k := by
        rintro rfl
        exact hcmd (.inl ⟨payload, px, rfl⟩)
      simp only [exec] at hexec
      split_ifs at hexec
      obtain ⟨-, rfl⟩ := Prod.mk.inj (Except.ok.inj hexec)
      exact .inl ((Store.set_apply_of_ne r hk _ _).symm.trans hstored)
  | del k =>
      have hk : RedisKey.controlLease v ≠ k := by
        rintro rfl
        exact hcmd (.inr rfl)
      obtain ⟨-, rfl⟩ := Prod.mk.inj (Except.ok.inj hexec)
      exact .inl ((Store.del_apply_of_ne r hk).symm.trans hstored)
  | acquireScript leaseOf indexOf payload px vehicleID =>
      rcases acquireControlSessionScript_cases hexec with ⟨-, rfl, -⟩ | ⟨rfl, hfree, -, rfl⟩
      · exact .inl hstored
      · rw [Store.set_apply_of_ne _ (by simp)] at hstored
        by_cases hv : v = leaseOf
        · subst hv
          rw [Store.set_apply_self] at hstored
          obtain rfl := Option.some.inj hstored
          exact .inr (.inl ⟨indexOf, px, vehicleID, rfl, hfree, rfl⟩)
        · rw [Store.set_apply_of_ne _ (by simpa using hv)] at hstored
          exact .inl hstored
  | renewScript leaseOf indexOf sessionID operatorID expiresAt px vehicleID =>
      rcases renewControlSessionScript_cases hexec with
        ⟨-, rfl⟩ | ⟨e, rfl, hlive, -, rfl, rfl, -, -, rfl⟩
      · exact .inl hstored
      · rw [Store.set_apply_of_ne _ (by simp)] at hstored
        by_cases hv : v = leaseOf
        · subst hv
          rw [Store.set_apply_self] at hstored
          obtain rfl := Option.some.inj hstored
          exact .inr (.inr ⟨e, indexOf, expiresAt, px, vehicleID, rfl, hlive, rfl⟩)
        · rw [Store.set_apply_of_ne _ (by simpa using hv)] at hstored
          exact .inl hstored
  | releaseScript leaseOf indexOf sessionID operatorID =>
      rcases releaseControlSessionScript_cases (Except.ok.inj hexec) with
        ⟨-, rfl⟩ | ⟨e, -, -, -, -, rfl⟩
      · exact .inl hstored
      · rw [Store.del_apply_of_ne _ (by simp)] at hstored
        by_cases hv : v = leaseOf
        · subst hv
          rw [Store.del_apply_self] at hstored
          cases hstored
        · rw [Store.del_apply_of_ne _ (by simpa using hv)] at hstored
          exact .inl hstored

/-- What is stored under a key that no script writes was there, or was set by the command. -/
theorem RedisCommand.exec_stores [Cjson] {now : ℤ} {r r' : Redis} {cmd : RedisCommand}
    {result : cmd.Result} (hexec : cmd.exec now r = .ok (result, r')) {k : RedisKey}
    (hlease : ∀ v, k ≠ .controlLease v) (hindex : ∀ id, k ≠ .controlSessionIndex id)
    {e' : Entry k.Value} (hstored : r' k = some e') :
    r k = some e' ∨ ∃ px, cmd = .set k e'.value px := by
  cases cmd with
  | get j =>
      obtain ⟨-, rfl⟩ := Prod.mk.inj (Except.ok.inj hexec)
      exact .inl hstored
  | set j payload px =>
      simp only [exec] at hexec
      split_ifs at hexec
      obtain ⟨-, rfl⟩ := Prod.mk.inj (Except.ok.inj hexec)
      by_cases hk : k = j
      · subst hk
        rw [Store.set_apply_self] at hstored
        obtain rfl := Option.some.inj hstored
        exact .inr ⟨px, rfl⟩
      · exact .inl (Store.apply_of_set hstored hk)
  | del j =>
      obtain ⟨-, rfl⟩ := Prod.mk.inj (Except.ok.inj hexec)
      exact .inl (Store.apply_of_del hstored)
  | acquireScript leaseOf indexOf payload px vehicleID =>
      rcases acquireControlSessionScript_cases hexec with ⟨-, rfl, -⟩ | ⟨-, -, -, rfl⟩
      · exact .inl hstored
      · exact .inl (Store.apply_of_set (Store.apply_of_set hstored (hindex _)) (hlease _))
  | renewScript leaseOf indexOf sessionID operatorID expiresAt px vehicleID =>
      rcases renewControlSessionScript_cases hexec with ⟨-, rfl⟩ | ⟨e, -, -, -, -, -, -, -, rfl⟩
      · exact .inl hstored
      · exact .inl (Store.apply_of_set (Store.apply_of_set hstored (hindex _)) (hlease _))
  | releaseScript leaseOf indexOf sessionID operatorID =>
      rcases releaseControlSessionScript_cases (Except.ok.inj hexec) with
        ⟨-, rfl⟩ | ⟨e, -, -, -, -, rfl⟩
      · exact .inl hstored
      · exact .inl (Store.apply_of_del (Store.apply_of_del hstored))

/-! ## Effects of a handler -/

structure AuditEvent where
  operatorID : GoString
  vehicleID : GoString
  sessionID : GoString
  event : GoString
  reason : GoString
  result : GoString
  deriving DecidableEq

/-- Everything a handler asks of the world outside its own process. -/
inductive Effect
  | timeNow
  | newUUID
  | redis (cmd : RedisCommand)
  | issueOperatorToken (vehicleID operatorID : GoString) (access : OperatorAccess)
  | recordAudit (event : AuditEvent)

@[reducible] def Effect.Reply : Effect → Type
  | timeNow => ℤ
  | newUUID => GoString
  | redis cmd => Except RedisError cmd.Result
  | issueOperatorToken _ _ _ => Option GoString
  | recordAudit _ => Unit

abbrev GatewayProgram := Program Effect Effect.Reply

/-- Send one command to Redis. -/
def runRedis (cmd : RedisCommand) : GatewayProgram (Except RedisError cmd.Result) :=
  Program.call (.redis cmd) .pure

/-- `time.Now().UnixMilli()`. -/
def timeNow : GatewayProgram ℤ := Program.call .timeNow .pure

/-- `uuid.NewString()`. -/
def newUUID : GatewayProgram GoString := Program.call .newUUID .pure

section Asking

open Program

variable {α : Type} {allowed : Effect → Prop}

theorem onlyAsks_runRedis_bind {cmd : RedisCommand}
    {f : Except RedisError cmd.Result → GatewayProgram α} (h : allowed (.redis cmd))
    (hf : ∀ reply, OnlyAsks allowed (f reply)) : OnlyAsks allowed (runRedis cmd >>= f) :=
  OnlyAsks.call h hf

theorem onlyAsks_timeNow_bind {f : ℤ → GatewayProgram α} (h : allowed .timeNow)
    (hf : ∀ t, OnlyAsks allowed (f t)) : OnlyAsks allowed (timeNow >>= f) :=
  OnlyAsks.call h hf

theorem onlyAsks_newUUID_bind {f : GoString → GatewayProgram α} (h : allowed .newUUID)
    (hf : ∀ id, OnlyAsks allowed (f id)) : OnlyAsks allowed (newUUID >>= f) :=
  OnlyAsks.call h hf

end Asking

/-- What the gateway's calls share: Redis with its clock, and the UUIDs drawn so far. -/
structure GatewayState where
  clock : ℤ
  redis : Redis
  drawn : List GoString

/-- One effect.  A gateway process may read any time off its own clock.  Any Redis command may
fail without having run, and the reply to one that ran may be lost. -/
inductive Effect.Exec [Cjson] (w : GatewayState) : (e : Effect) → e.Reply → GatewayState → Prop
  | timeNow (t : ℤ) : Effect.Exec w .timeNow t w
  | newUUID {id : GoString} : id ∉ w.drawn → id.ValidUTF8 → id ≠ [] →
      Effect.Exec w .newUUID id { w with drawn := id :: w.drawn }
  | ran {cmd : RedisCommand} {result : cmd.Result} {redis : Redis}
      {reply : Except RedisError cmd.Result} :
      cmd.exec w.clock w.redis = .ok (result, redis) → cmd.Reports result reply →
        Effect.Exec w (.redis cmd) reply { w with redis := redis }
  | failed {cmd : RedisCommand} {error : RedisError} : (∀ n, error ≠ .replyLost n) →
      Effect.Exec w (.redis cmd) (.error error) w
  | issueOperatorToken {vehicleID operatorID : GoString} {access : OperatorAccess}
      (token : Option GoString) :
      Effect.Exec w (.issueOperatorToken vehicleID operatorID access) token w
  | recordAudit {event : AuditEvent} : Effect.Exec w (.recordAudit event) () w

/-- The script that has returned something has run. -/
theorem Effect.Exec.of_answer [Cjson] {w w' : GatewayState} {cmd : RedisCommand}
    {result : cmd.Result} {reply : Except RedisError cmd.Result}
    (hexec : Effect.Exec w (.redis cmd) reply w')
    (hreply : reply = .ok result ∨ reply = .error (.replyLost (cmd.answer result)))
    (hscript : ∀ result', cmd.answer result' = cmd.answer result → result' = result) :
    ∃ redis, cmd.exec w.clock w.redis = .ok (result, redis) ∧ w' = { w with redis := redis } := by
  cases hexec with
  | @ran _ result' redis _ hdone hreports =>
      obtain rfl : result' = result := by
        cases hreports with
        | heard => exact hreply.elim Except.ok.inj nofun
        | lost =>
            rcases hreply with hreply | hreply
            · cases hreply
            · exact hscript _ (RedisError.replyLost.inj (Except.error.inj hreply))
      exact ⟨redis, hdone, rfl⟩
  | failed hkept =>
      rcases hreply with hreply | hreply
      · cases hreply
      · exact absurd (Except.error.inj hreply) (hkept _)

theorem Effect.Exec.acquire_answer [Cjson] {w w' : GatewayState} {leaseOf indexOf : GoString}
    {payload : ControlSessionJSON} {px : ℤ} {vehicleID : GoString} {n : ℤ}
    {reply : Except RedisError ℤ}
    (hexec : Effect.Exec w (.redis (.acquireScript leaseOf indexOf payload px vehicleID)) reply w')
    (hreply : scriptAnswer reply = some n) :
    ∃ redis, acquireControlSessionScript w.clock w.redis leaseOf indexOf payload px vehicleID =
      .ok (n, redis) ∧ w' = { w with redis := redis } :=
  hexec.of_answer (scriptAnswer_eq_some_iff.mp hreply) fun _ h ↦ h

theorem Effect.Exec.release_answer [Cjson] {w w' : GatewayState}
    {leaseOf indexOf sessionID operatorID : GoString} {n : ℤ} {reply : Except RedisError ℤ}
    (hexec : Effect.Exec w (.redis (.releaseScript leaseOf indexOf sessionID operatorID)) reply w')
    (hreply : scriptAnswer reply = some n) :
    ∃ redis, releaseControlSessionScript w.clock w.redis leaseOf indexOf sessionID operatorID =
      (n, redis) ∧ w' = { w with redis := redis } := by
  obtain ⟨redis, hdone, rfl⟩ := hexec.of_answer (scriptAnswer_eq_some_iff.mp hreply) fun _ h ↦ h
  exact ⟨redis, Except.ok.inj hdone, rfl⟩

/-- Time passes; nothing else changes outside the calls. -/
inductive ClockStep : GatewayState → ℤ → GatewayState → Prop
  | tick {w : GatewayState} {t : ℤ} : w.clock ≤ t → ClockStep w t { w with clock := t }

end RemoteInfra.Gateway
