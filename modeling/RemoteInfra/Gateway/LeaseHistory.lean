import RemoteInfra.Gateway.Redis
import RemoteInfra.Library.Schedule
import RemoteInfra.Library.Traces

/-!
# Where stored leases come from

Any programs that reach Redis side by side, as long as none writes a lease without looking:
whatever lease is stored, or was ever read, went in through an acquire script, and renewals
have since changed its expiry alone.
-/

namespace RemoteInfra.Gateway

open RemoteInfra.Library Program

abbrev GatewayEvent := Event Effect Effect.Reply

section Following

variable {α : Type} {asks : List GatewayEvent → Effect → Prop}
  {Q : List GatewayEvent → α → Prop} {tr : List GatewayEvent}

theorem follows_runRedis_bind {cmd : RedisCommand}
    {f : Except RedisError cmd.Result → GatewayProgram α} (h : asks tr (.redis cmd))
    (hf : ∀ reply, (f reply).Follows asks Q (tr ++ [⟨.redis cmd, reply⟩])) :
    (runRedis cmd >>= f).Follows asks Q tr :=
  Follows.call h hf

theorem follows_timeNow_bind {f : ℤ → GatewayProgram α} (h : asks tr .timeNow)
    (hf : ∀ t, (f t).Follows asks Q (tr ++ [⟨.timeNow, t⟩])) :
    (timeNow >>= f).Follows asks Q tr :=
  Follows.call h hf

theorem follows_newUUID_bind {f : GoString → GatewayProgram α} (h : asks tr .newUUID)
    (hf : ∀ id, (f id).Follows asks Q (tr ++ [⟨.newUUID, id⟩])) :
    (newUUID >>= f).Follows asks Q tr :=
  Follows.call h hf

end Following

variable {Call α : Type}

/-- Concurrent calls on a Redis that starts empty. -/
def gatewayPool [Cjson] (program : Call → GatewayProgram α) :
    PoolSystem GatewayState Call ℤ Effect Effect.Reply α where
  Init w := w.redis = Store.empty
  program := program
  Exec := Effect.Exec
  EnvStep := ClockStep

abbrev GatewayLabel (Call : Type) := PoolLabel Call ℤ Effect Effect.Reply

abbrev GatewayPool (Call α : Type) := PoolState GatewayState Call Effect Effect.Reply α

/-- How a scheduled effect is answered. -/
inductive Answer
  | served
  | refused
  | lost
  | drew (id : String)

/-- The answer to an effect when clocks agree, UUIDs are given and tokens are issued. -/
def Effect.answer [Cjson] (w : GatewayState) :
    (e : Effect) → Answer → Option (e.Reply × GatewayState)
  | .timeNow, _ => some (w.clock, w)
  | .newUUID, .drew id =>
      if GoString.ofString id ∉ w.drawn ∧ GoString.ofString id ≠ [] then
        some (GoString.ofString id, { w with drawn := GoString.ofString id :: w.drawn })
      else none
  | .newUUID, _ => none
  | .redis _, .refused => some (.error .unavailable, w)
  | .redis cmd, .lost =>
      match cmd.exec w.clock w.redis with
      | .ok (result, r) => some (.error (.replyLost (cmd.answer result)), { w with redis := r })
      | .error error => some (.error error, w)
  | .redis cmd, _ =>
      match cmd.exec w.clock w.redis with
      | .ok (result, r) => some (.ok result, { w with redis := r })
      | .error error => some (.error error, w)
  | .issueOperatorToken _ _ _, .refused => some (none, w)
  | .issueOperatorToken _ _ _, _ => some (some [], w)
  | .recordAudit _, _ => some ((), w)

theorem Effect.answer_sound [Cjson] {w w' : GatewayState} {e : Effect} {a : Answer} {r : e.Reply}
    (h : e.answer w a = some (r, w')) : Effect.Exec w e r w' := by
  cases e with
  | timeNow =>
      obtain ⟨rfl, rfl⟩ := Prod.mk.inj (Option.some.inj h)
      exact .timeNow _
  | newUUID =>
      cases a with
      | served | refused | lost => cases h
      | drew id =>
          simp only [answer] at h
          split_ifs at h with hnew
          obtain ⟨rfl, rfl⟩ := Prod.mk.inj (Option.some.inj h)
          exact .newUUID hnew.1 (GoString.validUTF8_ofString id) hnew.2
  | redis cmd =>
      cases a with
      | refused =>
          obtain ⟨rfl, rfl⟩ := Prod.mk.inj (Option.some.inj h)
          exact .failed (by simp)
      | lost =>
          simp only [answer] at h
          split at h
          · rename_i result redis hexec
            obtain ⟨rfl, rfl⟩ := Prod.mk.inj (Option.some.inj h)
            exact .ran hexec .lost
          · rename_i error hexec
            obtain ⟨rfl, rfl⟩ := Prod.mk.inj (Option.some.inj h)
            exact .failed (by simp [RedisCommand.exec_error hexec])
      | served | drew =>
          simp only [answer] at h
          split at h
          · rename_i result redis hexec
            obtain ⟨rfl, rfl⟩ := Prod.mk.inj (Option.some.inj h)
            exact .ran hexec .heard
          · rename_i error hexec
            obtain ⟨rfl, rfl⟩ := Prod.mk.inj (Option.some.inj h)
            exact .failed (by simp [RedisCommand.exec_error hexec])
  | issueOperatorToken vehicleID operatorID access =>
      cases a with
      | served | refused | lost | drew =>
          obtain ⟨rfl, rfl⟩ := Prod.mk.inj (Option.some.inj h)
          exact .issueOperatorToken _
  | recordAudit =>
      obtain ⟨rfl, rfl⟩ := Prod.mk.inj (Option.some.inj h)
      exact .recordAudit

def gatewayPlayer [Cjson] (program : Call → GatewayProgram α) :
    (gatewayPool program).Player Answer where
  exec w e a := e.answer w a
  pass w t := if w.clock ≤ t then some { w with clock := t } else none
  exec_sound h := Effect.answer_sound h
  pass_sound {w t w'} h := by
    split_ifs at h with hle
    obtain rfl := Option.some.inj h
    exact .tick hle

/-- The effect does not overwrite a lease. -/
def LooksFirst (e : Effect) : Prop :=
  ∀ cmd v, e = .redis cmd → ¬ cmd.OverwritesLease v

/-- The programs write leases through the scripts only. -/
def LooksFirstAlways (program : Call → GatewayProgram α) : Prop :=
  ∀ c, Program.OnlyAsks LooksFirst (program c)

/-- The lease of `v` with session `s` was stored by an acquire script; only its expiry may have
changed since. -/
def LeaseOrigin (ls : List (GatewayLabel Call)) (v : GoString) (s : ControlSession) : Prop :=
  ∃ i c indexOf payload px vehicleID reply, scriptAnswer reply = some 1 ∧
    .exec i c (.redis (.acquireScript v indexOf payload px vehicleID)) reply ∈ ls ∧
      s = { payload.session with expiresAtMS := s.expiresAtMS }

theorem LeaseOrigin.mono {ls ls' : List (GatewayLabel Call)} {v : GoString} {s : ControlSession}
    (h : LeaseOrigin ls v s) (hsub : ls ⊆ ls') : LeaseOrigin ls' v s := by
  obtain ⟨i, c, indexOf, payload, px, vehicleID, reply, hreply, hmem, heq⟩ := h
  exact ⟨i, c, indexOf, payload, px, vehicleID, reply, hreply, hsub hmem, heq⟩

section Runs

variable [Cjson] {program : Call → GatewayProgram α}
  {C : TransitionSystem.StepCondition (GatewayPool Call α) (GatewayLabel Call)}
  {ls : List (GatewayLabel Call)} {st : GatewayPool Call α}

theorem leaseOrigin_of_stored (hlooks : LooksFirstAlways program)
    (hrun : (gatewayPool program).system.RunWhere C ls st) {v : GoString}
    {e : Entry ControlSessionJSON} (hstored : st.shared.redis (.controlLease v) = some e) :
    LeaseOrigin ls v e.value.session := by
  suffices h : ∀ v e, st.shared.redis (.controlLease v) = some e →
      LeaseOrigin ls v e.value.session from h v e hstored
  clear hstored v e
  refine hrun.invariant (P := fun ls st ↦ ∀ v e, st.shared.redis (.controlLease v) = some e →
    LeaseOrigin ls v e.value.session) ?_ ?_
  · rintro ⟨w, pool⟩ ⟨hinit, -⟩ v e he
    have hempty : w.redis = Store.empty := hinit
    simp [hempty, Store.empty] at he
  · intro ls st l st' hrun ih _ hstep
    have hkeep : ∀ v e, st.shared.redis (.controlLease v) = some e →
        LeaseOrigin (ls ++ [l]) v e.value.session :=
      fun v e he ↦ (ih v e he).mono (List.subset_append_left _ _)
    have hstep' := hstep
    cases hstep with
    | spawn => exact hkeep
    | env hclock => cases hclock; exact hkeep
    | @exec w w' pool i c e next reply hi hexec =>
        cases hexec with
        | timeNow | newUUID | failed | issueOperatorToken | recordAudit => exact hkeep
        | @ran cmd result redis reply hdone hreports =>
            intro v e' he'
            have hasks : LooksFirst (.redis cmd) :=
              PoolSystem.asks_of_step (S := gatewayPool program) (A := fun _ ↦ LooksFirst) hlooks
                hrun hstep'
            rcases RedisCommand.exec_stores_lease hdone (hasks cmd v rfl) he' with
              hold | ⟨indexOf, px, vehicleID, hcmd, -, -⟩ |
                ⟨e, indexOf, expiresAt, px, vehicleID, -, hlive, rfl⟩
            · exact hkeep v e' hold
            · cases hcmd
              have hreply := scriptAnswer_eq_some_iff.mpr (RedisCommand.reports_iff.mp hreports)
              exact ⟨i, c, indexOf, e'.value, px, vehicleID, reply, hreply, by simp, rfl⟩
            · obtain ⟨j, d, indexOf', payload, px', vehicleID', reply', hreply, hmem, heq⟩ :=
                hkeep v e (Store.live_eq_some_iff.mp hlive).1
              refine ⟨j, d, indexOf', payload, px', vehicleID', reply', hreply, hmem, ?_⟩
              simp only [ControlSession.cjsonEncode]
              rw [heq]

/-- The same of every lease that was ever read. -/
theorem leaseOrigin_of_read (hlooks : LooksFirstAlways program)
    (hrun : (gatewayPool program).system.RunWhere C ls st) {i : ℕ} {c : Call} {v : GoString}
    {raw : ControlSessionJSON}
    (hread : .exec i c (.redis (.get (.controlLease v))) (.ok (some raw)) ∈ ls) :
    LeaseOrigin ls v raw.session := by
  induction hrun with
  | init => simp at hread
  | @step ls st st' l hrun hcond hstep ih =>
      rcases List.mem_append.mp hread with hread | hread
      · exact (ih hread).mono (List.subset_append_left _ _)
      · obtain rfl := List.mem_singleton.mp hread
        cases hstep with
        | exec hi hexec =>
            cases hexec with
            | ran hdone hreports =>
                cases hreports
                obtain ⟨hget, -⟩ := Prod.mk.inj (Except.ok.inj hdone)
                obtain ⟨e, hlive, rfl⟩ := Store.get_eq_some_iff.mp hget
                exact (leaseOrigin_of_stored hlooks hrun (Store.live_eq_some_iff.mp hlive).1).mono
                  (List.subset_append_left _ _)

end Runs

end RemoteInfra.Gateway
