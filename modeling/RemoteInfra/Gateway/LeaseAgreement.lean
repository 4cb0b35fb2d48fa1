import RemoteInfra.Gateway.LeaseIndex
import RemoteInfra.Gateway.LeaseIntegrity

/-!
# Lease and index agree

Concurrent calls into the control lease store.  Lease and index agree in every state; so no
session is released twice, and a holder's renewal or release goes through if the record is one
that `handleAcquireControl` makes.
-/

namespace RemoteInfra.Gateway

open RemoteInfra.Library Program

/-- Asked of every step: a session that is acquired is new, and JSON keeps its ids. -/
def FreshSessions : TransitionSystem.StepCondition LeaseState LeaseLabel
  | ls, _, .spawn (.acquire session) =>
      session.sessionID.ValidUTF8 ∧ session.operatorID.ValidUTF8 ∧
        ∀ other, .spawn (.acquire other) ∈ ls → other.sessionID ≠ session.sessionID
  | _, _, _ => True

/-- Asked of every step: a session that is acquired is an active one of an authorized vehicle,
and `cjson` keeps the times that its record is given. -/
def AsHandled [Cjson] (s : ControlLeaseStore) : TransitionSystem.StepCondition LeaseState LeaseLabel
  | _, _, .spawn (.acquire session) => session.vehicleID.ValidUTF8 ∧ session.status = .active ∧
      Cjson.survives session.createdAtMS = true
  | _, _, .exec _ _ .timeNow t => Cjson.survives (t + s.ttl) = true
  | _, _, _ => True

/-- The lease of `v` is held by the session and the operator. -/
def Holds (w : GatewayState) (v sessionID operatorID : GoString) : Prop :=
  ∃ e, w.redis.live w.clock (.controlLease v) = some e ∧
    e.value.session.sessionID = sessionID ∧ e.value.session.operatorID = operatorID

/-- Asked of every step: when call `i` takes a step, the lease is held, and no command of the
call fails. -/
def HeldThroughout (i : ℕ) (v sessionID operatorID : GoString) :
    TransitionSystem.StepCondition LeaseState LeaseLabel
  | _, st, .exec j _ (.redis _) reply =>
      j = i → Holds st.shared v sessionID operatorID ∧ ∃ result, reply = .ok result
  | _, _, _ => True

/-! ## What the calls ask for and return -/

/-- What a call may ask for, having gone through `tr`. -/
def ControlCall.AsksInOrder (s : ControlLeaseStore) (c : ControlCall) (tr : List GatewayEvent)
    (e : Effect) : Prop :=
  c.Asks s e ∧ (∀ session, c = .acquire session → tr = []) ∧
    ∀ leaseOf indexOf sessionID operatorID expiresAt px vehicleID,
      e = .redis (.renewScript leaseOf indexOf sessionID operatorID expiresAt px vehicleID) →
        ∃ t : ℤ, ⟨.timeNow, t⟩ ∈ tr ∧ expiresAt = t + s.ttl

/-- The reply that a command gets while the session of the operator holds the lease of `v`. -/
def HolderReply (v sessionID operatorID : GoString) : GatewayEvent → Prop
  | ⟨.redis (.get (.controlSessionIndex id)), reply⟩ => id = sessionID → reply = .ok (some v)
  | ⟨.redis (.get (.controlLease u)), reply⟩ => u = v → ∃ raw session, reply = .ok (some raw) ∧
      raw.unmarshal = some session ∧ session.sessionID = sessionID ∧
      session.operatorID = operatorID ∧ session.vehicleID = v
  | ⟨.redis (.renewScript u _ id operator _ _ _), reply⟩ =>
      u = v → id = sessionID → operator = operatorID → reply = .ok (1 : ℤ)
  | ⟨.redis (.releaseScript u _ id operator), reply⟩ =>
      u = v → id = sessionID → operator = operatorID → reply = .ok (1 : ℤ)
  | _ => True

/-- A renewal or release that only gets such replies succeeds; a release that succeeds ran its
script. -/
def ControlCall.ReturnsWhenHeld : ControlCall → List GatewayEvent → ControlResult → Prop
  | .acquire _, _, _ => True
  | .renew sessionID operatorID, tr, result =>
      ∀ v, (∀ ev ∈ tr, HolderReply v sessionID operatorID ev) →
        ∃ session, result = .ok (some session)
  | .release sessionID operatorID, tr, result =>
      (∀ v, (∀ ev ∈ tr, HolderReply v sessionID operatorID ev) → result = .ok none) ∧
        (result = .ok none → ∃ v n, ⟨.redis (.releaseScript v sessionID sessionID operatorID),
          .ok (n : ℤ)⟩ ∈ tr ∧ 0 < n)

/-- Somebody who holds the lease is found. -/
theorem FailedLookup.not_holder {sessionID operatorID v : GoString} {evs : List GatewayEvent}
    (h : FailedLookup sessionID evs)
    (hevs : ∀ ev ∈ evs, HolderReply v sessionID operatorID ev) : False := by
  cases h with
  | index hindex =>
      have hreply := hevs _ (List.mem_singleton_self _)
      exact hindex v (hreply rfl)
  | @lease u reply hlease =>
      have hindex := hevs ⟨.redis (.get (.controlSessionIndex sessionID)), .ok (some u)⟩ (by simp)
      obtain rfl : u = v := Option.some.inj (Except.ok.inj (hindex rfl))
      have hread := hevs ⟨.redis (.get (.controlLease u)), reply⟩ (by simp)
      obtain ⟨raw, session, hreply, hraw, hid, -⟩ := hread rfl
      exact hlease raw session hreply hraw hid

/-- What a lookup found while the lease was held is the holder's session. -/
theorem session_of_holder {sessionID operatorID u v : GoString} {raw : ControlSessionJSON}
    {session : ControlSession} {tr : List GatewayEvent} (hraw : raw.unmarshal = some session)
    (hindex : ⟨.redis (.get (.controlSessionIndex sessionID)), .ok (some v)⟩ ∈ tr)
    (hlease : ⟨.redis (.get (.controlLease v)), .ok (some raw)⟩ ∈ tr)
    (hholder : ∀ ev ∈ tr, HolderReply u sessionID operatorID ev) :
    session.operatorID = operatorID ∧ session.vehicleID = u := by
  have hv := hholder _ hindex
  obtain rfl : v = u := Option.some.inj (Except.ok.inj (hv rfl))
  have hread := hholder _ hlease
  obtain ⟨raw', session', hreply, hraw', -, hoperator, hvehicle⟩ := hread rfl
  obtain rfl := Option.some.inj (Except.ok.inj hreply)
  obtain rfl := Option.some.inj (hraw.symm.trans hraw')
  exact ⟨hoperator, hvehicle⟩

theorem ControlCall.follows (s : ControlLeaseStore) (c : ControlCall) :
    (c.program s).Follows (c.AsksInOrder s) c.ReturnsWhenHeld [] := by
  cases c with
  | acquire session =>
      refine Follows.bind (follows_runRedis_bind ⟨rfl, fun _ _ ↦ rfl, by simp⟩ fun reply ↦ ?_)
      rcases reply with error | result
      · exact Follows.pure (Follows.pure trivial)
      · refine Follows.pure ?_
        split <;> exact Follows.pure trivial
  | renew sessionID operatorID =>
      have hasks : ∀ tr k, (ControlCall.renew sessionID operatorID).AsksInOrder s tr
          (.redis (.get k)) := fun tr k ↦ ⟨.inr (.inl ⟨k, rfl⟩), by simp, by simp⟩
      refine Follows.bind (follows_getSessionByID_bind hasks ?_ ?_)
      · intro e evs hfailed
        refine Follows.pure (Follows.pure fun v hholder ↦ ?_)
        exact (hfailed.not_holder (by simpa using hholder)).elim
      · intro v raw session hraw hid
        dsimp only
        split_ifs with howner
        · refine Follows.pure (Follows.pure fun u hholder ↦ ?_)
          exact absurd (session_of_holder (v := v) hraw (by simp) (by simp) hholder).1 howner
        · refine follows_timeNow_bind ⟨.inl rfl, by simp, by simp⟩ fun now ↦ ?_
          have hscript : (ControlCall.renew sessionID operatorID).AsksInOrder s
              ([] ++ [⟨.redis (.get (.controlSessionIndex sessionID)), .ok (some v)⟩,
                ⟨.redis (.get (.controlLease v)), .ok (some raw)⟩] ++ [⟨.timeNow, now⟩])
              (.redis (.renewScript session.vehicleID sessionID sessionID operatorID
                (now + s.ttl) s.ttl session.vehicleID)) := by
            refine ⟨.inr (.inr ⟨_, _, rfl⟩), by simp, ?_⟩
            rintro _ _ _ _ _ _ _ ⟨⟩
            exact ⟨now, by simp, rfl⟩
          refine follows_runRedis_bind hscript fun reply ↦ ?_
          have hreply : ∀ u tr, tr = ([] ++ [⟨.redis (.get (.controlSessionIndex sessionID)),
              .ok (some v)⟩, ⟨.redis (.get (.controlLease v)), .ok (some raw)⟩] ++
              [⟨.timeNow, now⟩] ++ [⟨.redis (.renewScript session.vehicleID sessionID sessionID
                operatorID (now + s.ttl) s.ttl session.vehicleID), reply⟩]) →
              (∀ ev ∈ tr, HolderReply u sessionID operatorID ev) → reply = .ok (1 : ℤ) := by
            rintro u tr rfl hholder
            have hvehicle := (session_of_holder (v := v) hraw (by simp) (by simp) hholder).2
            have hlast := hholder ⟨.redis (.renewScript session.vehicleID sessionID sessionID
              operatorID (now + s.ttl) s.ttl session.vehicleID), reply⟩ (by simp)
            exact hlast hvehicle rfl rfl
          rcases reply with error | result
          · exact Follows.pure (Follows.pure fun u hholder ↦ by cases hreply u _ rfl hholder)
          · dsimp only
            split_ifs with hzero hneg
            · refine Follows.pure (Follows.pure fun u hholder ↦ ?_)
              have hone : (result : ℤ) = 1 := Except.ok.inj (hreply u _ rfl hholder)
              cases hone.symm.trans hzero
            · refine Follows.pure (Follows.pure fun u hholder ↦ ?_)
              have hone : (result : ℤ) = 1 := Except.ok.inj (hreply u _ rfl hholder)
              have hnegative : (1 : ℤ) < 0 := hone ▸ hneg
              exact absurd hnegative (by decide)
            · exact Follows.pure (Follows.pure fun u hholder ↦ ⟨_, rfl⟩)
  | release sessionID operatorID =>
      have hasks : ∀ tr k, (ControlCall.release sessionID operatorID).AsksInOrder s tr
          (.redis (.get k)) := fun tr k ↦ ⟨.inl ⟨k, rfl⟩, by simp, by simp⟩
      refine Follows.bind (follows_getSessionByID_bind hasks ?_ ?_)
      · intro e evs hfailed
        refine Follows.pure (Follows.pure ⟨fun v hholder ↦ ?_, by simp⟩)
        exact (hfailed.not_holder (by simpa using hholder)).elim
      · intro v raw session hraw hid
        dsimp only
        split_ifs with howner
        · refine Follows.pure (Follows.pure ⟨fun u hholder ↦ ?_, by simp⟩)
          exact absurd (session_of_holder (v := v) hraw (by simp) (by simp) hholder).1 howner
        · refine follows_runRedis_bind ⟨.inr ⟨_, rfl⟩, by simp, by simp⟩ fun reply ↦ ?_
          have hreply : ∀ u tr, tr = ([] ++ [⟨.redis (.get (.controlSessionIndex sessionID)),
              .ok (some v)⟩, ⟨.redis (.get (.controlLease v)), .ok (some raw)⟩] ++
              [⟨.redis (.releaseScript session.vehicleID sessionID sessionID operatorID),
                reply⟩]) →
              (∀ ev ∈ tr, HolderReply u sessionID operatorID ev) → reply = .ok (1 : ℤ) := by
            rintro u tr rfl hholder
            have hvehicle := (session_of_holder (v := v) hraw (by simp) (by simp) hholder).2
            have hlast := hholder
              ⟨.redis (.releaseScript session.vehicleID sessionID sessionID operatorID), reply⟩
              (by simp)
            exact hlast hvehicle rfl rfl
          rcases reply with error | result
          · refine Follows.pure (Follows.pure ⟨fun u hholder ↦ ?_, by simp⟩)
            cases hreply u _ rfl hholder
          · dsimp only
            split_ifs with hzero hneg
            · refine Follows.pure (Follows.pure ⟨fun u hholder ↦ ?_, by simp⟩)
              have hone : (result : ℤ) = 1 := Except.ok.inj (hreply u _ rfl hholder)
              cases hone.symm.trans hzero
            · refine Follows.pure (Follows.pure ⟨fun u hholder ↦ ?_, by simp⟩)
              have hone : (result : ℤ) = 1 := Except.ok.inj (hreply u _ rfl hholder)
              have hnegative : (1 : ℤ) < 0 := hone ▸ hneg
              exact absurd hnegative (by decide)
            · have hpos : 0 < (result : ℤ) := lt_of_le_of_ne (not_lt.mp hneg) (Ne.symm hzero)
              refine Follows.pure (Follows.pure ⟨fun _ _ ↦ rfl, fun _ ↦ ?_⟩)
              exact ⟨session.vehicleID, result, by simp, hpos⟩

/-! ## Runs -/

section Runs

variable [Cjson] {s : ControlLeaseStore}
  {C : TransitionSystem.StepCondition LeaseState LeaseLabel} {ls : List LeaseLabel} {st : LeaseState}

/-- No two calls acquire the same session. -/
theorem acquire_unique (hrun : (leasePool s).system.RunWhere FreshSessions ls st) {i j : ℕ}
    {a b : ControlSession} {p q : GatewayProgram ControlResult}
    (hi : st.pool[i]? = some (.acquire a, p)) (hj : st.pool[j]? = some (.acquire b, q))
    (hid : a.sessionID = b.sessionID) : i = j := by
  let clash (c d : ControlCall) : Prop :=
    ∃ a b, c = .acquire a ∧ d = .acquire b ∧ a.sessionID = b.sessionID
  have hsymm : ∀ c d, clash c d → clash d c := by
    rintro _ _ ⟨a, b, rfl, rfl, hid⟩
    exact ⟨b, a, rfl, rfl, hid.symm⟩
  have hnew : ∀ ls st c, FreshSessions ls st (.spawn c) → ∀ d, .spawn d ∈ ls → ¬ clash d c := by
    rintro ls st c hfresh d hd ⟨a, b, rfl, rfl, hid⟩
    exact hfresh.2.2 a hd hid
  exact PoolSystem.pool_unique hsymm hnew hrun hi hj ⟨a, b, rfl, rfl, hid⟩

theorem validIDs_of_mem (hrun : (leasePool s).system.RunWhere FreshSessions ls st)
    {session : ControlSession} (hmem : .spawn (.acquire session) ∈ ls) :
    session.sessionID.ValidUTF8 ∧ session.operatorID.ValidUTF8 := by
  obtain ⟨before, t, t', -, -, hfresh, -⟩ := hrun.exists_step hmem
  exact ⟨hfresh.1, hfresh.2.1⟩

/-- Fresh sessions are stored once. -/
theorem storesOnce_of_fresh (hrun : (leasePool s).system.RunWhere FreshSessions ls st) :
    (leasePool s).system.RunWhere StoresOnce ls st := by
  refine hrun.strengthen ?_
  intro ls st l st' hrun _ hstep
  cases l with
  | spawn | env => trivial
  | exec i c e reply =>
      have hasks := PoolSystem.asks_of_step (ControlCall.onlyAsks s) hrun hstep
      have hspawn : .spawn c ∈ ls := by
        cases hstep with
        | exec hi _ => exact PoolSystem.spawn_mem hrun hi
      cases e with
      | timeNow | newUUID | issueOperatorToken | recordAudit => trivial
      | redis cmd =>
          cases c with
          | acquire session =>
              obtain rfl := Effect.redis.inj hasks
              refine ⟨⟨?_, rfl⟩, ?_⟩
              · exact GoString.throughJSON_of_valid (validIDs_of_mem hrun hspawn).1
              · rintro _ _ _ _ _ ⟨⟩ ⟨j, d, leaseOf, payload, px, vehicleID, reply', hmem⟩
                have hfollows := ControlCall.follows s
                obtain ⟨-, before, -, hother⟩ :=
                  PoolSystem.asks_of_mem (S := leasePool s) hfollows hrun hmem
                obtain ⟨p, hj⟩ := PoolSystem.pool_of_mem hrun hmem
                cases d with
                | renew | release => simp [ControlCall.AsksInOrder, ControlCall.Asks] at hother
                | acquire other =>
                    obtain ⟨-, hid, -⟩ := RedisCommand.acquireScript.inj (Effect.redis.inj hother.1)
                    cases hstep with
                    | exec hi _ =>
                        obtain rfl := acquire_unique hrun hi hj hid
                        have hnow := Program.Meets.allowed
                          ((PoolSystem.follows_of_run hfollows hrun).2 i _ _ hi)
                        have hempty := hnow.2.1 session rfl
                        have hevent := PoolSystem.mem_trace.mpr ⟨_, hmem⟩
                        rw [hempty] at hevent
                        cases hevent
          | renew sessionID operatorID =>
              rcases hasks with h | ⟨k, h⟩ | ⟨v, expiresAt, h⟩
              · cases h
              · obtain rfl := Effect.redis.inj h
                exact ⟨trivial, by simp⟩
              · obtain rfl := Effect.redis.inj h
                exact ⟨⟨rfl, rfl⟩, by simp⟩
          | release sessionID operatorID =>
              rcases hasks with ⟨k, h⟩ | ⟨v, h⟩
              · obtain rfl := Effect.redis.inj h
                exact ⟨trivial, by simp⟩
              · obtain rfl := Effect.redis.inj h
                exact ⟨rfl, by simp⟩

/-- A record that Go reads back as that of an active session of the vehicle, and will after a
renewal. -/
structure KeptRecord (v : GoString) (raw : ControlSessionJSON) : Prop where
  unmarshal_eq : raw.unmarshal = some raw.session
  vehicleID_eq : raw.session.vehicleID = v
  status_eq : raw.session.status = .active
  createdAt_survives : Cjson.survives raw.session.createdAtMS = true

theorem keptRecord_of_stored (hasHandled : ∀ ls st l, C ls st l → AsHandled s ls st l)
    (hrun : (leasePool s).system.RunWhere C ls st) {v : GoString} {e : Entry ControlSessionJSON}
    (hstored : st.shared.redis (.controlLease v) = some e) : KeptRecord v e.value := by
  suffices h : ∀ v e, st.shared.redis (.controlLease v) = some e → KeptRecord v e.value from
    h v e hstored
  clear hstored v e
  refine hrun.invariant (P := fun _ st ↦ ∀ v e, st.shared.redis (.controlLease v) = some e →
    KeptRecord v e.value) ?_ ?_
  · rintro ⟨w, pool⟩ ⟨hinit, -⟩ v e he
    have hempty : w.redis = Store.empty := hinit
    simp [hempty, Store.empty] at he
  · intro ls st l st' hrun ih _ hstep
    have hstep' := hstep
    cases hstep with
    | spawn => exact ih
    | env hclock => cases hclock; exact ih
    | @exec w w' pool i c e next reply hi hexec =>
        cases hexec with
        | timeNow | newUUID | failed | issueOperatorToken | recordAudit => exact ih
        | @ran cmd result redis reply hdone hreports =>
            intro v e' he'
            have hasks : c.AsksInOrder s (PoolSystem.trace i ls) (.redis cmd) :=
              Program.Meets.allowed ((PoolSystem.follows_of_run (S := leasePool s)
                (ControlCall.follows s) hrun).2 i c _ hi)
            rcases RedisCommand.exec_stores_lease hdone (hasks.1.not_overwritesLease v) he' with
              hold | ⟨indexOf, px, vehicleID, hcmd, -, -⟩ |
                ⟨e, indexOf, expiresAt, px, vehicleID, hcmd, hlive, rfl⟩
            · exact ih v e' hold
            · cases hcmd
              cases c with
              | renew | release => simp [ControlCall.AsksInOrder, ControlCall.Asks] at hasks
              | acquire session =>
                  obtain ⟨rfl, -, hpayload, -, -⟩ :=
                    RedisCommand.acquireScript.inj (Effect.redis.inj hasks.1)
                  obtain ⟨before, t, t', -, -, hcond, -⟩ :=
                    hrun.exists_step (PoolSystem.spawn_mem hrun hi)
                  obtain ⟨hvehicle, hactive, hcreated⟩ := hasHandled _ _ _ hcond
                  rw [hpayload]
                  exact ⟨rfl, GoString.throughJSON_of_valid hvehicle, hactive, hcreated⟩
            · cases hcmd
              obtain ⟨t, hevent, rfl⟩ := hasks.2.2 _ _ _ _ _ _ _ rfl
              obtain ⟨d, hmem⟩ := PoolSystem.mem_trace.mp hevent
              obtain ⟨before, u, u', -, -, hcond, -⟩ := hrun.exists_step hmem
              have hexpires : Cjson.survives (t + s.ttl) = true := hasHandled _ _ _ hcond
              have hold := ih v e (Store.live_eq_some_iff.mp hlive).1
              refine ⟨?_, hold.vehicleID_eq, hold.status_eq, hold.createdAt_survives⟩
              simp [ControlSessionJSON.unmarshal, ControlSession.cjsonEncode,
                hold.createdAt_survives, hexpires]

/-- One command that a call sends while the session of the operator holds the lease of `v`. -/
theorem holderReply_of_exec {w : GatewayState} {redis : Redis} {c : ControlCall}
    {cmd : RedisCommand} {result : cmd.Result} {v sessionID operatorID : GoString}
    (hpairs : Pairs ls w.clock w.redis) (hasks : c.Asks s (.redis cmd))
    (hkept : ∀ e, w.redis (.controlLease v) = some e → KeptRecord v e.value)
    (hholds : Holds w v sessionID operatorID)
    (hexec : cmd.exec w.clock w.redis = .ok (result, redis)) :
    HolderReply v sessionID operatorID ⟨.redis cmd, .ok result⟩ := by
  obtain ⟨e, hlive, rfl, rfl⟩ := hholds
  obtain ⟨hstored, hdeadline⟩ := Store.live_eq_some_iff.mp hlive
  have hget : w.redis.get w.clock (.controlLease v) = some e.value :=
    Store.get_eq_some_iff.mpr ⟨e, hlive, rfl⟩
  have hindex : w.redis.get w.clock (.controlSessionIndex e.value.session.sessionID) = some v :=
    Store.get_eq_some_iff.mpr
      ⟨_, Store.live_eq_some_iff.mpr ⟨hpairs.indexed v e hstored, hdeadline⟩, rfl⟩
  have hrecord := hkept e hstored
  cases cmd with
  | get k =>
      obtain ⟨rfl, -⟩ := Prod.mk.inj (Except.ok.inj hexec)
      cases k with
      | videoSession | videoViewer => trivial
      | controlSessionIndex id =>
          rintro rfl
          exact congrArg Except.ok hindex
      | controlLease u =>
          rintro rfl
          exact ⟨e.value, e.value.session, congrArg Except.ok hget, hrecord.unmarshal_eq, rfl, rfl,
            hrecord.vehicleID_eq⟩
  | set | del | acquireScript => trivial
  | renewScript leaseOf indexOf id operator expiresAt px vehicleID =>
      rintro rfl rfl rfl
      cases c with
      | acquire | release => simp [ControlCall.Asks] at hasks
      | renew id' operator' =>
          obtain ⟨u, t, hscript⟩ : ∃ _ _, _ := (hasks.resolve_left (by simp)).resolve_left (by simp)
          obtain ⟨rfl, rfl, hid, -, -, -, rfl⟩ :=
            RedisCommand.renewScript.inj (Effect.redis.inj hscript)
          subst hid
          simp only [RedisCommand.exec, renewControlSessionScript, hget, hindex, ne_eq,
            not_true_eq_false, hrecord.status_eq, or_self, if_false] at hexec
          split_ifs at hexec
          obtain ⟨rfl, -⟩ := Prod.mk.inj (Except.ok.inj hexec)
          rfl
  | releaseScript leaseOf indexOf id operator =>
      rintro rfl rfl rfl
      simp only [RedisCommand.exec, releaseControlSessionScript, hget, ne_eq, not_true_eq_false,
        or_self, if_false] at hexec
      obtain ⟨rfl, -⟩ := Prod.mk.inj (Except.ok.inj hexec)
      rfl

theorem holderReply_of_run {i : ℕ} {v sessionID operatorID : GoString}
    (hrun : (leasePool s).system.RunWhere (fun ls st l ↦ FreshSessions ls st l ∧
      AsHandled s ls st l ∧ HeldThroughout i v sessionID operatorID ls st l) ls st) :
    ∀ ev ∈ PoolSystem.trace i ls, HolderReply v sessionID operatorID ev := by
  rintro ⟨e, reply⟩ hev
  obtain ⟨c, hmem⟩ := PoolSystem.mem_trace.mp hev
  obtain ⟨before, t, t', -, hbefore, ⟨-, -, hheld⟩, hstep⟩ := hrun.exists_step hmem
  cases e with
  | timeNow | newUUID | issueOperatorToken | recordAudit => trivial
  | redis cmd =>
      obtain ⟨hholds, result, rfl⟩ := hheld rfl
      have hasks := PoolSystem.asks_of_step (ControlCall.onlyAsks s) hbefore hstep
      have hpairs := pairs_of_run (storesOnce_of_fresh (hbefore.mono fun _ _ _ h ↦ h.1))
      cases hstep with
      | exec _ hexec =>
          cases hexec with
          | ran hdone hreports =>
              cases hreports
              exact holderReply_of_exec hpairs hasks
                (fun e he ↦ keptRecord_of_stored (fun _ _ _ h ↦ h.2.1) hbefore he) hholds hdone

/-- Two releases of one session that succeeded are the same step's. -/
theorem release_unique (hrun : (leasePool s).system.RunWhere StoresOnce ls st) {i j : ℕ}
    {c d : ControlCall} {u v id operatorID operatorID' : GoString}
    {reply reply' : Except RedisError ℤ} (hreply : scriptAnswer reply = some 1)
    (hi : .exec i c (.redis (.releaseScript u id id operatorID)) reply ∈ ls)
    (hreply' : scriptAnswer reply' = some 1)
    (hj : .exec j d (.redis (.releaseScript v id id operatorID')) reply' ∈ ls) : i = j := by
  let releases (l : LeaseLabel) : Prop :=
    ∃ i c v o reply, scriptAnswer reply = some 1 ∧
      l = .exec i c (.redis (.releaseScript v id id o)) reply
  have hagain : ∀ ls st l st', (leasePool s).system.RunWhere StoresOnce ls st →
      StoresOnce ls st l → (leasePool s).system.Step st l st' → releases l →
        ∀ l' ∈ ls, ¬ releases l' := by
    rintro ls st _ st' hrun - hstep ⟨i, c, v, o, reply, hreply, rfl⟩ _ hmem
      ⟨j, d, u, o', reply', hreply', rfl⟩
    obtain ⟨-, hgone⟩ := (pairs_of_run hrun).released id ⟨j, d, u, id, o', reply', hreply', hmem⟩
    cases hstep with
    | exec _ hexec =>
        obtain ⟨redis, hdone, -⟩ := hexec.release_answer hreply
        rcases releaseControlSessionScript_cases hdone with ⟨hle, -⟩ | ⟨e, -, hlive, hid, -⟩
        · exact absurd hle (by decide)
        · exact hgone v e (Store.live_eq_some_iff.mp hlive).1 hid
  have hsame := hrun.once hagain hi hj ⟨i, c, u, operatorID, reply, hreply, rfl⟩
    ⟨j, d, v, operatorID', reply', hreply', rfl⟩
  cases hsame
  rfl

/-- A release that returned success ran its script as the holder. -/
theorem release_of_success (hrun : (leasePool s).system.RunWhere C ls st) {i : ℕ}
    {sessionID operatorID : GoString}
    (hi : st.pool[i]? = some (.release sessionID operatorID, .pure (.ok none))) :
    ∃ v c, .exec i c (.redis (.releaseScript v sessionID sessionID operatorID)) (.ok (1 : ℤ))
      ∈ ls := by
  have hreturns : (ControlCall.release sessionID operatorID).ReturnsWhenHeld
      (PoolSystem.trace i ls) (.ok none) :=
    ((PoolSystem.follows_of_run (S := leasePool s) (ControlCall.follows s) hrun).2 i _ _ hi).result
  obtain ⟨v, n, hevent, hpos⟩ := hreturns.2 rfl
  obtain ⟨c, hmem⟩ := PoolSystem.mem_trace.mp hevent
  obtain ⟨before, t, t', -, -, -, hstep⟩ := hrun.exists_step hmem
  cases hstep with
  | exec _ hexec =>
      obtain ⟨redis, hdone, -⟩ := hexec.release_answer rfl
      rcases releaseControlSessionScript_cases hdone with ⟨hle, -⟩ | ⟨e, rfl, -⟩
      · exact absurd hpos (not_lt.mpr hle)
      · exact ⟨v, c, hmem⟩

end Runs

/-- Interleaved acquire, renew and release calls with fresh sessions keep lease and index
alike: each live lease has its live index with the same deadline and conversely, and a session
is released once.  If besides the calls are as `handleAcquireControl` makes them, a renewal or
release by the operator whose session holds the lease throughout succeeds. -/
theorem lease_and_index_agree [Cjson] (s : ControlLeaseStore) {ls : List LeaseLabel}
    {st : LeaseState} (hrun : (leasePool s).system.RunWhere FreshSessions ls st) :
    (∀ v sessionID d,
      (∃ e, st.shared.redis.live st.shared.clock (.controlLease v) = some e ∧
        e.value.session.sessionID = sessionID ∧ e.deadline = d) ↔
      st.shared.redis.live st.shared.clock (.controlSessionIndex sessionID) = some ⟨v, d⟩) ∧
    (∀ (i j : ℕ) (sessionID operatorID operatorID' : GoString),
      st.pool[i]? = some (.release sessionID operatorID, .pure (.ok none)) →
      st.pool[j]? = some (.release sessionID operatorID', .pure (.ok none)) → i = j) ∧
    ∀ (i : ℕ) (c : ControlCall) (v sessionID operatorID : GoString) (result : ControlResult),
      c = .renew sessionID operatorID ∨ c = .release sessionID operatorID →
      (leasePool s).system.RunWhere (fun ls st l ↦ FreshSessions ls st l ∧
        AsHandled s ls st l ∧ HeldThroughout i v sessionID operatorID ls st l) ls st →
      st.pool[i]? = some (c, .pure result) → ∃ session, result = .ok session := by
  have honce := storesOnce_of_fresh hrun
  have hpairs := pairs_of_run honce
  refine ⟨fun v sessionID d ↦ ⟨?_, fun hindex ↦ ?_⟩, ?_, ?_⟩
  · rintro ⟨e, hlive, rfl, rfl⟩
    obtain ⟨hstored, hdeadline⟩ := Store.live_eq_some_iff.mp hlive
    exact Store.live_eq_some_iff.mpr ⟨hpairs.indexed v e hstored, hdeadline⟩
  · obtain ⟨hstored, hdeadline⟩ := Store.live_eq_some_iff.mp hindex
    obtain ⟨e, he, hid, rfl⟩ := hpairs.leased sessionID v d hstored hdeadline
    exact ⟨e, Store.live_eq_some_iff.mpr ⟨he, hdeadline⟩, hid, rfl⟩
  · intro i j sessionID operatorID operatorID' hi hj
    obtain ⟨v, c, hmem⟩ := release_of_success hrun hi
    obtain ⟨v', c', hmem'⟩ := release_of_success hrun hj
    exact release_unique honce rfl hmem rfl hmem'
  · intro i c v sessionID operatorID result hc hheld hi
    have hreplies := holderReply_of_run hheld
    have hreturns : c.ReturnsWhenHeld (PoolSystem.trace i ls) result :=
      ((PoolSystem.follows_of_run (S := leasePool s) (ControlCall.follows s) hrun).2
        i _ _ hi).result
    rcases hc with rfl | rfl
    · obtain ⟨session, hresult⟩ := hreturns v hreplies
      exact ⟨some session, hresult⟩
    · exact ⟨none, hreturns.1 v hreplies⟩

section Witness

/-- A session is acquired; its operator calls `c`, which sends `n` commands. -/
def heldCall (session : ControlSession) (c : ControlCall) (n : ℕ) : List LeaseTurn :=
  [.start (.acquire session), .next 0 .served, .start c] ++ List.replicate n (.next 1 .served)

def aliceReleases : List LeaseTurn :=
  heldCall aliceSession (.release aliceSession.sessionID aliceSession.operatorID) 3

theorem lease_and_index_agree_alice :
    letI := Cjson.fourteenDigits
    ∃ result : ControlResult,
      (∃ ls st, (gatewayPlayer (ControlCall.program ⟨30000⟩)).play []
          ⟨⟨0, Store.empty, []⟩, []⟩ aliceReleases = some (ls, st) ∧
        (st.pool.map Prod.snd)[1]? = some (.pure result)) ∧
      ∃ session, result = .ok session := by
  let := Cjson.fourteenDigits
  let P := gatewayPlayer (ControlCall.program ⟨30000⟩)
  let start : LeaseState := ⟨⟨0, Store.empty, []⟩, []⟩
  have hinit : ∀ C, (leasePool ⟨30000⟩).system.RunWhere C [] start := fun C ↦ .init ⟨rfl, rfl⟩
  obtain ⟨ls, st, hplay, hpool⟩ : ∃ ls st, P.play [] start aliceReleases = some (ls, st) ∧
      st.pool = [(.acquire aliceSession, .pure (.ok none)),
        (.release aliceSession.sessionID aliceSession.operatorID, .pure (.ok none))] :=
    ⟨_, _, rfl, rfl⟩
  have hvalid : ∀ text, (GoString.ofString text).ValidUTF8 := GoString.validUTF8_ofString
  have hkeeps : P.Keeps (fun ls st l ↦ FreshSessions ls st l ∧ AsHandled ⟨30000⟩ ls st l ∧
      HeldThroughout 1 aliceSession.vehicleID aliceSession.sessionID aliceSession.operatorID
        ls st l) [] start aliceReleases :=
    .intro ⟨⟨hvalid _, hvalid _, by simp⟩, ⟨hvalid _, rfl, by decide⟩, trivial⟩ <|
    .intro ⟨trivial, trivial, fun h ↦ absurd h (by decide)⟩ <|
    .intro ⟨trivial, trivial, trivial⟩ <|
    .intro ⟨trivial, trivial, fun _ ↦ ⟨⟨_, rfl, rfl, rfl⟩, _, rfl⟩⟩ <|
    .intro ⟨trivial, trivial, fun _ ↦ ⟨⟨_, rfl, rfl, rfl⟩, _, rfl⟩⟩ <|
    .intro ⟨trivial, trivial, fun _ ↦ ⟨⟨_, rfl, rfl, rfl⟩, _, rfl⟩⟩ trivial
  have hrun := P.run_of_play (hinit _) hplay hkeeps
  have hfresh := hrun.mono fun _ _ _ h ↦ h.1
  refine ⟨.ok none, ⟨ls, st, hplay, by rw [hpool]; rfl⟩, ?_⟩
  exact (lease_and_index_agree ⟨30000⟩ hfresh).2.2 1 _ _ _ _ _ (.inr rfl) hrun (by rw [hpool]; rfl)

/-- In some run that acquires only sessions in `sessions`, a renewal by the operator whose
session holds the lease throughout is refused. -/
def HolderRefused [Cjson] (sessions : ControlSession → Prop) : Prop :=
  ∃ (ls : List LeaseLabel) (st : LeaseState) (i : ℕ) (v sessionID operatorID : GoString)
    (error : ControlSessionError),
    (leasePool ⟨30000⟩).system.RunWhere (fun ls st l ↦ FreshSessions ls st l ∧
      (∀ session, l = .spawn (.acquire session) → sessions session) ∧
      HeldThroughout i v sessionID operatorID ls st l) ls st ∧
    (st.pool.map Prod.fst)[i]? = some (.renew sessionID operatorID) ∧
    (st.pool.map Prod.snd)[i]? = some (.pure (.error error))

/-- `cjson` writes 15 digits with an exponent, which `json.Unmarshal` refuses. -/
def lateSession : ControlSession := { aliceSession with createdAtMS := 10 ^ 14 }

def releasedSession : ControlSession := { aliceSession with status := .released }

def straySession : ControlSession := { aliceSession with vehicleID := [.stray 255] }

theorem late_holder_refused : @HolderRefused Cjson.fourteenDigits
    fun session ↦ session.vehicleID.ValidUTF8 ∧ session.status = .active := by
  let := Cjson.fourteenDigits
  let c := ControlCall.renew lateSession.sessionID lateSession.operatorID
  let P := gatewayPlayer (ControlCall.program ⟨30000⟩)
  let start : LeaseState := ⟨⟨10 ^ 14, Store.empty, []⟩, []⟩
  let turns : List LeaseTurn :=
    heldCall lateSession c 4 ++ [.start c, .next 2 .served, .next 2 .served]
  have hinit : ∀ C, (leasePool ⟨30000⟩).system.RunWhere C [] start := fun C ↦ .init ⟨rfl, rfl⟩
  obtain ⟨ls, st, hplay, hcall, hresult⟩ : ∃ ls st, P.play [] start turns = some (ls, st) ∧
      (st.pool.map Prod.fst)[2]? = some c ∧
      (st.pool.map Prod.snd)[2]? = some (.pure (.error .wrapped)) := ⟨_, _, rfl, rfl, rfl⟩
  have hvalid : ∀ text, (GoString.ofString text).ValidUTF8 := GoString.validUTF8_ofString
  have hkeeps : P.Keeps (fun ls st l ↦ FreshSessions ls st l ∧
      (∀ session, l = .spawn (.acquire session) →
        session.vehicleID.ValidUTF8 ∧ session.status = .active) ∧
      HeldThroughout 2 lateSession.vehicleID lateSession.sessionID lateSession.operatorID ls st l)
      [] start turns :=
    .intro ⟨⟨hvalid _, hvalid _, by simp⟩, by rintro _ ⟨⟩; exact ⟨hvalid _, rfl⟩, trivial⟩ <|
    .intro ⟨trivial, by simp, fun h ↦ absurd h (by decide)⟩ <|
    .intro ⟨trivial, by simp, trivial⟩ <|
    .intro ⟨trivial, by simp, fun h ↦ absurd h (by decide)⟩ <|
    .intro ⟨trivial, by simp, fun h ↦ absurd h (by decide)⟩ <|
    .intro ⟨trivial, by simp, trivial⟩ <|
    .intro ⟨trivial, by simp, fun h ↦ absurd h (by decide)⟩ <|
    .intro ⟨trivial, by simp, trivial⟩ <|
    .intro ⟨trivial, by simp, fun _ ↦ ⟨⟨_, rfl, rfl, rfl⟩, _, rfl⟩⟩ <|
    .intro ⟨trivial, by simp, fun _ ↦ ⟨⟨_, rfl, rfl, rfl⟩, _, rfl⟩⟩ trivial
  have hrun := P.run_of_play (hinit _) hplay hkeeps
  exact ⟨ls, st, 2, _, _, _, .wrapped, hrun, hcall, hresult⟩

theorem released_holder_refused : @HolderRefused Cjson.fourteenDigits
    fun session ↦ session.vehicleID.ValidUTF8 ∧ session.createdAtMS = 0 := by
  let := Cjson.fourteenDigits
  let c := ControlCall.renew releasedSession.sessionID releasedSession.operatorID
  let P := gatewayPlayer (ControlCall.program ⟨30000⟩)
  let start : LeaseState := ⟨⟨0, Store.empty, []⟩, []⟩
  have hinit : ∀ C, (leasePool ⟨30000⟩).system.RunWhere C [] start := fun C ↦ .init ⟨rfl, rfl⟩
  obtain ⟨ls, st, hplay, hcall, hresult⟩ : ∃ ls st,
      P.play [] start (heldCall releasedSession c 4) = some (ls, st) ∧
      (st.pool.map Prod.fst)[1]? = some c ∧
      (st.pool.map Prod.snd)[1]? = some (.pure (.error .sessionOwner)) := ⟨_, _, rfl, rfl, rfl⟩
  have hvalid : ∀ text, (GoString.ofString text).ValidUTF8 := GoString.validUTF8_ofString
  have hkeeps : P.Keeps (fun ls st l ↦ FreshSessions ls st l ∧
      (∀ session, l = .spawn (.acquire session) →
        session.vehicleID.ValidUTF8 ∧ session.createdAtMS = 0) ∧
      HeldThroughout 1 releasedSession.vehicleID releasedSession.sessionID
        releasedSession.operatorID ls st l) [] start (heldCall releasedSession c 4) :=
    .intro ⟨⟨hvalid _, hvalid _, by simp⟩, by rintro _ ⟨⟩; exact ⟨hvalid _, rfl⟩, trivial⟩ <|
    .intro ⟨trivial, by simp, fun h ↦ absurd h (by decide)⟩ <|
    .intro ⟨trivial, by simp, trivial⟩ <|
    .intro ⟨trivial, by simp, fun _ ↦ ⟨⟨_, rfl, rfl, rfl⟩, _, rfl⟩⟩ <|
    .intro ⟨trivial, by simp, fun _ ↦ ⟨⟨_, rfl, rfl, rfl⟩, _, rfl⟩⟩ <|
    .intro ⟨trivial, by simp, trivial⟩ <|
    .intro ⟨trivial, by simp, fun _ ↦ ⟨⟨_, rfl, rfl, rfl⟩, _, rfl⟩⟩ trivial
  have hrun := P.run_of_play (hinit _) hplay hkeeps
  exact ⟨ls, st, 1, _, _, _, .sessionOwner, hrun, hcall, hresult⟩

theorem stray_holder_refused : @HolderRefused Cjson.fourteenDigits
    fun session ↦ session.status = .active ∧ session.createdAtMS = 0 := by
  let := Cjson.fourteenDigits
  let c := ControlCall.renew straySession.sessionID straySession.operatorID
  let P := gatewayPlayer (ControlCall.program ⟨30000⟩)
  let start : LeaseState := ⟨⟨0, Store.empty, []⟩, []⟩
  have hinit : ∀ C, (leasePool ⟨30000⟩).system.RunWhere C [] start := fun C ↦ .init ⟨rfl, rfl⟩
  obtain ⟨ls, st, hplay, hcall, hresult⟩ : ∃ ls st,
      P.play [] start (heldCall straySession c 4) = some (ls, st) ∧
      (st.pool.map Prod.fst)[1]? = some c ∧
      (st.pool.map Prod.snd)[1]? = some (.pure (.error .sessionNotFound)) := ⟨_, _, rfl, rfl, rfl⟩
  have hvalid : ∀ text, (GoString.ofString text).ValidUTF8 := GoString.validUTF8_ofString
  have hkeeps : P.Keeps (fun ls st l ↦ FreshSessions ls st l ∧
      (∀ session, l = .spawn (.acquire session) →
        session.status = .active ∧ session.createdAtMS = 0) ∧
      HeldThroughout 1 straySession.vehicleID straySession.sessionID straySession.operatorID
        ls st l) [] start (heldCall straySession c 4) :=
    .intro ⟨⟨hvalid _, hvalid _, by simp⟩, by rintro _ ⟨⟩; exact ⟨rfl, rfl⟩, trivial⟩ <|
    .intro ⟨trivial, by simp, fun h ↦ absurd h (by decide)⟩ <|
    .intro ⟨trivial, by simp, trivial⟩ <|
    .intro ⟨trivial, by simp, fun _ ↦ ⟨⟨_, rfl, rfl, rfl⟩, _, rfl⟩⟩ <|
    .intro ⟨trivial, by simp, fun _ ↦ ⟨⟨_, rfl, rfl, rfl⟩, _, rfl⟩⟩ <|
    .intro ⟨trivial, by simp, trivial⟩ <|
    .intro ⟨trivial, by simp, fun _ ↦ ⟨⟨_, rfl, rfl, rfl⟩, _, rfl⟩⟩ trivial
  have hrun := P.run_of_play (hinit _) hplay hkeeps
  exact ⟨ls, st, 1, _, _, _, .sessionNotFound, hrun, hcall, hresult⟩

/-- Without any one of the conditions on the record a holder may be refused. -/
theorem holder_refused :
    letI := Cjson.fourteenDigits
    HolderRefused (fun session ↦ session.vehicleID.ValidUTF8 ∧ session.status = .active) ∧
    HolderRefused (fun session ↦ session.vehicleID.ValidUTF8 ∧ session.createdAtMS = 0) ∧
    HolderRefused (fun session ↦ session.status = .active ∧ session.createdAtMS = 0) :=
  ⟨late_holder_refused, released_holder_refused, stray_holder_refused⟩

end Witness

end RemoteInfra.Gateway
