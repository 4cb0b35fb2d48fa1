import RemoteInfra.Gateway.LeaseRelease
import RemoteInfra.Library.Leases
import RemoteInfra.Library.Refinement

/-!
# The leases are locks that expire

What the handlers do to the leases, whatever they interleave, is what a table of expiring locks
does: a vehicle's lease is acquired when free, renewed and released by the session that holds it,
and free again past its deadline.  No session acquires a lease twice, so that a lease renewed in
time is kept and a lease that is not is lost for good.
-/

namespace RemoteInfra.Gateway

open RemoteInfra.Library

/-! ## The table that Redis holds -/

/-- The session that holds a vehicle's lease, and until when. -/
def leaseHolder (r : Redis) (now : ℤ) (v : GoString) : Option (GoString × ℤ) :=
  (r.live now (.controlLease v)).map fun e ↦ (e.value.session.sessionID, e.deadline)

theorem leaseHolder_eq_some_iff {r : Redis} {now : ℤ} {v sessionID : GoString} {deadline : ℤ} :
    leaseHolder r now v = some (sessionID, deadline) ↔
      ∃ e, r.live now (.controlLease v) = some e ∧ e.value.session.sessionID = sessionID ∧
        e.deadline = deadline := by
  simp [leaseHolder]

theorem leaseHolder_eq_none_iff {r : Redis} {now : ℤ} {v : GoString} :
    leaseHolder r now v = none ↔ r.live now (.controlLease v) = none := by
  simp [leaseHolder]

theorem leaseHolder_set {r : Redis} {now : ℤ} {v : GoString} {payload : ControlSessionJSON}
    {deadline : ℤ} (h : now ≤ deadline) :
    leaseHolder (r.set (.controlLease v) payload deadline) now =
      Function.update (leaseHolder r now) v (some (payload.session.sessionID, deadline)) := by
  funext u
  by_cases hu : u = v
  · subst hu
    rw [Function.update_self, leaseHolder, Store.live_set_self _ _ _ _ _ h, Option.map_some]
  · have hkey : RedisKey.controlLease u ≠ .controlLease v := by simpa using hu
    rw [Function.update_of_ne hu, leaseHolder, Store.live_set_of_ne _ _ hkey, leaseHolder]

theorem leaseHolder_del {r : Redis} {now : ℤ} {v : GoString} :
    leaseHolder (r.del (.controlLease v)) now = Function.update (leaseHolder r now) v none := by
  funext u
  by_cases hu : u = v
  · subst hu
    rw [Function.update_self, leaseHolder, Store.live_del_self, Option.map_none]
  · have hkey : RedisKey.controlLease u ≠ .controlLease v := by simpa using hu
    rw [Function.update_of_ne hu, leaseHolder, Store.live_del_of_ne _ _ hkey, leaseHolder]

theorem leaseHolder_set_of_ne {r : Redis} {now : ℤ} {k : RedisKey}
    (hk : ∀ v, RedisKey.controlLease v ≠ k) (x : k.Value) (deadline : ℤ) :
    leaseHolder (r.set k x deadline) now = leaseHolder r now := by
  funext u
  rw [leaseHolder, Store.live_set_of_ne _ _ (hk u), leaseHolder]

theorem leaseHolder_del_of_ne {r : Redis} {now : ℤ} {k : RedisKey}
    (hk : ∀ v, RedisKey.controlLease v ≠ k) : leaseHolder (r.del k) now = leaseHolder r now := by
  funext u
  rw [leaseHolder, Store.live_del_of_ne _ _ (hk u), leaseHolder]

/-- Time takes a lease from its holder exactly when it passes the deadline. -/
theorem leaseHolder_later {r : Redis} {now later : ℤ} (hle : now ≤ later) (v : GoString) :
    leaseHolder r later v = (leaseHolder r now v).filter fun p ↦ decide (later ≤ p.2) := by
  cases hlive : r.live now (.controlLease v) with
  | none =>
      have hnone : r.live later (.controlLease v) = none := by
        by_contra hsome
        obtain ⟨e, he⟩ := Option.ne_none_iff_exists'.mp hsome
        cases hlive.symm.trans (Store.live_earlier hle he)
      rw [leaseHolder, leaseHolder, hnone, hlive]
      rfl
  | some e =>
      have hholder : leaseHolder r now v = some (e.value.session.sessionID, e.deadline) :=
        leaseHolder_eq_some_iff.mpr ⟨e, hlive, rfl, rfl⟩
      rw [hholder, Option.filter_some]
      rcases Store.live_later hlive with hlater | ⟨hlater, hpast⟩
      · rw [if_pos (decide_eq_true (Store.live_eq_some_iff.mp hlater).2)]
        exact leaseHolder_eq_some_iff.mpr ⟨e, hlater, rfl, rfl⟩
      · rw [if_neg (by simpa using hpast)]
        exact leaseHolder_eq_none_iff.mpr hlater

def leaseLocks (w : GatewayState) : Locks GoString GoString where
  clock := w.clock
  held := leaseHolder w.redis w.clock
  live := by
    intro v sessionID deadline h
    obtain ⟨e, hlive, -, rfl⟩ := leaseHolder_eq_some_iff.mp h
    exact (Store.live_eq_some_iff.mp hlive).2

/-- What a step does to the locks: scripts that answer 1, and time. -/
def lockLabel : GatewayLabel GatewayCall → Option (LockLabel GoString GoString)
  | .env t => some (.tick t)
  | .exec _ _ (.redis (.acquireScript v _ payload _ _)) reply =>
      if scriptAnswer reply = some 1 then some (.acquire v payload.session.sessionID) else none
  | .exec _ _ (.redis (.renewScript v _ sessionID _ _ _ _)) reply =>
      if scriptAnswer reply = some 1 then some (.renew v sessionID) else none
  | .exec _ _ (.redis (.releaseScript v _ sessionID _)) reply =>
      if scriptAnswer reply = some 1 then some (.release v sessionID) else none
  | _ => none

/-- What is seen of a label. -/
inductive Seen : GatewayLabel GatewayCall → LockLabel GoString GoString → Prop
  | tick (t : ℤ) : Seen (.env t) (.tick t)
  | acquire (i : ℕ) (c : GatewayCall) (v indexOf : GoString) (payload : ControlSessionJSON)
      (px : ℤ) (vehicleID : GoString) {reply : Except RedisError ℤ} :
      scriptAnswer reply = some 1 →
        Seen (.exec i c (.redis (.acquireScript v indexOf payload px vehicleID)) reply)
          (.acquire v payload.session.sessionID)
  | renew (i : ℕ) (c : GatewayCall) (v indexOf sessionID operatorID : GoString)
      (expiresAt px : ℤ) (vehicleID : GoString) {reply : Except RedisError ℤ} :
      scriptAnswer reply = some 1 →
        Seen (.exec i c (.redis (.renewScript v indexOf sessionID operatorID expiresAt px
          vehicleID)) reply) (.renew v sessionID)
  | release (i : ℕ) (c : GatewayCall) (v indexOf sessionID operatorID : GoString)
      {reply : Except RedisError ℤ} : scriptAnswer reply = some 1 →
      Seen (.exec i c (.redis (.releaseScript v indexOf sessionID operatorID)) reply)
        (.release v sessionID)

theorem seen_of_lockLabel {l : GatewayLabel GatewayCall} {m : LockLabel GoString GoString}
    (h : lockLabel l = some m) : Seen l m := by
  unfold lockLabel at h
  split at h
  · obtain rfl := Option.some.inj h
    exact .tick _
  · split_ifs at h with hreply
    obtain rfl := Option.some.inj h
    exact .acquire _ _ _ _ _ _ _ hreply
  · split_ifs at h with hreply
    obtain rfl := Option.some.inj h
    exact .renew _ _ _ _ _ _ _ _ _ hreply
  · split_ifs at h with hreply
    obtain rfl := Option.some.inj h
    exact .release _ _ _ _ _ _ hreply
  · cases h

theorem Seen.lockLabel_eq {l : GatewayLabel GatewayCall} {m : LockLabel GoString GoString}
    (h : Seen l m) : lockLabel l = some m := by
  cases h with
  | tick t => rfl
  | acquire _ _ _ _ _ _ _ hreply => exact if_pos hreply
  | renew _ _ _ _ _ _ _ _ _ hreply => exact if_pos hreply
  | release _ _ _ _ _ _ hreply => exact if_pos hreply

theorem Seen.mem {l : GatewayLabel GatewayCall} {m : LockLabel GoString GoString} (h : Seen l m)
    {ls : List (GatewayLabel GatewayCall)} (hl : l ∈ ls) : m ∈ ls.filterMap lockLabel :=
  List.mem_filterMap.mpr ⟨l, hl, h.lockLabel_eq⟩

/-! ## Every step of the handlers is one of the locks -/

theorem AsksLease.acquire_px {g : GatewayConfig} {c : GatewayCall} {tr : List GatewayEvent}
    {leaseOf indexOf : GoString} {payload : ControlSessionJSON} {px : ℤ} {vehicleID : GoString}
    (h : AsksLease g c tr (.redis (.acquireScript leaseOf indexOf payload px vehicleID))) :
    px = g.controlLeases.ttl := by
  cases h with
  | safe h => cases h with | video h => cases h
  | acquire => rfl

theorem AsksLease.renew_px {g : GatewayConfig} {c : GatewayCall} {tr : List GatewayEvent}
    {leaseOf indexOf sessionID operatorID : GoString} {expiresAt px : ℤ} {vehicleID : GoString}
    (h : AsksLease g c tr (.redis (.renewScript leaseOf indexOf sessionID operatorID expiresAt px
      vehicleID))) : px = g.controlLeases.ttl := by
  cases h with
  | safe h => cases h with | video h => cases h
  | renew => rfl

section Step

variable [Cjson] {g : GatewayConfig}
  {C : TransitionSystem.StepCondition (GatewayPool GatewayCall HTTPResponse)
    (GatewayLabel GatewayCall)}
  {ls : List (GatewayLabel GatewayCall)} {st st' : GatewayPool GatewayCall HTTPResponse}

/-- A command that a handler sends is a step of the locks, or leaves them as they are. -/
theorem leaseLocks_exec {w : GatewayState} {c : GatewayCall} {tr : List GatewayEvent}
    {cmd : RedisCommand} (hasks : AsksLease g c tr (.redis cmd)) {result : cmd.Result}
    {redis : Redis} (hexec : cmd.exec w.clock w.redis = .ok (result, redis))
    {reply : Except RedisError cmd.Result} (hreports : cmd.Reports result reply) (i : ℕ) :
    (lockLabel (.exec i c (.redis cmd) reply) = none ∧
        leaseLocks { w with redis := redis } = leaseLocks w) ∨
      ∃ m, lockLabel (.exec i c (.redis cmd) reply) = some m ∧
        Locks.Step g.controlLeases.ttl (leaseLocks w) m (leaseLocks { w with redis := redis }) := by
  have hsame : ∀ redis', leaseHolder redis' w.clock = leaseHolder w.redis w.clock →
      leaseLocks { w with redis := redis' } = leaseLocks w :=
    fun redis' h ↦ Locks.ext rfl h
  have hover := hasks.not_overwritesLease
  cases cmd with
  | get k =>
      obtain ⟨-, rfl⟩ := Prod.mk.inj (Except.ok.inj hexec)
      exact .inl ⟨rfl, rfl⟩
  | set k x px =>
      have hk : ∀ v, RedisKey.controlLease v ≠ k := by
        rintro v rfl
        exact hover v (.inl ⟨x, px, rfl⟩)
      simp only [RedisCommand.exec] at hexec
      split_ifs at hexec
      obtain ⟨-, rfl⟩ := Prod.mk.inj (Except.ok.inj hexec)
      exact .inl ⟨rfl, hsame _ (leaseHolder_set_of_ne hk x _)⟩
  | del k =>
      have hk : ∀ v, RedisKey.controlLease v ≠ k := by
        rintro v rfl
        exact hover v (.inr rfl)
      obtain ⟨-, rfl⟩ := Prod.mk.inj (Except.ok.inj hexec)
      exact .inl ⟨rfl, hsame _ (leaseHolder_del_of_ne hk)⟩
  | acquireScript leaseOf indexOf payload px vehicleID =>
      have hreply : scriptAnswer reply = some result :=
        scriptAnswer_eq_some_iff.mpr (RedisCommand.reports_iff.mp hreports)
      rcases acquireControlSessionScript_cases hexec with ⟨rfl, rfl, -⟩ | ⟨rfl, hfree, hpx, rfl⟩
      · exact .inl ⟨if_neg (by simp [hreply]), rfl⟩
      · refine .inr ⟨_, if_pos hreply, .acquire (leaseHolder_eq_none_iff.mpr hfree) rfl ?_⟩
        have hheld := @leaseHolder_set w.redis w.clock leaseOf payload (w.clock + px) (by omega)
        rw [← hasks.acquire_px]
        exact (leaseHolder_set_of_ne (by simp) _ _).trans hheld
  | renewScript leaseOf indexOf sessionID operatorID expiresAt px vehicleID =>
      have hreply : scriptAnswer reply = some result :=
        scriptAnswer_eq_some_iff.mpr (RedisCommand.reports_iff.mp hreports)
      rcases renewControlSessionScript_cases hexec with
        ⟨hle, rfl⟩ | ⟨e, rfl, hlive, -, hsession, -, -, hpx, rfl⟩
      · refine .inl ⟨?_, rfl⟩
        have hne : result ≠ (1 : ℤ) := by
          rintro rfl
          exact absurd hle (by decide)
        exact if_neg (by simp [hreply, hne])
      · refine .inr ⟨_, if_pos hreply, .renew ⟨e.deadline, leaseHolder_eq_some_iff.mpr
          ⟨e, hlive, hsession, rfl⟩⟩ rfl ?_⟩
        have hheld := @leaseHolder_set w.redis w.clock leaseOf
          ({ e.value.session with expiresAtMS := expiresAt } : ControlSession).cjsonEncode
          (w.clock + px) (by omega)
        rw [← hasks.renew_px, ← hsession]
        exact (leaseHolder_set_of_ne (by simp) _ _).trans hheld
  | releaseScript leaseOf indexOf sessionID operatorID =>
      have hreply : scriptAnswer reply = some result :=
        scriptAnswer_eq_some_iff.mpr (RedisCommand.reports_iff.mp hreports)
      rcases releaseControlSessionScript_cases (Except.ok.inj hexec) with
        ⟨hle, rfl⟩ | ⟨e, rfl, hlive, hsession, -, rfl⟩
      · refine .inl ⟨?_, rfl⟩
        have hne : result ≠ (1 : ℤ) := by
          rintro rfl
          exact absurd hle (by decide)
        exact if_neg (by simp [hreply, hne])
      · refine .inr ⟨_, if_pos hreply, .release ⟨e.deadline, leaseHolder_eq_some_iff.mpr
          ⟨e, hlive, hsession, rfl⟩⟩ rfl ?_⟩
        exact (leaseHolder_del_of_ne (by simp)).trans leaseHolder_del

theorem leaseLocks_step (hrun : (handlerPool g).system.RunWhere C ls st)
    {l : GatewayLabel GatewayCall} (hstep : (handlerPool g).system.Step st l st') :
    (lockLabel l = none ∧ leaseLocks st'.shared = leaseLocks st.shared) ∨
      ∃ m, lockLabel l = some m ∧
        Locks.Step g.controlLeases.ttl (leaseLocks st.shared) m (leaseLocks st'.shared) := by
  have hstep' := hstep
  cases hstep with
  | spawn => exact .inl ⟨rfl, rfl⟩
  | env hclock =>
      cases hclock with
      | tick hle =>
          exact .inr ⟨_, rfl, .tick hle rfl fun v ↦ leaseHolder_later hle v⟩
  | @exec w w' pool i c e next reply hi hexec =>
      cases hexec with
      | timeNow | newUUID | issueOperatorToken | recordAudit => exact .inl ⟨rfl, rfl⟩
      | @failed cmd error hkept =>
          have hreply := scriptAnswer_error hkept
          exact .inl ⟨by cases cmd <;> simp [lockLabel, hreply], rfl⟩
      | ran hdone hreports =>
          exact leaseLocks_exec (asksLease_of_step hrun hstep') hdone hreports i

/-- The handlers simulate the locks. -/
theorem handlers_simulate_locks
    {D : TransitionSystem.StepCondition (Locks GoString GoString) (LockLabel GoString GoString)}
    (hD : ∀ ls st l st' m, (handlerPool g).system.RunWhere C ls st → C ls st l →
      (handlerPool g).system.Step st l st' → Seen l m →
        D (ls.filterMap lockLabel) (leaseLocks st.shared) m) :
    (handlerPool g).system.Simulates (lockSystem g.controlLeases.ttl) C D
      (fun st ↦ leaseLocks st.shared) lockLabel where
  init := by
    rintro ⟨w, pool⟩ ⟨hinit, -⟩ v
    have hempty : w.redis = Store.empty := hinit
    exact leaseHolder_eq_none_iff.mpr (by rw [hempty, Store.live_empty])
  unseen := by
    intro ls st l st' hrun _ hstep hsee
    rcases leaseLocks_step hrun hstep with ⟨-, hsame⟩ | ⟨m, hm, -⟩
    · exact hsame
    · cases hsee.symm.trans hm
  seen := by
    intro ls st l st' m hrun hcond hstep hsee
    rcases leaseLocks_step hrun hstep with ⟨hnone, -⟩ | ⟨m', hm', hlocks⟩
    · cases hnone.symm.trans hsee
    · obtain rfl := Option.some.inj (hm'.symm.trans hsee)
      exact ⟨hD ls st l st' _ hrun hcond hstep (seen_of_lockLabel hsee), hlocks⟩

/-- A session is acquired with an id that no earlier one has. -/
theorem freshHolders_of_step (hrun : (handlerPool g).system.RunWhere C ls st)
    {l : GatewayLabel GatewayCall} (hstep : (handlerPool g).system.Step st l st')
    {m : LockLabel GoString GoString} (hseen : Seen l m) :
    FreshHolders (ls.filterMap lockLabel) (leaseLocks st.shared) m := by
  cases hseen with
  | renew | release | tick => trivial
  | @acquire i c v indexOf payload px vehicleID reply hreply =>
      intro u hmem
      obtain ⟨l', hl', hsee'⟩ := List.mem_filterMap.mp hmem
      generalize hid : payload.session.sessionID = sessionID at hsee'
      cases seen_of_lockLabel hsee' with
      | acquire j d _ indexOf' payload' px' vehicleID' =>
          have hall : (handlerPool g).system.Run (ls ++ [.exec i c (.redis (.acquireScript v indexOf
            payload px vehicleID)) reply]) st' := .step hrun.toRun trivial hstep
          obtain ⟨_, _, -, ⟨hpairs, hnew⟩, -⟩ := (storesOnce_of_handlers hall).split
          obtain ⟨_, _, _, -, -, hpairs', -⟩ := (storesOnce_of_handlers hrun).exists_step hl'
          have hindex : indexOf' = indexOf :=
            hpairs'.1.1.symm.trans (hid.symm.trans hpairs.1)
          subst hindex
          exact hnew v _ payload px vehicleID rfl ⟨j, d, u, payload', px', vehicleID', _, hl'⟩

/-- What the handlers do to the leases is what expiring locks do, and no session acquires a
lease twice. -/
theorem leases_are_locks (hrun : (handlerPool g).system.RunWhere C ls st) :
    (lockSystem g.controlLeases.ttl).RunWhere FreshHolders (ls.filterMap lockLabel)
      (leaseLocks st.shared) :=
  (handlers_simulate_locks fun _ _ _ _ _ hrun _ hstep hseen ↦
    freshHolders_of_step hrun hstep hseen).run hrun

/-! ## A lease that is renewed in time -/

/-- Asked of every step: while the session holds the lease of `v`, time does not pass its
deadline. -/
def RenewedInTime (v sessionID : GoString) : TransitionSystem.StepCondition
    (GatewayPool GatewayCall HTTPResponse) (GatewayLabel GatewayCall)
  | _, st, .env t => ∀ e, st.shared.redis.live st.shared.clock (.controlLease v) = some e →
      e.value.session.sessionID = sessionID → t ≤ e.deadline
  | _, _, _ => True

/-- A session that acquired a lease, renews it in time and does not release it holds it, and
nobody has acquired it since. -/
theorem renewed_lease_held {v sessionID : GoString}
    {before after : List (GatewayLabel GatewayCall)} {i : ℕ} {c : GatewayCall}
    {indexOf : GoString} {payload : ControlSessionJSON} {px : ℤ} {vehicleID : GoString}
    {reply : Except RedisError ℤ} (hreply : scriptAnswer reply = some 1)
    (hpayload : payload.session.sessionID = sessionID)
    (hrun : (handlerPool g).system.RunWhere (RenewedInTime v sessionID)
      (before ++ .exec i c (.redis (.acquireScript v indexOf payload px vehicleID)) reply :: after)
        st)
    (hunreleased : ∀ j d indexOf' operatorID reply', scriptAnswer reply' = some 1 →
      .exec j d (.redis (.releaseScript v indexOf' sessionID operatorID)) reply' ∉ after) :
    (∃ e, st.shared.redis.live st.shared.clock (.controlLease v) = some e ∧
        e.value.session.sessionID = sessionID) ∧
      ∀ j d indexOf' payload' px' vehicleID' reply', scriptAnswer reply' = some 1 →
        .exec j d (.redis (.acquireScript v indexOf' payload' px' vehicleID')) reply' ∉ after := by
  have halive : ∀ ls st l st' m, (handlerPool g).system.RunWhere (RenewedInTime v sessionID) ls st →
      RenewedInTime v sessionID ls st l → (handlerPool g).system.Step st l st' → Seen l m →
        KeptAlive v sessionID (ls.filterMap lockLabel) (leaseLocks st.shared) m := by
    intro ls st l st' m _ hcond _ hseen
    cases hseen with
    | acquire | renew | release => trivial
    | tick t =>
        intro deadline hheld
        obtain ⟨e, hlive, hsession, rfl⟩ := leaseHolder_eq_some_iff.mp hheld
        exact hcond e hlive hsession
  have hseen : lockLabel (.exec i c (.redis (.acquireScript v indexOf payload px vehicleID))
      reply) = some (.acquire v sessionID) := by
    rw [← hpayload]
    exact (Seen.acquire _ _ _ _ _ _ _ hreply).lockLabel_eq
  have hlocks := (handlers_simulate_locks halive).run hrun
  rw [List.filterMap_append, List.filterMap_cons_some hseen] at hlocks
  have hunseen : .release v sessionID ∉ after.filterMap lockLabel := by
    intro hmem
    obtain ⟨l, hl, hsee⟩ := List.mem_filterMap.mp hmem
    cases seen_of_lockLabel hsee with
    | release j d _ indexOf' _ operatorID hreply' =>
        exact hunreleased j d indexOf' operatorID _ hreply' hl
  constructor
  · obtain ⟨deadline, hheld⟩ := heldBy_of_keptAlive hlocks rfl hunseen
    obtain ⟨e, hlive, hsession, -⟩ := leaseHolder_eq_some_iff.mp hheld
    exact ⟨e, hlive, hsession⟩
  · intro j d indexOf' payload' px' vehicleID' reply' hreply' hmem
    exact not_acquired_of_keptAlive hlocks hunseen payload'.session.sessionID
      ((Seen.acquire _ _ _ _ _ _ _ hreply').mem hmem)

/-! ## A lease that is not -/

/-- A session whose lease no script renewed for longer than its lifetime holds it no more, and no
script renews it ever again, whatever the handlers go on to do and whichever replies are lost. -/
theorem unrenewed_lease_lost {v sessionID : GoString}
    {before idle after : List (GatewayLabel GatewayCall)}
    {st₀ st₁ : GatewayPool GatewayCall HTTPResponse} {i : ℕ} {c : GatewayCall}
    {indexOf : GoString} {payload : ControlSessionJSON} {px : ℤ} {vehicleID : GoString}
    {reply : Except RedisError ℤ} (hreply : scriptAnswer reply = some 1)
    (hbefore : (handlerPool g).system.Run before st₀)
    (hacquired :
      .exec i c (.redis (.acquireScript v indexOf payload px vehicleID)) reply ∈ before)
    (hpayload : payload.session.sessionID = sessionID)
    (hidle : ((handlerPool g).system.startingAt st₀).Run idle st₁)
    (hunrenewed : ∀ j d indexOf' operatorID expiresAt px' vehicleID' reply',
      scriptAnswer reply' = some 1 → .exec j d (.redis (.renewScript v indexOf' sessionID operatorID
        expiresAt px' vehicleID')) reply' ∉ idle)
    (hlate : st₀.shared.clock + g.controlLeases.ttl < st₁.shared.clock)
    (hafter : ((handlerPool g).system.startingAt st₁).Run after st) :
    (∀ e, st.shared.redis.live st.shared.clock (.controlLease v) = some e →
        e.value.session.sessionID ≠ sessionID) ∧
      ∀ j d indexOf' operatorID expiresAt px' vehicleID' reply', scriptAnswer reply' = some 1 →
        .exec j d (.redis (.renewScript v indexOf' sessionID operatorID expiresAt px' vehicleID'))
          reply' ∉ after := by
  have hlocks := handlers_simulate_locks (g := g) (C := fun _ _ _ ↦ True) (D := FreshHolders)
    fun _ _ _ _ _ hrun _ hstep hseen ↦ freshHolders_of_step hrun hstep hseen
  have hreach := hbefore.append hidle
  have hmem : .acquire v sessionID ∈ before.filterMap lockLabel := by
    rw [← hpayload]
    exact (Seen.acquire _ _ _ _ _ _ _ hreply).mem hacquired
  have hunacquired : .acquire v sessionID ∉
      idle.filterMap lockLabel ++ after.filterMap lockLabel := by
    intro hagain
    obtain ⟨early, late, hsplit⟩ := List.append_of_mem hagain
    have hrun := hlocks.run (hreach.append hafter)
    rw [List.append_assoc, List.filterMap_append, List.filterMap_append, hsplit,
      ← List.append_assoc] at hrun
    obtain ⟨_, _, -, hfresh, -⟩ := hrun.split
    exact hfresh v (List.mem_append_left _ hmem)
  have hunrenewed' : .renew v sessionID ∉ idle.filterMap lockLabel := by
    intro hmem'
    obtain ⟨l, hl, hsee⟩ := List.mem_filterMap.mp hmem'
    cases seen_of_lockLabel hsee with
    | renew j d _ indexOf' _ operatorID expiresAt px' vehicleID' hreply' =>
        exact hunrenewed j d indexOf' operatorID expiresAt px' vehicleID' _ hreply' hl
  obtain ⟨hlost, hnever⟩ := lost_of_unrenewed (hlocks.run hbefore).toRun
    (hlocks.run_on hbefore hidle) (hlocks.run_on hreach hafter) hunrenewed' hlate hunacquired
  constructor
  · intro e hlive hsession
    exact hlost ⟨e.deadline, leaseHolder_eq_some_iff.mpr ⟨e, hlive, hsession, rfl⟩⟩
  · intro j d indexOf' operatorID expiresAt px' vehicleID' reply' hreply' hagain
    exact hnever ((Seen.renew _ _ _ _ _ _ _ _ _ hreply').mem hagain)

end Step

/-! ### Alice's leases -/

section Sample

abbrev HandlerTurn := Turn GatewayCall ℤ Answer

abbrev HandlerState := GatewayPool GatewayCall HTTPResponse

def handlerPlayer [Cjson] : (handlerPool sampleGateway).Player Answer :=
  gatewayPlayer (GatewayCall.handle sampleGateway)

def aliceCall : GatewayCall := .acquireControl aliceRequest

/-- Alice's request for the car; `tail` answers it. -/
def aliceAsking (tail : ℤ → GoString → Except RedisError ℤ → GatewayProgram HTTPResponse) :
    GatewayProgram HTTPResponse :=
  .call .timeNow fun now ↦ .call .newUUID fun sessionID ↦
    .call (.redis (.acquireScript aliceRequest.vehicleID sessionID
      (aliceRequest.session sampleGateway leasedSession.publicKeyB64 sessionID now).marshal
      sampleGateway.controlLeases.ttl aliceRequest.vehicleID)) (tail now sessionID)

/-- She has sent two. -/
def twoRequests (tail : ℤ → GoString → Except RedisError ℤ → GatewayProgram HTTPResponse) :
    HandlerState :=
  ⟨⟨0, Store.empty, []⟩, [(aliceCall, aliceAsking tail), (aliceCall, aliceAsking tail)]⟩

theorem twoRequests_run [Cjson]
    {C : TransitionSystem.StepCondition HandlerState (GatewayLabel GatewayCall)}
    (hC : ∀ ls st c, C ls st (.spawn c)) : ∃ tail, (handlerPool sampleGateway).system.RunWhere C
      [.spawn aliceCall, .spawn aliceCall] (twoRequests tail) := by
  obtain ⟨tail, htail⟩ := handleAcquireControl_of_check check_aliceRequest
  have hinit : (handlerPool sampleGateway).system.RunWhere C [] ⟨⟨0, Store.empty, []⟩, []⟩ :=
    .init ⟨rfl, rfl⟩
  have hrun := (hinit.step (hC _ _ aliceCall) (.spawn _ _ _)).step (hC _ _ aliceCall) (.spawn _ _ _)
  have hprogram : (handlerPool sampleGateway).program aliceCall = _ := htail
  rw [hprogram] at hrun
  exact ⟨tail, hrun⟩

/-- The first request is served up to its script. -/
def aliceAsks : List HandlerTurn := [.next 0 .served, .next 0 (.drew "s-1")]

def aliceAcquired : GatewayLabel GatewayCall :=
  .exec 0 aliceCall (.redis (.acquireScript leasedSession.vehicleID leasedSession.sessionID
    leasedSession.marshal 5000 leasedSession.vehicleID)) (.ok (1 : ℤ))

/-- At 3000 the lease is renewed, but the reply to the script is lost. -/
def aliceRenews : List HandlerTurn :=
  [.start (.renewControl renewRequest), .pass 3000] ++ List.replicate 3 (.next 2 .served) ++
    [.next 2 .lost]

def sessionLabel (sessionID : String)
    (label : GoString → GoString → LockLabel GoString GoString) : LockLabel GoString GoString :=
  label leasedSession.vehicleID (GoString.ofString sessionID)

/-- The second request is yet to be served. -/
def aliceRenewed [Cjson]
    (tail : ℤ → GoString → Except RedisError ℤ → GatewayProgram HTTPResponse) : HandlerState where
  shared :=
    { clock := 3000
      redis := (leasedRedis.set (.controlLease leasedSession.vehicleID)
        ({ leasedSession with expiresAtMS := 8000 } : ControlSession).cjsonEncode 8000).set
          (.controlSessionIndex leasedSession.sessionID) leasedSession.vehicleID 8000
      drawn := [leasedSession.sessionID] }
  pool := [(aliceCall, tail 0 leasedSession.sessionID (.ok 1)), (aliceCall, aliceAsking tail),
    (.renewControl renewRequest, .pure (controlSessionErrorResponse .wrapped))]

theorem aliceRenewed_run :
    letI := Cjson.fourteenDigits
    ∃ before tail, (handlerPool sampleGateway).system.Run before (aliceRenewed tail) ∧
      aliceAcquired ∈ before ∧ before.filterMap lockLabel =
        [sessionLabel "s-1" .acquire, .tick 3000, sessionLabel "s-1" .renew] := by
  let := Cjson.fourteenDigits
  obtain ⟨tail, hrequests⟩ := twoRequests_run (C := fun _ _ _ ↦ True) fun _ _ _ ↦ trivial
  obtain ⟨before, hplay, hacquired, hlocks⟩ : ∃ before,
      handlerPlayer.play [.spawn aliceCall, .spawn aliceCall] (twoRequests tail)
        (aliceAsks ++ .next 0 .served :: aliceRenews) = some (before, aliceRenewed tail) ∧
      aliceAcquired ∈ before ∧ before.filterMap lockLabel =
        [sessionLabel "s-1" .acquire, .tick 3000, sessionLabel "s-1" .renew] :=
    ⟨_, rfl, List.mem_of_getElem? (i := 4) rfl, rfl⟩
  have hrun := handlerPlayer.run_of_play hrequests hplay
    (handlerPlayer.keeps_of_forall (fun _ _ _ ↦ trivial) _ _ _)
  exact ⟨before, tail, hrun, hacquired, hlocks⟩

/-- The second request is served. -/
def aliceAsksAgain : List HandlerTurn :=
  [.next 1 .served, .next 1 (.drew "s-2"), .next 1 .served]

/-- A lock that is acquired, renewed, expires and is acquired by another holder. -/
theorem leases_are_locks_alice :
    let := Cjson.fourteenDigits
    ∃ ls st, (handlerPool sampleGateway).system.Run ls st ∧
      (lockSystem 5000).RunWhere FreshHolders
        [sessionLabel "s-1" .acquire, .tick 3000, sessionLabel "s-1" .renew, .tick 9000,
          sessionLabel "s-2" .acquire] (leaseLocks st.shared) := by
  let := Cjson.fourteenDigits
  obtain ⟨before, tail, hbefore, -, hrenewed⟩ := aliceRenewed_run
  obtain ⟨after, st, hplay, hagain⟩ : ∃ after st,
      handlerPlayer.play [] (aliceRenewed tail) (.pass 9000 :: aliceAsksAgain) = some (after, st) ∧
      after.filterMap lockLabel = [.tick 9000, sessionLabel "s-2" .acquire] := ⟨_, _, rfl, rfl⟩
  have hrun := hbefore.append (handlerPlayer.run_on_of_play hplay)
  have hlocks := leases_are_locks hrun
  rw [List.filterMap_append, hrenewed, hagain] at hlocks
  exact ⟨_, st, hrun, hlocks⟩

/-- Whether a step of the sample lets the deadline of alice's session pass. -/
def intime : List (GatewayLabel GatewayCall) → HandlerState → GatewayLabel GatewayCall → Bool
  | _, st, .env t =>
      (st.shared.redis.live st.shared.clock (.controlLease leasedSession.vehicleID)).all fun e ↦
        decide (t ≤ e.deadline)
  | _, _, _ => true

theorem renewedInTime_of_intime (ls : List (GatewayLabel GatewayCall)) (st : HandlerState)
    (l : GatewayLabel GatewayCall) (h : intime ls st l) :
    RenewedInTime leasedSession.vehicleID leasedSession.sessionID ls st l := by
  cases l with
  | spawn | exec => trivial
  | env t =>
      intro e hlive _
      simp only [intime, hlive, Option.all_some] at h
      exact of_decide_eq_true h

/-- Alice's session holds the lease two seconds after its first deadline. -/
theorem renewed_lease_held_alice :
    let := Cjson.fourteenDigits
    ∃ before after st, st.shared.clock = 7000 ∧
      (handlerPool sampleGateway).system.RunWhere
        (RenewedInTime leasedSession.vehicleID leasedSession.sessionID)
        (before ++ aliceAcquired :: after) st ∧
      after.filterMap lockLabel = [.tick 3000, sessionLabel "s-1" .renew, .tick 7000] ∧
      ∃ e, st.shared.redis.live 7000 (.controlLease leasedSession.vehicleID) = some e ∧
        e.value.session.sessionID = leasedSession.sessionID := by
  let := Cjson.fourteenDigits
  let C := RenewedInTime leasedSession.vehicleID leasedSession.sessionID
  obtain ⟨tail, hrequests⟩ := twoRequests_run (C := C) fun _ _ _ ↦ trivial
  obtain ⟨before, st₁, st₂, after, st, hasks, hasked, hacquires, hrenews, hrenewed, hclock, hlocks⟩ :
      ∃ before st₁ st₂ after st,
      handlerPlayer.play [.spawn aliceCall, .spawn aliceCall] (twoRequests tail) aliceAsks =
        some (before, st₁) ∧
      handlerPlayer.passes intime [.spawn aliceCall, .spawn aliceCall] (twoRequests tail)
        aliceAsks = true ∧
      handlerPlayer.turn st₁ (.next 0 .served) = some (aliceAcquired, st₂) ∧
      handlerPlayer.play [] st₂ (aliceRenews ++ [.pass 7000]) = some (after, st) ∧
      handlerPlayer.passes intime (before ++ [aliceAcquired]) st₂ (aliceRenews ++ [.pass 7000]) =
        true ∧
      st.shared.clock = 7000 ∧
      after.filterMap lockLabel = [.tick 3000, sessionLabel "s-1" .renew, .tick 7000] :=
    ⟨_, _, _, _, _, rfl, rfl, rfl, rfl, rfl, rfl, rfl⟩
  have hkeeps : ∀ {ls st ts}, handlerPlayer.passes intime ls st ts = true →
      handlerPlayer.Keeps C ls st ts := handlerPlayer.keeps_of_passes renewedInTime_of_intime _ _
  have hfirst : C before st₁ aliceAcquired := trivial
  have hacquired := (handlerPlayer.run_of_play hrequests hasks (hkeeps hasked)).step hfirst
    (handlerPlayer.turn_sound hacquires)
  have hplay : handlerPlayer.play (before ++ [aliceAcquired]) st₂ (aliceRenews ++ [.pass 7000]) =
      some (before ++ [aliceAcquired] ++ after, st) := by
    rw [← List.append_nil (before ++ [aliceAcquired]), PoolSystem.Player.play_append, hrenews]
    simp
  have hrun := handlerPlayer.run_of_play hacquired hplay (hkeeps hrenewed)
  rw [List.append_assoc, List.singleton_append] at hrun
  have hunreleased : ∀ j d indexOf operatorID reply, scriptAnswer reply = some 1 →
      .exec j d (.redis (.releaseScript leasedSession.vehicleID indexOf leasedSession.sessionID
        operatorID)) reply ∉ after := by
    intro j d indexOf operatorID reply hreply hmem
    have hreleased := (Seen.release j d _ indexOf _ operatorID hreply).mem hmem
    simp [hlocks, sessionLabel] at hreleased
  have hscript : scriptAnswer (.ok 1) = some 1 := rfl
  have hpayload : leasedSession.marshal.session.sessionID = leasedSession.sessionID := rfl
  obtain ⟨hheld, -⟩ := renewed_lease_held hscript hpayload hrun hunreleased
  rw [hclock] at hheld
  exact ⟨before, after, st, hclock, hrun, hlocks, hheld⟩

/-- Another renewal has read the lease when it runs out at 8000. -/
def renewsLate : List HandlerTurn :=
  [.start (.renewControl renewRequest), .next 3 .served, .next 3 .served, .pass 9000]

/-- At 9000 the lease has run out under a renewal that had read it; the script of that renewal
comes too late, and the second session gets the car. -/
theorem unrenewed_lease_lost_alice :
    let := Cjson.fourteenDigits
    ∃ before idle after st, (handlerPool sampleGateway).system.Run (before ++ idle ++ after) st ∧
      before.filterMap lockLabel =
        [sessionLabel "s-1" .acquire, .tick 3000, sessionLabel "s-1" .renew] ∧
      idle.filterMap lockLabel = [.tick 9000] ∧
      after.filterMap lockLabel = [sessionLabel "s-2" .acquire] ∧
      (∃ e, st.shared.redis.live 9000 (.controlLease leasedSession.vehicleID) = some e ∧
        e.value.session.sessionID ≠ leasedSession.sessionID) ∧
      ∀ j d indexOf operatorID expiresAt px vehicleID reply, scriptAnswer reply = some 1 →
        .exec j d (.redis (.renewScript leasedSession.vehicleID indexOf leasedSession.sessionID
          operatorID expiresAt px vehicleID)) reply ∉ after := by
  let := Cjson.fourteenDigits
  obtain ⟨before, tail, hrenewed, hacquired, hbefore⟩ := aliceRenewed_run
  obtain ⟨idle, st₁, after, st, hidles, hafters, hclocks, hidle, hafter, e, hlive⟩ :
      ∃ idle st₁ after st,
      handlerPlayer.play [] (aliceRenewed tail) renewsLate = some (idle, st₁) ∧
      handlerPlayer.play [] st₁ (List.replicate 2 (.next 3 .served) ++ aliceAsksAgain) =
        some (after, st) ∧
      (st₁.shared.clock = 9000 ∧ st.shared.clock = 9000) ∧
      idle.filterMap lockLabel = [.tick 9000] ∧
      after.filterMap lockLabel = [sessionLabel "s-2" .acquire] ∧
      ∃ e, st.shared.redis.live 9000 (.controlLease leasedSession.vehicleID) = some e :=
    ⟨_, _, _, _, rfl, rfl, ⟨rfl, rfl⟩, rfl, rfl, _, rfl⟩
  have hrun₁ := handlerPlayer.run_on_of_play hidles
  have hrun := handlerPlayer.run_on_of_play hafters
  have hunrenewed : ∀ j d indexOf operatorID expiresAt px vehicleID reply,
      scriptAnswer reply = some 1 → .exec j d (.redis (.renewScript leasedSession.vehicleID indexOf
        leasedSession.sessionID operatorID expiresAt px vehicleID)) reply ∉ idle := by
    intro j d indexOf operatorID expiresAt px vehicleID reply hreply hmem
    have hseen := (Seen.renew j d _ indexOf _ operatorID expiresAt px vehicleID hreply).mem hmem
    simp [hidle] at hseen
  have hscript : scriptAnswer (.ok 1) = some 1 := rfl
  have hpayload : leasedSession.marshal.session.sessionID = leasedSession.sessionID := rfl
  have hlate : (aliceRenewed tail).shared.clock + sampleGateway.controlLeases.ttl <
      st₁.shared.clock := by
    rw [hclocks.1]
    exact (by decide : (3000 : ℤ) + 5000 < 9000)
  obtain ⟨hlost, hnever⟩ := unrenewed_lease_lost hscript hrenewed hacquired hpayload hrun₁
    hunrenewed hlate hrun
  rw [hclocks.2] at hlost
  exact ⟨before, idle, after, st, (hrenewed.append hrun₁).append hrun, hbefore, hidle, hafter,
    ⟨e, hlive, hlost e hlive⟩, hnever⟩

end Sample

end RemoteInfra.Gateway
