import RemoteInfra.Gateway.LeaseHistory

/-!
# The lease and its index

Two keys stand for one lease: the vehicle's lease holds the session, and the session's index
holds the vehicle.  As long as every script names a lease and the index of its own session,
and no session is stored twice, the two keys mirror each other.
-/

namespace RemoteInfra.Gateway

open RemoteInfra.Library

variable {Call α : Type}

/-- The command leaves leases and indices alone, or is a script over a lease and the index of
the session in question. -/
def RedisCommand.KeepsPairs : RedisCommand → Prop
  | .get _ => True
  | .set k _ _ | .del k => (∀ v, k ≠ .controlLease v) ∧ ∀ id, k ≠ .controlSessionIndex id
  | .acquireScript leaseOf indexOf payload _ vehicleID =>
      payload.session.sessionID = indexOf ∧ vehicleID = leaseOf
  | .renewScript leaseOf indexOf sessionID _ _ _ vehicleID =>
      indexOf = sessionID ∧ vehicleID = leaseOf
  | .releaseScript _ indexOf sessionID _ => indexOf = sessionID

/-- An acquire script ran, or failed, for the session. -/
def Attempted (ls : List (GatewayLabel Call)) (sessionID : GoString) : Prop :=
  ∃ i c leaseOf payload px vehicleID reply,
    .exec i c (.redis (.acquireScript leaseOf sessionID payload px vehicleID)) reply ∈ ls

/-- A release script deleted the session's lease, whether or not its caller heard of it. -/
def Released (ls : List (GatewayLabel Call)) (sessionID : GoString) : Prop :=
  ∃ i c leaseOf indexOf operatorID reply, scriptAnswer reply = some 1 ∧
    .exec i c (.redis (.releaseScript leaseOf indexOf sessionID operatorID)) reply ∈ ls

theorem Attempted.append {ls : List (GatewayLabel Call)} {sessionID : GoString}
    (h : Attempted ls sessionID) (l : GatewayLabel Call) : Attempted (ls ++ [l]) sessionID := by
  obtain ⟨i, c, leaseOf, payload, px, vehicleID, reply, hmem⟩ := h
  exact ⟨i, c, leaseOf, payload, px, vehicleID, reply, List.mem_append_left _ hmem⟩

theorem Released.mono {ls ls' : List (GatewayLabel Call)} {sessionID : GoString}
    (h : Released ls sessionID) (hsub : ls ⊆ ls') : Released ls' sessionID := by
  obtain ⟨i, c, leaseOf, indexOf, operatorID, reply, hreply, hmem⟩ := h
  exact ⟨i, c, leaseOf, indexOf, operatorID, reply, hreply, hsub hmem⟩

theorem Released.append {ls : List (GatewayLabel Call)} {sessionID : GoString}
    (h : Released ls sessionID) (l : GatewayLabel Call) : Released (ls ++ [l]) sessionID :=
  h.mono (List.subset_append_left _ _)

theorem Released.of_append {ls : List (GatewayLabel Call)} {l : GatewayLabel Call}
    {sessionID : GoString} (h : Released (ls ++ [l]) sessionID)
    (hl : ∀ i c leaseOf indexOf operatorID reply, scriptAnswer reply = some 1 →
      l ≠ .exec i c (.redis (.releaseScript leaseOf indexOf sessionID operatorID)) reply) :
    Released ls sessionID := by
  obtain ⟨i, c, leaseOf, indexOf, operatorID, reply, hreply, hmem⟩ := h
  rcases List.mem_append.mp hmem with hmem | hmem
  · exact ⟨i, c, leaseOf, indexOf, operatorID, reply, hreply, hmem⟩
  · exact absurd (List.mem_singleton.mp hmem).symm (hl i c leaseOf indexOf operatorID reply hreply)

/-- Asked of every step: commands keep pairs, and an acquire script stores a new session. -/
def StoresOnce : TransitionSystem.StepCondition (GatewayPool Call α) (GatewayLabel Call)
  | ls, _, .exec _ _ (.redis cmd) _ => cmd.KeepsPairs ∧
      ∀ leaseOf sessionID payload px vehicleID,
        cmd = .acquireScript leaseOf sessionID payload px vehicleID → ¬ Attempted ls sessionID
  | _, _, _ => True

/-- What a command that keeps pairs does to the pairs. -/
inductive PairMove [Cjson] (now : ℤ) (r r' : Redis) :
    (cmd : RedisCommand) → cmd.Result → Prop
  | kept {cmd : RedisCommand} {result : cmd.Result}
      (hlease : ∀ v, r' (.controlLease v) = r (.controlLease v))
      (hindex : ∀ id, r' (.controlSessionIndex id) = r (.controlSessionIndex id))
      (hreleased : ∀ leaseOf indexOf sessionID operatorID,
        (⟨cmd, result⟩ : (c : RedisCommand) × c.Result) ≠
          ⟨.releaseScript leaseOf indexOf sessionID operatorID, (1 : ℤ)⟩) :
      PairMove now r r' cmd result
  | stored {v id : GoString} {payload : ControlSessionJSON} {px : ℤ}
      (hid : payload.session.sessionID = id) (hfree : r.live now (.controlLease v) = none)
      (hr : r' = (r.set (.controlLease v) payload (now + px)).set (.controlSessionIndex id) v
        (now + px)) :
      PairMove now r r' (.acquireScript v id payload px v) (1 : ℤ)
  | renewed {v operatorID : GoString} {e : Entry ControlSessionJSON} {expiresAt px : ℤ}
      (hlive : r.live now (.controlLease v) = some e)
      (hr : r' = (r.set (.controlLease v)
          ({ e.value.session with expiresAtMS := expiresAt } : ControlSession).cjsonEncode
          (now + px)).set (.controlSessionIndex e.value.session.sessionID) v (now + px)) :
      PairMove now r r' (.renewScript v e.value.session.sessionID e.value.session.sessionID
        operatorID expiresAt px v) (1 : ℤ)
  | released {v operatorID : GoString} {e : Entry ControlSessionJSON}
      (hlive : r.live now (.controlLease v) = some e)
      (hr : r' = (r.del (.controlLease v)).del (.controlSessionIndex e.value.session.sessionID)) :
      PairMove now r r' (.releaseScript v e.value.session.sessionID e.value.session.sessionID
        operatorID) (1 : ℤ)

theorem RedisCommand.KeepsPairs.move [Cjson] {now : ℤ} {r r' : Redis} {cmd : RedisCommand}
    {result : cmd.Result} (h : cmd.KeepsPairs) (hexec : cmd.exec now r = .ok (result, r')) :
    PairMove now r r' cmd result := by
  cases cmd with
  | get k =>
      obtain ⟨-, rfl⟩ := Prod.mk.inj (Except.ok.inj hexec)
      exact .kept (fun _ ↦ rfl) (fun _ ↦ rfl) (by simp)
  | set k value px =>
      simp only [exec] at hexec
      split_ifs at hexec
      obtain ⟨-, rfl⟩ := Prod.mk.inj (Except.ok.inj hexec)
      exact .kept (fun v ↦ Store.set_apply_of_ne r (h.1 v).symm _ _)
        (fun id ↦ Store.set_apply_of_ne r (h.2 id).symm _ _) (by simp)
  | del k =>
      obtain ⟨-, rfl⟩ := Prod.mk.inj (Except.ok.inj hexec)
      exact .kept (fun v ↦ Store.del_apply_of_ne r (h.1 v).symm)
        (fun id ↦ Store.del_apply_of_ne r (h.2 id).symm) (by simp)
  | acquireScript leaseOf indexOf payload px vehicleID =>
      obtain ⟨hid, rfl⟩ := h
      rcases acquireControlSessionScript_cases hexec with ⟨-, rfl, -⟩ | ⟨rfl, hfree, -, hr⟩
      · exact .kept (fun _ ↦ rfl) (fun _ ↦ rfl) (by simp)
      · exact .stored hid hfree hr
  | renewScript leaseOf indexOf sessionID operatorID expiresAt px vehicleID =>
      obtain ⟨rfl, rfl⟩ := h
      rcases renewControlSessionScript_cases hexec with
        ⟨-, rfl⟩ | ⟨e, rfl, hlive, -, rfl, -, -, -, hr⟩
      · exact .kept (fun _ ↦ rfl) (fun _ ↦ rfl) (by simp)
      · exact .renewed hlive hr
  | releaseScript leaseOf indexOf sessionID operatorID =>
      obtain rfl : indexOf = sessionID := h
      rcases releaseControlSessionScript_cases (Except.ok.inj hexec) with
        ⟨hresult, rfl⟩ | ⟨e, rfl, hlive, rfl, -, hr⟩
      · refine .kept (fun _ ↦ rfl) (fun _ ↦ rfl) fun _ _ _ _ heq ↦ ?_
        cases heq
        exact absurd hresult (by decide)
      · exact .released hlive hr

theorem lease_of_setPair (r : Redis) (v u id : GoString) (payload : ControlSessionJSON) (d : ℤ) :
    ((r.set (.controlLease v) payload d).set (.controlSessionIndex id) v d) (.controlLease u) =
      if u = v then some ⟨payload, d⟩ else r (.controlLease u) := by
  rw [Store.set_apply_of_ne _ (by simp)]
  split_ifs with h
  · rw [h, Store.set_apply_self]
  · exact Store.set_apply_of_ne r (by simpa using h) _ _

theorem index_of_setPair (r : Redis) (v id j : GoString) (payload : ControlSessionJSON) (d : ℤ) :
    ((r.set (.controlLease v) payload d).set (.controlSessionIndex id) v d)
        (.controlSessionIndex j) =
      if j = id then some ⟨v, d⟩ else r (.controlSessionIndex j) := by
  split_ifs with h
  · rw [h, Store.set_apply_self]
  · rw [Store.set_apply_of_ne _ (by simpa using h), Store.set_apply_of_ne r (by simp)]

theorem lease_of_delPair (r : Redis) (v u id : GoString) :
    ((r.del (.controlLease v)).del (.controlSessionIndex id)) (.controlLease u) =
      if u = v then none else r (.controlLease u) := by
  rw [Store.del_apply_of_ne _ (by simp)]
  split_ifs with h
  · rw [h, Store.del_apply_self]
  · exact Store.del_apply_of_ne r (by simpa using h)

theorem index_of_delPair (r : Redis) (v id j : GoString) :
    ((r.del (.controlLease v)).del (.controlSessionIndex id)) (.controlSessionIndex j) =
      if j = id then none else r (.controlSessionIndex j) := by
  split_ifs with h
  · rw [h, Store.del_apply_self]
  · rw [Store.del_apply_of_ne _ (by simpa using h), Store.del_apply_of_ne r (by simp)]

/-- Leases and indices mirror each other, and no session comes back. -/
structure Pairs (ls : List (GatewayLabel Call)) (now : ℤ) (r : Redis) : Prop where
  attempted : ∀ v e, r (.controlLease v) = some e →
    Attempted ls e.value.session.sessionID
  indexed : ∀ v e, r (.controlLease v) = some e →
    r (.controlSessionIndex e.value.session.sessionID) = some ⟨v, e.deadline⟩
  leased : ∀ id v d, r (.controlSessionIndex id) = some ⟨v, d⟩ → now ≤ d →
    ∃ e, r (.controlLease v) = some e ∧ e.value.session.sessionID = id ∧ e.deadline = d
  released : ∀ id, Released ls id → Attempted ls id ∧
    ∀ v e, r (.controlLease v) = some e → e.value.session.sessionID ≠ id

namespace Pairs

variable {ls : List (GatewayLabel Call)} {now : ℤ} {r : Redis}

/-- No session is stored for two vehicles. -/
theorem vehicle_unique (h : Pairs ls now r) {u v : GoString} {e e' : Entry ControlSessionJSON}
    (hu : r (.controlLease u) = some e) (hv : r (.controlLease v) = some e')
    (hid : e.value.session.sessionID = e'.value.session.sessionID) : u = v := by
  have hindex := h.indexed u e hu
  rw [hid, h.indexed v e' hv] at hindex
  exact (Entry.mk.inj (Option.some.inj hindex)).1.symm

/-- A step that moves no pair and releases nothing. -/
theorem keep (h : Pairs ls now r) {l : GatewayLabel Call} {later : ℤ} {r' : Redis}
    (hclock : now ≤ later) (hlease : ∀ v, r' (.controlLease v) = r (.controlLease v))
    (hindex : ∀ id, r' (.controlSessionIndex id) = r (.controlSessionIndex id))
    (hreleased : ∀ id, Released (ls ++ [l]) id → Released ls id) : Pairs (ls ++ [l]) later r' where
  attempted v e he := (h.attempted v e (hlease v ▸ he)).append l
  indexed v e he := by
    rw [hindex]
    exact h.indexed v e (hlease v ▸ he)
  leased id v d hd hlive := by
    rw [hindex] at hd
    rw [hlease]
    exact h.leased id v d hd (hclock.trans hlive)
  released id hid := by
    obtain ⟨hattempted, hgone⟩ := h.released id (hreleased id hid)
    refine ⟨hattempted.append l, fun v e he ↦ hgone v e ?_⟩
    rw [← hlease v]
    exact he

theorem stored (h : Pairs ls now r) {i : ℕ} {c : Call} {v id : GoString}
    {payload : ControlSessionJSON} {px : ℤ} {reply : Except RedisError ℤ} (hnew : ¬ Attempted ls id)
    (hid : payload.session.sessionID = id)
    (hfree : r.live now (.controlLease v) = none) :
    Pairs (ls ++ [.exec i c (.redis (.acquireScript v id payload px v)) reply]) now
      ((r.set (.controlLease v) payload (now + px)).set (.controlSessionIndex id) v
        (now + px)) := by
  have hother : ∀ u e, r (.controlLease u) = some e → e.value.session.sessionID ≠ id := by
    rintro u e he rfl
    exact hnew (h.attempted u e he)
  refine ⟨fun u e he ↦ ?_, fun u e he ↦ ?_, fun j u d hd hlive ↦ ?_, fun j hj ↦ ?_⟩
  · rw [lease_of_setPair] at he
    split_ifs at he with hu
    · obtain rfl := Option.some.inj he
      rw [hid]
      exact ⟨i, c, v, payload, px, v, _, List.mem_append_right _ (List.mem_singleton_self _)⟩
    · exact (h.attempted u e he).append _
  · rw [lease_of_setPair] at he
    rw [index_of_setPair]
    split_ifs at he with hu
    · obtain rfl := Option.some.inj he
      rw [if_pos hid, hu]
    · rw [if_neg (hother u e he)]
      exact h.indexed u e he
  · rw [index_of_setPair] at hd
    rw [lease_of_setPair]
    split_ifs at hd with hj
    · obtain ⟨rfl, rfl⟩ := Entry.mk.inj (Option.some.inj hd)
      exact ⟨_, if_pos rfl, hid.trans hj.symm, rfl⟩
    · obtain ⟨e, he, hsession, hdeadline⟩ := h.leased j u d hd hlive
      have hu : u ≠ v := by
        rintro rfl
        have hlt := Store.live_eq_none_iff.mp hfree e he
        exact absurd hlive (by rw [← hdeadline]; exact not_le.mpr hlt)
      exact ⟨e, by rw [if_neg hu]; exact he, hsession, hdeadline⟩
  · obtain ⟨hattempted, hgone⟩ := h.released j (hj.of_append (by simp))
    refine ⟨hattempted.append _, fun u e he ↦ ?_⟩
    rw [lease_of_setPair] at he
    split_ifs at he with hu
    · obtain rfl := Option.some.inj he
      rintro rfl
      exact hnew (hid ▸ hattempted)
    · exact hgone u e he

theorem renewed (h : Pairs ls now r) {l : GatewayLabel Call} {v : GoString}
    {e : Entry ControlSessionJSON} {payload : ControlSessionJSON} {d : ℤ}
    (hlive : r.live now (.controlLease v) = some e)
    (hid : payload.session.sessionID = e.value.session.sessionID)
    (hreleased : ∀ id, Released (ls ++ [l]) id → Released ls id) :
    Pairs (ls ++ [l]) now
      ((r.set (.controlLease v) payload d).set
        (.controlSessionIndex e.value.session.sessionID) v d) := by
  have hstored := (Store.live_eq_some_iff.mp hlive).1
  refine ⟨fun u e' he ↦ ?_, fun u e' he ↦ ?_, fun j u d' hd hlater ↦ ?_, fun j hj ↦ ?_⟩
  · rw [lease_of_setPair] at he
    split_ifs at he with hu
    · obtain rfl := Option.some.inj he
      change Attempted _ payload.session.sessionID
      rw [hid]
      exact (h.attempted v e hstored).append l
    · exact (h.attempted u e' he).append l
  · rw [lease_of_setPair] at he
    rw [index_of_setPair]
    split_ifs at he with hu
    · obtain rfl := Option.some.inj he
      rw [if_pos hid, hu]
    · rw [if_neg fun hsame ↦ hu (h.vehicle_unique he hstored hsame)]
      exact h.indexed u e' he
  · rw [index_of_setPair] at hd
    rw [lease_of_setPair]
    split_ifs at hd with hj
    · obtain ⟨rfl, rfl⟩ := Entry.mk.inj (Option.some.inj hd)
      exact ⟨_, if_pos rfl, hid.trans hj.symm, rfl⟩
    · obtain ⟨e', he', hsession, hdeadline⟩ := h.leased j u d' hd hlater
      have hu : u ≠ v := by
        rintro rfl
        obtain rfl := Option.some.inj (hstored.symm.trans he')
        exact hj hsession.symm
      exact ⟨e', by rw [if_neg hu]; exact he', hsession, hdeadline⟩
  · obtain ⟨hattempted, hgone⟩ := h.released j (hreleased j hj)
    refine ⟨hattempted.append l, fun u e' he ↦ ?_⟩
    rw [lease_of_setPair] at he
    split_ifs at he with hu
    · obtain rfl := Option.some.inj he
      exact hid ▸ hgone v e hstored
    · exact hgone u e' he

theorem deleted (h : Pairs ls now r) {i : ℕ} {c : Call} {v operatorID : GoString}
    {e : Entry ControlSessionJSON} {reply : Except RedisError ℤ} (hlive : r.live now (.controlLease v) = some e) :
    Pairs (ls ++ [.exec i c (.redis (.releaseScript v e.value.session.sessionID
        e.value.session.sessionID operatorID)) reply]) now
      ((r.del (.controlLease v)).del (.controlSessionIndex e.value.session.sessionID)) := by
  have hstored := (Store.live_eq_some_iff.mp hlive).1
  have hother : ∀ u e', u ≠ v → r (.controlLease u) = some e' →
      e'.value.session.sessionID ≠ e.value.session.sessionID :=
    fun u e' hu he hid ↦ hu (h.vehicle_unique he hstored hid)
  refine ⟨fun u e' he ↦ ?_, fun u e' he ↦ ?_, fun j u d hd hlater ↦ ?_, fun j hj ↦ ?_⟩
  · rw [lease_of_delPair] at he
    split_ifs at he with hu
    exact (h.attempted u e' he).append _
  · rw [lease_of_delPair] at he
    split_ifs at he with hu
    rw [index_of_delPair, if_neg (hother u e' hu he)]
    exact h.indexed u e' he
  · rw [index_of_delPair] at hd
    split_ifs at hd with hj
    obtain ⟨e', he', hsession, hdeadline⟩ := h.leased j u d hd hlater
    have hu : u ≠ v := by
      rintro rfl
      obtain rfl := Option.some.inj (hstored.symm.trans he')
      exact hj hsession.symm
    exact ⟨e', by rw [lease_of_delPair, if_neg hu]; exact he', hsession, hdeadline⟩
  · by_cases hid : j = e.value.session.sessionID
    · subst hid
      refine ⟨(h.attempted v e hstored).append _, fun u e' he ↦ ?_⟩
      rw [lease_of_delPair] at he
      split_ifs at he with hu
      exact hother u e' hu he
    · obtain ⟨hattempted, hgone⟩ := h.released j (hj.of_append (by simp [Ne.symm hid]))
      refine ⟨hattempted.append _, fun u e' he ↦ ?_⟩
      rw [lease_of_delPair] at he
      split_ifs at he with hu
      exact hgone u e' he

end Pairs

/-- In every state of a run the pairs match. -/
theorem pairs_of_run [Cjson] {program : Call → GatewayProgram α} {ls : List (GatewayLabel Call)}
    {st : GatewayPool Call α} (hrun : (gatewayPool program).system.RunWhere StoresOnce ls st) :
    Pairs ls st.shared.clock st.shared.redis := by
  refine hrun.invariant (P := fun ls st ↦ Pairs ls st.shared.clock st.shared.redis) ?_ ?_
  · rintro ⟨w, pool⟩ ⟨hinit, -⟩
    have hempty : w.redis = Store.empty := hinit
    refine ⟨?_, ?_, ?_, ?_⟩
    · simp [hempty, Store.empty]
    · simp [hempty, Store.empty]
    · simp [hempty, Store.empty]
    · rintro id ⟨i, c, leaseOf, indexOf, operatorID, reply, -, hmem⟩
      simp at hmem
  · intro ls st l st' _ h honce hstep
    cases hstep with
    | spawn =>
        exact h.keep le_rfl (fun _ ↦ rfl) (fun _ ↦ rfl) fun id hid ↦ hid.of_append (by simp)
    | env hclock =>
        cases hclock with
        | tick hle =>
            exact h.keep hle (fun _ ↦ rfl) (fun _ ↦ rfl) fun id hid ↦ hid.of_append (by simp)
    | @exec w w' pool i c e next reply hi hexec =>
        cases hexec with
        | timeNow | newUUID | issueOperatorToken | recordAudit =>
            refine h.keep le_rfl (fun _ ↦ rfl) (fun _ ↦ rfl) fun id hid ↦ hid.of_append ?_
            intro j d leaseOf indexOf operatorID reply _ heq
            cases heq
        | failed hkept =>
            refine h.keep le_rfl (fun _ ↦ rfl) (fun _ ↦ rfl) fun id hid ↦ hid.of_append ?_
            intro j d leaseOf indexOf operatorID reply hreply heq
            cases heq
            cases (scriptAnswer_error hkept).symm.trans hreply
        | @ran cmd result redis reply hdone hreports =>
            obtain ⟨hkeeps, hnew⟩ := honce
            cases hkeeps.move hdone with
            | kept hlease hindex hreleased =>
                refine h.keep le_rfl hlease hindex fun id hid ↦ hid.of_append ?_
                intro j d leaseOf indexOf operatorID reply hreply heq
                cases heq
                have hanswer := scriptAnswer_eq_some_iff.mpr (RedisCommand.reports_iff.mp hreports)
                obtain rfl := Option.some.inj (hanswer.symm.trans hreply)
                exact hreleased _ _ _ _ rfl
            | stored hid hfree hr =>
                subst hr
                exact h.stored (hnew _ _ _ _ _ rfl) hid hfree
            | renewed hlive hr =>
                subst hr
                exact h.renewed hlive rfl fun id hid ↦ hid.of_append (by simp)
            | released hlive hr =>
                subst hr
                exact h.deleted hlive

end RemoteInfra.Gateway
