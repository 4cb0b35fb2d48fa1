import RemoteInfra.Gateway.Serving
import RemoteInfra.Library.TransitionSystem

/-!
# Counting viewers

Viewers of one vehicle join and leave, one call at a time.  All of them are given the same
session id, so they share one index entry: the first who leaves deletes it, and those who
want to leave before another joins are not found.
-/

namespace RemoteInfra.Gateway

open RemoteInfra.Library RemoteInfra.Library.Program

structure ViewersState where
  gateway : GatewayState
  /-- the session id of every viewer that ever joined; `none` once it has tried to leave -/
  watching : List (Option GoString)
  /-- the clock when all of this began -/
  opened : ℤ
  /-- how long the index entry of the last viewer to join lasts, until one leaves; for the
  statements only -/
  indexedUntil : Option ℤ

inductive ViewerLabel
  | acquire (session : VideoSession)
  | release (viewer : ℕ) (result : Except VideoSessionError VideoSession)
  | tick (t : ℤ)

namespace ViewersState

/-- The end of the first 24 hours. -/
def limit (st : ViewersState) : ℤ := st.opened + videoSessionTTL

/-- A call that starts at the present and may take its time, within the 24 hours. -/
def Serve [Cjson] {α : Type} (st : ViewersState) (p : GatewayProgram α) (a : α)
    (w : GatewayState) : Prop :=
  CompletesFrom (Serves Timing.instant) (Serves (Timing.before st.limit)) st.gateway p a w

inductive Step [Cjson] (s : VideoSessionStore) (vehicleID : GoString) :
    ViewersState → ViewerLabel → ViewersState → Prop
  | acquire {st : ViewersState} {session : VideoSession} {w : GatewayState} :
      st.Serve (s.acquireViewer vehicleID) (.ok session) w →
        Step s vehicleID st (.acquire session)
          { st with
            gateway := w
            watching := st.watching ++ [some session.sessionID]
            indexedUntil := some (w.clock + (s.gracePeriod + 60 * 60 * 1000)) }
  | release {st : ViewersState} {viewer : ℕ} {sessionID : GoString}
      {result : Except VideoSessionError VideoSession} {w : GatewayState} :
      st.watching[viewer]? = some (some sessionID) →
        st.Serve (s.releaseViewer sessionID) result w →
          Step s vehicleID st (.release viewer result)
            { st with
              gateway := w
              watching := st.watching.set viewer none
              indexedUntil := none }
  | tick {st : ViewersState} {t : ℤ} : st.gateway.clock ≤ t → t < st.limit →
      Step s vehicleID st (.tick t) { st with gateway := { st.gateway with clock := t } }

/-- The viewers that have not tried to leave. -/
def viewers (st : ViewersState) : ℕ := st.watching.countP Option.isSome

/-- What `Get` would find in the record. -/
def viewerCount (st : ViewersState) (vehicleID : GoString) : ℤ :=
  match st.gateway.redis.get st.gateway.clock (.videoSession vehicleID) with
  | some record => record.viewerCount
  | none => 0

/-- The index entry is there for somebody who wants to leave: nobody has left since one last
joined, and the entry has not expired. -/
def Findable (st : ViewersState) : Prop :=
  ∃ deadline, st.indexedUntil = some deadline ∧ st.gateway.clock ≤ deadline

end ViewersState

/-- No viewer yet; a record may be there that counts none. -/
def viewersSystem [Cjson] (s : VideoSessionStore) (vehicleID : GoString) :
    TransitionSystem ViewersState ViewerLabel where
  Init st := st.watching = [] ∧ st.opened = st.gateway.clock ∧
    ∀ e, st.gateway.redis (.videoSession vehicleID) = some e →
      e.value.Kept vehicleID ∧ e.value.viewerCount = 0
  Step := ViewersState.Step s vehicleID

/-- Asked of every step: who wants to leave succeeds. -/
def ReleasesSucceed : TransitionSystem.StepCondition ViewersState ViewerLabel
  | _, _, .release _ result => ∃ session, result = .ok session
  | _, _, _ => True

/-- Asked of every step: who leaves is the first to leave since one last joined, and does so
before the index entry expires. -/
def ReleasesIndexed : TransitionSystem.StepCondition ViewersState ViewerLabel
  | _, st, .release _ _ => st.Findable
  | _, _, _ => True

/-- Asked of every step: who wants to leave succeeds, and the record counts the viewers. -/
def Accounted (vehicleID : GoString) : TransitionSystem.StepCondition ViewersState ViewerLabel :=
  ReleasesSucceed.and fun _ st _ ↦ st.viewerCount vehicleID = st.viewers

/-! ## The shared index entry -/

/-- The index entry is there for `vehicleID` until `until`, if at all. -/
def IndexedFor (vehicleID : GoString) (w : GatewayState) (sessionID : GoString)
    (indexedUntil : Option ℤ) : Prop :=
  ∀ t, w.clock ≤ t → w.redis.get t (.videoViewer sessionID) =
    match indexedUntil with
    | some deadline => if t ≤ deadline then some vehicleID else none
    | none => none

/-- Everyone who watches has the session id of the record, which outlasts the 24 hours. -/
structure ViewersShare (vehicleID : GoString) (st : ViewersState) (record : VideoSession) :
    Prop where
  stored : ∃ deadline, st.gateway.redis (.videoSession vehicleID) = some ⟨record, deadline⟩ ∧
    st.limit ≤ deadline
  named : record.sessionID ≠ []
  share : ∀ sessionID, some sessionID ∈ st.watching → sessionID = record.sessionID
  indexed : IndexedFor vehicleID st.gateway record.sessionID st.indexedUntil

structure ViewersIndexed (vehicleID : GoString) (st : ViewersState) : Prop where
  started : st.opened ≤ st.gateway.clock
  within : st.gateway.clock < st.limit
  kept : ∀ e, st.gateway.redis (.videoSession vehicleID) = some e → e.value.Kept vehicleID
  shared : st.watching = [] ∨ ∃ record, ViewersShare vehicleID st record

section Runs

variable {s : VideoSessionStore} {vehicleID : GoString} {st : ViewersState}

/-- What a look finds while the record is the viewers'. -/
theorem ViewersShare.looks {record : VideoSession} (h : ViewersShare vehicleID st record)
    {w w' : GatewayState} {session : VideoSession}
    (hredis : w.redis (.videoSession vehicleID) = st.gateway.redis (.videoSession vehicleID))
    (hlooks : Looks (Timing.before st.limit) vehicleID w session w') :
    SameViewers session record := by
  obtain ⟨deadline, hstored, hlate⟩ := h.stored
  obtain ⟨c, ⟨-, hc⟩, hfound⟩ := hlooks.found
  have hget : w.redis.get c (.videoSession vehicleID) = some record := by
    rw [Store.get_eq_some_iff]
    exact ⟨⟨record, deadline⟩,
      Store.live_eq_some_iff.mpr ⟨hredis.trans hstored, by dsimp only; omega⟩, rfl⟩
  rcases hfound with ⟨hnone, -⟩ | ⟨found, hsome, hsame⟩
  · cases hnone.symm.trans hget
  · obtain rfl := Option.some.inj (hsome.symm.trans hget)
    exact hsame

/-- What a look finds before the first call or after. -/
theorem ViewersIndexed.looks (h : ViewersIndexed vehicleID st) {w w' : GatewayState}
    {session : VideoSession}
    (hredis : w.redis (.videoSession vehicleID) = st.gateway.redis (.videoSession vehicleID))
    (hlooks : Looks (Timing.before st.limit) vehicleID w session w') :
    (∃ e, st.gateway.redis (.videoSession vehicleID) = some e ∧ SameViewers session e.value) ∨
      (st.watching = [] ∧ ∃ now, session = VideoSessionStore.standbySession vehicleID now) := by
  rcases h.shared with hnone | ⟨record, hshare⟩
  · obtain ⟨c, -, hfound⟩ := hlooks.found
    rcases hfound with ⟨-, now, rfl⟩ | ⟨found, hsome, hsame⟩
    · exact .inr ⟨hnone, now, rfl⟩
    · obtain ⟨e, hlive, rfl⟩ := Store.get_eq_some_iff.mp hsome
      exact .inl ⟨e, hredis.symm.trans (Store.live_eq_some_iff.mp hlive).1, hsame⟩
  · obtain ⟨deadline, hstored, -⟩ := hshare.stored
    exact .inl ⟨⟨record, deadline⟩, hstored, hshare.looks hredis hlooks⟩

theorem ViewersShare.index {record : VideoSession} (h : ViewersShare vehicleID st record) :
    (st.Findable ∧ st.gateway.redis.get st.gateway.clock (.videoViewer record.sessionID) =
        some vehicleID) ∨
      (¬st.Findable ∧ ∀ t, st.gateway.clock ≤ t →
        st.gateway.redis.get t (.videoViewer record.sessionID) = none) := by
  have hindexed := h.indexed
  unfold IndexedFor at hindexed
  cases huntil : st.indexedUntil with
  | none =>
      rw [huntil] at hindexed
      right
      refine ⟨?_, hindexed⟩
      rintro ⟨deadline, hsome, -⟩
      cases huntil.symm.trans hsome
  | some deadline =>
      rw [huntil] at hindexed
      by_cases hearly : st.gateway.clock ≤ deadline
      · exact .inl ⟨⟨deadline, huntil, hearly⟩, (hindexed _ le_rfl).trans (if_pos hearly)⟩
      · right
        refine ⟨?_, fun t ht ↦ ?_⟩
        · rintro ⟨other, hsome, hle⟩
          obtain rfl := Option.some.inj (huntil.symm.trans hsome)
          exact hearly hle
        · have hlate : ¬t ≤ deadline := by omega
          exact (hindexed t ht).trans (if_neg hlate)

/-- The record, if there is one, counts the viewers. -/
def ViewersState.Counts (st : ViewersState) (vehicleID : GoString) : Prop :=
  ∀ e, st.gateway.redis (.videoSession vehicleID) = some e → e.value.viewerCount = st.viewers

theorem viewerCount_of_counts (h : ViewersIndexed vehicleID st) (hcounts : st.Counts vehicleID) :
    st.viewerCount vehicleID = st.viewers := by
  unfold ViewersState.viewerCount
  cases hget : st.gateway.redis.get st.gateway.clock (.videoSession vehicleID) with
  | none =>
      rcases h.shared with hnone | ⟨record, hshare⟩
      · simp [ViewersState.viewers, hnone]
      · obtain ⟨deadline, hstored, hlate⟩ := hshare.stored
        have hwithin := h.within
        have hgone := Store.live_eq_none_iff.mp (Store.get_eq_none_iff.mp hget) _ hstored
        dsimp only at hgone
        omega
  | some record =>
      obtain ⟨e, hlive, rfl⟩ := Store.get_eq_some_iff.mp hget
      exact hcounts e (Store.live_eq_some_iff.mp hlive).1

theorem countP_set_none {l : List (Option GoString)} {i : ℕ} {a : GoString}
    (h : l[i]? = some (some a)) :
    l.countP Option.isSome = (l.set i none).countP Option.isSome + 1 := by
  induction l generalizing i with
  | nil => simp at h
  | cons x l ih =>
      cases i with
      | zero =>
          obtain rfl : x = some a := Option.some.inj h
          simp
      | succ i =>
          have htail := ih (i := i) (by simpa using h)
          simp only [List.set_cons_succ, List.countP_cons, htail]
          omega

variable [Cjson]

theorem ViewersState.Serve.completes {α : Type} {p : GatewayProgram α} {a : α} {w : GatewayState}
    (h : st.Serve p a w) (hwithin : st.gateway.clock < st.limit) :
    Completes (Serves (Timing.before st.limit)) st.gateway p a w := by
  refine CompletesFrom.completes (fun e r t hserves ↦ hserves.mono ?_ fun _ _ _ _ ↦ trivial) h
  rintro t rfl
  exact ⟨le_rfl, hwithin⟩

/-- The state and the record after someone has joined. -/
theorem ViewersIndexed.acquire (hv : vehicleID.ValidUTF8) (h : ViewersIndexed vehicleID st)
    {session : VideoSession} {w : GatewayState}
    (hserve : st.Serve (s.acquireViewer vehicleID) (.ok session) w) :
    ∃ record old, ViewersIndexed vehicleID
        { st with
          gateway := w
          watching := st.watching ++ [some session.sessionID]
          indexedUntil := some (w.clock + (s.gracePeriod + 60 * 60 * 1000)) } ∧
      (∃ deadline, w.redis (.videoSession vehicleID) = some ⟨record, deadline⟩) ∧
      record.viewerCount = old + 1 ∧
      ((∃ e, st.gateway.redis (.videoSession vehicleID) = some e ∧ old = e.value.viewerCount) ∨
        st.watching = [] ∧ old = 0) := by
  obtain ⟨old, w₁, session', expiresAtMS, t, hlooks, hresult, ht, hw, hvehicle, hcount, -, hid,
    hredis⟩ := VideoSessionStore.completes_acquireViewer (hserve.completes h.within)
  obtain rfl := Except.ok.inj hresult
  have hfound := h.looks rfl hlooks
  have hvehicle : session.vehicleID = vehicleID := by
    rw [hvehicle]
    rcases hfound with ⟨e, hstored, hsame⟩ | ⟨-, now, rfl⟩
    · exact hsame.vehicleID.trans (h.kept e hstored).1
    · rfl
  have hsession : session.sessionID.throughJSON = session.sessionID := by
    rcases hid with ⟨hold, -⟩ | ⟨hvalid, -, -⟩
    · rw [hold]
      rcases hfound with ⟨e, hstored, hsame⟩ | ⟨-, now, rfl⟩
      · rw [hsame.sessionID]
        exact (h.kept e hstored).sessionID
      · rfl
    · exact GoString.throughJSON_of_valid hvalid
  have hnamed : session.sessionID ≠ [] := by
    rcases hid with ⟨hold, hne⟩ | ⟨-, hne, -⟩
    · rwa [hold]
    · exact hne
  obtain ⟨record, hsave, hkept, hrecord, hcounts⟩ : ∃ record,
      w.redis (.videoSession vehicleID) = some ⟨record, t + videoSessionTTL⟩ ∧
        record.Kept vehicleID ∧ record.sessionID = session.sessionID ∧
          record.viewerCount = session.viewerCount := by
    refine ⟨({ session with expiresAtMS := expiresAtMS } : VideoSession).marshal, ?_,
      VideoSession.kept_marshal hv hvehicle, hsession, rfl⟩
    rw [hredis, Store.set_apply_of_ne _ (by simp), GatewayState.saved, hvehicle]
    exact Store.set_apply_self _ _ _ _
  have hstart : st.gateway.clock ≤ t := (hlooks.passes.1).trans ht.1
  have hstarted := h.started
  have hclock : st.opened ≤ w.clock := hstarted.trans (hstart.trans hw.1)
  refine ⟨record, old.viewerCount, ⟨hclock, hw.2, fun e he ↦ ?_, .inr ⟨record, ?_⟩⟩,
    ⟨_, hsave⟩, hcounts.trans hcount, ?_⟩
  · obtain rfl := Option.some.inj (hsave.symm.trans he)
    exact hkept
  · refine ⟨⟨_, hsave, ?_⟩, ?_, fun sessionID hmem ↦ ?_, fun u hu ↦ ?_⟩
    · simp only [ViewersState.limit]
      omega
    · rwa [hrecord]
    · rw [hrecord]
      rcases List.mem_append.mp hmem with hold | hnew
      · rcases h.shared with hnone | ⟨before, hshare⟩
        · simp [hnone] at hold
        · have hsame := hshare.looks rfl hlooks
          rw [hshare.share sessionID hold, ← hsame.sessionID]
          rcases hid with ⟨heq, -⟩ | ⟨-, -, hempty⟩
          · exact heq.symm
          · exact absurd (hsame.sessionID.symm.trans hempty) hshare.named
      · exact Option.some.inj (List.mem_singleton.mp hnew)
    · dsimp only
      rw [hrecord, hredis]
      by_cases hdeadline : u ≤ w.clock + (s.gracePeriod + 60 * 60 * 1000)
      · rw [Store.get_set_self _ _ _ _ _ hdeadline, if_pos hdeadline]
      · rw [if_neg hdeadline, Store.get_eq_none_iff, Store.live_eq_none_iff]
        intro e he
        rw [Store.set_apply_self] at he
        obtain rfl := Option.some.inj he
        exact not_le.mp hdeadline
  · rcases hfound with ⟨e, hstored, hsame⟩ | ⟨hnone, now, rfl⟩
    · exact .inl ⟨e, hstored, hsame.viewerCount⟩
    · exact .inr ⟨hnone, rfl⟩

/-- Someone who wants to leave and is found: the record counts one viewer less, and the index
entry is gone. -/
theorem ViewersShare.release_found (hv : vehicleID.ValidUTF8) {record : VideoSession}
    (h : ViewersShare vehicleID st record) (hindexed : ViewersIndexed vehicleID st)
    {next : Except RedisError (Option GoString) → GatewayProgram _}
    (hnext : s.releaseViewer record.sessionID =
      .call (.redis (.get (.videoViewer record.sessionID))) next)
    {result : Except VideoSessionError VideoSession} {w : GatewayState}
    (hrest : Completes (Serves (Timing.before st.limit)) st.gateway (next (.ok (some vehicleID)))
      result w) (viewer : ℕ) :
    ∃ session record', result = .ok session ∧ ViewersIndexed vehicleID
        { st with
          gateway := w
          watching := st.watching.set viewer none
          indexedUntil := none } ∧
      (∃ deadline, w.redis (.videoSession vehicleID) = some ⟨record', deadline⟩) ∧
      record'.viewerCount =
        if record.viewerCount > 0 then record.viewerCount - 1 else record.viewerCount := by
  obtain ⟨old, w₁, session, expiresAtMS, hlooks, rfl, hw, hvehicle, hid, hcount, -, hredis⟩ :=
    VideoSessionStore.completes_releaseViewer_of_index hnext hrest
  have hsame := h.looks rfl hlooks
  obtain ⟨deadline, hstored, hlate⟩ := h.stored
  have hkept := hindexed.kept _ hstored
  have hvehicle : session.vehicleID = vehicleID :=
    hvehicle.trans (hsame.vehicleID.trans hkept.1)
  have hsession : session.sessionID = record.sessionID := hid.trans hsame.sessionID
  obtain ⟨record', hsave, hkept', hrecord, hcounts⟩ : ∃ record',
      w.redis (.videoSession vehicleID) = some ⟨record', w.clock + videoSessionTTL⟩ ∧
        record'.Kept vehicleID ∧ record'.sessionID = record.sessionID ∧
          record'.viewerCount = session.viewerCount := by
    refine ⟨({ session with expiresAtMS := expiresAtMS } : VideoSession).marshal, ?_,
      VideoSession.kept_marshal hv hvehicle, ?_, rfl⟩
    · rw [hredis, GatewayState.saved, hvehicle]
      exact Store.set_apply_self _ _ _ _
    · simp only [VideoSession.marshal, hsession]
      exact hkept.sessionID
  have hstart : st.gateway.clock ≤ w.clock := hlooks.passes.1.trans hw.1
  have hstarted := hindexed.started
  refine ⟨session, record', rfl, ⟨hstarted.trans hstart, hw.2, fun e he ↦ ?_, .inr ⟨record', ?_⟩⟩,
    ⟨_, hsave⟩, ?_⟩
  · obtain rfl := Option.some.inj (hsave.symm.trans he)
    exact hkept'
  · refine ⟨⟨_, hsave, ?_⟩, ?_, fun sessionID hmem ↦ ?_, fun u hu ↦ ?_⟩
    · simp only [ViewersState.limit]
      omega
    · rw [hrecord]
      exact h.named
    · rw [hrecord]
      rcases List.mem_or_eq_of_mem_set hmem with hold | hnone
      · exact h.share sessionID hold
      · cases hnone
    · dsimp only
      rw [hrecord, Store.get_eq_none_iff, hredis, GatewayState.saved,
        Store.live_set_of_ne _ _ (by simp)]
      exact Store.live_del_self _ _ _
  · rw [hcounts, hcount, hsame.viewerCount]

/-- Someone who wants to leave, found or not. -/
theorem ViewersIndexed.release (hv : vehicleID.ValidUTF8) (h : ViewersIndexed vehicleID st)
    {viewer : ℕ} {sessionID : GoString} (hviewer : st.watching[viewer]? = some (some sessionID))
    {result : Except VideoSessionError VideoSession} {w : GatewayState}
    (hserve : st.Serve (s.releaseViewer sessionID) result w) :
    ViewersIndexed vehicleID
        { st with
          gateway := w
          watching := st.watching.set viewer none
          indexedUntil := none } ∧
      ((st.Findable ∧ ∃ session e record deadline, result = .ok session ∧
          st.gateway.redis (.videoSession vehicleID) = some e ∧
          w.redis (.videoSession vehicleID) = some ⟨record, deadline⟩ ∧
          record.viewerCount =
            if e.value.viewerCount > 0 then e.value.viewerCount - 1 else e.value.viewerCount) ∨
        (¬st.Findable ∧ result = .error .sessionNotFound)) := by
  have hmem : some sessionID ∈ st.watching := List.mem_of_getElem? hviewer
  rcases h.shared with hnone | ⟨record, hshare⟩
  · simp [hnone] at hmem
  obtain rfl := hshare.share sessionID hmem
  obtain ⟨e, next, reply, w₁, hcall, hget, hrest⟩ := hserve
  obtain ⟨rfl, -⟩ := Program.call.inj hcall
  obtain ⟨t, hpresent, rfl, rfl⟩ := serves_get_iff.mp hget
  obtain rfl : t = st.gateway.clock := hpresent
  rcases hshare.index with ⟨hfindable, hfound⟩ | ⟨hlost, hgone⟩
  · rw [hfound] at hrest
    obtain ⟨session, record', rfl, hafter, ⟨deadline', hsave⟩, hcount⟩ :=
      hshare.release_found hv h hcall hrest viewer
    obtain ⟨deadline, hstored, -⟩ := hshare.stored
    exact ⟨hafter, .inl ⟨hfindable, session, _, record', deadline', rfl, hstored, hsave, hcount⟩⟩
  · rw [hgone _ le_rfl] at hrest
    obtain ⟨-, hnext⟩ := Program.call.inj hcall
    obtain rfl := eq_of_heq hnext
    obtain ⟨rfl, rfl⟩ := completes_pure_iff.mp hrest
    refine ⟨⟨h.started, h.within, h.kept, .inr ⟨record, hshare.stored, hshare.named, ?_, hgone⟩⟩,
      .inr ⟨hlost, rfl⟩⟩
    intro id hid
    rcases List.mem_or_eq_of_mem_set hid with hold | hnone
    · exact hshare.share id hold
    · cases hnone

theorem ViewersIndexed.step (hv : vehicleID.ValidUTF8) (h : ViewersIndexed vehicleID st)
    {l : ViewerLabel} {st' : ViewersState} (hstep : ViewersState.Step s vehicleID st l st') :
    ViewersIndexed vehicleID st' := by
  cases hstep with
  | acquire hserve =>
      obtain ⟨_, _, hafter, -⟩ := h.acquire hv hserve
      exact hafter
  | release hviewer hserve => exact (h.release hv hviewer hserve).1
  | tick hle hlt =>
      refine ⟨h.started.trans hle, hlt, h.kept, ?_⟩
      rcases h.shared with hnone | ⟨record, hshare⟩
      · exact .inl hnone
      · exact .inr ⟨record, hshare.stored, hshare.named, hshare.share,
          fun u hu ↦ hshare.indexed u (hle.trans hu)⟩

theorem ViewersIndexed.of_run (hv : vehicleID.ValidUTF8) {ls : List ViewerLabel}
    (hrun : (viewersSystem s vehicleID).Run ls st) : ViewersIndexed vehicleID st := by
  refine hrun.invariant (P := fun _ st ↦ ViewersIndexed vehicleID st) ?_ ?_
  · rintro st ⟨hnone, hopened, hstored⟩
    refine ⟨hopened.le, ?_, fun e he ↦ (hstored e he).1, .inl hnone⟩
    simp [ViewersState.limit, hopened, videoSessionTTL]
  · intro ls st l st' _ h _ hstep
    exact h.step hv hstep

/-! ## The count -/

theorem Counts.step (hv : vehicleID.ValidUTF8) (h : ViewersIndexed vehicleID st)
    (hcounts : st.Counts vehicleID) {ls : List ViewerLabel} {l : ViewerLabel} {st' : ViewersState}
    (hcond : ReleasesIndexed ls st l) (hstep : ViewersState.Step s vehicleID st l st') :
    st'.Counts vehicleID := by
  cases hstep with
  | acquire hserve =>
      obtain ⟨record, old, -, ⟨deadline, hstored⟩, hcount, hold⟩ := h.acquire hv hserve
      intro e he
      obtain rfl := Option.some.inj (hstored.symm.trans he)
      have hbefore : old = st.viewers := by
        rcases hold with ⟨before, hbefore, rfl⟩ | ⟨hnone, rfl⟩
        · exact hcounts before hbefore
        · simp [ViewersState.viewers, hnone]
      dsimp only
      rw [hcount, hbefore]
      simp [ViewersState.viewers]
  | release hviewer hserve =>
      obtain ⟨-, ⟨-, session, before, record, deadline, -, hbefore, hstored, hcount⟩ |
        ⟨hlost, -⟩⟩ := h.release hv hviewer hserve
      · intro e he
        obtain rfl := Option.some.inj (hstored.symm.trans he)
        have hviewers := countP_set_none hviewer
        have hpositive := hcounts before hbefore
        simp only [ViewersState.viewers] at hpositive ⊢
        rw [hcount, hpositive, hviewers]
        rw [if_pos (by omega)]
        omega
      · exact absurd hcond hlost
  | tick _ _ => exact hcounts

theorem Counts.of_run (hv : vehicleID.ValidUTF8) {ls : List ViewerLabel}
    (hrun : (viewersSystem s vehicleID).RunWhere ReleasesIndexed ls st) :
    st.Counts vehicleID := by
  refine hrun.invariant (P := fun _ st ↦ st.Counts vehicleID) ?_ ?_
  · rintro st ⟨hnone, -, hstored⟩ e he
    simp [ViewersState.viewers, hnone, (hstored e he).2]
  · intro ls st l st' hrun hcounts hcond hstep
    exact Counts.step hv (ViewersIndexed.of_run hv hrun.toRun) hcounts hcond hstep

end Runs

/-- Everybody's release succeeds, and the record counts the viewers throughout, if and only if
each who leaves is the first to leave since one last joined and leaves before the index entry
expires. -/
theorem viewers_accounted_iff [Cjson] (s : VideoSessionStore) {vehicleID : GoString}
    (hv : vehicleID.ValidUTF8) (ls : List ViewerLabel) (st : ViewersState) :
    ((viewersSystem s vehicleID).RunWhere (Accounted vehicleID) ls st ∧
        st.viewerCount vehicleID = st.viewers ∧
          ((∀ viewer ∈ st.watching, viewer = none) → st.viewerCount vehicleID = 0)) ↔
      (viewersSystem s vehicleID).RunWhere ReleasesIndexed ls st := by
  constructor
  · rintro ⟨hrun, -⟩
    refine hrun.strengthen ?_
    intro ls st l st' hrun hcond hstep
    cases hstep with
    | acquire _ => trivial
    | tick _ _ => trivial
    | release hviewer hserve =>
        obtain ⟨session, hsuccess⟩ := hcond.1
        obtain ⟨-, ⟨hfindable, -⟩ | ⟨-, herror⟩⟩ :=
          (ViewersIndexed.of_run hv hrun.toRun).release hv hviewer hserve
        · exact hfindable
        · cases hsuccess.symm.trans herror
  · intro hrun
    have hcount : ∀ {ls st}, (viewersSystem s vehicleID).RunWhere ReleasesIndexed ls st →
        st.viewerCount vehicleID = st.viewers := fun hrun ↦
      viewerCount_of_counts (ViewersIndexed.of_run hv hrun.toRun) (Counts.of_run hv hrun)
    refine ⟨hrun.strengthen ?_, hcount hrun, fun hleft ↦ ?_⟩
    · intro ls st l st' hrun hcond hstep
      refine ⟨?_, hcount hrun⟩
      cases hstep with
      | acquire _ => trivial
      | tick _ _ => trivial
      | release hviewer hserve =>
          obtain ⟨-, ⟨-, session, -, -, -, hsuccess, -⟩ | ⟨hlost, -⟩⟩ :=
            (ViewersIndexed.of_run hv hrun.toRun).release hv hviewer hserve
          · exact ⟨session, hsuccess⟩
          · exact absurd hcond hlost
    · rw [hcount hrun, ViewersState.viewers]
      refine Int.natCast_eq_zero.mpr (List.countP_eq_zero.mpr ?_)
      intro viewer hmem
      rw [hleft viewer hmem]
      decide

/-! ## Two viewers -/

section Sample

theorem ViewersState.serve_of_evaluate [Cjson] {st : ViewersState} {α : Type}
    {p : GatewayProgram α} {a : α} {w : GatewayState} (ids : List String)
    (hwithin : st.gateway.clock < st.limit) {e : Effect} {next : e.Reply → GatewayProgram α}
    (hcall : p = .call e next) (h : p.evaluate (serveAtOnce ids) st.gateway = some (a, w)) :
    st.Serve p a w := by
  subst hcall
  have hsound : ∀ w e r w', serveAtOnce ids w e = some (r, w') →
      Serves Timing.instant w e r w' := fun _ _ _ _ heq ↦ serves_of_serveAtOnce heq
  have hinstant := completes_of_evaluate hsound h
  obtain ⟨r, w₁, hfirst, hrest⟩ := completes_call_iff.mp hinstant
  have hpresent : ∀ (w : GatewayState) (e : Effect) (r : e.Reply) (w' : GatewayState),
      w.clock < st.limit → Serves Timing.instant w e r w' →
        Serves (Timing.before st.limit) w e r w' ∧ w'.clock < st.limit := by
    intro w e r w' hw hserves
    have hclock := hserves.clock_eq
    refine ⟨hserves.mono ?_ fun _ _ _ _ ↦ trivial, by omega⟩
    rintro t rfl
    exact ⟨le_rfl, hw⟩
  exact ⟨e, next, r, w₁, rfl, hfirst, hrest.mono_where hpresent (hpresent _ _ _ _ hwithin hfirst).2⟩

def sampleVideo : VideoSessionStore := ⟨45000⟩

def sampleVehicle : GoString := GoString.ofString "car-001"

def nobody : ViewersState := ⟨⟨0, Store.empty, []⟩, [], 0, none⟩

/-- What a call answers and leaves, served at once. -/
def served [Cjson] {α : Type} (p : GatewayProgram α) (w : GatewayState)
    (h : (p.evaluate (serveAtOnce ["v-1"]) w).isSome = true) : α × GatewayState :=
  (p.evaluate (serveAtOnce ["v-1"]) w).get h

theorem ViewersState.serve_served [Cjson] (st : ViewersState) {α : Type} {p : GatewayProgram α}
    (hwithin : st.gateway.clock < st.limit) {e : Effect} {next : e.Reply → GatewayProgram α}
    (hcall : p = .call e next)
    (h : (p.evaluate (serveAtOnce ["v-1"]) st.gateway).isSome = true) :
    st.Serve p (served p st.gateway h).1 (served p st.gateway h).2 :=
  ViewersState.serve_of_evaluate ["v-1"] hwithin hcall (Option.some_get h).symm

/-- A viewer joins `st`. -/
def ViewersState.join (st : ViewersState)
    (h : ((sampleVideo.acquireViewer sampleVehicle).evaluate
      (@serveAtOnce Cjson.fourteenDigits ["v-1"]) st.gateway).isSome = true) :
    VideoSession × ViewersState :=
  let := Cjson.fourteenDigits
  match served (sampleVideo.acquireViewer sampleVehicle) st.gateway h with
  | (.ok session, w) =>
      (session, { st with
        gateway := w
        watching := st.watching ++ [some session.sessionID]
        indexedUntil := some (w.clock + (sampleVideo.gracePeriod + 60 * 60 * 1000)) })
  | (.error _, _) => (VideoSessionStore.standbySession sampleVehicle 0, st)

def oneViewer : VideoSession × ViewersState := nobody.join (by decide +kernel)

def twoViewers : VideoSession × ViewersState := oneViewer.2.join (by decide +kernel)

theorem oneViewer_run :
    (@viewersSystem Cjson.fourteenDigits sampleVideo sampleVehicle).RunWhere ReleasesIndexed
      [.acquire oneViewer.1] oneViewer.2 := by
  let := Cjson.fourteenDigits
  have hinit : (viewersSystem sampleVideo sampleVehicle).RunWhere ReleasesIndexed [] nobody :=
    .init ⟨rfl, rfl, fun e he ↦ (by cases he)⟩
  have hserve := nobody.serve_served (p := sampleVideo.acquireViewer sampleVehicle)
    (by decide) rfl (by decide +kernel)
  exact .step hinit trivial (.acquire hserve)

/-- The `i`th viewer wants to leave `st`. -/
def ViewersState.leave (st : ViewersState) (i : ℕ)
    (h : ((sampleVideo.releaseViewer (GoString.ofString "v-1")).evaluate
      (@serveAtOnce Cjson.fourteenDigits ["v-1"]) st.gateway).isSome = true) :
    Except VideoSessionError VideoSession × ViewersState :=
  let := Cjson.fourteenDigits
  let answer := served (sampleVideo.releaseViewer (GoString.ofString "v-1")) st.gateway h
  (answer.1, { st with
    gateway := answer.2
    watching := st.watching.set i none
    indexedUntil := none })

def soleLeft : Except VideoSessionError VideoSession × ViewersState :=
  oneViewer.2.leave 0 (by decide +kernel)

def nextViewer : VideoSession × ViewersState := soleLeft.2.join (by decide +kernel)

/-- A viewer joins and leaves, another joins, and each is counted while it is there. -/
theorem viewers_accounted_one :
    (@viewersSystem Cjson.fourteenDigits sampleVideo sampleVehicle).RunWhere
        (Accounted sampleVehicle) [.acquire oneViewer.1, .release 0 soleLeft.1,
          .acquire nextViewer.1] nextViewer.2 ∧
      nextViewer.2.viewerCount sampleVehicle = nextViewer.2.viewers ∧
        ((∀ viewer ∈ nextViewer.2.watching, viewer = none) →
          nextViewer.2.viewerCount sampleVehicle = 0) := by
  let := Cjson.fourteenDigits
  have hleft : (viewersSystem sampleVideo sampleVehicle).RunWhere ReleasesIndexed
      [.acquire oneViewer.1, .release 0 soleLeft.1] soleLeft.2 := by
    have hserve := oneViewer.2.serve_served
      (p := sampleVideo.releaseViewer (GoString.ofString "v-1")) (by decide +kernel) rfl
      (by decide +kernel)
    have hfindable : oneViewer.2.Findable := ⟨3645000, rfl, by decide +kernel⟩
    exact .step oneViewer_run hfindable (.release rfl hserve)
  have hrun : (viewersSystem sampleVideo sampleVehicle).RunWhere ReleasesIndexed
      [.acquire oneViewer.1, .release 0 soleLeft.1, .acquire nextViewer.1] nextViewer.2 := by
    have hserve := soleLeft.2.serve_served (p := sampleVideo.acquireViewer sampleVehicle)
      (by decide +kernel) rfl (by decide +kernel)
    exact .step hleft trivial (.acquire hserve)
  exact (viewers_accounted_iff sampleVideo (GoString.validUTF8_ofString _) _ _).mpr hrun

def firstLeft : Except VideoSessionError VideoSession × ViewersState :=
  twoViewers.2.leave 0 (by decide +kernel)

def bothLeft : Except VideoSessionError VideoSession × ViewersState :=
  firstLeft.2.leave 1 (by decide +kernel)

/-- Two viewers join.  The first leaves; the second is not found, and stays counted. -/
theorem second_release_fails :
    (@viewersSystem Cjson.fourteenDigits sampleVideo sampleVehicle).Run
        [.acquire oneViewer.1, .acquire twoViewers.1, .release 0 firstLeft.1,
          .release 1 bothLeft.1] bothLeft.2 ∧
      bothLeft.1 = .error .sessionNotFound ∧ bothLeft.2.viewers = 0 ∧
        bothLeft.2.viewerCount sampleVehicle = 1 := by
  let := Cjson.fourteenDigits
  have htwo : (viewersSystem sampleVideo sampleVehicle).Run
      [.acquire oneViewer.1, .acquire twoViewers.1] twoViewers.2 := by
    have hserve := oneViewer.2.serve_served (p := sampleVideo.acquireViewer sampleVehicle)
      (by decide +kernel) rfl (by decide +kernel)
    exact .step oneViewer_run.toRun trivial (.acquire hserve)
  have hfirst : (viewersSystem sampleVideo sampleVehicle).Run
      [.acquire oneViewer.1, .acquire twoViewers.1, .release 0 firstLeft.1] firstLeft.2 := by
    have hserve := twoViewers.2.serve_served
      (p := sampleVideo.releaseViewer (GoString.ofString "v-1")) (by decide +kernel) rfl
      (by decide +kernel)
    exact .step htwo trivial (.release rfl hserve)
  have hsecond := firstLeft.2.serve_served
    (p := sampleVideo.releaseViewer (GoString.ofString "v-1")) (by decide +kernel) rfl
    (by decide +kernel)
  refine ⟨.step hfirst trivial (.release rfl hsecond), ?_, ?_, ?_⟩
  · rfl
  · decide +kernel
  · decide +kernel

end Sample

end RemoteInfra.Gateway
