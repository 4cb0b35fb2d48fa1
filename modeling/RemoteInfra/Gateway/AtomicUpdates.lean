import RemoteInfra.Gateway.VideoRecords
import RemoteInfra.Library.Serial

/-!
# Updates of the video store as if one at a time

Any number of calls of the store at once, all of whose Redis commands succeed.  Every call reads
the record, changes its copy and writes it back, in single commands.  Nothing is lost if what a
call has read is still so when it first writes, and if nobody else goes to Redis from then until
it ends.
-/

namespace RemoteInfra.Gateway

open RemoteInfra.Library RemoteInfra.Library.Program

/-! ## What the programs of the store look like -/

/-- May change what Redis holds. -/
def Effect.Writes : Effect → Prop
  | .redis (.get _) => False
  | .redis _ => True
  | _ => False

/-- Leaves everything as it is, whenever it is asked for. -/
def Effect.Idle (e : Effect) : Prop := e = .timeNow

/-- Redis answers every command. -/
def Effect.Succeeds : (e : Effect) → e.Reply → Prop
  | .redis _, reply => ∃ result, reply = .ok result
  | _, _ => True

/-- Goes on to write. -/
abbrev WillWrite {α : Type} (p : GatewayProgram α) : Prop :=
  p.Commits Effect.Writes Effect.Succeeds

/-- Looks at Redis again only to write. -/
abbrev MayWrite {α : Type} (Q : α → Prop) (p : GatewayProgram α) : Prop :=
  p.Undecided Effect.Writes Effect.Idle Effect.Succeeds Q

/-- Reads a key first, and then again only to write. -/
def LooksOnce {α : Type} (p : GatewayProgram α) : Prop :=
  ∃ k next, p = .call (.redis (.get k)) next ∧ ∀ x, MayWrite (fun _ ↦ True) (next (.ok x))

/-- A call that returns a session. -/
def YieldsSession (result : Except VideoSessionError VideoSession) : Prop :=
  ∃ session, result = .ok session

namespace VideoSessionStore

theorem mayWrite_stamped (session : VideoSession) :
    MayWrite (fun _ ↦ True) (stamped session) := by
  unfold stamped
  split_ifs
  · exact .call rfl fun now _ ↦ .pure trivial
  · exact .pure trivial

theorem willWrite_save (session : VideoSession) : WillWrite (save session) :=
  (mayWrite_stamped session).commits_bind fun _ _ ↦ .write trivial

theorem willWrite_andSave (session : VideoSession) : WillWrite (andSave session) :=
  (willWrite_save session).bind _

theorem willWrite_named_bind {α : Type} (session : VideoSession)
    {f : VideoSession → GatewayProgram α} (hf : ∀ session, WillWrite (f session)) :
    WillWrite (named session >>= f) := by
  unfold named
  split_ifs
  · exact .call fun id _ ↦ .call fun now _ ↦ hf _
  · exact hf _

theorem willWrite_saveAfterViewerChange (s : VideoSessionStore) (session : VideoSession) :
    WillWrite (s.saveAfterViewerChange session) := by
  unfold saveAfterViewerChange
  split_ifs
  · exact .call fun now _ ↦ willWrite_andSave _
  · exact willWrite_andSave _

/-- A look returns a session, if it does not settle one. -/
theorem get_eq (vehicleID : GoString) :
    ∃ next, get vehicleID = .call (.redis (.get (.videoSession vehicleID))) next ∧
      ∀ x, MayWrite YieldsSession (next (.ok x)) := by
  refine ⟨_, rfl, fun x ↦ ?_⟩
  rcases x with _ | session
  · exact .call rfl fun now _ ↦ .pure ⟨_, rfl⟩
  · simp only [Program.bind]
    split_ifs
    · refine .call rfl fun now _ ↦ ?_
      simp only [Program.bind]
      split_ifs
      · exact .commits (willWrite_andSave _)
      · exact .pure ⟨session, rfl⟩
    · exact .pure ⟨session, rfl⟩

theorem looksOnce_get (vehicleID : GoString) : LooksOnce (get vehicleID) := by
  obtain ⟨next, heq, hnext⟩ := get_eq vehicleID
  exact ⟨_, next, heq, fun x ↦ (hnext x).mono fun _ _ ↦ trivial⟩

/-- A call that looks at the record and, having found one, writes. -/
theorem looksOnce_get_bind (vehicleID : GoString)
    {f : Except VideoSessionError VideoSession →
      GatewayProgram (Except VideoSessionError VideoSession)}
    (hf : ∀ session, WillWrite (f (.ok session))) :
    LooksOnce (get vehicleID >>= f) ∧ WillWrite (get vehicleID >>= f) := by
  obtain ⟨next, heq, hnext⟩ := get_eq vehicleID
  rw [heq]
  have hwrites : ∀ x, WillWrite (next (.ok x) >>= f) := by
    intro x
    refine (hnext x).commits_bind ?_
    rintro result ⟨session, rfl⟩
    exact hf session
  refine ⟨⟨_, _, rfl, fun x ↦ .commits (hwrites x)⟩, .call ?_⟩
  rintro reply ⟨x, rfl⟩
  exact hwrites x

theorem looksOnce_acquireViewer (s : VideoSessionStore) (vehicleID : GoString) :
    LooksOnce (s.acquireViewer vehicleID) :=
  (looksOnce_get_bind vehicleID fun session ↦
    willWrite_named_bind session fun _ ↦ (willWrite_save _).bind _).1

theorem looksOnce_releaseViewer (s : VideoSessionStore) (sessionID : GoString) :
    LooksOnce (s.releaseViewer sessionID) := by
  refine ⟨_, _, rfl, fun x ↦ ?_⟩
  rcases x with _ | vehicleID
  · exact .pure trivial
  · exact .commits (looksOnce_get_bind vehicleID fun session ↦ .write trivial).2

theorem looksOnce_setController (vehicleID controlSessionID : GoString) :
    LooksOnce (setController vehicleID controlSessionID) :=
  (looksOnce_get_bind vehicleID fun session ↦
    willWrite_named_bind session fun _ ↦ willWrite_andSave _).1

theorem looksOnce_clearController (s : VideoSessionStore)
    (vehicleID controlSessionID : GoString) :
    LooksOnce (s.clearController vehicleID controlSessionID) :=
  (looksOnce_get_bind vehicleID fun _ ↦ willWrite_saveAfterViewerChange s _).1

end VideoSessionStore

theorem VideoCall.looksOnce_program (s : VideoSessionStore) (c : VideoCall) :
    LooksOnce (c.program s) := by
  cases c with
  | get v => exact VideoSessionStore.looksOnce_get v
  | acquireViewer v => exact VideoSessionStore.looksOnce_acquireViewer s v
  | releaseViewer id => exact VideoSessionStore.looksOnce_releaseViewer s id
  | setController v id => exact VideoSessionStore.looksOnce_setController v id
  | clearController v id => exact VideoSessionStore.looksOnce_clearController s v id

/-! ## Calls that all succeed -/

/-- Concurrent calls of the store from `w₀` on, with every Redis command succeeding. -/
def servedVideos [Cjson] (s : VideoSessionStore) (w₀ : GatewayState) :
    PoolSystem GatewayState VideoCall ℤ Effect Effect.Reply
      (Except VideoSessionError VideoSession) where
  Init w := w = w₀
  program := VideoCall.program s
  Exec := Serves Timing.free
  EnvStep := ClockStep

/-- The call has sent Redis a command that writes. -/
def HasWritten (tr : List GatewayEvent) : Prop := ∃ ev ∈ tr, ev.1.Writes

/-- Everything that the call has read would be read again. -/
def Current (w : GatewayState) (tr : List GatewayEvent) : Prop :=
  ∀ k reply, ⟨.redis (.get k), reply⟩ ∈ tr → reply = .ok (w.redis.get w.clock k)

/-- Between its first write and its end. -/
def Writing (ls : List VideoLabel) (st : VideoPool) (i : ℕ) : Prop :=
  HasWritten (PoolSystem.trace i ls) ∧ ∃ c e next, st.pool[i]? = some (c, .call e next)

/-- Asked of every step: who goes to Redis finds nobody else writing, and who writes for the
first time would read again all that it has read. -/
def AtomicUpdates : TransitionSystem.StepCondition VideoPool VideoLabel
  | ls, st, .exec i _ (.redis cmd) _ => (∀ j, j ≠ i → ¬Writing ls st j) ∧
      ((Effect.redis cmd).Writes → ¬HasWritten (PoolSystem.trace i ls) →
        Current st.shared (PoolSystem.trace i ls))
  | _, _, _ => True

/-- What is stored of a vehicle's mode, viewers and controller. -/
def GatewayState.recorded (w : GatewayState) (vehicleID : GoString) :
    Option (VideoMode × ℤ × GoString) :=
  (w.redis.get w.clock (.videoSession vehicleID)).map fun record ↦
    (record.mode, record.viewerCount, record.controllerSessionID)

/-- Once all calls have ended, what is stored of every vehicle is what some serial order of the
same calls, with the same results, would have stored. -/
def Serializable [Cjson] (s : VideoSessionStore) (w₀ : GatewayState) (st : VideoPool) : Prop :=
  (∀ t ∈ st.pool, ∃ result, t.2 = .pure result) →
    ∃ order passed w, (servedVideos s w₀).Serial w₀ order passed w ∧
      (order.map Prod.fst).Perm (List.range st.pool.length) ∧
      (∀ i c result, (i, c, result) ∈ order → st.pool[i]? = some (c, .pure result)) ∧
      w.clock = st.shared.clock ∧ ∀ vehicleID, w.recorded vehicleID = st.shared.recorded vehicleID

/-! ## Single effects -/

section Effects

variable [Cjson] {u w w' : GatewayState} {e : Effect} {r : e.Reply} {tr : List GatewayEvent}

omit [Cjson] in
theorem hasWritten_append {ev : GatewayEvent} :
    HasWritten (tr ++ [ev]) ↔ HasWritten tr ∨ ev.1.Writes := by
  simp [HasWritten, or_and_right, exists_or]

/-- What the call has drawn. -/
def drawnIn (tr : List GatewayEvent) : List GoString :=
  tr.filterMap fun ev ↦
    match ev with
    | ⟨.newUUID, id⟩ => some id
    | _ => none

omit [Cjson] in
theorem mem_drawnIn {id : GoString} : id ∈ drawnIn tr ↔ ⟨.newUUID, id⟩ ∈ tr := by
  simp only [drawnIn, List.mem_filterMap]
  constructor
  · rintro ⟨⟨e, r⟩, hmem, heq⟩
    cases e with
    | newUUID =>
        obtain rfl := Option.some.inj heq
        exact hmem
    | timeNow | redis | issueOperatorToken | recordAudit => cases heq
  · intro hmem
    exact ⟨_, hmem, rfl⟩

/-- The same holds in both stores, and the first may be behind. -/
structure SameStore (w w' : GatewayState) : Prop where
  redis : w.redis = w'.redis
  clock : w.clock ≤ w'.clock

/-- An effect may happen in the same way to the same store. -/
theorem Serves.follow (h : Serves Timing.free w e r w') (hsame : SameStore u w)
    (hfresh : ∀ id, (⟨e, r⟩ : GatewayEvent) = ⟨.newUUID, id⟩ → id ∉ u.drawn) :
    ∃ u', Serves Timing.free u e r u' ∧ SameStore u' w' ∧
      ∀ id ∈ u'.drawn, id ∈ u.drawn ∨ (⟨e, r⟩ : GatewayEvent) = ⟨.newUUID, id⟩ := by
  have hclock := hsame.clock
  cases h with
  | timeNow hpasses hreads =>
      exact ⟨_, .timeNow (hclock.trans hpasses) hreads, ⟨hsame.redis, le_rfl⟩, fun _ ↦ .inl⟩
  | newUUID hpasses hnew hvalid hne =>
      refine ⟨_, .newUUID (hclock.trans hpasses) (hfresh _ rfl) hvalid hne,
        ⟨hsame.redis, le_rfl⟩, fun id hid ↦ ?_⟩
      rcases List.mem_cons.mp hid with rfl | hid
      · exact .inr rfl
      · exact .inl hid
  | redis hpasses hexec =>
      rw [← hsame.redis] at hexec
      exact ⟨_, .redis (hclock.trans hpasses) hexec, ⟨rfl, le_rfl⟩, fun _ ↦ .inl⟩
  | issueOperatorToken token hpasses =>
      exact ⟨_, .issueOperatorToken token (hclock.trans hpasses), ⟨hsame.redis, le_rfl⟩,
        fun _ ↦ .inl⟩
  | recordAudit hpasses =>
      exact ⟨_, .recordAudit (hclock.trans hpasses), ⟨hsame.redis, le_rfl⟩, fun _ ↦ .inl⟩

/-- An effect that does not write, with a reply that it had once, may have that reply again if
what was read is still so. -/
theorem Serves.again (h : Serves Timing.free w e r w') (hwrites : ¬e.Writes)
    (hcurrent : Current u [⟨e, r⟩]) (hfresh : ∀ id ∈ drawnIn [⟨e, r⟩], id ∉ u.drawn) :
    ∃ u', Serves Timing.free u e r u' ∧ u'.redis = u.redis ∧ u'.clock = u.clock ∧
      ∀ id, id ∈ u'.drawn ↔ id ∈ u.drawn ∨ id ∈ drawnIn [⟨e, r⟩] := by
  have hnow : Timing.free.passes u.clock u.clock := le_refl u.clock
  cases h with
  | timeNow hpasses hreads => exact ⟨_, .timeNow hnow hreads, rfl, rfl, by simp [drawnIn]⟩
  | newUUID hpasses hnew hvalid hne =>
      exact ⟨_, .newUUID hnow (hfresh _ (by simp [drawnIn])) hvalid hne, rfl, rfl,
        by simp [drawnIn, or_comm]⟩
  | @redis t cmd result redis hpasses hexec =>
      cases cmd with
      | get k =>
          obtain rfl := Except.ok.inj (hcurrent k _ (List.mem_singleton_self _))
          exact ⟨_, .redis hnow rfl, rfl, rfl, by simp [drawnIn]⟩
      | set | del | acquireScript | renewScript | releaseScript => exact absurd trivial hwrites
  | issueOperatorToken token hpasses =>
      exact ⟨_, .issueOperatorToken token hnow, rfl, rfl, by simp [drawnIn]⟩
  | recordAudit hpasses => exact ⟨_, .recordAudit hnow, rfl, rfl, by simp [drawnIn]⟩

omit [Cjson] in
theorem current_append {ev : GatewayEvent} :
    Current w (tr ++ [ev]) ↔ Current w tr ∧ Current w [ev] := by
  simp only [Current, List.mem_append]
  exact ⟨fun h ↦ ⟨fun k reply hmem ↦ h k reply (.inl hmem), fun k reply hmem ↦
    h k reply (.inr hmem)⟩, fun h k reply hmem ↦ hmem.elim (h.1 k reply) (h.2 k reply)⟩

/-- A call that has only read may do all of it again where everything is still so. -/
theorem leads_of_along {α : Type} {p p' : GatewayProgram α} (h : p.Along tr p')
    (hheard : ∀ ev ∈ tr, ∃ w w', Serves Timing.free w ev.1 ev.2 w') (hwrites : ¬HasWritten tr)
    (hcurrent : Current u tr) (hnodup : (drawnIn tr).Nodup)
    (hfresh : ∀ id ∈ drawnIn tr, id ∉ u.drawn) :
    ∃ u', Leads (Serves Timing.free) u p p' u' ∧ u'.redis = u.redis ∧ u'.clock = u.clock ∧
      ∀ id, id ∈ u'.drawn ↔ id ∈ u.drawn ∨ id ∈ drawnIn tr := by
  induction h with
  | start => exact ⟨u, .start, rfl, rfl, by simp [drawnIn]⟩
  | @step tr e next r h ih =>
      rw [hasWritten_append, not_or] at hwrites
      rw [current_append] at hcurrent
      have hsplit : drawnIn (tr ++ [⟨e, r⟩]) = drawnIn tr ++ drawnIn [⟨e, r⟩] :=
        List.filterMap_append
      rw [hsplit] at hnodup hfresh
      obtain ⟨hnodup, -, hapart⟩ := List.nodup_append.mp hnodup
      obtain ⟨u₁, hleads, hredis, hclock, hdrawn⟩ := ih
        (fun ev hev ↦ hheard ev (List.mem_append_left _ hev)) hwrites.1 hcurrent.1 hnodup
        fun id hid ↦ hfresh id (List.mem_append_left _ hid)
      obtain ⟨w, w', hserves⟩ := hheard _ (List.mem_append_right _ (List.mem_singleton_self _))
      have hcurrent₁ : Current u₁ [⟨e, r⟩] := by
        intro k reply hmem
        rw [hredis, hclock]
        exact hcurrent.2 k reply hmem
      have hfresh₁ : ∀ id ∈ drawnIn [⟨e, r⟩], id ∉ u₁.drawn := by
        intro id hid hold
        rcases (hdrawn id).mp hold with hold | hold
        · exact hfresh id (List.mem_append_right _ hid) hold
        · exact hapart id hold id hid rfl
      obtain ⟨u₂, hserves', hredis', hclock', hdrawn'⟩ :=
        hserves.again hwrites.2 hcurrent₁ hfresh₁
      refine ⟨u₂, .step hleads hserves', hredis'.trans hredis, hclock'.trans hclock,
        fun id ↦ ?_⟩
      rw [hdrawn' id, hdrawn id, hsplit, List.mem_append, or_assoc]

end Effects

/-! ## What every run keeps -/

section Runs

variable [Cjson] {s : VideoSessionStore} {w₀ : GatewayState}
  {C : TransitionSystem.StepCondition VideoPool VideoLabel} {ls : List VideoLabel}
  {st : VideoPool}

/-- No id is drawn twice. -/
structure DrawnOnce (w₀ : GatewayState) (ls : List VideoLabel) (st : VideoPool) : Prop where
  kept : ∀ id ∈ w₀.drawn, id ∈ st.shared.drawn
  drawn : ∀ i, ∀ id ∈ drawnIn (PoolSystem.trace i ls), id ∈ st.shared.drawn ∧ id ∉ w₀.drawn
  once : ∀ i j, ∀ id ∈ drawnIn (PoolSystem.trace i ls),
    id ∈ drawnIn (PoolSystem.trace j ls) → i = j
  nodup : ∀ i, (drawnIn (PoolSystem.trace i ls)).Nodup

/-- What an effect adds to the ids drawn. -/
theorem Serves.drawn_cases {w w' : GatewayState} {e : Effect} {r : e.Reply}
    (h : Serves Timing.free w e r w') :
    (drawnIn [⟨e, r⟩] = [] ∧ w'.drawn = w.drawn) ∨
      ∃ id, drawnIn [⟨e, r⟩] = [id] ∧ id ∉ w.drawn ∧ w'.drawn = id :: w.drawn := by
  cases h with
  | newUUID hpasses hnew hvalid hne => exact .inr ⟨_, rfl, hnew, rfl⟩
  | timeNow | redis | issueOperatorToken | recordAudit => exact .inl ⟨rfl, rfl⟩

theorem DrawnOnce.of_run (hrun : (servedVideos s w₀).system.RunWhere C ls st) :
    DrawnOnce w₀ ls st := by
  refine hrun.invariant (P := DrawnOnce w₀) ?_ ?_
  · rintro ⟨w, pool⟩ ⟨hinit, hpool⟩
    obtain rfl : w = w₀ := hinit
    exact ⟨fun id hid ↦ hid, by simp [drawnIn], by simp [drawnIn], by simp [drawnIn]⟩
  · rintro ls st l st' - h - hstep
    cases hstep with
    | spawn =>
        constructor
        · exact h.kept
        · simpa using h.drawn
        · simpa using h.once
        · simpa using h.nodup
    | env hmoved =>
        cases hmoved
        constructor
        · exact h.kept
        · simpa using h.drawn
        · simpa using h.once
        · simpa using h.nodup
    | @exec w w' pool i c e next r hi hserves =>
        have htrace : ∀ j, drawnIn (PoolSystem.trace j (ls ++ [.exec i c e r])) =
            drawnIn (PoolSystem.trace j ls) ++ if j = i then drawnIn [⟨e, r⟩] else [] := by
          intro j
          split_ifs with hij
          · subst hij
            rw [PoolSystem.trace_exec_self]
            exact List.filterMap_append
          · rw [PoolSystem.trace_exec_of_ne (Ne.symm hij), List.append_nil]
        rcases Serves.drawn_cases hserves with ⟨hnone, hsame⟩ | ⟨id, hone, hnew, hsame⟩
        · have hold : ∀ j, drawnIn (PoolSystem.trace j (ls ++ [.exec i c e r])) =
              drawnIn (PoolSystem.trace j ls) := by
            intro j
            rw [htrace, hnone, ite_self, List.append_nil]
          refine ⟨?_, ?_, ?_, ?_⟩ <;> simp only [hold, hsame]
          · exact h.kept
          · exact h.drawn
          · exact h.once
          · exact h.nodup
        · have hfresh : ∀ j, id ∉ drawnIn (PoolSystem.trace j ls) :=
            fun j hid ↦ hnew (h.drawn j id hid).1
          have hmem : ∀ j d, d ∈ drawnIn (PoolSystem.trace j (ls ++ [.exec i c e r])) →
              d ∈ drawnIn (PoolSystem.trace j ls) ∨ d = id ∧ j = i := by
            intro j d hd
            rw [htrace, List.mem_append] at hd
            refine hd.imp_right fun hd ↦ ?_
            split_ifs at hd with hij
            · rw [hone] at hd
              exact ⟨List.mem_singleton.mp hd, hij⟩
            · cases hd
          refine ⟨fun d hd ↦ ?_, fun j d hd ↦ ?_, fun j k d hd hd' ↦ ?_, fun j ↦ ?_⟩
          · rw [hsame]
            exact List.mem_cons_of_mem _ (h.kept d hd)
          · rw [hsame]
            rcases hmem j d hd with hd | ⟨rfl, -⟩
            · exact ⟨List.mem_cons_of_mem _ (h.drawn j d hd).1, (h.drawn j d hd).2⟩
            · exact ⟨List.mem_cons_self, fun hold ↦ hnew (h.kept _ hold)⟩
          · rcases hmem j d hd with hd | ⟨rfl, rfl⟩
            · rcases hmem k d hd' with hd' | ⟨rfl, -⟩
              · exact h.once j k d hd hd'
              · exact absurd hd (hfresh j)
            · rcases hmem k d hd' with hd' | ⟨-, rfl⟩
              · exact absurd hd' (hfresh k)
              · rfl
          · rw [htrace]
            split_ifs with hij
            · rw [hone, List.nodup_append]
              refine ⟨h.nodup j, by simp, fun d hd d' hd' ↦ ?_⟩
              obtain rfl := List.mem_singleton.mp hd'
              exact fun heq ↦ hfresh j (heq ▸ hd)
            · rw [List.append_nil]
              exact h.nodup j

/-- Every reply was given by somebody. -/
theorem heard_of_run (hrun : (servedVideos s w₀).system.RunWhere C ls st) (i : ℕ) :
    ∀ ev ∈ PoolSystem.trace i ls, ∃ w w', Serves Timing.free w ev.1 ev.2 w' := by
  rintro ⟨e, r⟩ hev
  obtain ⟨c, hmem⟩ := PoolSystem.mem_trace.mp hev
  obtain ⟨before, t, t', -, -, -, hstep⟩ := hrun.exists_step hmem
  cases hstep with
  | exec _ hserves => exact ⟨_, _, hserves⟩

/-! ## The serial order -/

/-- What is known of a call that has not written. -/
inductive Pending (s : VideoSessionStore) (passed : List GatewayState) (c : VideoCall) :
    GatewayProgram (Except VideoSessionError VideoSession) → Prop
  | ended (result : Except VideoSessionError VideoSession) : Pending s passed c (.pure result)
  | fresh {p : GatewayProgram (Except VideoSessionError VideoSession)} :
      p = c.program s → Pending s passed c p
  /-- what it has read will be checked when it writes -/
  | willWrite {p : GatewayProgram (Except VideoSessionError VideoSession)} :
      WillWrite p → Pending s passed c p
  /-- it may have run alone where the serial order passed -/
  | mayWrite {p : GatewayProgram (Except VideoSessionError VideoSession)} {u : GatewayState} :
      MayWrite (fun _ ↦ True) p → u ∈ passed →
        Leads (Serves Timing.free) u (c.program s) p u → Pending s passed c p

theorem Pending.mono {passed passed' : List GatewayState} {c : VideoCall}
    {p : GatewayProgram (Except VideoSessionError VideoSession)} (hsub : passed ⊆ passed')
    (h : Pending s passed c p) : Pending s passed' c p := by
  cases h with
  | ended result => exact .ended result
  | fresh heq => exact .fresh heq
  | willWrite hwrites => exact .willWrite hwrites
  | mayWrite hmay hu hleads => exact .mayWrite hmay (hsub hu) hleads

/-- A call that has not written either starts, or will write, or looks at the clock. -/
theorem Pending.next {passed : List GatewayState} {c : VideoCall} {e : Effect} {r : e.Reply}
    {next : e.Reply → GatewayProgram (Except VideoSessionError VideoSession)}
    (h : Pending s passed c (.call e next)) (he : ¬e.Writes) (hr : e.Succeeds r) :
    c.program s = .call e next ∨ WillWrite (next r) ∨
      e = .timeNow ∧ MayWrite (fun _ ↦ True) (next r) ∧
        ∃ u ∈ passed, Leads (Serves Timing.free) u (c.program s) (.call e next) u := by
  cases h with
  | fresh heq => exact .inl heq.symm
  | willWrite hwill => exact .inr (.inl (hwill.next he hr))
  | mayWrite hmay hu hleads =>
      cases hmay with
      | commits hwill => exact .inr (.inl (hwill.next he hr))
      | call hidle hnext => exact .inr (.inr ⟨hidle, hnext r hr, _, hu, hleads⟩)

/-- A call in the pool or in the serial order. -/
abbrev ServedVideo := PoolSystem.Served VideoCall (Except VideoSessionError VideoSession)

/-- The calls that have ended were served in `order`, which has come to `w`.  Redis is as in
`now`: as the order left it, or as the one call has left it that is writing. -/
structure OrderedSo (s : VideoSessionStore) (w₀ : GatewayState) (ls : List VideoLabel)
    (st : VideoPool) (order : List ServedVideo) (passed : List GatewayState)
    (w now : GatewayState) : Prop where
  serial : (servedVideos s w₀).Serial w₀ order passed w
  ended : ∀ i c result, (i, c, result) ∈ order ↔ st.pool[i]? = some (c, .pure result)
  once : (order.map Prod.fst).Nodup
  same : SameStore now st.shared
  drawn : ∀ id ∈ now.drawn, id ∈ w₀.drawn ∨ ∃ i, HasWritten (PoolSystem.trace i ls) ∧
    id ∈ drawnIn (PoolSystem.trace i ls)
  writing : (now = w ∧ ∀ i, ¬Writing ls st i) ∨
    ∃ i c e next, st.pool[i]? = some (c, .call e next) ∧ HasWritten (PoolSystem.trace i ls) ∧
      (∀ j, j ≠ i → ¬Writing ls st j) ∧
        Leads (Serves Timing.free) w (c.program s) (.call e next) now
  pending : ∀ i c p, st.pool[i]? = some (c, p) → ¬HasWritten (PoolSystem.trace i ls) →
    Pending s passed c p

section Step

variable {shared shared' : GatewayState}
  {pool : List (VideoCall × GatewayProgram (Except VideoSessionError VideoSession))}
  {order order' : List ServedVideo} {passed passed' : List GatewayState} {i : ℕ} {c : VideoCall}
  {e : Effect} {r : e.Reply}
  {next : e.Reply → GatewayProgram (Except VideoSessionError VideoSession)}

/-- `order'` is `order` with call `i` as well, if `p` is its end. -/
def Extends (order order' : List ServedVideo) (i : ℕ) (c : VideoCall)
    (p : GatewayProgram (Except VideoSessionError VideoSession)) : Prop :=
  (∃ result, p = .pure result ∧ order'.Perm ((i, c, result) :: order)) ∨
    (∃ e next, p = .call e next) ∧ order' = order

omit [Cjson] in
theorem Extends.ended {p : GatewayProgram (Except VideoSessionError VideoSession)}
    (h : Extends order order' i c p) (hi : pool[i]? = some (c, .call e next))
    (hended : ∀ j d result, (j, d, result) ∈ order ↔ pool[j]? = some (d, .pure result)) :
    ∀ j d result, (j, d, result) ∈ order' ↔
      (pool.set i (c, p))[j]? = some (d, .pure result) := by
  have hlt : i < pool.length := (List.getElem?_eq_some_iff.mp hi).1
  have hnot : ∀ d result, (i, d, result) ∉ order := by
    intro d result hmem
    cases hi.symm.trans ((hended i d result).mp hmem)
  intro j d result
  by_cases hij : j = i
  · subst hij
    rw [List.getElem?_set_self hlt]
    rcases h with ⟨value, rfl, hperm⟩ | ⟨⟨e', next', rfl⟩, rfl⟩
    · rw [hperm.mem_iff, List.mem_cons, or_iff_left (hnot d result)]
      simp [eq_comm]
    · simp [hnot]
  · rw [List.getElem?_set_ne (Ne.symm hij), ← hended]
    rcases h with ⟨value, rfl, hperm⟩ | ⟨-, rfl⟩
    · simp [hperm.mem_iff, hij]
    · rfl

omit [Cjson] in
theorem Extends.once {p : GatewayProgram (Except VideoSessionError VideoSession)}
    (h : Extends order order' i c p) (hi : pool[i]? = some (c, .call e next))
    (hended : ∀ j d result, (j, d, result) ∈ order ↔ pool[j]? = some (d, .pure result))
    (honce : (order.map Prod.fst).Nodup) : (order'.map Prod.fst).Nodup := by
  rcases h with ⟨result, rfl, hperm⟩ | ⟨-, rfl⟩
  · rw [(hperm.map Prod.fst).nodup_iff, List.map_cons, List.nodup_cons]
    refine ⟨fun hmem ↦ ?_, honce⟩
    obtain ⟨⟨j, d, value⟩, hserved, rfl⟩ := List.mem_map.mp hmem
    cases hi.symm.trans ((hended _ d value).mp hserved)
  · exact honce

omit [Cjson] in
theorem writing_exec_of_ne {j : ℕ} (hij : j ≠ i)
    (p : GatewayProgram (Except VideoSessionError VideoSession)) :
    Writing (ls ++ [.exec i c e r]) ⟨shared', pool.set i (c, p)⟩ j ↔
      Writing ls ⟨shared, pool⟩ j := by
  simp only [Writing, PoolSystem.trace_exec_of_ne (Ne.symm hij),
    List.getElem?_set_ne (Ne.symm hij)]

omit [Cjson] in
theorem hasWritten_exec {j : ℕ} (h : HasWritten (PoolSystem.trace j ls)) :
    HasWritten (PoolSystem.trace j (ls ++ [.exec i c e r])) := by
  rw [PoolSystem.trace_append]
  obtain ⟨ev, hev, hwrites⟩ := h
  exact ⟨ev, List.mem_append_left _ hev, hwrites⟩

omit [Cjson] in
theorem drawnIn_exec {j : ℕ} {id : GoString} (h : id ∈ drawnIn (PoolSystem.trace j ls)) :
    id ∈ drawnIn (PoolSystem.trace j (ls ++ [.exec i c e r])) := by
  rw [PoolSystem.trace_append]
  exact mem_drawnIn.mpr (List.mem_append_left _ (mem_drawnIn.mp h))

/-- The others are as they were. -/
theorem OrderedSo.pending_of_ne {w now : GatewayState}
    (h : OrderedSo s w₀ ls ⟨shared, pool⟩ order passed w now) (hsub : passed ⊆ passed') {j : ℕ}
    (hij : j ≠ i) {d : VideoCall} {p q : GatewayProgram (Except VideoSessionError VideoSession)}
    (hj : (pool.set i (c, p))[j]? = some (d, q))
    (hwrites : ¬HasWritten (PoolSystem.trace j (ls ++ [.exec i c e r]))) :
    Pending s passed' d q := by
  rw [List.getElem?_set_ne (Ne.symm hij)] at hj
  rw [PoolSystem.trace_exec_of_ne (Ne.symm hij)] at hwrites
  exact (h.pending j d q hj hwrites).mono hsub

/-- A step of the call that writes, which may have run alone up to now, after all others. -/
theorem OrderedSo.write {w now w₁ u : GatewayState}
    (h : OrderedSo s w₀ ls ⟨shared, pool⟩ order passed w now)
    (honce : DrawnOnce w₀ ls ⟨shared, pool⟩) (hi : pool[i]? = some (c, .call e next))
    (hserves : Serves Timing.free shared e r shared') (hsub : passed ⊆ passed')
    (hserial : (servedVideos s w₀).Serial w₀ order passed' w₁)
    (hleads : Leads (Serves Timing.free) w₁ (c.program s) (.call e next) u)
    (hsame : SameStore u shared)
    (hdrawn : ∀ id ∈ u.drawn, id ∈ w₀.drawn ∨ ∃ j, (j = i ∨ HasWritten (PoolSystem.trace j ls)) ∧
      id ∈ drawnIn (PoolSystem.trace j ls))
    (hothers : ∀ j, j ≠ i → ¬Writing ls ⟨shared, pool⟩ j)
    (hwrites : HasWritten (PoolSystem.trace i (ls ++ [.exec i c e r]))) :
    ∃ order' passed' w' now', OrderedSo s w₀ (ls ++ [.exec i c e r])
      ⟨shared', pool.set i (c, next r)⟩ order' passed' w' now' := by
  have hlt : i < pool.length := (List.getElem?_eq_some_iff.mp hi).1
  have hfresh : ∀ id, (⟨e, r⟩ : GatewayEvent) = ⟨.newUUID, id⟩ → id ∉ u.drawn := by
    rintro id ⟨⟩ hold
    cases hserves with
    | newUUID hpasses hnew hvalid hne =>
        rcases hdrawn _ hold with hold | ⟨j, -, hold⟩
        · exact hnew (honce.kept _ hold)
        · exact hnew (honce.drawn j _ hold).1
  obtain ⟨u', hserves', hsame', hdrawn'⟩ := hserves.follow hsame hfresh
  have hleads' := hleads.step hserves'
  have hdrawn'' : ∀ id ∈ u'.drawn, id ∈ w₀.drawn ∨
      ∃ j, HasWritten (PoolSystem.trace j (ls ++ [.exec i c e r])) ∧
        id ∈ drawnIn (PoolSystem.trace j (ls ++ [.exec i c e r])) := by
    intro id hid
    rcases hdrawn' id hid with hid | heq
    · refine (hdrawn id hid).imp_right ?_
      rintro ⟨j, rfl | hj, hmem⟩
      · exact ⟨j, hwrites, drawnIn_exec hmem⟩
      · exact ⟨j, hasWritten_exec hj, drawnIn_exec hmem⟩
    · refine .inr ⟨i, hwrites, mem_drawnIn.mpr ?_⟩
      rw [PoolSystem.trace_exec_self, ← heq]
      exact List.mem_append_right _ (List.mem_singleton_self _)
  have hothers' : ∀ j, j ≠ i → ¬Writing (ls ++ [.exec i c e r])
      ⟨shared', pool.set i (c, next r)⟩ j :=
    fun j hij ↦ mt (writing_exec_of_ne hij _).mp (hothers j hij)
  have hpending : ∀ {passed'' : List GatewayState}, passed ⊆ passed'' → ∀ j d q,
      (pool.set i (c, next r))[j]? = some (d, q) →
        ¬HasWritten (PoolSystem.trace j (ls ++ [.exec i c e r])) → Pending s passed'' d q := by
    intro passed'' hsub j d q hj hnot
    by_cases hij : j = i
    · subst hij
      exact absurd hwrites hnot
    · exact h.pending_of_ne hsub hij hj hnot
  cases hnext : next r with
  | pure result =>
      -- the call ends, and the serial order serves it
      rw [hnext] at hleads' hothers' hpending
      have hextends : Extends order (order ++ [(i, c, result)]) i c (.pure result) :=
        .inl ⟨result, rfl, List.perm_append_singleton _ _⟩
      refine ⟨_, _, _, u', .call hserial (hleads'.completes (.pure u' result)),
        hextends.ended hi h.ended, hextends.once hi h.ended h.once, hsame', hdrawn'',
        .inl ⟨rfl, fun j hj ↦ ?_⟩, hpending (List.subset_append_of_subset_left _ hsub)⟩
      by_cases hij : j = i
      · subst hij
        obtain ⟨-, d, e', next', hcall⟩ := hj
        rw [List.getElem?_set_self hlt] at hcall
        cases hcall
      · exact hothers' j hij hj
  | call e' next' =>
      rw [hnext] at hleads' hothers' hpending
      have hextends : Extends order order i c (.call e' next') := .inr ⟨⟨e', next', rfl⟩, rfl⟩
      exact ⟨_, _, _, u', hserial, hextends.ended hi h.ended, h.once, hsame', hdrawn'',
        .inr ⟨i, c, e', next', List.getElem?_set_self hlt, hwrites, hothers', hleads'⟩,
        hpending hsub⟩

/-- A step of a call that has not written.  It will, or it may have run alone in `u`. -/
theorem OrderedSo.look {w now w₁ now₁ : GatewayState}
    (h : OrderedSo s w₀ ls ⟨shared, pool⟩ order passed w now)
    (hi : pool[i]? = some (c, .call e next)) (hsub : passed ⊆ passed')
    (hserial : (servedVideos s w₀).Serial w₀ order passed' w₁) (hsame : SameStore now₁ shared')
    (hdrawn : now₁.drawn = now.drawn)
    (hwriting : (now₁ = w₁ ∧ ∀ i, ¬Writing ls ⟨shared, pool⟩ i) ∨ now₁ = now ∧ w₁ = w)
    (hwrites : ¬HasWritten (PoolSystem.trace i (ls ++ [.exec i c e r])))
    (hnext : WillWrite (next r) ∨ MayWrite (fun _ ↦ True) (next r) ∧
      ∃ u ∈ passed', Leads (Serves Timing.free) u (c.program s) (next r) u) :
    ∃ order' passed' w' now', OrderedSo s w₀ (ls ++ [.exec i c e r])
      ⟨shared', pool.set i (c, next r)⟩ order' passed' w' now' := by
  have hlt : i < pool.length := (List.getElem?_eq_some_iff.mp hi).1
  have hnot : ¬HasWritten (PoolSystem.trace i ls) := mt hasWritten_exec hwrites
  have hwriting' : (now₁ = w₁ ∧ ∀ j, ¬Writing (ls ++ [.exec i c e r])
        ⟨shared', pool.set i (c, next r)⟩ j) ∨
      ∃ j d e' next', (pool.set i (c, next r))[j]? = some (d, .call e' next') ∧
        HasWritten (PoolSystem.trace j (ls ++ [.exec i c e r])) ∧
        (∀ k, k ≠ j → ¬Writing (ls ++ [.exec i c e r]) ⟨shared', pool.set i (c, next r)⟩ k) ∧
          Leads (Serves Timing.free) w₁ (d.program s) (.call e' next') now₁ := by
    have hquiet : ∀ k, ¬Writing ls ⟨shared, pool⟩ k →
        ¬Writing (ls ++ [.exec i c e r]) ⟨shared', pool.set i (c, next r)⟩ k := by
      intro k hk hk'
      by_cases hik : k = i
      · subst hik
        exact hwrites hk'.1
      · exact hk ((writing_exec_of_ne hik _).mp hk')
    rcases hwriting with ⟨rfl, hnone⟩ | ⟨rfl, rfl⟩
    · exact .inl ⟨rfl, fun j ↦ hquiet j (hnone j)⟩
    · rcases h.writing with ⟨rfl, hnone⟩ | ⟨j, d, e', next', hj, hwrote, hothers, hleads⟩
      · exact .inl ⟨rfl, fun j ↦ hquiet j (hnone j)⟩
      · have hij : i ≠ j := by
          rintro rfl
          exact hnot hwrote
        refine .inr ⟨j, d, e', next', ?_, hasWritten_exec hwrote,
          fun k hk ↦ hquiet k (hothers k hk), hleads⟩
        rw [List.getElem?_set_ne hij]
        exact hj
  have hdrawn' : ∀ id ∈ now₁.drawn, id ∈ w₀.drawn ∨
      ∃ j, HasWritten (PoolSystem.trace j (ls ++ [.exec i c e r])) ∧
        id ∈ drawnIn (PoolSystem.trace j (ls ++ [.exec i c e r])) := by
    intro id hid
    rw [hdrawn] at hid
    refine (h.drawn id hid).imp_right ?_
    rintro ⟨j, hj, hmem⟩
    exact ⟨j, hasWritten_exec hj, drawnIn_exec hmem⟩
  have hpending : ∀ {passed'' : List GatewayState}, passed' ⊆ passed'' →
      Pending s passed'' c (next r) → ∀ j d q, (pool.set i (c, next r))[j]? = some (d, q) →
        ¬HasWritten (PoolSystem.trace j (ls ++ [.exec i c e r])) → Pending s passed'' d q := by
    intro passed'' hsub' hself j d q hj hquiet
    by_cases hij : j = i
    · subst hij
      rw [List.getElem?_set_self hlt] at hj
      obtain ⟨rfl, rfl⟩ := Prod.mk.inj (Option.some.inj hj)
      exact hself
    · exact h.pending_of_ne (List.Subset.trans hsub hsub') hij hj hquiet
  cases hend : next r with
  | pure result =>
      rw [hend] at hnext hpending hwriting'
      rcases hnext with hwill | ⟨-, u, hu, hleads⟩
      · cases hwill
      · -- the call ends, and the serial order serves it where it passed `u`
        obtain ⟨order', passed'', hperm, hsub', hserial'⟩ :=
          hserial.insert (i := i) hu (hleads.completes (.pure u result))
        have hextends : Extends order order' i c (.pure result) := .inl ⟨result, rfl, hperm⟩
        exact ⟨_, _, _, _, hserial', hextends.ended hi h.ended, hextends.once hi h.ended h.once,
          hsame, hdrawn', hwriting', hpending hsub' (.ended result)⟩
  | call e' next' =>
      rw [hend] at hnext hpending hwriting'
      have hself : Pending s passed' c (.call e' next') := by
        rcases hnext with hwill | ⟨hmay, u, hu, hleads⟩
        · exact .willWrite hwill
        · exact .mayWrite hmay hu hleads
      have hextends : Extends order order i c (.call e' next') := .inr ⟨⟨e', next', rfl⟩, rfl⟩
      exact ⟨_, _, _, _, hserial, hextends.ended hi h.ended, h.once, hsame, hdrawn', hwriting',
        hpending (List.Subset.refl _) hself⟩

/-- Nobody is writing when somebody goes to Redis who has not written. -/
theorem OrderedSo.quiet {w now : GatewayState}
    (h : OrderedSo s w₀ ls ⟨shared, pool⟩ order passed w now)
    (hothers : ∀ j, j ≠ i → ¬Writing ls ⟨shared, pool⟩ j)
    (hnot : ¬HasWritten (PoolSystem.trace i ls)) :
    now = w ∧ ∀ j, ¬Writing ls ⟨shared, pool⟩ j := by
  rcases h.writing with hnone | ⟨j, d, e', next', hj, hwrote, -⟩
  · exact hnone
  · refine absurd ⟨hwrote, d, e', next', hj⟩ (hothers j ?_)
    rintro rfl
    exact hnot hwrote

/-- The call that writes goes on. -/
theorem OrderedSo.goesOn {w now : GatewayState}
    (h : OrderedSo s w₀ ls ⟨shared, pool⟩ order passed w now)
    (honce : DrawnOnce w₀ ls ⟨shared, pool⟩) (hi : pool[i]? = some (c, .call e next))
    (hserves : Serves Timing.free shared e r shared')
    (hwrote : HasWritten (PoolSystem.trace i ls)) :
    ∃ order' passed' w' now', OrderedSo s w₀ (ls ++ [.exec i c e r])
      ⟨shared', pool.set i (c, next r)⟩ order' passed' w' now' := by
  have hwriting : Writing ls ⟨shared, pool⟩ i := ⟨hwrote, c, e, next, hi⟩
  rcases h.writing with ⟨-, hnone⟩ | ⟨j, d, e', next', hj, -, hothers, hleads⟩
  · exact absurd hwriting (hnone i)
  · obtain rfl : i = j := by
      by_contra hij
      exact hothers i hij hwriting
    obtain ⟨rfl, hcall⟩ := Prod.mk.inj (Option.some.inj (hi.symm.trans hj))
    rw [← hcall] at hleads
    refine h.write honce hi hserves (List.Subset.refl _) h.serial hleads h.same ?_ hothers
      (hasWritten_exec hwrote)
    intro id hid
    refine (h.drawn id hid).imp_right ?_
    rintro ⟨j, hj, hmem⟩
    exact ⟨j, .inr hj, hmem⟩

/-- A call writes for the first time.  All that it has done, it may do at that moment. -/
theorem OrderedSo.writesFirst {w now : GatewayState}
    (h : OrderedSo s w₀ ls ⟨shared, pool⟩ order passed w now)
    (hrun : (servedVideos s w₀).system.RunWhere C ls ⟨shared, pool⟩)
    (hi : pool[i]? = some (c, .call e next)) (hserves : Serves Timing.free shared e r shared')
    (hothers : ∀ j, j ≠ i → ¬Writing ls ⟨shared, pool⟩ j)
    (hcurrent : Current shared (PoolSystem.trace i ls))
    (hnot : ¬HasWritten (PoolSystem.trace i ls)) (hwrites : e.Writes) :
    ∃ order' passed' w' now', OrderedSo s w₀ (ls ++ [.exec i c e r])
      ⟨shared', pool.set i (c, next r)⟩ order' passed' w' now' := by
  have honce := DrawnOnce.of_run hrun
  obtain ⟨rfl, -⟩ := h.quiet hothers hnot
  have hcurrent' : Current { now with clock := shared.clock } (PoolSystem.trace i ls) := by
    intro k reply hmem
    rw [hcurrent k reply hmem, ← h.same.redis]
  have hfresh : ∀ id ∈ drawnIn (PoolSystem.trace i ls), id ∉ now.drawn := by
    intro id hid hold
    rcases h.drawn id hold with hold | ⟨j, hj, hmem⟩
    · exact (honce.drawn i id hid).2 hold
    · obtain rfl := honce.once i j id hid hmem
      exact hnot hj
  obtain ⟨u, hleads, hredis, hclock, hdrawn⟩ :=
    leads_of_along ((PoolSystem.along_of_run hrun).2 i c _ hi) (heard_of_run hrun i) hnot
      hcurrent' (honce.nodup i) hfresh
  refine h.write honce hi hserves (List.subset_append_left _ _)
    (.env h.serial (.tick h.same.clock)) hleads ⟨hredis.trans h.same.redis, hclock.le⟩ ?_
    hothers ?_
  · intro id hid
    rcases (hdrawn id).mp hid with hold | hmem
    · refine (h.drawn id hold).imp_right ?_
      rintro ⟨j, hj, hmem⟩
      exact ⟨j, .inr hj, hmem⟩
    · exact .inr ⟨i, .inl rfl, hmem⟩
  · rw [PoolSystem.trace_exec_self, hasWritten_append]
    exact .inr hwrites

/-- A call that has not written reads a key. -/
theorem OrderedSo.reads {w now : GatewayState}
    (h : OrderedSo s w₀ ls ⟨shared, pool⟩ order passed w now) {k : RedisKey}
    {reply : Except RedisError (Option k.Value)}
    {next : Except RedisError (Option k.Value) →
      GatewayProgram (Except VideoSessionError VideoSession)}
    (hi : pool[i]? = some (c, .call (.redis (.get k)) next))
    (hserves : Serves Timing.free shared (.redis (.get k)) reply shared')
    (hothers : ∀ j, j ≠ i → ¬Writing ls ⟨shared, pool⟩ j)
    (hnot : ¬HasWritten (PoolSystem.trace i ls)) :
    ∃ order' passed' w' now', OrderedSo s w₀ (ls ++ [.exec i c (.redis (.get k)) reply])
      ⟨shared', pool.set i (c, next reply)⟩ order' passed' w' now' := by
  obtain ⟨rfl, hnone⟩ := h.quiet hothers hnot
  obtain ⟨t, hpasses, rfl, rfl⟩ := serves_get_iff.mp hserves
  have htick : now.clock ≤ t := h.same.clock.trans hpasses
  have hread : Serves Timing.free { now with clock := t } (.redis (.get k))
      (.ok (shared.redis.get t k)) { now with clock := t } := by
    rw [← h.same.redis]
    exact serves_get_iff.mpr ⟨t, le_refl t, rfl, rfl⟩
  refine h.look hi (List.subset_append_left _ _) (.env h.serial (.tick htick))
    (show SameStore { now with clock := t } _ from ⟨h.same.redis, le_rfl⟩) rfl
    (.inl ⟨rfl, hnone⟩) ?_ ?_
  · rw [PoolSystem.trace_exec_self, hasWritten_append]
    exact not_or.mpr ⟨hnot, fun hwrites ↦ hwrites⟩
  · have hsucceeds : (Effect.redis (.get k)).Succeeds (.ok (shared.redis.get t k)) := ⟨_, rfl⟩
    rcases (h.pending i c _ hi hnot).next id hsucceeds with heq | hwill | ⟨hidle, -⟩
    · obtain ⟨k', first, hprogram, hmay⟩ := c.looksOnce_program s
      have hcall := hprogram.symm.trans heq
      cases hcall
      have hstart : Leads (Serves Timing.free) { now with clock := t } (c.program s)
          (.call (.redis (.get k)) next) { now with clock := t } := by
        rw [heq]
        exact .start
      exact .inr ⟨hmay _, _, List.mem_append_right _ (List.mem_singleton_self _),
        hstart.step hread⟩
    · exact .inl hwill
    · cases hidle

/-- A call that has not written does something elsewhere. -/
theorem OrderedSo.idles {w now : GatewayState}
    (h : OrderedSo s w₀ ls ⟨shared, pool⟩ order passed w now)
    (hi : pool[i]? = some (c, .call e next)) (hserves : Serves Timing.free shared e r shared')
    (helsewhere : ∀ cmd, e ≠ .redis cmd) (hnot : ¬HasWritten (PoolSystem.trace i ls)) :
    ∃ order' passed' w' now', OrderedSo s w₀ (ls ++ [.exec i c e r])
      ⟨shared', pool.set i (c, next r)⟩ order' passed' w' now' := by
  have hwrites : ¬e.Writes := by
    cases e with
    | redis cmd => exact absurd rfl (helsewhere cmd)
    | timeNow | newUUID | issueOperatorToken | recordAudit => exact id
  have hsucceeds : e.Succeeds r := by
    cases e with
    | redis cmd => exact absurd rfl (helsewhere cmd)
    | timeNow | newUUID | issueOperatorToken | recordAudit => trivial
  have hredis : shared'.redis = shared.redis := by
    cases hserves with
    | redis => exact absurd rfl (helsewhere _)
    | timeNow | newUUID | issueOperatorToken | recordAudit => rfl
  have hsame : SameStore now shared' :=
    ⟨h.same.redis.trans hredis.symm, h.same.clock.trans hserves.clock_le⟩
  refine h.look hi (List.Subset.refl _) h.serial hsame rfl (.inr ⟨rfl, rfl⟩) ?_ ?_
  · rw [PoolSystem.trace_exec_self, hasWritten_append]
    exact not_or.mpr ⟨hnot, hwrites⟩
  · rcases (h.pending i c _ hi hnot).next hwrites hsucceeds with
      heq | hwill | ⟨rfl, hmay, u, hu, hleads⟩
    · obtain ⟨k, first, hprogram, -⟩ := c.looksOnce_program s
      have hcall := hprogram.symm.trans heq
      cases hcall
      exact absurd rfl (helsewhere _)
    · exact .inl hwill
    · refine .inr ⟨hmay, u, hu, hleads.step ?_⟩
      obtain ⟨t, -, hreads, -⟩ := serves_timeNow_iff.mp hserves
      exact serves_timeNow_iff.mpr ⟨u.clock, le_refl u.clock, hreads, rfl⟩

theorem OrderedSo.exec {w now : GatewayState}
    (h : OrderedSo s w₀ ls ⟨shared, pool⟩ order passed w now)
    (hrun : (servedVideos s w₀).system.RunWhere C ls ⟨shared, pool⟩)
    (hcond : AtomicUpdates ls ⟨shared, pool⟩ (.exec i c e r))
    (hi : pool[i]? = some (c, .call e next)) (hserves : Serves Timing.free shared e r shared') :
    ∃ order' passed' w' now', OrderedSo s w₀ (ls ++ [.exec i c e r])
      ⟨shared', pool.set i (c, next r)⟩ order' passed' w' now' := by
  by_cases hwrote : HasWritten (PoolSystem.trace i ls)
  · exact h.goesOn (DrawnOnce.of_run hrun) hi hserves hwrote
  · cases e with
    | redis cmd =>
        by_cases hwrites : (Effect.redis cmd).Writes
        · exact h.writesFirst hrun hi hserves hcond.1 (hcond.2 hwrites hwrote) hwrote hwrites
        · cases cmd with
          | get k => exact h.reads hi hserves hcond.1 hwrote
          | set | del | acquireScript | renewScript | releaseScript =>
              exact absurd trivial hwrites
    | timeNow | newUUID | issueOperatorToken | recordAudit =>
        exact h.idles hi hserves (by simp) hwrote

/-- A new call has done nothing. -/
theorem OrderedSo.spawn {w now : GatewayState}
    (h : OrderedSo s w₀ ls ⟨shared, pool⟩ order passed w now)
    (hfresh : PoolSystem.trace pool.length ls = []) (c : VideoCall) :
    OrderedSo s w₀ (ls ++ [.spawn c]) ⟨shared, pool ++ [(c, c.program s)]⟩ order passed w now := by
  have hnew : ∀ {j : ℕ} {d : VideoCall}
      {p : GatewayProgram (Except VideoSessionError VideoSession)},
      (pool ++ [(c, c.program s)])[j]? = some (d, p) →
        pool[j]? = some (d, p) ∨ j = pool.length ∧ d = c ∧ p = c.program s := by
    intro j d p hj
    rcases lt_trichotomy j pool.length with hlt | rfl | hgt
    · rw [List.getElem?_append_left hlt] at hj
      exact .inl hj
    · rw [List.getElem?_concat_length] at hj
      obtain ⟨rfl, rfl⟩ := Prod.mk.inj (Option.some.inj hj)
      exact .inr ⟨rfl, rfl, rfl⟩
    · rw [List.getElem?_eq_none (by simpa using hgt.nat_succ_le)] at hj
      cases hj
  have hold : ∀ {j : ℕ} {x : VideoCall × GatewayProgram (Except VideoSessionError VideoSession)},
      pool[j]? = some x → (pool ++ [(c, c.program s)])[j]? = some x := by
    intro j x hj
    rw [List.getElem?_append_left (List.getElem?_eq_some_iff.mp hj).1]
    exact hj
  have hquiet : ∀ j, Writing (ls ++ [.spawn c]) ⟨shared, pool ++ [(c, c.program s)]⟩ j →
      Writing ls ⟨shared, pool⟩ j := by
    rintro j ⟨hwrote, d, e', next', hj⟩
    rw [PoolSystem.trace_spawn] at hwrote
    rcases hnew hj with hj | ⟨rfl, -⟩
    · exact ⟨hwrote, d, e', next', hj⟩
    · rw [hfresh] at hwrote
      simp [HasWritten] at hwrote
  obtain ⟨k, first, hprogram, -⟩ := c.looksOnce_program s
  refine ⟨h.serial, fun j d result ↦ ?_, h.once, h.same, by simpa using h.drawn, ?_,
    fun j d p hj hnot ↦ ?_⟩
  · rw [h.ended]
    refine ⟨hold, fun hj ↦ ?_⟩
    rcases hnew hj with hj | ⟨-, -, heq⟩
    · exact hj
    · cases heq.trans hprogram
  · rcases h.writing with ⟨rfl, hnone⟩ | ⟨j, d, e', next', hj, hwrote, hothers, hleads⟩
    · exact .inl ⟨rfl, fun j hj ↦ hnone j (hquiet j hj)⟩
    · exact .inr ⟨j, d, e', next', hold hj, by simpa using hwrote,
        fun k hk hk' ↦ hothers k hk (hquiet k hk'), hleads⟩
  · rw [PoolSystem.trace_spawn] at hnot
    rcases hnew hj with hj | ⟨-, rfl, rfl⟩
    · exact h.pending j d p hj hnot
    · exact .fresh rfl

omit [Cjson] in
theorem writing_env {t : ℤ} {j : ℕ} :
    Writing (ls ++ [.env t]) ⟨shared', pool⟩ j ↔ Writing ls ⟨shared, pool⟩ j := by
  simp [Writing]

theorem OrderedSo.env {w now : GatewayState} {t : ℤ}
    (h : OrderedSo s w₀ ls ⟨shared, pool⟩ order passed w now)
    (hmoved : ClockStep shared t shared') :
    OrderedSo s w₀ (ls ++ [.env t]) ⟨shared', pool⟩ order passed w now := by
  cases hmoved with
  | tick hle =>
      refine ⟨h.serial, h.ended, h.once, ⟨h.same.redis, h.same.clock.trans hle⟩,
        by simpa using h.drawn, ?_, by simpa using h.pending⟩
      rcases h.writing with ⟨rfl, hnone⟩ | ⟨j, d, e', next', hj, hwrote, hothers, hleads⟩
      · exact .inl ⟨rfl, fun j hj ↦ hnone j (writing_env.mp hj)⟩
      · exact .inr ⟨j, d, e', next', hj, by simpa using hwrote,
          fun k hk hk' ↦ hothers k hk (writing_env.mp hk'), hleads⟩

end Step

/-- In every run whose steps meet the condition, the calls that have ended have a serial order. -/
theorem OrderedSo.of_run (hrun : (servedVideos s w₀).system.RunWhere AtomicUpdates ls st) :
    ∃ order passed w now, OrderedSo s w₀ ls st order passed w now := by
  refine hrun.invariant (P := fun ls st ↦ ∃ order passed w now,
    OrderedSo s w₀ ls st order passed w now) ?_ ?_
  · rintro ⟨w, pool⟩ ⟨hinit, hpool⟩
    obtain rfl : w = w₀ := hinit
    obtain rfl : pool = [] := hpool
    refine ⟨[], [w], w, w, .start, by simp, by simp, ⟨rfl, le_rfl⟩, fun id hid ↦ .inl hid,
      .inl ⟨rfl, fun i hi ↦ ?_⟩, by simp⟩
    obtain ⟨-, c, e, next, hcall⟩ := hi
    simp at hcall
  · rintro ls st l st' hrun ⟨order, passed, w, now, h⟩ hcond hstep
    cases hstep with
    | spawn shared pool c =>
        exact ⟨_, _, _, _, h.spawn ((PoolSystem.along_of_run hrun).1 _ le_rfl) c⟩
    | env hmoved => exact ⟨_, _, _, _, h.env hmoved⟩
    | exec hi hserves => exact h.exec hrun hcond hi hserves

end Runs

/-- In every run in which whoever goes to Redis finds nobody else writing, and whoever writes for
the first time would read again all that it has read, no update of the video store is lost. -/
theorem updates_serializable [Cjson] {s : VideoSessionStore} {w₀ : GatewayState}
    {ls : List VideoLabel} {st : VideoPool}
    (hrun : (servedVideos s w₀).system.RunWhere AtomicUpdates ls st) : Serializable s w₀ st := by
  intro hall
  obtain ⟨order, passed, w, now, h⟩ := OrderedSo.of_run hrun
  have hnow : now = w := by
    rcases h.writing with ⟨heq, -⟩ | ⟨i, c, e, next, hi, -⟩
    · exact heq
    · obtain ⟨result, hresult⟩ := hall _ (List.mem_of_getElem? hi)
      cases hresult
  subst hnow
  refine ⟨order, _, _, .env h.serial (.tick h.same.clock), ?_, fun i c result hmem ↦
    (h.ended i c result).mp hmem, rfl, fun vehicleID ↦ ?_⟩
  · rw [List.perm_ext_iff_of_nodup h.once List.nodup_range]
    intro i
    rw [List.mem_range, List.mem_map]
    constructor
    · rintro ⟨⟨j, c, result⟩, hmem, rfl⟩
      exact (List.getElem?_eq_some_iff.mp ((h.ended _ _ _).mp hmem)).1
    · intro hlt
      obtain ⟨result, hresult⟩ := hall _ (List.getElem_mem hlt)
      refine ⟨(i, (st.pool[i]).1, result), (h.ended _ _ _).mpr ?_, rfl⟩
      rw [List.getElem?_eq_getElem hlt, ← hresult]
  · rw [GatewayState.recorded, GatewayState.recorded, ← h.same.redis]

/-! ## A look while a viewer joins -/

section Sample

/-- Answers every effect at once, as long as the clock is positive. -/
def servingPlayer [Cjson] (s : VideoSessionStore) (w₀ : GatewayState) :
    (servedVideos s w₀).Player Unit where
  exec w e _ := if 0 < w.clock then serveAtOnce ["v-1", "v-2"] w e else none
  pass w t := if w.clock ≤ t then some { w with clock := t } else none
  exec_sound {w e a r w'} h := by
    split_ifs at h with hpositive
    refine (serves_of_serveAtOnce h).mono ?_ ?_
    · exact fun t ht ↦ Timing.instant.forward ht
    · rintro t now rfl rfl
      exact hpositive
  pass_sound {w t w'} h := by
    split_ifs at h with hle
    obtain rfl := Option.some.inj h
    exact .tick hle

instance : DecidablePred Effect.Writes
  | .redis (.get _) => .isFalse id
  | .redis (.set ..) | .redis (.del _) | .redis (.acquireScript ..) | .redis (.renewScript ..)
  | .redis (.releaseScript ..) => .isTrue trivial
  | .timeNow | .newUUID | .issueOperatorToken .. | .recordAudit _ => .isFalse id

instance (tr : List GatewayEvent) : Decidable (HasWritten tr) :=
  inferInstanceAs (Decidable (∃ ev ∈ tr, ev.1.Writes))

instance (ls : List VideoLabel) (st : VideoPool) (i : ℕ) : Decidable (Writing ls st i) :=
  haveI : Decidable (∃ c e next, st.pool[i]? = some (c, .call e next)) :=
    match h : st.pool[i]? with
    | some (c, .call e next) => .isTrue ⟨c, e, next, rfl⟩
    | some (c, .pure a) => .isFalse fun ⟨_, _, _, hcall⟩ ↦ by cases hcall
    | none => .isFalse fun ⟨_, _, _, hcall⟩ ↦ by cases hcall
  inferInstanceAs (Decidable (_ ∧ _))

instance (k : RedisKey) : DecidableEq k.Value :=
  match k with
  | .controlLease _ => inferInstanceAs (DecidableEq ControlSessionJSON)
  | .controlSessionIndex _ | .videoViewer _ => inferInstanceAs (DecidableEq GoString)
  | .videoSession _ => inferInstanceAs (DecidableEq VideoSession)

/-- The event, if it is a read, would be the same again. -/
def ReadSo (w : GatewayState) : GatewayEvent → Bool
  | ⟨.redis (.get k), .ok found⟩ => decide (found = w.redis.get w.clock k)
  | ⟨.redis (.get _), .error _⟩ => false
  | _ => true

theorem current_of_all {w : GatewayState} {tr : List GatewayEvent} (h : tr.all (ReadSo w)) :
    Current w tr := by
  intro k reply hmem
  have hread := List.all_eq_true.mp h _ hmem
  cases reply with
  | ok found => exact congrArg Except.ok (of_decide_eq_true hread)
  | error error => cases hread

/-- Whether a step is fit for `AtomicUpdates`. -/
def fits (ls : List VideoLabel) (st : VideoPool) : VideoLabel → Bool
  | .exec i _ (.redis cmd) _ =>
      (List.range st.pool.length).all (fun j ↦ j = i ∨ ¬Writing ls st j) &&
        ((Effect.redis cmd).Writes → ¬HasWritten (PoolSystem.trace i ls) →
          (PoolSystem.trace i ls).all (ReadSo st.shared))
  | _ => true

theorem atomicUpdates_of_fits {ls : List VideoLabel} {st : VideoPool} {l : VideoLabel}
    (h : fits ls st l) : AtomicUpdates ls st l := by
  cases l with
  | spawn | env => trivial
  | exec i c e r =>
      cases e with
      | timeNow | newUUID | issueOperatorToken | recordAudit => trivial
      | redis cmd =>
          obtain ⟨hothers, hcurrent⟩ := Bool.and_eq_true_iff.mp h
          refine ⟨fun j hij hj ↦ ?_, fun hwrites hnot ↦ ?_⟩
          · obtain ⟨-, d, e, next, hcall⟩ := id hj
            have hlt := (List.getElem?_eq_some_iff.mp hcall).1
            have hquiet := List.all_eq_true.mp hothers j (List.mem_range.mpr hlt)
            rcases of_decide_eq_true hquiet with heq | hquiet
            · exact hij heq
            · exact hquiet hj
          · exact current_of_all (of_decide_eq_true hcurrent hwrites hnot)

/-- Somebody looks, and a viewer joins before the look is over. -/
def joinedWhileLooking : List (Turn VideoCall ℤ Unit) :=
  [.start (.acquireViewer watched), .start (.get watched), .next 1 ()] ++
    List.replicate 6 (.next 0 ()) ++ [.next 1 ()]

/-- The look and the joining have a serial order. -/
theorem joined_while_looking_serializable :
    let := Cjson.fourteenDigits
    let w₀ : GatewayState := ⟨1, Store.empty, []⟩
    ∃ ls st, (servedVideos ⟨45000⟩ w₀).system.RunWhere AtomicUpdates ls st ∧
      (∀ t ∈ st.pool, ∃ result, t.2 = .pure result) ∧
        st.shared.recorded watched = some (.active, 1, []) ∧ Serializable ⟨45000⟩ w₀ st := by
  let := Cjson.fourteenDigits
  let w₀ : GatewayState := ⟨1, Store.empty, []⟩
  let P := servingPlayer ⟨45000⟩ w₀
  obtain ⟨ls, st, hplay, hstored, hended⟩ : ∃ ls st,
      P.play [] ⟨w₀, []⟩ joinedWhileLooking = some (ls, st) ∧
        st.shared.recorded watched = some (.active, 1, []) ∧
          ∃ a b, st.pool.map Prod.snd = [.pure a, .pure b] := ⟨_, _, rfl, rfl, _, _, rfl⟩
  have hpasses : P.passes fits [] ⟨w₀, []⟩ joinedWhileLooking := by decide +kernel
  have hinit : (servedVideos ⟨45000⟩ w₀).system.RunWhere AtomicUpdates [] ⟨w₀, []⟩ :=
    .init ⟨rfl, rfl⟩
  have hrun := P.run_of_play hinit hplay
    (P.keeps_of_passes (fun _ _ _ ↦ atomicUpdates_of_fits) _ _ hpasses)
  refine ⟨ls, st, hrun, fun t ht ↦ ?_, hstored, updates_serializable hrun⟩
  obtain ⟨a, b, hpool⟩ := hended
  have hmem : t.2 ∈ st.pool.map Prod.snd := List.mem_map_of_mem ht
  rw [hpool] at hmem
  rcases List.mem_pair.mp hmem with heq | heq
  · exact ⟨a, heq⟩
  · exact ⟨b, heq⟩

/-- Viewers who joined one after the other are counted, as far as the record is there. -/
structure CountedUntil (order : List ServedVideo) (w : GatewayState) : Prop where
  started : 1 ≤ w.clock
  counted : order = [] ∧ w.redis = Store.empty ∨
    ∃ record deadline, w.redis (.videoSession watched) = some ⟨record, deadline⟩ ∧
      1 ≤ deadline ∧ record.vehicleID = watched ∧ record.viewerCount = order.length

theorem CountedUntil.looks [Cjson] {order : List ServedVideo} {w w₁ : GatewayState}
    {session : VideoSession} (h : CountedUntil order w)
    (hlooks : Looks Timing.free watched w session w₁) (hclock : w₁.clock ≤ 1) :
    session.vehicleID = watched ∧ session.viewerCount = order.length := by
  have hread : ∀ {t : ℤ} {record : VideoSession},
      w.redis.get t (.videoSession watched) = some record →
        record.vehicleID = watched ∧ record.viewerCount = order.length := by
    intro t record hget
    obtain ⟨e, hlive, rfl⟩ := Store.get_eq_some_iff.mp hget
    have hstored := (Store.live_eq_some_iff.mp hlive).1
    rcases h.counted with ⟨-, hempty⟩ | ⟨record, deadline, hrecord, -, hvehicle, hcount⟩
    · rw [hempty] at hstored
      cases hstored
    · obtain rfl := Option.some.inj (hstored.symm.trans hrecord)
      exact ⟨hvehicle, hcount⟩
  cases hlooks with
  | missing hpasses hreads hnone =>
      obtain ⟨c, -, hct, hget⟩ := hnone
      refine ⟨rfl, ?_⟩
      rcases h.counted with ⟨rfl, -⟩ | ⟨record, deadline, hrecord, hlate, -⟩
      · rfl
      · have hdeadline := Store.live_eq_none_iff.mp (Store.get_eq_none_iff.mp hget) _ hrecord
        dsimp only at hdeadline hclock
        omega
  | steady _ hget _ => exact hread hget
  | waiting _ _ _ hget _ _ => exact hread hget
  | settled _ _ _ _ hget _ _ =>
      obtain ⟨hvehicle, hcount⟩ := hread hget
      exact ⟨hvehicle, hcount⟩

theorem counted_of_serial [Cjson] {s : VideoSessionStore} {order : List ServedVideo}
    {passed : List GatewayState} {w : GatewayState}
    (h : (servedVideos s ⟨1, Store.empty, []⟩).Serial ⟨1, Store.empty, []⟩ order passed w)
    (hcalls : ∀ t ∈ order, t.2.1 = .acquireViewer watched) (hclock : w.clock ≤ 1) :
    CountedUntil order w := by
  induction h with
  | start => exact ⟨le_rfl, .inl ⟨rfl, rfl⟩⟩
  | env h hmoved ih =>
      cases hmoved with
      | tick hle =>
          have hbefore := ih hcalls (hle.trans hclock)
          exact ⟨hbefore.started.trans hle, hbefore.counted⟩
  | @call order passed w w' i c result h hserved ih =>
      obtain rfl : c = .acquireViewer watched :=
        hcalls (i, c, result) (List.mem_append_right _ (List.mem_singleton_self _))
      obtain ⟨old, w₁, session, expiresAtMS, t, hlooks, -, hpasses, hpasses', hvehicle, hcount,
        -, -, hredis⟩ := VideoSessionStore.completes_acquireViewer hserved
      have hw₁ : w.clock ≤ w₁.clock := hlooks.passes
      have ht : w₁.clock ≤ t := hpasses
      have hw' : t ≤ w'.clock := hpasses'
      have hbefore := ih (fun t ht ↦ hcalls t (List.mem_append_left _ ht)) (by omega)
      obtain ⟨hold, hcounted⟩ := hbefore.looks hlooks (by omega)
      rw [hold] at hvehicle
      have hstarted := hbefore.started
      refine ⟨by omega, .inr ⟨({ session with expiresAtMS := expiresAtMS } : VideoSession).marshal,
        t + videoSessionTTL, ?_, ?_, ?_, ?_⟩⟩
      · rw [hredis, Store.set_apply_of_ne _ (by simp)]
        rw [← hvehicle]
        exact Store.set_apply_self w₁.redis _ _ _
      · have hday : 0 < videoSessionTTL := by decide
        omega
      · simp only [VideoSession.marshal, hvehicle]
        decide
      · simp [VideoSession.marshal, hcount, hcounted]

/-- Two viewers read the record before either writes it. -/
def joinedTogether : List (Turn VideoCall ℤ Unit) :=
  [.start (.acquireViewer watched), .start (.acquireViewer watched), .next 0 (), .next 1 ()] ++
    List.replicate 5 (.next 0 ()) ++ List.replicate 5 (.next 1 ())

/-- One of them is lost. -/
theorem joined_together_loses_viewer :
    let := Cjson.fourteenDigits
    let w₀ : GatewayState := ⟨1, Store.empty, []⟩
    ∃ ls st, (servedVideos ⟨45000⟩ w₀).system.Run ls st ∧
      st.shared.recorded watched = some (.active, 1, []) ∧ ¬Serializable ⟨45000⟩ w₀ st := by
  let := Cjson.fourteenDigits
  let w₀ : GatewayState := ⟨1, Store.empty, []⟩
  let P := servingPlayer ⟨45000⟩ w₀
  obtain ⟨ls, st, hplay, hclock, hstored, hcalls, hended⟩ : ∃ ls st,
      P.play [] ⟨w₀, []⟩ joinedTogether = some (ls, st) ∧ st.shared.clock = 1 ∧
        st.shared.recorded watched = some (.active, 1, []) ∧
          st.pool.map Prod.fst = [.acquireViewer watched, .acquireViewer watched] ∧
            ∃ a b, st.pool.map Prod.snd = [.pure a, .pure b] :=
    ⟨_, _, rfl, rfl, rfl, rfl, _, _, rfl⟩
  have hinit : (servedVideos ⟨45000⟩ w₀).system.Run [] ⟨w₀, []⟩ := .init ⟨rfl, rfl⟩
  have hrun := P.run_of_play hinit hplay (P.keeps_of_forall (fun _ _ _ ↦ trivial) _ _ _)
  refine ⟨ls, st, hrun, hstored, fun hserializable ↦ ?_⟩
  have hall : ∀ t ∈ st.pool, ∃ result, t.2 = .pure result := by
    intro t ht
    obtain ⟨a, b, hpool⟩ := hended
    have hmem : t.2 ∈ st.pool.map Prod.snd := List.mem_map_of_mem ht
    rw [hpool] at hmem
    rcases List.mem_pair.mp hmem with heq | heq
    · exact ⟨a, heq⟩
    · exact ⟨b, heq⟩
  obtain ⟨order, passed, w, hserial, hperm, hsame, hfinal, hrecorded⟩ := hserializable hall
  have hlength : order.length = 2 := by
    have hpool := congrArg List.length hcalls
    have horder := hperm.length_eq
    rw [List.length_map] at hpool horder
    rw [List.length_range] at horder
    exact horder.trans hpool
  have hcounted : CountedUntil order w := by
    refine counted_of_serial hserial (fun t ht ↦ ?_) (hfinal.trans hclock).le
    have hmem := List.mem_of_getElem? (hsame t.1 t.2.1 t.2.2 ht)
    have hcall : t.2.1 ∈ st.pool.map Prod.fst := List.mem_map_of_mem hmem
    rw [hcalls] at hcall
    simpa using hcall
  rcases hcounted.counted with ⟨rfl, -⟩ | ⟨record, deadline, hrecord, hlate, -, hcount⟩
  · cases hlength
  · have hlive : w.redis.get w.clock (.videoSession watched) = some record := by
      rw [Store.get_eq_some_iff]
      exact ⟨_, Store.live_eq_some_iff.mpr ⟨hrecord, by rw [hfinal, hclock]; exact hlate⟩, rfl⟩
    have hfound := (hrecorded watched).trans hstored
    rw [GatewayState.recorded, hlive] at hfound
    rw [hlength] at hcount
    have hone : record.viewerCount = 1 :=
      congrArg (fun found : VideoMode × ℤ × GoString ↦ found.2.1) (Option.some.inj hfound)
    rw [hone] at hcount
    cases hcount

end Sample

end RemoteInfra.Gateway
