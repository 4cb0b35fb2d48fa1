import RemoteInfra.Library.Adjacent
import RemoteInfra.Vehicle.Uploads
import RemoteInfra.Vehicle.VerifierRuns

/-!
# The packet loss that telemetry reports

The runtime counts the sequences that are missing between one accepted packet and the next.
It keeps its last sequence when the session changes, while the sequences start over, so a
session that starts beyond where the one before it ended is charged with the distance.  And it
forgets what it has counted before it posts it, so a post that fails takes its count with it.
-/

namespace RemoteInfra.Vehicle

open RemoteInfra.Library RemoteInfra.Python

/-- Packets are listed by session and sequence. -/
structure LossHistory where
  /-- every packet accepted so far -/
  accepted : List (PyValue × ℤ)
  /-- those accepted since the loop last took the count, after the last one before them -/
  fresh : List (PyValue × ℤ)
  /-- those that the last upload covers -/
  uploading : List (PyValue × ℤ)
  /-- the sum of the loss counts that the gateway has accepted -/
  reported : ℤ
  /-- what each failed upload covered -/
  failed : List (List (PyValue × ℤ))

namespace LossHistory

def new : LossHistory := ⟨[], [], [], 0, []⟩

def record (m : LossHistory) : TelemetryEvent → LossHistory
  | .accepted sessionID sequence _ =>
      { m with
        accepted := m.accepted ++ [(sessionID, sequence)]
        fresh := m.fresh ++ [(sessionID, sequence)] }
  | .taken _ _ => { m with fresh := m.fresh.getLast?.toList, uploading := m.fresh }
  | .uploaded _ lostCount true => { m with reported := m.reported + lostCount }
  | .uploaded _ _ false => { m with failed := m.failed ++ [m.uploading] }

end LossHistory

def lossHistory (events : List TelemetryEvent) : LossHistory :=
  events.foldl LossHistory.record .new

theorem lossHistory_append (events : List TelemetryEvent) (e : TelemetryEvent) :
    lossHistory (events ++ [e]) = (lossHistory events).record e :=
  List.foldl_concat _ _ _ _

/-- What was reported and what is still held make up, session by session, the sequences
missing between consecutive packets of that session. -/
def LossExact (t : Telemetry) (m : LossHistory) : Prop :=
  m.reported + t.held =
    ∑ sessionID ∈ (m.accepted.map Prod.fst).toFinset,
      sumAdjacent (fun a b ↦ b.2 - a.2 - 1) (m.accepted.filter fun a ↦ a.1 = sessionID)

/-! ## What is missing -/

theorem missing_nonneg (last sequence : ℤ) : 0 ≤ missing last sequence := le_max_left _ _

theorem missing_eq_zero_iff {last sequence : ℤ} :
    missing last sequence = 0 ↔ sequence ≤ last + 1 := by
  unfold missing
  omega

theorem missing_of_lt {last sequence : ℤ} (h : last < sequence) :
    missing last sequence = sequence - last - 1 := by
  unfold missing
  omega

/-- Everything that is missing between neighbours, whatever their sessions. -/
def skipped (packets : List (PyValue × ℤ)) : ℤ :=
  sumAdjacent (fun a b ↦ missing a.2 b.2) packets

theorem skipped_nonneg (packets : List (PyValue × ℤ)) : 0 ≤ skipped packets :=
  sumAdjacent_nonneg (fun _ _ ↦ missing_nonneg _ _) packets

theorem skipped_eq_zero_iff {packets : List (PyValue × ℤ)} :
    skipped packets = 0 ↔ packets.IsChain fun a b ↦ b.2 ≤ a.2 + 1 := by
  rw [skipped, sumAdjacent_eq_zero_iff fun _ _ ↦ missing_nonneg _ _]
  simp only [missing_eq_zero_iff]

theorem skipped_concat (packets : List (PyValue × ℤ)) (b : PyValue × ℤ) :
    skipped (packets ++ [b]) =
      skipped packets + ((packets.getLast?.map Prod.snd).map (missing · b.2)).getD 0 := by
  rw [skipped, sumAdjacent_concat, skipped, Option.map_map]
  rfl

namespace LossHistory

variable {m : LossHistory} {e : TelemetryEvent}

/-- What a new session's first packet skips after the old one's last. -/
def crossed (m : LossHistory) : ℤ :=
  sumAdjacent (fun a b ↦ if a.1 = b.1 then 0 else missing a.2 b.2) m.accepted

/-- What went with uploads that failed. -/
def forgotten (m : LossHistory) : ℤ := (m.failed.map skipped).sum

theorem crossed_nonneg (m : LossHistory) : 0 ≤ m.crossed := by
  refine sumAdjacent_nonneg (fun a b ↦ ?_) _
  split_ifs
  · exact le_rfl
  · exact missing_nonneg _ _

theorem crossed_eq_zero_iff :
    m.crossed = 0 ↔ m.accepted.IsChain fun a b ↦ a.1 ≠ b.1 → b.2 ≤ a.2 + 1 := by
  rw [crossed, sumAdjacent_eq_zero_iff]
  · have hsame : ∀ a b : PyValue × ℤ, (if a.1 = b.1 then 0 else missing a.2 b.2) = 0 ↔
        (a.1 ≠ b.1 → b.2 ≤ a.2 + 1) := by
      intro a b
      split_ifs with hsession
      · exact iff_of_true rfl fun hne ↦ absurd hsession hne
      · rw [missing_eq_zero_iff]
        exact ⟨fun hle _ ↦ hle, fun himp ↦ himp hsession⟩
    simp only [hsame]
  · intro a b
    split_ifs
    · exact le_rfl
    · exact missing_nonneg _ _

theorem forgotten_nonneg (m : LossHistory) : 0 ≤ m.forgotten := by
  refine List.sum_nonneg fun x hx ↦ ?_
  obtain ⟨covered, -, rfl⟩ := List.mem_map.mp hx
  exact skipped_nonneg covered

theorem forgotten_eq_zero_iff :
    m.forgotten = 0 ↔ ∀ covered ∈ m.failed, covered.IsChain fun a b ↦ b.2 ≤ a.2 + 1 := by
  simp only [← skipped_eq_zero_iff, forgotten]
  induction m.failed with
  | nil => simp
  | cons covered failed ih =>
      have hnonneg : 0 ≤ (failed.map skipped).sum := by
        refine List.sum_nonneg fun x hx ↦ ?_
        obtain ⟨other, -, rfl⟩ := List.mem_map.mp hx
        exact skipped_nonneg other
      rw [List.map_cons, List.sum_cons, List.forall_mem_cons, ← ih]
      exact add_eq_zero_iff_of_nonneg (skipped_nonneg covered) hnonneg

/-- An event adds to what sessions cross or to what uploads forget, and not to both. -/
theorem record_cases (m : LossHistory) (e : TelemetryEvent) :
    (m.crossed ≤ (m.record e).crossed ∧ (m.record e).forgotten = m.forgotten) ∨
      ((m.record e).crossed = m.crossed ∧ m.forgotten ≤ (m.record e).forgotten) := by
  match e with
  | .accepted sessionID sequence _ =>
      refine .inl ⟨?_, rfl⟩
      simp only [record, crossed, sumAdjacent_concat]
      refine le_add_of_nonneg_right ?_
      cases m.accepted.getLast? with
      | none => exact le_rfl
      | some last =>
          simp only [Option.map_some, Option.getD_some]
          split_ifs
          · exact le_rfl
          · exact missing_nonneg _ _
  | .taken _ _ => exact .inl ⟨le_rfl, rfl⟩
  | .uploaded _ _ true => exact .inl ⟨le_rfl, rfl⟩
  | .uploaded _ _ false =>
      refine .inr ⟨rfl, ?_⟩
      simp only [record, forgotten, List.map_append, List.sum_append, List.map_singleton,
        List.sum_singleton]
      exact le_add_of_nonneg_right (skipped_nonneg _)

/-- Packets are only ever added. -/
theorem accepted_record (m : LossHistory) (e : TelemetryEvent) :
    ∃ new, (m.record e).accepted = m.accepted ++ new := by
  match e with
  | .accepted _ _ _ => exact ⟨_, rfl⟩
  | .taken _ _ => exact ⟨[], (List.append_nil _).symm⟩
  | .uploaded _ _ true => exact ⟨[], (List.append_nil _).symm⟩
  | .uploaded _ _ false => exact ⟨[], (List.append_nil _).symm⟩

end LossHistory

/-! ## The count -/

/-- The runtime remembers the last sequence of all.  What it holds, what an upload carries and
what was reported or forgotten is the count over all neighbours, whatever their sessions. -/
structure LossCounted (t : Telemetry) (m : LossHistory) : Prop where
  lastSequence_eq : t.lastSequence = m.accepted.getLast?.map Prod.snd
  fresh_last : m.fresh.getLast? = m.accepted.getLast?
  lostCount_eq : t.lostCount = skipped m.fresh
  uploading_eq : ∀ report, t.uploading = some report → report.2 = skipped m.uploading
  counted : m.reported + t.held + m.forgotten = skipped m.accepted

theorem LossCounted.step {t t' : Telemetry} {m : LossHistory} {e : TelemetryEvent}
    (h : LossCounted t m) (hstep : Telemetry.Step t (some e) t') :
    LossCounted t' (m.record e) := by
  have hcounted := h.counted
  simp only [Telemetry.held] at hcounted
  cases hstep with
  | accepted =>
      refine ⟨?_, ?_, ?_, h.uploading_eq, ?_⟩
      · simp [LossHistory.record]
      · simp [LossHistory.record]
      · simp only [LossHistory.record, skipped_concat, h.lostCount_eq, h.fresh_last,
          h.lastSequence_eq]
      · simp only [LossHistory.record, LossHistory.forgotten, Telemetry.held, skipped_concat,
          h.lastSequence_eq] at hcounted ⊢
        omega
  | taken hidle _ =>
      refine ⟨h.lastSequence_eq, ?_, ?_, ?_, ?_⟩
      · simp only [LossHistory.record, ← h.fresh_last]
        cases m.fresh.getLast? <;> rfl
      · simp only [LossHistory.record]
        cases m.fresh.getLast? <;> rfl
      · rintro report hreport
        obtain rfl := Option.some.inj hreport
        exact h.lostCount_eq
      · simp only [LossHistory.record, LossHistory.forgotten, Telemetry.held, hidle,
          Option.map_none, Option.map_some, Option.getD_none, Option.getD_some] at hcounted ⊢
        omega
  | @uploaded latencies lostCount delivered hupload =>
      have hcarried := h.uploading_eq _ hupload
      simp only [hupload, Option.map_some, Option.getD_some] at hcounted
      cases delivered with
      | true =>
          refine ⟨h.lastSequence_eq, h.fresh_last, h.lostCount_eq, by simp, ?_⟩
          simp only [LossHistory.record, LossHistory.forgotten, Telemetry.held, Option.map_none,
            Option.getD_none] at hcounted ⊢
          omega
      | false =>
          refine ⟨h.lastSequence_eq, h.fresh_last, h.lostCount_eq, by simp, ?_⟩
          simp only [LossHistory.record, LossHistory.forgotten, Telemetry.held, Option.map_none,
            Option.getD_none, List.map_append, List.sum_append, List.map_singleton,
            List.sum_singleton, ← hcarried] at hcounted ⊢
          omega

theorem LossCounted.of_run [PythonPlatform] [Ed25519] {ls : List AgentLabel} {st : AgentState}
    {events : List TelemetryEvent} (hrun : telemetrySystem.Run ls (st, events)) :
    LossCounted st.telemetryHeld (lossHistory events) := by
  refine telemetry_invariant (P := fun t events ↦ LossCounted t (lossHistory events)) ?_ ?_ hrun
  · exact ⟨rfl, rfl, rfl, fun _ h ↦ (by cases h), rfl⟩
  · intro t events e t' h hstep
    rw [lossHistory_append]
    exact h.step hstep

/-- Within a session of increasing sequences the count is exact, and every change of session
adds what the new session's first sequence skips after the old one's last. -/
theorem skipped_eq {accepted : List (PyValue × ℤ)} (hsuccessive : Contiguous Prod.fst accepted)
    (hincreasing : accepted.Pairwise fun a b ↦ a.1 = b.1 → a.2 < b.2) :
    skipped accepted =
      ∑ sessionID ∈ (accepted.map Prod.fst).toFinset,
          sumAdjacent (fun a b ↦ b.2 - a.2 - 1) (accepted.filter fun a ↦ a.1 = sessionID) +
        sumAdjacent (fun a b ↦ if a.1 = b.1 then 0 else missing a.2 b.2) accepted := by
  rw [skipped, sum_sumAdjacent_filter hsuccessive, ← sumAdjacent_add]
  apply sumAdjacent_congr
  apply hincreasing.isChain.imp
  intro a b hlt
  split_ifs with hsame
  · rw [missing_of_lt (hlt hsame), add_zero]
  · rw [zero_add]

/-- The count is exact when as much was forgotten as sessions crossed. -/
theorem LossCounted.exact_iff {t : Telemetry} {m : LossHistory} (h : LossCounted t m)
    (hsuccessive : Contiguous Prod.fst m.accepted)
    (hincreasing : m.accepted.Pairwise fun a b ↦ a.1 = b.1 → a.2 < b.2) :
    LossExact t m ↔ m.crossed = m.forgotten := by
  have hcounted := h.counted
  rw [skipped_eq hsuccessive hincreasing] at hcounted
  simp only [LossExact, LossHistory.crossed]
  omega

/-! ## Runs -/

/-- Asked of every step: the count is exact in the state that it leaves. -/
def ExactBefore :
    TransitionSystem.StepCondition (AgentState × List TelemetryEvent) AgentLabel :=
  fun _ p _ ↦ LossExact p.1.telemetryHeld (lossHistory p.2)

/-- What an event makes of the history, and so what no event makes of it. -/
theorem lossHistory_toList (events : List TelemetryEvent) (e : Option TelemetryEvent) :
    lossHistory (events ++ e.toList) = lossHistory events ∨
      ∃ e', lossHistory (events ++ e.toList) = (lossHistory events).record e' := by
  cases e with
  | none => exact .inl (congrArg lossHistory (List.append_nil events))
  | some e => exact .inr ⟨e, lossHistory_append events e⟩

/-- What one step leaves of successive sessions, of crossings and of failed uploads. -/
theorem lossHistory_grows (events : List TelemetryEvent) (e : Option TelemetryEvent) :
    (∃ new, (lossHistory (events ++ e.toList)).accepted = (lossHistory events).accepted ++ new) ∧
      (((lossHistory events).crossed ≤ (lossHistory (events ++ e.toList)).crossed ∧
          (lossHistory (events ++ e.toList)).forgotten = (lossHistory events).forgotten) ∨
        ((lossHistory (events ++ e.toList)).crossed = (lossHistory events).crossed ∧
          (lossHistory events).forgotten ≤ (lossHistory (events ++ e.toList)).forgotten)) := by
  obtain hsame | ⟨e', hrecord⟩ := lossHistory_toList events e
  · rw [hsame]
    exact ⟨⟨[], (List.append_nil _).symm⟩, .inl ⟨le_rfl, rfl⟩⟩
  · rw [hrecord]
    exact ⟨LossHistory.accepted_record _ e', LossHistory.record_cases _ e'⟩

section Runs

variable [PythonPlatform] [Ed25519] {ls : List AgentLabel} {st : AgentState}
  {events : List TelemetryEvent}

theorem nothing_crossed_or_forgotten (hexact : LossExact st.telemetryHeld (lossHistory events))
    (hsuccessive : Contiguous Prod.fst (lossHistory events).accepted)
    (hincreasing : (lossHistory events).accepted.Pairwise fun a b ↦ a.1 = b.1 → a.2 < b.2)
    (hrun : telemetrySystem.RunWhere ExactBefore ls (st, events)) :
    (lossHistory events).crossed = 0 ∧ (lossHistory events).forgotten = 0 := by
  generalize hp : (st, events) = p at hrun
  induction hrun generalizing st events with
  | @init p hinit =>
      obtain rfl : events = [] := (congrArg Prod.snd hp).trans hinit.2
      exact ⟨rfl, rfl⟩
  | @step ls p p' l hrun hcond hstep ih =>
      obtain ⟨before, earlier⟩ := p
      obtain rfl : events = earlier ++ (before.telemetryEvent l).toList :=
        (congrArg Prod.snd hp).trans hstep.2
      have hcounted : LossCounted st.telemetryHeld _ :=
        LossCounted.of_run (hp ▸ hrun.toRun.step trivial hstep)
      have hequal := (hcounted.exact_iff hsuccessive hincreasing).mp hexact
      obtain ⟨⟨new, hnew⟩, hgrows⟩ := lossHistory_grows earlier (before.telemetryEvent l)
      rw [hnew] at hsuccessive hincreasing
      obtain ⟨hcrossed, hforgotten⟩ :=
        ih hcond hsuccessive.of_append (List.pairwise_append.mp hincreasing).1 rfl
      rcases hgrows with ⟨-, hsame⟩ | ⟨hsame, -⟩
      · rw [hsame, hforgotten] at hequal
        exact ⟨hequal, hsame.trans hforgotten⟩
      · rw [hsame, hcrossed] at hequal
        exact ⟨hsame.trans hcrossed, hequal.symm⟩

theorem exact_of_nothing_lost (hcrossed : (lossHistory events).crossed = 0)
    (hforgotten : (lossHistory events).forgotten = 0)
    (hsuccessive : Contiguous Prod.fst (lossHistory events).accepted)
    (hincreasing : (lossHistory events).accepted.Pairwise fun a b ↦ a.1 = b.1 → a.2 < b.2)
    (hrun : telemetrySystem.Run ls (st, events)) :
    telemetrySystem.RunWhere ExactBefore ls (st, events) ∧
      LossExact st.telemetryHeld (lossHistory events) := by
  refine ⟨?_, ((LossCounted.of_run hrun).exact_iff hsuccessive hincreasing).mpr
    (hcrossed.trans hforgotten.symm)⟩
  generalize hp : (st, events) = p at hrun
  induction hrun generalizing st events with
  | init hinit =>
      obtain rfl := hp
      exact .init hinit
  | @step ls p p' l hrun _ hstep ih =>
      obtain ⟨before, earlier⟩ := p
      obtain rfl : events = earlier ++ (before.telemetryEvent l).toList :=
        (congrArg Prod.snd hp).trans hstep.2
      obtain ⟨⟨new, hnew⟩, hgrows⟩ := lossHistory_grows earlier (before.telemetryEvent l)
      rw [hnew] at hsuccessive hincreasing
      have hcrossed_nonneg := (lossHistory earlier).crossed_nonneg
      have hforgotten_nonneg := (lossHistory earlier).forgotten_nonneg
      have hbefore : (lossHistory earlier).crossed = 0 ∧ (lossHistory earlier).forgotten = 0 := by
        rcases hgrows with ⟨hle, hsame⟩ | ⟨hsame, hle⟩ <;> constructor <;> omega
      have hincreasing := (List.pairwise_append.mp hincreasing).1
      have hexact := ((LossCounted.of_run hrun).exact_iff hsuccessive.of_append hincreasing).mpr
        (hbefore.1.trans hbefore.2.symm)
      subst hp
      exact .step (ih hbefore.1 hbefore.2 hsuccessive.of_append hincreasing rfl) hexact hstep

end Runs

/-- The loss reported over successive sessions is exact throughout a run if and only if no session
starts beyond the sequence that follows the last one of the session before it, and an upload
fails only when no packet that it covers skipped a sequence. -/
theorem lost_count_exact_iff [PythonPlatform] [Ed25519] {ls : List AgentLabel} {st : AgentState}
    {events : List TelemetryEvent} (hrun : telemetrySystem.Run ls (st, events))
    (hsuccessive : Contiguous Prod.fst (lossHistory events).accepted)
    (hincreasing : (lossHistory events).accepted.Pairwise fun a b ↦ a.1 = b.1 → a.2 < b.2) :
    (telemetrySystem.RunWhere ExactBefore ls (st, events) ∧
        LossExact st.telemetryHeld (lossHistory events)) ↔
      ((lossHistory events).accepted.IsChain fun a b ↦ a.1 ≠ b.1 → b.2 ≤ a.2 + 1) ∧
        ∀ covered ∈ (lossHistory events).failed, covered.IsChain fun a b ↦ b.2 ≤ a.2 + 1 := by
  rw [← LossHistory.crossed_eq_zero_iff, ← LossHistory.forgotten_eq_zero_iff]
  constructor
  · rintro ⟨hwhere, hexact⟩
    exact nothing_crossed_or_forgotten hexact hsuccessive hincreasing hwhere
  · rintro ⟨hcrossed, hforgotten⟩
    exact exact_of_nothing_lost hcrossed hforgotten hsuccessive hincreasing hrun

/-! ## Two sessions -/

section TwoSessions

def nextID : PyValue := nextSession.sessionID

/-- Sequences 1 and 4 of the first session are accepted, the latter after a replay, and the second
session starts at 3.  The report on the first two arrives. -/
def exactEvents : List TelemetryEvent :=
  [.accepted replayID 1 50, .accepted replayID 4 30, .taken [30, 50] 2,
    .uploaded [30, 50] 2 true, .accepted nextID 3 10]

/-- The second session starts at 9. -/
def crossingEvents : List TelemetryEvent := [.accepted replayID 1 50, .accepted nextID 9 50]

/-- The report does not arrive. -/
def forgettingEvents : List TelemetryEvent :=
  [.accepted replayID 1 50, .accepted replayID 4 30, .taken [30, 50] 2,
    .uploaded [30, 50] 2 false]

theorem driven_first :
    @Driven PythonPlatform.ascii Ed25519.driving { drivingVerifier with lastSequence := 1 }
      ⟨[50], 0, some 1, none⟩ [.accepted replayID 1 50] := by
  let := PythonPlatform.ascii
  let := Ed25519.driving
  have hloaded := (driven_start newVerifier).load loadSession_drivingPayloads.1
  exact hloaded.accept rfl rfl examine_drivingMessages.1 1000 (by decide +kernel) (by decide +kernel)

theorem driven_fourth :
    @Driven PythonPlatform.ascii Ed25519.driving { drivingVerifier with lastSequence := 4 }
      ⟨[50, 30], 2, some 4, none⟩ [.accepted replayID 1 50, .accepted replayID 4 30] := by
  let := PythonPlatform.ascii
  let := Ed25519.driving
  exact driven_first.accept rfl rfl examine_drivingMessages.2.2.1 1020 (by decide +kernel) (by decide +kernel)

theorem mergeSort_latencies : [(50 : ℤ), 30].mergeSort = [30, 50] := by simp [List.mergeSort]

theorem driven_exact :
    @Driven PythonPlatform.ascii Ed25519.driving { nextVerifier with lastSequence := 3 }
      ⟨[10], 0, some 3, none⟩ exactEvents := by
  let := PythonPlatform.ascii
  let := Ed25519.driving
  have hreplayed := driven_fourth.reject rfl rfl examine_drivingMessages.2.2.2
  have huploaded := hreplayed.upload (.inl (by simp)) (.answered 204 .none) (by simp)
  simp only [mergeSort_latencies] at huploaded
  have hloaded := huploaded.load loadSession_drivingPayloads.2
  exact hloaded.accept rfl rfl examine_nextMessages.1 1040 (by decide +kernel) (by decide +kernel)

theorem driven_crossing :
    ∃ ls st, (@telemetrySystem PythonPlatform.ascii Ed25519.driving).Run ls
      (st, crossingEvents) := by
  let := PythonPlatform.ascii
  let := Ed25519.driving
  have hloaded := driven_first.load loadSession_drivingPayloads.2
  obtain ⟨ls, st, hrun, -⟩ := hloaded.accept rfl rfl examine_nextMessages.2 1000 (by decide +kernel)
    (by decide +kernel)
  exact ⟨ls, st, hrun⟩

theorem driven_forgetting :
    ∃ ls st, (@telemetrySystem PythonPlatform.ascii Ed25519.driving).Run ls
      (st, forgettingEvents) := by
  let := PythonPlatform.ascii
  let := Ed25519.driving
  have huploaded := driven_fourth.upload (.inl (by simp)) (.raised .clientError) (by simp)
  simp only [mergeSort_latencies] at huploaded
  obtain ⟨ls, st, hrun, -⟩ := huploaded
  exact ⟨ls, st, hrun⟩

/-- The two sequences that were skipped are reported, and the second session adds nothing. -/
theorem lost_count_exact_driven :
    ∃ ls st, (@telemetrySystem PythonPlatform.ascii Ed25519.driving).RunWhere ExactBefore ls
        (st, exactEvents) ∧
      LossExact st.telemetryHeld (lossHistory exactEvents) ∧
        (lossHistory exactEvents).reported = 2 := by
  let := PythonPlatform.ascii
  let := Ed25519.driving
  obtain ⟨ls, st, hrun, -⟩ := driven_exact
  have hsuccessive : Contiguous Prod.fst (lossHistory exactEvents).accepted := by
    intro a c b hsub hkey
    have hall : [a, c, b] = [(replayID, 1), (replayID, 4), (nextID, 3)] := hsub.eq_of_length rfl
    simp only [List.cons.injEq, and_true] at hall
    obtain ⟨rfl, rfl, rfl⟩ := hall
    exact absurd hkey (by decide)
  obtain ⟨hexact, hend⟩ := (lost_count_exact_iff hrun hsuccessive (by decide)).mpr
    ⟨by decide, by decide⟩
  exact ⟨ls, st, hexact, hend, rfl⟩

theorem contiguous_of_length {accepted : List (PyValue × ℤ)} (h : accepted.length ≤ 2) :
    Contiguous Prod.fst accepted := by
  intro a c b hsub
  have hlength : 3 ≤ accepted.length := hsub.length_le
  omega

/-- The first session ends at 1 and the next one starts at 9: seven packets that were never
sent are counted as lost.  Or two packets are lost, and so is the report that counts them. -/
theorem lost_count_miscounted :
    (∃ ls st, (@telemetrySystem PythonPlatform.ascii Ed25519.driving).Run ls
        (st, crossingEvents) ∧
      Contiguous Prod.fst (lossHistory crossingEvents).accepted ∧
      ((lossHistory crossingEvents).accepted.Pairwise fun a b ↦ a.1 = b.1 → a.2 < b.2) ∧
        ¬LossExact st.telemetryHeld (lossHistory crossingEvents)) ∧
      ∃ ls st, (@telemetrySystem PythonPlatform.ascii Ed25519.driving).Run ls
          (st, forgettingEvents) ∧
        Contiguous Prod.fst (lossHistory forgettingEvents).accepted ∧
        ((lossHistory forgettingEvents).accepted.Pairwise fun a b ↦ a.1 = b.1 → a.2 < b.2) ∧
          ¬LossExact st.telemetryHeld (lossHistory forgettingEvents) := by
  let := PythonPlatform.ascii
  let := Ed25519.driving
  constructor
  · obtain ⟨ls, st, hrun⟩ := driven_crossing
    have hsuccessive : Contiguous Prod.fst (lossHistory crossingEvents).accepted :=
      contiguous_of_length (by decide)
    refine ⟨ls, st, hrun, hsuccessive, by decide, ?_⟩
    rw [(LossCounted.of_run hrun).exact_iff hsuccessive (by decide)]
    decide
  · obtain ⟨ls, st, hrun⟩ := driven_forgetting
    have hsuccessive : Contiguous Prod.fst (lossHistory forgettingEvents).accepted :=
      contiguous_of_length (by decide)
    refine ⟨ls, st, hrun, hsuccessive, by decide, ?_⟩
    rw [(LossCounted.of_run hrun).exact_iff hsuccessive (by decide)]
    decide

end TwoSessions

end RemoteInfra.Vehicle
