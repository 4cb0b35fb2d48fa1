import Mathlib.Data.List.Nodup
import Mathlib.Data.List.Perm.Basic
import RemoteInfra.Library.TransitionSystem

/-!
# The vehicle's video publisher

`LiveKitVideoPublisher` of `video_publisher.py`: `start` opens the cameras one by one and hands
each to a frame task; whoever holds a camera last releases it.  A task that is cancelled before
its first step never enters its body, and so never releases the camera it was handed.
-/

namespace RemoteInfra.Vehicle

open RemoteInfra.Library

/-- A frame task within the event loop. -/
inductive FrameTaskStatus
  /-- created; its first step is still to come -/
  | scheduled
  /-- cancelled before its first step -/
  | cancelledEarly
  | running
  /-- cancelled within its body -/
  | cancelled
  /-- its `finally` has released the camera -/
  | ended
  /-- it ended without entering its body -/
  | neverRan
  deriving DecidableEq

namespace FrameTaskStatus

/-- `task.done()`. -/
def done : FrameTaskStatus → Bool
  | .ended | .neverRan => true
  | _ => false

/-- `task.cancel()`. -/
def cancel : FrameTaskStatus → FrameTaskStatus
  | .scheduled => .cancelledEarly
  | .running => .cancelled
  | status => status

/-- It will never release its camera. -/
def doomed : FrameTaskStatus → Bool
  | .cancelledEarly | .neverRan => true
  | _ => false

@[simp] theorem done_cancel (status : FrameTaskStatus) : status.cancel.done = status.done := by
  cases status <;> rfl

@[simp] theorem cancel_eq_ended_iff {status : FrameTaskStatus} :
    status.cancel = .ended ↔ status = .ended := by
  cases status <;> simp [cancel]

theorem doomed_cancel_iff {status : FrameTaskStatus} :
    status.cancel.doomed = true ↔ status.doomed = true ∨ status = .scheduled := by
  cases status <;> simp [cancel, doomed]

end FrameTaskStatus

/-- Cameras are numbered in the order in which they were opened. -/
structure FrameTask where
  camera : ℕ
  status : FrameTaskStatus

def FrameTask.cancel (task : FrameTask) : FrameTask := { task with status := task.status.cancel }

/-- Where `start` stands, with the camera configurations that are still to come. -/
inductive StartLocation
  | running (rest : List (String × ℕ))
  /-- it waits for `publish_track`, and still holds the camera -/
  | publishing (name : String) (camera : ℕ) (rest : List (String × ℕ))
  | returned
  | cancelled

inductive CloseLocation
  | notCalled
  | gathering
  | returned
  deriving DecidableEq

structure PublisherState where
  start : StartLocation
  close : CloseLocation
  /-- how many times `open_configured_camera` has returned a camera -/
  opened : ℕ
  /-- the camera of every `release()` so far -/
  released : List ℕ
  /-- every frame task ever created -/
  frames : List FrameTask
  /-- `self._tasks`; a task is its place in `frames` -/
  tasks : List (String × ℕ)

/-- `tasks[name] = task`. -/
def setItem (tasks : List (String × ℕ)) (name : String) (task : ℕ) : List (String × ℕ) :=
  if tasks.any (·.1 = name) then
    tasks.map fun entry ↦ if entry.1 = name then (name, task) else entry
  else tasks ++ [(name, task)]

/-- `for task in self._tasks.values(): task.cancel()`. -/
def cancelAll (tasks : List (String × ℕ)) (frames : List FrameTask) : List FrameTask :=
  tasks.foldl (fun frames entry ↦ frames.modify entry.2 FrameTask.cancel) frames

inductive PublisherLabel
  | openFails
  | opens
  | publishFails
  | publishes
  | startCancelled
  | startReturns
  | frameSteps (i : ℕ)
  | frameEnds (i : ℕ)
  | frameCancelled (i : ℕ)
  | collects (name : String)
  | closeCalled
  | closeReturns

namespace PublisherState

/-- `start` has ended, one way or the other. -/
def startEnded (st : PublisherState) : Prop := st.start = .returned ∨ st.start = .cancelled

inductive Step : PublisherState → PublisherLabel → PublisherState → Prop
  | openFails {st : PublisherState} {name : String} {index : ℕ} {rest : List (String × ℕ)} :
      st.start = .running ((name, index) :: rest) →
        Step st .openFails { st with start := .running rest }
  | opens {st : PublisherState} {name : String} {index : ℕ} {rest : List (String × ℕ)} :
      st.start = .running ((name, index) :: rest) →
        Step st .opens
          { st with start := .publishing name st.opened rest, opened := st.opened + 1 }
  /-- an exception before, within or after the `await` of `publish_track` -/
  | publishFails {st : PublisherState} {name : String} {camera : ℕ}
      {rest : List (String × ℕ)} :
      st.start = .publishing name camera rest →
        Step st .publishFails
          { st with start := .running rest, released := st.released ++ [camera] }
  | publishes {st : PublisherState} {name : String} {camera : ℕ} {rest : List (String × ℕ)} :
      st.start = .publishing name camera rest →
        Step st .publishes
          { st with
            start := .running rest
            frames := st.frames ++ [⟨camera, .scheduled⟩]
            tasks := setItem st.tasks name st.frames.length }
  | startNotEntered {st : PublisherState} {rest : List (String × ℕ)} :
      st.start = .running rest → st.opened = 0 →
        Step st .startCancelled { st with start := .cancelled }
  | startCancelled {st : PublisherState} {name : String} {camera : ℕ}
      {rest : List (String × ℕ)} :
      st.start = .publishing name camera rest →
        Step st .startCancelled
          { st with start := .cancelled, released := st.released ++ [camera] }
  | startReturns {st : PublisherState} :
      st.start = .running [] → Step st .startReturns { st with start := .returned }
  | frameStarts {st : PublisherState} {i : ℕ} {task : FrameTask} :
      st.frames[i]? = some task → task.status = .scheduled →
        Step st (.frameSteps i)
          { st with frames := st.frames.set i { task with status := .running } }
  | frameNeverRuns {st : PublisherState} {i : ℕ} {task : FrameTask} :
      st.frames[i]? = some task → task.status = .cancelledEarly →
        Step st (.frameSteps i)
          { st with frames := st.frames.set i { task with status := .neverRan } }
  /-- a frame cannot be read or captured, or the cancellation arrives -/
  | frameEnds {st : PublisherState} {i : ℕ} {task : FrameTask} :
      st.frames[i]? = some task → task.status = .running ∨ task.status = .cancelled →
        Step st (.frameEnds i)
          { st with
            frames := st.frames.set i { task with status := .ended }
            released := st.released ++ [task.camera] }
  | frameCancelled {st : PublisherState} {i : ℕ} :
      Step st (.frameCancelled i) { st with frames := st.frames.modify i FrameTask.cancel }
  | collects {st : PublisherState} {name : String} {i : ℕ} {task : FrameTask} :
      st.start = .returned → st.close = .notCalled → (name, i) ∈ st.tasks →
        st.frames[i]? = some task → task.status.done = true →
          Step st (.collects name) { st with tasks := st.tasks.filter (·.1 ≠ name) }
  | closeCalled {st : PublisherState} :
      st.startEnded → st.close = .notCalled →
        Step st .closeCalled
          { st with frames := cancelAll st.tasks st.frames, close := .gathering }
  | closeReturns {st : PublisherState} :
      st.close = .gathering →
        (∀ entry ∈ st.tasks, ∀ task, st.frames[entry.2]? = some task → task.status.done = true) →
          Step st .closeReturns { st with tasks := [], close := .returned }

end PublisherState

/-- A publisher just constructed, about to start the cameras of `configs`. -/
def publisherSystem (configs : List (String × ℕ)) :
    TransitionSystem PublisherState PublisherLabel where
  Init st := st = ⟨.running configs, .notCalled, 0, [], [], []⟩
  Step := PublisherState.Step

/-! ## Every camera has one holder -/

/-- The cameras of the frame tasks that have not released them. -/
def heldCameras (frames : List FrameTask) : List ℕ :=
  (frames.filter fun task ↦ task.status ≠ .ended).map FrameTask.camera

/-- The cameras that are not released: that of `start`, and those of the frame tasks. -/
def PublisherState.holders (st : PublisherState) : List ℕ :=
  (match st.start with
    | .publishing _ camera _ => [camera]
    | _ => []) ++ heldCameras st.frames

theorem exists_split_of_getElem? {α : Type} {l : List α} {i : ℕ} {a : α} (h : l[i]? = some a) :
    ∃ before after, l = before ++ a :: after ∧ ∀ b, l.set i b = before ++ b :: after := by
  obtain ⟨hi, rfl⟩ := List.getElem?_eq_some_iff.mp h
  refine ⟨l.take i, l.drop (i + 1), ?_, fun b ↦ ?_⟩
  · rw [List.cons_getElem_drop_succ, List.take_append_drop]
  · rw [List.set_eq_take_append_cons_drop, if_pos hi]

theorem heldCameras_append (frames more : List FrameTask) :
    heldCameras (frames ++ more) = heldCameras frames ++ heldCameras more := by
  simp [heldCameras]

theorem heldCameras_cons (task : FrameTask) (frames : List FrameTask) :
    heldCameras (task :: frames) =
      (if task.status = .ended then [] else [task.camera]) ++ heldCameras frames := by
  by_cases h : task.status = .ended <;> simp [heldCameras, h]

/-- A task that goes on without releasing its camera holds it still. -/
theorem heldCameras_set {frames : List FrameTask} {i : ℕ} {task : FrameTask}
    (htask : frames[i]? = some task) {status : FrameTaskStatus} (hbefore : task.status ≠ .ended)
    (hafter : status ≠ .ended) :
    heldCameras (frames.set i { task with status := status }) = heldCameras frames := by
  obtain ⟨before, after, hframes, hset⟩ := exists_split_of_getElem? htask
  rw [hset, hframes, heldCameras_append, heldCameras_append, heldCameras_cons, heldCameras_cons,
    if_neg hbefore, if_neg hafter]

/-- A task that ends has held its camera. -/
theorem heldCameras_set_ended {frames : List FrameTask} {i : ℕ} {task : FrameTask}
    (htask : frames[i]? = some task) (hbefore : task.status ≠ .ended) :
    (task.camera :: heldCameras (frames.set i { task with status := .ended })).Perm
      (heldCameras frames) := by
  obtain ⟨before, after, hframes, hset⟩ := exists_split_of_getElem? htask
  rw [hset, hframes, heldCameras_append, heldCameras_append, heldCameras_cons, heldCameras_cons,
    if_neg hbefore, if_pos rfl, List.nil_append, List.singleton_append]
  exact List.perm_middle.symm

theorem heldCameras_modify_cancel (frames : List FrameTask) (i : ℕ) :
    heldCameras (frames.modify i FrameTask.cancel) = heldCameras frames := by
  induction frames generalizing i with
  | nil => simp
  | cons task frames ih =>
      cases i with
      | zero =>
          rw [List.modify_zero_cons, heldCameras_cons, heldCameras_cons]
          simp only [FrameTask.cancel, FrameTaskStatus.cancel_eq_ended_iff]
      | succ i => rw [List.modify_succ_cons, heldCameras_cons, heldCameras_cons, ih]

theorem heldCameras_cancelAll (tasks : List (String × ℕ)) (frames : List FrameTask) :
    heldCameras (cancelAll tasks frames) = heldCameras frames := by
  induction tasks generalizing frames with
  | nil => rfl
  | cons entry tasks ih =>
      rw [cancelAll, List.foldl_cons, ← cancelAll, ih, heldCameras_modify_cancel]

/-- What is released and what is held are together the cameras opened, each of them once. -/
def Conserved (st : PublisherState) : Prop :=
  (st.released ++ st.holders).Perm (List.range st.opened)

theorem Conserved.step {st st' : PublisherState} {l : PublisherLabel} (h : Conserved st)
    (hstep : PublisherState.Step st l st') : Conserved st' := by
  unfold Conserved at h ⊢
  cases hstep with
  | openFails hstart =>
      rw [PublisherState.holders, hstart] at h
      exact h
  | opens hstart =>
      rw [PublisherState.holders, hstart] at h
      rw [List.range_succ]
      simp only [PublisherState.holders, List.singleton_append]
      exact (List.perm_middle.trans (h.cons _)).trans (List.perm_append_singleton _ _).symm
  | publishFails hstart =>
      rw [PublisherState.holders, hstart] at h
      simpa [PublisherState.holders] using h
  | publishes hstart =>
      rw [PublisherState.holders, hstart] at h
      refine List.Perm.trans ?_ h
      apply List.Perm.append_left
      simp only [PublisherState.holders, heldCameras_append, List.nil_append,
        List.singleton_append]
      exact List.perm_append_singleton _ _
  | startNotEntered hstart =>
      rw [PublisherState.holders, hstart] at h
      exact h
  | startCancelled hstart =>
      rw [PublisherState.holders, hstart] at h
      simpa [PublisherState.holders] using h
  | startReturns hstart =>
      rw [PublisherState.holders, hstart] at h
      exact h
  | frameStarts htask hstatus =>
      simp only [PublisherState.holders]
      rw [heldCameras_set htask (by simp [hstatus]) (by simp)]
      exact h
  | frameNeverRuns htask hstatus =>
      simp only [PublisherState.holders]
      rw [heldCameras_set htask (by simp [hstatus]) (by simp)]
      exact h
  | @frameEnds i task htask hstatus =>
      have hbefore : task.status ≠ .ended := by
        rcases hstatus with hstatus | hstatus <;> simp [hstatus]
      refine List.Perm.trans ?_ h
      rw [List.append_assoc]
      apply List.Perm.append_left
      simp only [PublisherState.holders, List.singleton_append]
      exact List.perm_middle.symm.trans ((heldCameras_set_ended htask hbefore).append_left _)
  | frameCancelled =>
      simp only [PublisherState.holders, heldCameras_modify_cancel]
      exact h
  | collects => exact h
  | closeCalled =>
      simp only [PublisherState.holders, heldCameras_cancelAll]
      exact h
  | closeReturns => exact h

theorem Conserved.of_run {configs : List (String × ℕ)}
    {C : TransitionSystem.StepCondition PublisherState PublisherLabel}
    {ls : List PublisherLabel} {st : PublisherState}
    (hrun : (publisherSystem configs).RunWhere C ls st) : Conserved st := by
  apply hrun.invariant (P := fun _ st ↦ Conserved st)
  · rintro st rfl
    exact List.Perm.refl _
  · intro ls st l st' _ h _ hstep
    exact h.step hstep

/-- No camera is released twice. -/
theorem Conserved.count_released_le {st : PublisherState} (h : Conserved st) (camera : ℕ) :
    st.released.count camera ≤ 1 := by
  have hnodup : (st.released ++ st.holders).Nodup := h.nodup_iff.mpr List.nodup_range
  exact List.nodup_iff_count_le_one.mp (List.nodup_append.mp hnodup).1 camera

/-- Every camera is released once exactly when nobody holds one. -/
theorem Conserved.all_released_iff {st : PublisherState} (h : Conserved st) :
    (∀ camera < st.opened, st.released.count camera = 1) ↔ st.holders = [] := by
  have hnodup : (st.released ++ st.holders).Nodup := h.nodup_iff.mpr List.nodup_range
  constructor
  · intro hreleased
    rw [List.eq_nil_iff_forall_not_mem]
    intro camera hheld
    have hopened : camera < st.opened :=
      List.mem_range.mp (h.subset (List.mem_append_right _ hheld))
    have hcount := hreleased camera hopened
    have hmem : camera ∈ st.released := List.count_pos_iff.mp (by omega)
    exact (List.nodup_append.mp hnodup).2.2 camera hmem camera hheld rfl
  · intro hnone camera hopened
    have hmem := h.symm.subset (List.mem_range.mpr hopened)
    rw [hnone, List.append_nil] at hmem hnodup
    exact List.count_eq_one_of_mem hnodup hmem

/-! ## Cancelling -/

@[simp] theorem FrameTask.cancel_cancel (task : FrameTask) : task.cancel.cancel = task.cancel := by
  obtain ⟨camera, status⟩ := task
  cases status <;> rfl

theorem getElem?_modify_cancel (frames : List FrameTask) (i j : ℕ) :
    (frames.modify i FrameTask.cancel)[j]? =
      frames[j]?.map fun task ↦ if j = i then task.cancel else task := by
  rw [List.getElem?_modify]
  rcases eq_or_ne j i with rfl | hne
  · simp
  · simp [hne, hne.symm]

/-- Cancelling all the tasks cancels each of them, however often it is named. -/
theorem getElem?_cancelAll (tasks : List (String × ℕ)) (frames : List FrameTask) (j : ℕ) :
    (cancelAll tasks frames)[j]? =
      frames[j]?.map fun task ↦ if j ∈ tasks.map Prod.snd then task.cancel else task := by
  induction tasks generalizing frames with
  | nil => simp [cancelAll]
  | cons entry tasks ih =>
      rw [cancelAll, List.foldl_cons, ← cancelAll, ih, getElem?_modify_cancel, Option.map_map]
      congr 1
      funext task
      simp only [Function.comp_apply, List.map_cons, List.mem_cons]
      by_cases hfirst : j = entry.2 <;> by_cases hrest : j ∈ tasks.map Prod.snd <;>
        simp [hfirst, hrest]

/-! ## Which tasks never release their camera -/

def NoneDoomed (frames : List FrameTask) : Prop := ∀ task ∈ frames, task.status.doomed = false

/-- Asked of every step: whoever cancels a frame task, `close` included, finds that it has taken
its first step. -/
def StartsFirst : TransitionSystem.StepCondition PublisherState PublisherLabel
  | _, st, .frameCancelled i =>
      ∀ task, st.frames[i]? = some task → task.status ≠ .scheduled
  | _, st, .closeCalled =>
      ∀ entry ∈ st.tasks, ∀ task, st.frames[entry.2]? = some task → task.status ≠ .scheduled
  | _, _, _ => True

/-- Asked of every step: no camera is published under a name whose frame task is still under
way. -/
def KeepsNames : TransitionSystem.StepCondition PublisherState PublisherLabel
  | _, st, .publishes =>
      ∀ name camera rest, st.start = .publishing name camera rest →
        ∀ i, (name, i) ∈ st.tasks → ∀ task, st.frames[i]? = some task → task.status.done = true
  | _, _, _ => True

theorem noneDoomed_set {frames : List FrameTask} {i : ℕ} {task : FrameTask}
    (htask : frames[i]? = some task) {status : FrameTaskStatus}
    (hsame : status.doomed = task.status.doomed) :
    NoneDoomed (frames.set i { task with status := status }) ↔ NoneDoomed frames := by
  obtain ⟨before, after, hframes, hset⟩ := exists_split_of_getElem? htask
  rw [hset, hframes]
  simp only [NoneDoomed, List.forall_mem_append, List.forall_mem_cons, hsame]

/-- A cancellation dooms exactly the tasks that had not started. -/
theorem noneDoomed_cancel_iff {frames frames' : List FrameTask} {cancelled : ℕ → Prop}
    [DecidablePred cancelled]
    (h : ∀ j, frames'[j]? = frames[j]?.map fun task ↦ if cancelled j then task.cancel else task) :
    NoneDoomed frames' ↔ NoneDoomed frames ∧
      ∀ j, cancelled j → ∀ task, frames[j]? = some task → task.status ≠ .scheduled := by
  have hdoomed : ∀ task : FrameTask, task.cancel.status.doomed = false ↔
      task.status.doomed = false ∧ task.status ≠ .scheduled := by
    intro task
    rw [← Bool.not_eq_true, FrameTask.cancel, FrameTaskStatus.doomed_cancel_iff, not_or,
      Bool.not_eq_true]
  constructor
  · intro hnone
    have hplace : ∀ (j : ℕ) (task : FrameTask), frames[j]? = some task →
        (if cancelled j then task.cancel else task).status.doomed = false := by
      intro j task htask
      apply hnone
      apply List.mem_of_getElem? (i := j)
      rw [h, htask]
      rfl
    constructor
    · intro task hmem
      obtain ⟨j, htask⟩ := List.mem_iff_getElem?.mp hmem
      have hplaced := hplace j task htask
      split_ifs at hplaced
      · exact ((hdoomed task).mp hplaced).1
      · exact hplaced
    · intro j hcancelled task htask
      have hplaced := hplace j task htask
      rw [if_pos hcancelled] at hplaced
      exact ((hdoomed task).mp hplaced).2
  · intro ⟨hnone, hstarted⟩ task' hmem
    obtain ⟨j, htask'⟩ := List.mem_iff_getElem?.mp hmem
    rw [h, Option.map_eq_some_iff] at htask'
    obtain ⟨task, htask, rfl⟩ := htask'
    have hbefore := hnone task (List.mem_of_getElem? htask)
    split_ifs with hcancelled
    · exact (hdoomed task).mpr ⟨hbefore, hstarted j hcancelled task htask⟩
    · exact hbefore

/-- A step dooms a task exactly when it cancels one that has not started. -/
theorem noneDoomed_step_iff {ls : List PublisherLabel} {st st' : PublisherState}
    {l : PublisherLabel} (hstep : PublisherState.Step st l st') :
    NoneDoomed st'.frames ↔ NoneDoomed st.frames ∧ StartsFirst ls st l := by
  have hsame : ∀ P : Prop, P ↔ P ∧ True := fun P ↦ (iff_of_eq (and_true P)).symm
  cases hstep with
  | publishes =>
      apply Iff.trans _ (hsame _)
      rw [NoneDoomed, List.forall_mem_append, List.forall_mem_singleton]
      exact ⟨fun h ↦ h.1, fun h ↦ ⟨h, rfl⟩⟩
  | frameStarts htask hstatus =>
      exact (noneDoomed_set htask (by rw [hstatus]; rfl)).trans (hsame _)
  | frameNeverRuns htask hstatus =>
      exact (noneDoomed_set htask (by rw [hstatus]; rfl)).trans (hsame _)
  | frameEnds htask hstatus =>
      apply (noneDoomed_set htask _).trans (hsame _)
      rcases hstatus with hstatus | hstatus <;> rw [hstatus] <;> rfl
  | @frameCancelled i =>
      have hiff := noneDoomed_cancel_iff (getElem?_modify_cancel st.frames i)
      simp only [forall_eq] at hiff
      exact hiff
  | closeCalled =>
      have hiff := noneDoomed_cancel_iff (getElem?_cancelAll st.tasks st.frames)
      simp only [List.forall_mem_map] at hiff
      exact hiff
  | _ => exact hsame _

/-! ## Which tasks `close` waits for -/

/-- Every frame task still under way is in the table, and `close` leaves the table empty. -/
structure Registered (st : PublisherState) : Prop where
  entry : ∀ j task, st.frames[j]? = some task → task.status.done = false →
    ∃ name, (name, j) ∈ st.tasks
  unique : ∀ name i j, (name, i) ∈ st.tasks → (name, j) ∈ st.tasks → i = j
  startEnded : st.close ≠ .notCalled → st.startEnded
  emptied : st.close = .returned → st.tasks = []

theorem mem_setItem_self (tasks : List (String × ℕ)) (name : String) (task : ℕ) :
    (name, task) ∈ setItem tasks name task := by
  unfold setItem
  split_ifs with hany
  · obtain ⟨entry, hentry, hname⟩ := List.any_eq_true.mp hany
    exact List.mem_map.mpr ⟨entry, hentry, if_pos (of_decide_eq_true hname)⟩
  · exact List.mem_append_right _ (List.mem_singleton.mpr rfl)

theorem mem_setItem_of_ne {tasks : List (String × ℕ)} {name other : String} {task i : ℕ}
    (hmem : (other, i) ∈ tasks) (hne : other ≠ name) : (other, i) ∈ setItem tasks name task := by
  unfold setItem
  split_ifs
  · exact List.mem_map.mpr ⟨(other, i), hmem, if_neg hne⟩
  · exact List.mem_append_left _ hmem

theorem mem_of_mem_setItem {tasks : List (String × ℕ)} {name : String} {task : ℕ}
    {entry : String × ℕ} (h : entry ∈ setItem tasks name task) :
    entry = (name, task) ∨ entry ∈ tasks ∧ entry.1 ≠ name := by
  unfold setItem at h
  split_ifs at h with hany
  · obtain ⟨old, hold, hentry⟩ := List.mem_map.mp h
    split_ifs at hentry with hname
    · exact .inl hentry.symm
    · exact .inr (hentry ▸ ⟨hold, hname⟩)
  · rcases List.mem_append.mp h with hold | hnew
    · refine .inr ⟨hold, fun hname ↦ hany ?_⟩
      exact List.any_eq_true.mpr ⟨entry, hold, decide_eq_true hname⟩
    · exact .inl (List.mem_singleton.mp hnew)

/-- A task that steps is in the table if it was. -/
theorem Registered.set {st : PublisherState} (h : Registered st) {i : ℕ} {task : FrameTask}
    (htask : st.frames[i]? = some task) (hdone : task.status.done = false)
    (status : FrameTaskStatus) :
    ∀ j task', (st.frames.set i { task with status := status })[j]? = some task' →
      task'.status.done = false → ∃ name, (name, j) ∈ st.tasks := by
  intro j task' htask' hdone'
  rcases eq_or_ne i j with rfl | hne
  · exact h.entry i task htask hdone
  · rw [List.getElem?_set_ne hne] at htask'
    exact h.entry j task' htask' hdone'

/-- Cancelling ends no task by itself. -/
theorem Registered.cancel {st : PublisherState} (h : Registered st) {frames : List FrameTask}
    {cancelled : ℕ → Prop} [DecidablePred cancelled]
    (hcancel : ∀ j, frames[j]? =
      st.frames[j]?.map fun task ↦ if cancelled j then task.cancel else task) :
    ∀ j task, frames[j]? = some task → task.status.done = false →
      ∃ name, (name, j) ∈ st.tasks := by
  intro j task htask hdone
  rw [hcancel, Option.map_eq_some_iff] at htask
  obtain ⟨before, hbefore, rfl⟩ := htask
  apply h.entry j before hbefore
  split_ifs at hdone
  · simpa [FrameTask.cancel] using hdone
  · exact hdone

theorem Registered.step {ls : List PublisherLabel} {st st' : PublisherState}
    {l : PublisherLabel} (h : Registered st) (hnames : KeepsNames ls st l)
    (hstep : PublisherState.Step st l st') : Registered st' := by
  have hrunning : ∀ {rest}, st.start = .running rest → st.close = .notCalled := by
    intro rest hstart
    by_contra hcalled
    rcases h.startEnded hcalled with hended | hended <;> simp [hstart] at hended
  have hpublishing : ∀ {name camera rest}, st.start = .publishing name camera rest →
      st.close = .notCalled := by
    intro name camera rest hstart
    by_contra hcalled
    rcases h.startEnded hcalled with hended | hended <;> simp [hstart] at hended
  cases hstep with
  | openFails hstart =>
      exact ⟨h.entry, h.unique, fun hcalled ↦ absurd (hrunning hstart) hcalled, h.emptied⟩
  | opens hstart =>
      exact ⟨h.entry, h.unique, fun hcalled ↦ absurd (hrunning hstart) hcalled, h.emptied⟩
  | publishFails hstart =>
      exact ⟨h.entry, h.unique, fun hcalled ↦ absurd (hpublishing hstart) hcalled, h.emptied⟩
  | @publishes name camera rest hstart =>
      have hclose := hpublishing hstart
      refine ⟨fun j task htask hdone ↦ ?_, fun other i j hi hj ↦ ?_,
        fun hcalled ↦ absurd hclose hcalled, fun hreturned ↦ ?_⟩
      · rw [List.getElem?_append] at htask
        split_ifs at htask with hold
        · obtain ⟨other, hmem⟩ := h.entry j task htask hdone
          rcases eq_or_ne other name with rfl | hne
          · -- a task under this name would still be under way
            have hended := hnames other camera rest hstart j hmem task htask
            simp [hended] at hdone
          · exact ⟨other, mem_setItem_of_ne hmem hne⟩
        · have hplace : j - st.frames.length = 0 := by
            have hlt := (List.getElem?_eq_some_iff.mp htask).1
            simp only [List.length_singleton] at hlt
            omega
          have hj : j = st.frames.length := by omega
          rw [hj]
          exact ⟨name, mem_setItem_self _ _ _⟩
      · rcases mem_of_mem_setItem hi with hi | ⟨hi, hne⟩
        · rcases mem_of_mem_setItem hj with hj | ⟨hj, hne⟩
          · rw [(Prod.mk.inj hi).2, (Prod.mk.inj hj).2]
          · exact absurd (Prod.mk.inj hi).1 hne
        · rcases mem_of_mem_setItem hj with hj | ⟨hj, -⟩
          · exact absurd (Prod.mk.inj hj).1 hne
          · exact h.unique other i j hi hj
      · simp [hclose] at hreturned
  | startNotEntered hstart =>
      exact ⟨h.entry, h.unique, fun _ ↦ .inr rfl, h.emptied⟩
  | startCancelled hstart =>
      exact ⟨h.entry, h.unique, fun _ ↦ .inr rfl, h.emptied⟩
  | startReturns hstart =>
      exact ⟨h.entry, h.unique, fun _ ↦ .inl rfl, h.emptied⟩
  | frameStarts htask hstatus =>
      exact ⟨h.set htask (by rw [hstatus]; rfl) _, h.unique, h.startEnded, h.emptied⟩
  | frameNeverRuns htask hstatus =>
      exact ⟨h.set htask (by rw [hstatus]; rfl) _, h.unique, h.startEnded, h.emptied⟩
  | frameEnds htask hstatus =>
      refine ⟨h.set htask ?_ _, h.unique, h.startEnded, h.emptied⟩
      rcases hstatus with hstatus | hstatus <;> rw [hstatus] <;> rfl
  | frameCancelled =>
      exact ⟨h.cancel (getElem?_modify_cancel st.frames _), h.unique, h.startEnded, h.emptied⟩
  | @collects name i task hstart hclose hmem htask hended =>
      refine ⟨fun j task' htask' hdone ↦ ?_, fun other j k hj hk ↦ ?_, h.startEnded,
        fun hreturned ↦ ?_⟩
      · obtain ⟨other, hother⟩ := h.entry j task' htask' hdone
        refine ⟨other, List.mem_filter.mpr ⟨hother, decide_eq_true fun hname ↦ ?_⟩⟩
        -- the task collected under this name has ended
        obtain rfl : other = name := hname
        obtain rfl := h.unique other i j hmem hother
        obtain rfl := Option.some.inj (htask.symm.trans htask')
        simp [hended] at hdone
      · exact h.unique other j k (List.mem_of_mem_filter hj) (List.mem_of_mem_filter hk)
      · simp [hclose] at hreturned
  | closeCalled hended hclose =>
      exact ⟨h.cancel (getElem?_cancelAll st.tasks st.frames), h.unique, fun _ ↦ hended,
        fun hreturned ↦ by cases hreturned⟩
  | closeReturns hgathering hdone =>
      refine ⟨fun j task htask hunder ↦ ?_, fun _ _ _ hmem ↦ (List.not_mem_nil hmem).elim,
        fun _ ↦ h.startEnded (by simp [hgathering]), fun _ ↦ rfl⟩
      obtain ⟨name, hmem⟩ := h.entry j task htask hunder
      have hended := hdone (name, j) hmem task htask
      simp [hended] at hunder

theorem Registered.of_run {configs : List (String × ℕ)} {ls : List PublisherLabel}
    {st : PublisherState} (hrun : (publisherSystem configs).RunWhere KeepsNames ls st) :
    Registered st := by
  apply hrun.invariant (P := fun _ st ↦ Registered st)
  · rintro st rfl
    exact ⟨by simp, by simp, by simp, by simp⟩
  · intro ls st l st' _ h hnames hstep
    exact h.step hnames hstep

/-- Once `close` has returned, only the tasks that never ran hold a camera. -/
theorem Registered.holders_eq_nil_iff {st : PublisherState} (h : Registered st)
    (hclosed : st.close = .returned) : st.holders = [] ↔ NoneDoomed st.frames := by
  have hstart : (match st.start with
      | .publishing _ camera _ => [camera]
      | _ => ([] : List ℕ)) = [] := by
    rcases h.startEnded (by simp [hclosed]) with hended | hended <;> rw [hended]
  have hdone : ∀ task ∈ st.frames, task.status.done = true := by
    intro task hmem
    obtain ⟨j, htask⟩ := List.mem_iff_getElem?.mp hmem
    by_contra hunder
    obtain ⟨name, hentry⟩ := h.entry j task htask (Bool.not_eq_true _ ▸ hunder)
    simp [h.emptied hclosed] at hentry
  rw [PublisherState.holders, hstart, List.nil_append, heldCameras, List.map_eq_nil_iff,
    List.filter_eq_nil_iff]
  apply forall₂_congr
  intro task hmem
  have hended := hdone task hmem
  cases hstatus : task.status <;> simp [hstatus, FrameTaskStatus.done, FrameTaskStatus.doomed]
    at hended ⊢

/-! ## Names -/

/-- The names of the cameras that `start` has not published yet. -/
def StartLocation.remaining : StartLocation → List String
  | .running rest => rest.map Prod.fst
  | .publishing name _ rest => name :: rest.map Prod.fst
  | _ => []

/-- No name that is still to come is in the table. -/
structure FreshNames (st : PublisherState) : Prop where
  nodup : st.start.remaining.Nodup
  fresh : ∀ name ∈ st.start.remaining, ∀ i, (name, i) ∉ st.tasks

/-- Fewer names to come, fewer in the table. -/
theorem FreshNames.mono {st st' : PublisherState} (h : FreshNames st)
    (hnames : st'.start.remaining.Sublist st.start.remaining) (htasks : st'.tasks ⊆ st.tasks) :
    FreshNames st' :=
  ⟨h.nodup.sublist hnames, fun name hname i hmem ↦
    h.fresh name (hnames.subset hname) i (htasks hmem)⟩

theorem FreshNames.step {st st' : PublisherState} {l : PublisherLabel} (h : FreshNames st)
    (hstep : PublisherState.Step st l st') : FreshNames st' := by
  cases hstep with
  | openFails hstart =>
      apply h.mono
      · rw [hstart]
        exact List.sublist_cons_self _ _
      · exact List.Subset.refl _
  | opens hstart =>
      apply h.mono
      · rw [hstart]
        exact List.Sublist.refl _
      · exact List.Subset.refl _
  | publishFails hstart =>
      apply h.mono
      · rw [hstart]
        exact List.sublist_cons_self _ _
      · exact List.Subset.refl _
  | @publishes name camera rest hstart =>
      have hnodup := h.nodup
      rw [hstart, StartLocation.remaining, List.nodup_cons] at hnodup
      refine ⟨hnodup.2, fun other hother i hmem ↦ ?_⟩
      rcases mem_of_mem_setItem hmem with hnew | ⟨hold, -⟩
      · exact hnodup.1 ((Prod.mk.inj hnew).1 ▸ hother)
      · refine h.fresh other ?_ i hold
        rw [hstart]
        exact List.mem_cons_of_mem _ hother
  | startNotEntered => exact h.mono (List.nil_sublist _) (List.Subset.refl _)
  | startCancelled => exact h.mono (List.nil_sublist _) (List.Subset.refl _)
  | startReturns => exact h.mono (List.nil_sublist _) (List.Subset.refl _)
  | collects => exact h.mono (List.Sublist.refl _) (List.filter_subset_self _)
  | closeReturns => exact h.mono (List.Sublist.refl _) (List.nil_subset _)
  | _ => exact h.mono (List.Sublist.refl _) (List.Subset.refl _)

theorem FreshNames.of_run {configs : List (String × ℕ)}
    {C : TransitionSystem.StepCondition PublisherState PublisherLabel}
    (hnames : (configs.map Prod.fst).Nodup) {ls : List PublisherLabel} {st : PublisherState}
    (hrun : (publisherSystem configs).RunWhere C ls st) : FreshNames st := by
  apply hrun.invariant (P := fun _ st ↦ FreshNames st)
  · rintro st rfl
    exact ⟨hnames, by simp⟩
  · intro ls st l st' _ h _ hstep
    exact h.step hstep

/-- Fresh names find no frame task under way. -/
theorem FreshNames.keepsNames {ls : List PublisherLabel} {st : PublisherState}
    {l : PublisherLabel} (h : FreshNames st) : KeepsNames ls st l := by
  cases l with
  | publishes =>
      intro name camera rest hstart i hmem
      refine absurd hmem (h.fresh name ?_ i)
      rw [hstart]
      exact List.mem_cons_self
  | _ => trivial

/-- Once `close` has returned: no camera was released twice; each was released once if no frame
task was cancelled before its first step, and no name was used twice while its task was under
way; and with distinct names this condition is also necessary. -/
theorem cameras_released_iff {configs : List (String × ℕ)} {ls : List PublisherLabel}
    {st : PublisherState} (hrun : (publisherSystem configs).Run ls st)
    (hclosed : st.close = .returned) :
    (∀ camera, st.released.count camera ≤ 1) ∧
      ((publisherSystem configs).RunWhere (StartsFirst.and KeepsNames) ls st →
        ∀ camera < st.opened, st.released.count camera = 1) ∧
      ((configs.map Prod.fst).Nodup → (∀ camera < st.opened, st.released.count camera = 1) →
        (publisherSystem configs).RunWhere (StartsFirst.and KeepsNames) ls st) := by
  have hconserved := Conserved.of_run hrun
  have hstarts : NoneDoomed st.frames ↔ (publisherSystem configs).RunWhere StartsFirst ls st := by
    apply TransitionSystem.RunWhere.holds_iff (P := fun st ↦ NoneDoomed st.frames) _ _ hrun
    · rintro st rfl
      exact fun task hmem ↦ (List.not_mem_nil hmem).elim
    · intro ls st l st' _ hstep
      exact noneDoomed_step_iff hstep
  refine ⟨hconserved.count_released_le, fun horderly ↦ ?_, fun hnames hreleased ↦ ?_⟩
  · have hregistered : Registered st := Registered.of_run (horderly.mono fun _ _ _ h ↦ h.2)
    rw [hconserved.all_released_iff, hregistered.holders_eq_nil_iff hclosed, hstarts]
    exact horderly.left
  · have hkeeps : (publisherSystem configs).RunWhere KeepsNames ls st :=
      hrun.strengthen fun _ _ _ _ hbefore _ _ ↦ (FreshNames.of_run hnames hbefore).keepsNames
    rw [hconserved.all_released_iff, (Registered.of_run hkeeps).holders_eq_nil_iff hclosed,
      hstarts] at hreleased
    exact hreleased.strengthen fun _ _ _ _ hbefore hstarted _ ↦
      ⟨hstarted, (FreshNames.of_run hnames hbefore).keepsNames⟩

section Sample

/-! ## The front camera -/

/-- The publisher with one camera published and its frame task not yet started. -/
def frontPublished : PublisherState :=
  ⟨.returned, .notCalled, 1, [], [⟨0, .scheduled⟩], [("front", 0)]⟩

theorem frontPublished_run :
    (publisherSystem [("front", 0)]).RunWhere (StartsFirst.and KeepsNames)
      [.opens, .publishes, .startReturns] frontPublished := by
  have hinit : (publisherSystem [("front", 0)]).RunWhere (StartsFirst.and KeepsNames) []
      ⟨.running [("front", 0)], .notCalled, 0, [], [], []⟩ := .init rfl
  have hopened : (publisherSystem [("front", 0)]).RunWhere (StartsFirst.and KeepsNames) [.opens]
      ⟨.publishing "front" 0 [], .notCalled, 1, [], [], []⟩ :=
    .step hinit ⟨trivial, trivial⟩ (.opens rfl)
  have hpublished : (publisherSystem [("front", 0)]).RunWhere (StartsFirst.and KeepsNames)
      [.opens, .publishes]
      ⟨.running [], .notCalled, 1, [], [⟨0, .scheduled⟩], [("front", 0)]⟩ := by
    refine .step hopened ⟨trivial, ?_⟩ (.publishes rfl)
    intro name camera rest _ i hmem
    cases hmem
  exact .step hpublished ⟨trivial, trivial⟩ (.startReturns rfl)

/-- The frame task has started when `close` cancels it. -/
theorem front_camera_released :
    ∃ st, (publisherSystem [("front", 0)]).Run
        [.opens, .publishes, .startReturns, .frameSteps 0, .closeCalled, .frameEnds 0,
          .closeReturns] st ∧
      st.opened = 1 ∧ st.released.count 0 = 1 := by
  have hstarted : (publisherSystem [("front", 0)]).RunWhere (StartsFirst.and KeepsNames)
      [.opens, .publishes, .startReturns, .frameSteps 0]
      { frontPublished with frames := [⟨0, .running⟩] } :=
    .step frontPublished_run ⟨trivial, trivial⟩ (@PublisherState.Step.frameStarts frontPublished 0
      ⟨0, .scheduled⟩ rfl rfl)
  have hclosing : (publisherSystem [("front", 0)]).RunWhere (StartsFirst.and KeepsNames)
      [.opens, .publishes, .startReturns, .frameSteps 0, .closeCalled]
      { frontPublished with frames := [⟨0, .cancelled⟩], close := .gathering } := by
    refine .step hstarted ⟨?_, trivial⟩ (.closeCalled (.inl rfl) rfl)
    intro entry hentry task htask
    obtain rfl := List.mem_singleton.mp hentry
    obtain rfl := Option.some.inj htask
    simp
  have hended : (publisherSystem [("front", 0)]).RunWhere (StartsFirst.and KeepsNames)
      [.opens, .publishes, .startReturns, .frameSteps 0, .closeCalled, .frameEnds 0]
      { frontPublished with
        frames := [⟨0, .ended⟩], released := [0], close := .gathering } :=
    .step hclosing ⟨trivial, trivial⟩
      (@PublisherState.Step.frameEnds _ 0 ⟨0, .cancelled⟩ rfl (.inr rfl))
  have hclosed : (publisherSystem [("front", 0)]).RunWhere (StartsFirst.and KeepsNames)
      [.opens, .publishes, .startReturns, .frameSteps 0, .closeCalled, .frameEnds 0,
        .closeReturns]
      { frontPublished with
        frames := [⟨0, .ended⟩], released := [0], tasks := [], close := .returned } := by
    refine .step hended ⟨trivial, trivial⟩ (.closeReturns rfl ?_)
    intro entry hentry task htask
    obtain rfl := List.mem_singleton.mp hentry
    obtain rfl := Option.some.inj htask
    rfl
  exact ⟨_, hclosed.toRun, rfl,
    (cameras_released_iff hclosed.toRun rfl).2.1 hclosed 0 Nat.one_pos⟩

/-- `close` follows `start` without a pause: the frame task never runs, and nobody releases the
camera it was handed. -/
theorem front_camera_never_released :
    ∃ st, (publisherSystem [("front", 0)]).Run
        [.opens, .publishes, .startReturns, .closeCalled, .frameSteps 0, .closeReturns] st ∧
      st.close = .returned ∧ st.opened = 1 ∧ st.released.count 0 = 0 := by
  have hclosing : (publisherSystem [("front", 0)]).Run
      [.opens, .publishes, .startReturns, .closeCalled]
      { frontPublished with frames := [⟨0, .cancelledEarly⟩], close := .gathering } :=
    .step frontPublished_run.toRun trivial (.closeCalled (.inl rfl) rfl)
  have hended : (publisherSystem [("front", 0)]).Run
      [.opens, .publishes, .startReturns, .closeCalled, .frameSteps 0]
      { frontPublished with frames := [⟨0, .neverRan⟩], close := .gathering } :=
    .step hclosing trivial
      (@PublisherState.Step.frameNeverRuns _ 0 ⟨0, .cancelledEarly⟩ rfl rfl)
  have hclosed : (publisherSystem [("front", 0)]).Run
      [.opens, .publishes, .startReturns, .closeCalled, .frameSteps 0, .closeReturns]
      { frontPublished with
        frames := [⟨0, .neverRan⟩], tasks := [], close := .returned } := by
    refine .step hended trivial (.closeReturns rfl ?_)
    intro entry hentry task htask
    obtain rfl := List.mem_singleton.mp hentry
    obtain rfl := Option.some.inj htask
    rfl
  exact ⟨_, hclosed, rfl, rfl, rfl⟩

end Sample

end RemoteInfra.Vehicle
