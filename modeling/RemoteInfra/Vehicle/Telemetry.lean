import RemoteInfra.Library.BinaryProduct
import RemoteInfra.Library.OrderStatistics
import RemoteInfra.Vehicle.PacketLoss

/-!
# The latencies that telemetry reports

`telemetry_loop` reports the latencies of the accepted packets in batches, each by its middle
element and by the element at `int(len(latencies) * 0.99)`, a product of floats.  Every latency is
in one batch, and the element is the one that exact arithmetic would choose.
-/

namespace RemoteInfra.Vehicle

open RemoteInfra.Library RemoteInfra.Python

/-- `int(count * 0.99)`; `none` where a number is too large for a float. -/
def p99Index (count : ℕ) : Option ℕ := do
  let length ← Magnitude.round double count 0
  let share ← Magnitude.round double 99 (-2)
  let product ← length.mul share
  some product.floor

/-- The `p50` and the `p99` of sorted latencies, before they become floats. -/
def percentiles (latencies : List ℤ) : Option (ℤ × ℤ) :=
  if latencies = [] then some (0, 0)
  else do
    let p50 ← latencies[latencies.length / 2]?
    let index ← p99Index latencies.length
    let p99 ← latencies[min (latencies.length - 1) index]?
    some (p50, p99)

/-! ## The index -/

/-- The float `0.99` lies just below the fraction. -/
theorem exists_share :
    ∃ share : Double, Magnitude.round double 99 (-2) = some share ∧ share.JustBelow 99 100 ∧
      99 * 2 ^ double.scale - share.units * 100 ≤ 2 ^ (double.scale - 50) := by
  have hfits : Magnitude.roundedUnits double 99 100 < 2 ^ double.limit := by decide +kernel
  have hle : Magnitude.roundedUnits double 99 100 * 100 ≤ 99 * 2 ^ double.scale := by
    decide +kernel
  have hnear : (99 * 2 ^ double.scale - Magnitude.roundedUnits double 99 100 * 100) *
      2 ^ (double.precision + 2) < Magnitude.roundedUnits double 99 100 * 100 := by
    decide +kernel
  have herror : 99 * 2 ^ double.scale - Magnitude.roundedUnits double 99 100 * 100 ≤
      2 ^ (double.scale - 50) := by
    decide +kernel
  refine ⟨⟨_, Magnitude.roundedUnits_dvd 99 100, hfits⟩, ?_, ⟨hle, hnear⟩, herror⟩
  rw [Magnitude.round_eq_roundRatio]
  exact Magnitude.roundRatio_of_units rfl

/-- Nothing here is about the format of a float but its precision, so that no power is computed. -/
theorem exists_product {F : BinaryFormat} {share : Magnitude F} {count : ℕ}
    (hbelow : share.JustBelow 99 100) (hscale : 50 ≤ F.scale) (hprecision : F.precision = 52)
    (hlimit : F.precision + 1 + F.scale < F.limit)
    (herror : 99 * 2 ^ F.scale - share.units * 100 ≤ 2 ^ (F.scale - 50)) (hpos : 0 < count)
    (hcount : count < 2 ^ 45) :
    ∃ length product, Magnitude.round F count 0 = some length ∧
      length.mul share = some product ∧ product.floor = count * 99 / 100 := by
  have hwhole : count ≤ 2 ^ (F.precision + 1) := by
    rw [hprecision]
    exact hcount.le.trans (Nat.pow_le_pow_right (by decide) (by decide))
  have hmissing : count * (99 * 2 ^ F.scale - share.units * 100) ≤ 2 ^ F.scale := by
    calc count * (99 * 2 ^ F.scale - share.units * 100)
        ≤ 2 ^ 45 * 2 ^ (F.scale - 50) := Nat.mul_le_mul hcount.le herror
      _ = 2 ^ (45 + (F.scale - 50)) := (pow_add _ _ _).symm
      _ ≤ 2 ^ F.scale := Nat.pow_le_pow_right (by decide) (by omega)
  have hbound : (count * 99 / 100 + 1) * 2 ^ 7 ≤ 2 ^ (F.precision + 1) := by
    rw [hprecision]
    omega
  exact Magnitude.floor_mul_of_justBelow hbelow hpos hwhole (by decide) (by omega) hmissing hbound
    hlimit

theorem p99Index_eq {count : ℕ} (hpos : 0 < count) (hcount : count < 2 ^ 45) :
    p99Index count = some (count * 99 / 100) := by
  obtain ⟨share, hshare, hbelow, herror⟩ := exists_share
  have hscale : 50 ≤ double.scale := by decide +kernel
  have hprecision : double.precision = 52 := by decide +kernel
  have hlimit : double.precision + 1 + double.scale < double.limit := by decide +kernel
  obtain ⟨length, product, hlength, hproduct, hfloor⟩ :=
    exists_product hbelow hscale hprecision hlimit herror hpos hcount
  simp only [p99Index, hlength, hshare, Option.bind_eq_bind, Option.bind_some, hproduct, hfloor]

/-- What is reported of a batch: its middle, and the least that 99 in 100 do not exceed. -/
theorem percentiles_mergeSort {batch : List ℤ} (hne : batch ≠ [])
    (hlength : batch.length < 2 ^ 45) :
    ∃ p50 p99, percentiles batch.mergeSort = some (p50, p99) ∧
      HasRank batch (batch.length / 2) p50 ∧ HasRank batch (batch.length * 99 / 100) p99 ∧
        p50 ≤ p99 := by
  have hpos : 0 < batch.length := List.length_pos_iff.mpr hne
  have hsorted : batch.mergeSort.length = batch.length := List.length_mergeSort batch
  have hmiddle : batch.length / 2 < batch.mergeSort.length := by omega
  have hindex : batch.length * 99 / 100 < batch.mergeSort.length := by omega
  obtain ⟨p50, hp50⟩ : ∃ p50, batch.mergeSort[batch.length / 2]? = some p50 :=
    ⟨_, List.getElem?_eq_getElem hmiddle⟩
  obtain ⟨p99, hp99⟩ : ∃ p99, batch.mergeSort[batch.length * 99 / 100]? = some p99 :=
    ⟨_, List.getElem?_eq_getElem hindex⟩
  have hne' : batch.mergeSort ≠ [] := List.ne_nil_of_length_pos (hsorted ▸ hpos)
  have hmin : min (batch.length - 1) (batch.length * 99 / 100) = batch.length * 99 / 100 := by
    omega
  refine ⟨p50, p99, ?_, hasRank_mergeSort hp50, hasRank_mergeSort hp99, ?_⟩
  · simp only [percentiles, if_neg hne', hsorted, hp50, p99Index_eq hpos hlength,
      Option.bind_eq_bind, Option.bind_some, hmin, hp99]
  · exact le_of_index_le (pairwise_mergeSort_le batch) (by omega) hp50 hp99

/-! ## The batches -/

/-- The latency of every packet accepted so far. -/
def acceptedLatencies (events : List TelemetryEvent) : List ℤ :=
  events.flatMap fun
    | .accepted _ _ latency => [latency]
    | _ => []

/-- The latencies of every upload that has ended, and whether the gateway accepted it. -/
def endedUploads (events : List TelemetryEvent) : List (List ℤ × Bool) :=
  events.flatMap fun
    | .uploaded latencies _ delivered => [(latencies, delivered)]
    | _ => []

/-- The latencies accepted so far, cut where they were taken away, and the uploads, the last of
which may be under way. -/
structure Batched (t : Telemetry) (events : List TelemetryEvent) (batches : List (List ℤ)) :
    Prop where
  accepted_eq : acceptedLatencies events = batches.flatten ++ t.latencies
  uploads_eq : (endedUploads events).map Prod.fst ++ (t.uploading.map Prod.fst).toList =
    batches.map List.mergeSort
  nonempty : ∀ batch ∈ batches, batch ≠ []
  counted : t.latencies = [] → t.lostCount = 0

theorem Batched.step {t t' : Telemetry} {events : List TelemetryEvent}
    {batches : List (List ℤ)} {e : TelemetryEvent} (h : Batched t events batches)
    (hstep : Telemetry.Step t (some e) t') : ∃ batches', Batched t' (events ++ [e]) batches' := by
  have haccepted := h.accepted_eq
  have huploads := h.uploads_eq
  cases hstep with
  | accepted =>
      refine ⟨batches, ⟨?_, ?_, h.nonempty, by simp⟩⟩
      · simp only [acceptedLatencies, List.flatMap_append] at haccepted ⊢
        simp [haccepted]
      · simp only [endedUploads, List.flatMap_append] at huploads ⊢
        simpa using huploads
  | taken hidle hsome =>
      have hne : t.latencies ≠ [] := by
        intro hempty
        rcases hsome with hlatencies | hcount
        · exact hlatencies hempty
        · exact hcount (h.counted hempty)
      refine ⟨batches ++ [t.latencies], ⟨?_, ?_, ?_, fun _ ↦ rfl⟩⟩
      · simp only [acceptedLatencies, List.flatMap_append] at haccepted ⊢
        simp [haccepted]
      · simp only [endedUploads, List.flatMap_append, hidle] at huploads ⊢
        simpa using huploads
      · intro batch hbatch
        rcases List.mem_append.mp hbatch with hold | hlast
        · exact h.nonempty batch hold
        · exact List.mem_singleton.mp hlast ▸ hne
  | uploaded hupload =>
      refine ⟨batches, ⟨?_, ?_, h.nonempty, h.counted⟩⟩
      · simp only [acceptedLatencies, List.flatMap_append] at haccepted ⊢
        simpa using haccepted
      · simp only [endedUploads, List.flatMap_append, hupload] at huploads ⊢
        simpa using huploads

theorem exists_batched [PythonPlatform] [Ed25519] {ls : List AgentLabel} {st : AgentState}
    {events : List TelemetryEvent} (hrun : telemetrySystem.Run ls (st, events)) :
    ∃ batches, Batched st.telemetryHeld events batches := by
  refine telemetry_invariant (P := fun t events ↦ ∃ batches, Batched t events batches) ?_ ?_ hrun
  · exact ⟨[], rfl, rfl, by simp, fun _ ↦ rfl⟩
  · rintro t events e t' ⟨batches, hbatched⟩ hstep
    exact hbatched.step hstep

/-- The latencies of the accepted packets are taken in their order, cut into batches that are not
empty.  Each batch is uploaded once, in its turn, with the percentiles of exact arithmetic; an
upload that fails takes its batch with it. -/
theorem latencies_reported_in_batches [PythonPlatform] [Ed25519] {ls : List AgentLabel}
    {st : AgentState} {events : List TelemetryEvent}
    (hrun : telemetrySystem.Run ls (st, events)) :
    ∃ batches : List (List ℤ),
      acceptedLatencies events = batches.flatten ++ st.runtime.latencies ∧
      (endedUploads events).map Prod.fst ++ (st.uploading.map Prod.fst).toList =
        batches.map List.mergeSort ∧
      ∀ batch ∈ batches, batch ≠ [] ∧ (batch.length < 2 ^ 45 →
        ∃ p50 p99, percentiles batch.mergeSort = some (p50, p99) ∧
          HasRank batch (batch.length / 2) p50 ∧ HasRank batch (batch.length * 99 / 100) p99 ∧
            p50 ≤ p99) := by
  obtain ⟨batches, hbatched⟩ := exists_batched hrun
  refine ⟨batches, hbatched.accepted_eq, hbatched.uploads_eq, fun batch hbatch ↦ ?_⟩
  have hne := hbatched.nonempty batch hbatch
  exact ⟨hne, percentiles_mergeSort hne⟩

/-- After the two sessions another upload fails. -/
def failingEvents : List TelemetryEvent :=
  exactEvents ++ [.taken [10] 0] ++ [.uploaded [10] 0 false]

/-- Three packets are uploaded in two batches; the second one does not arrive. -/
theorem latencies_reported_in_batches_driven :
    ∃ ls st, (@telemetrySystem PythonPlatform.ascii Ed25519.driving).Run ls
        (st, failingEvents) ∧
      endedUploads failingEvents = [([30, 50], true), ([10], false)] ∧
      ∃ batches : List (List ℤ), [50, 30, 10] = batches.flatten ++ st.runtime.latencies ∧
        [[30, 50], [10]] ++ (st.uploading.map Prod.fst).toList = batches.map List.mergeSort ∧
        ∀ batch ∈ batches, batch ≠ [] ∧ (batch.length < 2 ^ 45 →
          ∃ p50 p99, percentiles batch.mergeSort = some (p50, p99) ∧
            HasRank batch (batch.length / 2) p50 ∧ HasRank batch (batch.length * 99 / 100) p99 ∧
              p50 ≤ p99) := by
  let := PythonPlatform.ascii
  let := Ed25519.driving
  have huploaded := driven_exact.upload (.inl (by simp)) (.raised .clientError) (by simp)
  simp only [List.mergeSort_singleton] at huploaded
  obtain ⟨ls, st, hrun, -⟩ := huploaded
  exact ⟨ls, st, hrun, rfl, latencies_reported_in_batches hrun⟩

end RemoteInfra.Vehicle
