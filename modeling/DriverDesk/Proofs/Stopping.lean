import Mathlib.Data.List.Infix
import DriverDesk.Proofs.Commit

/-!
# Stopped compiles

A compile that is stopped has done the first part of what it does when it runs to its
end: it has built the sections in front of the stop, each of them whole, and nothing
else. Its calls end with the poll that stopped it.
-/

namespace DriverDesk.Compilation

open Build Step

variable {K σ : Type} [Arith K] (format : PanelFormat) (source : PanelSource)
  (options : Options K) (files : FileView) (store : TextureStore σ) (textures : σ)

/-- The number of sections that a walk comes to the end of. -/
def passedCount (source : PanelSource) (signal : Signal) : Nat :=
  (Sections.ofLines source.lines).sections.countP fun s => signal.Passes s.stop

/-- The parts that are built are the first ones of the plan. -/
theorem reached_prepared (signal : Signal) :
    let parts := (prepared format source options files store textures).1.parts
    signal.reached parts = parts.take (passedCount source signal) := by
  intro parts
  obtain ⟨line, htile⟩ := prepared_tile format source options files store textures
  have hsections := (prepared_covers format source options files store textures).sections
  have hcount : passedCount source signal = (signal.reached parts).length := by
    rw [passedCount, ← hsections, List.countP_eq_length_filter, ← Signal.map_reached,
      List.length_map]
  rw [hcount]
  exact List.prefix_iff_eq_take.mp (Signal.reached_prefix htile)

/-- A stopped compile is the first part of the one that runs to its end, cut behind a
section: the camera is the same, the first sections are built as they are there, and the
elements, registrations and diagnostics are the first of those there. -/
theorem stopped_prefix (format : PanelFormat) (source : PanelSource) (options : Options K)
    (files : FileView) (store : TextureStore σ) (signal : Signal) (textures : σ) :
    let stopped := compileAs format source options files store signal textures
    let full := compileAs format source options files store .never textures
    let start := prepared format source options files store textures
    let env := environment source options files store
    let sections := (Sections.ofLines source.lines).sections
    ∃ k, sections.filter (fun s => signal.Passes s.stop) = sections.take k ∧
      start.1.parts.map (·.1) = sections ∧
      (full.batches, full.bench) = buildAll start.1.parts env start.2 ∧
      (stopped.batches, stopped.bench) = buildAll (start.1.parts.take k) env start.2 ∧
      stopped.camera = full.camera ∧
      stopped.batches = full.batches.take k ∧
      stopped.added <+: full.added ∧
      stopped.bench.registrations <+: full.bench.registrations ∧
      stopped.bench.diagnostics <+: full.bench.diagnostics ∧
      ∀ cars : Cars K,
        (stopped.commit cars options.car).2.elements options.car =
          cars.elements options.car ++ stopped.added ∧
        (full.commit cars options.car).2.elements options.car =
          cars.elements options.car ++ full.added := by
  intro stopped full start env sections
  have hcovers := prepared_covers format source options files store textures
  have hfull : (full.batches, full.bench) = buildAll start.1.parts env start.2 := by
    rw [← Signal.reached_never start.1.parts]
    exact compileAs_built format source options files store textures .never
  have hreached := reached_prepared format source options files store textures signal
  have hstopped : (stopped.batches, stopped.bench) =
      buildAll (start.1.parts.take (passedCount source signal)) env start.2 := by
    rw [← hreached]
    exact compileAs_built format source options files store textures signal
  obtain ⟨hbatches, hbench⟩ :=
    buildAll_take hcovers.parts (passedCount source signal) env start.2
  rw [← hstopped, ← hfull] at hbatches hbench
  refine ⟨passedCount source signal, ?_, hcovers.sections, hfull, hstopped, ?_, hbatches, ?_,
    hbench.registrations, hbench.diagnostics, fun cars => ⟨?_, ?_⟩⟩
  · rw [show sections = _ from hcovers.sections.symm, ← Signal.map_reached, hreached, List.map_take]
  · exact (compileAs_camera format source options files store textures signal).trans
      (compileAs_camera format source options files store textures .never).symm
  · rw [added, added, show stopped.batches = _ from hbatches]
    exact (List.take_prefix _ _).flatMap made
  · exact elements_commit (batches_assembled format source options files store signal textures)
      cars options.car
  · exact elements_commit (batches_assembled format source options files store .never textures)
      cars options.car

/-- The calls of a compile go up to the first poll that is answered with yes. -/
theorem compileAs_calls (signal : Signal) :
    let c := compileAs format source options files store signal textures
    let total := source.lines.length
    let stop? := (List.range total).find? signal.stopsAt
    c.calls = Signal.callsBelow total ((stop?.map (· + 1)).getD total) ∧
      c.cancelled = stop?.isSome := by
  intro c total stop?
  rw [show c = _ from compileAs_eq format source options files store textures signal]
  dsimp only [total, stop?]
  rw [Signal.walk_eq]
  cases (List.range source.lines.length).find? signal.stopsAt with
  | none => exact ⟨rfl, rfl⟩
  | some line => exact ⟨rfl, rfl⟩

theorem cancelled_never :
    (compileAs format source options files store .never textures).cancelled = false := by
  have hnever : (List.range source.lines.length).find? Signal.never.stopsAt = none :=
    List.find?_eq_none.mpr fun line _ => by rw [Signal.stopsAt_never]; exact Bool.false_ne_true
  rw [(compileAs_calls format source options files store textures .never).2, hnever]
  rfl

/-- The calls of a compile go line by line and end with the first poll that is answered
with yes, and a section is built if its last line is passed. In particular, a signal that
answers yes once `n` lines are reported stops a compile on the first polled line by which
they are, if there is such a line. -/
theorem calls_and_builds (format : PanelFormat) (source : PanelSource) (options : Options K)
    (files : FileView) (store : TextureStore σ) (textures : σ) :
    let total := source.lines.length
    let start := prepared format source options files store textures
    let env := environment source options files store
    start.1.parts.map (·.1) = (Sections.ofLines source.lines).sections ∧
    (∀ signal : Signal,
      let c := compileAs format source options files store signal textures
      let stop? := (List.range total).find? signal.stopsAt
      c.calls = Signal.callsBelow total ((stop?.map (· + 1)).getD total) ∧
      c.cancelled = stop?.isSome ∧
      (c.batches, c.bench) =
        buildAll (start.1.parts.filter fun part => signal.Passes part.1.stop) env start.2) ∧
    ∀ n : Nat,
      let c := compileAs format source options files store (.afterLines n) textures
      (∀ line, Signal.afterLines n line =
        decide (n ≤ Signal.reports (Signal.callsBelow total (line + 1)))) ∧
      ∃ m, (8 ∣ m ∧ n - 1 ≤ m ∧ ∀ k, 8 ∣ k → n - 1 ≤ k → m ≤ k) ∧
        (c.cancelled = true ↔ m < total) ∧
        Signal.reports c.calls = if m < total then m + 1 else total := by
  intro total start env
  refine ⟨(prepared_covers format source options files store textures).sections,
    fun signal => ?_, fun n => ⟨fun line => ?_, Signal.pollAfter n, Signal.pollAfter_least n, ?_⟩⟩
  · obtain ⟨hcalls, hcancelled⟩ :=
      compileAs_calls format source options files store textures signal
    exact ⟨hcalls, hcancelled,
      compileAs_built format source options files store textures signal⟩
  · rw [Signal.reports_callsBelow]; rfl
  · obtain ⟨hcalls, hcancelled⟩ :=
      compileAs_calls format source options files store textures (.afterLines n)
    rw [hcalls, hcancelled, Signal.find?_stopsAt_afterLines]
    dsimp only [total]
    by_cases hlt : Signal.pollAfter n < source.lines.length
    · simp [hlt, Signal.reports_callsBelow]
    · simp [hlt, Signal.reports_callsBelow]

end DriverDesk.Compilation
