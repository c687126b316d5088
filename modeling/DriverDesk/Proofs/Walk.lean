import DriverDesk.Compile.Walk

/-!
# Walks

The calls of a walk, line by line, and where it ends: on the first line that is polled
and answered with yes, or behind the last line.
-/

namespace DriverDesk.Signal

/-- The calls of one line: its progress and, on every eighth line, a rest and a poll. -/
def callsOf (total line : Nat) : List SignalCall :=
  .progress (line + 1) total :: if line % 8 = 0 then [.rest, .poll] else []

/-- The calls of the lines in front of one of `total` lines. -/
def callsBelow (total line : Nat) : List SignalCall := (List.range line).flatMap (callsOf total)

/-- The signal is asked on the line, and answers yes. -/
def stopsAt (signal : Signal) (line : Nat) : Bool := line % 8 = 0 && signal line

/-- No poll in front of the line is answered with yes. -/
def Passes (signal : Signal) (line : Nat) : Prop := ∀ i, i < line → signal.stopsAt i = false

instance (signal : Signal) (line : Nat) : Decidable (signal.Passes line) :=
  inferInstanceAs (Decidable (∀ i, i < line → signal.stopsAt i = false))

variable (signal : Signal) (total : Nat)

theorem stopsAt_never (line : Nat) : never.stopsAt line = false := by
  rw [stopsAt, never, Bool.and_false]

theorem passes_never (line : Nat) : never.Passes line := fun i _ => stopsAt_never i

theorem passes_zero : signal.Passes 0 := fun _ hi => absurd hi (Nat.not_lt_zero _)

theorem Passes.mono {signal : Signal} {m n : Nat} (h : signal.Passes n) (hmn : m ≤ n) :
    signal.Passes m := fun i hi => h i (by omega)

/-! ## Walking line by line -/

@[simp] theorem walk_zero (line : Nat) : signal.walk total line 0 = ([], true) := rfl

theorem walk_succ (line count : Nat) :
    signal.walk total line (count + 1) =
      if signal.stopsAt line then (callsOf total line, false)
      else (callsOf total line ++ (signal.walk total (line + 1) count).1,
        (signal.walk total (line + 1) count).2) := by
  rw [walk]
  by_cases h8 : line % 8 = 0
  · by_cases hs : signal line = true
    · simp [h8, hs, callsOf, stopsAt]
    · simp [h8, hs, callsOf, stopsAt]
  · simp [h8, callsOf, stopsAt]

/-- A walk over two stretches goes over the second if it comes to the end of the first. -/
theorem walk_add (line m n : Nat) :
    signal.walk total line (m + n) =
      if (signal.walk total line m).2 then
        ((signal.walk total line m).1 ++ (signal.walk total (line + m) n).1,
          (signal.walk total (line + m) n).2)
      else signal.walk total line m := by
  induction m generalizing line with
  | zero => simp
  | succ m ih =>
    rw [show m + 1 + n = m + n + 1 by omega, walk_succ, walk_succ]
    by_cases hs : signal.stopsAt line = true
    · simp [hs]
    · rw [if_neg hs, if_neg hs, ih (line + 1), show line + 1 + m = line + (m + 1) by omega]
      by_cases he : (signal.walk total (line + 1) m).2 = true
      · simp [he]
      · simp [he]

theorem walk_snd (line count : Nat) :
    (signal.walk total line count).2 = true ↔
      ∀ i, line ≤ i → i < line + count → signal.stopsAt i = false := by
  induction count generalizing line with
  | zero =>
    simp only [walk_zero, true_iff]
    intro i h₁ h₂
    omega
  | succ count ih =>
    rw [walk_succ]
    by_cases hs : signal.stopsAt line = true
    · rw [if_pos hs]
      simp only [Bool.false_eq_true, false_iff]
      intro h
      rw [h line (by omega) (by omega)] at hs
      cases hs
    · rw [if_neg hs, ih (line + 1)]
      refine ⟨fun h i h₁ h₂ => ?_, fun h i h₁ h₂ => h i (by omega) (by omega)⟩
      rcases Nat.eq_or_lt_of_le h₁ with rfl | h₁
      · simpa using hs
      · exact h i (by omega) (by omega)

/-- From a line that is reached, a walk comes to a later one if that is reached too. -/
theorem walk_snd_iff_passes {line later : Nat} (hline : signal.Passes line) (hle : line ≤ later) :
    (signal.walk total line (later - line)).2 = true ↔ signal.Passes later := by
  rw [walk_snd, show line + (later - line) = later by omega]
  refine ⟨fun h i hi => ?_, fun h i _ hi => h i hi⟩
  rcases Nat.lt_or_ge i line with hlt | hge
  · exact hline i hlt
  · exact h i hge hi

/-- The calls of a walk that comes to its end. -/
theorem walk_fst_of_ended {line count : Nat} (h : (signal.walk total line count).2 = true) :
    (signal.walk total line count).1 = (List.range' line count).flatMap (callsOf total) := by
  induction count generalizing line with
  | zero => rfl
  | succ count ih =>
    rw [walk_succ] at h ⊢
    by_cases hs : signal.stopsAt line = true
    · rw [if_pos hs] at h; cases h
    · rw [if_neg hs] at h ⊢
      rw [List.range'_succ, List.flatMap_cons, ← ih h]

theorem callsBelow_succ (line : Nat) :
    callsBelow total (line + 1) = callsBelow total line ++ callsOf total line := by
  simp [callsBelow, List.range_succ]

theorem walk_of_passes {line : Nat} (h : signal.Passes line) :
    signal.walk total 0 line = (callsBelow total line, true) := by
  have hended : (signal.walk total 0 line).2 = true :=
    (walk_snd signal total 0 line).mpr fun i _ hi => h i (by omega)
  have hcalls := walk_fst_of_ended signal total hended
  rw [← List.range_eq_range'] at hcalls
  exact Prod.ext hcalls hended

/-- A walk over all lines: its calls end with the first poll that is answered with yes. -/
theorem walk_eq :
    signal.walk total 0 total =
      match (List.range total).find? signal.stopsAt with
      | some line => (callsBelow total (line + 1), false)
      | none => (callsBelow total total, true) := by
  cases hf : (List.range total).find? signal.stopsAt with
  | none =>
    refine walk_of_passes signal total fun i hi => ?_
    simpa using List.find?_range_eq_none.mp hf i hi
  | some line =>
    obtain ⟨hstop, hmem, hfirst⟩ := List.find?_range_eq_some.mp hf
    have hlt : line < total := List.mem_range.mp hmem
    have hpass : signal.Passes line := fun i hi => by simpa using hfirst i hi
    have hadd := walk_add signal total 0 line (total - line - 1 + 1)
    rw [show line + (total - line - 1 + 1) = total by omega] at hadd
    rw [hadd, walk_of_passes signal total hpass, if_pos rfl, Nat.zero_add, walk_succ, if_pos hstop]
    exact congrArg (·, false) (callsBelow_succ total line).symm

/-! ## Counting the reports -/

/-- The number of lines that calls report. -/
def reports (calls : List SignalCall) : Nat :=
  calls.countP fun
    | .progress .. => true
    | _ => false

theorem reports_callsBelow (line : Nat) : reports (callsBelow total line) = line := by
  induction line with
  | zero => rfl
  | succ line ih =>
    have hone : reports (callsOf total line) = 1 := by
      unfold callsOf
      split
      · rfl
      · rfl
    unfold reports at ih hone ⊢
    rw [callsBelow_succ, List.countP_append, ih, hone]

/-- The first polled line by which `count` lines are reported. -/
def pollAfter (count : Nat) : Nat := 8 * ((count + 6) / 8)

theorem pollAfter_least (count : Nat) :
    8 ∣ pollAfter count ∧ count - 1 ≤ pollAfter count ∧
      ∀ line, 8 ∣ line → count - 1 ≤ line → pollAfter count ≤ line := by
  unfold pollAfter
  exact ⟨by omega, by omega, fun line h8 hline => by omega⟩

theorem stopsAt_afterLines (count line : Nat) :
    (afterLines count).stopsAt line = true ↔ line % 8 = 0 ∧ pollAfter count ≤ line := by
  simp only [stopsAt, afterLines, Bool.and_eq_true, decide_eq_true_eq, pollAfter]
  omega

theorem find?_stopsAt_afterLines (count : Nat) :
    (List.range total).find? (afterLines count).stopsAt =
      if pollAfter count < total then some (pollAfter count) else none := by
  have hpoll : pollAfter count % 8 = 0 := by unfold pollAfter; omega
  split
  next hlt =>
    refine List.find?_range_eq_some.mpr ⟨?_, List.mem_range.mpr hlt, fun i hi => ?_⟩
    · exact (stopsAt_afterLines count _).mpr ⟨hpoll, Nat.le_refl _⟩
    · have := mt (stopsAt_afterLines count i).mp (by omega)
      simpa using this
  next hge =>
    refine List.find?_range_eq_none.mpr fun i hi => ?_
    have := mt (stopsAt_afterLines count i).mp (by omega)
    simpa using this

end DriverDesk.Signal
