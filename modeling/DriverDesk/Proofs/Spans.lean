import DriverDesk.PanelFile.Section

/-!
# Spans

The sections of a file lie end to end: each begins on the line where the one before it
stops, and the last one stops at the end of the file.
-/

namespace DriverDesk

/-- The sections lie end to end on the lines from one index up to another. -/
inductive Section.Tile : Nat → List Section → Nat → Prop where
  | nil (line : Nat) : Tile line [] line
  | cons {s : Section} {rest : List Section} {total : Nat} :
      s.start < s.stop → Tile s.stop rest total → Tile s.start (s :: rest) total

namespace Section.Tile

variable {line total : Nat} {sections : List Section}

theorem le (h : Tile line sections total) : line ≤ total := by
  induction h with
  | nil => exact Nat.le_refl _
  | cons hs _ ih => omega

/-- Every section stops behind the line that the sections begin on. -/
theorem lt_stop (h : Tile line sections total) : ∀ s ∈ sections, line < s.stop := by
  induction h with
  | nil => intro s hs; cases hs
  | @cons s rest total hs _ ih =>
    intro s' hs'
    rcases List.mem_cons.mp hs' with rfl | hs'
    · exact hs
    · have := ih s' hs'; omega

/-- Each line between the ends is covered once. -/
theorem countP_covers (h : Tile line sections total) {i : Nat} (hi : i < total) :
    sections.countP (fun s => s.start ≤ i ∧ i < s.stop) = if i < line then 0 else 1 := by
  induction h with
  | nil => rw [List.countP_nil, if_pos hi]
  | @cons s rest total hs _ ih =>
    rw [List.countP_cons, ih hi]
    by_cases hstart : i < s.start
    · have hstop : i < s.stop := Nat.lt_trans hstart hs
      simp [hstart, hstop]
    · by_cases hstop : i < s.stop <;> simp [hstart, hstop, Nat.not_lt.mp hstart]

/-- Every section lies between the ends. -/
theorem within (h : Tile line sections total) :
    ∀ s ∈ sections, line ≤ s.start ∧ s.start < s.stop ∧ s.stop ≤ total := by
  induction h with
  | nil => intro s hs; cases hs
  | @cons s rest total hs hrest ih =>
    have hle := hrest.le
    intro s' hs'
    rcases List.mem_cons.mp hs' with rfl | hs'
    · exact ⟨Nat.le_refl _, hs, hle⟩
    · have := ih s' hs'; omega

end Section.Tile

namespace Section

/-- The line, counted from one, is one of the section. -/
def Covers (s : Section) (line : Nat) : Prop := s.start < line ∧ line ≤ s.stop

/-- Sections end to end share no line. -/
theorem Tile.eq_of_covers {line total l : Nat} {sections : List Section}
    (h : Tile line sections total) {s s' : Section} (hs : s ∈ sections) (hs' : s' ∈ sections)
    (hl : s.Covers l) (hl' : s'.Covers l) : s = s' := by
  induction h with
  | nil => cases hs
  | @cons first rest total hfirst hrest ih =>
    have behind : ∀ s ∈ rest, s.Covers l → ¬ first.Covers l := fun s hs hl hl' => by
      have := (hrest.within s hs).1
      have := hl.1
      have := hl'.2
      omega
    rcases List.mem_cons.mp hs with rfl | hmem <;> rcases List.mem_cons.mp hs' with rfl | hmem'
    · rfl
    · exact absurd hl (behind s' hmem' hl')
    · exact absurd hl' (behind s hmem hl)
    · exact ih hmem hmem'

/-- The header is the first line of the section, and its records stand behind it in order. -/
structure Laid (s : Section) : Prop where
  line : s.line = s.start + 1
  records : ∀ r ∈ s.records, s.line < r.line ∧ r.line ≤ s.stop
  ordered : s.records.Pairwise fun r r' => r.line < r'.line

/-- There is at most one record on a line. -/
theorem Laid.eq_of_line {s : Section} (h : s.Laid) {r r' : Record} (hr : r ∈ s.records)
    (hr' : r' ∈ s.records) (hline : r.line = r'.line) : r = r' := by
  have hordered := h.ordered
  generalize s.records = records at hr hr' hordered
  induction hordered with
  | nil => cases hr
  | @cons first rest hfirst _ ih =>
    rcases List.mem_cons.mp hr with rfl | hmem <;> rcases List.mem_cons.mp hr' with rfl | hmem'
    · rfl
    · have := hfirst r' hmem'; omega
    · have := hfirst r hmem; omega
    · exact ih hmem hmem'

end Section

namespace Sections

theorem le_next (i : Nat) (lines : List String) : i ≤ (cutFrom i lines).next := by
  induction lines generalizing i with
  | nil => exact Nat.le_refl i
  | cons l lines ih =>
    have := ih (i + 1)
    unfold cutFrom
    cases classify l with
    | header name => exact Nat.le_refl i
    | _ => dsimp only; omega

/-- From the first header on, the sections lie end to end up to the last line. -/
theorem tile_cutFrom (i : Nat) (lines : List String) :
    Section.Tile (cutFrom i lines).next (cutFrom i lines).sections (i + lines.length) := by
  induction lines generalizing i with
  | nil => exact .nil i
  | cons l lines ih =>
    have after := ih (i + 1)
    rw [show i + 1 + lines.length = i + (l :: lines).length by simp; omega] at after
    unfold cutFrom
    cases classify l with
    | header name => exact .cons (s := ⟨name, i + 1, i, _, _⟩) (le_next (i + 1) lines) after
    | _ => exact after

theorem tile_ofLines (lines : List String) :
    ∃ line, Section.Tile line (ofLines lines).sections lines.length := by
  have h := tile_cutFrom 0 lines
  rw [Nat.zero_add] at h
  exact ⟨_, h⟩

/-- The records in front of the first header stand in order, and so does each section. -/
theorem laid_cutFrom (i : Nat) (lines : List String) :
    (∀ r ∈ (cutFrom i lines).records, i < r.line ∧ r.line ≤ (cutFrom i lines).next) ∧
      ((cutFrom i lines).records.Pairwise fun r r' => r.line < r'.line) ∧
      ∀ s ∈ (cutFrom i lines).sections, s.Laid := by
  induction lines generalizing i with
  | nil => exact ⟨nofun, .nil, nofun⟩
  | cons l lines ih =>
    obtain ⟨hrecords, hordered, hsections⟩ := ih (i + 1)
    have hnext := le_next (i + 1) lines
    unfold cutFrom
    cases classify l with
    | header name =>
      refine ⟨nofun, .nil, fun s hs => ?_⟩
      rcases List.mem_cons.mp hs with rfl | hs
      · exact ⟨rfl, hrecords, hordered⟩
      · exact hsections s hs
    | record key value =>
      refine ⟨fun r hr => ?_, .cons (fun r hr => ?_) hordered, hsections⟩
      · rcases List.mem_cons.mp hr with rfl | hr
        · exact ⟨Nat.lt_succ_self i, hnext⟩
        · have := hrecords r hr
          exact ⟨Nat.lt_of_succ_lt this.1, this.2⟩
      · exact (hrecords r hr).1
    | empty =>
      exact ⟨fun r hr => ⟨Nat.lt_of_succ_lt (hrecords r hr).1, (hrecords r hr).2⟩, hordered,
        hsections⟩
    | other =>
      exact ⟨fun r hr => ⟨Nat.lt_of_succ_lt (hrecords r hr).1, (hrecords r hr).2⟩, hordered,
        hsections⟩

theorem laid_ofLines (lines : List String) : ∀ s ∈ (ofLines lines).sections, s.Laid :=
  (laid_cutFrom 0 lines).2.2

/-- Of lines behind the index `i`, the one with the number `n` is there and not empty. -/
def Filled (i : Nat) (lines : List String) (n : Nat) : Prop :=
  ∃ k l, n = i + k + 1 ∧ lines[k]? = some l ∧ classify l ≠ .empty

theorem Filled.cons {i n : Nat} {lines : List String} (h : Filled (i + 1) lines n) (l : String) :
    Filled i (l :: lines) n := by
  obtain ⟨k, l', hn, hl', hfilled⟩ := h
  exact ⟨k + 1, l', by omega, hl', hfilled⟩

/-- Records and headers stand on lines that are not empty. -/
theorem filled_cutFrom (i : Nat) (lines : List String) :
    (∀ r ∈ (cutFrom i lines).records, Filled i lines r.line) ∧
      ∀ s ∈ (cutFrom i lines).sections,
        Filled i lines s.line ∧ ∀ r ∈ s.records, Filled i lines r.line := by
  induction lines generalizing i with
  | nil => exact ⟨nofun, nofun⟩
  | cons l lines ih =>
    obtain ⟨hrecords, hsections⟩ := ih (i + 1)
    have behind : ∀ s ∈ (cutFrom (i + 1) lines).sections,
        Filled i (l :: lines) s.line ∧ ∀ r ∈ s.records, Filled i (l :: lines) r.line :=
      fun s hs => ⟨(hsections s hs).1.cons l, fun r hr => ((hsections s hs).2 r hr).cons l⟩
    have first (h : classify l ≠ .empty) : Filled i (l :: lines) (i + 1) := ⟨0, l, rfl, rfl, h⟩
    unfold cutFrom
    cases hl : classify l with
    | header name =>
      refine ⟨nofun, List.forall_mem_cons.mpr ⟨⟨first (by rw [hl]; nofun), ?_⟩, behind⟩⟩
      exact fun r hr => (hrecords r hr).cons l
    | record key value =>
      refine ⟨List.forall_mem_cons.mpr ⟨first (by rw [hl]; nofun), ?_⟩, behind⟩
      exact fun r hr => (hrecords r hr).cons l
    | empty => exact ⟨fun r hr => (hrecords r hr).cons l, behind⟩
    | other => exact ⟨fun r hr => (hrecords r hr).cons l, behind⟩

/-- What stands in front of the first section is not empty. -/
theorem filled_preambleOf (i : Nat) (lines : List String) :
    ∀ p ∈ preambleOf i lines, Filled i lines p.1 := by
  induction lines generalizing i with
  | nil => nofun
  | cons l lines ih =>
    have behind : ∀ p ∈ preambleOf (i + 1) lines, Filled i (l :: lines) p.1 :=
      fun p hp => (ih (i + 1) p hp).cons l
    have first (h : classify l ≠ .empty) : Filled i (l :: lines) (i + 1) := ⟨0, l, rfl, rfl, h⟩
    unfold preambleOf
    cases hl : classify l with
    | header name => nofun
    | empty => exact behind
    | record key value => exact List.forall_mem_cons.mpr ⟨first (by rw [hl]; nofun), behind⟩
    | other => exact List.forall_mem_cons.mpr ⟨first (by rw [hl]; nofun), behind⟩

/-- The lines in front of the first section are lines of the file. -/
theorem preambleOf_lines (i : Nat) (lines : List String) :
    ∀ p ∈ preambleOf i lines, i < p.1 ∧ p.1 ≤ i + lines.length := by
  induction lines generalizing i with
  | nil => nofun
  | cons l lines ih =>
    have behind : ∀ p ∈ preambleOf (i + 1) lines, i < p.1 ∧ p.1 ≤ i + (l :: lines).length :=
      fun p hp => by
        have := ih (i + 1) p hp
        rw [List.length_cons]
        omega
    unfold preambleOf
    cases classify l with
    | header name => nofun
    | empty => exact behind
    | record key value =>
      exact List.forall_mem_cons.mpr ⟨⟨Nat.lt_succ_self i, by simp⟩, behind⟩
    | other => exact List.forall_mem_cons.mpr ⟨⟨Nat.lt_succ_self i, by simp⟩, behind⟩

end Sections

end DriverDesk
