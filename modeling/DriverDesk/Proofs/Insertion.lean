import DriverDesk.Host.Memory
import DriverDesk.Proofs.Agreement
import DriverDesk.Proofs.CleanLines

/-!
# Inserted lines

Lines that mean nothing where they stand are put into a panel file. The panel compiles to
the same, and diagnostics point to the same lines under their new numbers. Lines put into
a text are lines put into its source, by `PanelSource.lines_ofText_append`.
-/

namespace DriverDesk

/-- The new number of a line when `count` lines are put in behind the first `before` ones. -/
def renumber (before count line : Nat) : Nat := if line ≤ before then line else line + count

namespace Sections

/-! ## Idle lines -/

/-- The name of the section that is open behind some lines. -/
def openBehind (open? : Option String) (lines : List String) : Option String :=
  lines.foldl (fun open? line => match classify line with
    | .header name => some name
    | _ => open?) open?

/-- The line means nothing in the open section: it is empty, or it stands in a section and
is neither a header nor a record with a key of that section. -/
def Line.Idle (keys? : String → Option (List String)) (open? : Option String) : Line → Prop
  | .empty => True
  | .header _ => False
  | .record key _ =>
    ∃ name, open? = some name ∧
      ∀ keys, keys? (Text.lower name) = some keys → Text.lower key ∉ keys
  | .other => ∃ name, open? = some name

/-- There are no lines, or the first is a header. -/
def Headed (lines : List String) : Prop :=
  ∀ line ∈ lines.head?, ∃ name, classify line = .header name

/-- Lines that mean nothing between an open section and the lines behind. -/
inductive Idle (keys? : String → Option (List String)) (open? : Option String)
    (back : List String) : List String → Prop
  /-- Lines that mean nothing in the section they are put into. -/
  | within {lines : List String} (h : ∀ line ∈ lines, (classify line).Idle keys? open?) :
      Idle keys? open? back lines
  /-- A section whose name stands for nothing, in front of a header or at the end. -/
  | aside {header name : String} {body : List String} (hheader : classify header = .header name)
      (hname : keys? (Text.lower name) = none)
      (hbody : ∀ line ∈ body, ∀ name, classify line ≠ .header name) (hback : Headed back) :
      Idle keys? open? back (header :: body)

variable {K : Type} [Arith K] {format : PanelFormat} {keys? : String → Option (List String)}
  {kind? : String → Option Kind} {shift : Nat → Nat} {T : Echo shift} {open? : Option String}
  {i j n : Nat} {l : String} {ls ls' front inserted back : List String}

theorem Line.Idle.ne_header {line : Line} (h : line.Idle keys? open?) (name : String) :
    line ≠ .header name := by
  rintro rfl
  exact h

/-- In front of the first section only empty lines mean nothing. -/
theorem Line.Idle.eq_empty {line : Line} (h : line.Idle keys? none) : line = .empty := by
  cases line with
  | empty => rfl
  | header name => exact h.elim
  | record key value => obtain ⟨_, hopen, _⟩ := h; cases hopen
  | other => obtain ⟨_, hopen⟩ := h; cases hopen

/-! ## Cutting -/

/-- The second cut is the first one moved: the records of the open section are read to the
same, and so are the sections, but for some whose names stand for nothing. -/
structure Cut.Echoes (T : Echo shift) (kind? : String → Option Kind) (open? : Option String)
    (c c' : Cut) : Prop where
  records : ∀ name, open? = some name → ∀ kind, kind? (Text.lower name) = some kind →
    kind.Echoes T c.records c'.records
  sections : Interleaved (Section.Echoes T kind?) (Section.Unknown kind?) c.sections c'.sections

/-- One line in front of lines that are cut alike. -/
theorem cutFrom_cons_echoes (hline : shift (i + 1) = j + 1)
    (h : (cutFrom (i + 1) ls).Echoes T kind? (openBehind open? [l]) (cutFrom (j + 1) ls')) :
    (cutFrom i (l :: ls)).Echoes T kind? open? (cutFrom j (l :: ls')) := by
  obtain ⟨hrecords, hsections⟩ := h
  rw [openBehind, List.foldl_cons, List.foldl_nil] at hrecords
  rw [cutFrom, cutFrom]
  cases hl : classify l with
  | header name =>
    -- what stood open behind the line are the records of the section it opens
    rw [hl] at hrecords
    exact ⟨fun _ _ _ _ => .nil, .keep ⟨⟨rfl, hline.symm⟩, hrecords name rfl⟩ hsections⟩
  | record key value =>
    rw [hl] at hrecords
    refine ⟨fun name hopen kind hkind => ?_, hsections⟩
    have hrest := (hrecords name hopen kind hkind).cons ⟨key, value, i + 1⟩
    rw [Record.move, hline] at hrest
    exact hrest
  | empty =>
    rw [hl] at hrecords
    exact ⟨hrecords, hsections⟩
  | other =>
    rw [hl] at hrecords
    exact ⟨hrecords, hsections⟩

/-- Lines that stay where they are, in front of lines that are cut alike. -/
theorem cutFrom_append_echoes (hfront : ∀ line, line ≤ i + front.length → shift line = line)
    (h : (cutFrom (i + front.length) ls).Echoes T kind? (openBehind open? front)
      (cutFrom (i + front.length) ls')) :
    (cutFrom i (front ++ ls)).Echoes T kind? open? (cutFrom i (front ++ ls')) := by
  -- each line in front hands on the section that is open behind it
  induction front generalizing i open? with
  | nil => exact h
  | cons l front ih =>
    rw [List.length_cons] at hfront h
    rw [show i + (front.length + 1) = i + 1 + front.length by omega] at hfront h
    exact cutFrom_cons_echoes (hfront _ (by omega)) (ih hfront h)

/-- Lines are cut alike further on. -/
theorem cutFrom_add_echoes (T : Echo shift) (kind? : String → Option Kind)
    (hshift : ∀ line, i < line → shift line = line + n) (open? : Option String)
    (lines : List String) :
    (cutFrom i lines).Echoes T kind? open? (cutFrom (i + n) lines) := by
  induction lines generalizing i open? with
  | nil => exact ⟨fun _ _ _ _ => .nil, .nil⟩
  | cons l ls ih =>
    refine cutFrom_cons_echoes (by rw [hshift (i + 1) (by omega)]; omega) ?_
    rw [show i + n + 1 = i + 1 + n by omega]
    exact ih (fun line hline => hshift line (by omega)) _

/-- Lines without headers open no section. -/
theorem sections_cutFrom_append {body : List String}
    (hbody : ∀ line ∈ body, ∀ name, classify line ≠ .header name) (back : List String) (i : Nat) :
    (cutFrom i (body ++ back)).sections = (cutFrom (i + body.length) back).sections := by
  induction body generalizing i with
  | nil => rfl
  | cons l body ih =>
    have hrest := ih (fun line hline => hbody line (List.mem_cons_of_mem _ hline)) (i + 1)
    rw [List.cons_append, List.length_cons,
      show i + (body.length + 1) = i + 1 + body.length by omega, ← hrest, cutFrom]
    cases hl : classify l with
    | header name => exact absurd hl (hbody l List.mem_cons_self name)
    | _ => rfl

/-- Idle lines give no record that the open section heeds. -/
theorem records_cutFrom_append {name : String} {kind : Kind}
    (hkeys : keys? (Text.lower name) = some kind.keys)
    (h : ∀ line ∈ inserted, (classify line).Idle keys? (some name)) {rs : List Record}
    (hrest : kind.Echoes T rs (cutFrom (i + inserted.length) back).records) :
    kind.Echoes T rs (cutFrom i (inserted ++ back)).records := by
  induction inserted generalizing i with
  | nil => exact hrest
  | cons l inserted ih =>
    have hl := h l List.mem_cons_self
    rw [List.length_cons,
      show i + (inserted.length + 1) = i + 1 + inserted.length by omega] at hrest
    have hrest := ih (fun line hline => h line (List.mem_cons_of_mem _ hline)) hrest
    rw [List.cons_append, cutFrom]
    cases hclass : classify l with
    | header name => rw [hclass] at hl; exact hl.elim
    | record key value =>
      rw [hclass] at hl
      obtain ⟨_, hopen, hkey⟩ := hl
      cases hopen
      exact hrest.skip (hkey _ hkeys)
    | empty => exact hrest
    | other => exact hrest

theorem records_cutFrom_of_headed (h : Headed back) (i : Nat) : (cutFrom i back).records = [] := by
  cases back with
  | nil => rfl
  | cons l back =>
    obtain ⟨name, hl⟩ := h l rfl
    rw [cutFrom, hl]

theorem cutFrom_idle_echoes (T : Echo shift)
    (hshift : ∀ line, i < line → shift line = line + inserted.length)
    (h : Idle (format.keys? K) open? back inserted) :
    (cutFrom i back).Echoes T (format.kind? K) open? (cutFrom i (inserted ++ back)) := by
  have hback := cutFrom_add_echoes T (format.kind? K) hshift open? back
  cases h with
  | within h =>
    refine ⟨fun name hopen kind hkind => ?_, ?_⟩
    · subst hopen
      have hkeys : format.keys? K (Text.lower name) = some kind.keys := by
        rw [PanelFormat.keys?, hkind]
        rfl
      exact records_cutFrom_append hkeys h (hback.records name rfl kind hkind)
    · rw [sections_cutFrom_append fun line hline => (h line hline).ne_header]
      exact hback.sections
  | @aside header name body hheader hname hbody hheaded =>
    have hsections := sections_cutFrom_append hbody back (i + 1)
    rw [show i + 1 + body.length = i + (header :: body).length by
      rw [List.length_cons]; omega] at hsections
    rw [PanelFormat.keys?, Option.map_eq_none_iff] at hname
    rw [List.cons_append, cutFrom, hheader]
    refine ⟨fun name hopen kind hkind => ?_, .extra hname ?_⟩
    · rw [records_cutFrom_of_headed hheaded]
      exact .nil
    · rw [hsections]
      exact hback.sections

/-- Idle lines leave the cut as it was, moved. -/
theorem cutFrom_insert_echoes (T : Echo shift)
    (hfront : ∀ line, line ≤ i + front.length → shift line = line)
    (hback : ∀ line, i + front.length < line → shift line = line + inserted.length)
    (h : Idle (format.keys? K) (openBehind open? front) back inserted) :
    (cutFrom i (front ++ back)).Echoes T (format.kind? K) open?
      (cutFrom i (front ++ (inserted ++ back))) :=
  cutFrom_append_echoes hfront (cutFrom_idle_echoes T hback h)

/-! ## In front of the first section -/

theorem preambleOf_add (hshift : ∀ line, i < line → shift line = line + n) (lines : List String) :
    preambleOf (i + n) lines = (preambleOf i lines).map (Prod.map shift id) := by
  induction lines generalizing i with
  | nil => rfl
  | cons l ls ih =>
    have hrest := ih (i := i + 1) fun line hline => hshift line (by omega)
    rw [show i + 1 + n = i + n + 1 by omega] at hrest
    have hline : shift (i + 1) = i + n + 1 := by rw [hshift (i + 1) (by omega)]; omega
    unfold preambleOf
    cases classify l with
    | header name => rfl
    | empty => exact hrest
    | _ =>
      rw [hrest, ← hline]
      rfl

theorem preambleOf_of_headed (h : Headed back) (i : Nat) : preambleOf i back = [] := by
  cases back with
  | nil => rfl
  | cons l back =>
    obtain ⟨name, hl⟩ := h l rfl
    rw [preambleOf, hl]

theorem preambleOf_append_of_empty (h : ∀ line ∈ inserted, classify line = .empty)
    (back : List String) (i : Nat) :
    preambleOf i (inserted ++ back) = preambleOf (i + inserted.length) back := by
  induction inserted generalizing i with
  | nil => rfl
  | cons l inserted ih =>
    rw [List.cons_append, preambleOf, h l List.mem_cons_self, List.length_cons,
      show i + (inserted.length + 1) = i + 1 + inserted.length by omega]
    exact ih (fun line hline => h line (List.mem_cons_of_mem _ hline)) (i + 1)

/-- What follows lines that stay where they are is in front of the first section only if they
open none. -/
theorem preambleOf_append (hfront : ∀ line, line ≤ i + front.length → shift line = line)
    (h : openBehind none front = none → preambleOf (i + front.length) ls' =
      (preambleOf (i + front.length) ls).map (Prod.map shift id)) :
    preambleOf i (front ++ ls') = (preambleOf i (front ++ ls)).map (Prod.map shift id) := by
  induction front generalizing i with
  | nil => exact h rfl
  | cons l front ih =>
    rw [List.length_cons, show i + (front.length + 1) = i + 1 + front.length by omega] at hfront h
    have hrest := fun h => ih (i := i + 1) hfront h
    have hline : shift (i + 1) = i + 1 := hfront (i + 1) (by omega)
    rw [openBehind, List.foldl_cons] at h
    rw [List.cons_append, List.cons_append, preambleOf, preambleOf]
    cases hl : classify l with
    | header name => rfl
    | empty =>
      rw [hl] at h
      exact hrest h
    | _ =>
      rw [hl] at h
      dsimp only
      rw [hrest h, List.map_cons, Prod.map, hline]
      rfl

/-- Lines behind a header are not in front of the first section. -/
theorem preambleOf_append_of_open {name : String}
    (hfront : ∀ line, line ≤ i + front.length → shift line = line)
    (hopen : openBehind none front = some name) :
    preambleOf i (front ++ ls') = (preambleOf i (front ++ ls)).map (Prod.map shift id) := by
  refine preambleOf_append hfront fun hnone => ?_
  rw [hopen] at hnone
  cases hnone

/-- Idle lines leave the lines in front of the first section as they were, moved. -/
theorem preambleOf_insert (hfront : ∀ line, line ≤ i + front.length → shift line = line)
    (hback : ∀ line, i + front.length < line → shift line = line + inserted.length)
    (h : Idle keys? (openBehind none front) back inserted) :
    preambleOf i (front ++ (inserted ++ back)) =
      (preambleOf i (front ++ back)).map (Prod.map shift id) := by
  refine preambleOf_append hfront fun hopen => ?_
  rw [hopen] at h
  cases h with
  | within h =>
    rw [preambleOf_append_of_empty fun line hline => (h line hline).eq_empty]
    exact preambleOf_add hback back
  | aside hheader hname hbody hheaded =>
    rw [preambleOf_of_headed hheaded, List.cons_append, preambleOf, hheader]
    rfl

end Sections

/-! ## Compiling -/

namespace Compilation

variable {K σ : Type} [Arith K]

/-- Idle lines leave a compile as it was: empty lines anywhere, lines that a section does
not heed within it, and whole sections that the format does not know. Only the numbers of
the lines behind them grow. -/
theorem idle_lines_renumber (format : PanelFormat) (source source' : PanelSource)
    (options : Options K) (files : FileView) (store : TextureStore σ) (signal : Signal)
    (textures : σ) (front inserted back : List String)
    (hpath : source'.path = source.path) (hfolder : source'.trainFolder = source.trainFolder)
    (hlines : source.lines = front ++ back) (hlines' : source'.lines = front ++ inserted ++ back)
    (hidle : Sections.Idle (format.keys? K) (Sections.openBehind none front) back inserted)
    (hsignal : ∀ line, signal.stopsAt line = false) :
    let c := compileAs format source options files store signal textures
    let c' := compileAs format source' options files store signal textures
    c'.camera = c.camera ∧ c'.added = c.added ∧
      (∀ (cars : Cars K) (car : Nat), c'.commit cars car = c.commit cars car) ∧
      c'.bench.registrations = c.bench.registrations ∧ c'.bench.textures = c.bench.textures ∧
      c'.bench.diagnostics =
        c.bench.diagnostics.map (·.move (renumber front.length inserted.length)) := by
  intro c c'
  have hfront : ∀ line, line ≤ 0 + front.length →
      renumber front.length inserted.length line = line :=
    fun line hline => if_pos (by omega)
  have hback : ∀ line, 0 + front.length < line →
      renumber front.length inserted.length line = line + inserted.length :=
    fun line hline => if_neg (by omega)
  rw [List.append_assoc] at hlines'
  have hfile : source'.fileName = source.fileName := congrArg Path.displayName hpath
  have hprepare := prepare_echoes (K := K) (σ := σ) (.exact _) format hfile
    (by rw [hlines, hlines']; exact Sections.preambleOf_insert hfront hback hidle)
    (by rw [hlines, hlines']; exact (Sections.cutFrom_insert_echoes _ hfront hback hidle).sections)
  obtain ⟨hagrees, hdiagnostics⟩ :=
    compileAs_answers options files store textures hfile hfolder hprepare hsignal
  exact ⟨hagrees.camera, hagrees.added, hagrees.commit, hagrees.registrations,
    hagrees.textures, hdiagnostics⟩

/-- A comment and a record that no lamp has, behind the header of a lamp. -/
theorem idle_lines_renumber_lamp :
    let files : List MemoryFile := [⟨⟨"Train/lamp.bmp"⟩, some ⟨8, 8⟩, none⟩]
    let source := PanelSource.ofText ⟨"Train/panel2.cfg"⟩ ⟨"Train"⟩
      "[PilotLamp]\nDaytimeImage = lamp.bmp\nLayer = high\n"
    let source' := PanelSource.ofText ⟨"Train/panel2.cfg"⟩ ⟨"Train"⟩
      "[PilotLamp]\n; by day only\nNote = new\nDaytimeImage = lamp.bmp\nLayer = high\n"
    let back := ["DaytimeImage = lamp.bmp", "Layer = high"]
    let compiled (source : PanelSource) :=
      compileAs .calibrated source (Options.standard (K := Float))
        (Memory.view files ⟨"Compatibility"⟩) (Memory.store files) .never []
    source.lines = ["[PilotLamp]"] ++ back ∧
      source'.lines = ["[PilotLamp]"] ++ ["", "Note = new"] ++ back ∧
      Sections.Idle (PanelFormat.calibrated.keys? Float)
        (Sections.openBehind none ["[PilotLamp]"]) back ["", "Note = new"] ∧
      (compiled source).added.length = 1 ∧ (compiled source).bench.diagnostics.length = 1 ∧
      (compiled source').added = (compiled source).added ∧
      (compiled source').bench.diagnostics =
        (compiled source).bench.diagnostics.map (·.move (renumber 1 2)) := by
  intro files source source' back compiled
  have hlines : source.lines = ["[PilotLamp]"] ++ back := by decide
  have hlines' : source'.lines = ["[PilotLamp]"] ++ ["", "Note = new"] ++ back := by decide
  have hempty : Sections.classify "" = .empty := by decide
  have hrecord : Sections.classify "Note = new" = .record "Note" "new" := by decide
  have hkey : Text.lower "Note" ∉ keysOf (Calibrated.PilotLamp Float) := by decide
  have hname : Text.lower "PilotLamp" = "pilotlamp" := by decide
  have hidle : Sections.Idle (PanelFormat.calibrated.keys? Float)
      (Sections.openBehind none ["[PilotLamp]"]) back ["", "Note = new"] := by
    refine .within (List.forall_mem_cons.mpr ⟨?_, List.forall_mem_singleton.mpr ?_⟩)
    · rw [hempty]
      trivial
    · rw [hrecord]
      refine ⟨"PilotLamp", by decide, fun keys hkeys => ?_⟩
      rw [hname] at hkeys
      cases hkeys
      exact hkey
  have hpath : source'.path = source.path := by simp [source, source']
  have hfolder : source'.trainFolder = source.trainFolder := by simp [source, source']
  have hadded : (compiled source).added.length = 1 := by decide +kernel
  have hcount : (compiled source).bench.diagnostics.length = 1 := by decide +kernel
  have h := idle_lines_renumber .calibrated source source' (Options.standard (K := Float))
    (Memory.view files ⟨"Compatibility"⟩) (Memory.store files) .never [] _ _ _ hpath hfolder
    hlines hlines' hidle Signal.stopsAt_never
  clear_value source source'
  exact ⟨hlines, hlines', hidle, hadded, hcount, h.2.1, h.2.2.2.2.2⟩

end Compilation

end DriverDesk
