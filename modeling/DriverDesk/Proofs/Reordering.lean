import Mathlib.Data.List.Nodup
import Mathlib.Logic.Equiv.Basic
import DriverDesk.Proofs.Merging
import DriverDesk.Proofs.Rejections

/-!
# Reordered records

The fields of a section have no key in common, and none looks at what another one puts into the
settings. So a section says what each of its fields is given, in order, however the records of
different fields are mixed.
-/

namespace DriverDesk

variable {K σ α : Type}

/-! ## Fields that do not disturb each other -/

/-- The records with one of some keys. -/
def Record.withKeys (keys : List String) (rs : List Record) : List Record :=
  rs.filter (keys.contains ·.lowerKey)

namespace Record

variable {keys : List String} {shift : Nat → Nat}

/-- Neighbours that do not both have one of the keys may change places. -/
theorem withKeys_swap (r₁ r₂ : Record) (rs : List Record)
    (h : r₁.lowerKey ∈ keys → r₂.lowerKey ∉ keys) :
    withKeys keys (r₂ :: r₁ :: rs) = withKeys keys (r₁ :: r₂ :: rs) := by
  unfold withKeys
  by_cases h₁ : r₁.lowerKey ∈ keys
  · have h₂ := h h₁
    simp [h₁, h₂]
  · by_cases h₂ : r₂.lowerKey ∈ keys
    · simp [h₁, h₂]
    · simp [h₁, h₂]

theorem withKeys_map_move (rs : List Record) :
    withKeys keys (rs.map (·.move shift)) = (withKeys keys rs).map (·.move shift) :=
  List.filter_map ..

end Record

namespace Field

/-- Which of the fields reads its record first makes no difference to the settings. -/
def Commutes (f g : Field α) : Prop :=
  ∀ c c' a, (f.read c).value ((g.read c').value a) = (g.read c').value ((f.read c).value a)

/-- Of a record the field looks at the value and the line only. -/
def Plain (f : Field α) : Prop :=
  ∀ env name name' (r r' : Record), r'.value = r.value → r'.line = r.line →
    (f.read ⟨env, name', r'⟩).value = (f.read ⟨env, name, r⟩).value

section

variable {β γ : Type} {find? : ReadEnv → String → Nat → Option β} {put : β → α → α}

@[simp] theorem commutes {f g : Field α} {find?' : ReadEnv → String → Nat → Option γ}
    {put' : γ → α → α} [hf : f.Finds find? put] [hg : g.Finds find?' put']
    (h : ∀ b b' a, put b (put' b' a) = put' b' (put b a)) : f.Commutes g := by
  intro c c' a
  rw [hf.value, hg.value, hf.value, hg.value]
  cases find? c.env c.value c.record.line with
  | none => rfl
  | some b =>
    cases find?' c'.env c'.value c'.record.line with
    | none => rfl
    | some b' => exact h b b' a

@[simp] theorem plain {f : Field α} [h : f.Finds find? put] : f.Plain := by
  intro env name name' r r' hvalue hline
  funext a
  rw [h.value, h.value, RecordAt.value, RecordAt.value, hvalue, hline]

end

/-- What the field makes of the settings by some records, one after the other. -/
def readAll (f : Field α) (env : ReadEnv) (name : String) (rs : List Record) (a : α) : α :=
  rs.foldl (fun a r => (f.read ⟨env, name, r⟩).value a) a

variable {f : Field α} {env : ReadEnv} {name : String}

theorem Plain.readAll_congr (h : f.Plain) {rs rs' : List Record}
    (hsame : rs'.map (fun r => (r.value, r.line)) = rs.map fun r => (r.value, r.line)) (a : α) :
    f.readAll env name rs' a = f.readAll env name rs a := by
  have hpairs (rs : List Record) : f.readAll env name rs a =
      (rs.map fun r => (r.value, r.line)).foldl
        (fun a p => (f.read ⟨env, name, ⟨"", p.1, p.2⟩⟩).value a) a := by
    rw [List.foldl_map, readAll]
    refine List.foldl_ext _ _ _ fun a r _ => ?_
    exact congrFun (h env name name ⟨"", r.value, r.line⟩ r rfl rfl) a
  rw [hpairs, hpairs, hsame]

/-- A record of other fields may be read in front of a record of the field. -/
theorem update_read {fields : List (Field α)} (h : ∀ g ∈ fields, f.Commutes g) (c c' : RecordAt)
    (a : α) :
    (updateOf fields c).value ((f.read c').value a) =
      (f.read c').value ((updateOf fields c).value a) :=
  updateOf_cases
    (P := fun update => update.value ((f.read c').value a) = (f.read c').value (update.value a))
    (fun g hg _ => (h g hg _ _ a).symm) fun _ => rfl

/-- A record of other fields may be read in front of all records of the field. -/
theorem update_readAll {fields : List (Field α)} (h : ∀ g ∈ fields, f.Commutes g) (c : RecordAt)
    (rs : List Record) (a : α) :
    (updateOf fields c).value (f.readAll env name rs a) =
      f.readAll env name rs ((updateOf fields c).value a) := by
  induction rs generalizing a with
  | nil => rfl
  | cons r rs ih =>
    calc (updateOf fields c).value (f.readAll env name (r :: rs) a)
      _ = (updateOf fields c).value (f.readAll env name rs ((f.read ⟨env, name, r⟩).value a)) := rfl
      _ = f.readAll env name rs ((updateOf fields c).value ((f.read ⟨env, name, r⟩).value a)) :=
        ih _
      _ = f.readAll env name rs ((f.read ⟨env, name, r⟩).value ((updateOf fields c).value a)) := by
        rw [update_read h]
      _ = f.readAll env name (r :: rs) ((updateOf fields c).value a) := rfl

end Field

/-! ## Records sorted by fields -/

section

variable {fields : List (Field α)} {env : ReadEnv} {name : String}

/-- The first of the records may as well be read as the first one of its field. -/
theorem foldl_readAll_cons (hkeys : fields.Pairwise fun f g => f.keys.Disjoint g.keys)
    (hcommute : fields.Pairwise Field.Commutes) (r : Record) (rs : List Record) (a : α) :
    fields.foldl (fun a f => f.readAll env name (Record.withKeys f.keys (r :: rs)) a) a =
      fields.foldl (fun a f => f.readAll env name (Record.withKeys f.keys rs) a)
        ((updateOf fields ⟨env, name, r⟩).value a) := by
  induction fields generalizing a with
  | nil => rfl
  | cons f fields ih =>
    obtain ⟨hkeys, hkeys'⟩ := List.pairwise_cons.mp hkeys
    obtain ⟨hcommute, hcommute'⟩ := List.pairwise_cons.mp hcommute
    rw [List.foldl_cons, List.foldl_cons, Record.withKeys, List.filter_cons, updateOf,
      List.find?_cons]
    cases hkey : f.keys.contains r.lowerKey with
    | true =>
      refine List.foldl_ext _ _ _ fun a g hg => ?_
      have hother : g.keys.contains r.lowerKey = false :=
        Bool.eq_false_iff.mpr fun hkey' =>
          hkeys g hg (List.contains_iff_mem.mp hkey) (List.contains_iff_mem.mp hkey')
      rw [Record.withKeys, List.filter_cons, hother]
      rfl
    | false =>
      have hrest := ih hkeys' hcommute' (f.readAll env name (Record.withKeys f.keys rs) a)
      rw [Field.update_readAll hcommute] at hrest
      exact hrest

/-- The settings that some records give are what the fields make of them one after the other,
each of its own records. -/
theorem value_readRecords (hkeys : fields.Pairwise fun f g => f.keys.Disjoint g.keys)
    (hcommute : fields.Pairwise Field.Commutes) (rs : List Record) (a : α) :
    (readRecords fields env name rs a).value =
      fields.foldl (fun a f => f.readAll env name (Record.withKeys f.keys rs) a) a := by
  induction rs generalizing a with
  | nil => exact (List.foldl_fixed' (fun _ => rfl) fields).symm
  | cons r rs ih =>
    rw [readRecords, Noted.value_bind, ih, foldl_readAll_cons hkeys hcommute]

theorem notes_readRecords (rs : List Record) (a : α) :
    (readRecords fields env name rs a).notes =
      rs.flatMap fun r => (updateOf fields ⟨env, name, r⟩).notes := by
  induction rs generalizing a with
  | nil => rfl
  | cons r rs ih => rw [readRecords, Noted.notes_bind, ih, List.flatMap_cons]

end

/-! ## Kinds of sections -/

/-- The fields of a kind of section do not disturb each other. -/
structure Readable.Sortable (α : Type) [Readable α] : Prop where
  commute : (Readable.fields : List (Field α)).Pairwise Field.Commutes
  plain : ∀ f ∈ (Readable.fields : List (Field α)), f.Plain

section

variable [Arith K]

namespace Calibrated

theorem Header.sortable : Readable.Sortable (Header K) where
  commute := by simp [Readable.fields, fields]
  plain := by simp [Readable.fields, fields]

theorem PilotLamp.sortable : Readable.Sortable (PilotLamp K) where
  commute := by simp [Readable.fields, fields]
  plain := by simp [Readable.fields, fields]

theorem Needle.sortable : Readable.Sortable (Needle K) where
  commute := by simp [Readable.fields, fields]
  plain := by simp [Readable.fields, fields]

theorem LinearGauge.sortable : Readable.Sortable (LinearGauge K) where
  commute := by simp [Readable.fields, fields]
  plain := by simp [Readable.fields, fields]

theorem DigitalNumber.sortable : Readable.Sortable (DigitalNumber K) where
  commute := by simp [Readable.fields, fields]
  plain := by simp [Readable.fields, fields]

theorem DigitalGauge.sortable : Readable.Sortable (DigitalGauge K) where
  commute := by simp [Readable.fields, fields]
  plain := by simp [Readable.fields, fields]

theorem Timetable.sortable : Readable.Sortable (Timetable K) where
  commute := by simp [Readable.fields, fields]
  plain := by simp [Readable.fields, fields]

theorem asks_nodup (name : String) : ((asks K name).flatMap (·.1)).Nodup := by
  unfold asks
  split
  all_goals
    simp only [Header.asks, PilotLamp.asks, Needle.asks, LinearGauge.asks, DigitalNumber.asks,
      DigitalGauge.asks, Timetable.asks, List.flatMap_cons, List.flatMap_nil, List.cons_append,
      List.nil_append]
    decide

end Calibrated

namespace Framed

omit [Arith K] in
theorem Background.sortable : Readable.Sortable Background where
  commute := by simp [Readable.fields]
  plain := by simp [Readable.fields]

theorem View.sortable : Readable.Sortable (View K) where
  commute := by simp [Readable.fields]
  plain := by simp [Readable.fields]

theorem PressureGauge.sortable : Readable.Sortable (PressureGauge K) where
  commute := by simp [Readable.fields, fields]
  plain := by simp [Readable.fields, fields]

theorem Speedometer.sortable : Readable.Sortable (Speedometer K) where
  commute := by simp [Readable.fields, fields]
  plain := by simp [Readable.fields, fields]

theorem DigitalIndicator.sortable : Readable.Sortable (DigitalIndicator K) where
  commute := by simp [Readable.fields, fields]
  plain := by simp [Readable.fields, fields]

theorem PilotLamp.sortable : Readable.Sortable (PilotLamp K) where
  commute := by simp [Readable.fields, fields]
  plain := by simp [Readable.fields, fields]

theorem Watch.sortable : Readable.Sortable (Watch K) where
  commute := by simp [Readable.fields, fields]
  plain := by simp [Readable.fields, fields]

theorem BrakeIndicator.sortable : Readable.Sortable (BrakeIndicator K) where
  commute := by simp [Readable.fields, fields]
  plain := by simp [Readable.fields, fields]

theorem asks_nodup (name : String) : ((asks K name).flatMap (·.1)).Nodup := by
  unfold asks
  split
  all_goals
    simp only [Background.asks, View.asks, PressureGauge.asks, Speedometer.asks,
      DigitalIndicator.asks, PilotLamp.asks, Watch.asks, BrakeIndicator.asks, List.flatMap_cons,
      List.flatMap_nil, List.cons_append, List.nil_append]
    decide

end Framed

theorem Calibrated.kind_sortable {name : String} {kind : Kind} (h : kind? K name = some kind) :
    Readable.Sortable kind.Settings := by
  unfold kind? at h
  split at h
  case h_1 => cases h; exact Header.sortable
  case h_2 => cases h; exact PilotLamp.sortable
  case h_3 => cases h; exact Needle.sortable
  case h_4 => cases h; exact LinearGauge.sortable
  case h_5 => cases h; exact DigitalNumber.sortable
  case h_6 => cases h; exact DigitalGauge.sortable
  case h_7 => cases h; exact Timetable.sortable
  case h_8 => cases h

theorem Framed.kind_sortable {name : String} {kind : Kind} (h : kind? K name = some kind) :
    Readable.Sortable kind.Settings := by
  unfold kind? at h
  split at h
  case h_1 | h_2 => cases h; exact Background.sortable
  case h_3 | h_4 => cases h; exact View.sortable
  case h_5 | h_6 | h_7 | h_8 => cases h; exact PressureGauge.sortable
  case h_9 | h_10 | h_11 => cases h; exact Speedometer.sortable
  case h_12 | h_13 => cases h; exact DigitalIndicator.sortable
  case h_14 | h_15 => cases h; exact PilotLamp.sortable
  case h_16 | h_17 => cases h; exact Watch.sortable
  case h_18 | h_19 => cases h; exact BrakeIndicator.sortable
  case h_20 => cases h

namespace PanelFormat

variable (format : PanelFormat)

/-- No two keys of a section are the same. -/
theorem asks_nodup (name : String) : ((format.asks K name).flatMap (·.1)).Nodup := by
  cases format with
  | calibrated => exact Calibrated.asks_nodup name
  | framed => exact Framed.asks_nodup name

theorem kind_sortable {name : String} {kind : Kind} (h : format.kind? K name = some kind) :
    Readable.Sortable kind.Settings := by
  cases format with
  | calibrated => exact Calibrated.kind_sortable h
  | framed => exact Framed.kind_sortable h

/-- Records that give every field the same are read to the same. -/
theorem value_readAll_congr {name : String} {kind : Kind} (hkind : format.kind? K name = some kind)
    {rs rs' : List Record}
    (hsame : ∀ row ∈ format.asks K name,
      (Record.withKeys row.1 rs').map (fun r => (r.value, r.line)) =
        (Record.withKeys row.1 rs).map fun r => (r.value, r.line))
    (env : ReadEnv) (sectionName : String) (a : kind.Settings) :
    (kind.readAll env sectionName rs' a).value = (kind.readAll env sectionName rs a).value := by
  have hsortable := format.kind_sortable hkind
  have hrows := (format.kind_asks hkind).1.keys
  have hkeys : (Readable.fields : List (Field kind.Settings)).Pairwise
      fun f g => f.keys.Disjoint g.keys := by
    have hdisjoint := (List.nodup_flatMap.mp (format.asks_nodup (K := K) name)).2
    exact List.pairwise_map.mp (hrows ▸ List.pairwise_map.mpr hdisjoint)
  rw [Kind.readAll, Kind.readAll, value_readRecords hkeys hsortable.commute,
    value_readRecords hkeys hsortable.commute]
  refine List.foldl_ext _ _ _ fun a f hf => (hsortable.plain f hf).readAll_congr ?_ a
  obtain ⟨row, hrow, hkeys⟩ := List.mem_map.mp (hrows ▸ List.mem_map_of_mem hf)
  rw [← hkeys]
  exact hsame row hrow

end PanelFormat

end

/-! ## Echoes of reordered records -/

/-- The same is said in any order. -/
def Echo.reordered (shift : Nat → Nat) : Echo shift where
  Answers notes notes' := notes'.Perm (notes.map (·.move shift))
  moved _ := .refl _
  append h h' := by rw [List.map_append]; exact h.append h'

/-- Anything may be said, and no line has a number. -/
def Echo.silent : Echo fun _ => 0 where
  Answers _ _ := True
  moved _ := trivial
  append _ _ := trivial

/-- The values that the records with one of some keys give. -/
def Section.given (s : Section) (keys : List String) : List String :=
  (Record.withKeys keys s.records).map (·.value)

/-- The second section has the name of the first one, and gives every field of its kind the same
values in the same order. -/
structure Section.GivesSame [Arith K] (asks : String → List (List String × Ask K))
    (s s' : Section) : Prop where
  name : s'.name = s.name
  values : ∀ row ∈ asks s.lowerName, s'.given row.1 = s.given row.1

section

variable [Arith K] {format : PanelFormat} {shift : Nat → Nat}

/-- Two records of different fields change places. -/
theorem Kind.Echoes.swap {name : String} {kind : Kind} (hkind : format.kind? K name = some kind)
    (r₁ r₂ : Record)
    (hapart : ∀ row ∈ format.asks K name, r₁.lowerKey ∈ row.1 → r₂.lowerKey ∉ row.1)
    {rs rs' : List Record} (h : kind.Echoes (.reordered shift) rs rs') :
    kind.Echoes (.reordered shift) (r₁ :: r₂ :: rs) (r₂.move shift :: r₁.move shift :: rs') := by
  intro env sectionName a
  let kept := r₁.move shift :: r₂.move shift :: rs'
  let swapped := r₂.move shift :: r₁.move shift :: rs'
  have hkept := (h.cons r₂).cons r₁ env sectionName a
  have hkeys (row) (hrow : row ∈ format.asks K name) :
      Record.withKeys row.1 swapped = Record.withKeys row.1 kept :=
    Record.withKeys_swap (r₁.move shift) (r₂.move shift) rs' (hapart row hrow)
  have hvalue : (kind.readAll env sectionName swapped (kind.move shift a)).value =
      (kind.readAll env sectionName kept (kind.move shift a)).value :=
    format.value_readAll_congr hkind (fun row hrow => by rw [hkeys row hrow]) env sectionName _
  have hnotes : (kind.readAll env sectionName swapped (kind.move shift a)).notes.Perm
      (kind.readAll env sectionName kept (kind.move shift a)).notes := by
    rw [readAll, readAll, notes_readRecords, notes_readRecords]
    exact (List.Perm.swap ..).flatMap_right _
  exact ⟨hkept.value.trans hvalue.symm, hnotes.trans hkept.notes⟩

/-- Out of the file, a section is read to what any section is read to that gives its fields the
same. -/
theorem Section.GivesSame.echoes {s s' : Section} (h : s.GivesSame (format.asks K) s') :
    s.Echoes .silent (format.kind? K) (ofContent s'.content) := by
  refine ⟨⟨h.name, rfl⟩, fun kind hkind env name a => ⟨?_, trivial⟩⟩
  have hmoved : kind.Echoes .silent s.records (s.records.map (·.move fun _ => 0)) := .moved _ _
  refine (hmoved env name a).value.trans
    (format.value_readAll_congr hkind (fun row hrow => ?_) env name _).symm
  -- on line zero only the values tell records apart
  have hgiven (rs : List Record) :
      (Record.withKeys row.1 (rs.map (·.move fun _ => 0))).map (fun r => (r.value, r.line)) =
        ((Record.withKeys row.1 rs).map (·.value)).map (·, 0) := by
    rw [Record.withKeys_map_move, List.map_map, List.map_map]
    rfl
  have hrecords : (ofContent s'.content).records = s'.records.map (·.move fun _ => 0) := by
    rw [ofContent, content, List.map_map]
    rfl
  rw [hrecords, hgiven, hgiven]
  exact congrArg _ (h.values row hrow)

end

/-! ## Files with reordered records -/

namespace Sections

/-- The line is empty, or neither a header nor a record. -/
def Passed (line : String) : Prop := classify line = .empty ∨ classify line = .other

/-- Lines that are passed over give nothing. -/
theorem cutFrom_append_of_passed {lines : List String} (h : ∀ line ∈ lines, Passed line)
    (back : List String) (i : Nat) :
    cutFrom i (lines ++ back) = cutFrom (i + lines.length) back := by
  induction lines generalizing i with
  | nil => rfl
  | cons l lines ih =>
    have hrest := ih (fun line hline => h line (List.mem_cons_of_mem _ hline)) (i + 1)
    rw [List.cons_append, List.length_cons,
      show i + (lines.length + 1) = i + 1 + lines.length by omega, ← hrest, cutFrom]
    rcases h l List.mem_cons_self with hl | hl
    · rw [hl]
    · rw [hl]

/-- A file is cut to the same when two records of a section change places. -/
theorem cutFrom_swap [Arith K] {format : PanelFormat} {open? : Option String} {i : Nat}
    {front between : List String} {line₁ line₂ name key₁ value₁ key₂ value₂ : String}
    (back : List String) (hopen : openBehind open? front = some name)
    (hbetween : ∀ line ∈ between, Passed line)
    (h₁ : classify line₁ = .record key₁ value₁) (h₂ : classify line₂ = .record key₂ value₂)
    (hapart : ∀ row ∈ format.asks K (Text.lower name),
      Text.lower key₁ ∈ row.1 → Text.lower key₂ ∉ row.1) :
    (cutFrom i (front ++ line₁ :: (between ++ line₂ :: back))).Echoes
      (.reordered (Equiv.swap (i + front.length + 1) (i + front.length + between.length + 2)))
      (format.kind? K) open? (cutFrom i (front ++ line₂ :: (between ++ line₁ :: back))) := by
  let shift := Equiv.swap (i + front.length + 1) (i + front.length + between.length + 2)
  have hback := cutFrom_add_echoes (i := i + front.length + 1 + between.length + 1) (n := 0)
    (.reordered shift) (format.kind? K)
    (fun line hline => Equiv.swap_apply_of_ne_of_ne (by omega) (by omega)) (some name) back
  refine cutFrom_append_echoes
    (fun line hline => Equiv.swap_apply_of_ne_of_ne (by omega) (by omega)) ?_
  rw [cutFrom, h₁, cutFrom, h₂, cutFrom_append_of_passed hbetween, cutFrom, h₂,
    cutFrom_append_of_passed hbetween, cutFrom, h₁, hopen]
  refine ⟨fun name' hname kind hkind => ?_, hback.sections⟩
  cases hname
  have hrecords := (hback.records name rfl kind hkind).swap hkind
    ⟨key₁, value₁, i + front.length + 1⟩
    ⟨key₂, value₂, i + front.length + 1 + between.length + 1⟩ hapart
  have hline₁ : shift (i + front.length + 1) = i + front.length + 1 + between.length + 1 := by
    rw [Equiv.swap_apply_left]
    omega
  have hline₂ : shift (i + front.length + 1 + between.length + 1) = i + front.length + 1 := by
    rw [← hline₁, Equiv.swap_apply_self]
  rw [Record.move, Record.move, hline₁, hline₂] at hrecords
  exact hrecords

end Sections

theorem Interleaved.of_forall₂ {Kept : α → α → Prop} {Extra : α → Prop} {l l' : List α}
    (h : List.Forall₂ Kept l l') : Interleaved Kept Extra l l' := by
  induction h with
  | nil => exact .nil
  | cons ha _ ih => exact .keep ha ih

namespace Compilation

variable [Arith K]

/-- A compile that nothing stops is built of its sections out of their file. -/
theorem compileAs_agrees_of_echoes (format : PanelFormat) (source : PanelSource)
    (options : Options K) (files : FileView) (store : TextureStore σ) {signal : Signal}
    (textures : σ) {sections : List Section}
    (h : List.Forall₂ (Section.Echoes .silent (format.kind? K))
      (Sections.ofLines source.lines).sections sections)
    (hsignal : ∀ line, signal.stopsAt line = false) :
    (compileAs format source options files store signal textures).Agrees
      (ofPlan (environment source options files store) textures (Plan.make format sections)) := by
  have hprepare : Build.Echoes (K := K) (σ := σ) .silent (Plan.Echoes .silent)
      (prepare format source) (Plan.make format sections) := by
    intro env b b' hb
    exact Plan.make_echoes format (.of_forall₂ h) env _ _ ⟨hb.textures, hb.registrations, trivial⟩
  obtain ⟨hwhole, -⟩ := compileAs_ofPlan options files store textures format source hsignal
  exact hwhole.symm.trans (ofPlan_answers textures hprepare _).1

/-- The order of records of different fields does not matter. When two neighbouring records of
different fields change places, the panel compiles to the same, and the same is said in some
order, with the numbers of the two lines exchanged. And files whose sections give their fields
the same values in the same order compile to the same. -/
theorem reordered_records_agree (format : PanelFormat) (source source' : PanelSource)
    (options : Options K) (files : FileView) (store : TextureStore σ) (signal : Signal)
    (textures : σ) (hpath : source'.path = source.path)
    (hfolder : source'.trainFolder = source.trainFolder)
    (hsignal : ∀ line, signal.stopsAt line = false) :
    let c := compileAs format source options files store signal textures
    let c' := compileAs format source' options files store signal textures
    (∀ (front between back : List String)
      (line₁ line₂ name key₁ value₁ key₂ value₂ : String),
      source.lines = front ++ line₁ :: (between ++ line₂ :: back) →
      source'.lines = front ++ line₂ :: (between ++ line₁ :: back) →
      Sections.openBehind none front = some name → (∀ line ∈ between, Sections.Passed line) →
      Sections.classify line₁ = .record key₁ value₁ →
      Sections.classify line₂ = .record key₂ value₂ →
      (∀ row ∈ format.asks K (Text.lower name),
        Text.lower key₁ ∈ row.1 → Text.lower key₂ ∉ row.1) →
      let exchanged := Equiv.swap (front.length + 1) (front.length + between.length + 2)
      c.Agrees c' ∧ c'.bench.diagnostics.Perm (c.bench.diagnostics.map (·.move exchanged))) ∧
    (List.Forall₂ (Section.GivesSame (format.asks K)) (Sections.ofLines source.lines).sections
      (Sections.ofLines source'.lines).sections → c.Agrees c') := by
  intro c c'
  have hfile : source'.fileName = source.fileName := congrArg Path.displayName hpath
  constructor
  · intro front between back line₁ line₂ name key₁ value₁ key₂ value₂ hlines hlines' hopen hbetween
      h₁ h₂ hapart exchanged
    have hcut := Sections.cutFrom_swap (i := 0) back hopen hbetween h₁ h₂ hapart
    rw [← hlines, ← hlines', Nat.zero_add] at hcut
    have hpreamble : (Sections.ofLines source'.lines).preamble =
        (Sections.ofLines source.lines).preamble.map (Prod.map exchanged id) := by
      rw [hlines, hlines']
      exact Sections.preambleOf_append_of_open
        (fun line hline => Equiv.swap_apply_of_ne_of_ne (by omega) (by omega)) hopen
    have hprepare := prepare_echoes (K := K) (σ := σ) (.reordered exchanged) format hfile
      hpreamble hcut.sections
    exact compileAs_answers options files store textures hfile hfolder hprepare hsignal
  · intro hsame
    -- both files are compared with the sections of the second one out of it
    let blank := (Sections.ofLines source'.lines).sections.map fun s => Section.ofContent s.content
    have hblank : List.Forall₂ (Section.Echoes .silent (format.kind? K))
        (Sections.ofLines source.lines).sections blank :=
      List.forall₂_map_right_iff.mpr (hsame.imp fun _ _ h => h.echoes)
    have hblank' : List.Forall₂ (Section.Echoes .silent (format.kind? K))
        (Sections.ofLines source'.lines).sections blank :=
      List.forall₂_map_right_iff.mpr (List.forall₂_same.mpr fun s _ => s.echoes_ofContent _ _)
    have hagrees := compileAs_agrees_of_echoes format source options files store textures hblank
      hsignal
    have hagrees' := compileAs_agrees_of_echoes format source' options files store textures hblank'
      hsignal
    rw [environment_congr hfile hfolder] at hagrees'
    exact hagrees.trans hagrees'.symm

/-- A lamp with a layer that is no number, in front of its subject and behind it. -/
theorem reordered_records_agree_lamp :
    let files : List MemoryFile := [⟨⟨"Train/lamp.bmp"⟩, some ⟨8, 8⟩, none⟩]
    let front := ["[PilotLamp]", "DaytimeImage = lamp.bmp"]
    let source := PanelSource.ofText ⟨"Train/panel2.cfg"⟩ ⟨"Train"⟩
      "[PilotLamp]\nDaytimeImage = lamp.bmp\nLayer = high\n; of the brake\nSubject = bc\n"
    let source' := PanelSource.ofText ⟨"Train/panel2.cfg"⟩ ⟨"Train"⟩
      "[PilotLamp]\nDaytimeImage = lamp.bmp\nSubject = bc\n; of the brake\nLayer = high\n"
    let noted := PanelSource.ofText ⟨"Train/panel2.cfg"⟩ ⟨"Train"⟩
      "[PilotLamp]\nSubject = bc\nNote = new\nLayer = high\nDaytimeImage = lamp.bmp\n"
    let compiled (source : PanelSource) :=
      compileAs .calibrated source (Options.standard (K := Float))
        (Memory.view files ⟨"Compatibility"⟩) (Memory.store files) .never []
    source.lines = front ++ "Layer = high" :: ([""] ++ "Subject = bc" :: []) ∧
      source'.lines = front ++ "Subject = bc" :: ([""] ++ "Layer = high" :: []) ∧
      (compiled source).added.length = 1 ∧ (compiled source).bench.diagnostics.length = 1 ∧
      (compiled source).Agrees (compiled source') ∧
      (compiled source').bench.diagnostics.Perm
        ((compiled source).bench.diagnostics.map (·.move (Equiv.swap 3 5))) ∧
      List.Forall₂ (Section.GivesSame (PanelFormat.calibrated.asks Float))
        (Sections.ofLines source.lines).sections (Sections.ofLines noted.lines).sections ∧
      (compiled source).Agrees (compiled noted) := by
  intro files front source source' noted compiled
  have hlines : source.lines = front ++ "Layer = high" :: ([""] ++ "Subject = bc" :: []) := by
    decide
  have hlines' : source'.lines = front ++ "Subject = bc" :: ([""] ++ "Layer = high" :: []) := by
    decide
  have hopen : Sections.openBehind none front = some "PilotLamp" := by decide
  have hbetween : ∀ line ∈ [""], Sections.Passed line :=
    List.forall_mem_singleton.mpr (.inl (by decide))
  have hlayer : Sections.classify "Layer = high" = .record "Layer" "high" := by decide
  have hsubject : Sections.classify "Subject = bc" = .record "Subject" "bc" := by decide
  have hname : Text.lower "PilotLamp" = "pilotlamp" := by decide
  have himageKey : Text.lower "DaytimeImage" = "daytimeimage" := by decide
  have hlayerKey : Text.lower "Layer" = "layer" := by decide
  have hsubjectKey : Text.lower "Subject" = "subject" := by decide
  have hnoteKey : Text.lower "Note" = "note" := by decide
  have hapart : ∀ row ∈ PanelFormat.calibrated.asks Float (Text.lower "PilotLamp"),
      Text.lower "Layer" ∈ row.1 → Text.lower "Subject" ∉ row.1 := by
    rw [hname, hlayerKey, hsubjectKey]
    simp [PanelFormat.asks, Calibrated.asks, Calibrated.PilotLamp.asks]
  have hsections : (Sections.ofLines source.lines).sections =
      [⟨"PilotLamp", 1, 0, 5,
        [⟨"DaytimeImage", "lamp.bmp", 2⟩, ⟨"Layer", "high", 3⟩, ⟨"Subject", "bc", 5⟩]⟩] := by
    decide
  have hnoted : (Sections.ofLines noted.lines).sections =
      [⟨"PilotLamp", 1, 0, 5, [⟨"Subject", "bc", 2⟩, ⟨"Note", "new", 3⟩, ⟨"Layer", "high", 4⟩,
        ⟨"DaytimeImage", "lamp.bmp", 5⟩]⟩] := by
    decide
  have hsame : List.Forall₂ (Section.GivesSame (PanelFormat.calibrated.asks Float))
      (Sections.ofLines source.lines).sections (Sections.ofLines noted.lines).sections := by
    rw [hsections, hnoted]
    refine .cons ⟨rfl, ?_⟩ .nil
    rw [Section.lowerName, hname]
    simp [PanelFormat.asks, Calibrated.asks, Calibrated.PilotLamp.asks, Section.given,
      Record.withKeys, Record.lowerKey, himageKey, hlayerKey, hsubjectKey, hnoteKey]
  have hpath : source'.path = source.path := by simp [source, source']
  have hfolder : source'.trainFolder = source.trainFolder := by simp [source, source']
  have hpathNoted : noted.path = source.path := by simp [source, noted]
  have hfolderNoted : noted.trainFolder = source.trainFolder := by simp [source, noted]
  have hadded : (compiled source).added.length = 1 := by decide +kernel
  have hcount : (compiled source).bench.diagnostics.length = 1 := by decide +kernel
  have h (source' : PanelSource) := reordered_records_agree .calibrated source source'
    (Options.standard (K := Float)) (Memory.view files ⟨"Compatibility"⟩) (Memory.store files)
    .never []
  have hswapped := (h source' hpath hfolder Signal.stopsAt_never).1 _ _ _ _ _ _ _ _ _ _ hlines
    hlines' hopen hbetween hlayer hsubject hapart
  have hagrees := (h noted hpathNoted hfolderNoted Signal.stopsAt_never).2 hsame
  clear_value source source' noted
  exact ⟨hlines, hlines', hadded, hcount, hswapped.1, hswapped.2, hsame, hagrees⟩

end Compilation

end DriverDesk
