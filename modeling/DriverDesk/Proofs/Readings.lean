import DriverDesk.PanelFile.Setting
import DriverDesk.Framed.Setting

/-!
# What readings keep

A property of the settings of a section that every field keeps holds of what its records are
read to. A field only sees records with one of its keys.
-/

namespace DriverDesk

variable {α β : Type} {env : ReadEnv} {name : String} {rs : List Record} {P : α → Prop}

namespace Field

/-- Reading one of the records of a section of the file into settings with `P` gives settings
with `P`. -/
def KeepsIn (env : ReadEnv) (name : String) (rs : List Record) (P : α → Prop) (f : Field α) :
    Prop :=
  ∀ r ∈ rs, r.lowerKey ∈ f.keys → ∀ a, P a → P ((f.read ⟨env, name, r⟩).value a)

/-- In every file, reading one of the records into settings with `P` gives settings with `P`. -/
def Keeps (rs : List Record) (P : α → Prop) (f : Field α) : Prop :=
  ∀ env name, ∀ r ∈ rs, r.lowerKey ∈ f.keys → ∀ a, P a → P ((f.read ⟨env, name, r⟩).value a)

theorem always_keeps {keys : List String} {read : RecordAt → Noted β} {put : β → α → α}
    (h : ∀ b a, P a → P (put b a)) : (always keys read put).Keeps rs P :=
  fun env name r _ _ a ha => h (read ⟨env, name, r⟩).value a ha

theorem subject_keeps {put : SubjectSetting → α → α}
    (h : ∀ r ∈ rs, r.lowerKey = "subject" → ∀ name a, P a → P (put ⟨name, some r.line⟩ a)) :
    (subject put).Keeps rs P :=
  fun _ _ r hr hkey a ha => h r hr (List.mem_singleton.mp hkey) r.value a ha

theorem keeping_keeps {keys : List String} {read : RecordAt → Noted (Option β)}
    {put : β → α → α} (h : ∀ c b, (read c).value = some b → ∀ a, P a → P (put b a)) :
    (keeping keys read put).Keeps rs P := by
  intro env name r _ _ a ha
  unfold keeping
  cases hread : (read ⟨env, name, r⟩).value with
  | none => simpa [hread] using ha
  | some b => simpa [hread] using h _ b hread a ha

/-- What a field has after a test has passed it. -/
theorem testedNumber_keeps {K : Type} [Arith K] {keys : List String} {test : K → Bool}
    {message : String} {put : K → α → α} (h : ∀ x, test x = true → ∀ a, P a → P (put x a)) :
    (testedNumber keys test message put).Keeps rs P := by
  refine keeping_keeps fun c x hx a ha => h x ?_ a ha
  rw [Noted.value_bind] at hx
  cases hread : (c.number "Value" c.value : Noted (Option K)).value with
  | none => rw [hread] at hx; cases hx
  | some y =>
    rw [hread] at hx
    dsimp only at hx
    split at hx
    next htest => cases hx; exact htest
    next => cases hx

end Field

/-- A unit is one of its table. -/
theorem Framed.mem_of_unitOf {K : Type} {table : List (List String × K)} {c : RecordAt} {u : K}
    (h : (unitOf table c).value = some u) : u ∈ table.map (·.2) := by
  unfold unitOf at h
  split at h
  next row hrow =>
    cases h
    exact List.mem_map_of_mem (List.mem_of_find?_eq_some hrow)
  next => cases h

/-- The update of a record is that of a field with its key, or none. -/
theorem updateOf_cases {P : Noted (α → α) → Prop} {fields : List (Field α)} {c : RecordAt}
    (hfield : ∀ f ∈ fields, c.record.lowerKey ∈ f.keys → P (f.read c))
    (hnone : (∀ f ∈ fields, c.record.lowerKey ∉ f.keys) → P (pure id)) : P (updateOf fields c) := by
  unfold updateOf
  split
  next f hf =>
    have hkey := List.find?_some hf
    exact hfield f (List.mem_of_find?_eq_some hf) (List.contains_iff_mem.mp hkey)
  next hf => exact hnone fun f hmem hkey =>
    List.find?_eq_none.mp hf f hmem (List.contains_iff_mem.mpr hkey)

theorem readRecords_keepsIn {fields : List (Field α)}
    (h : ∀ f ∈ fields, f.KeepsIn env name rs P) {a : α} (ha : P a) :
    P (readRecords fields env name rs a).value := by
  induction rs generalizing a with
  | nil => exact ha
  | cons r rs ih =>
    have hr : P ((updateOf fields ⟨env, name, r⟩).value a) :=
      updateOf_cases (P := fun update => P (update.value a))
        (fun f hf hkey => h f hf r (by simp) hkey a ha) fun _ => ha
    exact ih (fun f hf r' hr' => h f hf r' (by simp [hr'])) hr

theorem readRecords_keeps {fields : List (Field α)} (h : ∀ f ∈ fields, f.Keeps rs P)
    (env : ReadEnv) (name : String) {a : α} (ha : P a) :
    P (readRecords fields env name rs a).value :=
  readRecords_keepsIn (fun f hf => h f hf env name) ha

/-- A property that one of the records brings about, and every field keeps, holds in the end. -/
theorem readRecords_establishes {fields : List (Field α)}
    (h : ∀ f ∈ fields, f.KeepsIn env name rs P) {r : Record} (hr : r ∈ rs)
    (hset : ∀ a, P ((updateOf fields ⟨env, name, r⟩).value a)) (a : α) :
    P (readRecords fields env name rs a).value := by
  induction rs generalizing a with
  | nil => exact absurd hr List.not_mem_nil
  | cons r' rs ih =>
    have hrest (f : Field α) (hf : f ∈ fields) : f.KeepsIn env name rs P :=
      fun r' hr' => h f hf r' (List.mem_cons_of_mem _ hr')
    rcases List.mem_cons.mp hr with rfl | hr
    · exact readRecords_keepsIn hrest (hset a)
    · exact ih hrest hr _

/-! ## Values without diagnostics -/

theorem RecordAt.number_eq {K : Type} [Arith K] {c : RecordAt} {what text : String} {d : Decimal}
    (hempty : text.isEmpty = false) (h : Numeral.lenient? text = some d) :
    (c.number what text : Noted (Option K)) = pure (some (Arith.ofDecimal d)) := by
  unfold number readOr
  dsimp only
  rw [hempty, h]
  rfl

theorem Framed.point_eq {K : Type} [Arith K] {c : RecordAt} {x y : String} {dx dy : Decimal}
    (hfields : Argument.fields c.value = [x, y]) (hx : x.isEmpty = false)
    (hy : y.isEmpty = false) (hdx : Numeral.lenient? x = some dx)
    (hdy : Numeral.lenient? y = some dy) :
    (point c : Noted (Option (Option K × Option K))) =
      pure (some (some (Arith.ofDecimal dx), some (Arith.ofDecimal dy))) := by
  unfold point
  rw [hfields]
  dsimp only
  rw [RecordAt.number_eq hx hdx, RecordAt.number_eq hy hdy]
  rfl

namespace Field

variable {c : RecordAt} {keys : List String}

theorem read_image {path? : Option Path} {put : Option Path → α → α}
    (h : c.image = pure path?) : (image keys put).read c = pure (put path?) := by
  unfold image always
  dsimp only
  rw [h]
  rfl

theorem read_keeping {read : RecordAt → Noted (Option β)} {b : β} {put : β → α → α}
    (h : read c = pure (some b)) : (keeping keys read put).read c = pure (put b) := by
  unfold keeping
  dsimp only
  rw [h]
  rfl

end Field

/-- A record is read by the first field that goes by its key. -/
theorem readRecords_cons {fields : List (Field α)} {f : Field α} {env : ReadEnv} {name : String}
    {r : Record} {a : α} {update : α → α}
    (hfield : fields.find? (·.keys.contains r.lowerKey) = some f)
    (hread : f.read ⟨env, name, r⟩ = pure update) :
    readRecords fields env name (r :: rs) a = readRecords fields env name rs (update a) := by
  rw [readRecords, updateOf, hfield]
  dsimp only
  rw [hread]
  rfl

end DriverDesk
