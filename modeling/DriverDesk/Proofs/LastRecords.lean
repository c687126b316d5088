import DriverDesk.Proofs.Complaints
import DriverDesk.Proofs.Headers
import DriverDesk.Proofs.SplitFields

/-!
# The last records of a section

Of several records with one key the last that can be used counts. A part of the settings is
`owned` by some keys if the records with these keys are all that changes it, and what is noted
of them is noted of the section.
-/

namespace DriverDesk

variable {α β : Type}

/-! ## Parts of the settings -/

/-- For the field, `part` of the settings belongs to the records with the keys, and is set to
what `said` reads there. -/
structure Field.Owned (keys : List String) (said : RecordAt → Noted (Option β)) (part : α → β)
    (f : Field α) : Prop where
  own : ∀ c, c.record.lowerKey ∈ f.keys → c.record.lowerKey ∈ keys →
    (f.read c).notes = (said c).notes ∧
      ∀ a, part ((f.read c).value a) = (said c).value.getD (part a)
  other : ∀ c, c.record.lowerKey ∈ f.keys → c.record.lowerKey ∉ keys →
    ∀ a, part ((f.read c).value a) = part a

namespace Field

variable {keys keys' : List String} {said : RecordAt → Noted (Option β)} {part : α → β}

@[simp] theorem keys_always {γ : Type} (read : RecordAt → Noted γ) (put : γ → α → α) :
    (always keys read put).keys = keys := rfl

@[simp] theorem keys_keeping {γ : Type} (read : RecordAt → Noted (Option γ)) (put : γ → α → α) :
    (keeping keys read put).keys = keys := rfl

/-- A field with other keys that leaves the part alone. -/
theorem Owned.of_keeps {f : Field α} (hkeys : ∀ key ∈ f.keys, key ∉ keys)
    (hpart : ∀ c a, part ((f.read c).value a) = part a) : f.Owned keys said part :=
  ⟨fun _ hkey hkey' => absurd hkey' (hkeys _ hkey), fun c _ _ => hpart c⟩

@[simp] theorem always_owned_of_keeps {γ : Type} {read : RecordAt → Noted γ} {put : γ → α → α}
    (hkeys : ∀ key ∈ keys', key ∉ keys) (hput : ∀ b a, part (put b a) = part a) :
    (always keys' read put).Owned keys said part :=
  .of_keeps hkeys fun _ a => hput _ a

@[simp] theorem keeping_owned_of_keeps {γ : Type} {read : RecordAt → Noted (Option γ)}
    {put : γ → α → α} (hkeys : ∀ key ∈ keys', key ∉ keys)
    (hput : ∀ b a, part (put b a) = part a) :
    (keeping keys' read put).Owned keys said part :=
  .of_keeps hkeys fun c a => by
    rw [value_keeping]
    cases (read c).value with
    | none => rfl
    | some b => exact hput b a

/-- What a record says, which may be nothing. -/
def saysAlways (read : RecordAt → Noted β) (c : RecordAt) : Noted (Option β) :=
  ⟨some (read c).value, (read c).notes⟩

/-- What a record says, if it can be used. -/
def saysUsable (read : RecordAt → Noted (Option β)) (c : RecordAt) : Noted (Option (Option β)) :=
  ⟨(read c).value.map some, (read c).notes⟩

/-- What becomes of the value of a record, if it can be used. -/
def saysOf {γ : Type} (g : γ → β) (read : RecordAt → Noted (Option γ)) (c : RecordAt) :
    Noted (Option β) :=
  ⟨(read c).value.map g, (read c).notes⟩

@[simp] theorem always_owned {read : RecordAt → Noted β} {put : β → α → α}
    (hput : ∀ b a, part (put b a) = b) :
    (always keys read put).Owned keys (saysAlways read) part :=
  ⟨fun _ _ _ => ⟨List.append_nil _, fun a => hput _ a⟩,
    fun _ hkey hkey' => absurd hkey hkey'⟩

theorem keeping_owned_of {γ : Type} {g : γ → β} {read : RecordAt → Noted (Option γ)}
    {put : γ → α → α} (hput : ∀ x a, part (put x a) = g x) :
    (keeping keys read put).Owned keys (saysOf g read) part := by
  refine ⟨fun c _ _ => ⟨?_, fun a => ?_⟩, fun _ hkey hkey' => absurd hkey hkey'⟩
  · unfold keeping saysOf
    cases h : (read c).value with
    | none => simp [h]
    | some x => simp [h]
  · rw [value_keeping, saysOf]
    cases (read c).value with
    | none => rfl
    | some x => exact hput x a

@[simp] theorem keeping_owned {read : RecordAt → Noted (Option β)} {put : β → α → α}
    {part : α → Option β} (hput : ∀ b a, part (put b a) = some b) :
    (keeping keys read put).Owned keys (saysUsable read) part :=
  keeping_owned_of hput

end Field

/-- In a kind of section, `part` of the settings belongs to the records with the keys. -/
def Readable.Owned [Readable α] (keys : List String) (said : RecordAt → Noted (Option β))
    (part : α → β) : Prop :=
  (∀ f ∈ (Readable.fields : List (Field α)), f.Owned keys said part) ∧
    ∀ key ∈ keys, ∃ f ∈ (Readable.fields : List (Field α)), key ∈ f.keys

/-! ## Records one after the other -/

/-- What a record of a section says, if it has one of the keys. -/
def Record.said? (env : ReadEnv) (name : String) (keys : List String)
    (said : RecordAt → Noted (Option β)) (r : Record) : Option β :=
  if r.lowerKey ∈ keys then (said ⟨env, name, r⟩).value else none

section

variable {keys : List String} {said : RecordAt → Noted (Option β)} {part : α → β}
  {fields : List (Field α)}

theorem part_updateOf (hfields : ∀ f ∈ fields, f.Owned keys said part)
    (hkeys : ∀ key ∈ keys, ∃ f ∈ fields, key ∈ f.keys) (c : RecordAt) :
    (c.record.lowerKey ∈ keys → (updateOf fields c).notes = (said c).notes) ∧
      ∀ a, part ((updateOf fields c).value a) =
        (c.record.said? c.env c.sectionName keys said).getD (part a) := by
  unfold Record.said?
  refine updateOf_cases (P := fun update =>
    (c.record.lowerKey ∈ keys → update.notes = (said c).notes) ∧ ∀ a, part (update.value a) =
      (if c.record.lowerKey ∈ keys then (said c).value else none).getD (part a))
    (fun f hf hkey => ?_) fun hnone => ?_
  · by_cases hown : c.record.lowerKey ∈ keys
    · rw [if_pos hown]
      obtain ⟨hnotes, hvalue⟩ := (hfields f hf).own c hkey hown
      exact ⟨fun _ => hnotes, hvalue⟩
    · rw [if_neg hown]
      exact ⟨fun h => absurd h hown, (hfields f hf).other c hkey hown⟩
  · have hown : c.record.lowerKey ∉ keys := fun h => by
      obtain ⟨f, hf, hkey⟩ := hkeys _ h
      exact hnone f hf hkey
    rw [if_neg hown]
    exact ⟨fun h => absurd h hown, fun _ => rfl⟩

/-- A part of the settings is what its records say last, and what is noted of them is noted. -/
theorem part_readRecords (hfields : ∀ f ∈ fields, f.Owned keys said part)
    (hkeys : ∀ key ∈ keys, ∃ f ∈ fields, key ∈ f.keys) (env : ReadEnv) (name : String)
    (rs : List Record) (a : α) :
    part (readRecords fields env name rs a).value =
        latest (Record.said? env name keys said) rs (part a) ∧
      ∀ r ∈ rs, r.lowerKey ∈ keys →
        (said ⟨env, name, r⟩).notes ⊆ (readRecords fields env name rs a).notes := by
  induction rs generalizing a with
  | nil => exact ⟨rfl, nofun⟩
  | cons r rs ih =>
    obtain ⟨hnotes, hvalue⟩ := part_updateOf hfields hkeys ⟨env, name, r⟩
    obtain ⟨hrest, hheard⟩ := ih ((updateOf fields ⟨env, name, r⟩).value a)
    refine ⟨?_, List.forall_mem_cons.mpr ⟨fun hkey d hd => ?_, fun r' hr' hkey d hd => ?_⟩⟩
    · rw [latest_cons, ← hvalue]
      exact hrest
    · rw [← hnotes hkey] at hd
      exact List.mem_append_left _ hd
    · exact List.mem_append_right _ (hheard r' hr' hkey hd)

end

/-! ## The last record -/

/-- The last record with one of the keys. -/
def Section.last? (keys : List String) (s : Section) : Option Record :=
  (s.records.filter fun r => r.lowerKey ∈ keys).getLast?

theorem Section.mem_of_last? {keys : List String} {s : Section} {r : Record}
    (h : s.last? keys = some r) : r ∈ s.records ∧ r.lowerKey ∈ keys := by
  have hmem := List.mem_filter.mp (List.mem_of_getLast? h)
  exact ⟨hmem.1, of_decide_eq_true hmem.2⟩

variable {env : ReadEnv} {name : String} {keys : List String} {rs : List Record}

/-- When every record says something, the last one counts. -/
theorem latest_saysAlways (read : RecordAt → Noted β) (b : β) :
    latest (Record.said? env name keys (Field.saysAlways read)) rs b =
      (((rs.filter fun r => r.lowerKey ∈ keys).getLast?).map
        fun r => (read ⟨env, name, r⟩).value).getD b := by
  induction rs generalizing b with
  | nil => rfl
  | cons r rs ih =>
    rw [latest_cons, ih]
    by_cases hkey : r.lowerKey ∈ keys
    · rw [List.filter_cons_of_pos (by simpa using hkey), List.getLast?_cons, Record.said?,
        if_pos hkey]
      cases (rs.filter fun r => r.lowerKey ∈ keys).getLast? with
      | none => rfl
      | some r' => rfl
    · rw [List.filter_cons_of_neg (by simpa using hkey), Record.said?, if_neg hkey]
      rfl

/-- When no usable value is left, no record has one. -/
theorem value_of_latest_saysUsable {read : RecordAt → Noted (Option β)} {b : Option β}
    (h : latest (Record.said? env name keys (Field.saysUsable read)) rs b = none) :
    b = none ∧ ∀ r ∈ rs, r.lowerKey ∈ keys → (read ⟨env, name, r⟩).value = none := by
  induction rs generalizing b with
  | nil => exact ⟨h, nofun⟩
  | cons r rs ih =>
    rw [latest_cons, Record.said?] at h
    obtain ⟨hb, hrest⟩ := ih h
    by_cases hkey : r.lowerKey ∈ keys
    · rw [if_pos hkey, Field.saysUsable] at hb
      cases hread : (read ⟨env, name, r⟩).value with
      | none =>
        rw [hread] at hb
        exact ⟨hb, List.forall_mem_cons.mpr ⟨fun _ => hread, hrest⟩⟩
      | some x =>
        rw [hread] at hb
        cases hb
    · rw [if_neg hkey] at hb
      exact ⟨hb, List.forall_mem_cons.mpr ⟨fun h => absurd h hkey, hrest⟩⟩

/-! ## Values that are explained -/

/-- That there is no value is noted. -/
def Noted.Explained (x : Noted (Option α)) : Prop := x.value = none → x.notes ≠ []

namespace Noted

theorem explained_some (a : α) : (pure (some a) : Noted (Option α)).Explained := nofun

theorem explained_refuse (d : Diagnostic) : (refuse d : Noted (Option α)).Explained :=
  fun _ => List.cons_ne_nil d []

theorem Explained.bind {x : Noted (Option α)} {f : Option α → Noted (Option β)}
    (hx : x.Explained) (hf : ∀ a, (f (some a)).Explained) : (x >>= f).Explained := by
  intro hvalue hnotes
  obtain ⟨hx', hf'⟩ := List.append_eq_nil_iff.mp hnotes
  cases h : x.value with
  | none => exact hx h hx'
  | some a =>
    rw [h] at hf'
    rw [value_bind, h] at hvalue
    exact hf a hvalue hf'

end Noted

open Noted

namespace RecordAt

variable (c : RecordAt)

theorem readOr_explained (what : String) (read? : String → Option α) {text : String}
    (htext : text ≠ "") : (c.readOr what read? text).Explained := by
  unfold readOr
  rw [if_neg (by simpa using htext)]
  cases read? text with
  | none => exact explained_refuse _
  | some a => exact explained_some a

theorem image_explained (hvalue : c.value ≠ "") : c.image.Explained := by
  unfold image
  rw [if_neg (by simpa using hvalue)]
  split
  · exact explained_refuse _
  dsimp only
  split
  · exact explained_some _
  · exact explained_refuse _

end RecordAt

namespace Framed

variable (c : RecordAt)

theorem channel_explained (what : String) {text : String} (htext : text ≠ "") :
    (channel c what text).Explained := by
  refine (c.readOr_explained what _ htext).bind fun v => ?_
  dsimp only
  split
  · exact fun _ => List.cons_ne_nil _ _
  · exact explained_some _

/-- A tint is explained unless one of its three arguments is empty. -/
theorem tintOf_explained {arguments : List String} (h : "" ∉ arguments.take 3) :
    (tintOf c arguments).Explained := by
  unfold tintOf
  split
  next red green blue rest =>
    simp only [List.take_succ_cons, List.take_zero, List.mem_cons, List.not_mem_nil, or_false,
      not_or] at h
    obtain ⟨hred, hgreen, hblue⟩ := h
    refine (channel_explained c "Red" (Ne.symm hred)).bind fun r => ?_
    refine (channel_explained c "Green" (Ne.symm hgreen)).bind fun g => ?_
    exact (channel_explained c "Blue" (Ne.symm hblue)).bind fun b => explained_some _
  next => exact explained_refuse _

/-- The colour components that a record of a needle gives. -/
def PressureNeedle.components (value : String) : List String := (Argument.fields value).tail.take 3

/-- A needle is explained unless one of its colour components is empty. -/
theorem PressureNeedle.read_explained (h : "" ∉ components c.value) :
    (PressureNeedle.read c).Explained := by
  unfold read
  unfold components at h
  split
  next hfields => exact absurd hfields (Argument.fields_ne_nil c.value)
  next subject rest hfields =>
    rw [hfields, List.tail_cons] at h
    split
    · exact explained_refuse _
    split
    · exact explained_some _
    · exact (tintOf_explained c h).bind fun tint => explained_some _

end Framed

/-! ## What a section asks for -/

namespace Section

/-- The last record with one of the keys is not empty. -/
def Asks (keys : List String) (s : Section) : Prop := ∃ r, s.last? keys = some r ∧ r.value ≠ ""

/-- The last record with one of the keys is not empty, and no colour component of it is. -/
def AsksNeedle (keys : List String) (s : Section) : Prop :=
  ∃ r, s.last? keys = some r ∧ r.value ≠ "" ∧ "" ∉ Framed.PressureNeedle.components r.value

/-- The image that the last record with one of the keys names. -/
def image? (env : ReadEnv) (keys : List String) (s : Section) : Option Path :=
  (s.last? keys).bind fun r => (RecordAt.image ⟨env, s.name, r⟩).value

variable [Readable α] {keys : List String}

/-- An image is that of the last record with its keys. If the section asks for one and has
none, something is noted. -/
theorem read_image {part : α → Option Path}
    (h : Readable.Owned keys (Field.saysAlways RecordAt.image) part)
    (hinitial : part Readable.initial = none) (env : ReadEnv) (s : Section) :
    part (s.read env).value = s.image? env keys ∧
      (s.Asks keys → ¬ (part (s.read env).value).isSome = true →
        (s.read env : Noted α).notes ≠ []) := by
  obtain ⟨hpart, hheard⟩ := part_readRecords h.1 h.2 env s.name s.records Readable.initial
  rw [latest_saysAlways, hinitial] at hpart
  have himage : part (s.read env).value = s.image? env keys := by
    rw [image?, last?]
    refine hpart.trans ?_
    cases (s.records.filter fun r => r.lowerKey ∈ keys).getLast? with
    | none => rfl
    | some r => rfl
  refine ⟨himage, fun ⟨r, hlast, hvalue⟩ hnone => ?_⟩
  rw [Option.not_isSome_iff_eq_none, himage, image?, hlast] at hnone
  have hnotes := RecordAt.image_explained ⟨env, s.name, r⟩ hvalue hnone
  obtain ⟨hr, hkey⟩ := mem_of_last? hlast
  exact fun h => hnotes (List.subset_nil.mp (h ▸ hheard r hr hkey))

/-- If a section asks for a needle and has none, something is noted. -/
theorem read_needle {part : α → Option Framed.PressureNeedle}
    (h : Readable.Owned keys (Field.saysUsable Framed.PressureNeedle.read) part)
    (hinitial : part Readable.initial = none) (env : ReadEnv) (s : Section)
    (hasks : s.AsksNeedle keys) (hnone : ¬ (part (s.read env).value).isSome = true) :
    (s.read env : Noted α).notes ≠ [] := by
  obtain ⟨r, hlast, -, hcomponents⟩ := hasks
  obtain ⟨hr, hkey⟩ := mem_of_last? hlast
  obtain ⟨hpart, hheard⟩ := part_readRecords h.1 h.2 env s.name s.records Readable.initial
  rw [hinitial] at hpart
  rw [Option.not_isSome_iff_eq_none] at hnone
  obtain ⟨-, hread⟩ := value_of_latest_saysUsable (hpart.symm.trans hnone)
  have hnotes := Framed.PressureNeedle.read_explained ⟨env, s.name, r⟩ hcomponents (hread r hr hkey)
  exact fun h => hnotes (List.subset_nil.mp (h ▸ hheard r hr hkey))

end Section

end DriverDesk
