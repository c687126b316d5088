import DriverDesk.PanelFile.Argument
import DriverDesk.Proofs.CleanLines

/-!
# Splitting values

The fields of a value are what stands between its separators. Fields that are joined by
separators are read back, whatever blanks were put in front of them. A semicolon ends a
value; what stands behind the last separator is then trimmed at its end only, and counts
also when it is empty.
-/

namespace DriverDesk.Argument

/-! ## Reading up to a separator -/

/-- Whether a character can stand in a field. -/
def IsPlain (c : Char) : Prop := c ≠ ',' ∧ c ≠ ':' ∧ c ≠ ';'

instance (c : Char) : Decidable (IsPlain c) :=
  inferInstanceAs (Decidable (c ≠ ',' ∧ c ≠ ':' ∧ c ≠ ';'))

theorem isPlain_iff {c : Char} : IsPlain c ↔ separates c = false ∧ c ≠ ';' := by
  simp [IsPlain, separates, and_assoc]

/-- What is read up to some character of the value waits for what ends it. -/
theorem fieldsFrom_plain {p : List Char} (hp : ∀ c ∈ p, IsPlain c) (field r : List Char) :
    fieldsFrom field (p ++ r) = fieldsFrom (p.reverse ++ field) r := by
  induction p generalizing field with
  | nil => rfl
  | cons c p ih =>
    obtain ⟨hc, hp⟩ := List.forall_mem_cons.mp hp
    have hseparates : separates c ≠ true := Bool.eq_false_iff.mp (isPlain_iff.mp hc).1
    rw [List.cons_append, fieldsFrom, if_neg hseparates, if_neg hc.2.2, ih hp,
      List.reverse_cons, List.append_assoc, List.singleton_append]

theorem fieldsFrom_end {p : List Char} (hp : ∀ c ∈ p, IsPlain c) :
    fieldsFrom [] p = if p = [] then [] else [Text.trim p] := by
  have h := fieldsFrom_plain hp [] []
  rw [List.append_nil, List.append_nil] at h
  rw [h, fieldsFrom, List.reverse_reverse]
  simp only [List.isEmpty_iff, List.reverse_eq_nil_iff]

theorem fieldsFrom_semicolon {p : List Char} (hp : ∀ c ∈ p, IsPlain c) (tail : List Char) :
    fieldsFrom [] (p ++ ';' :: tail) = [Text.trimEnd p] := by
  have hsemicolon : ¬ separates ';' = true := by decide
  rw [fieldsFrom_plain hp, fieldsFrom, if_neg hsemicolon, if_pos rfl, List.append_nil,
    List.reverse_reverse]

theorem fieldsFrom_separator {p : List Char} {s : Char} (hp : ∀ c ∈ p, IsPlain c)
    (hs : separates s = true) (r : List Char) :
    fieldsFrom [] (p ++ s :: r) = Text.trimStart p :: fieldsFrom [] r := by
  rw [fieldsFrom_plain hp, fieldsFrom, if_pos hs, List.append_nil, List.reverse_reverse]

/-- A separator parts the fields in front of it from those behind it. -/
theorem fieldsFrom_append {a : List Char} {s : Char} (ha : ';' ∉ a) (hs : separates s = true)
    (field b : List Char) :
    fieldsFrom field (a ++ s :: b) = fieldsFrom field (a ++ [s]) ++ fieldsFrom [] b := by
  induction a generalizing field with
  | nil => simp only [List.nil_append, fieldsFrom, if_pos hs, List.isEmpty_nil, if_true,
      List.singleton_append]
  | cons c a ih =>
    have hc : ¬ c = ';' := fun h => ha (h ▸ List.mem_cons_self)
    have ha : ';' ∉ a := fun h => ha (List.mem_cons_of_mem c h)
    rw [List.cons_append, List.cons_append, fieldsFrom, fieldsFrom]
    rw [if_neg hc, if_neg hc, ih ha, ih ha]
    split
    · exact List.cons_append
    · rfl

theorem fields_of_ne {value : String} (h : value.toList ≠ []) :
    fields value = (fieldsFrom [] value.toList).map String.ofList := by
  rw [fields, if_neg]
  simpa using h

/-! ## Every value -/

theorem fieldsFrom_ne_nil (field : List Char) {cs : List Char} (h : cs ≠ []) :
    fieldsFrom field cs ≠ [] := by
  induction cs generalizing field with
  | nil => exact absurd rfl h
  | cons c r ih =>
    unfold fieldsFrom
    split
    · exact List.cons_ne_nil _ _
    split
    · exact List.cons_ne_nil _ _
    cases r with
    | nil => simp [fieldsFrom]
    | cons c' r => exact ih _ (List.cons_ne_nil _ _)

theorem fields_ne_nil (value : String) : fields value ≠ [] := by
  unfold fields
  split
  · exact List.cons_ne_nil _ _
  next hvalue =>
    have hchars : value.toList ≠ [] := by simpa using hvalue
    simpa using fieldsFrom_ne_nil [] hchars

/-- The current field is plain, and so is every field that is read from it on. -/
theorem plain_of_mem_fieldsFrom {field cs f : List Char} (hfield : ∀ c ∈ field, IsPlain c)
    (hf : f ∈ fieldsFrom field cs) : ∀ c ∈ f, IsPlain c := by
  have hreverse : ∀ c ∈ field.reverse, IsPlain c :=
    fun c hc => hfield c (List.mem_reverse.mp hc)
  induction cs generalizing field with
  | nil =>
    unfold fieldsFrom at hf
    split at hf
    · exact absurd hf List.not_mem_nil
    · rw [List.mem_singleton.mp hf]
      exact fun c hc => hreverse c (Text.mem_of_mem_trim hc)
  | cons x cs ih =>
    unfold fieldsFrom at hf
    split at hf
    · rcases List.mem_cons.mp hf with rfl | hf
      · exact fun c hc => hreverse c (Text.mem_of_mem_trimStart hc)
      · exact ih (List.forall_mem_nil _) hf (List.forall_mem_nil _)
    split at hf
    · rw [List.mem_singleton.mp hf]
      exact fun c hc => hreverse c (Text.mem_of_mem_trimEnd hc)
    next hseparates hsemicolon =>
      have hx : IsPlain x := isPlain_iff.mpr ⟨Bool.eq_false_iff.mpr hseparates, hsemicolon⟩
      have hfield : ∀ c ∈ x :: field, IsPlain c := List.forall_mem_cons.mpr ⟨hx, hfield⟩
      exact ih hfield hf fun c hc => hfield c (List.mem_reverse.mp hc)

theorem plain_of_mem_fields {value f : String} (hf : f ∈ fields value) :
    ∀ c ∈ f.toList, IsPlain c := by
  unfold fields at hf
  split at hf
  · rw [List.mem_singleton.mp hf]
    exact nofun
  · obtain ⟨cs, hcs, rfl⟩ := List.mem_map.mp hf
    rw [String.toList_ofList]
    exact plain_of_mem_fieldsFrom (List.forall_mem_nil _) hcs

/-! ## Joined fields -/

/-- The text of a field. -/
structure FieldText where
  text : String
  trimmed : Text.trim text.toList = text.toList
  plain : ∀ c ∈ text.toList, IsPlain c

/-- What stands between two fields. -/
inductive Separator where
  | comma
  | colon

def Separator.char : Separator → Char
  | .comma => ','
  | .colon => ':'

/-- Any blanks. -/
structure Blanks where
  chars : List Char
  blank : Text.AllBlank chars

/-- A field with blanks in front of it. -/
structure Cell where
  before : Blanks
  field : FieldText

def Cell.chars (c : Cell) : List Char := c.before.chars ++ c.field.text.toList

/-- A way to join fields to one value. The last field is not empty unless it is the only
one. -/
structure Joining where
  ended : List (Cell × Separator)
  last : Cell
  after : Blanks
  last_counts : ended = [] ∨ last.field.text ≠ ""

namespace Joining

variable (j : Joining)

def text : String :=
  String.ofList (j.ended.flatMap (fun e => e.1.chars ++ [e.2.char]) ++
    (j.last.chars ++ j.after.chars))

/-- The fields that are joined. -/
def fields : List String := j.ended.map (·.1.field.text) ++ [j.last.field.text]

end Joining

theorem isPlain_of_isBlank {c : Char} (hc : Text.isBlank c = true) : IsPlain c := by
  refine ⟨?_, ?_, ?_⟩
  all_goals
    rintro rfl
    exact absurd hc (by decide)

theorem Blanks.plain (b : Blanks) : ∀ c ∈ b.chars, IsPlain c :=
  fun c hc => isPlain_of_isBlank (b.blank c hc)

theorem Separator.separates_char (s : Separator) : separates s.char = true := by
  cases s <;> rfl

namespace Cell

variable (c : Cell)

theorem plain : ∀ x ∈ c.chars, IsPlain x :=
  List.forall_mem_append.mpr ⟨c.before.plain, c.field.plain⟩

/-- A trimmed text has no blanks in front. -/
theorem trimStart_chars : Text.trimStart c.chars = c.field.text.toList := by
  rw [chars, Text.trimStart_append_of_blank c.before.blank]
  cases htext : c.field.text.toList with
  | nil => rfl
  | cons x xs =>
    have htrim : Text.trim (x :: xs) = x :: xs := htext ▸ c.field.trimmed
    exact Text.trimStart_append_cons (Text.isBlank_of_trim_eq htrim) [] xs

theorem trim_chars : Text.trim c.chars = c.field.text.toList := by
  rw [chars, Text.trim_append_of_blank c.before.blank, c.field.trimmed]

end Cell

theorem fieldsFrom_ended (ended : List (Cell × Separator)) (r : List Char) :
    fieldsFrom [] (ended.flatMap (fun e => e.1.chars ++ [e.2.char]) ++ r) =
      ended.map (·.1.field.text.toList) ++ fieldsFrom [] r := by
  induction ended with
  | nil => rfl
  | cons e ended ih =>
    rw [List.flatMap_cons, List.append_assoc, List.append_assoc, List.singleton_append,
      fieldsFrom_separator e.1.plain e.2.separates_char, ih, e.1.trimStart_chars,
      List.map_cons, List.cons_append]

namespace Joining

variable (j : Joining)

theorem plain_last : ∀ c ∈ j.last.chars ++ j.after.chars, IsPlain c :=
  List.forall_mem_append.mpr ⟨j.last.plain, j.after.plain⟩

theorem trim_last : Text.trim (j.last.chars ++ j.after.chars) = j.last.field.text.toList := by
  rw [Text.trim_append_blank j.after.blank, j.last.trim_chars]

theorem fields_text : Argument.fields j.text = j.fields := by
  by_cases hempty : j.text.toList = []
  · -- Nothing was written, so there is one field, and it is empty.
    have hparts := List.append_eq_nil_iff.mp (String.toList_ofList.symm.trans hempty)
    have hended : j.ended = [] := by
      cases h : j.ended with
      | nil => rfl
      | cons e ended => simp [h] at hparts
    have hlast : j.last.field.text = "" := by
      have h := j.trim_last
      rw [hparts.2] at h
      exact String.toList_eq_nil_iff.mp h.symm
    have htext : j.text = "" := String.toList_eq_nil_iff.mp hempty
    rw [htext, fields, hended, hlast]
    rfl
  · rw [fields_of_ne hempty, text, String.toList_ofList, fieldsFrom_ended,
      fieldsFrom_end j.plain_last, j.trim_last, List.map_append, List.map_map, fields]
    have hchars : j.last.chars ++ j.after.chars ≠ [] := by
      intro hchars
      rcases j.last_counts with hended | hlast
      · simp [text, hended, hchars] at hempty
      · have h := j.trim_last
        rw [hchars] at h
        exact hlast (String.toList_eq_nil_iff.mp h.symm)
    rw [if_neg hchars]
    simp

end Joining

/-- Splitting undoes joining. Whatever the value is, there is a first field, and no field
holds a separator or a semicolon. -/
theorem fields_undo_joining :
    (∀ j : Joining, fields j.text = j.fields) ∧
      ∀ value : String, (∃ first rest, fields value = first :: rest) ∧
        ∀ f ∈ fields value, ∀ c ∈ f.toList, c ≠ ',' ∧ c ≠ ':' ∧ c ≠ ';' := by
  refine ⟨Joining.fields_text, fun value => ⟨?_, fun f hf => plain_of_mem_fields hf⟩⟩
  exact List.exists_cons_of_ne_nil (fields_ne_nil value)

/-- A colour, an empty field and a last field with a blank inside, with blanks where they are
allowed. -/
def threeFields : Joining where
  ended := [
    (⟨⟨[], List.forall_mem_nil _⟩, ⟨"#00ff00", by decide, by decide⟩⟩, .colon),
    (⟨⟨[' ', '\u3000'], by decide⟩, ⟨"", Text.trim_nil, by decide⟩⟩, .comma)]
  last := ⟨⟨['\t'], by decide⟩, ⟨"2.5 s", by decide, by decide⟩⟩
  after := ⟨[' '], by decide⟩
  last_counts := .inr (by decide)

theorem fields_undo_joining_three :
    threeFields.text = "#00ff00: \u3000,\t2.5 s " ∧
      fields threeFields.text = ["#00ff00", "", "2.5 s"] :=
  ⟨by decide, fields_undo_joining.1 threeFields⟩

/-! ## Semicolons -/

/-- What stands behind the last separator of a value. -/
def remainder (value : String) : List Char :=
  (Text.pieces separates value.toList).getLast (Text.pieces_ne_nil _ _)

theorem remainder_of_plain {value : String} (h : ∀ c ∈ value.toList, separates c = false) :
    remainder value = value.toList := by
  simp only [remainder, Text.pieces_of_forall h, List.getLast_singleton]

theorem remainder_of_append {value : String} {a p : List Char} {s : Char}
    (hs : separates s = true) (hp : ∀ c ∈ p, separates c = false)
    (hvalue : value.toList = a ++ s :: p) : remainder value = p := by
  simp only [remainder, hvalue, Text.pieces_append hs, Text.pieces_of_forall hp,
    List.getLast_append_of_ne_nil, ne_eq, List.cons_ne_nil, not_false_eq_true,
    List.getLast_singleton]

/-- A text has no separator, or a last one. -/
theorem exists_last_separator (cs : List Char) :
    (∀ c ∈ cs, separates c = false) ∨
      ∃ a s p, separates s = true ∧ (∀ c ∈ p, separates c = false) ∧ cs = a ++ s :: p := by
  induction cs with
  | nil => exact .inl nofun
  | cons c cs ih =>
    rcases ih with hplain | ⟨a, s, p, hs, hp, rfl⟩
    · cases hc : separates c with
      | false => exact .inl (List.forall_mem_cons.mpr ⟨hc, hplain⟩)
      | true => exact .inr ⟨[], c, cs, hc, hplain, rfl⟩
    · exact .inr ⟨c :: a, s, p, hs, hp, rfl⟩

/-- A text is trimmed as a whole when its end is, unless it begins with a blank and is not
all blank. -/
theorem trim_eq_trimEnd_iff (p : List Char) :
    Text.trim p = Text.trimEnd p ↔
      Text.AllBlank p ∨ ∀ c ∈ p.head?, Text.isBlank c = false := by
  rcases Text.allBlank_or p with hblank | ⟨g, c, rest, hg, hc, rfl⟩
  · have htrim : Text.trim p = [] := by
      rw [Text.trim, Text.trimStart_of_blank hblank]; rfl
    have htrimEnd : Text.trimEnd p = [] := Text.trimEnd_append_of_blank hblank []
    simp only [htrim, htrimEnd, hblank, true_or]
  · rw [Text.trim_append_cons hc, Text.trimStart_of_blank hg, Text.trimEnd_append_cons hc]
    have hnotBlank : ¬ Text.AllBlank (g ++ c :: rest) := by
      intro h
      have := h c (List.mem_append_right g List.mem_cons_self)
      exact Bool.eq_false_iff.mp hc this
    rw [or_iff_right hnotBlank]
    cases g with
    | nil => simp [hc]
    | cons x g =>
      have hx : Text.isBlank x = true := hg x List.mem_cons_self
      have hne : c ≠ x := fun h => Bool.eq_false_iff.mp hc (h ▸ hx)
      simp [hx, hne]

/-- How a semicolon reads the value in front of it, by what stands behind the last
separator. -/
theorem fields_semicolon_cases {value : String} (h : ';' ∉ value.toList) (tail : String) :
    ∃ front : List String,
      fields (value ++ ";" ++ tail) = front ++ [String.ofList (Text.trimEnd (remainder value))] ∧
      (value ≠ "" → fields value = front ++
        if remainder value = [] then [] else [String.ofList (Text.trim (remainder value))]) := by
  have hne : (value ++ ";" ++ tail).toList ≠ [] := by simp
  have hwhole : (value ++ ";" ++ tail).toList = value.toList ++ ';' :: tail.toList := by simp
  have hvalue : value ≠ "" → value.toList ≠ [] := mt String.toList_eq_nil_iff.mp
  rw [fields_of_ne hne, hwhole]
  rcases exists_last_separator value.toList with hplain | ⟨a, s, p, hs, hp, hcs⟩
  · have hplain' : ∀ c ∈ value.toList, IsPlain c := fun c hc =>
      isPlain_iff.mpr ⟨hplain c hc, fun hsemicolon => h (hsemicolon ▸ hc)⟩
    rw [remainder_of_plain hplain]
    refine ⟨[], ?_, fun hempty => ?_⟩
    · rw [fieldsFrom_semicolon hplain']
      rfl
    · rw [fields_of_ne (hvalue hempty), fieldsFrom_end hplain', if_neg (hvalue hempty),
        if_neg (hvalue hempty)]
      rfl
  · rw [hcs] at h
    have ha : ';' ∉ a := fun hmem => h (List.mem_append_left _ hmem)
    have hp' : ∀ c ∈ p, IsPlain c := fun c hc =>
      isPlain_iff.mpr ⟨hp c hc, fun hsemicolon =>
        h (List.mem_append_right a (List.mem_cons_of_mem s (hsemicolon ▸ hc)))⟩
    rw [remainder_of_append hs hp hcs]
    refine ⟨(fieldsFrom [] (a ++ [s])).map String.ofList, ?_, fun hempty => ?_⟩
    · rw [hcs, List.append_assoc, List.cons_append, fieldsFrom_append ha hs,
        fieldsFrom_semicolon hp', List.map_append, List.map_singleton]
    · rw [fields_of_ne (hvalue hempty), hcs, fieldsFrom_append ha hs, fieldsFrom_end hp',
        List.map_append, apply_ite (List.map String.ofList), List.map_nil, List.map_singleton]

/-- A semicolon just ends the value where the value is empty, or does not end with a
separator and has no blanks behind its last one. -/
theorem fields_semicolon_iff {value : String} (h : ';' ∉ value.toList) (tail : String) :
    fields (value ++ ";" ++ tail) = fields value ↔
      value = "" ∨ remainder value ≠ [] ∧ (Text.AllBlank (remainder value) ∨
        ∀ c ∈ (remainder value).head?, Text.isBlank c = false) := by
  obtain ⟨front, hsemicolon, hend⟩ := fields_semicolon_cases h tail
  by_cases hempty : value = ""
  · have hne : ("" ++ ";" ++ tail).toList ≠ [] := by simp
    have hwhole : ("" ++ ";" ++ tail).toList = [] ++ ';' :: tail.toList := by simp
    have hfields : fields ("" ++ ";" ++ tail) = [""] := by
      rw [fields_of_ne hne, hwhole, fieldsFrom_semicolon (List.forall_mem_nil _)]
      rfl
    rw [hempty, hfields]
    exact iff_of_true rfl (.inl rfl)
  · rw [or_iff_right hempty, hsemicolon, hend hempty, List.append_cancel_left_eq,
      ← trim_eq_trimEnd_iff]
    split
    next hremainder => simp [hremainder]
    next hremainder =>
      rw [and_iff_right hremainder, List.singleton_inj, String.ofList_inj]
      exact eq_comm

theorem fields_semicolon_of_two : ';' ∉ "10,20".toList ∧
    fields ("10,20" ++ ";" ++ "ignored") = fields "10,20" := by
  have hplain : ';' ∉ "10,20".toList := by decide
  have hremainder : remainder "10,20" ≠ [] := by decide
  have hhead : (remainder "10,20").head? = some '2' := by decide
  have hblank : ∀ c ∈ (remainder "10,20").head?, Text.isBlank c = false := by
    rw [hhead]
    rintro _ ⟨⟩
    decide
  exact ⟨hplain, (fields_semicolon_iff hplain "ignored").mpr (.inr ⟨hremainder, .inr hblank⟩)⟩

/-- In front of a semicolon the last field keeps the blanks that it begins with, and an empty
one counts. -/
theorem semicolon_keeps_blanks :
    fields "10, 20;x" = ["10", " 20"] ∧ fields "10, 20" = ["10", "20"] ∧
      fields "10,;" = ["10", ""] ∧ fields "10," = ["10"] := by
  decide

end DriverDesk.Argument
