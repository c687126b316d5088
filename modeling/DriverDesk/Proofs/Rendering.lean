import DriverDesk.PanelFile.Section
import DriverDesk.Proofs.CleanLines

/-!
# Rendered documents

A document is what a panel file says: notes in front of its sections, and the sections with
their records. It can be written in many ways, with blanks, comments, empty lines and
either line end. Reading any of them gives the document again, and the lines that it was
written on.
-/

namespace DriverDesk

/-! ## Documents -/

namespace Document

/-- A line in front of the first section. -/
structure Note where
  text : String
  nonempty : text ≠ ""
  trimmed : Text.trim text.toList = text.toList
  plain : ∀ c ∈ text.toList, c ≠ ';' ∧ c ≠ '\n'
  noHeader : Section.header? text.toList = none

/-- The name of a section. -/
structure Title where
  text : String
  trimmed : Text.trim text.toList = text.toList
  plain : ∀ c ∈ text.toList, c ≠ ']' ∧ c ≠ ';' ∧ c ≠ '\n'

/-- A key and its value. -/
structure Pair where
  key : String
  value : String
  keyTrimmed : Text.trim key.toList = key.toList
  keyPlain : ∀ c ∈ key.toList, c ≠ '=' ∧ c ≠ ';' ∧ c ≠ '\n'
  keyOpens : key.toList.head? ≠ some '['
  valueTrimmed : Text.trim value.toList = value.toList
  valuePlain : ∀ c ∈ value.toList, c ≠ ';' ∧ c ≠ '\n'

/-- A section with its records. -/
structure Chapter where
  title : Title
  pairs : List Pair

/-- What one line of a document says. -/
inductive Entry where
  | empty
  | note (n : Note)
  | title (t : Title)
  | pair (p : Pair)

def Entry.isEmpty : Entry → Bool
  | .empty => true
  | _ => false

def Chapter.entries (c : Chapter) : List Entry := .title c.title :: c.pairs.map .pair

end Document

/-- What a panel file says. -/
structure Document where
  notes : List Document.Note
  chapters : List Document.Chapter

namespace Document

def entries (d : Document) : List Entry := d.notes.map .note ++ d.chapters.flatMap (·.entries)

/-! ## Layouts -/

/-- Blanks that stay on their line. -/
structure Gap where
  chars : List Char
  blank : ∀ c ∈ chars, Text.isBlank c = true ∧ c ≠ '\n'

/-- Any text that stays on its line. -/
structure Comment where
  text : List Char
  plain : '\n' ∉ text

/-- How an entry is written on its line: the blanks around it, those inside the brackets or
around the equals sign, and a comment behind it. -/
structure Layout where
  before : Gap
  left : Gap
  right : Gap
  after : Gap
  comment? : Option Comment

namespace Layout

/-- An entry between its outer blanks. -/
def body (l : Layout) : Entry → List Char
  | .empty => []
  | .note n => n.text.toList
  | .title t => '[' :: (l.left.chars ++ t.text.toList ++ l.right.chars ++ [']'])
  | .pair p => p.key.toList ++ l.left.chars ++ '=' :: (l.right.chars ++ p.value.toList)

def comment (l : Layout) : List Char :=
  match l.comment? with
  | none => []
  | some c => ';' :: c.text

def render (l : Layout) (e : Entry) : List Char :=
  l.before.chars ++ l.body e ++ l.after.chars ++ l.comment

end Layout

/-- What ends a line. -/
inductive LineEnd where
  | feed
  | returnFeed

def LineEnd.chars : LineEnd → List Char
  | .feed => ['\n']
  | .returnFeed => ['\r', '\n']

/-- A line of a file, with what it says. -/
structure Row where
  entry : Entry
  layout : Layout

def Row.chars (r : Row) : List Char := r.layout.render r.entry

/-- The numbers of the lines that are not empty, counted from the given one. -/
def numbersOf (first : Nat) (entries : List Entry) : List Nat :=
  ((entries.zipIdx first).filter (!·.1.isEmpty)).map (·.2)

/-- A way to write a document: its entries line by line, with empty lines anywhere. The last
line has no line end. -/
structure Rendering (d : Document) where
  ended : List (Row × LineEnd)
  last : Row
  entries_eq : (ended.map (·.1.entry) ++ [last.entry]).filter (!·.isEmpty) = d.entries

namespace Rendering

variable {d : Document} (r : Rendering d)

def entries : List Entry := r.ended.map (·.1.entry) ++ [r.last.entry]

def text : String :=
  String.ofList (r.ended.flatMap (fun row => row.1.chars ++ row.2.chars) ++ r.last.chars)

/-- The numbers, counted from one, of the lines that are not empty. -/
def numbers : List Nat := numbersOf 1 r.entries

end Rendering

/-! ## Reading an entry back -/

/-- A clean line says an entry. -/
def Entry.SaidBy (line : String) : Entry → Prop
  | .empty => Sections.classify line = .empty
  | .note n => line = n.text
  | .title t => Sections.classify line = .header t.text
  | .pair p => Sections.classify line = .record p.key p.value

theorem Gap.allBlank (g : Gap) : Text.AllBlank g.chars := fun c hc => (g.blank c hc).1

/-- No character but a blank is in a gap. -/
theorem Gap.not_mem (g : Gap) {c : Char} (hc : Text.isBlank c = false) : c ∉ g.chars :=
  fun h => by rw [g.allBlank c h] at hc; cases hc

theorem Layout.isComment_comment (l : Layout) : PanelSource.IsComment l.comment := by
  unfold comment
  split
  · exact .inl rfl
  · exact .inr ⟨_, rfl⟩

theorem Layout.not_mem_body (l : Layout) (e : Entry) : ';' ∉ l.body e := by
  have hleft := l.left.not_mem (c := ';') (by decide)
  have hright := l.right.not_mem (c := ';') (by decide)
  cases e with
  | empty => exact List.not_mem_nil
  | note n => exact fun h => (n.plain _ h).1 rfl
  | title t =>
    have ht : ';' ∉ t.text.toList := fun h => (t.plain _ h).2.1 rfl
    simp [body, hleft, hright, ht]
  | pair p =>
    have hkey : ';' ∉ p.key.toList := fun h => (p.keyPlain _ h).2.1 rfl
    have hvalue : ';' ∉ p.value.toList := fun h => (p.valuePlain _ h).1 rfl
    simp [body, hleft, hright, hkey, hvalue]

/-- A clean line is its entry, without the outer blanks and the comment. -/
theorem Layout.cleanLine_render (l : Layout) (e : Entry) :
    PanelSource.cleanLine (l.render e) = Text.trim (l.body e) := by
  have hafter := l.after.not_mem (c := ';') (by decide)
  have hbefore := l.before.not_mem (c := ';') (by decide)
  have hmem : ';' ∉ l.before.chars ++ l.body e ++ l.after.chars := by
    simp [hbefore, l.not_mem_body e, hafter]
  rw [render, PanelSource.cleanLine_append hmem l.isComment_comment,
    Text.trim_append_blank l.after.allBlank, Text.trim_append_of_blank l.before.allBlank]

theorem Layout.not_mem_render (l : Layout) (e : Entry) : '\n' ∉ l.render e := by
  have hgap (g : Gap) : '\n' ∉ g.chars := fun h => (g.blank _ h).2 rfl
  have hbody : '\n' ∉ l.body e := by
    cases e with
    | empty => exact List.not_mem_nil
    | note n => exact fun h => (n.plain _ h).2 rfl
    | title t =>
      have ht : '\n' ∉ t.text.toList := fun h => (t.plain _ h).2.2 rfl
      simp [body, hgap, ht]
    | pair p =>
      have hkey : '\n' ∉ p.key.toList := fun h => (p.keyPlain _ h).2.2 rfl
      have hvalue : '\n' ∉ p.value.toList := fun h => (p.valuePlain _ h).2 rfl
      simp [body, hgap, hkey, hvalue]
  have hcomment : '\n' ∉ l.comment := by
    unfold comment
    split
    · exact List.not_mem_nil
    · rename_i c _
      simp [c.plain]
  simp [render, hgap, hbody, hcomment]

theorem classify_ofList {cs : List Char} (h : cs ≠ []) :
    Sections.classify (String.ofList cs) =
      match Section.header? cs with
      | some n => .header (String.ofList n)
      | none => match Record.ofLine? cs with
        | some (k, v) => .record (String.ofList k) (String.ofList v)
        | none => .other := by
  have hne : (String.ofList cs).isEmpty = false := by simpa using h
  rw [Sections.classify, hne, String.toList_ofList]
  rfl

theorem Title.header?_body (t : Title) (l : Layout) :
    Section.header? (Text.trim (l.body (.title t))) = some t.text.toList := by
  have hopen : Text.isBlank '[' = false := by decide
  have hclose : Text.isBlank ']' = false := by decide
  have hinner : ']' ∉ l.left.chars ++ t.text.toList ++ l.right.chars := by
    have ht : ']' ∉ t.text.toList := fun h => (t.plain _ h).1 rfl
    simp [l.left.not_mem hclose, l.right.not_mem hclose, ht]
  have htrim : Text.trim (l.body (.title t)) = l.body (.title t) := by
    have h := Text.trim_append_cons hopen []
      (l.left.chars ++ t.text.toList ++ l.right.chars ++ [']'])
    rw [Text.trimEnd_append_cons hclose] at h
    exact h
  have hcut := Text.cut?_append hinner []
  rw [Section.header?, Text.trim_trim, htrim, Layout.body]
  simp only [hcut]
  rw [Text.trim_append_blank l.right.allBlank, Text.trim_append_of_blank l.left.allBlank, t.trimmed]

/-- The equals sign of a record is the first, and what stands around it is trimmed. -/
theorem Pair.trim_body (p : Pair) (l : Layout) :
    Text.trim (l.body (.pair p)) = Text.trimStart (p.key.toList ++ l.left.chars) ++
      '=' :: Text.trimEnd (l.right.chars ++ p.value.toList) :=
  Text.trim_append_cons (by decide) _ _

theorem Pair.header?_body (p : Pair) (l : Layout) :
    Section.header? (Text.trim (l.body (.pair p))) = none := by
  have hhead : (Text.trim (l.body (.pair p))).head? ≠ some '[' := by
    rw [p.trim_body]
    have hopens := p.keyOpens
    have htrimmed := p.keyTrimmed
    cases hkey : p.key.toList with
    | nil =>
      rw [List.nil_append, Text.trimStart_of_blank l.left.allBlank]
      simp
    | cons c key =>
      rw [hkey] at hopens htrimmed
      have h := Text.trimStart_append_cons (Text.isBlank_of_trim_eq htrimmed) []
        (key ++ l.left.chars)
      rw [List.cons_append, show Text.trimStart (c :: (key ++ l.left.chars)) = _ from h]
      exact hopens
  rw [Section.header?, Text.trim_trim]
  split
  next rest h => rw [h] at hhead; exact absurd rfl hhead
  next => rfl

theorem Pair.ofLine?_body (p : Pair) (l : Layout) :
    Record.ofLine? (Text.trim (l.body (.pair p))) = some (p.key.toList, p.value.toList) := by
  have hkey : '=' ∉ Text.trimStart (p.key.toList ++ l.left.chars) := by
    intro h
    rcases List.mem_append.mp (Text.mem_of_mem_trimStart h) with h | h
    · exact (p.keyPlain _ h).1 rfl
    · exact l.left.not_mem (c := '=') (by decide) h
  rw [Record.ofLine?, p.trim_body, Text.cut?_append hkey, Option.map_some, Text.trim_trimStart,
    Text.trim_trimEnd, Text.trim_append_blank l.left.allBlank,
    Text.trim_append_of_blank l.right.allBlank, p.keyTrimmed, p.valueTrimmed]

/-- A line says the entry that was rendered on it. -/
theorem Layout.saidBy_render (l : Layout) (e : Entry) :
    e.SaidBy (String.ofList (PanelSource.cleanLine (l.render e))) := by
  rw [cleanLine_render]
  cases e with
  | empty => rfl
  | note n =>
    change String.ofList (Text.trim n.text.toList) = n.text
    rw [n.trimmed, String.ofList_toList]
  | title t =>
    have hne : Text.trim (l.body (.title t)) ≠ [] := fun h => by
      have := t.header?_body l
      rw [h] at this
      cases this
    rw [Entry.SaidBy, classify_ofList hne, t.header?_body l]
    exact congrArg Sections.Line.header String.ofList_toList
  | pair p =>
    have hne : Text.trim (l.body (.pair p)) ≠ [] := by rw [p.trim_body]; simp
    rw [Entry.SaidBy, classify_ofList hne, p.header?_body l, p.ofLine?_body l]
    exact congr (congrArg Sections.Line.record String.ofList_toList) String.ofList_toList

/-! ## Reading a document back -/

/-- The clean line of a row. -/
def Row.clean (row : Row) : String := String.ofList (PanelSource.cleanLine row.chars)

theorem Row.saidBy_clean (row : Row) : row.entry.SaidBy row.clean :=
  row.layout.saidBy_render row.entry

/-- What rows say that are not empty. -/
def said (rows : List Row) : List Entry := (rows.map (·.entry)).filter (!·.isEmpty)

theorem numbersOf_cons (first : Nat) (e : Entry) (entries : List Entry) :
    numbersOf first (e :: entries) =
      if e.isEmpty then numbersOf (first + 1) entries
      else first :: numbersOf (first + 1) entries := by
  unfold numbersOf
  rw [List.zipIdx_cons, List.filter_cons]
  cases e.isEmpty with
  | true => rfl
  | false => rfl

theorem said_cons (row : Row) (rows : List Row) :
    said (row :: rows) = if row.entry.isEmpty then said rows else row.entry :: said rows := by
  unfold said
  rw [List.map_cons, List.filter_cons]
  cases row.entry.isEmpty with
  | true => rfl
  | false => rfl

/-- The name of a section, and its keys and values. -/
def sayingOf (s : Section) : String × List (String × String) :=
  (s.name, s.records.map fun r => (r.key, r.value))

/-- The lines of a section and its records. -/
def linesOf (s : Section) : List Nat := s.line :: s.records.map (·.line)

def Pair.saying (p : Pair) : String × String := (p.key, p.value)

def Chapter.saying (c : Chapter) : String × List (String × String) :=
  (c.title.text, c.pairs.map (·.saying))

open Sections in
/-- Rows that continue a section with records, and open further ones. -/
theorem cutFrom_clean (i : Nat) (rows : List Row) {pairs : List Pair} {chapters : List Chapter}
    (h : said rows = pairs.map .pair ++ chapters.flatMap (·.entries)) :
    let cut := cutFrom i (rows.map (·.clean))
    cut.records.map (fun r => (r.key, r.value)) = pairs.map (·.saying) ∧
    cut.sections.map sayingOf = chapters.map (·.saying) ∧
    cut.records.map (·.line) ++ cut.sections.flatMap linesOf =
      numbersOf (i + 1) (rows.map (·.entry)) := by
  induction rows generalizing i pairs chapters with
  | nil =>
    cases pairs with
    | cons p pairs => cases h
    | nil =>
      cases chapters with
      | cons c chapters => cases h
      | nil => exact ⟨rfl, rfl, rfl⟩
  | cons row rows ih =>
    have hsaid := row.saidBy_clean
    rw [said_cons] at h
    rw [List.map_cons, List.map_cons, numbersOf_cons, cutFrom]
    cases he : row.entry with
    | empty =>
      rw [he] at h hsaid
      rw [show classify row.clean = _ from hsaid]
      exact ih (i + 1) h
    | note n =>
      rw [he] at h
      cases pairs with
      | cons p pairs => cases h
      | nil =>
        cases chapters with
        | nil => cases h
        | cons c chapters => cases h
    | title t =>
      rw [he] at h hsaid
      rw [show classify row.clean = _ from hsaid]
      cases pairs with
      | cons p pairs => cases h
      | nil =>
        cases chapters with
        | nil => cases h
        | cons c chapters =>
          obtain ⟨htitle, hrest⟩ := List.cons.inj h
          cases htitle
          obtain ⟨hrecords, hsections, hnumbers⟩ := ih (i + 1) hrest
          refine ⟨rfl, ?_, ?_⟩
          · rw [List.map_cons, List.map_cons, hsections, sayingOf, hrecords]
            rfl
          · rw [if_neg nofun, ← hnumbers]
            rfl
    | pair p =>
      rw [he] at h hsaid
      rw [show classify row.clean = _ from hsaid]
      cases pairs with
      | nil =>
        cases chapters with
        | nil => cases h
        | cons c chapters => cases h
      | cons q pairs =>
        obtain ⟨hpair, hrest⟩ := List.cons.inj h
        cases hpair
        obtain ⟨hrecords, hsections, hnumbers⟩ := ih (i + 1) hrest
        refine ⟨congrArg (p.saying :: ·) hrecords, hsections, ?_⟩
        rw [if_neg nofun, ← hnumbers]
        rfl

open Sections in
/-- A note may look like a record, but not like a header. -/
theorem Note.classify_text (n : Note) :
    (∃ key value, classify n.text = .record key value) ∨ classify n.text = .other := by
  have hne : n.text.toList ≠ [] := fun h => n.nonempty (String.toList_eq_nil_iff.mp h)
  rw [← String.ofList_toList (s := n.text), classify_ofList hne, n.noHeader]
  cases Record.ofLine? n.text.toList with
  | none => exact .inr rfl
  | some p => exact .inl ⟨_, _, rfl⟩

open Sections in
/-- Rows that begin with notes. -/
theorem preambleOf_clean (i : Nat) (rows : List Row) {notes : List Note} {chapters : List Chapter}
    (h : said rows = notes.map .note ++ chapters.flatMap (·.entries)) :
    let preamble := preambleOf i (rows.map (·.clean))
    let sections := (cutFrom i (rows.map (·.clean))).sections
    preamble.map (·.2) = notes.map (·.text) ∧
    sections.map sayingOf = chapters.map (·.saying) ∧
    preamble.map (·.1) ++ sections.flatMap linesOf = numbersOf (i + 1) (rows.map (·.entry)) := by
  induction rows generalizing i notes with
  | nil =>
    cases notes with
    | cons n notes => cases h
    | nil =>
      cases chapters with
      | cons c chapters => cases h
      | nil => exact ⟨rfl, rfl, rfl⟩
  | cons row rows ih =>
    have hsaid := row.saidBy_clean
    have hall := h
    rw [said_cons] at h
    cases he : row.entry with
    | empty =>
      rw [he] at h hsaid
      rw [List.map_cons, List.map_cons, numbersOf_cons, preambleOf, cutFrom, he,
        show classify row.clean = _ from hsaid]
      exact ih (i + 1) h
    | note n =>
      rw [he] at h hsaid
      have hclean : row.clean = n.text := hsaid
      cases notes with
      | nil =>
        cases chapters with
        | nil => cases h
        | cons c chapters => cases h
      | cons m notes =>
        obtain ⟨hnote, hrest⟩ := List.cons.inj h
        cases hnote
        obtain ⟨hnotes, hsections, hnumbers⟩ := ih (i + 1) hrest
        rw [List.map_cons, List.map_cons, List.map_cons, numbersOf_cons, preambleOf, cutFrom, he,
          hclean, if_neg nofun, ← hnumbers]
        obtain ⟨key, value, hclass⟩ | hclass := n.classify_text
        · rw [hclass]
          exact ⟨congrArg (n.text :: ·) hnotes, hsections, rfl⟩
        · rw [hclass]
          exact ⟨congrArg (n.text :: ·) hnotes, hsections, rfl⟩
    | title t =>
      rw [he] at h hsaid
      have hclass : classify row.clean = .header t.text := hsaid
      cases notes with
      | cons n notes => cases h
      | nil =>
        have hpreamble : preambleOf i ((row :: rows).map (·.clean)) = [] := by
          rw [List.map_cons, preambleOf, hclass]
        have hrecords : (cutFrom i ((row :: rows).map (·.clean))).records = [] := by
          rw [List.map_cons, cutFrom, hclass]
        have hcontinued : said (row :: rows) =
            ([] : List Pair).map .pair ++ chapters.flatMap (·.entries) := hall
        obtain ⟨-, hsections, hnumbers⟩ := cutFrom_clean i (row :: rows) hcontinued
        rw [hrecords] at hnumbers
        dsimp only
        rw [hpreamble]
        exact ⟨rfl, hsections, hnumbers⟩
    | pair p =>
      rw [he] at h
      cases notes with
      | cons n notes => cases h
      | nil =>
        cases chapters with
        | nil => cases h
        | cons c chapters => cases h

theorem Row.isEmpty_of_chars {row : Row} (h : row.chars = []) : row.entry.isEmpty = true := by
  have hsaid := row.saidBy_clean
  have hclean : row.clean = "" := by rw [clean, h]; rfl
  rw [hclean] at hsaid
  cases he : row.entry with
  | empty => rfl
  | note n =>
    rw [he] at hsaid
    exact absurd hsaid.symm n.nonempty
  | title t =>
    rw [he] at hsaid
    cases hsaid
  | pair p =>
    rw [he] at hsaid
    cases hsaid

/-- The rows of a rendering that are lines of its text: the last is none if nothing is
written on it. -/
def Rendering.rows {d : Document} (r : Rendering d) : List Row :=
  r.ended.map (·.1) ++ if r.last.chars = [] then [] else [r.last]

theorem Row.not_mem_chars (row : Row) : '\n' ∉ row.chars := row.layout.not_mem_render row.entry

theorem Rendering.lines_text {d : Document} (r : Rendering d) (path folder : Path) :
    (PanelSource.ofText path folder r.text).lines = r.rows.map (·.clean) := by
  have hlast : (Text.lines r.last.chars).map (fun l => String.ofList (PanelSource.cleanLine l)) =
      (if r.last.chars = [] then [] else [r.last]).map (·.clean) := by
    rw [Text.lines_of_not_mem r.last.not_mem_chars]
    split
    · rfl
    · rfl
  unfold PanelSource.ofText text rows
  rw [String.toList_ofList]
  dsimp only
  induction r.ended with
  | nil => exact hlast
  | cons row ended ih =>
    obtain ⟨row, lineEnd⟩ := row
    rw [List.flatMap_cons, List.map_cons, List.cons_append, List.map_cons, ← ih]
    cases lineEnd with
    | feed =>
      rw [LineEnd.chars, List.append_assoc, List.append_assoc, List.singleton_append,
        Text.lines_append_cons row.not_mem_chars, List.map_cons, PanelSource.cleanLine_dropReturn]
      rfl
    | returnFeed =>
      have hmem : '\n' ∉ row.chars ++ ['\r'] := by simp [row.not_mem_chars]
      have hchars (rest : List Char) : row.chars ++ LineEnd.returnFeed.chars ++ rest =
          row.chars ++ ['\r'] ++ '\n' :: rest := by simp [LineEnd.chars]
      rw [List.append_assoc, hchars, Text.lines_append_cons hmem, List.map_cons,
        Text.dropReturn_concat]
      rfl

/-- A last row that is no line is empty. -/
theorem Rendering.entries_rows {d : Document} (r : Rendering d) :
    r.entries = r.rows.map (·.entry) ∨
      ∃ e : Entry, e.isEmpty = true ∧ r.entries = r.rows.map (·.entry) ++ [e] := by
  unfold entries rows
  split
  next h =>
    refine .inr ⟨r.last.entry, Row.isEmpty_of_chars h, ?_⟩
    rw [List.append_nil, List.map_map]
    rfl
  next =>
    refine .inl ?_
    rw [List.map_append, List.map_map]
    rfl

theorem Rendering.said_rows {d : Document} (r : Rendering d) : said r.rows = d.entries := by
  have h : r.entries.filter (!·.isEmpty) = d.entries := r.entries_eq
  rw [← h, said]
  obtain hrows | ⟨e, he, hrows⟩ := r.entries_rows
  · rw [hrows]
  · rw [hrows, List.filter_append, List.filter_cons_of_neg (by simp [he]), List.filter_nil,
      List.append_nil]

theorem Rendering.numbersOf_rows {d : Document} (r : Rendering d) :
    numbersOf 1 (r.rows.map (·.entry)) = r.numbers := by
  rw [numbers]
  obtain hrows | ⟨e, he, hrows⟩ := r.entries_rows
  · rw [hrows]
  · rw [hrows, numbersOf, numbersOf, List.zipIdx_append, List.filter_append]
    simp [he]

end Document

/-- Reading a rendering of a document gives its notes, and its sections with their names,
keys and values, each on the line it was written on. -/
theorem Sections.ofLines_rendering (d : Document) (r : Document.Rendering d)
    (path folder : Path) :
    let parsed := Sections.ofLines (PanelSource.ofText path folder r.text).lines
    parsed.preamble.map (·.2) = d.notes.map (·.text) ∧
    parsed.sections.map (fun s => (s.name, s.records.map fun r => (r.key, r.value))) =
      d.chapters.map (fun c => (c.title.text, c.pairs.map fun p => (p.key, p.value))) ∧
    parsed.preamble.map (·.1) ++
      parsed.sections.flatMap (fun s => s.line :: s.records.map (·.line)) = r.numbers := by
  rw [r.lines_text path folder, ← r.numbersOf_rows]
  exact Document.preambleOf_clean 0 r.rows r.said_rows

namespace Document

/-! ## A document of two sections -/

def versionNote : Note :=
  ⟨"Version 2", by decide, by decide, by decide, by decide⟩

def lampChapter : Chapter where
  title := ⟨"PilotLamp", by decide, by decide⟩
  pairs := [
    ⟨"Subject", "pilotlamp", by decide, by decide, by decide, by decide, by decide⟩,
    ⟨"DaytimeImage", "", by decide, by decide, by decide, Text.trim_nil, by decide⟩]

def needleChapter : Chapter where
  title := ⟨"Needle: left [upper", by decide, by decide⟩
  pairs := [⟨"Formula", "a = b", by decide, by decide, by decide, by decide, by decide⟩]

def lampAndNeedle : Document where
  notes := [versionNote]
  chapters := [lampChapter, needleChapter]

def Gap.none : Gap := ⟨[], List.forall_mem_nil _⟩

def Gap.space : Gap := ⟨[' '], by decide⟩

/-- A tab and the space of ideographic scripts. -/
def Gap.wide : Gap := ⟨['\t', '\u3000'], by decide⟩

/-- A comment that would be a header or a record. -/
def Comment.header : Comment := ⟨"[no] = header".toList, by decide⟩

def Layout.bare : Layout := ⟨.none, .none, .none, .none, none⟩

/-- The document with blanks and comments in all places, empty lines and both line ends. -/
def lampAndNeedleRendering : Rendering lampAndNeedle where
  ended := [
    (⟨.note versionNote, { Layout.bare with
      before := .wide, after := .space, comment? := some .header }⟩, .returnFeed),
    (⟨.empty, { Layout.bare with before := .space }⟩, .returnFeed),
    (⟨.title lampChapter.title, { Layout.bare with
      left := .space, right := .wide, after := .space, comment? := some .header }⟩, .feed)]
    ++ lampChapter.pairs.map (fun p =>
      (⟨.pair p, { Layout.bare with before := .wide, left := .space, right := .wide }⟩, .feed))
    ++ [(⟨.empty, { Layout.bare with after := .space, comment? := some .header }⟩, .feed),
      (⟨.title needleChapter.title, { Layout.bare with before := .space, after := .wide }⟩,
        .returnFeed)]
    ++ needleChapter.pairs.map (fun p => (⟨.pair p, { Layout.bare with after := .wide }⟩, .feed))
  last := ⟨.empty, Layout.bare⟩
  entries_eq := rfl

end Document

/-- What is read of a rendering that uses all liberties of writing. -/
theorem Sections.ofLines_lampAndNeedle :
    let r := Document.lampAndNeedleRendering
    let parsed := Sections.ofLines (PanelSource.ofText ⟨"panel2.cfg"⟩ ⟨""⟩ r.text).lines
    r.text = "\t\u3000Version 2 ;[no] = header\r\n" ++ " \r\n" ++
      "[ PilotLamp\t\u3000] ;[no] = header\n" ++ "\t\u3000Subject =\t\u3000pilotlamp\n" ++
      "\t\u3000DaytimeImage =\t\u3000\n" ++ " ;[no] = header\n" ++
      " [Needle: left [upper]\t\u3000\r\n" ++ "Formula=a = b\t\u3000\n" ∧
    parsed.preamble.map (·.2) = ["Version 2"] ∧
    parsed.sections.map (fun s => (s.name, s.records.map fun r => (r.key, r.value))) =
      [("PilotLamp", [("Subject", "pilotlamp"), ("DaytimeImage", "")]),
        ("Needle: left [upper", [("Formula", "a = b")])] ∧
    parsed.preamble.map (·.1) ++
      parsed.sections.flatMap (fun s => s.line :: s.records.map (·.line)) = [1, 3, 4, 5, 7, 8] :=
  ⟨by decide +kernel, Sections.ofLines_rendering _ Document.lampAndNeedleRendering _ _⟩

end DriverDesk
