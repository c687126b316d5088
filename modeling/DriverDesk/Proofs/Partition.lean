import DriverDesk.Proofs.Spans
import Mathlib.Data.List.Forall2

/-!
# The partition of a file

A file is cut at its headers: what stands in front of the first one is the preamble, and each
section reaches from its header up to the next one. `Section.Tells` says what a section tells
of the lines it covers. Lines are found by their place in the whole file, so that what is said
of a part of it needs no shift.
-/

namespace DriverDesk

namespace Sections

/-! ## Lines -/

/-- A header with a name: trimmed, the line has a bracket at its start, its only closing
bracket at its end, and the name between them. -/
def Heads (line name : String) : Prop :=
  ∃ inner, Text.trim line.toList = '[' :: (inner ++ [']']) ∧ ']' ∉ inner ∧
    name.toList = Text.trim inner

def IsHeader (line : String) : Prop := ∃ name, Heads line name

theorem header?_eq_some_iff {cs name : List Char} :
    Section.header? cs = some name ↔
      ∃ inner, Text.trim cs = '[' :: (inner ++ [']']) ∧ ']' ∉ inner ∧ name = Text.trim inner := by
  unfold Section.header?
  constructor
  · intro h
    split at h
    next r hr =>
      split at h
      next inner hcut =>
        obtain ⟨rfl, hinner⟩ := Text.cut?_eq_some hcut
        exact ⟨inner, hr, hinner, (Option.some.inj h).symm⟩
      next => cases h
    next => cases h
  · rintro ⟨inner, hcs, hinner, rfl⟩
    simp only [hcs, Text.cut?_append hinner]

theorem heads_iff {line name : String} :
    Heads line name ↔ Section.header? line.toList = some name.toList :=
  header?_eq_some_iff.symm

theorem isHeader_iff {line : String} :
    IsHeader line ↔ (Section.header? line.toList).isSome = true := by
  rw [Option.isSome_iff_exists]
  constructor
  · rintro ⟨name, h⟩
    exact ⟨_, heads_iff.mp h⟩
  · rintro ⟨name, h⟩
    exact ⟨String.ofList name, heads_iff.mpr (by rw [h, String.toList_ofList])⟩

instance (line : String) : Decidable (IsHeader line) := decidable_of_iff' _ isHeader_iff

/-- A line that holds a record. -/
def HoldsRecord (line : String) : Prop := ¬ IsHeader line ∧ '=' ∈ line.toList

instance (line : String) : Decidable (HoldsRecord line) :=
  inferInstanceAs (Decidable (_ ∧ _))

end Sections

/-- A record of a numbered line: it has the texts around the first equals sign, trimmed. -/
structure Record.StandsOn (r : Record) (p : String × Nat) : Prop where
  sides : ∃ before after, p.1.toList = before ++ '=' :: after ∧ '=' ∉ before ∧
    r.key.toList = Text.trim before ∧ r.value.toList = Text.trim after
  line : r.line = p.2

namespace Sections

/-- What a line is for the cut of a file: nothing, a header, a record or something else. -/
inductive Line.Reads (line : String) : Line → Prop where
  | empty : line = "" → Reads line .empty
  | header {name : String} : Heads line name → Reads line (.header name)
  | record {key value : String} : HoldsRecord line →
      (∀ n, Record.StandsOn ⟨key, value, n⟩ (line, n)) → Reads line (.record key value)
  | other : line ≠ "" → ¬ IsHeader line → '=' ∉ line.toList → Reads line .other

theorem reads_classify (line : String) : Line.Reads line (classify line) := by
  unfold classify
  split
  next hempty => exact .empty (String.isEmpty_iff.mp hempty)
  next hempty =>
    have hne : line ≠ "" := fun h => hempty (String.isEmpty_iff.mpr h)
    split
    next name hname => exact .header (heads_iff.mpr (by rw [hname, String.toList_ofList]))
    next hnone =>
      have hheader : ¬ IsHeader line := by rw [isHeader_iff, hnone]; decide
      unfold Record.ofLine?
      cases hcut : Text.cut? '=' line.toList with
      | none => exact .other hne hheader (Text.cut?_eq_none.mp hcut)
      | some sides =>
        obtain ⟨hline, hbefore⟩ := Text.cut?_eq_some hcut
        refine .record ⟨hheader, by simp [hline]⟩ fun n => ⟨⟨sides.1, sides.2, hline, hbefore, ?_⟩,
          rfl⟩
        exact ⟨String.toList_ofList, String.toList_ofList⟩

theorem not_isHeader_empty : ¬ IsHeader "" := by decide

/-! ## Parts of a file -/

/-- The numbered lines from one place up to another. -/
def part (lines : List String) (start stop : Nat) : List (String × Nat) :=
  ((lines.zipIdx 1).take stop).drop start

variable {lines : List String}

theorem part_self (i : Nat) : part lines i i = [] := by
  rw [part, List.drop_eq_nil_iff, List.length_take]
  exact Nat.min_le_left _ _

theorem part_length (lines : List String) : part lines 0 lines.length = lines.zipIdx 1 := by
  rw [part, List.drop_zero, List.take_of_length_le (Nat.le_of_eq List.length_zipIdx)]

theorem part_succ {i stop : Nat} {l : String} (hl : lines[i]? = some l) (h : i < stop) :
    part lines i stop = (l, i + 1) :: part lines (i + 1) stop := by
  have hi : ((lines.zipIdx 1).take stop)[i]? = some (l, i + 1) := by
    rw [List.getElem?_take, if_pos h, List.getElem?_zipIdx, hl, Option.map_some, Nat.add_comm]
  obtain ⟨hlt, hget⟩ := List.getElem?_eq_some_iff.mp hi
  rw [part, List.drop_eq_getElem_cons hlt, hget, part]

/-- No line from one place up to another is a header. -/
def Headless (lines : List String) (start stop : Nat) : Prop :=
  ∀ i l, start ≤ i → i < stop → lines[i]? = some l → ¬ IsHeader l

theorem Headless.cons {i stop : Nat} {l : String} (hl : lines[i]? = some l) (h : ¬ IsHeader l)
    (hrest : Headless lines (i + 1) stop) : Headless lines i stop := by
  intro j m hj hjstop hm
  rcases Nat.eq_or_lt_of_le hj with rfl | hj
  · rw [hl] at hm
    exact Option.some.inj hm ▸ h
  · exact hrest j m hj hjstop hm

end Sections

/-- What a section tells of the lines it covers: the first of them is its header, no other one
is, and its records stand on those with an equals sign, in order. -/
structure Section.Tells (s : Section) (lines : List String) : Prop where
  line : s.line = s.start + 1
  header : ∃ l, lines[s.start]? = some l ∧ Sections.Heads l s.name
  headless : Sections.Headless lines (s.start + 1) s.stop
  records : List.Forall₂ Record.StandsOn s.records
    ((Sections.part lines s.start s.stop).filter (Sections.HoldsRecord ·.1))

namespace Sections

variable {lines : List String} {i : Nat} {l : String}

/-- The cut of the lines from one place on: where it stops, what it has in front of its first
header, and what its sections tell. -/
structure Cut.Tells (c : Cut) (lines : List String) (i : Nat) : Prop where
  headless : Headless lines i c.next
  header : c.sections ≠ [] → ∃ l, lines[c.next]? = some l ∧ IsHeader l
  next_eq : c.sections = [] → c.next = lines.length
  records : List.Forall₂ Record.StandsOn c.records
    ((part lines i c.next).filter (HoldsRecord ·.1))
  sections : ∀ s ∈ c.sections, s.Tells lines

namespace Cut.Tells

variable {c : Cut}

/-- A line that is neither a header nor a record changes nothing. -/
theorem skip (h : c.Tells lines (i + 1)) (hl : lines[i]? = some l) (hnext : i < c.next)
    (hheader : ¬ IsHeader l) (hholds : ¬ HoldsRecord l) : c.Tells lines i where
  headless := h.headless.cons hl hheader
  header := h.header
  next_eq := h.next_eq
  records := by
    rw [part_succ hl hnext, List.filter_cons_of_neg (by simpa using hholds)]
    exact h.records
  sections := h.sections

/-- A record goes in front of the others. -/
theorem record {key value : String} (h : c.Tells lines (i + 1)) (hl : lines[i]? = some l)
    (hnext : i < c.next) (hholds : HoldsRecord l)
    (hstands : Record.StandsOn ⟨key, value, i + 1⟩ (l, i + 1)) :
    Cut.Tells { c with records := ⟨key, value, i + 1⟩ :: c.records } lines i where
  headless := h.headless.cons hl hholds.1
  header := h.header
  next_eq := h.next_eq
  records := by
    rw [part_succ hl hnext, List.filter_cons_of_pos (by simpa using hholds)]
    exact .cons hstands h.records
  sections := h.sections

/-- A header opens a section with what is in front of the next one. -/
theorem opened {name : String} (h : c.Tells lines (i + 1)) (hl : lines[i]? = some l)
    (hnext : i < c.next) (hname : Heads l name) :
    Cut.Tells ⟨[], i, ⟨name, i + 1, i, c.next, c.records⟩ :: c.sections⟩ lines i where
  headless := fun j _ hij hji => absurd hij (Nat.not_le.mpr hji)
  header := fun _ => ⟨l, hl, name, hname⟩
  next_eq := nofun
  records := by
    rw [part_self]
    exact .nil
  sections := List.forall_mem_cons.mpr ⟨{
      line := rfl
      header := ⟨l, hl, hname⟩
      headless := h.headless
      records := by
        have hholds : ¬ HoldsRecord l := fun hholds => hholds.1 ⟨name, hname⟩
        rw [part_succ hl hnext, List.filter_cons_of_neg (by simpa using hholds)]
        exact h.records }, h.sections⟩

end Cut.Tells

theorem getElem?_of_drop {rest : List String} (h : lines.drop i = l :: rest) :
    lines[i]? = some l ∧ lines.drop (i + 1) = rest := by
  constructor
  · rw [← List.head?_drop, h, List.head?_cons]
  · rw [← List.tail_drop, h, List.tail_cons]

theorem tells_cutFrom {rest : List String} (hi : i ≤ lines.length) (h : lines.drop i = rest) :
    (cutFrom i rest).Tells lines i := by
  induction rest generalizing i with
  | nil =>
    have hend : i = lines.length := Nat.le_antisymm hi (List.drop_eq_nil_iff.mp h)
    refine ⟨fun j _ hij hji => absurd hij (Nat.not_le.mpr hji), fun hne => absurd rfl hne,
      fun _ => hend, ?_, nofun⟩
    rw [show (cutFrom i []).next = i from rfl, part_self]
    exact .nil
  | cons l rest ih =>
    obtain ⟨hl, hrest⟩ := getElem?_of_drop h
    obtain ⟨hlt, -⟩ := List.getElem?_eq_some_iff.mp hl
    have after := ih hlt hrest
    have hnext : i < (cutFrom (i + 1) rest).next := le_next (i + 1) rest
    have hreads := reads_classify l
    unfold cutFrom
    generalize classify l = kind at hreads ⊢
    cases hreads with
    | header hname => exact after.opened hl hnext hname
    | record hholds hstands => exact after.record hl hnext hholds (hstands (i + 1))
    | empty hempty =>
      exact after.skip hl hnext (hempty ▸ not_isHeader_empty) (by simp [hempty, HoldsRecord])
    | other hne hheader hequals =>
      exact after.skip hl hnext hheader fun hholds => hequals hholds.2

/-- The numbered lines that are not empty. -/
def filled (numbered : List (String × Nat)) : List (Nat × String) :=
  (numbered.filter (·.1 ≠ "")).map Prod.swap

theorem preambleOf_eq {rest : List String} (h : lines.drop i = rest) :
    preambleOf i rest = filled (part lines i (cutFrom i rest).next) := by
  induction rest generalizing i with
  | nil =>
    rw [show (cutFrom i []).next = i from rfl, part_self]
    rfl
  | cons l rest ih =>
    obtain ⟨hl, hrest⟩ := getElem?_of_drop h
    have hnext : i < (cutFrom (i + 1) rest).next := le_next (i + 1) rest
    have hpart := part_succ hl hnext
    have hreads := reads_classify l
    unfold preambleOf cutFrom
    generalize classify l = kind at hreads ⊢
    cases hreads with
    | header hname =>
      dsimp only
      rw [part_self]
      rfl
    | record hholds hstands =>
      have hne : l ≠ "" := by
        rintro rfl
        simpa using hholds.2
      dsimp only
      rw [hpart, ih hrest, filled, filled, List.filter_cons_of_pos (by simpa using hne)]
      rfl
    | empty hempty =>
      dsimp only
      rw [hpart, ih hrest, filled, filled, List.filter_cons_of_neg (by simpa using hempty)]
    | other hne hheader hequals =>
      dsimp only
      rw [hpart, ih hrest, filled, filled, List.filter_cons_of_pos (by simpa using hne)]
      rfl

/-! ## One pass over the lines -/

/-- One more line of a file with so many lines. A header opens a section that reaches to the
end of the file, and cuts the one before it short. -/
def advance (total : Nat) (t : Sections) (p : String × Nat) : Sections :=
  match classify p.1, t.sections.getLast? with
  | .empty, _ => t
  | .header name, none => { t with sections := [⟨name, p.2 + 1, p.2, total, []⟩] }
  | .header name, some last =>
    { t with sections := t.sections.dropLast ++
        [{ last with stop := p.2 }, ⟨name, p.2 + 1, p.2, total, []⟩] }
  | .record key value, some last =>
    { t with sections := t.sections.dropLast ++
        [{ last with records := last.records ++ [⟨key, value, p.2 + 1⟩] }] }
  | .other, some _ => t
  | _, none => { t with preamble := t.preamble ++ [(p.2 + 1, p.1)] }

/-- A line behind the first header goes to the section that is open, or closes it. -/
theorem advance_open (total : Nat) (preamble : List (Nat × String)) (front : List Section)
    (last : Section) (l : String) (i : Nat) :
    advance total ⟨preamble, front ++ [last]⟩ (l, i) = ⟨preamble, match classify l with
      | .header name =>
        front ++ [{ last with stop := i }] ++ [⟨name, i + 1, i, total, []⟩]
      | .record key value =>
        front ++ [{ last with records := last.records ++ [⟨key, value, i + 1⟩] }]
      | _ => front ++ [last]⟩ := by
  unfold advance
  rw [List.getLast?_concat]
  cases classify l <;> simp

/-- The lines up to the next header go to the section that is open, which stops there. -/
theorem foldl_advance_open {rest : List String} {total : Nat} (htotal : i + rest.length = total)
    (preamble : List (Nat × String)) (front : List Section) {last : Section}
    (hstop : last.stop = total) :
    (rest.zipIdx i).foldl (advance total) ⟨preamble, front ++ [last]⟩ =
      ⟨preamble, front ++ { last with
        stop := (cutFrom i rest).next
        records := last.records ++ (cutFrom i rest).records } :: (cutFrom i rest).sections⟩ := by
  induction rest generalizing i front last with
  | nil =>
    have hlast : { last with stop := i, records := last.records ++ [] } = last := by
      rw [List.append_nil, show i = last.stop from htotal.trans hstop.symm]
    exact congrArg (fun s => (⟨preamble, front ++ [s]⟩ : Sections)) hlast.symm
  | cons l rest ih =>
    have hrest : i + 1 + rest.length = total := by
      rw [← htotal, List.length_cons]
      omega
    rw [List.zipIdx_cons, List.foldl_cons, advance_open]
    unfold cutFrom
    cases classify l with
    | empty => exact ih hrest front hstop
    | other => exact ih hrest front hstop
    | header name =>
      have hnew : (⟨name, i + 1, i, total, []⟩ : Section).stop = total := rfl
      refine (ih hrest (front ++ [{ last with stop := i }]) hnew).trans ?_
      simp only [List.append_assoc, List.singleton_append, List.nil_append, List.append_nil]
    | record key value =>
      let added : Section := { last with records := last.records ++ [⟨key, value, i + 1⟩] }
      have hadded : added.stop = total := hstop
      refine (ih hrest front hadded).trans ?_
      simp only [added, List.append_assoc, List.singleton_append]

/-- Until a header opens the first section, the lines that are not empty go to the preamble. -/
theorem foldl_advance_none {rest : List String} {total : Nat} (htotal : i + rest.length = total)
    (preamble : List (Nat × String)) :
    (rest.zipIdx i).foldl (advance total) ⟨preamble, []⟩ =
      ⟨preamble ++ preambleOf i rest, (cutFrom i rest).sections⟩ := by
  induction rest generalizing i preamble with
  | nil => exact congrArg (fun p => (⟨p, []⟩ : Sections)) (List.append_nil _).symm
  | cons l rest ih =>
    have hrest : i + 1 + rest.length = total := by
      rw [← htotal, List.length_cons]
      omega
    rw [List.zipIdx_cons, List.foldl_cons]
    unfold advance cutFrom preambleOf
    rw [List.getLast?_nil]
    cases classify l with
    | empty => exact ih hrest preamble
    | header name =>
      dsimp only
      rw [List.append_nil]
      exact foldl_advance_open hrest preamble [] rfl
    | record key value =>
      exact (ih hrest _).trans (by rw [List.append_assoc]; rfl)
    | other => exact (ih hrest _).trans (by rw [List.append_assoc]; rfl)

/-- The sections of a file come out of one pass over its lines. -/
theorem ofLines_eq_foldl (lines : List String) :
    ofLines lines = lines.zipIdx.foldl (advance lines.length) ⟨[], []⟩ := by
  rw [foldl_advance_none (Nat.zero_add _), List.nil_append, ofLines]

/-! ## The whole file -/

/-- The sections partition the lines from the first header on, and the preamble keeps those in
front of it. -/
theorem ofLines_partition (lines : List String) :
    ((∀ l ∈ lines, ¬ IsHeader l) → (ofLines lines).sections = [] ∧
      (ofLines lines).preamble = filled (lines.zipIdx 1)) ∧
    ((∃ l ∈ lines, IsHeader l) → (ofLines lines).sections ≠ [] ∧ ∃ first,
      Headless lines 0 first ∧ (∃ l, lines[first]? = some l ∧ IsHeader l) ∧
      Section.Tile first (ofLines lines).sections lines.length ∧
      (∀ i < lines.length, (ofLines lines).sections.countP (fun s => s.start ≤ i ∧ i < s.stop) =
        if i < first then 0 else 1) ∧
      (∀ s ∈ (ofLines lines).sections, s.Tells lines) ∧
      (ofLines lines).preamble = filled (part lines 0 first)) := by
  have htells := tells_cutFrom (Nat.zero_le lines.length) List.drop_zero
  have htile := tile_cutFrom 0 lines
  rw [Nat.zero_add] at htile
  have hpreamble : (ofLines lines).preamble = filled (part lines 0 (cutFrom 0 lines).next) :=
    preambleOf_eq List.drop_zero
  constructor
  · intro hnone
    have hempty : (cutFrom 0 lines).sections = [] := by
      by_contra hne
      obtain ⟨l, hl, hheader⟩ := htells.header hne
      exact hnone l (List.mem_of_getElem? hl) hheader
    rw [hpreamble, htells.next_eq hempty, part_length]
    exact ⟨hempty, rfl⟩
  · rintro ⟨l, hl, hheader⟩
    have hne : (cutFrom 0 lines).sections ≠ [] := by
      intro hempty
      obtain ⟨i, hi⟩ := List.getElem?_of_mem hl
      obtain ⟨hlt, -⟩ := List.getElem?_eq_some_iff.mp hi
      exact htells.headless i l (Nat.zero_le i) (htells.next_eq hempty ▸ hlt) hi hheader
    exact ⟨hne, _, htells.headless, htells.header hne, htile, fun i hi => htile.countP_covers hi,
      htells.sections, hpreamble⟩

end Sections

end DriverDesk
