import DriverDesk.PanelFile.Source

/-!
# Clean lines

What cleaning takes off a line: blanks at its ends, a comment, and the return that may
belong to its end. A text is cut at its line feeds, so the lines of two texts one behind
the other are the lines of both.
-/

namespace DriverDesk

namespace Text

/-! ## Blanks around a text -/

/-- Characters that are blank. -/
def AllBlank (g : List Char) : Prop := ∀ c ∈ g, isBlank c = true

/-- The characters of a text are gone through, not all characters there are. -/
instance (priority := 2000) decidableForallMem (p : Char → Prop) [DecidablePred p]
    (cs : List Char) : Decidable (∀ c ∈ cs, p c) :=
  List.decidableBAll p cs

instance (g : List Char) : Decidable (AllBlank g) :=
  inferInstanceAs (Decidable (∀ c ∈ g, isBlank c = true))

@[simp]
theorem trim_nil : trim [] = [] := rfl

theorem trimStart_of_blank {g : List Char} (hg : AllBlank g) : trimStart g = [] := by
  have h := trimStart_append_of_blank hg []
  rwa [List.append_nil] at h

theorem trimStart_append_cons {c : Char} (hc : isBlank c = false) (a b : List Char) :
    trimStart (a ++ c :: b) = trimStart a ++ c :: b := by
  unfold trimStart
  induction a with
  | nil => simp [hc]
  | cons x a ih =>
    rw [List.cons_append, List.dropWhile_cons, List.dropWhile_cons]
    split
    · exact ih
    · rfl

theorem trimEnd_append_cons {c : Char} (hc : isBlank c = false) (a b : List Char) :
    trimEnd (a ++ c :: b) = a ++ c :: trimEnd b := by
  have h := trimStart_append_cons hc b.reverse a.reverse
  unfold trimStart at h
  unfold trimEnd
  rw [List.reverse_append, List.reverse_cons, List.append_assoc, List.singleton_append, h]
  simp

/-- What stands around a character that is not blank is trimmed on its side only. -/
theorem trim_append_cons {c : Char} (hc : isBlank c = false) (a b : List Char) :
    trim (a ++ c :: b) = trimStart a ++ c :: trimEnd b := by
  rw [trim, trimStart_append_cons hc, trimEnd_append_cons hc]

theorem trim_append_of_blank {g : List Char} (hg : AllBlank g) (cs : List Char) :
    trim (g ++ cs) = trim cs := by
  rw [trim, trimStart_append_of_blank hg, trim]

/-- A text is blank, or has a first character that is not. -/
theorem allBlank_or (cs : List Char) :
    AllBlank cs ∨ ∃ g c rest, AllBlank g ∧ isBlank c = false ∧ cs = g ++ c :: rest := by
  induction cs with
  | nil => exact .inl nofun
  | cons x cs ih =>
    cases hx : isBlank x with
    | false => exact .inr ⟨[], x, cs, nofun, hx, rfl⟩
    | true =>
      rcases ih with hblank | ⟨g, c, rest, hg, hc, rfl⟩
      · exact .inl (List.forall_mem_cons.mpr ⟨hx, hblank⟩)
      · exact .inr ⟨x :: g, c, rest, List.forall_mem_cons.mpr ⟨hx, hg⟩, hc, rfl⟩

theorem trim_append_blank {g : List Char} (hg : AllBlank g) (cs : List Char) :
    trim (cs ++ g) = trim cs := by
  rcases allBlank_or cs with hcs | ⟨b, c, rest, hb, hc, rfl⟩
  · rw [trim_append_of_blank hcs, trim, trim, trimStart_of_blank hg, trimStart_of_blank hcs]
  · rw [List.append_assoc, List.cons_append, trim_append_cons hc, trim_append_cons hc,
      trimEnd_append_of_blank hg]

theorem exists_trimStart (cs : List Char) : ∃ g, AllBlank g ∧ cs = g ++ trimStart cs :=
  ⟨cs.takeWhile isBlank, List.all_eq_true.mp List.all_takeWhile,
    (List.takeWhile_append_dropWhile).symm⟩

theorem exists_trimEnd (cs : List Char) : ∃ g, AllBlank g ∧ cs = trimEnd cs ++ g := by
  obtain ⟨g, hg, hcs⟩ := exists_trimStart cs.reverse
  refine ⟨g.reverse, fun c hc => hg c (List.mem_reverse.mp hc), ?_⟩
  rw [trimEnd, ← List.reverse_append]
  exact List.reverse_eq_iff.mp hcs

theorem trim_trimStart (cs : List Char) : trim (trimStart cs) = trim cs := by
  obtain ⟨g, hg, hcs⟩ := exists_trimStart cs
  have h := trim_append_of_blank hg (trimStart cs)
  rw [← hcs] at h
  exact h.symm

theorem trim_trimEnd (cs : List Char) : trim (trimEnd cs) = trim cs := by
  obtain ⟨g, hg, hcs⟩ := exists_trimEnd cs
  have h := trim_append_blank hg (trimEnd cs)
  rw [← hcs] at h
  exact h.symm

theorem trim_trim (cs : List Char) : trim (trim cs) = trim cs := by
  rw [show trim cs = trimEnd (trimStart cs) from rfl, trim_trimEnd, trim_trimStart]
  rfl

theorem exists_trim (cs : List Char) :
    ∃ g h, AllBlank g ∧ AllBlank h ∧ cs = g ++ trim cs ++ h := by
  obtain ⟨g, hg, hcs⟩ := exists_trimStart cs
  obtain ⟨h, hh, hcs'⟩ := exists_trimEnd (trimStart cs)
  refine ⟨g, h, hg, hh, ?_⟩
  rw [List.append_assoc, trim, ← hcs', ← hcs]

theorem mem_of_mem_trim {c : Char} {cs : List Char} (h : c ∈ trim cs) : c ∈ cs := by
  obtain ⟨g, g', -, -, hcs⟩ := exists_trim cs
  rw [hcs]
  exact List.mem_append_left g' (List.mem_append_right g h)

theorem mem_of_mem_trimStart {c : Char} {cs : List Char} (h : c ∈ trimStart cs) : c ∈ cs := by
  obtain ⟨g, -, hcs⟩ := exists_trimStart cs
  rw [hcs]
  exact List.mem_append_right g h

theorem mem_of_mem_trimEnd {c : Char} {cs : List Char} (h : c ∈ trimEnd cs) : c ∈ cs := by
  obtain ⟨g, -, hcs⟩ := exists_trimEnd cs
  rw [hcs]
  exact List.mem_append_left g h

/-- A trimmed text begins with a character that is not blank. -/
theorem isBlank_of_trim_eq {c : Char} {cs : List Char} (h : trim (c :: cs) = c :: cs) :
    isBlank c = false := by
  cases hc : isBlank c with
  | false => rfl
  | true =>
    have hg : AllBlank [c] := List.forall_mem_singleton.mpr hc
    have htrim : trim cs = c :: cs := (trim_append_of_blank hg cs).symm.trans h
    obtain ⟨g, g', -, -, hcs⟩ := exists_trim cs
    have hlength := congrArg List.length hcs
    rw [htrim, List.length_append, List.length_append, List.length_cons] at hlength
    omega

/-! ## Pieces of a text -/

variable {sep : Char → Bool}

theorem pieces_of_forall {cs : List Char} (h : ∀ c ∈ cs, sep c = false) :
    pieces sep cs = [cs] := by
  induction cs with
  | nil => rfl
  | cons c cs ih =>
    obtain ⟨hc, hcs⟩ := List.forall_mem_cons.mp h
    rw [pieces, if_neg (Bool.eq_false_iff.mp hc), ih hcs]

theorem pieces_of_not_mem {s : Char} {cs : List Char} (h : s ∉ cs) :
    pieces (· == s) cs = [cs] :=
  pieces_of_forall fun _ hc => beq_false_of_ne (ne_of_mem_of_not_mem hc h)

theorem pieces_ne_nil (sep : Char → Bool) (cs : List Char) : pieces sep cs ≠ [] := by
  cases cs with
  | nil => exact List.cons_ne_nil _ _
  | cons c cs =>
    unfold pieces
    split
    · exact List.cons_ne_nil _ _
    · split
      · exact List.cons_ne_nil _ _
      · exact List.cons_ne_nil _ _

/-- The pieces of two texts with a separator between them. -/
theorem pieces_append {s : Char} (hs : sep s = true) (a b : List Char) :
    pieces sep (a ++ s :: b) = pieces sep a ++ pieces sep b := by
  induction a with
  | nil => exact if_pos hs
  | cons c a ih =>
    rw [List.cons_append, pieces, pieces]
    split
    · rw [ih]; rfl
    · rw [ih]
      cases ha : pieces sep a with
      | nil => exact absurd ha (pieces_ne_nil sep a)
      | cons p ps => rfl

theorem lines_of_not_mem {cs : List Char} (h : '\n' ∉ cs) :
    lines cs = if cs = [] then [] else [cs] := by
  rw [lines, pieces_of_not_mem h]
  cases cs with
  | nil => rfl
  | cons c cs => rfl

theorem lines_append_newline (a b : List Char) :
    lines (a ++ '\n' :: b) = (pieces (· == '\n') a).map dropReturn ++ lines b := by
  have hne := pieces_ne_nil (· == '\n') b
  rw [lines, lines, pieces_append rfl, List.dropLast_append_of_ne_nil hne, List.map_append,
    List.getLast?_append]
  cases hlast : (pieces (· == '\n') b).getLast? with
  | none => exact absurd (List.getLast?_eq_none_iff.mp hlast) hne
  | some last =>
    cases last with
    | nil => rfl
    | cons c last => exact List.append_assoc _ _ _

/-- A text begins with the lines of a part that ends with a line feed. -/
theorem lines_append (a b : List Char) :
    lines (a ++ '\n' :: b) = lines (a ++ ['\n']) ++ lines b := by
  rw [lines_append_newline, lines_append_newline]
  exact congrArg (· ++ lines b) (List.append_nil _).symm

/-- The first line of a text, and those behind its line feed. -/
theorem lines_append_cons {a : List Char} (ha : '\n' ∉ a) (b : List Char) :
    lines (a ++ '\n' :: b) = dropReturn a :: lines b := by
  rw [lines_append_newline, pieces_of_not_mem ha]
  rfl

theorem dropReturn_concat (cs : List Char) : dropReturn (cs ++ ['\r']) = cs := by
  simp [dropReturn]

end Text

namespace PanelSource

/-! ## Cleaning a line -/

/-- A comment, or nothing. -/
def IsComment (cs : List Char) : Prop := cs = [] ∨ ∃ rest, cs = ';' :: rest

/-- A clean line is what stands in front of its comment, trimmed. -/
theorem cleanLine_append {body comment : List Char} (hbody : ';' ∉ body)
    (hcomment : IsComment comment) : cleanLine (body ++ comment) = Text.trim body := by
  rcases hcomment with rfl | ⟨rest, rfl⟩
  · have hmem : ';' ∉ Text.trim body := mt Text.mem_of_mem_trim hbody
    rw [List.append_nil, cleanLine, Text.cut?_eq_none.mpr hmem]
  · have hsemicolon : Text.isBlank ';' = false := by decide
    have hmem : ';' ∉ Text.trimStart body := mt Text.mem_of_mem_trimStart hbody
    rw [cleanLine, Text.trim_append_cons hsemicolon, Text.cut?_append hmem]
    rfl

/-- A return at the end of a line does not show. -/
theorem cleanLine_dropReturn (cs : List Char) :
    cleanLine (Text.dropReturn cs) = cleanLine cs := by
  unfold Text.dropReturn
  split
  next h =>
    obtain ⟨init, rfl⟩ := List.getLast?_eq_some_iff.mp h
    have hreturn : Text.AllBlank ['\r'] := List.forall_mem_singleton.mpr (by decide)
    rw [List.dropLast_concat, cleanLine, cleanLine, Text.trim_append_blank hreturn]
  next => rfl

@[simp]
theorem path_ofText (path folder : Path) (text : String) : (ofText path folder text).path = path :=
  rfl

@[simp]
theorem trainFolder_ofText (path folder : Path) (text : String) :
    (ofText path folder text).trainFolder = folder := rfl

/-- A text put behind whole lines adds its own lines to theirs. -/
theorem lines_ofText_append (path folder : Path) (a b : String) :
    (ofText path folder (a ++ "\n" ++ b)).lines =
      (ofText path folder (a ++ "\n")).lines ++ (ofText path folder b).lines := by
  have htexts : (a ++ "\n" ++ b).toList = a.toList ++ '\n' :: b.toList := by simp
  have htext : (a ++ "\n").toList = a.toList ++ ['\n'] := by simp
  rw [ofText, ofText, ofText, htexts, htext, Text.lines_append, List.map_append]

end PanelSource

end DriverDesk
