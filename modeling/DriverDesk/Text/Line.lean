import DriverDesk.Text.Blank

/-!
# Lines and cuts

Text cut into lines at line feeds, and at the first occurrence of a separator.
A carriage return before a line feed belongs to the line end, and a final line
end opens no further line.
-/

namespace DriverDesk.Text

/-- The text before and after the first `sep`, if there is one. -/
def cut? (sep : Char) : List Char → Option (List Char × List Char)
  | [] => none
  | c :: r => if c = sep then some ([], r) else (cut? sep r).map fun p => (c :: p.1, p.2)

/-- The pieces between the separators; always at least one. -/
def pieces (sep : Char → Bool) : List Char → List (List Char)
  | [] => [[]]
  | c :: r =>
    if sep c then [] :: pieces sep r
    else match pieces sep r with
      | [] => [[c]]
      | p :: ps => (c :: p) :: ps

/-- A line without the carriage return that a line end may begin with. -/
def dropReturn (cs : List Char) : List Char :=
  match cs.getLast? with
  | some '\r' => cs.dropLast
  | _ => cs

/-- The lines of a text, without their line ends. The last piece is a line of
its own only when it is not empty, and keeps a final carriage return. -/
def lines (cs : List Char) : List (List Char) :=
  let ps := pieces (· == '\n') cs
  let ended := ps.dropLast.map dropReturn
  match ps.getLast? with
  | some [] | none => ended
  | some last => ended ++ [last]

/-- What follows `front` in a text that begins with it. -/
def after? (front s : String) : Option String :=
  if front.toList.isPrefixOf s.toList then
    some (String.ofList (s.toList.drop front.toList.length))
  else none

theorem cut?_eq_some {sep : Char} {cs a b : List Char} (h : cut? sep cs = some (a, b)) :
    cs = a ++ sep :: b ∧ sep ∉ a := by
  induction cs generalizing a with
  | nil => simp [cut?] at h
  | cons c r ih =>
    unfold cut? at h
    split at h
    · rename_i hc
      cases h
      simp [hc]
    · rename_i hc
      obtain ⟨p, hp, he⟩ := Option.map_eq_some_iff.1 h
      cases he
      obtain ⟨h1, h2⟩ := ih (a := p.1) hp
      exact ⟨by simp [← h1], by simp [h2, Ne.symm hc]⟩

theorem cut?_append {sep : Char} {a : List Char} (ha : sep ∉ a) (b : List Char) :
    cut? sep (a ++ sep :: b) = some (a, b) := by
  induction a with
  | nil => simp [cut?]
  | cons c r ih =>
    simp only [List.mem_cons, not_or] at ha
    simp [cut?, ih ha.2, Ne.symm ha.1]

theorem cut?_eq_none {sep : Char} {cs : List Char} : cut? sep cs = none ↔ sep ∉ cs := by
  induction cs with
  | nil => simp [cut?]
  | cons c r ih =>
    by_cases h : c = sep
    · simp [cut?, h]
    · simp [cut?, h, ih, Ne.symm h]

end DriverDesk.Text
