import DriverDesk.Host.FileTree
import DriverDesk.Proofs.CleanLines
import Mathlib.Data.List.DropRight
import Mathlib.Data.String.Basic

/-!
# Paths that mean the same

Segments that do not count may stand in a path or not: its components are the same, and so is
what it leads to in a tree, as long as the last segment counts and the text is not too long.
-/

namespace DriverDesk

/-! ## First and last pieces -/

namespace Text

variable {sep : Char → Bool}

/-- What stands in front of the first separator. -/
def firstPiece (sep : Char → Bool) (cs : List Char) : List Char := cs.takeWhile (!sep ·)

/-- What stands behind the last separator. -/
def lastPiece (sep : Char → Bool) (cs : List Char) : List Char := cs.rtakeWhile (!sep ·)

theorem head?_pieces (cs : List Char) : (pieces sep cs).head? = some (firstPiece sep cs) := by
  induction cs with
  | nil => rfl
  | cons c cs ih =>
    unfold pieces firstPiece
    cases hc : sep c with
    | true => simp [hc]
    | false =>
      rw [firstPiece] at ih
      obtain ⟨p, ps, hps⟩ := List.exists_cons_of_ne_nil (pieces_ne_nil sep cs)
      rw [hps] at ih ⊢
      simpa [hc] using ih

theorem not_sep_of_mem_lastPiece {c : Char} {cs : List Char} (h : c ∈ lastPiece sep cs) :
    sep c = false := by
  simpa using List.mem_rtakeWhile_imp h

/-- A text is its last piece, with a separator and more in front if it has a separator. -/
theorem lastPiece_cases (sep : Char → Bool) (cs : List Char) :
    lastPiece sep cs = cs ∨ ∃ a s, sep s = true ∧ a ++ s :: lastPiece sep cs = cs := by
  have hcs : cs.rdropWhile (!sep ·) ++ lastPiece sep cs = cs := List.rdropWhile_append_rtakeWhile
  rcases List.eq_nil_or_concat' (cs.rdropWhile (!sep ·)) with hfront | ⟨a, s, hfront⟩
  · rw [hfront] at hcs
    exact .inl hcs
  · have hs := List.rdropWhile_last_not (!sep ·) cs (by simp [hfront])
    simp only [hfront, List.getLast_concat] at hs
    rw [hfront, List.append_assoc] at hcs
    exact .inr ⟨a, s, by simpa using hs, hcs⟩

theorem getLast?_pieces (sep : Char → Bool) (cs : List Char) :
    (pieces sep cs).getLast? = some (lastPiece sep cs) := by
  have hlast : pieces sep (lastPiece sep cs) = [lastPiece sep cs] :=
    pieces_of_forall fun _ hc => not_sep_of_mem_lastPiece hc
  have hcases := lastPiece_cases sep cs
  generalize lastPiece sep cs = l at hlast hcases ⊢
  rcases hcases with rfl | ⟨a, s, hs, rfl⟩
  · rw [hlast]
    rfl
  · rw [pieces_append hs, hlast, List.getLast?_concat]

theorem not_sep_of_mem_pieces {cs piece : List Char} (h : piece ∈ pieces sep cs) :
    ∀ c ∈ piece, sep c = false := by
  induction cs generalizing piece with
  | nil =>
    rw [List.mem_singleton.mp h]
    nofun
  | cons c cs ih =>
    obtain ⟨p, ps, hps⟩ := List.exists_cons_of_ne_nil (pieces_ne_nil sep cs)
    unfold pieces at h
    rw [hps] at h ih
    cases hc : sep c with
    | true =>
      rw [hc, if_pos rfl, List.mem_cons] at h
      rcases h with rfl | h
      · nofun
      · exact ih h
    | false =>
      rw [hc, if_neg Bool.false_ne_true, List.mem_cons] at h
      rcases h with rfl | h
      · exact List.forall_mem_cons.mpr ⟨hc, ih List.mem_cons_self⟩
      · exact ih (List.mem_cons_of_mem _ h)

/-- With fewer separators the last piece reaches further to the front. -/
theorem lastPiece_suffix {sep' : Char → Bool} (h : ∀ c, sep c = true → sep' c = true)
    (cs : List Char) : lastPiece sep' cs <:+ lastPiece sep cs := by
  have hboth : (fun c => decide ((!sep' c) = true ∧ (!sep c) = true)) = (!sep' ·) := by
    funext c
    cases hc : sep c with
    | true => simp [h c hc]
    | false => simp
  rw [lastPiece, lastPiece, List.rtakeWhile, List.rtakeWhile, List.reverse_suffix, ← hboth,
    ← List.takeWhile_takeWhile]
  exact List.takeWhile_prefix _

theorem firstPiece_append {cs : List Char} (h : ∃ c ∈ cs, sep c = true) (e : List Char) :
    firstPiece sep (cs ++ e) = firstPiece sep cs := by
  obtain ⟨c, hmem, hc⟩ := h
  rw [firstPiece, firstPiece, List.takeWhile_append, if_neg]
  intro hlength
  have hall := (List.takeWhile_prefix (!sep ·) (l := cs)).eq_of_length hlength
  rw [List.takeWhile_eq_self_iff] at hall
  simpa [hc] using hall c hmem

theorem lastPiece_append {e : List Char} (h : ∀ c ∈ e, sep c = false) (cs : List Char) :
    lastPiece sep (cs ++ e) = lastPiece sep cs ++ e := by
  rw [lastPiece, lastPiece, List.rtakeWhile, List.rtakeWhile, List.reverse_append,
    List.takeWhile_append_of_pos (by simpa using h), List.reverse_append, List.reverse_reverse]

end Text

namespace Path

/-! ## Segments -/

/-- The segments of a path. -/
def parts (p : Path) : List (List Char) := segments p.text.toList

/-- The segment at the end is a component. -/
def Ends (p : Path) : Prop := ∃ s, p.parts.getLast? = some s ∧ counts s = true

theorem counts_iff {s : List Char} : counts s = true ↔ s ≠ [] ∧ s ≠ ['.'] := by
  simp [counts]

theorem segments_slash (r : List Char) : segments ('/' :: r) = [] :: segments r := rfl

theorem segments_append (a b : List Char) :
    segments (a ++ '/' :: b) = segments a ++ segments b :=
  Text.pieces_append rfl a b

theorem slash_not_mem_of_mem_segments {cs s : List Char} (h : s ∈ segments cs) : '/' ∉ s :=
  fun hmem => Bool.noConfusion (Text.not_sep_of_mem_pieces h '/' hmem)

theorem joinSegments_cons (s : List Char) (ss : List (List Char)) :
    joinSegments (s :: ss) = s ++ ss.flatMap ('/' :: ·) := by
  induction ss generalizing s with
  | nil => exact (List.append_nil s).symm
  | cons s' ss ih => rw [joinSegments, ih, List.flatMap_cons, List.cons_append]; nofun

theorem segments_joinSegments {ss : List (List Char)} (hne : ss ≠ []) (h : ∀ s ∈ ss, '/' ∉ s) :
    segments (joinSegments ss) = ss := by
  induction ss with
  | nil => exact absurd rfl hne
  | cons s ss ih =>
    obtain ⟨hs, hss⟩ := List.forall_mem_cons.mp h
    cases ss with
    | nil => exact Text.pieces_of_not_mem hs
    | cons s' ss =>
      rw [joinSegments, segments_append, ih (List.cons_ne_nil _ _) hss, segments,
        Text.pieces_of_not_mem hs]
      · rfl
      · nofun

theorem joinSegments_segments (cs : List Char) : joinSegments (segments cs) = cs := by
  induction cs with
  | nil => rfl
  | cons c cs ih =>
    obtain ⟨p, ps, hps⟩ := List.exists_cons_of_ne_nil (Text.pieces_ne_nil (· == '/') cs)
    rw [segments, hps, joinSegments_cons] at ih
    rw [segments, Text.pieces, hps]
    split
    · next hc =>
      rw [joinSegments_cons, List.flatMap_cons, List.cons_append, ih, beq_iff_eq.mp hc]
      rfl
    · rw [joinSegments_cons, List.cons_append, ih]

/-- Without some of the segments the text is shorter. -/
theorem joinSegments_sublist {ss ss' : List (List Char)} (h : ss.Sublist ss') :
    (joinSegments ss).Sublist (joinSegments ss') := by
  induction h with
  | slnil => exact .refl _
  | @cons ss ss' s hss ih =>
    cases ss' with
    | nil =>
      rw [List.sublist_nil.mp hss]
      exact List.nil_sublist _
    | cons s' ss' => exact (ih.cons '/').trans (List.sublist_append_right _ _)
  | @cons_cons ss ss' s hss ih =>
    rw [joinSegments_cons, joinSegments_cons]
    refine .append (.refl s) ?_
    clear ih
    induction hss with
    | slnil => exact .refl _
    | cons s' _ ih => exact ih.trans (List.sublist_append_right _ _)
    | cons_cons s' _ ih => exact .append (.refl _) ih

theorem joinSegments_filter_sublist (cs : List Char) :
    (joinSegments ((segments cs).filter counts)).Sublist cs := by
  have h := joinSegments_sublist (List.filter_sublist (p := counts) (l := segments cs))
  rwa [joinSegments_segments] at h

/-! ## The same components -/

theorem isAbsolute_iff {p : Path} : p.isAbsolute = true ↔ ∃ r, p.text.toList = '/' :: r := by
  rw [isAbsolute, beq_iff_eq]
  cases p.text.toList with
  | nil => simp
  | cons c r => simp

/-- Paths that begin alike and have the same segments that count. -/
structure Alike (p q : Path) : Prop where
  isAbsolute : p.isAbsolute = q.isAbsolute
  /-- A leading `.` is a component. -/
  here : p.parts.head? = some ['.'] ↔ q.parts.head? = some ['.']
  counting : p.parts.filter counts = q.parts.filter counts

/-- What stands in front of the first segment, for each way a text begins. -/
theorem lead_cases (cs : List Char) :
    (∃ r, cs = '/' :: r ∧ lead cs = (['/'], r)) ∨ (cs = ['.'] ∧ lead cs = (['.'], [])) ∨
      (∃ r, cs = '.' :: '/' :: r ∧ lead cs = (['.'], '/' :: r)) ∨
      (cs.head? ≠ some '/' ∧ (segments cs).head? ≠ some ['.'] ∧ lead cs = ([], cs)) := by
  rw [segments, Text.head?_pieces, Text.firstPiece]
  unfold lead
  split
  next r => exact .inl ⟨r, rfl, rfl⟩
  next => exact .inr (.inl ⟨rfl, rfl⟩)
  next r => exact .inr (.inr (.inl ⟨r, rfl, rfl⟩))
  next hroot hdot hhere =>
    refine .inr (.inr (.inr ⟨?_, ?_, rfl⟩))
    · rintro h
      obtain ⟨r, rfl⟩ := List.head?_eq_some_iff.mp h
      exact hroot r rfl
    · intro h
      match cs with
      | [] => exact absurd h (by decide)
      | [c] => simp_all
      | c :: c' :: r => simp_all [List.takeWhile_cons]

theorem components_eq (p : Path) :
    p.components =
      (if p.isAbsolute then [.root] else if p.parts.head? = some ['.'] then [.here] else []) ++
        (p.parts.filter counts).map componentOf := by
  unfold components isAbsolute parts
  generalize p.text.toList = cs
  rcases lead_cases cs with ⟨r, rfl, hlead⟩ | ⟨rfl, hlead⟩ | ⟨r, rfl, hlead⟩ |
    ⟨hroot, hhere, hlead⟩
  · rw [hlead]
    rfl
  · rfl
  · rw [hlead]
    rfl
  · rw [hlead, if_neg (by simpa using hroot), if_neg hhere]

theorem Alike.components {p q : Path} (h : Alike p q) : p.components = q.components := by
  rw [components_eq, components_eq, h.isAbsolute, h.counting]
  simp only [h.here]

/-! ## Default extensions -/

theorem extensionOf?_isSome_iff {name : List Char} :
    (extensionOf? name).isSome = true ↔ ∃ a b, a ≠ [] ∧ name = a ++ '.' :: b := by
  unfold extensionOf?
  constructor
  · intro h
    cases hcut : Text.cut? '.' name.reverse with
    | none => rw [hcut] at h; cases h
    | some p =>
      obtain ⟨ext, stem⟩ := p
      have hname := congrArg List.reverse (Text.cut?_eq_some hcut).1
      rw [List.reverse_reverse, List.reverse_append, List.reverse_cons, List.append_assoc] at hname
      refine ⟨stem.reverse, ext.reverse, ?_, hname⟩
      rintro hstem
      rw [hcut, List.reverse_eq_nil_iff.mp hstem] at h
      cases h
  · rintro ⟨a, b, ha, rfl⟩
    cases hcut : Text.cut? '.' (a ++ '.' :: b).reverse with
    | none => exact absurd (Text.cut?_eq_none.mp hcut) (by simp)
    | some p =>
      obtain ⟨ext, stem⟩ := p
      cases stem with
      | cons c stem => rfl
      | nil =>
        -- the only point is the first character, and `a` would have to stand in front of it
        obtain ⟨hname, hext⟩ := Text.cut?_eq_some hcut
        obtain ⟨c, a, rfl⟩ := List.exists_cons_of_ne_nil ha
        have h := congrArg List.reverse hname
        rw [List.reverse_reverse, List.reverse_append, List.reverse_singleton, List.cons_append,
          List.singleton_append, List.cons.injEq] at h
        exact absurd (List.mem_reverse.mp (h.2 ▸ List.mem_append_right a List.mem_cons_self)) hext

theorem settle_of_getLast? {ss : List (List Char)} {s : List Char} (hlast : ss.getLast? = some s)
    (hs : counts s = true) : settle ss = ss := by
  obtain ⟨init, rfl⟩ := List.getLast?_eq_some_iff.mp hlast
  simp [settle, hs]

/-- Nothing stands behind the last component, so the text is that of its segments. -/
theorem lead_joinSegments {cs s : List Char} (hlast : (segments cs).getLast? = some s)
    (hs : counts s = true) :
    (lead cs).1 ++ joinSegments (settle (segments (lead cs).2)) = cs := by
  have hbody : ∀ body, (segments body).getLast? = some s →
      joinSegments (settle (segments body)) = body := fun body hlast => by
    rw [settle_of_getLast? hlast hs, joinSegments_segments]
  have hcons : ∀ first r, (first :: segments r).getLast? = (segments r).getLast? := fun _ r =>
    List.getLast?_cons_of_ne_nil (Text.pieces_ne_nil _ r)
  rcases lead_cases cs with ⟨r, rfl, hlead⟩ | ⟨rfl, -⟩ | ⟨r, rfl, hlead⟩ | ⟨-, -, hlead⟩
  · rw [hlead, hbody r ((hcons [] r).symm.trans hlast)]
    rfl
  · cases hlast
    exact absurd hs (by decide)
  · rw [hlead, hbody ('/' :: r) ((hcons [] r).trans ((hcons ['.'] r).symm.trans hlast))]
    rfl
  · rw [hlead, hbody cs hlast]
    rfl

theorem fileName?_of_getLast? {p : Path} {s : List Char} (hlast : p.parts.getLast? = some s)
    (hs : counts s = true) : p.fileName? = if s = ['.', '.'] then none else some s := by
  obtain ⟨init, hinit⟩ := List.getLast?_eq_some_iff.mp hlast
  rw [fileName?, components_eq, hinit, List.filter_append, List.filter_cons_of_pos hs,
    List.filter_nil, List.map_append, List.map_singleton, ← List.append_assoc,
    List.getLast?_concat, componentOf]
  by_cases hup : s = ['.', '.']
  · rw [if_pos hup, if_pos hup]
  · rw [if_neg hup, if_neg hup]

/-- What the default extension does to a path that ends with a component. -/
theorem defaultExtension_of_getLast? {p : Path} {s : List Char}
    (hlast : p.parts.getLast? = some s) (hs : counts s = true) (ext : String) :
    p.defaultExtension ext =
      if (extensionOf? s).isSome then p else ⟨p.text ++ "." ++ ext⟩ := by
  rw [defaultExtension, fileName?_of_getLast? hlast hs]
  by_cases hup : s = ['.', '.']
  · rw [if_pos hup, if_pos (by rw [hup]; rfl)]
  · rw [if_neg hup]
    refine if_congr Iff.rfl rfl ?_
    change (⟨String.ofList ((lead p.text.toList).1 ++
      joinSegments (settle (segments (lead p.text.toList).2)) ++ '.' :: ext.toList)⟩ : Path) = _
    rw [lead_joinSegments hlast hs]
    simp [String.ofList_append, String.ofList_cons, String.append_assoc]

/-! ## Relative to a folder -/

/-- The text that a folder puts in front of a relative path. -/
theorem join_cases (base : Path) :
    (∀ q : Path, base.join q = q) ∨ ∃ folder : List Char, ∀ q : Path, q.isAbsolute = false →
      (base.join q).text.toList = folder ++ '/' :: q.text.toList := by
  by_cases hempty : base.text.isEmpty = true
  · refine .inl fun q => ?_
    rw [join, hempty, Bool.true_or, if_pos rfl, String.isEmpty_iff.mp hempty, String.empty_append,
      ite_self]
  · by_cases hslash : base.text.toList.getLast? = some '/'
    · obtain ⟨folder, hfolder⟩ := List.getLast?_eq_some_iff.mp hslash
      refine .inr ⟨folder, fun q hq => ?_⟩
      rw [join, hq, if_neg Bool.false_ne_true, if_pos (by simp [hslash]), String.toList_append,
        hfolder, List.append_assoc]
      rfl
    · refine .inr ⟨base.text.toList, fun q hq => ?_⟩
      rw [join, hq, if_neg Bool.false_ne_true, if_neg (by simp [hempty, hslash]),
        String.toList_append, String.toList_append, List.append_assoc]
      rfl

theorem join_of_isAbsolute {q : Path} (h : q.isAbsolute = true) (base : Path) :
    base.join q = q := if_pos h

theorem parts_of_toList {folder : List Char} {p q : Path}
    (h : q.text.toList = folder ++ '/' :: p.text.toList) :
    q.parts = segments folder ++ p.parts := by
  rw [parts, h, segments_append, parts]

theorem Alike.join {p q : Path} (h : Alike p q) (base : Path) :
    Alike (base.join p) (base.join q) := by
  cases hp : p.isAbsolute with
  | true =>
    rw [join_of_isAbsolute hp, join_of_isAbsolute (h.isAbsolute ▸ hp)]
    exact h
  | false =>
    rcases join_cases base with hjoin | ⟨folder, hjoin⟩
    · rw [hjoin, hjoin]
      exact h
    · have hjp := hjoin p hp
      have hjq := hjoin q (h.isAbsolute ▸ hp)
      have hne : segments folder ≠ [] := Text.pieces_ne_nil _ folder
      refine ⟨?_, ?_, ?_⟩
      · rw [Path.isAbsolute, Path.isAbsolute, hjp, hjq]
        cases folder <;> rfl
      · rw [parts_of_toList hjp, parts_of_toList hjq, List.head?_append_of_ne_nil _ hne,
          List.head?_append_of_ne_nil _ hne]
      · rw [parts_of_toList hjp, parts_of_toList hjq, List.filter_append, List.filter_append,
          h.counting]

theorem Ends.join {p : Path} (h : p.Ends) (base : Path) : (base.join p).Ends := by
  cases hp : p.isAbsolute with
  | true =>
    rw [join_of_isAbsolute hp]
    exact h
  | false =>
    rcases join_cases base with hjoin | ⟨folder, hjoin⟩
    · rw [hjoin]
      exact h
    · obtain ⟨s, hs, hcounts⟩ := h
      refine ⟨s, ?_, hcounts⟩
      rw [parts_of_toList (hjoin p hp), List.getLast?_append, hs]
      rfl

theorem join_sublist {p q : Path} (h : p.text.toList.Sublist q.text.toList)
    (habs : p.isAbsolute = q.isAbsolute) (base : Path) :
    (base.join p).text.toList.Sublist (base.join q).text.toList := by
  cases hp : p.isAbsolute with
  | true =>
    rw [join_of_isAbsolute hp, join_of_isAbsolute (habs ▸ hp)]
    exact h
  | false =>
    rcases join_cases base with hjoin | ⟨folder, hjoin⟩
    · rw [hjoin, hjoin]
      exact h
    · rw [hjoin p hp, hjoin q (habs ▸ hp)]
      exact .append (.refl _) (h.cons_cons _)

end Path

/-! ## What a path leads to -/

namespace FileTree

variable {t : FileTree}

theorem walk_cons (place : List String) (s : String) (ss : List String) :
    t.walk place (s :: ss) = (t.step place s >>= fun next => t.walk next ss) := rfl

/-- A segment that does not count asks for a folder, as the one behind it does. -/
theorem walk_of_not_counts {segment : List Char} (h : Path.counts segment = false)
    (place : List String) (next : String) (rest : List String) :
    t.walk place (String.ofList segment :: next :: rest) = t.walk place (next :: rest) := by
  have hsegment : String.ofList segment = "" ∨ String.ofList segment = "." := by
    by_cases hempty : segment = []
    · exact .inl (by rw [hempty])
    · have hdot : segment = ['.'] := by simpa [Path.counts, hempty] using h
      exact .inr (by rw [hdot])
  have hstep : t.step place (String.ofList segment) = .ok place ∨ ∃ fault,
      t.step place (String.ofList segment) = .error fault ∧ t.step place next = .error fault := by
    unfold step
    cases t.root.at? place.reverse with
    | none => exact .inr ⟨.missing, rfl, rfl⟩
    | some node =>
      cases node with
      | file octets => exact .inr ⟨.notFolder, rfl, rfl⟩
      | folder entries => exact .inl (if_pos hsegment)
  rw [walk_cons]
  rcases hstep with hstay | ⟨fault, hsegment, hnext⟩
  · rw [hstay]
    rfl
  · rw [walk_cons, hsegment, hnext]
    rfl

/-- Segments that do not count change nothing in front of one that does. -/
theorem walk_filter {segments : List (List Char)} {s : List Char}
    (hlast : segments.getLast? = some s) (hs : Path.counts s = true) (place : List String) :
    t.walk place (segments.map String.ofList) =
      t.walk place ((segments.filter Path.counts).map String.ofList) := by
  induction segments generalizing place with
  | nil => rfl
  | cons segment rest ih =>
    cases rest with
    | nil =>
      obtain rfl : segment = s := by simpa using hlast
      rw [List.filter_cons_of_pos hs]
      rfl
    | cons next rest =>
      rw [List.getLast?_cons_cons] at hlast
      cases hsegment : Path.counts segment with
      | true =>
        rw [List.filter_cons_of_pos hsegment]
        exact congrArg (t.step place (String.ofList segment) >>= ·) (funext (ih hlast))
      | false =>
        rw [List.filter_cons_of_neg (by simp [hsegment]), ← ih hlast, List.map_cons, List.map_cons]
        exact walk_of_not_counts hsegment place _ _

theorem allows_of_sublist {p q : Path} (h : p.text.toList.Sublist q.text.toList)
    (hq : allows q = true) : allows p = true := by
  have hsize : p.text.utf8ByteSize ≤ q.text.utf8ByteSize := by
    rw [← String.ofList_toList (s := p.text), ← String.ofList_toList (s := q.text),
      String.utf8ByteSize_ofList, String.utf8ByteSize_ofList]
    exact String.utf8Len_le_of_sublist h
  simp only [allows, Bool.and_eq_true, decide_eq_true_eq, Bool.not_eq_true',
    List.contains_eq_mem, decide_eq_false_iff_not] at hq ⊢
  exact ⟨by omega, fun hmem => hq.2 (h.subset hmem)⟩

theorem isEmpty_of_ends {p : Path} (h : p.Ends) : p.text.isEmpty = false := by
  obtain ⟨s, hs, hcounts⟩ := h
  refine Bool.eq_false_iff.mpr fun hempty => ?_
  rw [Path.parts, String.isEmpty_iff.mp hempty] at hs
  cases hs
  exact Bool.noConfusion hcounts

/-- Alike paths lead to the same place. -/
theorem node_eq_of_alike {p q : Path} (h : p.Alike q) (hp : p.Ends) (hq : q.Ends)
    (hsublist : p.text.toList.Sublist q.text.toList) (hshort : allows q = true) :
    t.node p = t.node q := by
  have hresolve : t.resolve p = t.resolve q := by
    unfold resolve
    rw [allows_of_sublist hsublist hshort, hshort, isEmpty_of_ends hp, isEmpty_of_ends hq]
    obtain ⟨s, hs, hcounts⟩ := hp
    obtain ⟨s', hs', hcounts'⟩ := hq
    have hwalk : t.walk (t.startOf q) (segmentsOf p) = t.walk (t.startOf q) (segmentsOf q) := by
      refine (walk_filter hs hcounts _).trans ?_
      rw [h.counting]
      exact (walk_filter hs' hcounts' _).symm
    rw [startOf, h.isAbsolute, ← startOf, hwalk]
  rw [node, node, hresolve]

end FileTree

end DriverDesk
