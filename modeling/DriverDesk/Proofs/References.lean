import DriverDesk.Host.Disk
import DriverDesk.PanelFile.Field
import DriverDesk.Proofs.Paths

/-!
# References with separators of either kind

An image reference means the same with `\` and with `/` between its parts, as long as what is
read off its text before the separators are put right does not depend on them.
-/

namespace DriverDesk

/-! ## Separators -/

namespace Reference

/-- A separator of either kind. -/
def isSeparator (c : Char) : Bool := c = '/' || c = '\\'

/-- A separator of this system in place of the other kind. -/
def slash (c : Char) : Char := if c = '\\' then '/' else c

/-- A reference with separators of this system. -/
def slashed (v : String) : String := String.ofList (v.toList.map slash)

theorem toList_slashed (v : String) : (slashed v).toList = v.toList.map slash :=
  String.toList_ofList

theorem slash_eq_slash_iff (c : Char) : slash c = '/' ↔ isSeparator c = true := by
  unfold slash isSeparator
  split <;> simp_all

theorem slash_eq_self {c : Char} (h : isSeparator c = false) : slash c = c := by
  unfold slash
  rw [if_neg]
  rintro rfl
  exact Bool.noConfusion h

theorem backslash_not_mem_slashed (cs : List Char) : '\\' ∉ cs.map slash := by
  intro h
  obtain ⟨c, -, hc⟩ := List.mem_map.mp h
  unfold slash at hc
  split at hc
  · exact absurd hc (by decide)
  · contradiction

/-- Once its separators are put right, the segments of a text are the pieces it has between
separators of either kind. -/
theorem segments_slashed (cs : List Char) :
    Path.segments (cs.map slash) = Text.pieces isSeparator cs := by
  induction cs with
  | nil => rfl
  | cons c cs ih =>
    rw [Path.segments] at ih
    rw [List.map_cons, Path.segments, Text.pieces, Text.pieces, ih]
    cases hc : isSeparator c with
    | true => rw [if_pos (beq_iff_eq.mpr ((slash_eq_slash_iff c).mpr hc)), if_pos rfl]
    | false =>
      have hne : ¬(slash c == '/') = true := by
        rw [beq_iff_eq, slash_eq_slash_iff, hc]
        exact Bool.false_ne_true
      rw [if_neg hne, if_neg Bool.false_ne_true, slash_eq_self hc]

theorem slashed_of_not_mem {v : String} (h : '\\' ∉ v.toList) : slashed v = v := by
  have hself : v.toList.map slash = v.toList := by
    refine (List.map_congr_left fun c hc => ?_).trans (List.map_id _)
    exact if_neg (ne_of_mem_of_not_mem hc h)
  rw [slashed, hself, String.ofList_toList]

theorem slashed_append (v : String) {e : String} (he : '\\' ∉ e.toList) :
    slashed (v ++ e) = slashed v ++ e := by
  rw [slashed, String.toList_append, List.map_append, String.ofList_append]
  exact congrArg (slashed v ++ ·) (slashed_of_not_mem he)

end Reference

open Reference

/-! ## Parts put together again -/

namespace Disk

theorem normalize_of_not_mem {p : Path} (h : '\\' ∉ p.text.toList) : normalize p = p := by
  unfold normalize
  rw [if_pos (by simpa using h)]

/-- A part that is not empty and holds no separator. -/
def IsPart (s : List Char) : Prop := s ≠ [] ∧ '/' ∉ s

/-- Parts that are put behind a path one after the other. -/
def putBehind (p : Path) (parts : List (List Char)) : Path :=
  parts.foldl (fun p part => p.join ⟨String.ofList part⟩) p

theorem IsPart.getLast? {s : List Char} (h : IsPart s) (front : List Char) :
    ∃ c, (front ++ s).getLast? = some c ∧ c ≠ '/' := by
  obtain ⟨init, c, rfl⟩ := (List.eq_nil_or_concat' s).resolve_left h.1
  refine ⟨c, by rw [← List.append_assoc, List.getLast?_concat], ?_⟩
  rintro rfl
  exact h.2 (List.mem_append_right _ List.mem_cons_self)

theorem IsPart.isAbsolute {s : List Char} (h : IsPart s) :
    (⟨String.ofList s⟩ : Path).isAbsolute = false := by
  refine Bool.eq_false_iff.mpr fun habs => ?_
  obtain ⟨r, hr⟩ := Path.isAbsolute_iff.mp habs
  rw [String.toList_ofList] at hr
  exact h.2 (hr ▸ List.mem_cons_self)

/-- A part behind a path that does not end with a separator. -/
theorem toList_join_part {p : Path} {s : List Char} (hs : IsPart s)
    (hp : ∃ c, p.text.toList.getLast? = some c ∧ c ≠ '/') :
    (p.join ⟨String.ofList s⟩).text.toList = p.text.toList ++ '/' :: s := by
  obtain ⟨c, hlast, hc⟩ := hp
  have hempty : p.text.isEmpty = false := by
    refine Bool.eq_false_iff.mpr fun h => ?_
    rw [String.isEmpty_iff.mp h] at hlast
    cases hlast
  rw [Path.join, hs.isAbsolute, if_neg Bool.false_ne_true, if_neg (by simp [hempty, hlast, hc])]
  simp

theorem toList_putBehind {parts : List (List Char)} (hparts : ∀ s ∈ parts, IsPart s) {p : Path}
    (hp : ∃ c, p.text.toList.getLast? = some c ∧ c ≠ '/') :
    (putBehind p parts).text.toList = p.text.toList ++ parts.flatMap ('/' :: ·) := by
  induction parts generalizing p with
  | nil => exact (List.append_nil _).symm
  | cons s parts ih =>
    obtain ⟨hs, hparts⟩ := List.forall_mem_cons.mp hparts
    have hjoin := toList_join_part hs hp
    have hlast : ∃ c, (p.join ⟨String.ofList s⟩).text.toList.getLast? = some c ∧ c ≠ '/' := by
      rw [hjoin, List.append_cons]
      exact hs.getLast? _
    rw [putBehind, List.foldl_cons, ← putBehind, ih hparts hlast, hjoin, List.flatMap_cons,
      List.append_assoc]

/-- Parts put behind the root, or behind nothing. -/
theorem toList_putBehind_start {parts : List (List Char)} (hparts : ∀ s ∈ parts, IsPart s)
    (hne : parts ≠ []) {start : String} (hstart : start = "" ∨ start = "/") :
    (putBehind ⟨start⟩ parts).text.toList = start.toList ++ Path.joinSegments parts := by
  obtain ⟨s, ss, rfl⟩ := List.exists_cons_of_ne_nil hne
  obtain ⟨hs, hss⟩ := List.forall_mem_cons.mp hparts
  have hjoin : ((⟨start⟩ : Path).join ⟨String.ofList s⟩).text.toList = start.toList ++ s := by
    rw [Path.join, hs.isAbsolute, if_neg Bool.false_ne_true,
      if_pos (by rcases hstart with rfl | rfl <;> decide), String.toList_append,
      String.toList_ofList]
  rw [putBehind, List.foldl_cons, ← putBehind, toList_putBehind hss (hjoin ▸ hs.getLast? _), hjoin,
    Path.joinSegments_cons, List.append_assoc]

/-- The root, if a reference begins with a separator. -/
def rootOf (cs : List Char) : String := if cs.head?.any isSeparator then "/" else ""

/-- The parts of a reference, without those that do not count. -/
def partsOf (cs : List Char) : List (List Char) :=
  (Path.segments (cs.map slash)).filter Path.counts

theorem isPart_of_mem_partsOf {cs s : List Char} (h : s ∈ partsOf cs) : IsPart s := by
  obtain ⟨hmem, hcounts⟩ := List.mem_filter.mp h
  refine ⟨?_, Path.slash_not_mem_of_mem_segments hmem⟩
  rintro rfl
  exact Bool.noConfusion hcounts

theorem normalize_of_mem {v : String} (h : '\\' ∈ v.toList) :
    normalize ⟨v⟩ = putBehind ⟨rootOf v.toList⟩ (partsOf v.toList) := by
  unfold normalize
  rw [if_neg (by simpa using h), partsOf, segments_slashed]
  cases v.toList with
  | nil => rfl
  | cons c cs => exact congrArg (putBehind · _) (apply_ite Path.mk _ _ _).symm

/-- The text of a reference whose separators are put right. -/
theorem toList_normalize {v : String} (h : '\\' ∈ v.toList) (hne : partsOf v.toList ≠ []) :
    (normalize ⟨v⟩).text.toList =
      (rootOf v.toList).toList ++ Path.joinSegments (partsOf v.toList) := by
  refine (congrArg (·.text.toList) (normalize_of_mem h)).trans ?_
  refine toList_putBehind_start (fun s => isPart_of_mem_partsOf) hne ?_
  unfold rootOf
  split
  · exact .inr rfl
  · exact .inl rfl

theorem getLast?_partsOf {cs : List Char}
    (h : Path.counts (Text.lastPiece isSeparator cs) = true) :
    (partsOf cs).getLast? = some (Text.lastPiece isSeparator cs) := by
  obtain ⟨init, hinit⟩ := List.getLast?_eq_some_iff.mp (Text.getLast?_pieces isSeparator cs)
  rw [partsOf, segments_slashed, hinit, List.filter_append, List.filter_cons_of_pos h,
    List.filter_nil, List.getLast?_concat]

theorem partsOf_ne_nil {cs : List Char} (h : Path.counts (Text.lastPiece isSeparator cs) = true) :
    partsOf cs ≠ [] := by
  intro hnil
  have hlast := getLast?_partsOf h
  rw [hnil] at hlast
  cases hlast

/-- The segments of a reference whose separators are put right. -/
theorem parts_normalize {v : String} (h : '\\' ∈ v.toList) (hne : partsOf v.toList ≠ []) :
    (normalize ⟨v⟩).parts =
      (if v.toList.head?.any isSeparator then [[]] else []) ++ partsOf v.toList := by
  have hsegments : Path.segments (Path.joinSegments (partsOf v.toList)) = partsOf v.toList :=
    Path.segments_joinSegments hne fun s hs => (isPart_of_mem_partsOf hs).2
  rw [Path.parts, toList_normalize h hne, rootOf]
  split
  · exact congrArg ([] :: ·) hsegments
  · exact hsegments

theorem isAbsolute_normalize {v : String} (h : '\\' ∈ v.toList) (hne : partsOf v.toList ≠ []) :
    (normalize ⟨v⟩).isAbsolute = v.toList.head?.any isSeparator := by
  cases hroot : v.toList.head?.any isSeparator with
  | true =>
    have htext := toList_normalize h hne
    rw [rootOf, if_pos hroot] at htext
    exact Path.isAbsolute_iff.mpr ⟨_, htext⟩
  | false =>
    refine Bool.eq_false_iff.mpr fun habs => ?_
    obtain ⟨r, hr⟩ := Path.isAbsolute_iff.mp habs
    have hparts := parts_normalize h hne
    rw [Path.parts, hr, Path.segments_slash, hroot, if_neg Bool.false_ne_true, List.nil_append]
      at hparts
    exact (isPart_of_mem_partsOf (hparts ▸ List.mem_cons_self)).1 rfl

theorem isAbsolute_slashed (v : String) :
    (⟨slashed v⟩ : Path).isAbsolute = v.toList.head?.any isSeparator := by
  rw [Path.isAbsolute, toList_slashed, List.head?_map]
  cases v.toList.head? with
  | none => rfl
  | some c => exact Bool.eq_iff_iff.mpr (by simpa using slash_eq_slash_iff c)

/-- Without the parts that do not count the text is no longer. -/
theorem normalize_sublist {v : String} (hmem : '\\' ∈ v.toList) (hne : partsOf v.toList ≠ []) :
    (normalize ⟨v⟩).text.toList.Sublist (slashed v).toList := by
  rw [toList_normalize hmem hne, toList_slashed, rootOf]
  split
  next hroot =>
    obtain ⟨r, hr⟩ := Path.isAbsolute_iff.mp ((isAbsolute_slashed v).trans hroot)
    rw [toList_slashed] at hr
    rw [partsOf, hr, Path.segments_slash, List.filter_cons_of_neg (by decide)]
    exact .cons_cons '/' (Path.joinSegments_filter_sublist r)
  next => exact Path.joinSegments_filter_sublist _

/-- The parts that do not count may be kept when the separators of a reference are put right:
it is the same path. -/
theorem normalize_alike {v : String} (hmem : '\\' ∈ v.toList)
    (hfront : Text.firstPiece isSeparator v.toList ≠ ['.'])
    (hlast : Path.counts (Text.lastPiece isSeparator v.toList) = true) :
    (normalize ⟨v⟩).Alike ⟨slashed v⟩ ∧ (normalize ⟨v⟩).Ends ∧ (⟨slashed v⟩ : Path).Ends := by
  have hne := partsOf_ne_nil hlast
  have hparts := parts_normalize hmem hne
  have hslashed : (⟨slashed v⟩ : Path).parts = Text.pieces isSeparator v.toList := by
    rw [Path.parts, toList_slashed, segments_slashed]
  have hfilter : (partsOf v.toList).filter Path.counts = partsOf v.toList :=
    List.filter_eq_self.mpr fun s hs => (List.mem_filter.mp hs).2
  refine ⟨⟨?_, ?_, ?_⟩, ⟨_, ?_, hlast⟩, ⟨_, hslashed ▸ Text.getLast?_pieces _ _, hlast⟩⟩
  · rw [isAbsolute_normalize hmem hne, isAbsolute_slashed]
  · rw [hslashed, Text.head?_pieces, hparts]
    refine iff_of_false ?_ (by simpa using hfront)
    intro h
    have hhere : ['.'] ∈ partsOf v.toList := by
      rcases List.mem_append.mp (List.mem_of_head? h) with hroot | hhere
      · split at hroot <;> simp at hroot
      · exact hhere
    exact Bool.noConfusion (List.mem_filter.mp hhere).2
  · rw [hparts, List.filter_append, hfilter, hslashed, ← segments_slashed]
    split <;> rfl
  · rw [hparts, List.getLast?_append, getLast?_partsOf hlast]
    rfl

/-! ## Finding the file -/

/-- Paths with equal components that are both files of a tree, or neither. -/
structure Same (t : FileTree) (p q : Path) : Prop where
  same : p.same q = true
  isFile : t.isFile p = t.isFile q

theorem Same.refl (t : FileTree) (p : Path) : Same t p p := ⟨decide_eq_true rfl, rfl⟩

theorem combine_slashed {t : FileTree} {base : Path} {v : String} (hmem : '\\' ∈ v.toList)
    (hfront : Text.firstPiece isSeparator v.toList ≠ ['.'])
    (hlast : Path.counts (Text.lastPiece isSeparator v.toList) = true)
    (hshort : FileTree.allows (base.join ⟨slashed v⟩) = true) :
    Same t (combine t base ⟨v⟩) (combine t base ⟨slashed v⟩) := by
  obtain ⟨halike, hends, hends'⟩ := normalize_alike hmem hfront hlast
  have hsublist := normalize_sublist hmem (partsOf_ne_nil hlast)
  have hslashed : normalize ⟨slashed v⟩ = ⟨slashed v⟩ :=
    normalize_of_not_mem (toList_slashed v ▸ backslash_not_mem_slashed _)
  have hnode : t.node (base.join (normalize ⟨v⟩)) = t.node (base.join ⟨slashed v⟩) :=
    FileTree.node_eq_of_alike (halike.join base) (hends.join base) (hends'.join base)
      (Path.join_sublist hsublist halike.isAbsolute base) hshort
  have hdirect : Same t (base.join (normalize ⟨v⟩)) (base.join ⟨slashed v⟩) :=
    ⟨decide_eq_true (halike.join base).components, by rw [FileTree.isFile, hnode, FileTree.isFile]⟩
  unfold combine
  rw [hslashed]
  dsimp only
  cases habs : (⟨slashed v⟩ : Path).isAbsolute with
  | true =>
    rw [Path.join_of_isAbsolute (halike.isAbsolute.trans habs), Path.join_of_isAbsolute habs]
      at hdirect
    rw [halike.isAbsolute, habs, if_pos rfl, if_pos rfl]
    exact hdirect
  | false =>
    rw [halike.isAbsolute, habs, if_neg Bool.false_ne_true, if_neg Bool.false_ne_true,
      FileTree.has, FileTree.has, hnode, halike.components]
    split
    · exact hdirect
    · cases findAnyCase t base (⟨slashed v⟩ : Path).components with
      | none => exact hdirect
      | some p => exact .refl t p

end Disk

/-! ## Portable references -/

namespace Reference

/-- A reference that says the same with separators of either kind. -/
structure Portable (base : Path) (v : String) : Prop where
  /-- A `.` in front is dropped together with separators of the other kind only. -/
  front : Text.firstPiece isSeparator v.toList ≠ ['.']
  /-- So is what stands behind the last part. -/
  last : Path.counts (Text.lastPiece isSeparator v.toList) = true
  /-- An extension is seen behind the last `/` just if the last part has one: a folder in front
  of a `\` does not seem to be one. -/
  extension : (Path.extensionOf? (Text.lastPiece (· == '/') v.toList)).isSome =
    (Path.extensionOf? (Text.lastPiece isSeparator v.toList)).isSome
  /-- The path is not too long, whatever is dropped. -/
  short : FileTree.allows (base.join ⟨slashed v ++ ".bmp"⟩) = true

/-- The extension that is added to a reference, or nothing. -/
def addition (v : String) : String :=
  if (Path.extensionOf? (Text.lastPiece isSeparator v.toList)).isSome then "" else ".bmp"

namespace Portable

variable {base : Path} {v : String}

theorem suffix (v : String) :
    Text.lastPiece isSeparator v.toList <:+ Text.lastPiece (· == '/') v.toList :=
  Text.lastPiece_suffix (fun c hc => by rw [beq_iff_eq.mp hc]; rfl) _

/-- What stands behind the last `/` is a component, since it ends with one. -/
theorem counts_behind (h : Portable base v) :
    Path.counts (Text.lastPiece (· == '/') v.toList) = true := by
  obtain ⟨x, hx⟩ := suffix v
  obtain ⟨hne, hdot⟩ := Path.counts_iff.mp h.last
  rw [← hx, Path.counts_iff]
  simp [List.append_eq_singleton_iff, hne, hdot]

/-- The extension is seen rightly if the last part has one, or no point stands behind the last
`/`. -/
theorem extension_of_point
    (h : (Path.extensionOf? (Text.lastPiece isSeparator v.toList)).isSome = true ∨
      '.' ∉ Text.lastPiece (· == '/') v.toList) :
    (Path.extensionOf? (Text.lastPiece (· == '/') v.toList)).isSome =
      (Path.extensionOf? (Text.lastPiece isSeparator v.toList)).isSome := by
  obtain ⟨x, hx⟩ := suffix v
  rcases h with hext | hpoint
  · obtain ⟨a, b, ha, hab⟩ := Path.extensionOf?_isSome_iff.mp hext
    rw [hext]
    exact Path.extensionOf?_isSome_iff.mpr
      ⟨x ++ a, b, by simp [ha], by rw [← hx, hab, List.append_assoc]⟩
  · have hnone : ∀ s : List Char, '.' ∉ s → (Path.extensionOf? s).isSome = false := by
      intro s hs
      refine Bool.eq_false_iff.mpr fun hext => ?_
      obtain ⟨a, b, -, rfl⟩ := Path.extensionOf?_isSome_iff.mp hext
      exact hs (by simp)
    rw [hnone _ hpoint, hnone _ fun hmem => hpoint (hx ▸ List.mem_append_right x hmem)]

theorem addition_cases (v : String) : addition v = "" ∨ addition v = ".bmp" := by
  unfold addition
  split
  · exact .inl rfl
  · exact .inr rfl

theorem defaultExtension_eq_of {w : String} {s : List Char}
    (hlast : (⟨w⟩ : Path).parts.getLast? = some s) (hs : Path.counts s = true)
    (hext : (Path.extensionOf? s).isSome =
      (Path.extensionOf? (Text.lastPiece isSeparator v.toList)).isSome) :
    Path.defaultExtension "bmp" ⟨w⟩ = ⟨w ++ addition v⟩ := by
  rw [Path.defaultExtension_of_getLast? hlast hs, hext, addition]
  split
  · rw [String.append_empty]
  · rw [String.append_assoc]
    rfl

/-- The default extension is added to both forms of a reference or to neither. -/
theorem defaultExtension_slashed (h : Portable base v) :
    Path.defaultExtension "bmp" ⟨v⟩ = ⟨v ++ addition v⟩ ∧
      Path.defaultExtension "bmp" ⟨slashed v⟩ = ⟨slashed v ++ addition v⟩ := by
  refine ⟨defaultExtension_eq_of (Text.getLast?_pieces _ _) h.counts_behind h.extension,
    defaultExtension_eq_of ?_ h.last rfl⟩
  rw [Path.parts, toList_slashed, segments_slashed]
  exact Text.getLast?_pieces _ _

/-- The path is not too long with what is added. -/
theorem allows_addition (h : Portable base v) (hv : v.toList ≠ []) :
    FileTree.allows (base.join ⟨slashed v ++ addition v⟩) = true := by
  have hne : (slashed v).toList ≠ [] := by
    rw [toList_slashed]
    simpa using hv
  have habs : ∀ e : String, (⟨slashed v ++ e⟩ : Path).isAbsolute =
      ((slashed v).toList.head? == some '/') := fun e => by
    rw [Path.isAbsolute, String.toList_append, List.head?_append_of_ne_nil _ hne]
  refine FileTree.allows_of_sublist (Path.join_sublist ?_ (by rw [habs, habs]) base) h.short
  rcases addition_cases v with he | he
  · rw [he, String.append_empty, String.toList_append]
    exact List.sublist_append_left _ _
  · rw [he]

/-- Both forms of a portable reference lead to the same file. -/
theorem combine_same (h : Portable base v) (hmem : '\\' ∈ v.toList) (t : FileTree) :
    Disk.Same t (Disk.combine t base (Path.defaultExtension "bmp" ⟨v⟩))
      (Disk.combine t base (Path.defaultExtension "bmp" ⟨slashed v⟩)) := by
  have hplain : ∀ c ∈ (addition v).toList, isSeparator c = false := by
    rcases addition_cases v with he | he
    · rw [he]
      nofun
    · rw [he]
      simp [isSeparator]
  have hbackslash : '\\' ∉ (addition v).toList := fun h => Bool.noConfusion (hplain _ h)
  obtain ⟨hraw, hslashed⟩ := h.defaultExtension_slashed
  rw [hraw, hslashed, ← slashed_append v hbackslash]
  have hseparator : ∃ c ∈ v.toList, isSeparator c = true := ⟨'\\', hmem, rfl⟩
  refine Disk.combine_slashed ?_ ?_ ?_ ?_
  · rw [String.toList_append]
    exact List.mem_append_left _ hmem
  · rw [String.toList_append, Text.firstPiece_append hseparator]
    exact h.front
  · obtain ⟨hne, hdot⟩ := Path.counts_iff.mp h.last
    rw [String.toList_append, Text.lastPiece_append hplain, Path.counts_iff]
    simp [List.append_eq_singleton_iff, hne, hdot]
  · rw [slashed_append v hbackslash]
    exact h.allows_addition (List.ne_nil_of_mem hmem)

end Portable

/-- A reference leads to the same file with separators of either kind, if it is portable. -/
theorem combine_defaultExtension {base : Path} {v : String}
    (h : '\\' ∈ v.toList → Portable base v) (t : FileTree) :
    Disk.Same t (Disk.combine t base (Path.defaultExtension "bmp" ⟨v⟩))
      (Disk.combine t base (Path.defaultExtension "bmp" ⟨slashed v⟩)) := by
  by_cases hmem : '\\' ∈ v.toList
  · exact (h hmem).combine_same hmem t
  · rw [slashed_of_not_mem hmem]
    exact .refl t _

end Reference

/-! ## Images -/

namespace RecordAt

/-- The record with separators of this system in its value. -/
def slashed (c : RecordAt) : RecordAt :=
  { c with record := { c.record with value := Reference.slashed c.record.value } }

/-- What reading two image references gives, if it is the same. -/
inductive SameImage : Noted (Option Path) → Noted (Option Path) → Prop
  | unset : SameImage (pure none) (pure none)
  | found {p q : Path} (h : p.same q = true) : SameImage (pure (some p)) (pure (some q))
  | refused {d e : Diagnostic} (kind : d.kind = e.kind) (severity : d.severity = e.severity)
      (location : d.location = e.location) : SameImage (Noted.refuse d) (Noted.refuse e)

theorem any_forbidden_slashed (v : String) :
    (Reference.slashed v).toList.any forbidden.contains = v.toList.any forbidden.contains := by
  have hslash : ∀ c, forbidden.contains (slash c) = forbidden.contains c := fun c => by
    unfold slash
    split
    next hc => rw [hc]; decide
    next => rfl
  rw [toList_slashed, List.any_map]
  exact congrArg v.toList.any (funext hslash)

theorem isEmpty_slashed (v : String) : (Reference.slashed v).isEmpty = v.isEmpty := by
  rw [Bool.eq_iff_iff, String.isEmpty_iff, String.isEmpty_iff, ← String.toList_eq_nil_iff,
    ← String.toList_eq_nil_iff, toList_slashed, List.map_eq_nil_iff]

/-- An image reference means the same with separators of either kind, if it is portable. -/
theorem image_slashed {t : FileTree} {stockFolder : Path} {c : RecordAt}
    (hfiles : c.env.files = Disk.view t stockFolder)
    (h : '\\' ∈ c.value.toList → (∀ x ∈ c.value.toList, x ∉ forbidden) →
      Portable c.env.trainFolder c.value) :
    SameImage c.image c.slashed.image := by
  unfold image
  rw [show c.slashed.value = Reference.slashed c.value from rfl, isEmpty_slashed,
    any_forbidden_slashed]
  split
  · exact .unset
  · split
    · exact .refused rfl rfl rfl
    next hforbidden =>
      have hsame := combine_defaultExtension
        (fun hmem => h hmem (by simpa using hforbidden)) t
      simp only [RecordAt.slashed, hfiles, Disk.view]
      generalize Disk.combine t c.env.trainFolder (Path.defaultExtension "bmp" ⟨c.value⟩) = p
        at hsame ⊢
      generalize Disk.combine t c.env.trainFolder
        (Path.defaultExtension "bmp" ⟨Reference.slashed c.value⟩) = q at hsame ⊢
      rw [hsame.isFile]
      split
      · exact .found hsame.same
      · exact .refused rfl rfl rfl

/-- A lamp in a folder, found in any letter case with separators of either kind. -/
theorem image_slashed_lamp :
    let t : FileTree :=
      ⟨.folder [("Train", .folder [("img", .folder [("Lamp.bmp", .file [])])])], []⟩
    let c : RecordAt := ⟨⟨"panel.cfg", ⟨"Train"⟩, Disk.view t ⟨"Stock"⟩⟩, "PilotLamp",
      ⟨"DaytimeImage", "img\\lamp", 2⟩⟩
    c.image.value = some ⟨"Train/img/Lamp.bmp"⟩ ∧ c.slashed.value = "img/lamp" ∧
      SameImage c.image c.slashed.image := by
  intro t c
  refine ⟨by decide +kernel, by decide +kernel, image_slashed rfl fun _ _ => ?_⟩
  have hpoint : '.' ∉ Text.lastPiece (· == '/') c.value.toList := by decide +kernel
  exact ⟨by decide +kernel, by decide +kernel, Portable.extension_of_point (.inr hpoint),
    by decide +kernel⟩

/-- A folder with a point in its name. The reference with `\` seems to have an extension and is
not found; the one with `/` is. -/
theorem image_slashed_folder_with_point :
    let t : FileTree :=
      ⟨.folder [("Train", .folder [("cab.v2", .folder [("lamp.bmp", .file [])])])], []⟩
    let c : RecordAt := ⟨⟨"panel.cfg", ⟨"Train"⟩, Disk.view t ⟨"Stock"⟩⟩, "PilotLamp",
      ⟨"DaytimeImage", "cab.v2\\lamp", 2⟩⟩
    c.image.value = none ∧ c.image.notes.length = 1 ∧
      c.slashed.image.value = some ⟨"Train/cab.v2/lamp.bmp"⟩ ∧ c.slashed.image.notes = [] := by
  decide +kernel

end RecordAt

end DriverDesk
