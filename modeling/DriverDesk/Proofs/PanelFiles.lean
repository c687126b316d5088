import DriverDesk.Command.Run
import DriverDesk.Proofs.AnyCase
import DriverDesk.Proofs.Subjects

/-!
# The panel file of a folder

A folder is searched for the name of a panel file in any ASCII case, and the format of a file is
told by the full lowercase of its name. `lower_eq_iff` says that the two agree on the names of
panel files; `Holds` says which files of a folder the search can find.
-/

namespace DriverDesk

namespace Text

/-! ## Names in lowercase -/

theorem lowerChar_of_lt {c : Char} (h : c.toNat < 0x80) : lowerChar c = [c.toLower] := if_pos h

theorem lowerAfter_of_lt {cs : List Char} (h : ∀ c ∈ cs, c.toNat < 0x80) (before : List Char) :
    lowerAfter before cs = cs.map Char.toLower := by
  induction cs generalizing before with
  | nil => rfl
  | cons c cs ih =>
    obtain ⟨hc, hcs⟩ := List.forall_mem_cons.mp h
    have hsigma : c ≠ 'Σ' := by
      rintro rfl
      exact absurd hc (by decide)
    rw [lowerAfter, if_neg hsigma, lowerChar_of_lt hc, ih hcs, List.map_cons,
      List.singleton_append]

theorem lower_of_lt {s : String} (h : ∀ c ∈ s.toList, c.toNat < 0x80) : lower s = asciiLower s := by
  rw [lower, lowerAfter_of_lt h, asciiLower]

/-- Of the characters of ASCII, `k` is the lowercase of one that is none of them. -/
def isPlain (c : Char) : Bool := c.toNat < 0x80 && c != 'k' && c != '\x00'

theorem toNat_lt_of_isPlain {c : Char} (h : isPlain c = true) : c.toNat < 0x80 := by
  simp only [isPlain, Bool.and_eq_true, decide_eq_true_eq] at h
  exact h.1.1

theorem isPlain_of_le {c : Char} (h : 0x80 ≤ c.toNat) : isPlain c = false := by
  simp only [isPlain, Bool.and_eq_false_iff, decide_eq_false_iff_not]
  exact .inl (.inl (by omega))

/-- A number that is no character is read as U+0000. -/
theorem isPlain_ofNat_of_le {n : Nat} (h : 0x80 ≤ n) : isPlain (Char.ofNat n) = false := by
  by_cases hn : n.isValidChar
  · rw [Char.ofNat, dif_pos hn]
    exact isPlain_of_le h
  · rw [Char.ofNat, dif_neg hn]
    rfl

/-- The letters of a run are in ASCII, or their lowercase is not plain. -/
def CaseRun.leavesPlain (r : CaseRun) : Bool :=
  decide (r.last < 0x80) || decide (0x80 ≤ (r.first : Int) + r.shift) ||
    (r.first == r.last && (r.first : Int) + r.shift == 'k'.toNat)

theorem leavesPlain_of_mem : ∀ r ∈ caseRuns, r.leavesPlain = true := by decide +kernel

theorem exists_mem_lowerChar {c : Char} (h : 0x80 ≤ c.toNat) :
    ∃ d ∈ lowerChar c, isPlain d = false := by
  unfold lowerChar
  rw [if_neg (by omega)]
  split
  · exact ⟨'\u0307', by simp, by decide⟩
  · split
    next r hr =>
      refine ⟨_, List.mem_singleton_self _, ?_⟩
      have hcovers := List.find?_some hr
      have hleaves := leavesPlain_of_mem r (List.mem_of_find?_eq_some hr)
      simp only [CaseRun.covers, Bool.and_eq_true, decide_eq_true_eq, beq_iff_eq] at hcovers
      simp only [CaseRun.leavesPlain, Bool.or_eq_true, Bool.and_eq_true, decide_eq_true_eq,
        beq_iff_eq] at hleaves
      obtain ⟨⟨hfirst, hlast⟩, -⟩ := hcovers
      rcases hleaves with (hascii | hbeyond) | ⟨hsingle, hk⟩
      · omega
      · exact isPlain_ofNat_of_le (by omega)
      · have hc : c.toNat = r.first := by omega
        rw [hc, hk]
        decide
    next => exact ⟨c, List.mem_singleton_self c, isPlain_of_le h⟩

theorem exists_mem_lowerAfter {cs : List Char} (h : ∃ c ∈ cs, 0x80 ≤ c.toNat)
    (before : List Char) : ∃ d ∈ lowerAfter before cs, isPlain d = false := by
  induction cs generalizing before with
  | nil =>
    obtain ⟨c, hc, -⟩ := h
    cases hc
  | cons c cs ih =>
    unfold lowerAfter
    obtain ⟨d, hd, hbeyond⟩ := h
    rcases List.mem_cons.mp hd with rfl | hd
    · split
      · refine ⟨_, List.mem_append_left _ (List.mem_singleton_self _), ?_⟩
        unfold lowerSigma
        split <;> decide
      · obtain ⟨e, he, hplain⟩ := exists_mem_lowerChar hbeyond
        exact ⟨e, List.mem_append_left _ he, hplain⟩
    · obtain ⟨e, he, hplain⟩ := ih ⟨d, hd, hbeyond⟩ (c :: before)
      exact ⟨e, List.mem_append_right _ he, hplain⟩

theorem toNat_lt_of_asciiLower {s : String} (h : ∀ c ∈ (asciiLower s).toList, c.toNat < 0x80) :
    ∀ c ∈ s.toList, c.toNat < 0x80 := by
  intro c hc
  have hlower := h c.toLower (by rw [toList_asciiLower]; exact List.mem_map_of_mem hc)
  rw [toNat_toLower] at hlower
  split at hlower <;> omega

theorem utf8ByteSize_le (s : String) : s.utf8ByteSize ≤ 4 * s.toList.length := by
  have hlen : ∀ cs : List Char, String.utf8Len cs ≤ 4 * cs.length := fun cs => by
    induction cs with
    | nil => exact Nat.le_refl 0
    | cons c cs ih =>
      rw [String.utf8Len_cons, List.length_cons]
      have hsize := c.utf8Size_le_four
      omega
  rw [← String.utf8Len_toList]
  exact hlen s.toList

/-- A plain name is the lowercase of the texts that it is the ASCII lowercase of. -/
theorem lower_eq_iff {s name : String} (hname : ∀ c ∈ name.toList, isPlain c = true) :
    lower s = name ↔ asciiLower s = name := by
  constructor
  · rintro rfl
    have hs : ∀ c ∈ s.toList, c.toNat < 0x80 := by
      intro c hc
      by_contra hbeyond
      obtain ⟨d, hd, hplain⟩ := exists_mem_lowerAfter ⟨c, hc, Nat.not_lt.mp hbeyond⟩ []
      have hd' := hname d (by rwa [lower, String.toList_ofList])
      exact Bool.noConfusion (hplain.symm.trans hd')
    exact (lower_of_lt hs).symm
  · rintro rfl
    exact lower_of_lt (toNat_lt_of_asciiLower fun c hc => toNat_lt_of_isPlain (hname c hc))

end Text

/-! ## The format of a file -/

theorem Path.fileName?_join {n : String} (hn : FileTree.IsName n) (folder : Path) :
    (folder.join ⟨n⟩).fileName? = some n.toList := by
  have hparts : (⟨n⟩ : Path).parts = [n.toList] := Text.pieces_of_not_mem hn.slash_not_mem
  have hcounts : counts n.toList = true :=
    counts_iff.mpr ⟨fun h => hn.ne_empty (String.toList_eq_nil_iff.mp h),
      fun h => hn.ne_here (String.toList_inj.mp h)⟩
  have hup : n.toList ≠ ['.', '.'] := fun h => hn.ne_up (String.toList_inj.mp h)
  have hlast : (folder.join ⟨n⟩).parts.getLast? = some n.toList := by
    rcases join_cases folder with hjoin | ⟨front, hjoin⟩
    · rw [hjoin, hparts]
      rfl
    · rw [parts_of_toList (hjoin ⟨n⟩ hn.isAbsolute), hparts, List.getLast?_concat]
  rw [fileName?_of_getLast? hlast hcounts, if_neg hup]

namespace PanelFormat

theorem isPlain_fileName (f : PanelFormat) : ∀ c ∈ f.fileName.toList, Text.isPlain c = true := by
  rw [← List.all_eq_true]
  cases f <;> rfl

@[simp] theorem asciiLower_fileName (f : PanelFormat) :
    Text.asciiLower f.fileName = f.fileName := by
  cases f <;> decide

theorem ofPath_eq_ok {p : Path} {f : PanelFormat} : ofPath p = .ok f ↔ ofPath? p = some f := by
  unfold ofPath
  cases ofPath? p with
  | none => exact ⟨nofun, nofun⟩
  | some g =>
    exact ⟨fun h => congrArg some (Except.ok.inj h), fun h => congrArg _ (Option.some.inj h)⟩

theorem find?_fileName {name : String} {f : PanelFormat} :
    ([calibrated, framed].find? fun g => g.fileName == name) = some f ↔ f.fileName = name := by
  constructor
  · intro h
    simpa using List.find?_some h
  · rintro rfl
    cases f <;> decide

/-- The full lowercase of a name tells the format that its ASCII lowercase is the file of. -/
theorem ofPath_join_iff {n : String} (hn : FileTree.IsName n) (folder : Path) (f : PanelFormat) :
    ofPath (folder.join ⟨n⟩) = .ok f ↔ Text.asciiLower n = f.fileName := by
  rw [ofPath_eq_ok, ofPath?, Path.fileName?_join hn]
  dsimp only
  rw [String.ofList_toList, find?_fileName, eq_comm, Text.lower_eq_iff f.isPlain_fileName]

/-- Whatever the case of its letters, the name of a panel file is one that a file can have. -/
theorem isName_of_asciiLower {n : String} {f : PanelFormat} (h : Text.asciiLower n = f.fileName) :
    FileTree.IsName n := by
  have hchars : n.toList.map Char.toLower = f.fileName.toList := by rw [← h, Text.toList_asciiLower]
  have hne : ∀ m, Text.asciiLower m ≠ f.fileName → n ≠ m := by
    rintro m hm rfl
    exact hm h
  refine ⟨hne "" ?_, hne "." ?_, hne ".." ?_, fun hmem => ?_, ?_⟩
  · cases f <;> decide
  · cases f <;> decide
  · cases f <;> decide
  · have hslash : '/' ∈ f.fileName.toList := hchars ▸ List.mem_map_of_mem hmem
    cases f <;> exact absurd hslash (by decide)
  · have hlength : n.toList.length ≤ 10 := by
      rw [← List.length_map (f := Char.toLower), hchars]
      cases f <;> decide
    have hsize := Text.utf8ByteSize_le n
    exact decide_eq_true (by omega)

end PanelFormat

/-! ## The search in a folder -/

namespace FolderView

variable {v : FolderView} {folder p : Path} {name : String} {f : PanelFormat}

/-- A folder holds a file whose name is `name` up to the ASCII case. A file of just that name is
seen even where the folder cannot be listed. -/
structure Holds (v : FolderView) (folder : Path) (name n : String) : Prop where
  isFile : v.isFile (folder.join ⟨n⟩) = true
  spelled : Text.asciiLower n = Text.asciiLower name
  seen : n = name ∨ ∃ names, v.list? folder = some names ∧ n ∈ names

/-- What is found is held, and has the very name where that is there. -/
theorem findFile_eq_some (h : v.findFile folder name = some p) :
    ∃ n, p = folder.join ⟨n⟩ ∧ v.Holds folder name n ∧
      (v.isFile (folder.join ⟨name⟩) = true → n = name) := by
  unfold findFile at h
  dsimp only at h
  split at h
  next hdirect => exact ⟨name, (Option.some.inj h).symm, ⟨hdirect, rfl, .inl rfl⟩, fun _ => rfl⟩
  next hdirect =>
    obtain ⟨names, hnames, h⟩ := Option.bind_eq_some_iff.mp h
    obtain ⟨n, hn, h⟩ := Option.bind_eq_some_iff.mp h
    have hfound := List.find?_some hn
    rw [Bool.and_eq_true, beq_iff_eq] at hfound
    exact ⟨n, (Option.some.inj h).symm,
      ⟨hfound.1, hfound.2, .inr ⟨names, hnames, List.mem_of_find?_eq_some hn⟩⟩,
      fun hfile => absurd hfile hdirect⟩

/-- Nothing is found only where nothing is held. -/
theorem findFile_eq_none (h : v.findFile folder name = none) (n : String) :
    ¬v.Holds folder name n := by
  rintro ⟨hfile, hspelled, hseen⟩
  unfold findFile at h
  dsimp only at h
  split at h
  next => cases h
  next hdirect =>
    rcases hseen with rfl | ⟨names, hnames, hmem⟩
    · exact hdirect hfile
    · rw [hnames] at h
      have hnone : names.find? (fun n => v.isFile (folder.join ⟨n⟩) &&
          Text.asciiLower n == Text.asciiLower name) = none := by
        rw [← Option.not_isSome_iff_eq_none]
        intro hsome
        obtain ⟨m, hm⟩ := Option.isSome_iff_exists.mp hsome
        change (names.find? _ >>= _) = none at h
        rw [hm] at h
        cases h
      refine List.find?_eq_none.mp hnone n hmem ?_
      rw [hfile, hspelled, beq_self_eq_true]
      rfl

theorem findFile_isSome_iff : (v.findFile folder name).isSome ↔ ∃ n, v.Holds folder name n := by
  cases h : v.findFile folder name with
  | none => exact ⟨nofun, fun ⟨n, hn⟩ => absurd hn (findFile_eq_none h n)⟩
  | some p =>
    obtain ⟨n, -, hn, -⟩ := findFile_eq_some h
    exact ⟨fun _ => ⟨n, hn⟩, fun _ => rfl⟩

theorem findFile_of_locate (h : v.locate folder = .ok (p, f)) :
    v.findFile folder f.fileName = some p := by
  unfold locate at h
  split at h
  next q hq =>
    cases h
    exact hq
  next =>
    split at h
    next q hq =>
      cases h
      exact hq
    next => cases h

/-- The three ways a search ends, by what the folder holds. -/
theorem locate_cases (v : FolderView) (folder : Path) :
    ((∃ n, v.Holds folder PanelFormat.calibrated.fileName n) ∧
      ∃ p, v.locate folder = .ok (p, .calibrated)) ∨
    ((¬∃ n, v.Holds folder PanelFormat.calibrated.fileName n) ∧
      (∃ n, v.Holds folder PanelFormat.framed.fileName n) ∧
        ∃ p, v.locate folder = .ok (p, .framed)) ∨
    ((¬∃ n, v.Holds folder PanelFormat.calibrated.fileName n) ∧
      (¬∃ n, v.Holds folder PanelFormat.framed.fileName n) ∧
        v.locate folder = .error (.noPanelFile folder.text)) := by
  simp only [← findFile_isSome_iff, locate]
  cases v.findFile folder PanelFormat.calibrated.fileName with
  | some p => exact .inl ⟨rfl, p, rfl⟩
  | none =>
    cases v.findFile folder PanelFormat.framed.fileName with
    | some p => exact .inr (.inl ⟨nofun, rfl, p, rfl⟩)
    | none => exact .inr (.inr ⟨nofun, nofun, rfl⟩)

theorem locate_calibrated_iff : (∃ p, v.locate folder = .ok (p, .calibrated)) ↔
    ∃ n, v.Holds folder PanelFormat.calibrated.fileName n := by
  rcases locate_cases v folder with ⟨hc, p, hp⟩ | ⟨hc, -, p, hp⟩ | ⟨hc, -, hp⟩
  · exact ⟨fun _ => hc, fun _ => ⟨p, hp⟩⟩
  · simp [hp, hc]
  · simp [hp, hc]

theorem locate_framed_iff : (∃ p, v.locate folder = .ok (p, .framed)) ↔
    (¬∃ n, v.Holds folder PanelFormat.calibrated.fileName n) ∧
      ∃ n, v.Holds folder PanelFormat.framed.fileName n := by
  rcases locate_cases v folder with ⟨hc, p, hp⟩ | ⟨hc, hf, p, hp⟩ | ⟨hc, hf, hp⟩
  · simp [hp, hc]
  · exact ⟨fun _ => ⟨hc, hf⟩, fun _ => ⟨p, hp⟩⟩
  · simp [hp, hf]

theorem locate_error_iff : v.locate folder = .error (.noPanelFile folder.text) ↔
    (¬∃ n, v.Holds folder PanelFormat.calibrated.fileName n) ∧
      ¬∃ n, v.Holds folder PanelFormat.framed.fileName n := by
  rcases locate_cases v folder with ⟨hc, p, hp⟩ | ⟨hc, hf, p, hp⟩ | ⟨hc, hf, hp⟩
  · simp [hp, hc]
  · simp [hp, hf]
  · exact ⟨fun _ => ⟨hc, hf⟩, fun _ => hp⟩

/-- The file that is found tells the format that was looked for. -/
theorem locate_eq_ok (h : v.locate folder = .ok (p, f)) :
    ∃ n, p = folder.join ⟨n⟩ ∧ v.Holds folder f.fileName n ∧
      (v.isFile (folder.join ⟨f.fileName⟩) = true → n = f.fileName) ∧
      PanelFormat.ofPath p = .ok f := by
  obtain ⟨n, rfl, hn, hexact⟩ := findFile_eq_some (findFile_of_locate h)
  have hspelled : Text.asciiLower n = f.fileName := by rw [hn.spelled, f.asciiLower_fileName]
  have hname := PanelFormat.isName_of_asciiLower hspelled
  exact ⟨n, rfl, hn, hexact, (PanelFormat.ofPath_join_iff hname folder f).mpr hspelled⟩

end FolderView

/-! ## Folders of a tree -/

namespace FileTree

variable {t : FileTree} {p : Path} {name : String} {es : List (String × FileNode)}

theorem isFolder_iff : t.isFolder p = true ↔ ∃ es, t.node p = .ok (.folder es) := by
  unfold isFolder
  split
  next es h => exact ⟨fun _ => ⟨es, h⟩, fun _ => rfl⟩
  next hne => exact ⟨nofun, fun ⟨es, h⟩ => absurd h (hne es)⟩

theorem isFile_iff : t.isFile p = true ↔ ∃ octets, t.node p = .ok (.file octets) := by
  unfold isFile
  split
  next octets h => exact ⟨fun _ => ⟨octets, h⟩, fun _ => rfl⟩
  next hne => exact ⟨nofun, fun ⟨octets, h⟩ => absurd h (hne octets)⟩

theorem node_eq_ok {n : FileNode} (h : t.node p = .ok n) :
    ∃ place, t.resolve p = .ok place ∧ t.nodeAt place = some n := by
  unfold node at h
  cases hp : t.resolve p with
  | error fault => rw [hp] at h; cases h
  | ok place =>
    rw [hp] at h
    dsimp only [bind, Except.bind] at h
    refine ⟨place, rfl, ?_⟩
    unfold nodeAt
    split at h
    next n' hn =>
      cases h
      exact hn
    next => cases h

theorem step_missing {place : List String} (hn : t.nodeAt place = some (.folder es))
    (hc : (FileNode.folder es).child? name = none) (hname : IsName name) :
    t.step place name = .error .missing := by
  unfold nodeAt at hn
  unfold step
  rw [hn]
  dsimp only
  rw [if_neg (by simp [FileNode.isFolder]),
    if_neg (not_or.mpr ⟨hname.ne_empty, hname.ne_here⟩), if_neg hname.ne_up, hname.usable,
    if_neg (by decide), hc]

/-- What a name behind a folder leads to. -/
theorem isFile_join_iff (h : t.node p = .ok (.folder es)) (hname : IsName name) :
    t.isFile (p.join ⟨name⟩) = true ↔ allows (p.join ⟨name⟩) = true ∧
      ∃ octets, (FileNode.folder es).child? name = some (.file octets) := by
  obtain ⟨place, hp, hplace⟩ := node_eq_ok h
  rw [isFile_iff]
  constructor
  · rintro ⟨octets, hfile⟩
    have hshort : allows (p.join ⟨name⟩) = true :=
      Disk.allows_of_isFile (isFile_iff.mpr ⟨octets, hfile⟩)
    obtain ⟨place', hresolve, hplace'⟩ := node_eq_ok hfile
    refine ⟨hshort, octets, ?_⟩
    cases hc : (FileNode.folder es).child? name with
    | none =>
      rw [resolve_join_eq hp hname hshort, step_missing hplace hc hname] at hresolve
      cases hresolve
    | some c =>
      rw [resolve_join hp hplace hc hname hshort] at hresolve
      obtain rfl := Except.ok.inj hresolve
      rw [nodeAt_cons, hplace, Option.bind_some, hc] at hplace'
      exact hplace'
  · rintro ⟨hshort, octets, hc⟩
    refine ⟨octets, node_of_resolve (resolve_join hp hplace hc hname hshort) ?_⟩
    rw [nodeAt_cons, hplace, Option.bind_some, hc]

end FileTree

namespace Disk

open FileTree

variable {t : FileTree} {folder : Path} {es : List (String × FileNode)} {f : PanelFormat}
  {n : String}

/-- A folder of a tree holds its entries, as far as the paths are not too long. -/
theorem folders_holds_iff (h : t.node folder = .ok (.folder es)) :
    (folders t).Holds folder f.fileName n ↔ allows (folder.join ⟨n⟩) = true ∧
      Text.asciiLower n = f.fileName ∧
      ∃ octets, (FileNode.folder es).child? n = some (.file octets) := by
  constructor
  · rintro ⟨hfile, hspelled, -⟩
    rw [f.asciiLower_fileName] at hspelled
    obtain ⟨hshort, hentry⟩ :=
      (isFile_join_iff h (PanelFormat.isName_of_asciiLower hspelled)).mp hfile
    exact ⟨hshort, hspelled, hentry⟩
  · rintro ⟨hshort, hspelled, octets, hentry⟩
    refine ⟨(isFile_join_iff h (PanelFormat.isName_of_asciiLower hspelled)).mpr
      ⟨hshort, octets, hentry⟩, by rw [hspelled, f.asciiLower_fileName], .inr ?_⟩
    refine ⟨es.map (·.1), ?_, List.mem_map_of_mem (f := (·.1)) (FileNode.child?_eq_some hentry)⟩
    change t.list? folder = _
    rw [list?, h]

example : Disk.locate ⟨.folder [("panel2.cfg", .folder []), ("Panel.CFG", .file [])], []⟩ ⟨"/"⟩ =
    .ok (⟨"/Panel.CFG"⟩, .framed) := by rfl

end Disk

/-! ## The command -/

namespace Command

variable {t : FileTree} {store : TextureStore (List Registered)} {p : Path} {f : PanelFormat}

theorem panelAt_of_locate {folder : Path} (hfolder : t.isFolder folder = true)
    (h : Disk.locate t folder = .ok (p, f)) :
    panelAt t folder = .ok (p, f) ∧ panelAt t p = .ok (p, f) := by
  refine ⟨(if_pos hfolder).trans h, ?_⟩
  obtain ⟨n, rfl, hn, -, hformat⟩ := FolderView.locate_eq_ok h
  have hnot : t.isFolder (folder.join ⟨n⟩) ≠ true := fun hsub => by
    obtain ⟨octets, hfile⟩ := FileTree.isFile_iff.mp hn.isFile
    obtain ⟨es, hes⟩ := FileTree.isFolder_iff.mp hsub
    cases hfile.symm.trans hes
  rw [panelAt, if_neg hnot, PanelFormat.ofPathD, PanelFormat.ofPath_eq_ok.mp hformat,
    Option.getD_some]

/-- A reply depends on the path of the request only through the panel that it means. -/
theorem compileReply_congr {r : CompileRequest} {q : Path}
    (h : panelAt t q = panelAt t r.path) :
    compileReply t store { r with path := q } = compileReply t store r := by
  unfold compileReply
  dsimp only
  rw [h]
  rfl

end Command

/-- A panel is located if and only if the folder holds the file of its format; the file found
tells the format, and the command compiles the folder as it compiles the file. -/
theorem FolderView.panel_located :
    (∀ (v : FolderView) (folder : Path),
      ((∃ p, v.locate folder = .ok (p, .calibrated)) ↔ ∃ n, v.Holds folder "panel2.cfg" n) ∧
      ((∃ p, v.locate folder = .ok (p, .framed)) ↔
        (¬∃ n, v.Holds folder "panel2.cfg" n) ∧ ∃ n, v.Holds folder "panel.cfg" n) ∧
      (v.locate folder = .error (.noPanelFile folder.text) ↔
        (¬∃ n, v.Holds folder "panel2.cfg" n) ∧ ¬∃ n, v.Holds folder "panel.cfg" n) ∧
      ∀ p f, v.locate folder = .ok (p, f) →
        ∃ n, p = folder.join ⟨n⟩ ∧ v.Holds folder f.fileName n ∧
          (v.isFile (folder.join ⟨f.fileName⟩) = true → n = f.fileName) ∧
          PanelFormat.ofPath p = .ok f) ∧
    (∀ (folder : Path) (n : String) (f : PanelFormat), FileTree.IsName n →
      (PanelFormat.ofPath (folder.join ⟨n⟩) = .ok f ↔ Text.asciiLower n = f.fileName)) ∧
    (∀ (t : FileTree) (folder : Path) (es : List (String × FileNode)) (f : PanelFormat)
      (n : String), t.node folder = .ok (.folder es) →
      ((Disk.folders t).Holds folder f.fileName n ↔ FileTree.allows (folder.join ⟨n⟩) = true ∧
        Text.asciiLower n = f.fileName ∧
        ∃ octets, (FileNode.folder es).child? n = some (.file octets))) ∧
    ∀ (t : FileTree) (store : TextureStore (List Registered)) (r : Command.CompileRequest)
      (p : Path) (f : PanelFormat),
      t.isFolder r.path = true → Disk.locate t r.path = .ok (p, f) →
      Command.panelAt t r.path = .ok (p, f) ∧ Command.panelAt t p = .ok (p, f) ∧
        Command.compileReply t store { r with path := p } = Command.compileReply t store r := by
  refine ⟨fun v folder => ⟨locate_calibrated_iff, locate_framed_iff, locate_error_iff,
    fun p f => locate_eq_ok⟩, fun folder n f hn => PanelFormat.ofPath_join_iff hn folder f,
    fun t folder es f n h => Disk.folders_holds_iff h, fun t store r p f hfolder h => ?_⟩
  obtain ⟨hr, hp⟩ := Command.panelAt_of_locate hfolder h
  exact ⟨hr, hp, Command.compileReply_congr (hp.trans hr.symm)⟩

end DriverDesk
