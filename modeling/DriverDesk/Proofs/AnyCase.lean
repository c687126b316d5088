import DriverDesk.Proofs.References
import Mathlib.Data.List.Nodup

/-!
# References in any letter case

`Follows` says how a list of components leads from one place of a tree to another, by the
entry that a choice of names allows for each named component. The lookup on disk follows the
first listed entries of a name in any letter case; a reference may be meant to follow any of
them.
-/

namespace DriverDesk

/-! ## Trees of files -/

namespace FileTree

/-- A name an entry of a folder can have. -/
structure IsName (n : String) : Prop where
  ne_empty : n ≠ ""
  ne_here : n ≠ "."
  ne_up : n ≠ ".."
  slash_not_mem : '/' ∉ n.toList
  usable : usable n = true

instance (n : String) : Decidable (IsName n) :=
  decidable_of_iff (n ≠ "" ∧ n ≠ "." ∧ n ≠ ".." ∧ '/' ∉ n.toList ∧ FileTree.usable n = true)
    ⟨fun ⟨h₁, h₂, h₃, h₄, h₅⟩ => ⟨h₁, h₂, h₃, h₄, h₅⟩,
      fun ⟨h₁, h₂, h₃, h₄, h₅⟩ => ⟨h₁, h₂, h₃, h₄, h₅⟩⟩

end FileTree

/-- Every entry of every folder has a name. -/
inductive FileNode.Named : FileNode → Prop where
  | file (octets : List UInt8) : Named (.file octets)
  | folder {entries : List (String × FileNode)} (names : ∀ e ∈ entries, FileTree.IsName e.1)
      (below : ∀ e ∈ entries, Named e.2) : Named (.folder entries)

namespace FileNode

theorem child?_eq_some {n c : FileNode} {name : String} (h : n.child? name = some c) :
    (name, c) ∈ n.entries := by
  unfold child? at h
  obtain ⟨e, he, rfl⟩ := Option.map_eq_some_iff.mp h
  have hname : e.1 = name := by simpa using List.find?_some he
  exact hname ▸ List.mem_of_find?_eq_some he

theorem child?_isSome {es : List (String × FileNode)} {name : String} (h : name ∈ es.map (·.1)) :
    ∃ c, (folder es).child? name = some c := by
  obtain ⟨e, he, rfl⟩ := List.mem_map.mp h
  have hfound : (es.find? fun e' => e'.1 == e.1).isSome := by
    rw [List.find?_isSome]
    exact ⟨e, he, beq_self_eq_true _⟩
  obtain ⟨e', he'⟩ := Option.isSome_iff_exists.mp hfound
  exact ⟨e'.2, by rw [child?, entries, he', Option.map_some]⟩

theorem named_file (octets : List UInt8) : (file octets).Named := .file octets

theorem named_folder_nil : (folder []).Named := .folder nofun nofun

theorem named_folder_cons {n : String} {c : FileNode} {es : List (String × FileNode)} :
    (folder ((n, c) :: es)).Named ↔ FileTree.IsName n ∧ c.Named ∧ (folder es).Named := by
  constructor
  · intro h
    cases h with
    | folder names below =>
      obtain ⟨hn, hnames⟩ := List.forall_mem_cons.mp names
      obtain ⟨hc, hbelow⟩ := List.forall_mem_cons.mp below
      exact ⟨hn, hc, .folder hnames hbelow⟩
  · rintro ⟨hn, hc, hes⟩
    cases hes with
    | folder names below =>
      exact .folder (List.forall_mem_cons.mpr ⟨hn, names⟩) (List.forall_mem_cons.mpr ⟨hc, below⟩)

theorem Named.child {n c : FileNode} {name : String} (h : n.Named) (hc : n.child? name = some c) :
    c.Named := by
  have hmem := child?_eq_some hc
  cases h with
  | file => exact absurd hmem List.not_mem_nil
  | folder _ below => exact below _ hmem

theorem Named.at? {n m : FileNode} {place : List String} (h : n.Named)
    (hm : n.at? place = some m) : m.Named := by
  induction place generalizing n with
  | nil => exact Option.some.inj hm ▸ h
  | cons name place ih =>
    obtain ⟨c, hc, hm⟩ := Option.bind_eq_some_iff.mp hm
    exact ih (h.child hc) hm

theorem at?_concat (n : FileNode) (place : List String) (name : String) :
    n.at? (place ++ [name]) = (n.at? place).bind (·.child? name) := by
  induction place generalizing n with
  | nil =>
    change (n.child? name).bind some = n.child? name
    exact Option.bind_fun_some _
  | cons first place ih =>
    change (n.child? first).bind (fun c => c.at? (place ++ [name])) =
      ((n.child? first).bind (·.at? place)).bind _
    rw [Option.bind_assoc]
    exact congrArg _ (funext ih)

end FileNode

namespace FileTree

variable {t : FileTree}

/-- The node at a place, which is given as names from the node upwards. -/
def nodeAt (t : FileTree) (place : List String) : Option FileNode := t.root.at? place.reverse

theorem nodeAt_cons (name : String) (place : List String) :
    t.nodeAt (name :: place) = (t.nodeAt place).bind (·.child? name) := by
  rw [nodeAt, List.reverse_cons, FileNode.at?_concat, nodeAt]

theorem node_of_resolve {p : Path} {place : List String} {n : FileNode}
    (hp : t.resolve p = .ok place) (hn : t.nodeAt place = some n) : t.node p = .ok n := by
  unfold nodeAt at hn
  unfold node
  rw [hp]
  dsimp only [bind, Except.bind]
  rw [hn]

/-! ## Entries of a folder -/

theorem walk_append (place : List String) (a b : List String) :
    t.walk place (a ++ b) = t.walk place a >>= fun next => t.walk next b := by
  induction a generalizing place with
  | nil => rfl
  | cons s a ih =>
    rw [List.cons_append, walk_cons, walk_cons]
    cases t.step place s with
    | error => rfl
    | ok next => exact ih next

theorem step_empty {place next : List String} (h : t.step place "" = .ok next) : next = place := by
  unfold step at h
  split at h
  · cases h
  · split at h
    · cases h
    · exact (Except.ok.inj ((if_pos (.inl rfl)).symm.trans h)).symm

theorem step_name {place : List String} {n c : FileNode} {name : String}
    (hn : t.nodeAt place = some n) (hc : n.child? name = some c) (hname : IsName name) :
    t.step place name = .ok (name :: place) := by
  unfold nodeAt at hn
  have hfolder : n.isFolder = true := by
    cases n with
    | file => exact absurd (FileNode.child?_eq_some hc) List.not_mem_nil
    | folder => rfl
  unfold step
  rw [hn]
  dsimp only
  rw [hfolder, if_neg (by decide), if_neg (not_or.mpr ⟨hname.ne_empty, hname.ne_here⟩),
    if_neg hname.ne_up, hname.usable, if_neg (by decide), hc]

theorem IsName.isAbsolute {n : String} (h : IsName n) : (⟨n⟩ : Path).isAbsolute = false := by
  refine Bool.eq_false_iff.mpr fun habs => ?_
  obtain ⟨r, hr⟩ := Path.isAbsolute_iff.mp habs
  exact h.slash_not_mem (hr ▸ List.mem_cons_self)

end FileTree

namespace Path

/-- A name behind a folder that has a text. The separator may be at the end of it already. -/
theorem join_name_cases {p : Path} {n : String} (hp : p.text ≠ "") (hn : FileTree.IsName n) :
    ∃ folder : List Char, (p.join ⟨n⟩).text.toList = folder ++ '/' :: n.toList ∧
      (p.text.toList = folder ∨ p.text.toList = folder ++ ['/']) := by
  have hempty : p.text.isEmpty = false := by simpa using hp
  by_cases hslash : p.text.toList.getLast? = some '/'
  · obtain ⟨folder, hfolder⟩ := List.getLast?_eq_some_iff.mp hslash
    refine ⟨folder, ?_, .inr hfolder⟩
    rw [join, hn.isAbsolute, if_neg Bool.false_ne_true, if_pos (by simp [hslash]),
      String.toList_append, hfolder, List.append_assoc]
    rfl
  · refine ⟨p.text.toList, ?_, .inl rfl⟩
    rw [join, hn.isAbsolute, if_neg Bool.false_ne_true, if_neg (by simp [hp, hslash]),
      String.toList_append, String.toList_append, List.append_assoc]
    rfl

end Path

namespace FileTree

variable {t : FileTree}

theorem segmentsOf_join {p : Path} {folder : List Char} {name : String} (hname : IsName name)
    (hp : p.text.toList = folder ++ '/' :: name.toList) :
    segmentsOf p = (Path.segments folder).map String.ofList ++ [name] := by
  have hlast : Path.segments name.toList = [name.toList] :=
    Text.pieces_of_not_mem hname.slash_not_mem
  rw [segmentsOf, hp, Path.segments_append, hlast, List.map_append, List.map_singleton,
    String.ofList_toList]

/-- What a folder's text leads to is where its names are looked up, whether a separator ends it
or not. -/
theorem walk_folder {p : Path} {folder : List Char} {start place : List String}
    (hp : p.text.toList = folder ∨ p.text.toList = folder ++ ['/'])
    (h : t.walk start (segmentsOf p) = .ok place) :
    t.walk start ((Path.segments folder).map String.ofList) = .ok place := by
  rcases hp with rfl | hp
  · exact h
  · have hsegments : segmentsOf p = (Path.segments folder).map String.ofList ++ [""] := by
      rw [segmentsOf, hp, Path.segments_append, List.map_append]
      rfl
    rw [hsegments, walk_append] at h
    cases hwalk : t.walk start ((Path.segments folder).map String.ofList) with
    | error fault => rw [hwalk] at h; cases h
    | ok next =>
      rw [hwalk] at h
      change (t.step next "" >>= fun next => t.walk next []) = .ok place at h
      cases hstep : t.step next "" with
      | error fault => rw [hstep] at h; cases h
      | ok next' =>
        rw [hstep] at h
        obtain rfl := step_empty hstep
        exact congrArg _ (Except.ok.inj h)

theorem startOf_join {p q : Path} {folder rest : List Char} (hne : p.text ≠ "")
    (hp : p.text.toList = folder ∨ p.text.toList = folder ++ ['/'])
    (hq : q.text.toList = folder ++ '/' :: rest) : t.startOf q = t.startOf p := by
  have habs : q.isAbsolute = p.isAbsolute := by
    rw [Path.isAbsolute, Path.isAbsolute, hq]
    rcases hp with rfl | hp
    · cases hcs : p.text.toList with
      | nil => exact absurd (String.toList_eq_nil_iff.mp hcs) hne
      | cons => rfl
    · rw [hp]
      cases folder <;> rfl
  rw [startOf, habs, startOf]

/-- A name behind a path is one step further. -/
theorem resolve_join_eq {p : Path} {place : List String} {name : String}
    (hp : t.resolve p = .ok place) (hname : IsName name) (hshort : allows (p.join ⟨name⟩) = true) :
    t.resolve (p.join ⟨name⟩) = t.step place name := by
  unfold resolve at hp
  split at hp
  · cases hp
  split at hp
  · cases hp
  next hempty =>
    have hne : p.text ≠ "" := by simpa using hempty
    obtain ⟨folder, hjoin, htext⟩ := Path.join_name_cases hne hname
    have hjoined : (p.join ⟨name⟩).text.isEmpty = false := by
      refine Bool.eq_false_iff.mpr fun h => ?_
      rw [String.isEmpty_iff.mp h] at hjoin
      cases folder <;> cases hjoin
    unfold resolve
    rw [hshort, hjoined, if_neg (by decide), if_neg Bool.false_ne_true,
      segmentsOf_join hname hjoin, walk_append, startOf_join hne htext hjoin,
      walk_folder htext hp]
    change (t.step place name >>= fun next => t.walk next []) = _
    cases t.step place name <;> rfl

/-- A name behind a path leads to the entry of that name. -/
theorem resolve_join {p : Path} {place : List String} {n c : FileNode} {name : String}
    (hp : t.resolve p = .ok place) (hn : t.nodeAt place = some n) (hc : n.child? name = some c)
    (hname : IsName name) (hshort : allows (p.join ⟨name⟩) = true) :
    t.resolve (p.join ⟨name⟩) = .ok (name :: place) :=
  (resolve_join_eq hp hname hshort).trans (step_name hn hc hname)

end FileTree

/-! ## Following components -/

/-- Which entry a named component may lead to, of the entries of a folder. -/
abbrev Choice := List String → String → String → Prop

namespace Choice

/-- Any entry of the name in any letter case. -/
def anyCase : Choice := fun names wanted n => n ∈ names ∧ Text.lower n = Text.lower wanted

/-- The first listed one of them. -/
def firstListed : Choice := fun names wanted n =>
  names.find? (Text.lower · == Text.lower wanted) = some n

end Choice

/-- Components lead from one place to another. Each is looked up in a folder: `.` stays in it,
`..` leads to the folder above, and a name to an entry of the folder. -/
inductive Follows (t : FileTree) (choice : Choice) :
    List String → List Path.Component → List String → Prop where
  | nil (place : List String) : Follows t choice place [] place
  | here {place target : List String} {entries : List (String × FileNode)}
      {cs : List Path.Component} (folder : t.nodeAt place = some (.folder entries))
      (rest : Follows t choice place cs target) : Follows t choice place (.here :: cs) target
  | up {place target : List String} {entries : List (String × FileNode)}
      {cs : List Path.Component} (folder : t.nodeAt place = some (.folder entries))
      (rest : Follows t choice place.tail cs target) : Follows t choice place (.up :: cs) target
  | name {place target : List String} {entries : List (String × FileNode)} {s : List Char}
      {n : String} {cs : List Path.Component}
      (folder : t.nodeAt place = some (.folder entries))
      (chosen : choice (entries.map (·.1)) (String.ofList s) n)
      (rest : Follows t choice (n :: place) cs target) :
      Follows t choice place (.name s :: cs) target

/-- Where no folder has two names that are equal up to the letter case, any entry of a name is
the first listed one. -/
theorem Follows.firstListed {t : FileTree}
    (hdistinct : ∀ place entries, t.nodeAt place = some (.folder entries) →
      (entries.map fun e => Text.lower e.1).Nodup)
    {place target : List String} {cs : List Path.Component}
    (h : Follows t .anyCase place cs target) : Follows t .firstListed place cs target := by
  induction h with
  | nil place => exact .nil place
  | here folder _ ih => exact .here folder ih
  | up folder _ ih => exact .up folder ih
  | @name place target entries s n cs folder chosen rest ih =>
    obtain ⟨hmem, hcase⟩ := chosen
    refine .name folder ?_ ih
    have hfound : ((entries.map (·.1)).find?
        (Text.lower · == Text.lower (String.ofList s))).isSome := by
      rw [List.find?_isSome]
      exact ⟨n, hmem, beq_iff_eq.mpr hcase⟩
    obtain ⟨m, hm⟩ := Option.isSome_iff_exists.mp hfound
    have hmcase : Text.lower m = Text.lower (String.ofList s) := by
      simpa using List.find?_some hm
    obtain ⟨e, he, rfl⟩ := List.mem_map.mp hmem
    obtain ⟨e', he', rfl⟩ := List.mem_map.mp (List.mem_of_find?_eq_some hm)
    obtain rfl := List.inj_on_of_nodup_map (hdistinct place entries folder) he he'
      (hcase.trans hmcase.symm)
    exact hm

namespace Disk

open FileTree

variable {t : FileTree}

/-- Names behind a path one after the other. -/
def below (p : Path) (names : List String) : Path := names.foldl (fun p n => p.join ⟨n⟩) p

theorem sublist_join (p q : Path) (h : q.isAbsolute = false) :
    p.text.toList.Sublist (p.join q).text.toList := by
  rw [Path.join, h, if_neg Bool.false_ne_true]
  split
  · rw [String.toList_append]
    exact List.sublist_append_left _ _
  · rw [String.toList_append, String.toList_append, List.append_assoc]
    exact List.sublist_append_left _ _

theorem sublist_below (p : Path) {names : List String} (h : ∀ n ∈ names, IsName n) :
    p.text.toList.Sublist (below p names).text.toList := by
  induction names generalizing p with
  | nil => exact .refl _
  | cons n names ih =>
    obtain ⟨hn, hnames⟩ := List.forall_mem_cons.mp h
    exact (sublist_join p ⟨n⟩ hn.isAbsolute).trans (ih _ hnames)

theorem list?_of_resolve {p : Path} {place : List String} {entries : List (String × FileNode)}
    (hp : t.resolve p = .ok place) (hn : t.nodeAt place = some (.folder entries)) :
    t.list? p = some (entries.map (·.1)) := by
  rw [list?, node_of_resolve hp hn]

/-- Every entry that is chosen has a name that a file can have. -/
theorem isName_of_mem (ht : t.root.Named) {place : List String}
    {entries : List (String × FileNode)} (folder : t.nodeAt place = some (.folder entries))
    {n : String} (h : n ∈ entries.map (·.1)) : IsName n := by
  obtain ⟨e, he, rfl⟩ := List.mem_map.mp h
  cases ht.at? folder with
  | folder names _ => exact names e he

/-- The lookup in any letter case goes where the first listed entries lead, as far as there are
paths that are not too long. -/
theorem findAnyCase_of_follows (ht : t.root.Named) {place target : List String}
    {cs : List Path.Component} (hfollows : Follows t .firstListed place cs target)
    (hnames : ∀ c ∈ cs, ∃ s, c = .name s) :
    ∃ names, target = names.reverse ++ place ∧ (∀ n ∈ names, IsName n) ∧
      ∀ p, t.resolve p = .ok place → allows (below p names) = true →
        findAnyCase t p cs = some (below p names) ∧ t.resolve (below p names) = .ok target := by
  induction hfollows with
  | nil place => exact ⟨[], rfl, nofun, fun p hp _ => ⟨rfl, hp⟩⟩
  | here =>
    obtain ⟨s, hs⟩ := hnames _ List.mem_cons_self
    cases hs
  | up =>
    obtain ⟨s, hs⟩ := hnames _ List.mem_cons_self
    cases hs
  | @name place target entries s n cs folder chosen rest ih =>
    have hmem : n ∈ entries.map (·.1) := List.mem_of_find?_eq_some chosen
    have hname := isName_of_mem ht folder hmem
    obtain ⟨c, hc⟩ := FileNode.child?_isSome hmem
    obtain ⟨names, rfl, hbelow, hfind⟩ := ih fun c hc => hnames c (List.mem_cons_of_mem _ hc)
    refine ⟨n :: names, by simp, List.forall_mem_cons.mpr ⟨hname, hbelow⟩, fun p hp hshort => ?_⟩
    have hjoin : allows (p.join ⟨n⟩) = true := allows_of_sublist (sublist_below _ hbelow) hshort
    obtain ⟨hfound, hresolve⟩ := hfind (p.join ⟨n⟩) (resolve_join hp folder hc hname hjoin) hshort
    refine ⟨?_, hresolve⟩
    rw [findAnyCase, list?_of_resolve hp folder]
    change (entries.map (·.1)).find? _ >>= _ = _
    rw [componentText, show (entries.map (·.1)).find? _ = some n from chosen]
    exact hfound

theorem has_of_isFile {p : Path} (h : t.isFile p = true) : t.has p = true := by
  unfold isFile at h
  unfold has
  split at h
  next hnode => rw [hnode]; rfl
  next => cases h

theorem allows_of_isFile {p : Path} (h : t.isFile p = true) : allows p = true := by
  unfold isFile node resolve at h
  cases hallows : allows p with
  | true => rfl
  | false =>
    rw [hallows] at h
    cases h

/-- What a path leads to is a file if it is no folder. -/
theorem isFile_of_has {p : Path} (h : t.has p = true) (hfolder : t.isFolder p = false) :
    t.isFile p = true := by
  unfold has at h
  unfold isFolder at hfolder
  unfold isFile
  cases hnode : t.node p with
  | error fault => rw [hnode] at h; cases h
  | ok n =>
    cases n with
    | file => rfl
    | folder => rw [hnode] at hfolder; cases hfolder

/-- A file is found where the spelling of a reference leads to it. -/
theorem combine_eq_direct {base reference : Path}
    (hrelative : (normalize reference).isAbsolute = false)
    (hfile : t.isFile (base.join (normalize reference)) = true) :
    combine t base reference = base.join (normalize reference) := by
  unfold combine
  dsimp only
  rw [hrelative, if_neg Bool.false_ne_true, has_of_isFile hfile, if_pos rfl]

/-- A file is found where the first listed entries lead to it, unless a folder is there as the
reference is spelled. -/
theorem isFile_combine_of_firstListed (ht : t.root.Named) {base reference : Path}
    {place names : List String} (hbase : t.resolve base = .ok place)
    (hrelative : (normalize reference).isAbsolute = false)
    (hfolder : t.isFolder (base.join (normalize reference)) = false)
    (hnames : ∀ c ∈ (normalize reference).components, ∃ s, c = .name s)
    (hfollows : Follows t .firstListed place (normalize reference).components
      (names.reverse ++ place))
    (hfile : t.isFile (below base names) = true) : t.isFile (combine t base reference) = true := by
  obtain ⟨found, htarget, -, hfind⟩ := findAnyCase_of_follows ht hfollows hnames
  obtain rfl : names = found := List.reverse_injective (List.append_cancel_right htarget)
  unfold combine
  dsimp only
  rw [hrelative, if_neg Bool.false_ne_true]
  split
  next hhas => exact isFile_of_has hhas hfolder
  next =>
    rw [(hfind base hbase (allows_of_isFile hfile)).1]
    exact hfile

/-- In a tree where no folder has two names that are equal up to the letter case, the file is
found that the names of a reference lead to in any letter case. -/
theorem isFile_combine_of_distinct (ht : t.root.Named)
    (hdistinct : ∀ place entries, t.nodeAt place = some (.folder entries) →
      (entries.map fun e => Text.lower e.1).Nodup)
    {base reference : Path} {place names : List String} (hbase : t.resolve base = .ok place)
    (hrelative : (normalize reference).isAbsolute = false)
    (hfolder : t.isFolder (base.join (normalize reference)) = false)
    (hnames : ∀ c ∈ (normalize reference).components, ∃ s, c = .name s)
    (hfollows : Follows t .anyCase place (normalize reference).components
      (names.reverse ++ place))
    (hfile : t.isFile (below base names) = true) : t.isFile (combine t base reference) = true :=
  isFile_combine_of_firstListed ht hbase hrelative hfolder hnames (hfollows.firstListed hdistinct)
    hfile

/-- A relative reference that leads to a file is found: as it is spelled, or by the first listed
entries of its names in any letter case if no folder is there as it is spelled. -/
theorem isFile_combine {t : FileTree} (ht : t.root.Named) {base reference : Path}
    {place : List String} (hbase : t.resolve base = .ok place)
    (hrelative : (normalize reference).isAbsolute = false)
    (hreach : t.isFile (base.join (normalize reference)) = true ∨
      t.isFolder (base.join (normalize reference)) = false ∧
        (∀ c ∈ (normalize reference).components, ∃ s, c = .name s) ∧
        ∃ names, Follows t .firstListed place (normalize reference).components
          (names.reverse ++ place) ∧ t.isFile (below base names) = true) :
    t.isFile (combine t base reference) = true := by
  rcases hreach with hdirect | ⟨hfolder, hnames, names, hfollows, hfile⟩
  · rw [combine_eq_direct hrelative hdirect]
    exact hdirect
  · exact isFile_combine_of_firstListed ht hbase hrelative hfolder hnames hfollows hfile

/-- A train folder with these entries. -/
def trainOf (entries : List (String × FileNode)) : FileTree :=
  ⟨.folder [("train", .folder entries)], []⟩

/-- A lamp in a folder, under names that are spelled otherwise. -/
theorem isFile_combine_lamp :
    let t := trainOf [("Img", .folder [("Lamp.bmp", .file [])])]
    t.isFile (combine t ⟨"/train"⟩ ⟨"img\\LAMP.bmp"⟩) = true := by
  have ht : (trainOf [("Img", .folder [("Lamp.bmp", .file [])])]).root.Named := by
    simp only [trainOf, FileNode.named_folder_cons, FileNode.named_folder_nil,
      FileNode.named_file, and_true]
    decide
  have hbase : (trainOf [("Img", .folder [("Lamp.bmp", .file [])])]).resolve ⟨"/train"⟩ =
      .ok ["train"] := by decide
  refine isFile_combine ht hbase (by decide)
    (.inr ⟨by decide, ?_, ["Img", "Lamp.bmp"], .name rfl rfl (.name rfl rfl (.nil _)), by decide⟩)
  rw [show (normalize ⟨"img\\LAMP.bmp"⟩).components =
    [.name "img".toList, .name "LAMP.bmp".toList] by decide]
  simp

/-! ## Files that are not found -/

/-- The lookup finds a file whenever there is one that the components of the reference lead to,
by any entries of their names in any letter case. -/
def Complete (t : FileTree) (base reference : Path) : Prop :=
  ∀ place target octets, t.resolve base = .ok place → t.nodeAt target = some (.file octets) →
    Follows t .anyCase place (normalize reference).components target →
    t.isFile (combine t base reference) = true

/-- Two folders of one name up to the letter case, the first of them without the file. -/
def siblings : FileTree :=
  trainOf [("Img", .folder []), ("img", .folder [("lamp.bmp", .file [])])]

/-- A folder with the name of a file. -/
def folderOfName : FileTree := trainOf [("lamp.bmp", .folder []), ("LAMP.bmp", .file [])]

/-- Files that the components of a reference lead to and that are not found: behind the second
of two folders of one name, beside a folder of their exact name, and in another letter case
behind a `..` or a `.`. -/
theorem combine_incomplete :
    (siblings.root.Named ∧ ¬Complete siblings ⟨"/train"⟩ ⟨"IMG/lamp.bmp"⟩) ∧
      (folderOfName.root.Named ∧ ¬Complete folderOfName ⟨"/train"⟩ ⟨"lamp.bmp"⟩) ∧
      (trainOf [("Lamp.bmp", .file [])]).root.Named ∧
        ¬Complete (trainOf [("Lamp.bmp", .file [])]) ⟨"/train"⟩ ⟨"../Train/lamp.bmp"⟩ ∧
        ¬Complete (trainOf [("Lamp.bmp", .file [])]) ⟨"/train"⟩ ⟨"./lamp.bmp"⟩ := by
  refine ⟨⟨?_, fun h => ?_⟩, ⟨?_, fun h => ?_⟩, ?_, fun h => ?_, fun h => ?_⟩
  · simp only [siblings, trainOf, FileNode.named_folder_cons, FileNode.named_folder_nil,
      FileNode.named_file, and_true]
    decide
  · have hfound := h ["train"] ["lamp.bmp", "img", "train"] [] rfl rfl
      (.name rfl ⟨by decide, by decide⟩ (.name rfl ⟨by decide, by decide⟩ (.nil _)))
    exact absurd hfound (by decide)
  · simp only [folderOfName, trainOf, FileNode.named_folder_cons, FileNode.named_folder_nil,
      FileNode.named_file, and_true]
    decide
  · have hfound := h ["train"] ["LAMP.bmp", "train"] [] rfl rfl
      (.name rfl ⟨by decide, by decide⟩ (.nil _))
    exact absurd hfound (by decide)
  · simp only [trainOf, FileNode.named_folder_cons, FileNode.named_folder_nil,
      FileNode.named_file, and_true]
    decide
  · have hfound := h ["train"] ["Lamp.bmp", "train"] [] rfl rfl
      (.up rfl (.name rfl ⟨by decide, by decide⟩ (.name rfl ⟨by decide, by decide⟩ (.nil _))))
    exact absurd hfound (by decide)
  · have hfound := h ["train"] ["Lamp.bmp", "train"] [] rfl rfl
      (.here rfl (.name rfl ⟨by decide, by decide⟩ (.nil _)))
    exact absurd hfound (by decide)

end Disk

end DriverDesk
