import DriverDesk.Compile.Plan
import DriverDesk.Proofs.LastRecords
import DriverDesk.Proofs.Pieces
import DriverDesk.Proofs.Postfix

/-!
# Pieces of framed panels

A dial has an image below its pointers and one above, and each pointer is a piece of its own.
-/

namespace DriverDesk

open Build Step

variable {K σ : Type} [Arith K] {env : BuildEnv K σ} {s : Section} {fault : Prop}

/-! ## Shapes -/

namespace Element

/-- An image that stands still. -/
structure IsImage (store : TextureStore σ) (kind : ElementKind) (path : Path) (e : Element K) :
    Prop where
  kind : e.kind = kind
  motion : e.motion = .still
  shown : ∀ state ∈ e.states, ∃ id, state.mesh.material.daytime? = some id ∧ store.Issues path id

/-- A hand or a disc of lamps that follows an expression. -/
structure IsPointer (kind : ElementKind) (tint : Rgba) (function : Expr K) (e : Element K) :
    Prop where
  kind : e.kind = kind
  motion : e.motion = .turning (.free function) ∨
    ∃ sweep, e.motion = .sweeping sweep ∧ sweep.function = function
  tint : ∀ state ∈ e.states, state.mesh.material.tint = tint

/-- Frames of which an expression selects one. -/
structure IsSelected (kind : ElementKind) (function : Expr K) (e : Element K) : Prop where
  kind : e.kind = kind
  function : e.stateFunction? = some function

end Element

namespace Framed

/-! ## Parts of dials -/

/-- An image of a dial, if it is asked for. -/
def imagePiece (store : TextureStore σ) (kind : ElementKind) (asked : Prop) (path? : Option Path) :
    Piece K := ⟨asked, fun e => ∃ path, path? = some path ∧ e.IsImage store kind path⟩

theorem centeredImage_leaves {kind : ElementKind} (hkind : kind.Plain) (space : Space K)
    (path : Path) (center : Point K) (depth : K) :
    Leaves env s fault (centeredImage s space kind path center depth)
      (OrFault fault fun step => ∃ e, step = .element e ∧ e.Sound ∧
        e.IsImage env.store kind path) := by
  unfold centeredImage
  refine (texture_leaves _ _).bindOption (.pure fun hfault => hfault) fun ⟨texture, size⟩ => ?_
  refine .bindGives (quadState_gives_quad _ _ _ _ _) fun state hstate => ?_
  subst hstate
  refine .pure fun hissues =>
    ⟨_, rfl, Element.sound_single hkind (Mesh.isQuad_ofQuad ..), rfl, rfl, ?_⟩
  exact List.forall_mem_singleton.mpr ⟨texture, rfl, hissues⟩

theorem optionalImage_leaves {kind : ElementKind} (hkind : kind.Plain) (space : Space K)
    (path? : Option Path) (center : Point K) (depth : K) :
    Leaves env s fault (optionalImage s space kind path? center depth)
      (Makes fault [imagePiece env.store kind (path?.isSome = true) path?]) := by
  unfold optionalImage
  rcases path? with _ | path
  · exact .pure (.nothing (List.forall_mem_singleton.mpr nofun))
  refine (centeredImage_leaves hkind space path center depth).bindOption (.pure .faulty)
    fun step => .pure ?_
  rintro ⟨e, rfl, hsound, himage⟩
  exact .one hsound ⟨path, rfl, himage⟩

theorem hand_leaves {kind : ElementKind} (hkind : kind.Plain) (space : Space K) (image : String)
    (center : Point K) (radius depth : K) (tint : Rgba) (function : Expr K) {p : Piece K}
    (hshape : ∀ e : Element K, e.IsPointer kind tint function → p.Shape e) :
    Leaves env s fault (hand s space kind image center radius depth tint function)
      (Makes fault [p]) := by
  unfold hand
  refine (stockImage_leaves image).bindOption (.pure .faulty) fun path => ?_
  refine (texture_leaves _ _).bindOption (.pure fun hfault _ => .faulty hfault)
    fun ⟨texture, size⟩ => ?_
  refine .bindGives (quadState_gives_quad _ _ _ _ _) fun state hstate => ?_
  subst hstate
  refine .pure fun _ _ => .one (Element.sound_turning _ hkind (Mesh.isQuad_ofQuad ..)) ?_
  exact hshape _ ⟨rfl, .inl rfl, List.forall_mem_singleton.mpr rfl⟩

theorem lamps_makes {kind : ElementKind} (hkind : kind.Plain) (space : Space K) (center : Point K)
    (radius depth : K) (tint : Rgba) (initial last : K) (function : Expr K) {p : Piece K}
    (hshape : ∀ e : Element K, e.IsPointer kind tint function → p.Shape e) :
    Makes fault [p] [lamps space kind center radius depth tint initial last function] :=
  .one (Element.sound_sweeping _ _ _ hkind)
    (hshape _ ⟨rfl, .inr ⟨_, rfl, rfl⟩, List.forall_mem_singleton.mpr rfl⟩)

/-- A part of an image that stands as a quad, as the frames of all sheets do. -/
theorem keyedQuad_leaves (space : Space K) (path : Path) (params : TextureParams) (rect : Rect K)
    (depth : K) :
    Leaves env s fault (do
      let some (texture, _) ← texture s path params | pure none
      some <$> quadState s space rect (.both 0.5) depth (keyedMaterial texture) : Build K σ _)
      (OrFault fault (·.mesh.IsQuad)) := by
  exact (texture_leaves _ _).bindFound (.pure fun hfault => hfault)
    fun ⟨texture, size⟩ => Build.frame_leaves _ _ _ _ _

/-- Four parts of a dial, one after the other. -/
theorem dial_leaves {p₁ p₂ p₃ p₄ : Piece K} {x₁ x₂ x₃ x₄ : Build K σ (List (Step K))}
    (h₁ : Leaves env s fault x₁ (Makes fault [p₁])) (h₂ : Leaves env s fault x₂ (Makes fault [p₂]))
    (h₃ : Leaves env s fault x₃ (Makes fault [p₃]))
    (h₄ : Leaves env s fault x₄ (Makes fault [p₄])) :
    Leaves env s fault (do
      let l₁ ← x₁
      let l₂ ← x₂
      let l₃ ← x₃
      let l₄ ← x₄
      pure (l₁ ++ l₂ ++ l₃ ++ l₄)) (Makes fault [p₁, p₂, p₃, p₄]) := by
  refine h₁.bind fun l₁ => h₂.bind fun l₂ => h₃.bind fun l₃ => h₄.bind fun l₄ => .pure ?_
  exact fun hl₄ hl₃ hl₂ hl₁ => ((hl₁.append hl₂).append hl₃).append hl₄

/-! ## Instruments -/

/-- The background of a header, which is asked for by its image or by the usual one. -/
def Background.piece (env : ReadEnv) (store : TextureStore σ) (b : Background) : Piece K :=
  imagePiece store .background ((b.path? env).isSome = true) (b.path? env)

theorem Background.build_leaves (b : Background) (space : Space K) (frame : Frame K) :
    Leaves env s fault (b.build s space frame) (Makes fault [b.piece env.read env.store]) := by
  unfold piece
  refine .read ?_
  rcases b.path? env.read with _ | path
  · exact .pure (.nothing (List.forall_mem_singleton.mpr nofun))
  refine (texture_leaves _ _).bindOption (.pure .faulty) fun ⟨texture, size⟩ => ?_
  refine .bindGives (quadState_gives_quad _ _ _ _ _) fun state hstate => ?_
  subst hstate
  refine .pure fun hissues => .one (Element.sound_single (by decide) (Mesh.isQuad_ofQuad ..)) ?_
  exact ⟨path, rfl, rfl, rfl, List.forall_mem_singleton.mpr ⟨texture, rfl, hissues⟩⟩

namespace PressureGauge

/-- A needle, or a disc in its place. -/
def pointerPiece (g : PressureGauge K) (asked : Prop) (needle? : Option PressureNeedle) :
    Piece K :=
  ⟨asked, fun e => ∃ needle, needle? = some needle ∧ e.IsPointer .pressureGauge needle.tint
    (g.angles.expression [.name needle.pressure.name])⟩

/-- The background, the two needles and the cover, by what asks for them. -/
def pieces (store : TextureStore σ) (g : PressureGauge K) (background lower upper cover : Prop) :
    List (Piece K) :=
  [imagePiece store .pressureGauge background g.background?, g.pointerPiece lower g.lower?,
   g.pointerPiece upper g.upper?, imagePiece store .pressureGauge cover g.cover?]

theorem pointer_leaves (g : PressureGauge K) (space : Space K) (needle? : Option PressureNeedle)
    (image : String) (layer : Int) :
    Leaves env s fault (g.pointer s space needle? image layer)
      (Makes fault [g.pointerPiece (needle?.isSome = true) needle?]) := by
  unfold pointer pointerPiece
  rcases needle? with _ | needle
  · exact .pure (.nothing (List.forall_mem_singleton.mpr nofun))
  refine .ite (fun _ => .pure ?_) fun _ => ?_
  · exact lamps_makes (by decide) _ _ _ _ _ _ _ _ fun e he => ⟨needle, rfl, he⟩
  · exact hand_leaves (by decide) _ _ _ _ _ _ _ fun e he => ⟨needle, rfl, he⟩

theorem build_leaves (g : PressureGauge K) (space : Space K) :
    Leaves env s fault (g.build s space)
      (Makes fault (g.pieces env.store (g.background?.isSome = true) (g.lower?.isSome = true)
        (g.upper?.isSome = true) (g.cover?.isSome = true))) := by
  refine .ite (fun _ => giveUp_leaves _ .faulty) fun _ => ?_
  exact dial_leaves (optionalImage_leaves (by decide) _ _ _ _) (g.pointer_leaves _ _ _ _)
    (g.pointer_leaves _ _ _ _) (optionalImage_leaves (by decide) _ _ _ _)

end PressureGauge

namespace Speedometer

/-- The sheet of the signal lamps is not found to be without frames: to be narrower than high. -/
def HasFrames (store : TextureStore σ) (m : Speedometer K) : Prop :=
  ∀ path, m.signals? = some path →
    ∀ size : Point K, store.Shows path size → Sheet.frameCount size.x size.y ≠ 0

/-- The element of the signal lamps, of which the signal selects one. -/
def signalsPiece (asked : Prop) : Piece K :=
  ⟨asked, (·.IsSelected .speedometer [.integer 271, .operator .pluginState])⟩

/-- The needle, or the disc in its place. -/
def pointerPiece (m : Speedometer K) : Piece K :=
  ⟨True, (·.IsPointer .speedometer (m.tint?.getD (if m.usesLamps then Rgba.black else Rgba.white))
    ((m.angles m.usesLamps).expression [.name "speedometer", .operator .abs]))⟩

/-- The background, the signal lamps, the pointer and the cover, by what asks for them. -/
def pieces (store : TextureStore σ) (m : Speedometer K) (background signals cover : Prop) :
    List (Piece K) :=
  [imagePiece store .speedometer background m.background?, signalsPiece signals, m.pointerPiece,
   imagePiece store .speedometer cover m.cover?]

theorem signalFrame_leaves (m : Speedometer K) (space : Space K) (path : Path) (side : K)
    {index : Nat} (hindex : index < (signalSpeeds (K := K)).length) :
    Leaves env s fault (m.signalFrame s space path side index)
      (OrFault fault (·.mesh.IsQuad)) := by
  unfold signalFrame
  rw [List.getElem?_eq_getElem hindex]
  exact keyedQuad_leaves space path _ _ _

theorem signals_leaves (m : Speedometer K) (space : Space K) :
    Leaves env s fault (m.signals s space)
      (Makes fault [signalsPiece (m.signals?.isSome = true ∧ m.HasFrames env.store)]) := by
  unfold signals HasFrames
  rcases m.signals? with _ | path
  · exact .pure (.nothing (List.forall_mem_singleton.mpr fun h => nomatch h.1))
  refine (imageSize_leaves path).bindOption (.pure .faulty) fun sheet => ?_
  have hframes (count : Nat) (hcount : count ≤ (signalSpeeds (K := K)).length) :
      Leaves env s fault (strip (m.signalFrame s space path sheet.y)
        (fun state => (Element.single .speedometer state).selectedBy
          [.integer 271, .operator .pluginState]) count 0)
        (Makes fault [signalsPiece (count ≠ 0)]) :=
    strip_makesPiece (by decide) (fun k hk => m.signalFrame_leaves space path sheet.y (by omega))
      (fun hasked => hasked) fun e hkind hfunction => ⟨hkind, hfunction⟩
  refine (hframes _ (Nat.min_le_right _ _)).mono fun steps h hshows => h.imp ?_
  refine .cons ⟨fun _ he => he, fun hasked hno => absurd (fun hcount => ?_) hno⟩ .nil
  have hspeeds : (signalSpeeds (K := K)).length = 12 := rfl
  have := hasked.2 path rfl sheet hshows
  omega

theorem pointer_leaves (m : Speedometer K) (space : Space K) :
    Leaves env s fault (m.pointer s space) (Makes fault [m.pointerPiece]) := by
  unfold pointer pointerPiece
  refine .ite (fun h => .pure ?_) fun h => ?_
  · refine lamps_makes (by decide) _ _ _ _ _ _ _ _ fun e he => ?_
    rw [if_pos h]
    exact he
  · refine hand_leaves (by decide) _ _ _ _ _ _ _ fun e he => ?_
    rw [if_neg h]
    exact he

theorem build_leaves (m : Speedometer K) (space : Space K) :
    Leaves env s fault (m.build s space)
      (Makes fault (m.pieces env.store (m.background?.isSome = true)
        (m.signals?.isSome = true ∧ m.HasFrames env.store) (m.cover?.isSome = true))) :=
  dial_leaves (optionalImage_leaves (by decide) _ _ _ _) (m.signals_leaves _)
    (m.pointer_leaves _) (optionalImage_leaves (by decide) _ _ _ _)

end Speedometer

namespace DigitalIndicator

/-- The hundreds, the tens and the units. -/
def pieces (d : DigitalIndicator K) : List (Piece K) :=
  d.digitFunctions.map fun function => ⟨True, (·.IsSelected .digitalIndicator function)⟩

theorem frame_leaves (d : DigitalIndicator K) (space : Space K) (path : Path) (sheetWidth : K)
    (digit index : Nat) :
    Leaves env s fault (d.frame s space path sheetWidth digit index)
      (OrFault fault (·.mesh.IsQuad)) :=
  keyedQuad_leaves space path _ _ _

theorem strips_leaves (d : DigitalIndicator K) (space : Space K) (path : Path) (sheetWidth : K)
    {frames : Nat} (hframes : frames ≠ 0) (digit : Nat) (functions : List (Expr K)) :
    Leaves env s fault (d.strips s space path sheetWidth frames digit functions)
      (Makes fault (functions.map fun function =>
        ⟨True, (·.IsSelected .digitalIndicator function)⟩)) := by
  induction functions generalizing digit with
  | nil => exact .pure .empty
  | cons function functions ih =>
    refine Leaves.bind (P := Makes fault [⟨True, (·.IsSelected .digitalIndicator function)⟩]) ?_
      fun strip => (ih (digit + 1)).bind fun rest => .pure fun hrest hstrip => hstrip.append hrest
    exact strip_makesPiece (by decide) (fun k _ => d.frame_leaves space path sheetWidth digit k)
      (fun _ => hframes) fun e hkind hfunction => ⟨hkind, hfunction⟩

theorem build_leaves (d : DigitalIndicator K) (space : Space K) :
    Leaves env s fault (d.build s space) (Makes fault d.pieces) := by
  unfold build
  rcases d.number? with _ | path
  · exact giveUp_leaves _ .faulty
  refine .ite (fun _ => giveUp_leaves _ .faulty) fun _ => ?_
  refine (imageSize_leaves path).bindFound (.pure .faulty) fun sheet => ?_
  refine .ite (fun _ => giveUp_leaves _ .faulty) fun hframes => ?_
  exact d.strips_leaves space path sheet.x hframes 0 _

end DigitalIndicator

namespace PilotLamp

theorem state_leaves (l : PilotLamp K) (space : Space K) (path : Path) :
    Leaves env s fault (l.state s space path) (OrFault fault (·.mesh.IsQuad)) := by
  unfold state
  exact (texture_leaves _ _).bindFound (.pure fun hfault => hfault)
    fun ⟨texture, size⟩ => Build.frame_leaves _ _ _ _ _

theorem build_leaves (l : PilotLamp K) (space : Space K) :
    Leaves env s fault (l.build s space) (Makes fault [.ofKind .pilotLamp]) := by
  unfold build
  rcases l.turnOn? with _ | turnOn
  · exact giveUp_leaves _ .faulty
  refine (l.state_leaves space turnOn).bindOption (.pure .faulty) fun on => ?_
  rcases l.turnOff? with _ | turnOff
  · exact .pure fun hon => .one (Element.sound_selectedBy _ (by decide) hon) rfl
  refine (l.state_leaves space turnOff).bind fun off? => ?_
  rcases off? with _ | off
  · exact .pure fun _ hon => .one (Element.sound_selectedBy _ (by decide) hon) rfl
  · refine .pure fun hoff hon => .several _ [off] ?_ rfl
    refine Element.sound_frames _ (show ElementKind.pilotLamp.Plain by decide)
      (List.cons_ne_nil _ _) ?_
    exact List.forall_mem_cons.mpr ⟨hon, List.forall_mem_singleton.mpr hoff⟩

end PilotLamp

namespace Watch

/-- The background, which need not be asked for, and the three hands. -/
def pieces (store : TextureStore σ) (w : Watch K) (background : Prop) : List (Piece K) :=
  [imagePiece store .clock background w.background?,
   ⟨True, (·.IsPointer .clock w.tint hourFunction)⟩,
   ⟨True, (·.IsPointer .clock w.tint minuteFunction)⟩,
   ⟨True, (·.IsPointer .clock w.tint secondFunction)⟩]

theorem build_leaves (w : Watch K) (space : Space K) :
    Leaves env s fault (w.build s space)
      (Makes fault (w.pieces env.store (w.background?.isSome = true))) :=
  dial_leaves (optionalImage_leaves (by decide) _ _ _ _)
    (hand_leaves (by decide) _ _ _ _ _ _ _ fun _ he => he)
    (hand_leaves (by decide) _ _ _ _ _ _ _ fun _ he => he)
    (hand_leaves (by decide) _ _ _ _ _ _ _ fun _ he => he)

end Watch

namespace BrakeIndicator

theorem frame_leaves (b : BrakeIndicator K) (space : Space K) (path : Path) (sheetHeight : K)
    (index : Nat) :
    Leaves env s fault (b.frame s space path sheetHeight index)
      (OrFault fault (·.mesh.IsQuad)) :=
  keyedQuad_leaves space path _ _ _

theorem build_leaves (b : BrakeIndicator K) (space : Space K) :
    Leaves env s fault (b.build s space) (Makes fault [.ofKind .brakeIndicator]) := by
  unfold build
  rcases b.image? with _ | path
  · exact giveUp_leaves _ .faulty
  refine .ite (fun _ => giveUp_leaves _ .faulty) fun _ => ?_
  refine (imageSize_leaves path).bindFound (.pure .faulty) fun sheet => ?_
  refine .ite (fun _ => giveUp_leaves _ .faulty) fun hframes => .read ?_
  exact strip_makesPiece (by decide) (fun k _ => b.frame_leaves space path sheet.y k)
    (fun _ => hframes) fun e hkind _ => hkind

end BrakeIndicator

/-! ## Sections -/

section

variable {α : Type} [Readable α]

omit [Arith K] in
theorem buildWith_leaves (hread : Readable.Blames α)
    {build : α → Section → Build K σ (List (Step K))} {P : α → List (Step K) → Prop}
    (h : ∀ a, Leaves env s fault (build a s) (P a)) :
    Leaves env s fault (buildWith α build s) fun steps => P (s.read env.read).value steps ∧
      ((s.read env.read : Noted α).notes ≠ [] → fault) := by
  refine (settings_leaves hread).bind fun a => (h a).mono fun steps hsteps ⟨ha, hnotes⟩ => ?_
  subst ha
  refine ⟨hsteps, fun hne => ?_⟩
  obtain ⟨d, hd⟩ := List.exists_mem_of_ne_nil _ hne
  exact hnotes d hd

end

/-! The keys of the parts that a dial need not have. -/

def backgroundKeys : List String := ["background", "背景"]

def coverKeys : List String := ["cover", "ふた"]

def signalsKeys : List String := ["atc"]

def lowerKeys : List String := ["lowerneedle", "lowerhand", "下針"]

def upperKeys : List String := ["upperneedle", "upperhand", "上針"]

theorem PressureGauge.owned :
    Readable.Owned backgroundKeys (Field.saysAlways RecordAt.image)
      (fun g : PressureGauge K => g.background?) ∧
    Readable.Owned lowerKeys (Field.saysUsable PressureNeedle.read)
      (fun g : PressureGauge K => g.lower?) ∧
    Readable.Owned upperKeys (Field.saysUsable PressureNeedle.read)
      (fun g : PressureGauge K => g.upper?) ∧
    Readable.Owned coverKeys (Field.saysAlways RecordAt.image)
      (fun g : PressureGauge K => g.cover?) := by
  simp [backgroundKeys, lowerKeys, upperKeys, coverKeys, Readable.Owned, Readable.fields, fields,
    Field.image, Field.number, Field.numberOf, Field.angle, pointField, positiveField,
    Field.testedNumber]

theorem Speedometer.owned :
    Readable.Owned backgroundKeys (Field.saysAlways RecordAt.image)
      (fun m : Speedometer K => m.background?) ∧
    Readable.Owned signalsKeys (Field.saysAlways RecordAt.image)
      (fun m : Speedometer K => m.signals?) ∧
    Readable.Owned coverKeys (Field.saysAlways RecordAt.image)
      (fun m : Speedometer K => m.cover?) := by
  simp [backgroundKeys, signalsKeys, coverKeys, Readable.Owned, Readable.fields, fields,
    Field.image, Field.number, Field.numberOf, Field.angle, pointField, positiveField,
    tintField, Field.testedNumber]

theorem Watch.owned :
    Readable.Owned backgroundKeys (Field.saysAlways RecordAt.image)
      (fun w : Watch K => w.background?) := by
  simp [backgroundKeys, Readable.Owned, Readable.fields, fields, Field.image, pointField,
    positiveField, tintField, Field.testedNumber]

/-- An image of a dial, asked for by the last record with its keys. -/
def imagePieceOf (env : ReadEnv) (store : TextureStore σ) (kind : ElementKind)
    (keys : List String) (s : Section) : Piece K :=
  imagePiece store kind (s.Asks keys) (s.image? env keys)

section

variable {α : Type} [Readable α] {keys : List String}

omit [Arith K] in
theorem imagePiece_imp {part : α → Option Path}
    (h : Readable.Owned keys (Field.saysAlways RecordAt.image) part)
    (hinitial : part Readable.initial = none) {env : ReadEnv} (store : TextureStore σ)
    (kind : ElementKind) (hnotes : (s.read env : Noted α).notes ≠ [] → fault) :
    let image? := part (s.read env).value
    (∀ e : Element K, (imagePiece store kind (image?.isSome = true) image?).Shape e →
      (imagePieceOf env store kind keys s).Shape e) ∧
    (s.Asks keys → ¬ image?.isSome = true → fault) := by
  obtain ⟨himage, hheard⟩ := Section.read_image h hinitial env s
  refine ⟨fun e he => ?_, fun hasks hno => hnotes (hheard hasks hno)⟩
  rw [himage] at he
  exact he

end

/-- The pieces of a pressure gauge: a needle is asked for unless a component of its colour is
empty. -/
def PressureGauge.piecesOf (env : ReadEnv) (store : TextureStore σ) (s : Section) :
    List (Piece K) :=
  let g : PressureGauge K := (s.read env).value
  [imagePieceOf env store .pressureGauge backgroundKeys s,
   g.pointerPiece (s.AsksNeedle lowerKeys) g.lower?,
   g.pointerPiece (s.AsksNeedle upperKeys) g.upper?,
   imagePieceOf env store .pressureGauge coverKeys s]

/-- The pieces of a speedometer: the signal lamps are asked for unless their sheet has no frame. -/
def Speedometer.piecesOf (env : ReadEnv) (store : TextureStore σ) (s : Section) :
    List (Piece K) :=
  let m : Speedometer K := (s.read env).value
  [imagePieceOf env store .speedometer backgroundKeys s,
   signalsPiece (s.Asks signalsKeys ∧ m.HasFrames store), m.pointerPiece,
   imagePieceOf env store .speedometer coverKeys s]

/-- The pieces of a watch. -/
def Watch.piecesOf (env : ReadEnv) (store : TextureStore σ) (s : Section) : List (Piece K) :=
  let w : Watch K := (s.read env).value
  [imagePieceOf env store .clock backgroundKeys s,
   ⟨True, (·.IsPointer .clock w.tint hourFunction)⟩,
   ⟨True, (·.IsPointer .clock w.tint minuteFunction)⟩,
   ⟨True, (·.IsPointer .clock w.tint secondFunction)⟩]

theorem PressureGauge.section_leaves (space : Space K) :
    Leaves env s fault (buildWith (PressureGauge K) (fun x s => x.build s space) s)
      (Makes fault (piecesOf env.read env.store s)) := by
  obtain ⟨hbackground, hlower, hupper, hcover⟩ := owned (K := K)
  refine (buildWith_leaves blames fun g => g.build_leaves space).mono
    fun steps ⟨h, hnotes⟩ => h.imp ?_
  refine .cons (imagePiece_imp hbackground rfl _ _ hnotes) (.cons ⟨fun _ he => he, ?_⟩
    (.cons ⟨fun _ he => he, ?_⟩ (.cons (imagePiece_imp hcover rfl _ _ hnotes) .nil)))
  · exact fun hasks hno => hnotes (Section.read_needle hlower rfl env.read s hasks hno)
  · exact fun hasks hno => hnotes (Section.read_needle hupper rfl env.read s hasks hno)

theorem Speedometer.section_leaves (space : Space K) :
    Leaves env s fault (buildWith (Speedometer K) (fun x s => x.build s space) s)
      (Makes fault (piecesOf env.read env.store s)) := by
  obtain ⟨hbackground, hsignals, hcover⟩ := owned (K := K)
  refine (buildWith_leaves blames fun m => m.build_leaves space).mono
    fun steps ⟨h, hnotes⟩ => h.imp ?_
  refine .cons (imagePiece_imp hbackground rfl _ _ hnotes) (.cons ⟨fun _ he => he, ?_⟩
    (.cons ⟨fun _ he => he, fun hasked hno => absurd hasked hno⟩
      (.cons (imagePiece_imp hcover rfl _ _ hnotes) .nil)))
  intro ⟨hasks, hframes⟩ hno
  exact hnotes ((Section.read_image hsignals rfl env.read s).2 hasks fun h => hno ⟨h, hframes⟩)

theorem Watch.section_leaves (space : Space K) :
    Leaves env s fault (buildWith (Watch K) (fun x s => x.build s space) s)
      (Makes fault (piecesOf env.read env.store s)) := by
  refine (buildWith_leaves blames fun w => w.build_leaves space).mono
    fun steps ⟨h, hnotes⟩ => h.imp ?_
  refine .cons (imagePiece_imp owned rfl _ _ hnotes) (List.forall₂_same.mpr fun p _ => ?_)
  exact ⟨fun _ he => he, fun hasked hno => absurd hasked hno⟩

/-- The pieces of an instrument, by the name of its section. -/
def instrumentPieces (env : ReadEnv) (store : TextureStore σ) (s : Section) : List (Piece K) :=
  match s.lowerName with
  | "pressuregauge" | "pressuremeter" | "pressureindicator" | "圧力計" =>
    PressureGauge.piecesOf env store s
  | "speedometer" | "speedindicator" | "速度計" => Speedometer.piecesOf env store s
  | "digitalindicator" | "デジタル速度計" =>
    ((s.read env).value : DigitalIndicator K).pieces
  | "pilotlamp" | "知らせ灯" => [.ofKind .pilotLamp]
  | "watch" | "時計" => Watch.piecesOf env store s
  | "brakeindicator" | "ブレーキ表示灯" => [.ofKind .brakeIndicator]
  | _ => []

theorem instrument_leaves (space : Space K) :
    Leaves env s fault (instrument space s)
      (Makes fault (instrumentPieces env.read env.store s)) := by
  unfold instrument
  split
  case h_1 hname | h_2 hname | h_3 hname | h_4 hname =>
    rw [instrumentPieces, hname]
    exact PressureGauge.section_leaves space
  case h_5 hname | h_6 hname | h_7 hname =>
    rw [instrumentPieces, hname]
    exact Speedometer.section_leaves space
  case h_8 hname | h_9 hname =>
    rw [instrumentPieces, hname]
    exact (buildWith_leaves DigitalIndicator.blames fun d => d.build_leaves space).mono
      fun _ h => h.1
  case h_10 hname | h_11 hname =>
    rw [instrumentPieces, hname]
    exact (buildWith_leaves PilotLamp.blames fun l => l.build_leaves space).mono fun _ h => h.1
  case h_12 hname | h_13 hname =>
    rw [instrumentPieces, hname]
    exact Watch.section_leaves space
  case h_14 hname | h_15 hname =>
    rw [instrumentPieces, hname]
    exact (buildWith_leaves BrakeIndicator.blames fun b => b.build_leaves space).mono
      fun _ h => h.1
  case h_16 =>
    have hpieces : instrumentPieces (K := K) env.read env.store s = [] := by
      simp_all [instrumentPieces]
    rw [hpieces]
    exact .pure .empty

/-! ## Kinds -/

/-- The kind of the instrument that a name stands for. -/
def kindOf? : String → Option ElementKind
  | "pressuregauge" | "pressuremeter" | "pressureindicator" | "圧力計" => some .pressureGauge
  | "speedometer" | "speedindicator" | "速度計" => some .speedometer
  | "digitalindicator" | "デジタル速度計" => some .digitalIndicator
  | "pilotlamp" | "知らせ灯" => some .pilotLamp
  | "watch" | "時計" => some .clock
  | "brakeindicator" | "ブレーキ表示灯" => some .brakeIndicator
  | _ => none

theorem kindOf?_ne_background (name : String) : kindOf? name ≠ some .background := by
  unfold kindOf?
  split <;> simp

section

variable {env : ReadEnv} {store : TextureStore σ}

theorem PressureGauge.kind_piecesOf :
    ∀ p ∈ piecesOf (K := K) env store s, ∀ e, p.Shape e → e.kind = .pressureGauge := by
  simp only [piecesOf, List.forall_mem_cons]
  exact ⟨fun _ ⟨_, _, he⟩ => he.kind, fun _ ⟨_, _, he⟩ => he.kind, fun _ ⟨_, _, he⟩ => he.kind,
    fun _ ⟨_, _, he⟩ => he.kind, List.forall_mem_nil _⟩

theorem Speedometer.kind_piecesOf :
    ∀ p ∈ piecesOf (K := K) env store s, ∀ e, p.Shape e → e.kind = .speedometer := by
  simp only [piecesOf, List.forall_mem_cons]
  exact ⟨fun _ ⟨_, _, he⟩ => he.kind, fun _ he => he.kind, fun _ he => he.kind,
    fun _ ⟨_, _, he⟩ => he.kind, List.forall_mem_nil _⟩

omit [Arith K] in
theorem DigitalIndicator.kind_pieces (d : DigitalIndicator K) :
    ∀ p ∈ d.pieces, ∀ e, p.Shape e → e.kind = .digitalIndicator := by
  intro p hp e he
  obtain ⟨function, -, rfl⟩ := List.mem_map.mp hp
  exact he.kind

theorem Watch.kind_piecesOf :
    ∀ p ∈ piecesOf (K := K) env store s, ∀ e, p.Shape e → e.kind = .clock := by
  simp only [piecesOf, List.forall_mem_cons]
  exact ⟨fun _ ⟨_, _, he⟩ => he.kind, fun _ he => he.kind, fun _ he => he.kind,
    fun _ he => he.kind, List.forall_mem_nil _⟩

/-- The pieces of an instrument are of its kind. -/
theorem kind_instrumentPieces :
    ∀ p ∈ instrumentPieces (K := K) env store s, ∀ e, p.Shape e →
      kindOf? s.lowerName = some e.kind := by
  unfold instrumentPieces
  split
  case h_1 hname | h_2 hname | h_3 hname | h_4 hname =>
    rw [hname]
    exact fun p hp e he => congrArg some (PressureGauge.kind_piecesOf p hp e he).symm
  case h_5 hname | h_6 hname | h_7 hname =>
    rw [hname]
    exact fun p hp e he => congrArg some (Speedometer.kind_piecesOf p hp e he).symm
  case h_8 hname | h_9 hname =>
    rw [hname]
    exact fun p hp e he => congrArg some (DigitalIndicator.kind_pieces _ p hp e he).symm
  case h_10 hname | h_11 hname =>
    rw [hname]
    exact List.forall_mem_singleton.mpr fun e he => congrArg some (Eq.symm he)
  case h_12 hname | h_13 hname =>
    rw [hname]
    exact fun p hp e he => congrArg some (Watch.kind_piecesOf p hp e he).symm
  case h_14 hname | h_15 hname =>
    rw [hname]
    exact List.forall_mem_singleton.mpr fun e he => congrArg some (Eq.symm he)
  case h_16 => exact List.forall_mem_nil _

end

/-! ## All sections -/

/-- The pieces of a section of a framed panel. -/
def piecesOf (env : ReadEnv) (store : TextureStore σ) (s : Section) : List (Piece K) :=
  match heading (K := K) env s with
  | .background b => [b.piece env store]
  | .view _ => []
  | .instrument => instrumentPieces env store s

theorem part_leaves (space : Space K) (frame : Frame K) :
    Leaves env s fault (part space frame s (heading env.read s))
      (Makes fault (piecesOf env.read env.store s)) := by
  unfold piecesOf
  rcases heading env.read s with b | v | _
  · exact b.build_leaves space frame
  · exact .pure .empty
  · exact instrument_leaves space

end Framed

end DriverDesk
