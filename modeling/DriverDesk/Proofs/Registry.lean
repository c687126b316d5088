import Mathlib.Data.List.Induction
import DriverDesk.Host.ImageStore

/-!
# A store that knows its textures again

The store of images is asked for one texture after the other, and the images may change in
between: every request comes with what a reader tells of them at the time, and nothing is
assumed of any reader. `answer` is what one request does to the textures, `after` what a run
of requests leaves of an empty store.
-/

namespace DriverDesk

/-- The textures are the same image, used in the same way. -/
def Registered.Same (t u : Registered) : Prop :=
  t.path.components = u.path.components ∧ t.params = u.params

namespace ImageStore

/-- A texture that is asked for, with the images as they are at the time. -/
structure Request where
  reader : ImageReader
  path : Path
  params : TextureParams

namespace Request

variable (r : Request) (textures : List Registered)

/-- The size of the image; none when it is missing or not readable. -/
def image? : Option PixelSize := r.reader r.path

def answer : Option TextureId × List Registered := register r.reader textures r.path r.params

/-- The request is for the image of a texture, used in the same way. -/
def IsFor (t : Registered) : Prop := t.path.components = r.path.components ∧ t.params = r.params

end Request

/-- The textures of an empty store after some requests. -/
def after (requests : List Request) : List Registered :=
  requests.foldl (fun textures r => (r.answer textures).2) []

/-- A texture has the size of its image, or of the part of the image that lies in its clip. The
differences are those of integers: a clip begins inside the image, so neither is negative. -/
def ShowsPart (image : PixelSize) (clip? : Option Clip) (size : PixelSize) : Prop :=
  match clip? with
  | none => size = image
  | some c =>
    c.left < image.width ∧ c.top < image.height ∧
    c.left + size.width ≤ image.width ∧ c.top + size.height ≤ image.height ∧
    size.width ≤ c.width ∧ size.height ≤ c.height ∧
    (size.width : Int) = min (c.width : Int) (image.width - c.left) ∧
    (size.height : Int) = min (c.height : Int) (image.height - c.top)

/-- The clip, if there is one, begins inside the image. -/
def BeginsInside (image : PixelSize) (clip? : Option Clip) : Prop :=
  ∀ c ∈ clip?, c.left < image.width ∧ c.top < image.height

/-- The texture was put under its place by one of the requests, for the image of that time. -/
def RegisteredBy (requests : List Request) (id : TextureId) (t : Registered) : Prop :=
  ∃ before r rest image, requests = before ++ r :: rest ∧
    r.answer (after before) = (some id, after before ++ [t]) ∧
    t.path = r.path ∧ t.params = r.params ∧
    r.image? = some image ∧ ShowsPart image t.params.clip? t.size

theorem showsPart_of_clippedSize? {image size : PixelSize} {clip? : Option Clip}
    (h : clippedSize? image clip? = some size) : ShowsPart image clip? size := by
  cases clip? with
  | none => exact (Option.some.inj h).symm
  | some c =>
    simp only [clippedSize?] at h
    split at h
    · cases h
    · next hinside =>
      obtain ⟨hleft, htop⟩ : c.left < image.width ∧ c.top < image.height := by omega
      obtain rfl := Option.some.inj h
      refine ⟨hleft, htop, ?_, ?_, Nat.min_le_left _ _, Nat.min_le_left _ _, ?_, ?_⟩
      · show c.left + min c.width (image.width - c.left) ≤ image.width
        omega
      · show c.top + min c.height (image.height - c.top) ≤ image.height
        omega
      · show ((min c.width (image.width - c.left) : Nat) : Int) = _
        omega
      · show ((min c.height (image.height - c.top) : Nat) : Int) = _
        omega

example : clippedSize? ⟨24, 110⟩ (some ⟨0, 100, 24, 16⟩) = some ⟨24, 10⟩ := by decide

theorem clippedSize?_isSome {image : PixelSize} {clip? : Option Clip}
    (h : BeginsInside image clip?) : (clippedSize? image clip?).isSome := by
  cases clip? with
  | none => rfl
  | some c =>
    obtain ⟨hleft, htop⟩ := h c rfl
    have hinside : ¬ (image.width ≤ c.left ∨ image.height ≤ c.top) := by omega
    rw [clippedSize?, if_neg hinside]
    rfl

/-! ## Knowing a texture again -/

variable {r r' : Request} {textures more : List Registered} {id : TextureId}

/-- The test by which the store knows a texture again. -/
theorem isFor_iff {t : Registered} :
    (t.params == r.params && t.path.same r.path) = true ↔ r.IsFor t := by
  simp only [Request.IsFor, Path.same, Bool.and_eq_true, beq_iff_eq, decide_eq_true_eq]
  exact and_comm

theorem known?_eq_some (h : known? textures r.path r.params = some id) :
    ∃ t, textures[id]? = some t ∧ r.IsFor t := by
  obtain ⟨hid, hfor, -⟩ := List.findIdx?_eq_some_iff_getElem.mp h
  exact ⟨textures[id], List.getElem?_eq_getElem hid, isFor_iff.mp hfor⟩

theorem known?_eq_none :
    known? textures r.path r.params = none ↔ ∀ t ∈ textures, ¬ r.IsFor t := by
  rw [known?, List.findIdx?_eq_none_iff]
  refine forall₂_congr fun t _ => ?_
  rw [← Bool.not_eq_true, isFor_iff]

/-- A texture that is known stays known by its place. -/
theorem known?_append (h : known? textures r.path r.params = some id) :
    known? (textures ++ more) r.path r.params = some id := by
  rw [known?] at h ⊢
  rw [List.findIdx?_append, h]
  rfl

/-- Paths that mean the same file are one to the store. -/
theorem known?_congr (hpath : r'.path.components = r.path.components)
    (hparams : r'.params = r.params) :
    known? textures r'.path r'.params = known? textures r.path r.params := by
  simp only [known?, Path.same, hpath, hparams]

theorem answer_known (h : known? textures r.path r.params = some id) :
    r.answer textures = (some id, textures) := by
  rw [Request.answer, register, h]

/-! ## One request -/

/-- What a request can do: find its texture, add it, or neither. -/
theorem answer_cases (r : Request) (textures : List Registered) :
    (∃ id, known? textures r.path r.params = some id ∧ r.answer textures = (some id, textures)) ∨
    (∃ image size, r.image? = some image ∧ clippedSize? image r.params.clip? = some size ∧
      (∀ t ∈ textures, ¬ r.IsFor t) ∧
      r.answer textures = (some textures.length, textures ++ [⟨r.path, r.params, size⟩])) ∨
    ((∀ image ∈ r.image?, clippedSize? image r.params.clip? = none) ∧
      r.answer textures = (none, textures)) := by
  cases hknown : known? textures r.path r.params with
  | some id => exact .inl ⟨id, rfl, answer_known hknown⟩
  | none =>
    refine .inr ?_
    cases himage : r.reader r.path with
    | none =>
      refine .inr ⟨fun _ h => (nomatch himage.symm.trans h), ?_⟩
      rw [Request.answer, register]
      simp only [hknown, himage, Option.bind_none]
    | some image =>
      cases hsize : clippedSize? image r.params.clip? with
      | none =>
        refine .inr ⟨fun _ h => Option.some.inj (himage.symm.trans h) ▸ hsize, ?_⟩
        rw [Request.answer, register]
        simp only [hknown, himage, Option.bind_some, hsize]
      | some size =>
        refine .inl ⟨image, size, himage, hsize, known?_eq_none.mp hknown, ?_⟩
        rw [Request.answer, register]
        simp only [hknown, himage, Option.bind_some, hsize]

theorem prefix_answer (r : Request) (textures : List Registered) :
    textures <+: (r.answer textures).2 := by
  obtain ⟨_, _, h⟩ | ⟨_, _, _, _, _, h⟩ | ⟨_, h⟩ := answer_cases r textures
  · exact h ▸ List.prefix_rfl
  · exact h ▸ List.prefix_append _ _
  · exact h ▸ List.prefix_rfl

/-- A texture that was granted is known from then on. -/
theorem known?_of_granted (h : (r.answer textures).1 = some id) :
    known? (r.answer textures).2 r.path r.params = some id := by
  obtain ⟨id', hknown, h'⟩ | ⟨_, size, _, _, hnew, h'⟩ | ⟨_, h'⟩ := answer_cases r textures
  · rw [h'] at h ⊢
    exact hknown.trans h
  · rw [h'] at h ⊢
    have hnone := known?_eq_none.mpr hnew
    have hfor := isFor_iff.mpr (⟨rfl, rfl⟩ : r.IsFor ⟨r.path, r.params, size⟩)
    rw [known?] at hnone ⊢
    rw [List.findIdx?_append, hnone, List.findIdx?_singleton, if_pos hfor]
    simpa using h
  · rw [h'] at h
    cases h

/-! ## Runs of requests -/

theorem after_concat (requests : List Request) (r : Request) :
    after (requests ++ [r]) = (r.answer (after requests)).2 := by
  rw [after, List.foldl_append]
  rfl

theorem prefix_after (requests later : List Request) :
    after requests <+: after (requests ++ later) := by
  induction later using List.reverseRecOn with
  | nil => exact (List.append_nil requests).symm ▸ List.prefix_rfl
  | append_singleton later r ih =>
    rw [← List.append_assoc, after_concat]
    exact ih.trans (prefix_answer r _)

theorem pairwise_after (requests : List Request) :
    (after requests).Pairwise fun t u => ¬ t.Same u := by
  induction requests using List.reverseRecOn with
  | nil => exact .nil
  | append_singleton requests r ih =>
    rw [after_concat]
    obtain ⟨_, _, h⟩ | ⟨_, _, _, _, hnew, h⟩ | ⟨_, h⟩ := answer_cases r (after requests) <;> rw [h]
    · exact ih
    · refine List.pairwise_append.mpr ⟨ih, List.pairwise_singleton _ _, fun t ht u hu => ?_⟩
      obtain rfl := List.mem_singleton.mp hu
      exact hnew t ht
    · exact ih

theorem RegisteredBy.concat {requests : List Request} {t : Registered}
    (h : RegisteredBy requests id t) (r : Request) : RegisteredBy (requests ++ [r]) id t := by
  obtain ⟨before, r', rest, image, rfl, hanswer⟩ := h
  exact ⟨before, r', rest ++ [r], image, List.append_assoc _ _ _, hanswer⟩

theorem registeredBy (requests : List Request) (id : TextureId) (t : Registered)
    (h : (after requests)[id]? = some t) : RegisteredBy requests id t := by
  induction requests using List.reverseRecOn with
  | nil => exact nomatch h
  | append_singleton requests r ih =>
    rw [after_concat] at h
    obtain ⟨_, _, hr⟩ | ⟨image, size, himage, hsize, _, hr⟩ | ⟨_, hr⟩ :=
      answer_cases r (after requests) <;> rw [hr] at h
    · exact (ih h).concat r
    · rcases Nat.lt_or_ge id (after requests).length with hid | hid
      · rw [List.getElem?_append_left hid] at h
        exact (ih h).concat r
      · have hlast := (List.getElem?_append_right hid).symm.trans h
        rw [List.getElem?_singleton] at hlast
        split at hlast
        · next hzero =>
          obtain rfl := Option.some.inj hlast
          obtain rfl : id = (after requests).length :=
            Nat.le_antisymm (Nat.sub_eq_zero_iff_le.mp hzero) hid
          exact ⟨requests, r, [], image, rfl, hr, rfl, rfl, himage,
            showsPart_of_clippedSize? hsize⟩
        · cases hlast
    · exact (ih h).concat r

/-- The store of images at any time, whatever reads them: textures are kept for ever under their
places, none is there twice, each shows what its image was when it was registered, and a request
for a texture that was granted once gets it again. -/
theorem knows_textures_again (requests : List Request) :
    (∀ later, after requests <+: after (requests ++ later)) ∧
    (∀ later (id : TextureId) t, (after requests)[id]? = some t →
      (after (requests ++ later))[id]? = some t ∧
      Registered.sizeOf? (after (requests ++ later)) id = some t.size) ∧
    ((after requests).Pairwise fun t u => ¬ t.Same u) ∧
    (∀ (id : TextureId) t, (after requests)[id]? = some t → RegisteredBy requests id t) ∧
    ∀ r : Request,
      ((r.answer (after requests)).1 = none → (r.answer (after requests)).2 = after requests) ∧
      (∀ image, r.image? = some image → BeginsInside image r.params.clip? →
        (r.answer (after requests)).1.isSome) ∧
      ∀ id, (r.answer (after requests)).1 = some id →
        (∃ t, (r.answer (after requests)).2[id]? = some t ∧ r.IsFor t) ∧
        ∀ later (r' : Request), r'.path.components = r.path.components → r'.params = r.params →
          r'.answer (after (requests ++ r :: later)) =
            (some id, after (requests ++ r :: later)) := by
  have kept (later : List Request) (id : TextureId) (t : Registered)
      (h : (after requests)[id]? = some t) : (after (requests ++ later))[id]? = some t := by
    obtain ⟨more, hmore⟩ := prefix_after requests later
    obtain ⟨hid, -⟩ := List.getElem?_eq_some_iff.mp h
    rw [← hmore, List.getElem?_append_left hid, h]
  refine ⟨prefix_after requests, fun later id t h => ⟨kept later id t h, ?_⟩,
    pairwise_after requests, registeredBy requests, fun r => ⟨?_, ?_, ?_⟩⟩
  · rw [Registered.sizeOf?, kept later id t h]
    rfl
  · intro hnone
    obtain ⟨_, _, h⟩ | ⟨_, _, _, _, _, h⟩ | ⟨_, h⟩ := answer_cases r (after requests) <;>
      rw [h] at hnone ⊢; cases hnone
  · intro image himage hinside
    obtain ⟨_, _, h⟩ | ⟨_, _, _, _, _, h⟩ | ⟨hunusable, h⟩ := answer_cases r (after requests)
    · rw [h]
      rfl
    · rw [h]
      rfl
    · have husable := clippedSize?_isSome hinside
      rw [hunusable image himage] at husable
      cases husable
  · intro id hid
    have hknown := known?_of_granted hid
    refine ⟨known?_eq_some hknown, fun later r' hpath hparams => answer_known ?_⟩
    rw [known?_congr hpath hparams]
    obtain ⟨more, hmore⟩ := prefix_after (requests ++ [r]) later
    rw [List.append_cons, ← hmore, after_concat]
    exact known?_append hknown

end ImageStore

end DriverDesk
