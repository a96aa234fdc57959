import Conveyance.Proofs.FileName
import Conveyance.Proofs.Files.Extension

/-!
# Proofs/ImageFormat — the format that the name of a letterhead tells

The image of a letterhead is attached under a name of its own, and of the path that it was read from only
the extension is left.  `ImageFormat` goes through the shapes of a path and says which format each
stands for: **every path has one format, by which images can be called** (`exists_imageFormat`,
`ImageFormat.unique`, `ImageFormat.isFormat`).  The name of the letterhead tells this format unless the
name of the file ends with a dot; then it ends with a dot itself and tells none
(`letterheadName_tellsFormat_iff`).
-/

namespace Conveyance.FileName

open Conveyance.Path (LeadsTo HasExtension)

variable {path format format' e : Text}

/-! ## Formats -/

/-- A text that a format of images can be called by: **small letters and digits**, one at least. -/
structure IsFormat (t : Text) : Prop where
  ne_nil : t ≠ []
  char : ∀ c ∈ t, (c.isLower || c.isDigit) = true

/-- **The format that a path stands for**: its extension in small letters, if that is not empty and
all letters and digits, and PNG otherwise. -/
inductive ImageFormat (path : Text) : Text → Prop where
  | extension {e : Text} (h : HasExtension path e) (hne : e ≠ [])
      (hplain : ∀ c ∈ e, c.isAlphanum = true) : ImageFormat path (Text.asciiLower e)
  /-- The path leads to no file: it takes no steps, or the last one leads up. -/
  | nameless (h : ∀ name, ¬ LeadsTo path name) : ImageFormat path "png".toList
  /-- The name has no dot, or only the one at its start that hides a file. -/
  | undivided {name : Text} (h : LeadsTo path name) (hdot : '.' ∉ name.tail) :
      ImageFormat path "png".toList
  /-- Nothing stands behind the last dot of the name. -/
  | blank (h : HasExtension path []) : ImageFormat path "png".toList
  /-- The extension has a character that is no letter or digit. -/
  | strange {e : Text} {c : Char} (h : HasExtension path e) (hc : c ∈ e)
      (hstrange : c.isAlphanum = false) : ImageFormat path "png".toList

/-- **Every path is of one of these shapes.** -/
theorem exists_imageFormat (path : Text) : ∃ format, ImageFormat path format := by
  by_cases hname : ∃ name, LeadsTo path name
  · obtain ⟨name, hname⟩ := hname
    by_cases hdot : '.' ∈ name.tail
    · obtain ⟨e, he⟩ := hname.hasExtension_iff.2 hdot
      by_cases hne : e = []
      · exact ⟨_, .blank (hne ▸ he)⟩
      · by_cases hplain : ∃ c ∈ e, c.isAlphanum = false
        · obtain ⟨c, hc, hstrange⟩ := hplain
          exact ⟨_, .strange he hc hstrange⟩
        · refine ⟨_, .extension he hne fun c hc => ?_⟩
          rw [← Bool.not_eq_false]
          exact fun hstrange => hplain ⟨c, hc, hstrange⟩
    · exact ⟨_, .undivided hname hdot⟩
  · exact ⟨_, .nameless (not_exists.1 hname)⟩

theorem isLower_or_isDigit_toLower {c : Char} (h : c.isAlphanum = true) :
    (c.toLower.isLower || c.toLower.isDigit) = true :=
  of_isAlphanum (p := fun c => c.toLower.isLower || c.toLower.isDigit) (by decide +kernel) h

theorem isFormat_png : IsFormat "png".toList := ⟨by decide, List.all_eq_true.1 (by decide)⟩

/-- **Images can be called by the format of any path.** -/
theorem ImageFormat.isFormat (h : ImageFormat path format) : IsFormat format := by
  cases h with
  | extension _ hne hplain =>
    exact ⟨mt List.map_eq_nil_iff.1 hne,
      List.forall_mem_map.2 fun c hc => isLower_or_isDigit_toLower (hplain c hc)⟩
  | nameless | undivided | blank | strange => exact isFormat_png

/-! ## Reading the extension -/

theorem imageExtension_of_hasExtension (h : HasExtension path e) : imageExtension path =
    if e.all Char.isAlphanum then Text.asciiLower e else "png".toList := by
  rw [imageExtension, Path.extension?_eq_some_iff.2 h, Option.filter_some]
  cases e.all Char.isAlphanum <;> rfl

theorem imageExtension_of_forall_not (h : ∀ e, ¬ HasExtension path e) :
    imageExtension path = "png".toList := by
  have hnone : Path.extension? path = none :=
    Option.eq_none_iff_forall_ne_some.2 fun e he => h e (Path.extension?_eq_some_iff.1 he)
  rw [imageExtension, hnone]
  rfl

/-- **An empty extension is kept**: nothing in it is anything but a letter or digit. -/
theorem imageExtension_of_blank (h : HasExtension path []) : imageExtension path = [] :=
  imageExtension_of_hasExtension h

/-- **An extension that is not empty gives the format of the path**, and so does none. -/
theorem ImageFormat.imageExtension_eq (h : ImageFormat path format) (hblank : ¬ HasExtension path []) :
    imageExtension path = format := by
  cases h with
  | extension h _ hplain =>
    rw [imageExtension_of_hasExtension h, if_pos (List.all_eq_true.2 hplain)]
  | nameless h =>
    refine imageExtension_of_forall_not ?_
    rintro e ⟨stem, -, -, hname⟩
    exact h _ hname
  | undivided h hdot =>
    exact imageExtension_of_forall_not fun e he => hdot (h.hasExtension_iff.1 ⟨e, he⟩)
  | blank h => exact absurd h hblank
  | strange h hc hstrange =>
    refine (imageExtension_of_hasExtension h).trans (if_neg fun hall => ?_)
    rw [List.all_eq_true.1 hall _ hc] at hstrange
    cases hstrange

theorem ImageFormat.eq_png (h : ImageFormat path format) (hblank : HasExtension path []) :
    format = "png".toList := by
  cases h with
  | extension h hne => exact absurd (h.unique hblank) hne
  | nameless | undivided | blank | strange => rfl

/-- **A path stands for one format.** -/
theorem ImageFormat.unique (h : ImageFormat path format) (h' : ImageFormat path format') :
    format = format' := by
  by_cases hblank : HasExtension path []
  · rw [h.eq_png hblank, h'.eq_png hblank]
  · rw [← h.imageExtension_eq hblank, h'.imageExtension_eq hblank]

/-! ## The name of a letterhead -/

theorem letterheadName_eq (path : Text) :
    letterheadName path = 'l' :: ("etterhead.".toList ++ imageExtension path) := rfl

theorem notMem_imageExtension {c : Char} (hc : isPlain c = false) (path : Text) :
    c ∉ imageExtension path := fun h => by
  rw [isPlain_of_mem_imageExtension path c h] at hc
  cases hc

/-- **The image of a letterhead stays in its directory**, under the name that it is attached by. -/
theorem isFileName_letterheadName (path : Text) : Path.IsFileName (letterheadName path) := by
  rw [letterheadName_eq]
  refine Path.isFileName_iff.2 ⟨?_, rfl, nofun⟩
  rw [← List.cons_append, List.mem_append, not_or]
  exact ⟨by decide, notMem_imageExtension (by decide) path⟩

/-- **Whoever reads the extension of the name reads that of the image.** -/
theorem hasExtension_letterheadName (path : Text) :
    HasExtension (letterheadName path) (imageExtension path) :=
  ⟨"letterhead".toList, by decide, notMem_imageExtension (by decide) path,
    (isFileName_letterheadName path).leadsTo⟩

/-- **The name of a letterhead tells the format of its image, unless the file's name ends with a dot.**
A path stands for exactly one format, and images can be called by it.  The name of the letterhead is made
of it, and has it for its extension, exactly when the path does not have the empty extension; otherwise
nothing stands behind the dot. -/
theorem letterheadName_tellsFormat_iff (path : Text) :
    ∃ format, (∀ format', ImageFormat path format' ↔ format' = format) ∧ IsFormat format ∧
      (letterheadName path = "letterhead.".toList ++ format ↔ ¬ HasExtension path []) ∧
      (HasExtension (letterheadName path) format ↔ ¬ HasExtension path []) ∧
      (letterheadName path = "letterhead.".toList ↔ HasExtension path []) := by
  obtain ⟨format, hformat⟩ := exists_imageFormat path
  have hne := hformat.isFormat.ne_nil
  refine ⟨format, fun format' => ⟨fun h => h.unique hformat, fun h => h ▸ hformat⟩,
    hformat.isFormat, ?_⟩
  -- all that follows is about the extension of the image
  have hmade : ∀ e, letterheadName path = "letterhead.".toList ++ e ↔ imageExtension path = e :=
    fun e => List.append_right_inj _
  have htold : HasExtension (letterheadName path) format ↔ imageExtension path = format :=
    ⟨(hasExtension_letterheadName path).unique, fun h => h ▸ hasExtension_letterheadName path⟩
  have hnone : letterheadName path = "letterhead.".toList ↔ imageExtension path = [] := hmade []
  rw [hmade, htold, hnone]
  by_cases hblank : HasExtension path []
  · rw [imageExtension_of_blank hblank]
    simp [hblank, hne.symm]
  · rw [hformat.imageExtension_eq hblank]
    simp [hblank, hne]

/-- Directories with dots, a name that starts with dots, and an end that leads nowhere. -/
theorem letterheadName_tellsFormat_scan :
    let path : Text := "/srv/acme.d/..Scan.2.JPEG/.//".toList
    ¬ HasExtension path [] ∧ ImageFormat path "jpeg".toList ∧
      letterheadName path = "letterhead.jpeg".toList ∧
      HasExtension (letterheadName path) "jpeg".toList := by
  intro path
  have hextension : HasExtension path "JPEG".toList :=
    Path.extension?_eq_some_iff.1 (by decide +kernel)
  have hblank : ¬ HasExtension path [] := fun h => absurd (hextension.unique h) (by decide)
  have hjpeg : ImageFormat path "jpeg".toList :=
    .extension hextension (by decide) (List.all_eq_true.1 (by decide))
  obtain ⟨format, hformat, -, hname, htold, -⟩ := letterheadName_tellsFormat_iff path
  obtain rfl := (hformat _).1 hjpeg
  exact ⟨hblank, hjpeg, hname.2 hblank, htold.2 hblank⟩

/-- **A name that ends with a dot leaves the letterhead without a format**, where it stands for PNG. -/
theorem letterheadName_finalDot :
    let path : Text := "/srv/acme/head.".toList
    ImageFormat path "png".toList ∧ letterheadName path = "letterhead.".toList ∧
      ¬ ∃ format, IsFormat format ∧ letterheadName path = "letterhead.".toList ++ format := by
  intro path
  have hblank : HasExtension path [] := Path.extension?_eq_some_iff.1 (by decide +kernel)
  have hname : letterheadName path = "letterhead.".toList := by decide +kernel
  refine ⟨.blank hblank, hname, ?_⟩
  rintro ⟨format, hformat, heq⟩
  rw [hname] at heq
  exact hformat.ne_nil (List.self_eq_append_right.1 heq)

end Conveyance.FileName
