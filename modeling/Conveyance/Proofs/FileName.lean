import Conveyance.FileName
import Conveyance.Proofs.Text.Numeral

/-!
# Proofs/FileName — what the names of documents are made of

A document's file name is its `stem` and an extension.  But for the sign of a year all of a stem is
small letters, digits and dashes (`forall_mem_stem`), so **a stem holds letters, digits, dashes and
plus signs** (`isPlain_of_mem_stem`), whatever the document is called, and names one file of one
directory; and since all have one extension, different names have different stems.  The extension of a
letterhead's image is as plain (`isPlain_of_mem_imageExtension`).
-/

namespace Conveyance.FileName

/-- The characters of stems. -/
def isPlain (c : Char) : Bool := c.isAlphanum || c == '-' || c == '+'

/-- Small letters, digits and dashes. -/
def isSmall (c : Char) : Bool := c.isLower || c.isDigit || c == '-'

/-- The digits that random numbers are written with. -/
def hexDigits : Text := "0123456789abcdef".toList

/-- **The random part is eight hexadecimal digits.** -/
def Stamp.IsDrawn (s : Stamp) : Prop := s.nonce.length = 8 ∧ ∀ c ∈ s.nonce, c ∈ hexDigits

-- The instance is named because `Char` is finite: another one runs through every character.
instance (s : Stamp) : Decidable s.IsDrawn :=
  haveI : Decidable (∀ c ∈ s.nonce, c ∈ hexDigits) := List.decidableBAll _ _
  inferInstanceAs (Decidable (_ ∧ _))

/-- The file name of a document without its extension. -/
def stem (type : DocumentType) (name : Text) (stamp : Stamp) : Text :=
  Text.replaceChar '_' ['-'] type.name ++ '-' :: slug name "document".toList ++
    '-' :: stamp.moment.stamp ++ '-' :: stamp.nonce

theorem documentName_eq (type : DocumentType) (name : Text) (stamp : Stamp) :
    documentName type name stamp = stem type name stamp ++ '.' :: "pdf".toList := rfl

theorem stem_ne_nil (type : DocumentType) (name : Text) (stamp : Stamp) :
    stem type name stamp ≠ [] := by
  simp [stem]

/-! ## Characters -/

theorem toNat_lt_of_isAlphanum {c : Char} (h : c.isAlphanum = true) : c.toNat < 128 := by
  obtain halpha | hdigit := Bool.or_eq_true_iff.1 h
  · obtain hupper | hlower := Bool.or_eq_true_iff.1 halpha
    · have hle : c.toNat ≤ 'Z'.toNat := (of_decide_eq_true hupper).2
      exact Nat.lt_of_le_of_lt hle (by decide)
    · have hle : c.toNat ≤ 'z'.toNat := of_decide_eq_true (Bool.and_eq_true_iff.1 hlower).2
      exact Nat.lt_of_le_of_lt hle (by decide)
  · exact Nat.lt_of_le_of_lt (Char.isDigit_iff_toNat.1 hdigit).2 (by decide)

/-- What holds of the letters and digits of ASCII is checked on its first half. -/
theorem of_isAlphanum {p : Char → Bool}
    (hall : ∀ n < 128, (Char.ofNat n).isAlphanum = true → p (Char.ofNat n) = true) {c : Char}
    (h : c.isAlphanum = true) : p c = true := by
  rw [← Char.ofNat_toNat c] at h ⊢
  exact hall c.toNat (toNat_lt_of_isAlphanum (Char.ofNat_toNat c ▸ h)) h

theorem isSmall_toLower {c : Char} (h : c.isAlphanum = true) : isSmall c.toLower = true :=
  of_isAlphanum (p := fun c => isSmall c.toLower) (by decide +kernel) h

theorem isPlain_of_isSmall {c : Char} (h : isSmall c = true) : isPlain c = true := by
  simp only [isSmall, Bool.or_eq_true] at h
  obtain (hlower | hdigit) | hdash := h
  · have halpha : c.isAlpha = true := Bool.or_eq_true_iff.2 (.inr hlower)
    simp [isPlain, Char.isAlphanum, halpha]
  · simp [isPlain, Char.isAlphanum, hdigit]
  · simp [isPlain, hdash]

theorem isSmall_of_isDigit {c : Char} (h : c.isDigit = true) : isSmall c = true := by
  simp [isSmall, h]

theorem isSmall_of_mem_asciiLower {t : Text} (h : t.all Char.isAlphanum = true) :
    ∀ c ∈ Text.asciiLower t, isSmall c = true :=
  List.forall_mem_map.2 fun c hc => isSmall_toLower (List.all_eq_true.1 h c hc)

theorem isSmall_of_mem_slugFrom {started gap : Bool} {name : Text} :
    ∀ c ∈ slugFrom started gap name, isSmall c = true := by
  fun_induction slugFrom started gap name with
  | case1 => nofun
  | case2 started gap c t hc ih =>
    intro d hd
    rcases List.mem_append.1 hd with hd | hd
    · split at hd
      · rw [List.mem_singleton.1 hd]
        rfl
      · cases hd
    · rcases List.mem_cons.1 hd with rfl | hd
      · exact isSmall_toLower hc
      · exact ih d hd
  | case3 started gap c t _ ih => exact ih

theorem isSmall_of_mem_slug {name : Text} : ∀ c ∈ slug name "document".toList, isSmall c = true := by
  unfold slug
  dsimp only
  split
  · exact List.all_eq_true.1 (by decide)
  · exact isSmall_of_mem_slugFrom

theorem isSmall_of_mem_padLeft {width n : Nat} :
    ∀ c ∈ Text.padLeft '0' width (Text.ofNat n), isSmall c = true :=
  fun _ hc => isSmall_of_isDigit (Text.isDigit_of_mem_padLeft hc)

theorem isPlain_of_mem_yearText {year : Int} : ∀ c ∈ Date.yearText year, isPlain c = true := by
  have hdigits : ∀ c ∈ Text.padLeft '0' 4 (Text.ofNat year.natAbs), isPlain c = true :=
    fun c hc => isPlain_of_isSmall (isSmall_of_mem_padLeft c hc)
  unfold Date.yearText
  dsimp only
  split
  · exact hdigits
  · refine List.forall_mem_cons.2 ⟨?_, hdigits⟩
    split <;> rfl

/-- **All but the year of a stem is small letters, digits and dashes.** -/
theorem forall_mem_stem (type : DocumentType) (name : Text) {stamp : Stamp} (h : stamp.IsDrawn)
    {p : Char → Prop} (hsmall : ∀ c, isSmall c = true → p c)
    (hyear : ∀ c ∈ Date.yearText stamp.moment.date.year, p c) :
    ∀ c ∈ stem type name stamp, p c := by
  have hword : (Text.replaceChar '_' ['-'] type.name).all isSmall = true := by
    cases type <;> decide
  have hdigits : hexDigits.all isSmall = true := by decide
  have hdash : p '-' := hsmall '-' rfl
  have htwo : ∀ n, ∀ c ∈ Date.twoDigits n, p c := fun _ c hc => hsmall c (isSmall_of_mem_padLeft c hc)
  simp only [stem, Instant.stamp, List.forall_mem_append, List.forall_mem_cons]
  exact ⟨⟨⟨fun c hc => hsmall c (List.all_eq_true.1 hword c hc), hdash,
      fun c hc => hsmall c (isSmall_of_mem_slug c hc)⟩,
    hdash, ⟨⟨⟨⟨⟨hyear, htwo _⟩, htwo _⟩, hdash, htwo _⟩, htwo _⟩, htwo _⟩⟩,
    hdash, fun c hc => hsmall c (List.all_eq_true.1 hdigits c (h.2 c hc))⟩

/-- **A stem is made of plain characters.** -/
theorem isPlain_of_mem_stem (type : DocumentType) (name : Text) {stamp : Stamp} (h : stamp.IsDrawn) :
    ∀ c ∈ stem type name stamp, isPlain c = true :=
  forall_mem_stem type name h (fun _ => isPlain_of_isSmall) isPlain_of_mem_yearText

/-! ## Letterheads -/

/-- **The extension of an image is made of plain characters**, wherever the image lies. -/
theorem isPlain_of_mem_imageExtension (path : Text) : ∀ c ∈ imageExtension path, isPlain c = true := by
  rw [imageExtension]
  split
  next e he =>
    intro c hc
    exact isPlain_of_isSmall (isSmall_of_mem_asciiLower (Option.filter_eq_some_iff.1 he).2 c hc)
  next => exact List.all_eq_true.1 (by decide)

end Conveyance.FileName
