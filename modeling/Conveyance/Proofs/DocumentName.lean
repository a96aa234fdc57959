import Conveyance.Proofs.Calendar.Stamp
import Conveyance.Proofs.Desk.ObjectName
import Conveyance.Proofs.Slug

/-!
# Proofs/DocumentName — what the name of a document tells

The name of a document joins four parts with dashes, which slugs have of their own.  Still **the parts
can be told from the name**: read from its end, the random part and the second are of fixed length, and
from its start, no kind of document is written as the beginning of another (`word_append_inj`).  So
documents have one name exactly when they agree in all four parts (`documentName_inj`).
-/

namespace Conveyance.FileName

/-- **A stamp whose year has four digits.** -/
structure Stamp.IsDated (s : Stamp) : Prop where
  drawn : s.IsDrawn
  shown : s.moment.IsShown

/-- The kind of a document, as its name starts. -/
def word (type : DocumentType) : Text := Text.replaceChar '_' ['-'] type.name

/-- **No kind of document is the beginning of another.** -/
theorem word_append_inj {type type' : DocumentType} {t t' : Text} :
    word type ++ '-' :: t = word type' ++ '-' :: t' ↔ type = type' ∧ t = t' := by
  have hwords : word .agreement = "agreement".toList ∧ word .paymentRequest = "payment-request".toList
      ∧ word .paymentReceipt = "payment-receipt".toList := by decide
  obtain ⟨hagreement, hrequest, hreceipt⟩ := hwords
  cases type <;> cases type' <;> simp [hagreement, hrequest, hreceipt]

section

variable {type type' : DocumentType} {name name' : Text} {stamp stamp' : Stamp}

/-- **The name of a document tells its kind, its slug, its second and its random part**, and nothing
else. -/
theorem documentName_inj (h : stamp.IsDated) (h' : stamp'.IsDated) :
    documentName type name stamp = documentName type' name' stamp' ↔
      type = type' ∧ slug name "document".toList = slug name' "document".toList ∧
      stamp.moment.SameSecond stamp'.moment ∧ stamp.nonce = stamp'.nonce := by
  constructor
  · intro heq
    rw [documentName_eq, documentName_eq] at heq
    have heq := List.append_cancel_right heq
    obtain ⟨heq, hnonce⟩ := List.append_inj' heq
      (congrArg (· + 1) (h.drawn.1.trans h'.drawn.1.symm))
    obtain ⟨heq, hmoment⟩ := List.append_inj' heq
      (congrArg (· + 1) (h.shown.length_stamp.trans h'.shown.length_stamp.symm))
    obtain ⟨htype, hslug⟩ := word_append_inj.1 heq
    exact ⟨htype, hslug, (Instant.stamp_inj h.shown h'.shown).1 (List.cons.inj hmoment).2,
      (List.cons.inj hnonce).2⟩
  · rintro ⟨rfl, hslug, hsecond, hnonce⟩
    rw [documentName_eq, documentName_eq, stem, stem, hslug, hnonce,
      (Instant.stamp_inj h.shown h'.shown).2 hsecond]

theorem isSmall_of_mem_stem (type : DocumentType) (name : Text) (h : stamp.IsDated) :
    ∀ c ∈ stem type name stamp, isSmall c = true := by
  refine forall_mem_stem type name h.drawn (fun _ => id) ?_
  rw [Date.yearText_eq h.shown.year]
  exact isSmall_of_mem_padLeft

end

/-- **Slugs, and the names of documents made of them.**  A slug spells out the letters and digits of a
name in small letters, with a dash where there was a separator between two of them, and is the fallback
when there are none; else it is a given fallback only if that is what is spelled.  In what is spelled
dashes only part, and it is its own slug.  The name of a document is a file name of small letters,
digits and dashes with the extension of PDF, and it tells the kind of document, the slug, the second and
the random part. -/
theorem slug_documentName (name : Text) :
    (∃ lead kept, Cut name lead kept ∧ ∀ fallback,
      slug name fallback = (if kept = [] then fallback else spelled kept) ∧
      (slug name fallback = fallback ↔
        (∀ c ∈ name, c.isAlphanum = false) ∨ spelled kept = fallback)) ∧
    ((∀ fallback, slug name fallback = fallback) ↔ ∀ c ∈ name, c.isAlphanum = false) ∧
    ((∃ c ∈ name, c.isAlphanum = true) → ∀ fallback, Text.PartedBy '-' (slug name fallback) ∧
      ∀ fallback', slug (slug name fallback) fallback' = slug name fallback) ∧
    ∀ (type : DocumentType) (stamp : Stamp), stamp.IsDated →
      Path.IsFileName (documentName type name stamp) ∧
      (∃ stem, documentName type name stamp = stem ++ ".pdf".toList ∧
        ∀ c ∈ stem, isSmall c = true) ∧
      ∀ (type' : DocumentType) (name' : Text) (stamp' : Stamp), stamp'.IsDated →
        (documentName type name stamp = documentName type' name' stamp' ↔
          type = type' ∧ slug name "document".toList = slug name' "document".toList ∧
          stamp.moment.SameSecond stamp'.moment ∧ stamp.nonce = stamp'.nonce) := by
  obtain ⟨lead, kept, hcut⟩ := exists_cut name
  have hslug := slug_eq_spelled hcut
  refine ⟨⟨lead, kept, hcut, fun fallback => ⟨hslug fallback, ?_⟩⟩, ?_, ?_,
    fun type stamp hstamp => ⟨?_, ?_, ?_⟩⟩
  · rw [← hcut.eq_nil_iff, hslug]
    split
    · next hkept => exact ⟨fun _ => .inl hkept, fun _ => rfl⟩
    · next hkept => exact (or_iff_right hkept).symm
  · rw [← hcut.eq_nil_iff]
    refine ⟨fun hfallback => ?_, fun hkept fallback => (hslug fallback).trans (if_pos hkept)⟩
    by_contra hkept
    -- one slug cannot be two fallbacks
    have hnone := hfallback []
    have hdash := hfallback ['-']
    rw [hslug, if_neg hkept] at hnone hdash
    rw [hnone] at hdash
    cases hdash
  · rintro ⟨c, hc, halnum⟩ fallback
    have hkept : kept ≠ [] := fun hnil =>
      absurd halnum (Bool.eq_false_iff.1 (hcut.eq_nil_iff.1 hnil c hc))
    rw [hslug, if_neg hkept]
    exact ⟨Text.partedBy_of_splitOn (nil_notMem_splitOn_spelled hkept hcut.char),
      slug_spelled hkept hcut.char⟩
  · exact isFileName_documentName type name hstamp.drawn
  · exact ⟨stem type name stamp, documentName_eq type name stamp, isSmall_of_mem_stem type name hstamp⟩
  · exact fun type' name' stamp' hstamp' => documentName_inj hstamp hstamp'

/-- A name with a mark that separates nothing, and the names of two documents of one second. -/
theorem slug_documentName_saleDeed :
    let name := "Sale_- Deed!".toList
    let stamp : Stamp :=
      { moment := ⟨⟨2025, 3, 1, by decide, by decide⟩, 9, 30, 0, 0⟩, nonce := "1a2b3c4d".toList }
    let stamp' : Stamp := { stamp with nonce := "1a2b3c4e".toList }
    slug name "document".toList = "sale-deed".toList ∧ (∃ c ∈ name, c.isAlphanum = true) ∧
      Text.PartedBy '-' (slug name "document".toList) ∧ stamp.IsDated ∧ stamp'.IsDated ∧
      Path.IsFileName (documentName .agreement name stamp) ∧
      documentName .agreement name stamp ≠ documentName .agreement name stamp' := by
  intro name stamp stamp'
  have hletter : ∃ c ∈ name, c.isAlphanum = true := ⟨'S', by decide, by decide⟩
  have hdated : stamp.IsDated := ⟨by decide, by decide, by decide, by decide, by decide⟩
  have hdated' : stamp'.IsDated := ⟨by decide, by decide, by decide, by decide, by decide⟩
  obtain ⟨-, -, hparted, hname⟩ := slug_documentName name
  obtain ⟨hfile, -, hinj⟩ := hname .agreement stamp hdated
  refine ⟨by decide, hletter, (hparted hletter _).1, hdated, hdated', hfile, fun heq => ?_⟩
  exact absurd ((hinj .agreement name stamp' hdated').1 heq).2.2.2 (by decide)

end Conveyance.FileName
