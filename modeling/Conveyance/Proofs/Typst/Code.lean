import Conveyance.Proofs.Typst.Lexeme
import Conveyance.Typst.Document

/-!
# Proofs/Typst/Code — the code that documents are written in

Code is `Plain` when it opens neither a text nor an image: it holds no quote, and no `i` in it comes
before an `m`.  **All code of a document is plain but for one piece**, which opens the image of a
letterhead (`plain_fragments`).  So the source is read as its fragments (`quoteless_fragments`), and the
images that it calls for are the image of its letterhead, if there is one (`imageCalls_document`).
-/

namespace Conveyance.Typst

/-! ## Plain code -/

/-- Every `i` stands before a character that is no `m`, so none is at the end. -/
def opensNoImage : Text → Bool
  | 'i' :: c :: t => c != 'm' && opensNoImage (c :: t)
  | ['i'] => false
  | _ :: t => opensNoImage t
  | [] => true

theorem opensNoImage_append {s : Text} (hs : opensNoImage s = true) (t : Text) :
    opensNoImage (s ++ t) = opensNoImage t := by
  fun_induction opensNoImage s with
  | case1 c s ih =>
    obtain ⟨hc, hs⟩ := Bool.and_eq_true_iff.1 hs
    rw [List.cons_append, List.cons_append, opensNoImage, hc, Bool.true_and]
    exact ih hs
  | case2 => cases hs
  | case3 c s hnext hlast ih =>
    rw [List.cons_append, opensNoImage, ih hs]
    · rintro d u rfl hu
      rcases s with _ | ⟨e, s⟩
      · exact hlast rfl rfl
      · exact hnext e s rfl rfl
    · rintro rfl hu
      exact hlast rfl (List.append_eq_nil_iff.1 hu).1
  | case4 => rfl

theorem opensNoImage_of_notMem {t : Text} (ht : 'i' ∉ t) : opensNoImage t = true := by
  induction t with
  | nil => rfl
  | cons c t ih =>
    have hc : opensNoImage [c] = true := by
      rw [opensNoImage]
      · rfl
      · nofun
      · rintro rfl
        exact absurd List.mem_cons_self ht
    rw [← List.singleton_append, opensNoImage_append hc, ih (List.not_mem_of_not_mem_cons ht)]

/-- The text opens neither a literal nor an image. -/
def IsPlainCode (t : Text) : Prop := '"' ∉ t ∧ opensNoImage t = true

instance (t : Text) : Decidable (IsPlainCode t) := inferInstanceAs (Decidable (_ ∧ _))

theorem IsPlainCode.append {s t : Text} (hs : IsPlainCode s) (ht : IsPlainCode t) :
    IsPlainCode (s ++ t) :=
  ⟨List.mem_append.not.2 (not_or.2 ⟨hs.1, ht.1⟩), by rw [opensNoImage_append hs.2, ht.2]⟩

section Characters

variable {c : Char}

theorem notMem_ofNat (hc : c.isDigit = false) (n : Nat) : c ∉ Text.ofNat n := by
  intro h
  rw [Nat.isDigit_of_mem_toDigits (by decide) (by decide) h] at hc
  cases hc

theorem notMem_fixedText (hc : c.isDigit = false) (hdot : c ≠ '.') (n places : Nat) :
    c ∉ Decimal.fixedText n places := by
  have hdigits : c ∉ Text.padLeft '0' (places + 1) (Text.ofNat n) := by
    rw [Text.padLeft, List.mem_append, List.mem_replicate]
    rintro (⟨_, rfl⟩ | h)
    · cases hc
    · exact notMem_ofNat hc n h
  have htake := fun k => mt (List.mem_of_mem_take (i := k)) hdigits
  have hdrop := fun k => mt (List.mem_of_mem_drop (i := k)) hdigits
  rw [Decimal.fixedText]
  split
  · exact htake _
  · rw [List.mem_append, List.mem_cons]
    rintro (h | h | h)
    · exact htake _ h
    · exact hdot h
    · exact hdrop _ h

/-- A finite number is written in digits, a dot and a sign. -/
theorem notMem_sizeText (hc : c.isDigit = false) (hdot : c ≠ '.') (m : Nat) (e : Int) :
    c ∉ Single.sizeText m e := by
  rw [Single.sizeText]
  split
  · rw [List.mem_singleton]
    rintro rfl
    cases hc
  · dsimp only
    split
    · exact notMem_ofNat hc _
    · exact notMem_fixedText hc hdot _ _

end Characters

theorem isPlainCode_ofNat (n : Nat) : IsPlainCode (Text.ofNat n) :=
  ⟨notMem_ofNat rfl n, opensNoImage_of_notMem (notMem_ofNat rfl n)⟩

/-- A measure of the page is plain code; that it may be infinite does no harm. -/
theorem isPlainCode_single (x : Single) : IsPlainCode x.text := by
  have hsign : ∀ negative : Bool, IsPlainCode (if negative then ['-'] else []) := by decide
  rcases x with ⟨negative, m, e⟩ | negative | _
  · exact (hsign negative).append ⟨notMem_sizeText rfl (by decide) m e,
      opensNoImage_of_notMem (notMem_sizeText rfl (by decide) m e)⟩
  · exact (hsign negative).append (by decide)
  · decide

theorem isPlainCode_alignment (a : Alignment) : IsPlainCode a.name := by
  cases a <;> decide

/-- The piece of code that opens the image of a letterhead. -/
def imageOpening : String := ", header: align(center, image("

namespace Fragment

/-- **A plain fragment**: a text that is quoted, or plain code. -/
inductive Plain : Fragment → Prop where
  | literal (t : Text) : Plain (.literal t)
  | code {t : Text} (h : IsPlainCode t) : Plain (.code t)

theorem Plain.quoteless {f : Fragment} (h : f.Plain) : f.Quoteless := by
  cases h with
  | literal t => trivial
  | code h => exact h.1

end Fragment

open Typst.Fragment (Plain)

theorem plain_centimetres (x : Single) : (centimetres x).Plain :=
  .code ((isPlainCode_single x).append (by decide))

/-! ## Documents -/

theorem forall_mem_joined {p : Fragment → Prop} {separator : String} (hseparator : p (code separator)) :
    ∀ {parts : List (List Fragment)}, (∀ part ∈ parts, ∀ f ∈ part, p f) →
      ∀ f ∈ joined separator parts, p f
  | [], _, f, hf => by cases hf
  | [part], h, f, hf => h part (List.mem_singleton_self part) f hf
  | part :: next :: parts, h, f, hf => by
      have ih := forall_mem_joined hseparator fun p hp => h p (List.mem_cons_of_mem part hp)
      rw [joined, List.mem_append, List.mem_cons] at hf
      · rcases hf with hf | rfl | hf
        · exact h part List.mem_cons_self f hf
        · exact hseparator
        · exact ih f hf
      · exact nofun

/-- The code that letterheads are printed with. -/
def linesCode : List String :=
  ["text(size: 16pt, weight: ", "text(size: 9pt, ", ", ", ")",
    ", header: [#align(center, stack(spacing: 4pt, ", ")) #line(length: 100%, stroke: 0.5pt)]"]

section Lines

variable {p : Fragment → Prop} (hliteral : ∀ t, p (.literal t)) (hcode : ∀ s ∈ linesCode, p (code s))

include hliteral hcode

theorem forall_mem_headerLines (c : Company) : ∀ line ∈ headerLines c, ∀ f ∈ line, p f := by
  have hsmall : ∀ t, ∀ f ∈ smallLine t, p f := by
    intro t
    simp only [smallLine, List.forall_mem_cons]
    exact ⟨hcode _ (by decide), hliteral t, hcode _ (by decide), nofun⟩
  intro line hline
  rw [headerLines, List.cons_append, List.mem_cons, List.mem_append] at hline
  rcases hline with rfl | hline | hline
  · simp only [List.forall_mem_cons]
    exact ⟨hcode _ (by decide), hliteral _, hcode _ (by decide), hliteral _, hcode _ (by decide),
      nofun⟩
  · obtain ⟨t, _, rfl⟩ := Option.map_eq_some_iff.1 (Option.mem_toList.1 hline)
    exact hsmall t
  · split at hline
    · cases hline
    · rw [List.mem_singleton.1 hline]
      exact hsmall _

/-- **A printed letterhead is texts and its own code.** -/
theorem forall_mem_header_lines (layout : Layout) (company : Company) :
    ∀ f ∈ header layout (.lines company), p f := by
  have hlines := forall_mem_joined (hcode ", " (by decide))
    (forall_mem_headerLines hliteral hcode company)
  simp only [header, List.forall_mem_append, List.forall_mem_cons]
  exact ⟨⟨hcode _ (by decide), hlines⟩, hcode _ (by decide), nofun⟩

end Lines

theorem plain_header_lines (layout : Layout) (company : Company) :
    ∀ f ∈ header layout (.lines company), f.Plain := by
  have hplain : ∀ s ∈ linesCode, IsPlainCode s.toList := by decide
  exact forall_mem_header_lines .literal (fun s hs => .code (hplain s hs)) layout company

theorem exists_header_image (layout : Layout) (image : Attachment) :
    ∃ after, header layout (.image image) = code imageOpening :: .literal image.name :: after ∧
      ∀ f ∈ after, f.Plain := by
  refine ⟨_, rfl, ?_⟩
  simp only [List.forall_mem_cons]
  exact ⟨.code (by decide), plain_centimetres _, .code (by decide), .literal _, .code (by decide),
    nofun⟩

/-- **Only the image of a letterhead** needs a piece of its own. -/
theorem plain_header (layout : Layout) : ∀ letterhead : Letterhead,
    ∀ f ∈ header layout letterhead, f = code imageOpening ∨ f.Plain
  | .blank => nofun
  | .image image => by
    obtain ⟨after, heq, hafter⟩ := exists_header_image layout image
    rw [heq]
    exact List.forall_mem_cons.2 ⟨.inl rfl, List.forall_mem_cons.2 ⟨.inr (.literal _), fun f hf =>
      .inr (hafter f hf)⟩⟩
  | .lines company => fun f hf => .inr (plain_header_lines layout company f hf)

theorem plain_table (a : Alignment) (header : List Text) (rows : List (List Text)) :
    ∀ f ∈ table a header rows, f.Plain := by
  have hcells : ∀ cell : Text → List Fragment, (∀ t, ∀ f ∈ cell t, f.Plain) →
      ∀ row : List Text, ∀ f ∈ joined ", " (row.map cell), f.Plain := by
    intro cell hcell row
    refine forall_mem_joined (.code (by decide)) fun part hpart => ?_
    obtain ⟨t, _, rfl⟩ := List.mem_map.1 hpart
    exact hcell t
  have hheader := hcells headerCell fun t => by
    simp only [headerCell, List.forall_mem_cons]
    exact ⟨.code (by decide), .literal t, .code (by decide), nofun⟩
  have hrow := hcells rowCell fun t => by
    simp only [rowCell, List.forall_mem_cons]
    exact ⟨.code (by decide), .literal t, .code (by decide), nofun⟩
  simp only [table, List.forall_mem_append, List.forall_mem_cons, List.forall_mem_flatMap]
  exact ⟨⟨⟨⟨.code (by decide), .code (isPlainCode_alignment a), .code (by decide),
    .code (isPlainCode_ofNat _), .code (by decide), nofun⟩, hheader _⟩, .code (by decide),
    fun row _ => ⟨⟨.code (by decide), hrow _⟩, .code (by decide), nofun⟩⟩, .code (by decide), nofun⟩

theorem plain_block (b : Block) : ∀ f ∈ block b, f.Plain := by
  obtain ⟨kind, alignment, text⟩ := b
  rcases kind with level | _ | _ | ⟨header, rows⟩
  · simp only [block, List.forall_mem_cons]
    exact ⟨.code (by decide), .code (isPlainCode_alignment _), .code (by decide),
      .code (isPlainCode_ofNat _), .code (by decide), .literal _, .code (by decide), nofun⟩
  · have hlines : ∀ f ∈ joined "#linebreak()" ((Text.splitOn '\n' text).map fun line =>
        [code "#", .literal line]), f.Plain := by
      refine forall_mem_joined (.code (by decide)) (List.forall_mem_map.2 fun line _ => ?_)
      simp only [List.forall_mem_cons]
      exact ⟨.code (by decide), .literal line, nofun⟩
    simp only [block, List.forall_mem_append, List.forall_mem_cons]
    exact ⟨⟨⟨.code (by decide), .code (isPlainCode_alignment _), .code (by decide), nofun⟩, hlines⟩,
      .code (by decide), nofun⟩
  · simp only [block, List.forall_mem_cons]
    exact ⟨.code (by decide), nofun⟩
  · exact plain_table alignment header rows

/-- **Before and after the letterhead** there are only plain fragments. -/
theorem exists_fragments_eq (layout : Layout) (letterhead : Letterhead) (blocks : List Block) :
    ∃ before after, fragments layout letterhead blocks = before ++ (header layout letterhead ++ after) ∧
      (∀ f ∈ before, f.Plain) ∧ ∀ f ∈ after, f.Plain := by
  rw [fragments, setup, List.append_assoc, List.append_assoc]
  refine ⟨_, _, rfl, ?_, ?_⟩
  · simp only [List.forall_mem_cons]
    exact ⟨.code (by decide), .literal _, .code (by decide), plain_centimetres _, .code (by decide),
      plain_centimetres _, .code (by decide), plain_centimetres _, .code (by decide), nofun⟩
  · simp only [List.forall_mem_append, List.forall_mem_cons, List.forall_mem_flatMap]
    exact ⟨⟨.code (by decide), .code (isPlainCode_single _), .code (by decide), nofun⟩,
      fun b _ => ⟨plain_block b, .code (by decide), nofun⟩⟩

theorem plain_fragments (layout : Layout) (letterhead : Letterhead) (blocks : List Block) :
    ∀ f ∈ fragments layout letterhead blocks, f = code imageOpening ∨ f.Plain := by
  obtain ⟨before, after, heq, hbefore, hafter⟩ := exists_fragments_eq layout letterhead blocks
  rw [heq]
  simp only [List.forall_mem_append]
  exact ⟨fun f hf => .inr (hbefore f hf), plain_header layout letterhead, fun f hf =>
    .inr (hafter f hf)⟩

/-- **No code of a document holds a quote.** -/
theorem quoteless_fragments (layout : Layout) (letterhead : Letterhead) (blocks : List Block) :
    ∀ f ∈ fragments layout letterhead blocks, f.Quoteless := by
  intro f hf
  rcases plain_fragments layout letterhead blocks f hf with rfl | hplain
  · have hopening : '"' ∉ imageOpening.toList := by decide
    exact hopening
  · exact hplain.quoteless

/-! ## Images -/

/-- How a call for an image begins. -/
def imageCall : List Lexeme := "image(".toList.map .code

/-- **The images that source text calls for**: wherever its code spells the beginning of a call, the
text that is quoted next. -/
def imageCalls : List Lexeme → List (Option Text)
  | [] => []
  | x :: rest =>
    if imageCall.isPrefixOf (x :: rest) then
      (x :: rest)[imageCall.length]?.bind Lexeme.text? :: imageCalls rest
    else imageCalls rest

theorem imageCalls_literal_cons (t : Text) (rest : List Lexeme) :
    imageCalls (.literal t :: rest) = imageCalls rest := rfl

/-- **No call begins in plain code**, nor in plain code and what follows it. -/
theorem imageCalls_code_append {t : Text} (ht : opensNoImage t = true) (rest : List Lexeme) :
    imageCalls (t.map .code ++ rest) = imageCalls rest := by
  fun_induction opensNoImage t with
  | case1 c t ih =>
    obtain ⟨hc, ht⟩ := Bool.and_eq_true_iff.1 ht
    have hne : imageCall.isPrefixOf (.code 'i' :: .code c :: (t.map .code ++ rest)) = false := by
      have hm : (Lexeme.code 'm' == .code c) = false := by
        simpa using (bne_iff_ne.1 hc).symm
      change (_ && ((Lexeme.code 'm' == .code c) && List.isPrefixOf _ _)) = false
      rw [hm, Bool.false_and, Bool.and_false]
    rw [List.map_cons, List.map_cons, List.cons_append, List.cons_append, imageCalls, hne]
    exact ih ht
  | case2 => cases ht
  | case3 c t hnext hlast ih =>
    have hi : c ≠ 'i' := by
      rintro rfl
      rcases t with _ | ⟨d, u⟩
      · exact hlast rfl rfl
      · exact hnext d u rfl rfl
    have hne : imageCall.isPrefixOf (.code c :: (t.map .code ++ rest)) = false := by
      have hi' : (Lexeme.code 'i' == .code c) = false := by simpa using hi.symm
      change ((Lexeme.code 'i' == .code c) && List.isPrefixOf _ _) = false
      rw [hi', Bool.false_and]
    rw [List.map_cons, List.cons_append, imageCalls, hne]
    exact ih ht
  | case4 => rfl

theorem imageCalls_plain_append {fragments : List Fragment} (h : ∀ f ∈ fragments, f.Plain)
    (rest : List Lexeme) : imageCalls (lexemesOf fragments ++ rest) = imageCalls rest := by
  induction fragments with
  | nil => rfl
  | cons f fragments ih =>
    have hrest := ih fun g hg => h g (List.mem_cons_of_mem f hg)
    rw [lexemesOf, List.flatMap_cons, List.append_assoc, ← lexemesOf]
    cases h f List.mem_cons_self with
    | literal t => exact hrest
    | code hcode => rw [Fragment.lexemes, imageCalls_code_append hcode.2, hrest]

/-- A piece of code that ends with the beginning of a call. -/
theorem imageCalls_imageOpening (name : Text) (rest : List Lexeme) :
    imageCalls ((code imageOpening).lexemes ++ .literal name :: rest) = some name :: imageCalls rest := by
  have hopening : (code imageOpening).lexemes =
      ", header: align(center, ".toList.map .code ++ ("image(".toList.map .code) := rfl
  have hcall : imageCalls ("image(".toList.map .code ++ .literal name :: rest) =
      some name :: imageCalls ("mage(".toList.map .code ++ .literal name :: rest) := rfl
  rw [hopening, List.append_assoc, imageCalls_code_append (by decide), hcall,
    imageCalls_code_append (by decide), imageCalls_literal_cons]

theorem imageCalls_header (layout : Layout) (letterhead : Letterhead) (rest : List Lexeme) :
    imageCalls (lexemesOf (header layout letterhead) ++ rest) =
      (attachments letterhead).map (fun a => some a.name) ++ imageCalls rest := by
  rcases letterhead with _ | image | company
  · rfl
  · obtain ⟨after, heq, hafter⟩ := exists_header_image layout image
    have hlexemes : lexemesOf (header layout (.image image)) ++ rest =
        (code imageOpening).lexemes ++ .literal image.name :: (lexemesOf after ++ rest) := by
      rw [heq, lexemesOf, List.flatMap_cons, List.flatMap_cons, List.append_assoc, List.append_assoc]
      rfl
    rw [hlexemes, imageCalls_imageOpening, imageCalls_plain_append hafter]
    rfl
  · exact imageCalls_plain_append (plain_header_lines layout company) rest

/-- **A document calls for its attachments**, and for nothing else: the image of its letterhead, by the
name that it is attached under. -/
theorem imageCalls_document (layout : Layout) (letterhead : Letterhead) (blocks : List Block) :
    ∃ lexemes, lex (document layout letterhead blocks).source = some lexemes ∧
      imageCalls lexemes =
        (document layout letterhead blocks).attachments.map fun a => some a.name := by
  refine ⟨_, lex_sourceOf (quoteless_fragments layout letterhead blocks), ?_⟩
  obtain ⟨before, after, heq, hbefore, hafter⟩ := exists_fragments_eq layout letterhead blocks
  have happend : ∀ fs gs : List Fragment, lexemesOf (fs ++ gs) = lexemesOf fs ++ lexemesOf gs :=
    fun fs gs => List.flatMap_append
  have hend := imageCalls_plain_append hafter []
  rw [List.append_nil] at hend
  rw [heq, happend, happend, imageCalls_plain_append hbefore, imageCalls_header, hend]
  exact List.append_nil _

end Conveyance.Typst
