import Conveyance.Proofs.Typst.Code

/-!
# Proofs/Typst/Page — the first line of a document

Everything that a document says about its pages is said in one line, the letterhead with it: its texts
are quoted, and **a quoted text has no line break** (`newline_notMem_quoted`).  The lines below are
written from the blocks and the size of the type alone (`source_document`).
-/

namespace Conveyance.Typst

/-! ## Lines -/

theorem newline_notMem_quoted (t : Text) : '\n' ∉ quoted t := by
  have hescape : '\n' ∉ escape t := by
    rw [escape, List.mem_flatMap]
    rintro ⟨c, -, hc⟩
    rw [escapeChar] at hc
    split_ifs at hc with hslash hquote hline
    · exact absurd hc (by decide)
    · exact absurd hc (by decide)
    · exact absurd hc (by decide)
    · exact hline (List.mem_singleton.1 hc).symm
  rw [quoted, List.cons_append, List.mem_cons, List.mem_append, List.mem_singleton]
  rintro (h | h | h)
  · cases h
  · exact hescape h
  · cases h

theorem newline_notMem_single (x : Single) : '\n' ∉ x.text := by
  have hsign : ∀ negative : Bool, '\n' ∉ (if negative then ['-'] else []) := by decide
  rcases x with ⟨negative, m, e⟩ | negative | _
  · exact List.mem_append.not.2 (not_or.2 ⟨hsign negative, notMem_sizeText rfl (by decide) m e⟩)
  · exact List.mem_append.not.2 (not_or.2 ⟨hsign negative, by decide⟩)
  · decide

namespace Fragment

/-- **The fragment is written in one line.** -/
inductive InLine : Fragment → Prop where
  | literal (t : Text) : InLine (.literal t)
  | code {t : Text} (h : '\n' ∉ t) : InLine (.code t)

theorem InLine.notMem_source {f : Fragment} (h : f.InLine) : '\n' ∉ f.source := by
  cases h with
  | literal t => exact newline_notMem_quoted t
  | code h => exact h

end Fragment

open Typst.Fragment (InLine)

theorem inLine_centimetres (x : Single) : (centimetres x).InLine :=
  .code (List.mem_append.not.2 (not_or.2 ⟨newline_notMem_single x, by decide⟩))

theorem newline_notMem_sourceOf {fragments : List Fragment} (h : ∀ f ∈ fragments, f.InLine) :
    '\n' ∉ sourceOf fragments := by
  rw [sourceOf, List.mem_flatMap]
  rintro ⟨f, hf, hmem⟩
  exact (h f hf).notMem_source hmem

/-! ## The page -/

/-- **What the page says about its letterhead is said in one line.** -/
theorem inLine_header (layout : Layout) (letterhead : Letterhead) :
    ∀ f ∈ header layout letterhead, f.InLine := by
  cases letterhead with
  | blank => exact List.forall_mem_nil _
  | image image =>
    simp only [header, List.forall_mem_cons]
    exact ⟨.code (by decide), .literal _, .code (by decide), inLine_centimetres _, .code (by decide),
      .literal _, .code (by decide), List.forall_mem_nil _⟩
  | lines company =>
    have hline : ∀ s ∈ linesCode, '\n' ∉ s.toList := by decide
    exact forall_mem_header_lines .literal (fun s hs => .code (hline s hs)) layout company

/-- The first line of a document, which sets up its pages. -/
def pageLine (layout : Layout) (letterhead : Letterhead) : Text :=
  sourceOf ([code "#set page(paper: ", word "a4", code ", margin: (top: ",
      centimetres (topMargin layout letterhead), code ", bottom: ", centimetres layout.bottom,
      code ", x: ", centimetres layout.side, code ")"] ++ header layout letterhead ++ [code ")"])

/-- The lines below the first, which start with the size of the type. -/
def belowPage (layout : Layout) (blocks : List Block) : Text :=
  sourceOf [code "#set text(size: ", .code layout.fontSize.text,
      code "pt)\n#set heading(numbering: none)\n\n"] ++
    sourceOf (blocks.flatMap fun b => block b ++ [code "\n\n"])

/-- **The pages are set up in one line.** -/
theorem newline_notMem_pageLine (layout : Layout) (letterhead : Letterhead) :
    '\n' ∉ pageLine layout letterhead := by
  refine newline_notMem_sourceOf ?_
  simp only [List.forall_mem_append, List.forall_mem_cons]
  exact ⟨⟨⟨.code (by decide), .literal _, .code (by decide), inLine_centimetres _, .code (by decide),
    inLine_centimetres _, .code (by decide), inLine_centimetres _, .code (by decide),
    List.forall_mem_nil _⟩, inLine_header layout letterhead⟩, .code (by decide), List.forall_mem_nil _⟩

/-- **Below its first line a document does not depend on its letterhead.** -/
theorem source_document (layout : Layout) (letterhead : Letterhead) (blocks : List Block) :
    (document layout letterhead blocks).source =
      pageLine layout letterhead ++ '\n' :: belowPage layout blocks := by
  have happend : ∀ fs gs : List Fragment, sourceOf (fs ++ gs) = sourceOf fs ++ sourceOf gs :=
    fun _ _ => List.flatMap_append
  change sourceOf (setup layout letterhead ++ blocks.flatMap fun b => block b ++ [code "\n\n"]) = _
  rw [setup, happend, happend, pageLine, happend _ [code ")"], List.append_assoc, List.append_assoc]
  rfl

end Conveyance.Typst
