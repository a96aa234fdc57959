import Conveyance.Proofs.Text.Parts
import Conveyance.Proofs.Typst.Code
import Mathlib.Data.List.Fold

/-!
# Proofs/Typst/Outline — what a document quotes, and what it is outside the quotes

`Letterhead.texts` and `Block.texts` list what is printed; `Letterhead.shape` and `Block.shape` say
what the source depends on apart from them: which lines there are, and how large a table is.  Read
back, the source of a document holds **these texts as its literals, and outside of them nothing but
the outline of its shape** (`lex_document`), so no text gets out of its literal.
-/

namespace Conveyance

/-! ## Texts -/

/-- How a company is reached: what is known of its phone, its mail and its tax number, each behind its
label. -/
def Company.reach (c : Company) : List Text :=
  [("Phone: ", c.phone), ("Email: ", c.email), ("GSTIN: ", c.gstin)].filterMap fun (label, value?) =>
    value?.map (label.toList ++ ·)

/-- **The line of a letterhead that says how to reach a company**, if anything is known. -/
def Company.contactLine? (c : Company) : Option Text :=
  match c.reach with
  | [] => none
  | known => some (List.intercalate [' ', '|', ' '] known)

/-- The address that is printed: one that is not blank. -/
def Company.addressLine? (c : Company) : Option Text := c.address.filter (!Text.allBlank ·)

/-- What a letterhead quotes, the words of its set-up among it. -/
def Letterhead.texts : Letterhead → List Text
  | .blank => []
  | .image attachment => [attachment.name, "contain".toList]
  | .lines c => "bold".toList :: c.name :: (c.addressLine?.toList ++ c.contactLine?.toList)

/-- The width of a table: at least one column, and room for the header and for every row. -/
def Block.columns (header : List Text) (rows : List (List Text)) : Nat :=
  ((header :: rows).map List.length).foldr max 1

/-- **What a block quotes**: a heading, the lines of a paragraph, or the header and the rows of a
table, filled up with empty cells. -/
def Block.texts (b : Block) : List Text :=
  match b.kind with
  | .heading _ => [b.text]
  | .paragraph => Text.splitOn '\n' b.text
  | .lineBreak => []
  | .table header rows => (header :: rows).flatMap (List.rightpad (columns header rows) [])

/-! ## Shapes -/

/-- What of a letterhead is seen outside its texts. -/
inductive Letterhead.Shape where
  | blank
  | image
  /-- Lines are printed, with or without an address and contacts below the name. -/
  | lines (address contacts : Bool)
  deriving DecidableEq

/-- What of a block is seen outside its texts. -/
inductive Block.Shape where
  | heading (alignment : Alignment) (level : Nat)
  | paragraph (alignment : Alignment) (lines : Nat)
  | lineBreak
  | table (alignment : Alignment) (columns rows : Nat)
  deriving DecidableEq

/-- The shape of a letterhead. -/
def Letterhead.shape : Letterhead → Letterhead.Shape
  | blank => .blank
  | image _ => .image
  | lines c => .lines c.addressLine?.isSome c.contactLine?.isSome

/-- The shape of a block. -/
def Block.shape (b : Block) : Block.Shape :=
  match b.kind with
  | .heading level => .heading b.alignment level
  | .paragraph => .paragraph b.alignment (Text.splitOn '\n' b.text).length
  | .lineBreak => .lineBreak
  | .table header rows => .table b.alignment (columns header rows) rows.length

/-- A company of which no more is known than that it has an address and contacts. -/
def Company.bare (address contacts : Bool) : Company where
  id := 0
  name := []
  address := if address then some ['-'] else none
  phone := if contacts then some [] else none

/-- A letterhead of a shape. -/
def Letterhead.Shape.letterhead : Letterhead.Shape → Letterhead
  | blank => .blank
  | image => .image ⟨[], []⟩
  | lines address contacts => .lines (.bare address contacts)

/-- A block of a shape, without text. -/
def Block.Shape.block : Block.Shape → Block
  | heading alignment level => ⟨.heading level, alignment, []⟩
  | paragraph alignment lines => ⟨.paragraph, alignment, List.replicate (lines - 1) '\n'⟩
  | lineBreak => ⟨.lineBreak, .left, []⟩
  | table alignment columns rows =>
    ⟨.table (List.replicate columns []) (List.replicate rows []), alignment, []⟩

namespace Typst

open Typst.Fragment (hollow)

/-- **The source outside the literals**, which only the layout and shapes decide. -/
def outline (layout : Layout) (letterhead : Letterhead.Shape) (blocks : List Block.Shape) :
    Option (List (Option Char)) :=
  (lex (document layout letterhead.letterhead (blocks.map Block.Shape.block)).source).map
    (·.map Lexeme.outside)

/-! ## Joined parts -/

theorem joined_cons_cons (separator : String) (part next : List Fragment)
    (parts : List (List Fragment)) : joined separator (part :: next :: parts)
      = part ++ code separator :: joined separator (next :: parts) := rfl

theorem map_hollow_joined (separator : String) : ∀ parts : List (List Fragment),
    (joined separator parts).map hollow = joined separator (parts.map (List.map hollow))
  | [] => rfl
  | [_] => rfl
  | part :: next :: parts => by
      have ih := map_hollow_joined separator (next :: parts)
      rw [joined_cons_cons, List.map_append, List.map_cons, ih]
      rfl

theorem filterMap_text?_joined (separator : String) : ∀ parts : List (List Fragment),
    (joined separator parts).filterMap Fragment.text?
      = parts.flatMap (List.filterMap Fragment.text?)
  | [] => rfl
  | [part] => by simp [joined]
  | part :: next :: parts => by
      have ih := filterMap_text?_joined separator (next :: parts)
      rw [joined_cons_cons, List.filterMap_append, List.filterMap_cons_none rfl, ih]
      rfl

/-! ## Letterheads -/

theorem contacts_eq (c : Company) : contacts c = c.reach := by
  rw [contacts, Company.reach]
  rcases c.phone with _ | phone <;> rcases c.email with _ | email <;> rcases c.gstin with _ | gstin <;>
    rfl

theorem map_hollow_headerLines (c : Company) :
    (headerLines c).map (List.map hollow)
      = (headerLines (.bare c.addressLine?.isSome c.contactLine?.isSome)).map
          (List.map hollow) := by
  rw [headerLines, Company.addressLine?, Company.contactLine?, contacts_eq]
  generalize c.address.filter _ = address
  generalize c.reach = known
  rcases address with _ | address <;> rcases known with _ | ⟨contact, known⟩ <;> rfl

theorem filterMap_text?_headerLines (c : Company) :
    (headerLines c).flatMap (List.filterMap Fragment.text?)
      = "bold".toList :: c.name :: (c.addressLine?.toList ++ c.contactLine?.toList) := by
  rw [headerLines, Company.addressLine?, Company.contactLine?, contacts_eq]
  generalize c.address.filter _ = address
  generalize c.reach = known
  rcases address with _ | address <;> rcases known with _ | ⟨contact, known⟩ <;> rfl

theorem map_hollow_header (layout : Layout) (letterhead : Letterhead) :
    (header layout letterhead).map hollow
      = (header layout letterhead.shape.letterhead).map hollow := by
  rcases letterhead with _ | i | c
  · rfl
  · rfl
  · rw [Letterhead.shape, Letterhead.Shape.letterhead]
    simp only [header, List.map_append, List.map_cons, map_hollow_joined]
    rw [map_hollow_headerLines]

theorem map_hollow_setup (layout : Layout) (letterhead : Letterhead) :
    (setup layout letterhead).map hollow
      = (setup layout letterhead.shape.letterhead).map hollow := by
  have htop : topMargin layout letterhead.shape.letterhead = topMargin layout letterhead := by
    rcases letterhead with _ | i | c <;> rfl
  rw [setup, setup, List.map_append, List.map_append, map_hollow_header, htop, List.map_append,
    List.map_append]

theorem filterMap_text?_setup (layout : Layout) (letterhead : Letterhead) :
    (setup layout letterhead).filterMap Fragment.text? = "a4".toList :: letterhead.texts := by
  have hheader : (header layout letterhead).filterMap Fragment.text? = letterhead.texts := by
    rcases letterhead with _ | i | c
    · rfl
    · rfl
    · rw [header, List.filterMap_append, List.filterMap_cons_none rfl, filterMap_text?_joined,
        filterMap_text?_headerLines]
      exact List.append_nil _
  rw [setup, List.filterMap_append, List.filterMap_append, hheader]
  exact List.append_nil _

/-! ## Tables -/

theorem tableWidth_eq_columns (header : List Text) (rows : List (List Text)) :
    tableWidth header rows = Block.columns header rows := by
  rw [tableWidth, Nat.max_comm, List.foldl_assoc, List.foldl_eq_foldr]
  rfl

/-- No row is wider than the table. -/
theorem length_le_columns {header row : List Text} {rows : List (List Text)}
    (h : row ∈ header :: rows) : row.length ≤ Block.columns header rows := by
  have hfold : ∀ {ns : List Nat} {n : Nat}, n ∈ ns → n ≤ ns.foldr max 1 := by
    intro ns n hn
    induction ns with
    | nil => cases hn
    | cons m ns ih =>
      rw [List.foldr_cons]
      rcases List.mem_cons.1 hn with rfl | hn
      · exact Nat.le_max_left _ _
      · exact Nat.le_trans (ih hn) (Nat.le_max_right _ _)
  exact hfold (List.mem_map_of_mem h)

theorem columns_replicate {width : Nat} (h : 1 ≤ width) (n : Nat) :
    Block.columns (List.replicate width []) (List.replicate n []) = width := by
  have hfold : (List.replicate n 0).foldr max 1 = 1 := by
    induction n with
    | zero => rfl
    | succ n ih => rw [List.replicate_succ, List.foldr_cons, ih]; rfl
  rw [Block.columns, List.map_cons, List.map_replicate, List.foldr_cons, List.length_replicate,
    List.length_nil, hfold, Nat.max_eq_left h]

theorem one_le_columns (header : List Text) (rows : List (List Text)) :
    1 ≤ Block.columns header rows := by
  have hfold : ∀ ns : List Nat, 1 ≤ ns.foldr max 1 := by
    intro ns
    induction ns with
    | nil => exact Nat.le_refl 1
    | cons n ns ih => exact Nat.le_trans ih (Nat.le_max_right _ _)
  exact hfold _

theorem length_padded (width : Nat) (row : List Text) : (padded width row).length = width := by
  rw [padded, List.length_take, List.length_append, List.length_replicate]
  omega

/-- A row that is not wider than the table is only filled up. -/
theorem padded_eq_rightpad {width : Nat} {row : List Text} (h : row.length ≤ width) :
    padded width row = List.rightpad width [] row := by
  refine List.take_of_length_le ?_
  rw [List.length_append, List.length_replicate]
  omega

theorem map_hollow_cells (cell : Text → List Fragment)
    (h : ∀ t, (cell t).map hollow = (cell []).map hollow) (width : Nat) (row : List Text) :
    ((padded width row).map cell).map (List.map hollow)
      = List.replicate width ((cell []).map hollow) := by
  have hconst := List.map_eq_replicate_iff.2 fun t (_ : t ∈ padded width row) => h t
  rw [length_padded] at hconst
  rw [List.map_map, ← hconst]
  rfl

/-- **A table without its texts** depends on its width and on how many rows there are. -/
theorem map_hollow_table (a : Alignment) {header header' : List Text}
    {rows rows' : List (List Text)}
    (hcolumns : Block.columns header rows = Block.columns header' rows')
    (hrows : rows.length = rows'.length) :
    (table a header rows).map hollow = (table a header' rows').map hollow := by
  have hlines : ∀ (width : Nat) (rows : List (List Text)),
      (rows.flatMap fun row => code "  " :: joined ", " ((padded width row).map rowCell)
          ++ [code ",\n"]).map hollow
        = (List.replicate rows.length (code "  " ::
            joined ", " (List.replicate width ((rowCell []).map hollow))
              ++ [code ",\n"])).flatten := by
    intro width rows
    rw [List.map_flatMap, List.flatMap_def, List.map_eq_replicate_iff.2]
    intro row _
    rw [List.map_append, List.map_cons, map_hollow_joined, map_hollow_cells rowCell fun _ => rfl]
    rfl
  simp only [table, tableWidth_eq_columns, hcolumns, List.map_append, List.map_cons,
    map_hollow_joined, map_hollow_cells headerCell fun _ => rfl, hlines, hrows]

theorem filterMap_text?_table (a : Alignment) (header : List Text) (rows : List (List Text)) :
    (table a header rows).filterMap Fragment.text?
      = (header :: rows).flatMap (List.rightpad (Block.columns header rows) []) := by
  obtain ⟨width, hwidth⟩ : ∃ width, width = Block.columns header rows := ⟨_, rfl⟩
  have hcells : ∀ cell : Text → List Fragment,
      (∀ t, (cell t).filterMap Fragment.text? = [t]) → ∀ row ∈ header :: rows,
        (joined ", " ((padded width row).map cell)).filterMap Fragment.text?
          = List.rightpad width [] row := by
    intro cell hcell row hrow
    have hle : row.length ≤ width := hwidth ▸ length_le_columns hrow
    rw [filterMap_text?_joined, List.flatMap_map, padded_eq_rightpad hle]
    simp [hcell]
  have hline : ∀ row ∈ rows,
      (code "  " :: joined ", " ((padded width row).map rowCell) ++ [code ",\n"]).filterMap
        Fragment.text? = List.rightpad width [] row := by
    intro row hrow
    rw [List.filterMap_append, List.filterMap_cons_none rfl,
      hcells rowCell (fun _ => rfl) row (List.mem_cons_of_mem header hrow)]
    exact List.append_nil _
  rw [← hwidth, List.flatMap_cons, ← List.flatMap_congr hline,
    ← hcells headerCell (fun _ => rfl) header List.mem_cons_self, table, tableWidth_eq_columns,
    ← hwidth]
  simp only [List.filterMap_append, List.filterMap_cons, List.filterMap_flatMap]
  simp [code, Fragment.text?]

/-! ## Blocks -/

theorem map_hollow_block (b : Block) : (block b).map hollow = (block b.shape.block).map hollow := by
  obtain ⟨kind, alignment, text⟩ := b
  rcases kind with level | _ | _ | ⟨header, rows⟩
  · rfl
  · have hlines : ∀ parts : List Text,
        (parts.map fun line => [code "#", .literal line]).map (List.map hollow)
          = List.replicate parts.length [code "#", .literal []] := by
      intro parts
      rw [List.map_map]
      exact List.map_eq_replicate_iff.2 fun _ _ => rfl
    have hcount : (Text.splitOn '\n' text).length - 1 + 1 = (Text.splitOn '\n' text).length :=
      Nat.sub_add_cancel (List.length_pos_iff.2 (Text.splitOn_ne_nil '\n' text))
    simp only [block, Block.shape, Block.Shape.block, List.map_append, map_hollow_joined, hlines,
      Text.splitOn_replicate, List.length_replicate, hcount]
  · rfl
  · exact map_hollow_table alignment (columns_replicate (one_le_columns header rows) _).symm
      List.length_replicate.symm

theorem filterMap_text?_block (b : Block) : (block b).filterMap Fragment.text? = b.texts := by
  obtain ⟨kind, alignment, text⟩ := b
  rcases kind with level | _ | _ | ⟨header, rows⟩
  · rfl
  · rw [block, Block.texts]
    simp only [List.filterMap_append, filterMap_text?_joined, List.flatMap_map]
    simp [code, List.filterMap_cons, Fragment.text?]
  · rfl
  · exact filterMap_text?_table alignment header rows

/-! ## Documents -/

/-- **A document is read back as its texts, in order, within its outline.**  Every literal is
closed and holds one text as it was given, and what stands outside the literals is settled by the
layout and by the shapes of the letterhead and of the blocks. -/
theorem lex_document (layout : Layout) (letterhead : Letterhead) (blocks : List Block) :
    ∃ lexemes, lex (document layout letterhead blocks).source = some lexemes ∧
      lexemes.filterMap Lexeme.text?
        = "a4".toList :: letterhead.texts ++ blocks.flatMap Block.texts ∧
      outline layout letterhead.shape (blocks.map Block.shape)
        = some (lexemes.map Lexeme.outside) := by
  refine ⟨_, lex_sourceOf (quoteless_fragments layout letterhead blocks), ?_, ?_⟩
  · have hblocks : ∀ b ∈ blocks, (block b ++ [code "\n\n"]).filterMap Fragment.text? = b.texts := by
      intro b _
      rw [List.filterMap_append, filterMap_text?_block]
      exact List.append_nil _
    rw [filterMap_text?_lexemesOf, fragments, List.filterMap_append, filterMap_text?_setup,
      List.filterMap_flatMap, List.flatMap_congr hblocks]
  · have hhollow : (fragments layout letterhead.shape.letterhead
          ((blocks.map Block.shape).map Block.Shape.block)).map hollow
        = (fragments layout letterhead blocks).map hollow := by
      rw [fragments, fragments, List.map_append, List.map_append, ← map_hollow_setup, List.map_map,
        List.flatMap_map, List.map_flatMap, List.map_flatMap]
      refine congrArg _ (List.flatMap_congr fun b _ => ?_)
      rw [List.map_append, List.map_append, Function.comp, ← map_hollow_block]
    rw [outline, document, lex_sourceOf (quoteless_fragments layout _ _), Option.map_some,
      map_outside_lexemesOf hhollow]

end Typst

end Conveyance
