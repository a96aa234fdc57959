import Conveyance.Catalog.Listing
import Conveyance.Desk.Generate
import Conveyance.Json.Value

/-!
# Desk/ResultJson — what a desk answers, as JSON

The values that answers are made of: blocks, filled-in templates, shared documents, the list of
placeholders and faults.  **A field that does not apply is null**, never left out.
-/

namespace Conveyance

/-- The kind of a block. -/
def BlockKind.json : BlockKind → Json
  | heading level => .record [("type", .literal "heading"), ("level", .ofNat level)]
  | paragraph => .record [("type", .literal "paragraph")]
  | lineBreak => .record [("type", .literal "line_break")]
  | table header rows =>
    .record [("type", .literal "table"), ("header", .array (header.map .string)),
      ("rows", .array (rows.map fun row => .array (row.map .string)))]

/-- A block. -/
def Block.json (b : Block) : Json :=
  .record [("kind", b.kind.json), ("alignment", .string b.alignment.name), ("text", .string b.text)]

/-- A template filled in. -/
def Rendering.json (r : Rendering) : Json :=
  .record [("text", .string r.text), ("blocks", .array (r.blocks.map Block.json))]

/-- A shared document. -/
def Generated.json (g : Generated) : Json :=
  .record [("filename", .string g.fileName), ("url", .string g.url), ("size_bytes", .ofNat g.size),
    ("document_type", .string g.documentType.name)]

/-- An entry of the list of placeholders. -/
def ListingEntry.json (e : ListingEntry) : Json :=
  .record [("token", .string e.token), ("group", .string e.group),
    ("description", .string e.description)]

end Conveyance
