import Conveyance.Catalog.Listing
import Conveyance.Desk.Rehearsal
import Conveyance.Desk.Route
import Conveyance.Main
import Conveyance.Records.Json
import Conveyance.Proofs.Markup.Reading
import Conveyance.Proofs.Markup.Coherent
import Conveyance.Proofs.Markup.Fragment
import Conveyance.Proofs.Markup.Conservation
import Conveyance.Proofs.Catalog.Grammar
import Conveyance.Proofs.Scan
import Conveyance.Proofs.Markup.RowCodec
import Conveyance.Proofs.Markup.Lines
import Conveyance.Proofs.Markup.RowInk
import Conveyance.Proofs.Markup.TableBlock
import Conveyance.Proofs.Catalog.Table
import Conveyance.Proofs.Resolve.TableTemplate
import Conveyance.Proofs.Resolve.OneTable
import Conveyance.Proofs.Resolve.ManyTables
import Conveyance.Proofs.Typst.Lexeme
import Conveyance.Proofs.Typst.Outline
import Conveyance.Proofs.Resolve.OnePass
import Conveyance.Proofs.Exchange
import Conveyance.Proofs.Desk.Orderly
import Conveyance.Proofs.Desk.Gathering
import Conveyance.Proofs.Desk.Protocol
import Conveyance.Proofs.Markup.WellFormed
import Conveyance.Proofs.Markup.BlankLine
import Conveyance.Proofs.Resolve.LineEnds
import Conveyance.Proofs.Number.Sum
import Conveyance.Proofs.Catalog.Fields
import Conveyance.Proofs.Resolve.Readings
import Conveyance.Proofs.Desk.Preview
import Conveyance.Proofs.Catalog.Listing
import Conveyance.Proofs.Desk.SideBySide
import Conveyance.Proofs.Startup.Unset
import Conveyance.Proofs.Markup.LineBreak
import Conveyance.Proofs.Markup.HeadingExtent
import Conveyance.Proofs.Markup.RowReading
import Conveyance.Proofs.Markup.Parting
import Conveyance.Proofs.Money
import Conveyance.Proofs.Resolve.Totals
import Conveyance.Proofs.Checked.Rendering
import Conveyance.Proofs.Desk.Lookups
import Conveyance.Proofs.Desk.NameBlind
import Conveyance.Proofs.Startup.DatePattern
import Conveyance.Proofs.Storage.Leftover
import Conveyance.Proofs.Desk.Letterhead
import Conveyance.Proofs.Number.Groups
import Conveyance.Proofs.DocumentName
import Conveyance.Proofs.Storage.Confined
import Conveyance.Proofs.Desk.PageHeader
