import Cardfile.Main
import Cardfile.Table.Cursor
import Cardfile.Table.Ledger
import Cardfile.Query.Tokens
import Cardfile.Query.Written
import Cardfile.Proofs.Table.FiniteMap
import Cardfile.Proofs.Table.FailFast
import Cardfile.Proofs.Store.Plan
import Cardfile.Proofs.Store.FirstBadLine
import Cardfile.Proofs.Query.QuotedParts
import Cardfile.Proofs.Store.Conjunction
import Cardfile.Proofs.Collation.Dictionary
import Cardfile.Proofs.Collation.Classes
import Cardfile.Proofs.Store.LineEnds
import Cardfile.Proofs.Table.Capacity
import Cardfile.Proofs.Table.AnyCursor
import Cardfile.Proofs.Query.Wildcard
import Cardfile.Proofs.Shell.Session
import Cardfile.Proofs.Table.Union
import Cardfile.Proofs.Collation.Same
import Cardfile.Proofs.Collation.Prefixes
import Cardfile.Proofs.Collation.LowerCase
import Cardfile.Proofs.Collation.Hyphens
import Cardfile.Proofs.Query.Script
import Cardfile.Proofs.Query.Groups
import Cardfile.Proofs.Schema.Spelling
import Cardfile.Proofs.Record.View
import Cardfile.Proofs.Collation.Letters
import Cardfile.Proofs.Command
import Cardfile.Proofs.Table.Regular
