import PolySql.Main
import PolySql.Proofs.CommandLine.Ddl
import PolySql.Proofs.Ddl.Accounting
import PolySql.Proofs.Ddl.BracketedNames
import PolySql.Proofs.Ddl.Lines
import PolySql.Proofs.Ddl.Outcome
import PolySql.Proofs.Ddl.UniqueNames
import PolySql.Proofs.Dialect.Spelling
import PolySql.Proofs.Layout.Repeat
import PolySql.Proofs.Page.Agreement
import PolySql.Proofs.Page.Aliases
import PolySql.Proofs.Page.Bytewise
import PolySql.Proofs.Page.Numbers
import PolySql.Proofs.Page.Outcome
import PolySql.Proofs.Page.Request
import PolySql.Proofs.Page.Tiling
import PolySql.Proofs.Table.Loading
import PolySql.Proofs.Text.Matching
import PolySql.Proofs.Text.Numeral
