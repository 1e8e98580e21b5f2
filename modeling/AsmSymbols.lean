import AsmSymbols.Address
import AsmSymbols.Main
import AsmSymbols.Proofs.Recording
import AsmSymbols.Proofs.Scanner
import AsmSymbols.Proofs.Labels
import AsmSymbols.Proofs.Appending
import AsmSymbols.Proofs.Terms
import AsmSymbols.Proofs.Placement
import AsmSymbols.Proofs.Linking
import AsmSymbols.Proofs.Writing
import AsmSymbols.Proofs.RoundTrip
import AsmSymbols.Proofs.Coverage
import AsmSymbols.Proofs.LinkOutcome
import AsmSymbols.Proofs.LinkComposition
import AsmSymbols.Proofs.UpperCase
import AsmSymbols.Proofs.CaseBlindness
import AsmSymbols.Proofs.Restart
import AsmSymbols.Proofs.Comments
import AsmSymbols.Proofs.Files
import AsmSymbols.Proofs.Worlds
import AsmSymbols.Proofs.Runs
import AsmSymbols.Proofs.JsonGrammar
import AsmSymbols.Proofs.JsonReading
import AsmSymbols.Proofs.ReportReading
import AsmSymbols.Proofs.Arguments
import AsmSymbols.Proofs.Warnings
import AsmSymbols.Proofs.QuotedContent
import AsmSymbols.Proofs.CheckedSearch
import AsmSymbols.Proofs.InBounds
import AsmSymbols.Proofs.AddressHistory
import AsmSymbols.Proofs.LineEndings
import AsmSymbols.Proofs.OperandSplit
import AsmSymbols.Proofs.Matching
import AsmSymbols.Proofs.LiteralGrammar
import AsmSymbols.Proofs.Lookup
import AsmSymbols.Proofs.Progress
