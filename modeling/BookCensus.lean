import BookCensus.Census.Session
import BookCensus.Files.Edit
import BookCensus.Json.Parser
import BookCensus.Main
import BookCensus.Proofs.RouteOrder
import BookCensus.Proofs.ScanMeaning
import BookCensus.Proofs.MarkerOccurrence
import BookCensus.Proofs.HybridGrammar
import BookCensus.Proofs.QuoteBlind
import BookCensus.Proofs.TokenReaders
import BookCensus.Proofs.QuotationMarks
import BookCensus.Proofs.JsonGrammar
import BookCensus.Proofs.SelectorAgreement
import BookCensus.Proofs.RequestRuns
import BookCensus.Proofs.SectionOrder
import BookCensus.Proofs.PathResolution
import BookCensus.Proofs.RootConfinement
import BookCensus.Proofs.DisplayRoundTrip
import BookCensus.Proofs.BookRequests
import BookCensus.Proofs.MemberNames
import BookCensus.Proofs.NestedSections
import BookCensus.Proofs.ReportRoundTrip
import BookCensus.Proofs.RequestSelectors
import BookCensus.Proofs.CheckedCatalogs
import BookCensus.Proofs.ParentDirectory
import BookCensus.Proofs.AnchoredCatalogs
import BookCensus.Proofs.ChapterHeadings
import BookCensus.Proofs.ProgramOutput
import BookCensus.Proofs.WordSequences
import BookCensus.Proofs.SubstringMatches
import BookCensus.Proofs.EnclosingMatches
import BookCensus.Proofs.ArenaLinks
import BookCensus.Proofs.TreeConstruction
import BookCensus.Proofs.SerialNumbers
import BookCensus.Proofs.TitleRule
import BookCensus.Proofs.Outlines
import BookCensus.Proofs.TitleLocality
import BookCensus.Proofs.CatalogDefects
import BookCensus.Proofs.SelectorPadding
import BookCensus.Proofs.OpaqueArguments
import BookCensus.Proofs.PatternStretches
import BookCensus.Proofs.PlainPatterns
import BookCensus.Proofs.TextModes
import BookCensus.Proofs.CollapsedForm
import BookCensus.Proofs.RepeatedMarkers
import BookCensus.Proofs.SizeLimits
import BookCensus.Proofs.TitleSpacing
