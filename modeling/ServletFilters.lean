import ServletFilters.Main
import ServletFilters.Proofs.Accounting
import ServletFilters.Proofs.Checking
import ServletFilters.Proofs.DeclarationOrder
import ServletFilters.Proofs.Declaring
import ServletFilters.Proofs.DispatcherNames
import ServletFilters.Proofs.EitherForm
import ServletFilters.Proofs.Isolation
import ServletFilters.Proofs.KindRules
import ServletFilters.Proofs.LivePatterns
import ServletFilters.Proofs.OctetMatching
import ServletFilters.Proofs.OneMore
import ServletFilters.Proofs.PatternGrammar
import ServletFilters.Proofs.PatternLanguage
import ServletFilters.Proofs.ReadBack
import ServletFilters.Proofs.Reload
import ServletFilters.Proofs.Resolving
import ServletFilters.Proofs.Segments
import ServletFilters.Proofs.Violations
import ServletFilters.Session
import ServletFilters.UrlPattern.Octets
