import Diagnostics.Session
import Diagnostics.Main
import Diagnostics.Proofs.Idempotence
import Diagnostics.Proofs.LetterCase
import Diagnostics.Proofs.NextMatch
import Diagnostics.Proofs.LineLocality
import Diagnostics.Proofs.KindWords
import Diagnostics.Proofs.Advances
import Diagnostics.Proofs.Interleaving
import Diagnostics.Proofs.Tokenization
import Diagnostics.Proofs.Strictness
import Diagnostics.Proofs.Anchors
import Diagnostics.Proofs.Compilation
import Diagnostics.Proofs.CommandRuns
import Diagnostics.Proofs.Stripping
import Diagnostics.Proofs.Choices
import Diagnostics.Proofs.LeadingKind
import Diagnostics.Proofs.PresetRuns
import Diagnostics.Proofs.RustBlocks
import Diagnostics.Proofs.PhpLines
import Diagnostics.Proofs.Redefinition
import Diagnostics.Proofs.RecordFields
import Diagnostics.Proofs.OutputLines
import Diagnostics.Proofs.LineEnds
import Diagnostics.Proofs.LiteralParts
import Diagnostics.Proofs.Rendering
import Diagnostics.Proofs.SubstringSearch
import Diagnostics.Proofs.OwnSpelling
import Diagnostics.Proofs.StrippedLines
import Diagnostics.Proofs.Remnants
import Diagnostics.Proofs.VocabularySteps
import Diagnostics.Proofs.PatternSize
import Diagnostics.Proofs.WordOrder
import Diagnostics.Proofs.SynonymGrammar
import Diagnostics.Proofs.Seams
