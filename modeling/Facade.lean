import Facade.CommandLine
import Facade.Main
import Facade.Proofs.Emission
import Facade.Proofs.Erasure
import Facade.Proofs.HiddenInput
import Facade.Proofs.BraceFree
import Facade.Proofs.CodeLines
import Facade.Proofs.TidyPieces
import Facade.Proofs.Blocks
import Facade.Proofs.BlankLines
import Facade.Proofs.Gathering
import Facade.Proofs.Reordering
import Facade.Proofs.RuntimePaths
import Facade.Proofs.DottedNamespaces
import Facade.Proofs.NestedTraits
import Facade.Proofs.Reading
import Facade.Proofs.WellRead
import Facade.Proofs.SignatureReading
import Facade.Proofs.TypeReading
import Facade.Proofs.JoinedTypes
import Facade.Proofs.WholeTypes
import Facade.Proofs.MemberReading
import Facade.Proofs.StatementReading
import Facade.Proofs.DeclarationPrefixes
import Facade.Proofs.TokenRuns
import Facade.Proofs.SpelledTypes
import Facade.Proofs.SpelledReading
import Facade.Proofs.SpelledFunctions
import Facade.Proofs.RepeatedBatches
import Facade.Proofs.CommandRuns
import Facade.Proofs.UnionAlternatives
import Facade.Proofs.Brackets
import Facade.Proofs.TypeSyntax
import Facade.Proofs.RestParameters
import Facade.Proofs.TypeMeaning
import Facade.Proofs.WriterRuns
import Facade.Proofs.RepeatedMembers
import Facade.Proofs.ParamLists
import Facade.Proofs.Definitions
import Facade.Proofs.ShownDefinitions
import Facade.Proofs.QuotedNames
import Facade.Proofs.ParamNames
import Facade.Proofs.CommentedTexts
