import OrderNarration.Main
import OrderNarration.Logging.Template
import OrderNarration.Narration.Cursor
import OrderNarration.Problem
import OrderNarration.Proofs.JsonValues
import OrderNarration.Proofs.ShownValues
import OrderNarration.Proofs.Answers
import OrderNarration.Proofs.OrderFaults
import OrderNarration.Proofs.LogContainment
import OrderNarration.Proofs.BigEndian
import OrderNarration.Proofs.CanonicalRlp
import OrderNarration.Proofs.ReceiptEvents
import OrderNarration.Proofs.ScanFindings
import OrderNarration.Proofs.ScanAccount
import OrderNarration.Proofs.ScanSurvival
import OrderNarration.Proofs.StrictUtf8
import OrderNarration.Proofs.EtherFractions
import OrderNarration.Proofs.StoredPayloads
import OrderNarration.Proofs.StoredTexts
import OrderNarration.Proofs.LogShapes
import OrderNarration.Proofs.MessageLines
import OrderNarration.Proofs.ReceiptGroups
import OrderNarration.Proofs.CursorSteps
import OrderNarration.Proofs.StepByStep
import OrderNarration.Proofs.JsonGrammar
import OrderNarration.Proofs.JsonStrings
import OrderNarration.Proofs.JsonNumbers
import OrderNarration.Proofs.JsonTexts
import OrderNarration.Proofs.JsonLongIntegers
import OrderNarration.Proofs.OrderInputs
import OrderNarration.Proofs.StatedSides
import OrderNarration.Proofs.Requests
import OrderNarration.Proofs.PrintedLines
import OrderNarration.Proofs.PrintedRuns
import OrderNarration.Proofs.ExitCodes
import OrderNarration.Proofs.AskedLookups
import OrderNarration.Proofs.Warnings
import OrderNarration.Proofs.SingleTransactions
import OrderNarration.Proofs.Spellings
import OrderNarration.Proofs.AlikeRuns
import OrderNarration.Proofs.Respelling
import OrderNarration.Proofs.CutRuns
import OrderNarration.Proofs.Interrupts
import OrderNarration.Proofs.CutPayloads
import OrderNarration.Proofs.IdLists
import OrderNarration.Proofs.EtherTexts
import OrderNarration.Proofs.IntegerNumerals
import OrderNarration.Proofs.ValueTexts
import OrderNarration.Proofs.OrderResolutions
import OrderNarration.Proofs.IndependentLegs
import OrderNarration.Proofs.ValidInput
import OrderNarration.Proofs.TextLines
import OrderNarration.Proofs.PrintedRecords
import OrderNarration.Proofs.JsonRecords
import OrderNarration.Proofs.LowercaseTexts
import OrderNarration.Proofs.TopicTables
import OrderNarration.Proofs.DottedNames
import OrderNarration.Proofs.RoutingSteps
import OrderNarration.Proofs.LogLines
import OrderNarration.Proofs.RoutedRecords
