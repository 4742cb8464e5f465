import DialogueMarkup.Main
import DialogueMarkup.Preview.Form
import DialogueMarkup.Preview.Pane
import DialogueMarkup.Preview.Panel
import DialogueMarkup.Proofs.Lint
import DialogueMarkup.Proofs.ReadSet
import DialogueMarkup.Proofs.ConditionText
import DialogueMarkup.Proofs.Complaints
import DialogueMarkup.Proofs.Guards
import DialogueMarkup.Proofs.Isolation
import DialogueMarkup.Proofs.FixedPoint
import DialogueMarkup.Proofs.Idempotence
import DialogueMarkup.Proofs.Ceiling
import DialogueMarkup.Proofs.SpanRounds
import DialogueMarkup.Proofs.Phrase
import DialogueMarkup.Proofs.PlainText
import DialogueMarkup.Proofs.Articles
import DialogueMarkup.Proofs.Silence
import DialogueMarkup.Proofs.CurrentScope
import DialogueMarkup.Proofs.Decimals
import DialogueMarkup.Proofs.Display
import DialogueMarkup.Proofs.Reconfiguration
import DialogueMarkup.Proofs.Choices
import DialogueMarkup.Proofs.Writes
import DialogueMarkup.Proofs.FormSession
import DialogueMarkup.Proofs.EscapeName
import DialogueMarkup.Proofs.DroppedChoices
import DialogueMarkup.Proofs.Emptiness
import DialogueMarkup.Proofs.SwitchGrammar
import DialogueMarkup.Proofs.ComparisonGrammar
import DialogueMarkup.Proofs.ComparisonSymmetry
import DialogueMarkup.Proofs.PartyConditions
import DialogueMarkup.Proofs.SlotAddresses
import DialogueMarkup.Proofs.BraceMatching
import DialogueMarkup.Proofs.Occurrences
import DialogueMarkup.Proofs.ArticleOfPhrase
import DialogueMarkup.Proofs.ThousandsGroups
import DialogueMarkup.Proofs.Tiers
import DialogueMarkup.Proofs.UnreadableTiers
import DialogueMarkup.Proofs.Utf8
import DialogueMarkup.Proofs.GuardedFragments
import DialogueMarkup.Proofs.FailedUpdates
import DialogueMarkup.Proofs.Punctuation
import DialogueMarkup.Proofs.Listing
import DialogueMarkup.Proofs.StateFiles
import DialogueMarkup.Proofs.Overrides
import DialogueMarkup.Proofs.CommandOutput
