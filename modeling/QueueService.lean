import QueueService.Dict.Lemmas
import QueueService.Main
import QueueService.Proofs.Address
import QueueService.Proofs.Admission
import QueueService.Proofs.Answer
import QueueService.Proofs.AttributeOrder
import QueueService.Proofs.AttributeStream
import QueueService.Proofs.AttributeVerdict
import QueueService.Proofs.DecodedForm
import QueueService.Proofs.Discretion
import QueueService.Proofs.Escape
import QueueService.Proofs.Existence
import QueueService.Proofs.Handle
import QueueService.Proofs.Isolation
import QueueService.Proofs.ItemNumber
import QueueService.Proofs.LimitUpdates
import QueueService.Proofs.LineEnds
import QueueService.Proofs.LiteralRange
import QueueService.Proofs.Locator
import QueueService.Proofs.Overtaking
import QueueService.Proofs.Parameters
import QueueService.Proofs.PolicyVerdict
import QueueService.Proofs.Recreation
import QueueService.Proofs.Redelivery
import QueueService.Proofs.RedriveGraph
import QueueService.Proofs.RedriveVerdict
import QueueService.Proofs.ResourceName
import QueueService.Proofs.Setting
import QueueService.Proofs.Store.Commutation
import QueueService.Proofs.Store.Nesting
import QueueService.Proofs.Store.Selection
import QueueService.Proofs.Window
