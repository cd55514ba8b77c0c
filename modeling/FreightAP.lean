import FreightAP.VerdictEvidence
import FreightAP.Workflow.Arrival
import FreightAP.Assembly.Attachments
import FreightAP.Assembly.Latest
import FreightAP.Assembly.Confluence
import FreightAP.Sla.Transitions
import FreightAP.Sla.Scan
import FreightAP.Sla.Page
import FreightAP.Review.Agreement
import FreightAP.Notifications.Loss
import FreightAP.Notifications.Health
import FreightAP.Reports
import FreightAP.Worker.Decisions
import FreightAP.Worker.Stranded
import FreightAP.Worker.NewestCheckpoint
import FreightAP.Lib.Stream
import FreightAP.Lib.StreamRange
import FreightAP.Queue.System
import FreightAP.Queue.Attempts
import FreightAP.Queue.OneJob
import FreightAP.Queue.Ghost
import FreightAP.Queue.Purge
import FreightAP.Queue.Paging
import FreightAP.Queue.Cycles
import FreightAP.Queue.Orphans
import FreightAP.Extraction.Role
import FreightAP.Migration.Readiness
import FreightAP.Migration.RoundTrip
import FreightAP.Gmail.MimeTree
import FreightAP.Migration.LoadNumbers
import FreightAP.Health.Lifespan
import FreightAP.Worker.Loop
import FreightAP.Worker.Polling
import FreightAP.Gmail.Intake
import FreightAP.Queue.Metrics
import FreightAP.Queue.Operations
import FreightAP.ReconciliationLines
