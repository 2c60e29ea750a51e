import CoverAI.Calendar.Gregorian
import CoverAI.Txn.Table
import CoverAI.Txn.LockDiscipline
import CoverAI.Txn.Turns
import CoverAI.Txn.Claims
import CoverAI.Api.Payments
import CoverAI.Api.Promocodes
import CoverAI.Api.Admin
import CoverAI.Api.Generations
import CoverAI.Bot.Runtime
import CoverAI.Workers.Tasks
import CoverAI.Billing.IntentLifeCycle
import CoverAI.Billing.Settlement
import CoverAI.Billing.ConcurrentBalance
import CoverAI.Billing.PlanAgreement
import CoverAI.Billing.FullPeriods
import CoverAI.Billing.AdminExpiry
import CoverAI.Generation.Charge
import CoverAI.Generation.Failure
import CoverAI.Generation.Enqueue
import CoverAI.Generation.Redelivery
import CoverAI.Generation.Quota
import CoverAI.Generation.BotQuota
import CoverAI.Generation.QueueNames
import CoverAI.Generation.QuotaRace
import CoverAI.Generation.PlaceholderRace
import CoverAI.Generation.Queue
import CoverAI.Generation.Tones
import CoverAI.Promo.ConcurrentRedemption
import CoverAI.Promo.SingleUse
import CoverAI.Generation.Letters
import CoverAI.Generation.ResumeBlind
import CoverAI.Generation.Snapshot
import CoverAI.Vacancy.Staleness
import CoverAI.Vacancy.Placement
import CoverAI.Generation.Placement
import CoverAI.Txn.Relational
import CoverAI.Txn.Acceptance
import CoverAI.Access.Isolation
import CoverAI.Access.Registration
import CoverAI.Vacancy.UrlGrammar
import CoverAI.Vacancy.HtmlCapture
import CoverAI.Vacancy.HtmlFallback
import CoverAI.Access.History
import CoverAI.Profile.StoredText
import CoverAI.Vacancy.CaptureStack
import CoverAI.Vacancy.EmployerFallback
import CoverAI.Billing.QuotaPeriods
import CoverAI.Billing.ExternalIds
import CoverAI.Generation.PromptLines
import CoverAI.Generation.DescriptionLimit
import CoverAI.Promo.Creation
import CoverAI.Bot.PendingLinks
import CoverAI.Txn.Knowledge
import CoverAI.Txn.References
import CoverAI.System.Facts
import CoverAI.System.Writes
import CoverAI.System.Learning
import CoverAI.System.Executions
import CoverAI.Api.Profile
import CoverAI.Api.Bootstrap
import CoverAI.System.Routes
import CoverAI.System.Entries
import CoverAI.System.Coherence
import CoverAI.Coop.Talk
import CoverAI.Bot.Messages
import CoverAI.Bot.Parsing
import CoverAI.Bot.Dispatch
import CoverAI.Bot.Resumes
import CoverAI.Bot.HandlerEffects
import CoverAI.Bot.Updates
import CoverAI.Bot.Replies
import CoverAI.Bot.HistoryCommands
import CoverAI.Txn.Roster
import CoverAI.System.Permanence
import CoverAI.System.BlindCalls
import CoverAI.System.Snapshots
