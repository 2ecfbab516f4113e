import QuestAcademy.Agent
import QuestAcademy.Arena
import QuestAcademy.Board
import QuestAcademy.Decimal.Binary
import QuestAcademy.Decimal.Digits
import QuestAcademy.Decimal.Layout
import QuestAcademy.Decimal.Shortest
import QuestAcademy.Difficulty
import QuestAcademy.Document
import QuestAcademy.Document.Reading
import QuestAcademy.Environment
import QuestAcademy.Folder
import QuestAcademy.Guild
import QuestAcademy.InstanceKey
import QuestAcademy.Json
import QuestAcademy.Json.Reader
import QuestAcademy.Judging
import QuestAcademy.Keyed
import QuestAcademy.Level
import QuestAcademy.Limit
import QuestAcademy.Mentors
import QuestAcademy.Payload
import QuestAcademy.Permit
import QuestAcademy.Plan
import QuestAcademy.Plan.Arena
import QuestAcademy.Plan.Fault
import QuestAcademy.Plan.Load
import QuestAcademy.Plan.Roster
import QuestAcademy.Plan.Targets
import QuestAcademy.Proficiency
import QuestAcademy.Progress
import QuestAcademy.Progress.Channel
import QuestAcademy.Proofs.AgentAvailability
import QuestAcademy.Proofs.AgentProgress
import QuestAcademy.Proofs.AgentTable
import QuestAcademy.Proofs.Agreement
import QuestAcademy.Proofs.Announcements
import QuestAcademy.Proofs.ArenaCourse
import QuestAcademy.Proofs.ArenaFrame
import QuestAcademy.Proofs.AttemptForecast
import QuestAcademy.Proofs.AttemptFrame
import QuestAcademy.Proofs.AttemptReport
import QuestAcademy.Proofs.AttemptSettlement
import QuestAcademy.Proofs.AttemptUpshot
import QuestAcademy.Proofs.BatchNames
import QuestAcademy.Proofs.BoardAtomicity
import QuestAcademy.Proofs.BoardCalls
import QuestAcademy.Proofs.BoardHistory
import QuestAcademy.Proofs.CanonicalKeys
import QuestAcademy.Proofs.DryRun
import QuestAcademy.Proofs.EarnedExperience
import QuestAcademy.Proofs.GrantedExperience
import QuestAcademy.Proofs.GuildJoining
import QuestAcademy.Proofs.GuildMembership
import QuestAcademy.Proofs.GuildRules
import QuestAcademy.Proofs.HallReads
import QuestAcademy.Proofs.HallView
import QuestAcademy.Proofs.HaltedRun
import QuestAcademy.Proofs.HaltedSeeding
import QuestAcademy.Proofs.HostedCalls
import QuestAcademy.Proofs.InsertionOrder
import QuestAcademy.Proofs.JsonValues
import QuestAcademy.Proofs.JudgedCriteria
import QuestAcademy.Proofs.LastingPermit
import QuestAcademy.Proofs.MentorBootstrap
import QuestAcademy.Proofs.MentorChoice
import QuestAcademy.Proofs.MentorNames
import QuestAcademy.Proofs.MentorTurns
import QuestAcademy.Proofs.PartialReport
import QuestAcademy.Proofs.PassingRound
import QuestAcademy.Proofs.PayloadCodecs
import QuestAcademy.Proofs.PlanRefusal
import QuestAcademy.Proofs.PlanRestoring
import QuestAcademy.Proofs.Progression
import QuestAcademy.Proofs.ProgressionInvariant
import QuestAcademy.Proofs.QuestAccounting
import QuestAcademy.Proofs.QuestBudget
import QuestAcademy.Proofs.QuestLifecycle
import QuestAcademy.Proofs.ReadyHall
import QuestAcademy.Proofs.ReceiptChange
import QuestAcademy.Proofs.RecordedProficiency
import QuestAcademy.Proofs.Recording
import QuestAcademy.Proofs.Rereading
import QuestAcademy.Proofs.Restoring
import QuestAcademy.Proofs.RosterAccounting
import QuestAcademy.Proofs.RosterCourse
import QuestAcademy.Proofs.RosterForecast
import QuestAcademy.Proofs.RosterPlacement
import QuestAcademy.Proofs.RosterPreservation
import QuestAcademy.Proofs.RosterReseeding
import QuestAcademy.Proofs.RoundOrder
import QuestAcademy.Proofs.RunConvergence
import QuestAcademy.Proofs.RunInvariant
import QuestAcademy.Proofs.RunOrder
import QuestAcademy.Proofs.RunOutcome
import QuestAcademy.Proofs.Shadowing
import QuestAcademy.Proofs.ShownCourse
import QuestAcademy.Proofs.StoreCalls
import QuestAcademy.Proofs.StoreMirror
import QuestAcademy.Proofs.TemplateChoice
import QuestAcademy.Proofs.TierAdvice
import QuestAcademy.Proofs.TierGoals
import QuestAcademy.Proofs.TradingLoops
import QuestAcademy.Proofs.TraineeNames
import QuestAcademy.Proofs.TraineePreparation
import QuestAcademy.Proofs.TraineeRecords
import QuestAcademy.Proofs.TrainingConvergence
import QuestAcademy.Proofs.TrainingCourse
import QuestAcademy.Proofs.TrainingEnd
import QuestAcademy.Proofs.TrainingInvariant
import QuestAcademy.Proofs.TrainingOrder
import QuestAcademy.Proofs.VerdictDirection
import QuestAcademy.Proofs.VerdictLedger
import QuestAcademy.Proofs.WideIntegers
import QuestAcademy.Proofs.WorkLog
import QuestAcademy.Quest
import QuestAcademy.Random
import QuestAcademy.Random.Block
import QuestAcademy.Rehearsal
import QuestAcademy.Report
import QuestAcademy.Roster
import QuestAcademy.Rubric
import QuestAcademy.Selection
import QuestAcademy.Store
import QuestAcademy.Template
import QuestAcademy.Template.Bundled
import QuestAcademy.Template.Curriculum
import QuestAcademy.Template.Source
import QuestAcademy.Text.Blank
import QuestAcademy.Text.Hexadecimal
import QuestAcademy.Text.Hidden
import QuestAcademy.Text.Quoted
import QuestAcademy.Tier
import QuestAcademy.Timestamp
import QuestAcademy.Training
import QuestAcademy.Yaml.Cursor
import QuestAcademy.Yaml.Node
import QuestAcademy.Yaml.Node.Parser
import QuestAcademy.Yaml.Scalar
import QuestAcademy.Yaml.ScalarText
import QuestAcademy.Yaml.Token
import QuestAcademy.Yaml.Token.Lexer
import QuestAcademy.Yaml.Token.Tag
import QuestAcademy.Yaml.Writer
