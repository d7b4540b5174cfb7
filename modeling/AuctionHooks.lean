import AuctionHooks.Main
import AuctionHooks.Session
import AuctionHooks.Document.Codec.Monitor
import AuctionHooks.Proofs.Attempt
import AuctionHooks.Proofs.Passage
import AuctionHooks.Proofs.GroupOrder
import AuctionHooks.Proofs.PayloadLaw
import AuctionHooks.Proofs.History
import AuctionHooks.Proofs.KeptLaw
import AuctionHooks.Proofs.Erasure
import AuctionHooks.Proofs.Race
import AuctionHooks.Proofs.Steps
import AuctionHooks.Proofs.TimeLaw
import AuctionHooks.Proofs.Mirror
import AuctionHooks.Proofs.Merging
import AuctionHooks.Proofs.AccountLaw
import AuctionHooks.Proofs.MonitorLaw
import AuctionHooks.Proofs.Muted
import AuctionHooks.Proofs.LateLaw
import AuctionHooks.Proofs.Standstill
import AuctionHooks.Proofs.Starts
import AuctionHooks.Proofs.Repetition
import AuctionHooks.Proofs.JsonLaw
import AuctionHooks.Proofs.Arrangement
import AuctionHooks.Proofs.DocumentRecordLaw
import AuctionHooks.Proofs.CodecLaw
import AuctionHooks.Proofs.RoundTrip
import AuctionHooks.Proofs.ByteOrder
import AuctionHooks.Proofs.Sequence
import AuctionHooks.Proofs.FileName
import AuctionHooks.Proofs.DirectoryLaw
import AuctionHooks.Proofs.Layering
import AuctionHooks.Proofs.AttemptRecordLaw
import AuctionHooks.Proofs.Tearing
import AuctionHooks.Proofs.VerdictLaw
import AuctionHooks.Proofs.Regrouping
import AuctionHooks.Proofs.Withdrawal
import AuctionHooks.Proofs.PlanLaw
import AuctionHooks.Proofs.Batches
import AuctionHooks.Proofs.ValidityLaw
import AuctionHooks.Proofs.MergedValidity
import AuctionHooks.Proofs.StageKeys
import AuctionHooks.Proofs.FieldLaw
import AuctionHooks.Proofs.StageName
import AuctionHooks.Proofs.LogLaw
import AuctionHooks.Proofs.RecorderLaw
import AuctionHooks.Proofs.StatisticsLaw
import AuctionHooks.Proofs.AlertLaw
