import BnsKorea.Library.Machines
import BnsKorea.Library.FirstFit
import BnsKorea.Library.OrderedMaps
import BnsKorea.Library.Places
import BnsKorea.Library.Sorting
import BnsKorea.Library.Slots
import BnsKorea.Library.Pool
import BnsKorea.Library.Numbered
import BnsKorea.Library.Parts
import BnsKorea.Library.Thinning
import BnsKorea.Library.LastWrites
import BnsKorea.Library.Readers
import BnsKorea.Library.Bytes
import BnsKorea.Library.Sha1
import BnsKorea.Library.Otp
import BnsKorea.Library.Printf
import BnsKorea.Common.ServerCommon
import BnsKorea.Common.MyTools
import BnsKorea.Common.SocketBuffer
import BnsKorea.CrossAreaTeam.Model
import BnsKorea.CrossAreaTeam.Turns
import BnsKorea.CrossAreaTeam.Effects
import BnsKorea.CrossAreaTeam.Invariant
import BnsKorea.CrossAreaTeam.Matching
import BnsKorea.CrossAreaTeam.Seats
import BnsKorea.CrossAreaTeam.Fate
import BnsKorea.CrossAreaTeam.Polls
import BnsKorea.CrossAreaTeam.Room
import BnsKorea.TaskTeam.Model
import BnsKorea.TaskTeam.Teams
import BnsKorea.TaskTeam.Joins
import BnsKorea.TaskTeam.Invariant
import BnsKorea.TaskTeam.Replies
import BnsKorea.TaskTeam.Titles
import BnsKorea.TaskTeam.Placement
import BnsKorea.TaskTeam.Leaving
import BnsKorea.TaskTeam.Queries
import BnsKorea.TaskTeam.Channels
import BnsKorea.TaskTeam.Schedules
import BnsKorea.Trade.Model
import BnsKorea.Trade.Queues
import BnsKorea.Trade.HandOut
import BnsKorea.Trade.Expiry
import BnsKorea.Trade.FirstCome
import BnsKorea.Trade.Presence
import BnsKorea.Trade.Idle
import BnsKorea.Config.CloudConfig
import BnsKorea.Server.Services
import BnsKorea.Server.Answer
import BnsKorea.Server.EchoPacket
import BnsKorea.Server.GameServer
import BnsKorea.Server.Dispatch
import BnsKorea.Server.Sessions
import BnsKorea.Server.Effective
import BnsKorea.Server.RefusedLogin
import BnsKorea.Library.Refills
import BnsKorea.Library.Texts
import BnsKorea.Library.Selections
import BnsKorea.Library.EdgeWalks
import BnsKorea.Library.LinkedTrees
import BnsKorea.Library.Numerals
import BnsKorea.Library.Crc
import BnsKorea.Server.DbManager
import BnsKorea.Server.OtpAnswers
import BnsKorea.Server.Takeover
import BnsKorea.Server.Projections
import BnsKorea.Server.Departure
import BnsKorea.Server.Refresh
import BnsKorea.Otp.Sha1
import BnsKorea.Otp.Rounds
import BnsKorea.Otp.Streaming
import BnsKorea.Otp.Totp
import BnsKorea.Otp.Keys
import BnsKorea.Otp.Passwords
import BnsKorea.Otp.BadKeys
import BnsKorea.Otp.LongKeys
import BnsKorea.Otp.Counter
import BnsKorea.Client.SocketAPI
import BnsKorea.Client.Requests
import BnsKorea.Client.Responses
import BnsKorea.Client.CardQueries
import BnsKorea.Client.TeamRecord
import BnsKorea.Client.ConsoleClient
import BnsKorea.Console.AccountMgr
import BnsKorea.Console.Table
import BnsKorea.Console.OtherClients
import BnsKorea.Console.Cards
import BnsKorea.Console.CheckCard
import BnsKorea.Console.CardQuery
import BnsKorea.Console.CardRecords
import BnsKorea.OldServer.Receiving
import BnsKorea.OldServer.SocketServer
import BnsKorea.OldServer.Breaking
import BnsKorea.OldServer.OneTimePassword
import BnsKorea.Updater.Model
import BnsKorea.Updater.Manifest
import BnsKorea.Updater.Check
import BnsKorea.Updater.Install
import BnsKorea.Game.MainThread
import BnsKorea.Game.Interleavings
import BnsKorea.Common.Buffers
import BnsKorea.Server.ScriptFile
import BnsKorea.Game.TransferScript
import BnsKorea.Library.Retries
import BnsKorea.Server.DailyTask
import BnsKorea.Game.DailyTasks
import BnsKorea.Game.ScriptDownload
import BnsKorea.Game.TaskUpgradeMgr
import BnsKorea.Game.TeamSchedule
import BnsKorea.Console.AccountFile
import BnsKorea.Config.BnsConfig
import BnsKorea.Config.ClearAccount
import BnsKorea.Game.FindPath
import BnsKorea.Game.PathSearch
import BnsKorea.Game.PathRuns
import BnsKorea.Game.PathLinks
import BnsKorea.Game.DeadPoint
import BnsKorea.Game.Bags
import BnsKorea.Game.BagFunction
import BnsKorea.Game.PlayerTransaction
import BnsKorea.Game.HideUiSkills
import BnsKorea.Library.Gregorian
import BnsKorea.Game.AddDay
import BnsKorea.Game.MailAction
import BnsKorea.Game.SupplyMail
import BnsKorea.Game.MailReserve
import BnsKorea.CreateCard.Program
import BnsKorea.CreateCard.Reports
import BnsKorea.CreateCard.Hours
import BnsKorea.CreateCard.CheckSum
import BnsKorea.Library.Memories
import BnsKorea.Library.Relocation
import BnsKorea.SerialNumber.SizeOfCode
import BnsKorea.SerialNumber.InlineHook
import BnsKorea.SerialNumber.Trampoline
import BnsKorea.SerialNumber.HardSerial
import BnsKorea.OldServer.BnsDeal
import BnsKorea.OldServer.DealRefinement
import BnsKorea.Library.EventQueues
import BnsKorea.OldServer.Threads
import BnsKorea.OldServer.BnsTeam
import BnsKorea.OldServer.TeamRefinement
import BnsKorea.OldServer.VerManage
import BnsKorea.OldServer.VerSocket
import BnsKorea.OldServer.LastLogin
import BnsKorea.Game.DailyTaskTeam
import BnsKorea.Library.Renames
import BnsKorea.Console.OptimizeGame
import BnsKorea.Server.ScriptDirectory
import BnsKorea.Console.ConsoleLog
