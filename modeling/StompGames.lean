import StompGames.Client.Agreement
import StompGames.Client.EventTransport
import StompGames.Client.Resilience
import StompGames.Client.ServerFrames
import StompGames.Client.Summary
import StompGames.Client.TypedLines
import StompGames.Concurrency.ClientRuns
import StompGames.Concurrency.JoinRace
import StompGames.Concurrency.LoginWinner
import StompGames.Concurrency.LogoutOverlap
import StompGames.Concurrency.ReloginRace
import StompGames.Concurrency.SubscriptionRace
import StompGames.Network.Convergence
import StompGames.Network.ReportedFile
import StompGames.Reactor.ActorProgress
import StompGames.Reactor.ContinueWrite
import StompGames.Reactor.EndOfStream
import StompGames.Reactor.ReactorConnections
import StompGames.Reactor.SelectorLoop
import StompGames.Server.BlockingAnswers
import StompGames.Server.BlockingConnectionHandler
import StompGames.Server.DisconnectReceipt
import StompGames.Server.ExecuteSql
import StompGames.Server.Isolation
import StompGames.Server.LoginHistory
import StompGames.Server.ReportContent
import StompGames.Server.SendBody
import StompGames.Server.SqlService
import StompGames.Server.SqlTokens
import StompGames.Server.SubscriptionIndex
import StompGames.Server.TotalOrder
import StompGames.Server.UnsubscribeIds
import StompGames.Server.UserTables
