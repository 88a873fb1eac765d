import TricoreSdk.Lib.Action
import TricoreSdk.Lib.Monitor
import TricoreSdk.Lib.Coupling
import TricoreSdk.Lib.Codec
import TricoreSdk.Lib.JsonText
import TricoreSdk.Lib.Shape
import TricoreSdk.Lib.Units
import TricoreSdk.Lib.SortedMap
import TricoreSdk.Lib.Numerals
import TricoreSdk.Lib.BinaryFloat
import TricoreSdk.Error
import TricoreSdk.Options
import TricoreSdk.Frame
import TricoreSdk.Value
import TricoreSdk.Params
import TricoreSdk.Response
import TricoreSdk.Host
import TricoreSdk.Client
import TricoreSdk.Exchange
import TricoreSdk.SetUp
import TricoreSdk.Sql
import TricoreSdk.RequestTxn
import TricoreSdk.Typed
import TricoreSdk.Call
import TricoreSdk.Footprint
import TricoreSdk.Scripted
import TricoreSdk.AtMostOnce
import TricoreSdk.Binding
import TricoreSdk.Capability
import TricoreSdk.RequestCalls
import TricoreSdk.PublicCall
import TricoreSdk.Script
import TricoreSdk.ScriptBinding
import TricoreSdk.PlainDecimal
import TricoreSdk.Fatality
import TricoreSdk.Stream
import TricoreSdk.FrameStream
import TricoreSdk.StaleReply
import TricoreSdk.Session
import TricoreSdk.TxnServer
import TricoreSdk.TxnView
import TricoreSdk.WithTransaction
import TricoreSdk.ControlReply
import TricoreSdk.Deadline
import TricoreSdk.Settings
import TricoreSdk.Channel
import TricoreSdk.Pool
import TricoreSdk.PoolSystem
import TricoreSdk.PoolInvariant
import TricoreSdk.PoolWaiting
import TricoreSdk.PoolLive
import TricoreSdk.PoolCleanUp
import TricoreSdk.PoolUnwind
import TricoreSdk.LocalRefusal
import TricoreSdk.PoolNoninterference
import TricoreSdk.RowsByName
import TricoreSdk.ByteValues
import TricoreSdk.NamedTxn
import TricoreSdk.CacheTtl
import TricoreSdk.RequestIds
import TricoreSdk.LeaderPauses
import TricoreSdk.CollectionOptions
import TricoreSdk.VectorSearch
import TricoreSdk.TimeArithmetic
import TricoreSdk.FrameGrammar
import TricoreSdk.HexText
import TricoreSdk.Addresses
import TricoreSdk.LeaderAddress
import TricoreSdk.Conversation
import TricoreSdk.PoolConversation
import TricoreSdk.PoolQuiescence
import TricoreSdk.PoolSession
import TricoreSdk.Lib.Progress
import TricoreSdk.Secrecy
import TricoreSdk.Observers
import TricoreSdk.Stubs
import TricoreSdk.Documents
import TricoreSdk.DocumentCalls
import TricoreSdk.CacheCalls
import TricoreSdk.CacheMethods
import TricoreSdk.CacheStubs
import TricoreSdk.GraphCalls
import TricoreSdk.GraphMethods
import TricoreSdk.VectorCalls
import TricoreSdk.VectorMethods
import TricoreSdk.LlmCalls
import TricoreSdk.Requests
import TricoreSdk.Lib.Remote
import TricoreSdk.TypedCalls
import TricoreSdk.Backdrop
import TricoreSdk.RemoteDatabase
import TricoreSdk.Replies
import TricoreSdk.StoredOptions
import TricoreSdk.Ledger
import TricoreSdk.PoolLedger
