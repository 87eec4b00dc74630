import CppRedis.Lib.Text
import CppRedis.Lib.Consumer
import CppRedis.Reply
import CppRedis.Builders
import CppRedis.Chunking
import CppRedis.RoundTrip
import CppRedis.Reset
import CppRedis.Command
import CppRedis.Lib.Procedure
import CppRedis.Connection
import CppRedis.Client
import CppRedis.Resend
import CppRedis.Databases
import CppRedis.Calls
import CppRedis.Flag
import CppRedis.Alignment
import CppRedis.Realignment
import CppRedis.Callbacks
import CppRedis.Owners
import CppRedis.Attempts
import CppRedis.Authentication
import CppRedis.Counting
import CppRedis.Mirror
import CppRedis.Segments
import CppRedis.Sentinel
import CppRedis.Soundness
import CppRedis.Stale
import CppRedis.Targets
import CppRedis.Threads
import CppRedis.Wire
import CppRedis.Numerals
import CppRedis.Lengths
import CppRedis.Bitfield
import CppRedis.Throwing
import CppRedis.Masters
import CppRedis.Standing
import CppRedis.Discarded
import CppRedis.Lib.Locks
import CppRedis.Locking
import CppRedis.LockedClient
import CppRedis.LockedSubscriber
import CppRedis.Lib.Options
import CppRedis.Sort
import CppRedis.Geo
import CppRedis.Shown
import CppRedis.Lib.Retry
import CppRedis.Episodes
import CppRedis.Notices
import CppRedis.Resolved
import CppRedis.Failover
import CppRedis.Lib.Service
import CppRedis.Runs
import CppRedis.Exchange
import CppRedis.Futures
import CppRedis.Written
import CppRedis.Lib.Relay
import CppRedis.Broadcast
import CppRedis.Cancelled
import CppRedis.Ranges
import CppRedis.Keyed
import CppRedis.Recognition
import CppRedis.Prompt
import CppRedis.Lookups
import CppRedis.Kill
import CppRedis.Publish
import CppRedis.Requests
import CppRedis.Lib.Condition
import CppRedis.Sleepers
