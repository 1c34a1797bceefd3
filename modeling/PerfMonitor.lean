import PerfMonitor.Automaton.Run
import PerfMonitor.Automaton.Sections
import PerfMonitor.Average.Weighted
import PerfMonitor.Calendar.Gregorian
import PerfMonitor.Container.KeyWalk
import PerfMonitor.Container.UnorderedMap
import PerfMonitor.Counter.Growth
import PerfMonitor.Counter.Rounding
import PerfMonitor.Delivery.AtMostOnce
import PerfMonitor.Delivery.Collection
import PerfMonitor.Delivery.Link
import PerfMonitor.Delivery.NetworkScore
import PerfMonitor.Delivery.NewestSample
import PerfMonitor.Delivery.Restarts
import PerfMonitor.Frontend.SimpleApiServer
import PerfMonitor.Manager.Archive
import PerfMonitor.Manager.CalcScore
import PerfMonitor.Manager.ChangeRates
import PerfMonitor.Manager.Cleanup
import PerfMonitor.Manager.ClusterSnapshot
import PerfMonitor.Manager.ConcurrentQueries
import PerfMonitor.Manager.DeviceOrder
import PerfMonitor.Manager.GetBestHost
import PerfMonitor.Manager.History
import PerfMonitor.Manager.HostIdentity
import PerfMonitor.Manager.HostManager
import PerfMonitor.Manager.HostRecord
import PerfMonitor.Manager.ManagerProcess
import PerfMonitor.Manager.MysqlWriteLoop
import PerfMonitor.Manager.OnlineHosts
import PerfMonitor.Manager.PageOffset
import PerfMonitor.Manager.QueryBestHost
import PerfMonitor.Manager.QueryFairness
import PerfMonitor.Manager.QueryManager
import PerfMonitor.Manager.QueryPages
import PerfMonitor.Manager.QueryService
import PerfMonitor.Manager.QueryText
import PerfMonitor.Manager.RetentionEvent
import PerfMonitor.Manager.RoundTrip
import PerfMonitor.Manager.ScheduleInvariant
import PerfMonitor.Manager.SchedulingFairness
import PerfMonitor.Manager.ScoreMonotone
import PerfMonitor.Manager.Service
import PerfMonitor.Manager.StatementBuffers
import PerfMonitor.Manager.StopWakeup
import PerfMonitor.Manager.TimeRanges
import PerfMonitor.Manager.TimeZones
import PerfMonitor.Manager.WriteAtomicity
import PerfMonitor.Manager.WriteToMysql
import PerfMonitor.Memory.Seqlock
import PerfMonitor.Memory.Stores
import PerfMonitor.Paging.Pages
import PerfMonitor.PerCpu.Accounting
import PerfMonitor.PerCpu.Exact
import PerfMonitor.PerCpu.Hash
import PerfMonitor.Proto.MonitorInfo
import PerfMonitor.Queue.BoundedQueue
import PerfMonitor.Ranking.Leader
import PerfMonitor.RoundRobin.Smooth
import PerfMonitor.Sequence.Changes
import PerfMonitor.Table.Columns
import PerfMonitor.Table.Expiry
import PerfMonitor.Table.KeyedTable
import PerfMonitor.Table.Latest
import PerfMonitor.Table.Transaction
import PerfMonitor.Text.Extraction
import PerfMonitor.Text.SqlText
import PerfMonitor.Text.Words
import PerfMonitor.Worker.Backlog
import PerfMonitor.Worker.CallReadings
import PerfMonitor.Worker.CpuRows
import PerfMonitor.Worker.CpuStatMonitor
import PerfMonitor.Worker.CpuStatShared
import PerfMonitor.Worker.CpuTimeUnits
import PerfMonitor.Worker.DiskMonitor
import PerfMonitor.Worker.DiskRates
import PerfMonitor.Worker.DiskUtil
import PerfMonitor.Worker.LiveCpu
import PerfMonitor.Worker.LiveRates
import PerfMonitor.Worker.LiveSampling
import PerfMonitor.Worker.MemMonitor
import PerfMonitor.Worker.MetricCollector
import PerfMonitor.Worker.MonitorPusher
import PerfMonitor.Worker.NetEbpfMonitor
import PerfMonitor.Worker.NetStats
import PerfMonitor.Worker.NetTraffic
import PerfMonitor.Worker.ProcAttribution
import PerfMonitor.Worker.ProcStats
import PerfMonitor.Worker.RatesTelescope
import PerfMonitor.Worker.ReadFile
import PerfMonitor.Worker.RingBuffer
import PerfMonitor.Worker.RingBufferRuns
import PerfMonitor.Worker.TcHooks
import PerfMonitor.Worker.TopProcesses
import PerfMonitor.Worker.UndisturbedPass
