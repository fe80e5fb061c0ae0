import NmsLib.Params
import NmsLib.Float
import NmsLib.Oracle.Basic
import NmsLib.Oracle.Side
import NmsLib.Oracle.Metric
import NmsLib.Oracle.Mono
import NmsLib.Wrapper.ProjVPTree
import NmsLib.Wrapper.QueryTime
import NmsLib.Wrapper.DbScan
import NmsLib.Wrapper.Build
import NmsLib.Tune.RunExper
import NmsLib.Graph.Greedy
import NmsLib.Graph.SmallWorld
import NmsLib.Graph.Exhaustive
import NmsLib.Graph.Method
import NmsLib.Space.Stream
import NmsLib.Space.BitHamming
import NmsLib.Space.Vector
import NmsLib.Space.CrossRead
import NmsLib.Wrapper.PermBin
