import AsyncEngine.Lib.Braun
import AsyncEngine.Lib.Presentation
import AsyncEngine.Lib.Run
import AsyncEngine.Lib.Measure
import AsyncEngine.Lib.Registry
import AsyncEngine.Lib.Pending
import AsyncEngine.Lib.Extent
import AsyncEngine.Lib.Fields
import AsyncEngine.IpParser.Grammar
import AsyncEngine.IpParser.Machine
import AsyncEngine.IpParser.Descent
import AsyncEngine.IpParser.Recognition
import AsyncEngine.IpParser.Classification
import AsyncEngine.IpParser.Address
import AsyncEngine.Engine.Ruby
import AsyncEngine.Engine.IpUtils
import AsyncEngine.Engine.State
import AsyncEngine.Engine.Timer
import AsyncEngine.Engine.Udp
import AsyncEngine.Engine.Tcp
import AsyncEngine.Engine.Procs
import AsyncEngine.Engine.Machine
import AsyncEngine.Engine.Effects
import AsyncEngine.Engine.Outstanding
import AsyncEngine.Engine.Steps
import AsyncEngine.Engine.Loop
import AsyncEngine.Engine.Unwinding
import AsyncEngine.Engine.Handles
import AsyncEngine.Engine.TcpMoves
import AsyncEngine.Engine.TcpLife
import AsyncEngine.Engine.TcpShutdown
import AsyncEngine.Engine.RunExit
import AsyncEngine.Engine.ErrorExit
import AsyncEngine.Engine.ThreadKill
import AsyncEngine.Engine.IpTypes
import AsyncEngine.Engine.Release
import AsyncEngine.Engine.Stopped
import AsyncEngine.Engine.TcpRequests
import AsyncEngine.Engine.Constructors
import AsyncEngine.Engine.Requests
import AsyncEngine.Engine.Queues
import AsyncEngine.Engine.Threads
import AsyncEngine.Engine.TimerMoves
import AsyncEngine.Engine.TimerRestart
import AsyncEngine.Engine.TimerLife
import AsyncEngine.Engine.UdpLife
import AsyncEngine.Engine.TcpErrors
import AsyncEngine.Engine.Lengths
import AsyncEngine.IpParser.Printing
import AsyncEngine.Engine.IpPort
import AsyncEngine.Engine.Datagrams
import AsyncEngine.Engine.OnExit
import AsyncEngine.Lib.Batches
import AsyncEngine.Engine.InternalHandles
import AsyncEngine.Engine.ConnectTimeout
import AsyncEngine.Engine.LoopEnds
import AsyncEngine.Engine.StopEnds
import AsyncEngine.Engine.Finished
import AsyncEngine.Engine.Resolution
import AsyncEngine.Engine.Collection
import AsyncEngine.Engine.Waiting
import AsyncEngine.Engine.Isolation
import AsyncEngine.Engine.Refinement
import AsyncEngine.Engine.Assertions
import AsyncEngine.Engine.Streams
import AsyncEngine.Engine.Confinement
