import VibeXperia.Lib.Run
import VibeXperia.Lib.Ring
import VibeXperia.Lib.Records
import VibeXperia.Lib.Region
import VibeXperia.Lib.Chain
import VibeXperia.Lib.Clock
import VibeXperia.Lib.Counting
import VibeXperia.Lib.Fifo
import VibeXperia.Lib.Format
import VibeXperia.Lib.Text
import VibeXperia.Lib.Buffer
import VibeXperia.Lib.Pending
import VibeXperia.Lib.Demand
import VibeXperia.Lib.RoundRobin
import VibeXperia.Lib.StableSort
import VibeXperia.Lib.Mailbox
import VibeXperia.Lib.Sharing
import VibeXperia.Lib.KeyedList
import VibeXperia.MultiHal.SensorEventQueue
import VibeXperia.MultiHal.Handles
import VibeXperia.MultiHal.SensorsList
import VibeXperia.MultiHal.Calls
import VibeXperia.MultiHal.Poll
import VibeXperia.MultiHal.Routing
import VibeXperia.MultiHal.Entry
import VibeXperia.MultiHal.Threads
import VibeXperia.MultiHal.Merge
import VibeXperia.MultiHal.Drops
import VibeXperia.MultiHal.Legacy
import VibeXperia.Gps.LinkedList
import VibeXperia.Gps.Framing
import VibeXperia.Gps.ListState
import VibeXperia.Gps.ListCalls
import VibeXperia.Gps.MsgQ
import VibeXperia.Gps.Ni
import VibeXperia.Gps.Registry
import VibeXperia.Gps.Engine
import VibeXperia.Gps.Session
import VibeXperia.Gps.SingleShot
import VibeXperia.Gps.Aiding
import VibeXperia.Gps.Thelper
import VibeXperia.Gps.Servers
import VibeXperia.Gps.Availability
import VibeXperia.Gps.LocTimer
import VibeXperia.Gps.Address
import VibeXperia.Gps.ApiConnection
import VibeXperia.Gps.Nmea
import VibeXperia.Gps.Conn
import VibeXperia.Gps.Config
import VibeXperia.Gps.TrimSpace
import VibeXperia.Agps.Subscriber
import VibeXperia.Agps.Machine
import VibeXperia.Agps.Requests
import VibeXperia.Agps.States
import VibeXperia.Agps.Clients
import VibeXperia.Agps.Framework
import VibeXperia.Agps.Store
import VibeXperia.Agps.Objects
import VibeXperia.Agps.Ds
import VibeXperia.Agps.DataCalls
import VibeXperia.Agps.Attempts
import VibeXperia.Agps.Identity
import VibeXperia.Sensord.Sensors
import VibeXperia.Sensord.Hw
import VibeXperia.Sensord.Algo
import VibeXperia.Sensord.Provider
import VibeXperia.Sensord.Channel
import VibeXperia.Sensord.Agreement
import VibeXperia.Sensord.Power
import VibeXperia.Sensord.Rates
import VibeXperia.Sensord.Wait
import VibeXperia.Sensord.Clients
import VibeXperia.Sensord.Axis
import VibeXperia.Sensord.Events
import VibeXperia.Sensord.CommandStream
import VibeXperia.Sensord.Delay
import VibeXperia.Sensord.Pressure
import VibeXperia.Sensord.Ticks
import VibeXperia.Sensord.Profile
import VibeXperia.Camera.Parameters
import VibeXperia.Camera.Buffers
import VibeXperia.Camera.Exposure
import VibeXperia.Shims.Looper
import VibeXperia.Shims.Vector
import VibeXperia.Shims.Vectors
import VibeXperia.Shims.SortedVector
import VibeXperia.Shims.GraphicBuffer
import VibeXperia.Proof.MultiHal.Queue
import VibeXperia.Proof.MultiHal.Handles
import VibeXperia.Proof.MultiHal.SensorsList
import VibeXperia.Proof.MultiHal.Routing
import VibeXperia.Proof.MultiHal.Entry
import VibeXperia.Proof.MultiHal.Threads
import VibeXperia.Proof.MultiHal.Merge
import VibeXperia.Proof.MultiHal.Drops
import VibeXperia.Proof.MultiHal.Legacy
import VibeXperia.Proof.Gps.Framing
import VibeXperia.Proof.Gps.ListState
import VibeXperia.Proof.Gps.ListCalls
import VibeXperia.Proof.Gps.MsgQ
import VibeXperia.Proof.Gps.Ni
import VibeXperia.Proof.Gps.NiAnswers
import VibeXperia.Proof.Gps.NiTime
import VibeXperia.Proof.Gps.Registry
import VibeXperia.Proof.Gps.Engine
import VibeXperia.Proof.Gps.Session
import VibeXperia.Proof.Gps.Restart
import VibeXperia.Proof.Gps.Muting
import VibeXperia.Proof.Gps.SingleShot
import VibeXperia.Proof.Gps.Aiding
import VibeXperia.Proof.Gps.Thelper
import VibeXperia.Proof.Gps.Shutdown
import VibeXperia.Proof.Gps.Servers
import VibeXperia.Proof.Gps.Availability
import VibeXperia.Proof.Gps.LocTimer
import VibeXperia.Proof.Gps.Address
import VibeXperia.Proof.Gps.Nmea
import VibeXperia.Proof.Gps.Conn
import VibeXperia.Proof.Gps.Config
import VibeXperia.Proof.Gps.TrimSpace
import VibeXperia.Proof.Agps.Machine
import VibeXperia.Proof.Agps.Clients
import VibeXperia.Proof.Agps.Sharing
import VibeXperia.Proof.Agps.Restart
import VibeXperia.Proof.Agps.Framework
import VibeXperia.Proof.Agps.Wifi
import VibeXperia.Proof.Agps.Store
import VibeXperia.Proof.Agps.Objects
import VibeXperia.Proof.Agps.Ds
import VibeXperia.Proof.Agps.DsCases
import VibeXperia.Proof.Agps.DataCalls
import VibeXperia.Proof.Agps.Attempts
import VibeXperia.Proof.Agps.Resubscribe
import VibeXperia.Proof.Agps.Identity
import VibeXperia.Proof.Sensord.Hw
import VibeXperia.Proof.Sensord.Algo
import VibeXperia.Proof.Sensord.Provider
import VibeXperia.Proof.Sensord.Enable
import VibeXperia.Proof.Sensord.Counts
import VibeXperia.Proof.Sensord.Start
import VibeXperia.Proof.Sensord.Agreement
import VibeXperia.Proof.Sensord.Handle
import VibeXperia.Proof.Sensord.PowerUp
import VibeXperia.Proof.Sensord.PowerDown
import VibeXperia.Proof.Sensord.Clients
import VibeXperia.Proof.Sensord.ClientTable
import VibeXperia.Proof.Sensord.Products
import VibeXperia.Proof.Sensord.Writes
import VibeXperia.Proof.Sensord.Boot
import VibeXperia.Proof.Sensord.Rates
import VibeXperia.Proof.Sensord.Wait
import VibeXperia.Proof.Sensord.Axis
import VibeXperia.Proof.Sensord.Events
import VibeXperia.Proof.Sensord.Delay
import VibeXperia.Proof.Sensord.Pressure
import VibeXperia.Proof.Sensord.Ticks
import VibeXperia.Proof.Sensord.Profile
import VibeXperia.Proof.Camera.Parameters
import VibeXperia.Proof.Camera.Buffers
import VibeXperia.Proof.Camera.Exposure
import VibeXperia.Proof.Shims.Looper
import VibeXperia.Proof.Shims.Wakeups
import VibeXperia.Proof.Shims.Responses
import VibeXperia.Proof.Shims.Registrations
import VibeXperia.Proof.Shims.Vector
import VibeXperia.Proof.Shims.Resizing
import VibeXperia.Proof.Shims.Sorting
import VibeXperia.Proof.Shims.VectorCalls
import VibeXperia.Proof.Shims.Vectors
import VibeXperia.Proof.Shims.SortedVector
import VibeXperia.Proof.Shims.Merging
import VibeXperia.Proof.Shims.Flattening
import VibeXperia.Proof.Shims.Ownership
import VibeXperia.Proof.Agps.Requests
import VibeXperia.Proof.Gps.ApiConnection
import VibeXperia.Proof.Sensord.CommandStream
import VibeXperia.Proof.Lights.Led
