import BatchSync.Number.Binary64

/-!
# Settings

The settings of the engine, in sections, each with its defaults. Times are in milliseconds.
-/

namespace BatchSync

/-- Ceilings of a channel's throughput per second. What is missing, zero or negative is no ceiling. -/
structure SpeedConfig where
  byte : Option Int := none
  record : Option Int := none
  deriving DecidableEq

/-- The channel between a reader and a writer. -/
structure ChannelConfig where
  /-- How many records may be queued. -/
  capacity : Nat := 512
  /-- How many bytes the queued records may take. -/
  byteCapacity : Nat := 67108864
  speed : SpeedConfig := {}
  /-- How often the throughput is sampled. -/
  flowControlInterval : Nat := 20
  deriving DecidableEq

/-- How readers and writers use their channel. -/
structure ExchangerConfig where
  /-- How many records go into the channel at a time. -/
  bufferSize : Nat := 32
  deriving DecidableEq

/-- How records are moved. -/
structure TransportConfig where
  channel : ChannelConfig := {}
  exchanger : ExchangerConfig := {}
  deriving DecidableEq

/-- How the tasks of a group are run. -/
structure TaskGroupConfig where
  /-- How many tasks run at a time. -/
  channel : Nat := 5
  /-- How often the group reports. -/
  reportInterval : Nat := 10000
  /-- How often a running task is looked at. -/
  sleepInterval : Nat := 100
  deriving DecidableEq

/-- What happens to tasks that fail. -/
structure FailoverConfig where
  /-- How often a failed task is tried again. -/
  maxRetryTimes : Nat := 1
  /-- How long to wait before that. -/
  retryInterval : Nat := 10000
  /-- How long to wait for the threads of a failed attempt. -/
  maxWait : Nat := 60000
  deriving DecidableEq

/-- How a task is run. -/
structure TaskConfig where
  failover : FailoverConfig := {}
  /-- How long a task may go without reading before it counts as hung. -/
  hangTimeout : Nat := 172800000
  deriving DecidableEq

/-- How tasks are run. -/
structure ContainerConfig where
  taskGroup : TaskGroupConfig := {}
  task : TaskConfig := {}
  deriving DecidableEq

/-- What is kept for reports. -/
structure StatisticsConfig where
  /-- How many dirty records of a task are kept. -/
  maxDirtyNumber : Nat := 10
  deriving DecidableEq

/-- How many dirty records a job may have. -/
structure ErrorLimitConfig where
  record : Option Nat := none
  /-- The largest fraction of all records. -/
  percentage : Option Binary64 := none
  deriving DecidableEq

/-- What concerns the whole job. -/
structure JobConfig where
  errorLimit : Option ErrorLimitConfig := none
  deriving DecidableEq

/-- All settings. -/
structure CoreConfig where
  transport : TransportConfig := {}
  container : ContainerConfig := {}
  statistics : StatisticsConfig := {}
  job : JobConfig := {}
  deriving DecidableEq

namespace SpeedConfig

/-- A ceiling, if the setting is positive. -/
def positive? : Option Int → Option Nat
  | some (.ofNat (n + 1)) => some (n + 1)
  | _ => none

/-- The ceiling on bytes. -/
def byteLimit? (s : SpeedConfig) : Option Nat := positive? s.byte

/-- The ceiling on records. -/
def recordLimit? (s : SpeedConfig) : Option Nat := positive? s.record

/-- Whether there is a ceiling. -/
def isLimited (s : SpeedConfig) : Bool := s.byteLimit?.isSome || s.recordLimit?.isSome

end SpeedConfig

/-- Whether all settings have their defaults. -/
def CoreConfig.isDefault (c : CoreConfig) : Bool := decide (c = {})

/-- The times that are set: flow control, reports, sleeping, hanging, waiting before and after
failures. -/
def CoreConfig.durations (c : CoreConfig) : List Nat :=
  [c.transport.channel.flowControlInterval, c.container.taskGroup.reportInterval,
    c.container.taskGroup.sleepInterval, c.container.task.hangTimeout,
    c.container.task.failover.retryInterval, c.container.task.failover.maxWait]

end BatchSync
