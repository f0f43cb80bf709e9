import BatchSync.Config.Basic
import BatchSync.Config.Error
import BatchSync.Number.Shortest

/-!
# Valid settings

Settings that name a size or an interval have to be positive, and a fraction has to lie between zero
and one. The first setting in the order of the sections that does not is reported.
-/

namespace BatchSync

/-- Requires a setting to be positive. -/
def requirePositive (key reason : String) (n : Nat) : Except ConfigError Unit :=
  if n = 0 then .error (.invalidValue key reason) else .ok ()

/-- Checks the settings of a channel. -/
def ChannelConfig.validate (c : ChannelConfig) : Except ConfigError Unit := do
  requirePositive "transport.channel.capacity"
    "channel capacity must be a positive number of records" c.capacity
  requirePositive "transport.channel.byteCapacity"
    "channel byte capacity must be a positive number of bytes" c.byteCapacity
  requirePositive "transport.channel.flowControlInterval"
    "flow control interval must be at least 1 millisecond" c.flowControlInterval

/-- Checks the settings of the exchangers. -/
def ExchangerConfig.validate (c : ExchangerConfig) : Except ConfigError Unit :=
  requirePositive "transport.exchanger.bufferSize" "exchanger buffer size must be positive"
    c.bufferSize

/-- Checks how records are moved. -/
def TransportConfig.validate (c : TransportConfig) : Except ConfigError Unit := do
  c.channel.validate
  c.exchanger.validate

/-- Checks how a group is run. -/
def TaskGroupConfig.validate (c : TaskGroupConfig) : Except ConfigError Unit := do
  requirePositive "container.taskGroup.channel"
    "a task group must be allowed to run at least one task" c.channel
  requirePositive "container.taskGroup.reportInterval"
    "report interval must be at least 1 millisecond" c.reportInterval
  requirePositive "container.taskGroup.sleepInterval"
    "sleep interval must be at least 1 millisecond" c.sleepInterval

/-- Checks how a task is run. -/
def TaskConfig.validate (c : TaskConfig) : Except ConfigError Unit :=
  requirePositive "container.task.hangTimeoutMs" "hang timeout must be at least 1 millisecond"
    c.hangTimeout

/-- Checks how tasks are run. -/
def ContainerConfig.validate (c : ContainerConfig) : Except ConfigError Unit := do
  c.taskGroup.validate
  c.task.validate

/-- Whether a number lies between zero and one. -/
def isFraction (x : Binary64) : Bool := (Binary64.ofNat 0).le x && x.le (Binary64.ofNat 1)

/-- Checks a limit on dirty records. -/
def ErrorLimitConfig.validate (c : ErrorLimitConfig) : Except ConfigError Unit :=
  match c.percentage with
  | none => .ok ()
  | some x =>
    if isFraction x then .ok ()
    else
      .error (.invalidValue "job.errorLimit.percentage"
        ("expected a fraction between 0.0 and 1.0, found " ++ x.plainText))

/-- Checks what concerns the whole job. -/
def JobConfig.validate (c : JobConfig) : Except ConfigError Unit :=
  match c.errorLimit with
  | none => .ok ()
  | some limit => limit.validate

/-- Checks all settings. -/
def CoreConfig.validate (c : CoreConfig) : Except ConfigError Unit := do
  c.transport.validate
  c.container.validate
  c.job.validate

end BatchSync
